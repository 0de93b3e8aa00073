import LintBridge.Markup.Attribute
import LintBridge.Proofs.Markup.Elements

/-!
# Spelled documents

Which texts spell a list of elements.  Tags, attributes and names are as in XML; where
the characters of names are concerned the grammar is wider than XML's.  Text, comments,
data sections and instructions may stand wherever a tag may.
-/

set_option autoImplicit false

namespace LintBridge.Markup

/-! ## Tags -/

/-- A character of a name. -/
def IsNameChar (c : Char) : Prop :=
  isSpace c = false ∧ c ∉ ['<', '>', '/', '=', '"', '\'', '&', '!', '?']

instance (c : Char) : Decidable (IsNameChar c) :=
  inferInstanceAs (Decidable (_ ∧ _))

/-- A name of an element or a key of an attribute. -/
structure IsName (name : List Char) : Prop where
  nonempty : name ≠ []
  plain : ∀ c ∈ name, IsNameChar c

instance (name : List Char) : Decidable (IsName name) :=
  have : Decidable (∀ c ∈ name, IsNameChar c) := List.decidableBAll ..
  decidable_of_iff (name ≠ [] ∧ ∀ c ∈ name, IsNameChar c)
    ⟨fun ⟨nonempty, plain⟩ => ⟨nonempty, plain⟩, fun ⟨nonempty, plain⟩ => ⟨nonempty, plain⟩⟩

/-- White space between the parts of a tag. -/
def IsGap (gap : List Char) : Prop :=
  ∀ c ∈ gap, isSpace c = true

instance (gap : List Char) : Decidable (IsGap gap) :=
  List.decidableBAll ..

def IsQuote (c : Char) : Prop :=
  c = '"' ∨ c = '\''

/-- The texts of an attribute, with the white space in front of it. -/
inductive SpellsAttribute : Attribute → List Char → Prop where
  | mk {gap key before after value : List Char} {quote : Char}
      (apart : gap ≠ []) (inFront : IsGap gap) (named : IsName key)
      (beforeSign : IsGap before) (behindSign : IsGap after)
      (isQuote : IsQuote quote) (enclosed : quote ∉ value) :
      SpellsAttribute ⟨String.ofList key, value⟩
        (gap ++ (key ++ (before ++ '=' :: (after ++ quote :: (value ++ [quote])))))

/-- The texts of the attributes of a tag, with the white space behind the last. -/
inductive SpellsAttributes : List Attribute → List Char → Prop where
  | nil {gap : List Char} (behind : IsGap gap) : SpellsAttributes [] gap
  | cons {one : Attribute} {attributes : List Attribute} {text rest : List Char}
      (first : SpellsAttribute one text) (later : SpellsAttributes attributes rest) :
      SpellsAttributes (one :: attributes) (text ++ rest)

/-- The tags of an element with a name and attributes. -/
inductive SpellsTag : List Char → List Attribute → Tag → Prop where
  | mk {name text : List Char} {attributes : List Attribute} (named : IsName name)
      (spells : SpellsAttributes attributes text) : SpellsTag name attributes ⟨name ++ text⟩

def startTag (tag : Tag) : List Char :=
  '<' :: (tag.content ++ ['>'])

def emptyTag (tag : Tag) : List Char :=
  '<' :: (tag.content ++ ['/', '>'])

def endTag (name gap : List Char) : List Char :=
  '<' :: '/' :: (name ++ gap ++ ['>'])

/-! ## Content -/

/-- The texts without structure that may stand between tags. -/
inductive SpellsAside : List Char → Prop where
  | text {text : List Char} (plain : '<' ∉ text) : SpellsAside text
  | comment {body : List Char} (inside : ¬ ['-', '-', '>'] <:+: body) :
      SpellsAside ("<!--".toList ++ (body ++ "-->".toList))
  | data {body : List Char} (inside : ¬ [']', ']', '>'] <:+: body) :
      SpellsAside ("<![CDATA[".toList ++ (body ++ "]]>".toList))
  | instruction {body : List Char} (inside : ¬ ['?', '>'] <:+: '?' :: body) :
      SpellsAside ("<?".toList ++ (body ++ "?>".toList))

/-- The texts of a list of elements. -/
inductive SpellsContent : List Element → List Char → Prop where
  | nil : SpellsContent [] []
  | aside {elements : List Element} {text rest : List Char} (first : SpellsAside text)
      (later : SpellsContent elements rest) : SpellsContent elements (text ++ rest)
  | empty {name : List Char} {attributes : List Attribute} {tag : Tag}
      {elements : List Element} {rest : List Char} (spells : SpellsTag name attributes tag)
      (later : SpellsContent elements rest) :
      SpellsContent (.mk tag [] :: elements) (emptyTag tag ++ rest)
  | pair {name gap : List Char} {attributes : List Attribute} {tag : Tag}
      {children elements : List Element} {inner rest : List Char}
      (spells : SpellsTag name attributes tag) (within : SpellsContent children inner)
      (behind : IsGap gap) (later : SpellsContent elements rest) :
      SpellsContent (.mk tag children :: elements)
        (startTag tag ++ (inner ++ (endTag name gap ++ rest)))

/-! ## What follows from the spelling -/

theorem IsName.isSpace {name : List Char} (named : IsName name) :
    ∀ c ∈ name, Markup.isSpace c = false :=
  fun c member => (named.plain c member).1

theorem IsName.ne {name : List Char} (named : IsName name) {c other : Char} (member : c ∈ name)
    (never : ¬ IsNameChar other) : c ≠ other := by
  rintro rfl
  exact never (named.plain c member)

theorem SpellsAttributes.begins {attributes : List Attribute} {text : List Char}
    (spells : SpellsAttributes attributes text) :
    text = [] ∨ ∃ c rest, text = c :: rest ∧ isSpace c = true := by
  cases spells with
  | nil behind =>
      cases text with
      | nil => exact .inl rfl
      | cons c rest => exact .inr ⟨c, rest, rfl, behind c (List.mem_cons_self ..)⟩
  | cons first later =>
      cases first with
      | @mk gap _ _ _ _ _ apart inFront =>
          cases gap with
          | nil => exact absurd rfl apart
          | cons c rest => exact .inr ⟨c, _, rfl, inFront c (List.mem_cons_self ..)⟩

theorem takeWhile_name {name text : List Char} {attributes : List Attribute}
    (named : IsName name) (spells : SpellsAttributes attributes text) :
    (name ++ text).takeWhile (!isSpace ·) = name := by
  have inside : ∀ c ∈ name, (!isSpace c) = true := by
    intro c member
    rw [named.isSpace c member]
    rfl
  rw [List.takeWhile_append_of_pos inside]
  rcases spells.begins with rfl | ⟨c, rest, rfl, space⟩
  · exact List.append_nil name
  · rw [List.takeWhile_cons, space]
    exact List.append_nil name

theorem SpellsTag.name_eq {name : List Char} {attributes : List Attribute} {tag : Tag}
    (spells : SpellsTag name attributes tag) : tag.name = String.ofList name := by
  cases spells with
  | mk named later => rw [Tag.name, takeWhile_name named later]

theorem SpellsTag.named {name : List Char} {attributes : List Attribute} {tag : Tag}
    (spells : SpellsTag name attributes tag) : IsName name := by
  cases spells with
  | mk named _ => exact named

theorem SpellsAttribute.ends {one : Attribute} {text : List Char}
    (spells : SpellsAttribute one text) :
    ∃ front quote, IsQuote quote ∧ text = front ++ [quote] := by
  cases spells with
  | @mk gap key before after value quote _ _ _ _ _ isQuote =>
      refine ⟨gap ++ (key ++ (before ++ '=' :: (after ++ quote :: value))), quote, isQuote, ?_⟩
      simp only [List.append_assoc, List.cons_append]

theorem SpellsAttributes.getLast?_ne {attributes : List Attribute} {text front : List Char}
    (spells : SpellsAttributes attributes text) (before : front.getLast? ≠ some '/') :
    (front ++ text).getLast? ≠ some '/' := by
  induction spells generalizing front with
  | @nil gap behind =>
      rcases List.eq_nil_or_concat gap with rfl | ⟨rest, c, rfl⟩
      · rwa [List.append_nil]
      · rw [List.concat_eq_append, ← List.append_assoc, List.getLast?_concat, ne_eq,
          Option.some.injEq]
        rintro rfl
        exact absurd (behind '/' (by simp)) (by decide)
  | cons first _ ih =>
      obtain ⟨most, quote, isQuote, rfl⟩ := first.ends
      rw [← List.append_assoc, ← List.append_assoc]
      apply ih
      rw [List.getLast?_concat, ne_eq, Option.some.injEq]
      rintro rfl
      rcases isQuote with same | same <;> exact absurd same (by decide)

end LintBridge.Markup
