import LintBridge.Path.Basic

/-!
# Parts of a path

How much a path weighs, which is what the system bounds, and what is left of it behind
another path.  Taking a prefix away only takes pieces away.
-/

set_option autoImplicit false

namespace LintBridge.Path

/-! ## The weight of pieces -/

/-- The bytes of the pieces and the slashes behind them. -/
def weight : List String → Nat
  | [] => 0
  | piece :: rest => (Text.Stray.bytes piece).length + 1 + weight rest

theorem weight_cons (piece : String) (rest : List String) :
    weight (piece :: rest) = (Text.Stray.bytes piece).length + 1 + weight rest := rfl

theorem weight_append (before after : List String) :
    weight (before ++ after) = weight before + weight after := by
  induction before with
  | nil => simp [weight]
  | cons piece rest ih =>
      rw [List.cons_append, weight_cons, weight_cons, ih]
      omega

theorem weight_le_of_sublist {pieces others : List String} (part : pieces.Sublist others) :
    weight pieces ≤ weight others := by
  induction part with
  | slnil => exact Nat.le_refl _
  | cons piece _ ih =>
      rw [weight_cons]
      omega
  | cons_cons piece _ ih =>
      rw [weight_cons, weight_cons]
      omega

theorem length_slash : (Text.Stray.bytes "/").length = 1 := by
  decide +kernel

theorem length_bytes (path : Path) (some_ : path.pieces ≠ []) :
    path.bytes.length + 1 = weight path.pieces := by
  obtain ⟨pieces⟩ := path
  simp only [bytes, kept]
  induction pieces with
  | nil => exact absurd rfl some_
  | cons piece rest ih =>
      cases rest with
      | nil => simp [weight, Text.Stray.bytes]
      | cons next others =>
          have slash := length_slash
          have again := ih (by simp)
          rw [weight_cons, ← again]
          simp only [Text.Stray.bytes, String.toList_intercalate, List.map_cons,
            List.intercalate_cons_cons, List.flatMap_append, List.length_append] at slash ⊢
          omega

theorem mem_kept {c : Char} (differs : c ≠ '/') (path : Path) :
    c ∈ path.kept.toList ↔ ∃ piece ∈ path.pieces, c ∈ piece.toList := by
  obtain ⟨pieces⟩ := path
  simp only [kept, String.toList_intercalate]
  induction pieces with
  | nil => simp
  | cons piece rest ih =>
      cases rest with
      | nil => simp
      | cons next others =>
          rw [List.map_cons, List.map_cons, List.intercalate_cons_cons, ← List.map_cons,
            List.mem_append, List.mem_append, ih]
          simp [differs]

/-! ## The pieces that stand for something -/

def counting (pieces : List String) : List String :=
  pieces.filter (!isIdle ·)

theorem counting_cons_idle {piece : String} (nothing : isIdle piece = true)
    (rest : List String) : counting (piece :: rest) = counting rest := by
  simp [counting, nothing]

theorem counting_cons {piece : String} (counts : isIdle piece = false)
    (rest : List String) : counting (piece :: rest) = piece :: counting rest := by
  simp [counting, counts]

theorem counting_append (before after : List String) :
    counting (before ++ after) = counting before ++ counting after :=
  List.filter_append ..

theorem isIdle_of_mem_counting {pieces : List String} {piece : String}
    (member : piece ∈ counting pieces) : isIdle piece = false := by
  simpa using (List.mem_filter.1 member).2

theorem componentOf_inj {first second : String} (counts : isIdle first = false)
    (counts' : isIdle second = false) (same : componentOf first = componentOf second) :
    first = second := by
  have noDot : first ≠ "." := by
    rintro rfl
    cases counts
  have noDot' : second ≠ "." := by
    rintro rfl
    cases counts'
  unfold componentOf at same
  rw [if_neg noDot, if_neg noDot'] at same
  split at same
  next up =>
    split at same
    next up' => rw [up, up']
    next => cases same
  next =>
    split at same
    · cases same
    · cases same
      rfl

theorem componentOf_ne {piece : String} (counts : isIdle piece = false) :
    componentOf piece ≠ .root ∧ componentOf piece ≠ .current := by
  have noDot : piece ≠ "." := by
    rintro rfl
    cases counts
  unfold componentOf
  rw [if_neg noDot]
  split <;> simp

/-- The component that a path begins with and that is no name. -/
def opening (path : Path) : List Component :=
  if path.isAbsolute then [.root] else if path.pieces.head? = some "." then [.current] else []

theorem components_eq (path : Path) :
    path.components = path.opening ++ (counting path.body).map componentOf := by
  unfold components opening
  by_cases absolute : path.isAbsolute = true
  · rw [if_pos absolute, if_pos absolute]
    rfl
  · have body : path.body = path.pieces := if_neg absolute
    rw [if_neg absolute, if_neg absolute, body]
    split
    next rest same => simp [same, innerComponents, counting, isIdle]
    next other =>
      rw [if_neg]
      · rfl
      · intro dot
        obtain ⟨rest, same⟩ : ∃ rest, path.pieces = "." :: rest := by
          cases pieces : path.pieces with
          | nil => simp [pieces] at dot
          | cons first rest => exact ⟨rest, by simpa [pieces] using dot⟩
        exact other rest same

/-! ## Behind a prefix -/

theorem exists_front (n : Nat) (pieces : List String) :
    ∃ front, pieces = front ++ dropNames n pieces ∧ counting front = (counting pieces).take n ∧
      ∀ first ∈ (dropNames n pieces).head?, isIdle first = false := by
  induction pieces generalizing n with
  | nil => exact ⟨[], by simp [dropNames], by simp [counting], by simp [dropNames]⟩
  | cons piece rest ih =>
      by_cases nothing : isIdle piece = true
      · obtain ⟨front, whole, counted, begins⟩ := ih n
        have same : dropNames n (piece :: rest) = dropNames n rest := by
          cases n <;> simp [dropNames, nothing]
        rw [same]
        refine ⟨piece :: front, congrArg (piece :: ·) whole, ?_, begins⟩
        rw [counting_cons_idle nothing, counting_cons_idle nothing, counted]
      · have counts : isIdle piece = false := by simpa using nothing
        cases n with
        | zero =>
            have same : dropNames 0 (piece :: rest) = piece :: rest := by
              simp [dropNames, counts]
            rw [same]
            exact ⟨[], rfl, rfl, by simpa using counts⟩
        | succ n =>
            obtain ⟨front, whole, counted, begins⟩ := ih n
            have same : dropNames (n + 1) (piece :: rest) = dropNames n rest := by
              simp [dropNames, counts]
            rw [same]
            refine ⟨piece :: front, congrArg (piece :: ·) whole, ?_, begins⟩
            rw [counting_cons counts, counting_cons counts, counted, List.take_succ_cons]

theorem exists_tail (pieces : List String) :
    ∃ tail, pieces = trimEnd pieces ++ tail ∧ ∀ piece ∈ tail, isIdle piece = true := by
  refine ⟨(pieces.reverse.takeWhile isIdle).reverse, ?_, ?_⟩
  · rw [trimEnd, ← List.reverse_append, List.takeWhile_append_dropWhile, List.reverse_reverse]
  · intro piece member
    exact List.all_eq_true.1 List.all_takeWhile piece (List.mem_reverse.1 member)

/-- What is left of a path behind another one. -/
structure Cut (path root : Path) (front middle tail : List String) : Prop where
  whole : path.body = front ++ middle ++ tail
  same : counting front = counting root.body
  idle : ∀ piece ∈ tail, isIdle piece = true
  begins : ∀ first ∈ middle.head?, isIdle first = false
  absolute : path.isAbsolute = root.isAbsolute

theorem take_of_map_begins {pieces others : List String}
    (counts : ∀ piece ∈ pieces, isIdle piece = false)
    (counts' : ∀ piece ∈ others, isIdle piece = false)
    (begins : pieces.map componentOf <+: others.map componentOf) :
    pieces = others.take pieces.length := by
  induction pieces generalizing others with
  | nil => simp
  | cons piece rest ih =>
      cases others with
      | nil => simp at begins
      | cons other others =>
          rw [List.map_cons, List.map_cons, List.cons_prefix_cons] at begins
          have first := componentOf_inj (counts piece List.mem_cons_self)
            (counts' other List.mem_cons_self) begins.1
          have later := ih (fun piece member => counts piece (List.mem_cons_of_mem _ member))
            (fun piece member => counts' piece (List.mem_cons_of_mem _ member)) begins.2
          rw [List.length_cons, List.take_succ_cons, ← later, first]

theorem exists_cut_of_take {path root : Path} {lead pieces : List String}
    (whole : path.body = lead ++ pieces) (nothing : counting lead = [])
    (taken : counting root.body = (counting pieces).take (counting root.body).length)
    (absolute : path.isAbsolute = root.isAbsolute) :
    ∃ front tail, path.Cut root front
      (trimEnd (dropNames (counting root.body).length pieces)) tail := by
  obtain ⟨front, split, counted, begins⟩ := exists_front (counting root.body).length pieces
  obtain ⟨tail, rest, idle⟩ := exists_tail (dropNames (counting root.body).length pieces)
  refine ⟨lead ++ front, tail, ?_, ?_, idle, ?_, absolute⟩
  · rw [whole, List.append_assoc, List.append_assoc, ← rest, ← split]
  · rw [counting_append, nothing, List.nil_append, counted, ← taken]
  · intro first member
    refine begins first ?_
    rw [rest, List.head?_append]
    rw [Option.mem_def] at member ⊢
    rw [member]
    rfl

theorem opening_cases (path : Path) :
    path.opening = [.root] ∧ path.isAbsolute = true ∨
      path.opening = [.current] ∧ path.isAbsolute = false ∧ (∃ rest, path.pieces = "." :: rest) ∨
        path.opening = [] ∧ path.isAbsolute = false ∧ ∀ rest, path.pieces ≠ "." :: rest := by
  unfold opening
  by_cases absolute : path.isAbsolute = true
  · exact .inl ⟨if_pos absolute, absolute⟩
  · right
    rw [if_neg absolute]
    cases pieces : path.pieces with
    | nil => exact .inr ⟨rfl, by simpa using absolute, by simp⟩
    | cons first rest =>
        by_cases dot : first = "."
        · subst dot
          exact .inl ⟨rfl, by simpa using absolute, rest, rfl⟩
        · exact .inr ⟨by simp [dot], by simpa using absolute, by simp [dot]⟩

theorem opening_not_begins {first : Component} {rest : List Component} {pieces : List String}
    (special : first = .root ∨ first = .current) (counts : ∀ piece ∈ pieces, isIdle piece = false) :
    ¬ first :: rest <+: pieces.map componentOf := by
  intro begins
  cases pieces with
  | nil => simp at begins
  | cons piece others =>
      rw [List.map_cons, List.cons_prefix_cons] at begins
      have other := componentOf_ne (counts piece List.mem_cons_self)
      rcases special with rfl | rfl
      · exact other.1 begins.1.symm
      · exact other.2 begins.1.symm

/-- A relative path that is not empty has a piece that counts, or begins with a dot. -/
theorem counting_ne_nil {path : Path} (proper : path.pieces ≠ []) (some_ : path ≠ empty)
    (relative : path.isAbsolute = false) (noDot : ∀ rest, path.pieces ≠ "." :: rest) :
    counting path.body ≠ [] := by
  obtain ⟨pieces⟩ := path
  have body : (Path.mk pieces).body = pieces := if_neg (by simp [relative])
  rw [body]
  cases pieces with
  | nil => exact absurd rfl proper
  | cons first rest =>
      have counts : isIdle first = false := by
        by_cases blank : first = ""
        · subst blank
          cases rest with
          | nil => exact absurd rfl some_
          | cons second others => simp [isAbsolute] at relative
        · have other : first ≠ "." := fun dot => noDot rest (by rw [dot])
          simp [isIdle, blank, other]
      rw [counting_cons counts]
      simp

theorem exists_cut {path root rest : Path} (proper : root.pieces ≠ []) (some_ : root ≠ empty)
    (strips : path.stripPrefix? root = some rest) :
    ∃ front middle tail, path.Cut root front middle tail ∧ rest = rebuild false middle := by
  unfold stripPrefix? at strips
  split at strips
  next begins =>
    cases strips
    rw [List.isPrefixOf_iff_prefix, components_eq, components_eq] at begins
    rw [components_eq root]
    have counts (path : Path) : ∀ piece ∈ counting path.body, isIdle piece = false :=
      fun piece => isIdle_of_mem_counting
    rcases root.opening_cases with ⟨top, abs⟩ | ⟨dot, rel, others, pieces⟩ | ⟨plain, rel, noDot⟩
    · rw [top] at begins ⊢
      rcases path.opening_cases with ⟨top', abs'⟩ | ⟨dot', -⟩ | ⟨plain', -⟩
      · rw [top', List.singleton_append, List.singleton_append, List.cons_prefix_cons] at begins
        have taken := take_of_map_begins (counts root) (counts path) begins.2
        have whole : path.body = [] ++ path.body := rfl
        obtain ⟨front, tail, cut⟩ := exists_cut_of_take whole rfl taken (abs'.trans abs.symm)
        refine ⟨front, _, tail, cut, ?_⟩
        simp [behind, abs']
      · rw [dot', List.singleton_append, List.singleton_append, List.cons_prefix_cons] at begins
        cases begins.1
      · rw [plain', List.singleton_append, List.nil_append] at begins
        exact absurd begins (opening_not_begins (.inl rfl) (counts path))
    · rw [dot] at begins ⊢
      rcases path.opening_cases with ⟨top', -⟩ | ⟨dot', rel', others', pieces'⟩ | ⟨plain', -⟩
      · rw [top', List.singleton_append, List.singleton_append, List.cons_prefix_cons] at begins
        cases begins.1
      · rw [dot', List.singleton_append, List.singleton_append, List.cons_prefix_cons] at begins
        have taken := take_of_map_begins (counts root) (counts path) begins.2
        have body : path.body = ["."] ++ others' := by
          rw [body, if_neg (by simp [rel']), pieces']
          rfl
        have skipped : counting path.body = counting others' := by
          rw [body, counting_append]
          rfl
        rw [skipped] at taken
        obtain ⟨front, tail, cut⟩ := exists_cut_of_take body rfl taken (rel'.trans rel.symm)
        refine ⟨front, _, tail, cut, ?_⟩
        simp [behind, rel', pieces']
      · rw [plain', List.singleton_append, List.nil_append] at begins
        exact absurd begins (opening_not_begins (.inr rfl) (counts path))
    · have more := counting_ne_nil proper some_ rel noDot
      rw [plain, List.nil_append] at begins ⊢
      obtain ⟨first, others, same⟩ := List.exists_cons_of_ne_nil more
      have special := componentOf_ne (counts root first (by rw [same]; simp))
      rcases path.opening_cases with ⟨top', -⟩ | ⟨dot', -⟩ | ⟨plain', rel', noDot'⟩
      · rw [top', same, List.map_cons, List.singleton_append, List.cons_prefix_cons] at begins
        exact absurd begins.1 special.1
      · rw [dot', same, List.map_cons, List.singleton_append, List.cons_prefix_cons] at begins
        exact absurd begins.1 special.2
      · rw [plain', List.nil_append] at begins
        have taken := take_of_map_begins (counts root) (counts path) begins
        have whole : path.body = [] ++ path.body := rfl
        obtain ⟨front, tail, cut⟩ := exists_cut_of_take whole rfl taken (rel'.trans rel.symm)
        refine ⟨front, _, tail, cut, ?_⟩
        have body : path.body = path.pieces := if_neg (by simp [rel'])
        rw [List.length_map, same, List.length_cons, behind, if_neg (by simp [rel']), body]
        split
        next rest dotted => exact absurd dotted (noDot' rest)
        next => rfl
  next => cases strips

end LintBridge.Path
