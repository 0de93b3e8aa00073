import LintBridge.Proofs.Markup.Spelling
import LintBridge.Proofs.Text.Basic

/-!
# Reading spelled documents

The reader takes in each part of a spelled document and stands again between tags.
`Reads` says this of a piece of text, whatever lies behind or follows, so that the
pieces can be put together along the grammar.
-/

set_option autoImplicit false

namespace LintBridge.Markup

/-- Where a reader stands, apart from the bytes that it counts. -/
structure Stand where
  mode : Mode
  names : List String

namespace Reader

/-- A text leads a reader from one stand to another and completes some events. -/
def Reads (before : Stand) (text : List Char) (events : List Event) (after : Stand) : Prop :=
  ∀ (offset start : Nat) (done : List Event) (rest : List Char), ∃ offset' start',
    run ⟨before.mode, offset, start, before.names⟩ done (text ++ rest)
      = run ⟨after.mode, offset', start', after.names⟩ (events.reverse ++ done) rest

namespace Reads

theorem refl (stand : Stand) : Reads stand [] [] stand :=
  fun offset start _ _ => ⟨offset, start, rfl⟩

theorem trans {before between after : Stand} {first second : List Char}
    {sooner later : List Event} (left : Reads before first sooner between)
    (right : Reads between second later after) :
    Reads before (first ++ second) (sooner ++ later) after := by
  intro offset start done rest
  obtain ⟨offset', start', half⟩ := left offset start done (second ++ rest)
  obtain ⟨offset'', start'', whole⟩ := right offset' start' (sooner.reverse ++ done) rest
  refine ⟨offset'', start'', ?_⟩
  rw [List.append_assoc, half, whole, List.reverse_append, List.append_assoc]

theorem of_step {before after : Stand} {c : Char} {event? : Option Event}
    (steps : ∀ offset start, ∃ offset' start',
      step ⟨before.mode, offset, start, before.names⟩ c
        = .ok (event?, ⟨after.mode, offset', start', after.names⟩)) :
    Reads before [c] event?.toList after := by
  intro offset start done rest
  obtain ⟨offset', start', stepped⟩ := steps offset start
  refine ⟨offset', start', ?_⟩
  rw [List.singleton_append, run, stepped]
  cases event? <;> rfl

theorem of_move {names : List String} {mode mode' : Mode} {c : Char}
    (moves : ∀ offset start,
      step ⟨mode, offset, start, names⟩ c = .ok (move ⟨mode, offset, start, names⟩ c mode')) :
    Reads ⟨mode, names⟩ [c] [] ⟨mode', names⟩ :=
  @of_step ⟨mode, names⟩ ⟨mode', names⟩ c none fun offset start => ⟨_, _, moves offset start⟩

theorem of_pass {names : List String} {mode : Mode} {c : Char}
    (passes : ∀ offset start,
      step ⟨mode, offset, start, names⟩ c = .ok (pass ⟨mode, offset, start, names⟩ c)) :
    Reads ⟨mode, names⟩ [c] [.aside] ⟨.text, names⟩ :=
  @of_step ⟨mode, names⟩ ⟨.text, names⟩ c (some .aside) fun offset start =>
    ⟨_, _, passes offset start⟩

theorem cons {before between after : Stand} {c : Char} {text : List Char} {events : List Event}
    (first : Reads before [c] [] between) (later : Reads between text events after) :
    Reads before (c :: text) events after :=
  first.trans later

end Reads

section

variable (names : List String)

/-! ## Between tags -/

theorem reads_text {text : List Char} (plain : '<' ∉ text) :
    Reads ⟨.text, names⟩ text [] ⟨.text, names⟩ := by
  induction text with
  | nil => exact .refl _
  | cons c text ih =>
      rw [List.mem_cons, not_or] at plain
      have first : Reads ⟨.text, names⟩ [c] [] ⟨.text, names⟩ :=
        .of_move fun offset start => by simp only [step, if_neg (Ne.symm plain.1)]
      exact first.cons (ih plain.2)

/-- In a mode that counts the marks just met, a bracket behind two of them closes. -/
def Counts (mode : Nat → Mode) (mark : Char) : Prop :=
  ∀ n offset start names c, step ⟨mode n, offset, start, names⟩ c
    = if c = mark then .ok (move ⟨mode n, offset, start, names⟩ c (mode (n + 1)))
      else if c = '>' && 2 ≤ n then .ok (pass ⟨mode n, offset, start, names⟩ c)
      else .ok (move ⟨mode n, offset, start, names⟩ c (mode 0))

theorem counts_comment : Counts .comment '-' :=
  fun _ _ _ _ _ => rfl

theorem counts_data : Counts .data ']' :=
  fun _ _ _ _ _ => rfl

/-- A body without two marks and a bracket is passed through, up to two marks. -/
theorem Counts.reads_body {mode : Nat → Mode} {mark : Char} (counts : Counts mode mark)
    {body : List Char} {n : Nat}
    (inside : ¬ [mark, mark, '>'] <:+: List.replicate n mark ++ body) :
    ∃ m, 2 ≤ m ∧ Reads ⟨mode n, names⟩ (body ++ [mark, mark]) [] ⟨mode m, names⟩ := by
  have marks : ∀ n, Reads ⟨mode n, names⟩ [mark] [] ⟨mode (n + 1), names⟩ :=
    fun n => .of_move fun offset start => by rw [counts, if_pos rfl]
  -- The marks just met may be the first of three that close, so their number is carried along.
  induction body generalizing n with
  | nil => exact ⟨n + 2, by omega, (marks n).cons (marks (n + 1))⟩
  | cons c body ih =>
      by_cases again : c = mark
      · subst c
        have counted : List.replicate (n + 1) mark ++ body
            = List.replicate n mark ++ mark :: body := by
          rw [List.replicate_succ', List.append_assoc, List.singleton_append]
        obtain ⟨m, enough, later⟩ := ih (n := n + 1) (counted ▸ inside)
        exact ⟨m, enough, (marks n).cons later⟩
      · have early : ¬ (c = '>' && 2 ≤ n) = true := by
          rw [Bool.and_eq_true, decide_eq_true_eq, decide_eq_true_eq]
          rintro ⟨rfl, enough⟩
          obtain ⟨k, rfl⟩ := Nat.exists_eq_add_of_le' enough
          refine inside ⟨List.replicate k mark, body, ?_⟩
          simp only [List.replicate_succ', List.append_assoc]
          rfl
        have restarts : Reads ⟨mode n, names⟩ [c] [] ⟨mode 0, names⟩ :=
          .of_move fun offset start => by rw [counts, if_neg again, if_neg early]
        have further : ¬ [mark, mark, '>'] <:+: List.replicate 0 mark ++ body := by
          intro found
          have behind : body <:+ List.replicate n mark ++ c :: body :=
            ⟨List.replicate n mark ++ [c], by simp⟩
          exact inside (found.trans behind.isInfix)
        obtain ⟨m, enough, later⟩ := ih further
        exact ⟨m, enough, restarts.cons later⟩

theorem Counts.reads {mode : Nat → Mode} {mark : Char} (counts : Counts mode mark)
    (isMark : mark ≠ '>') {opening body : List Char}
    (opens : Reads ⟨.text, names⟩ opening [] ⟨mode 0, names⟩)
    (inside : ¬ [mark, mark, '>'] <:+: body) :
    Reads ⟨.text, names⟩ (opening ++ (body ++ [mark, mark, '>'])) [.aside] ⟨.text, names⟩ := by
  obtain ⟨m, enough, through⟩ := counts.reads_body names (n := 0) inside
  have closes : Reads ⟨mode m, names⟩ ['>'] [.aside] ⟨.text, names⟩ := by
    refine .of_pass fun offset start => ?_
    rw [counts, if_neg (Ne.symm isMark), if_pos]
    simp only [decide_true, enough, Bool.and_self]
  have whole := opens.trans (through.trans closes)
  rw [List.append_assoc body] at whole
  exact whole

theorem reads_instruction_body {body : List Char} {mark : Bool}
    (inside : ¬ ['?', '>'] <:+: (if mark then '?' :: body else body)) :
    Reads ⟨.instruction mark, names⟩ (body ++ ['?']) [] ⟨.instruction true, names⟩ := by
  induction body generalizing mark with
  | nil => exact .of_move fun offset start => rfl
  | cons c body ih =>
      have early : ¬ (c = '>' && mark) = true := by
        rw [Bool.and_eq_true, decide_eq_true_eq]
        rintro ⟨rfl, rfl⟩
        exact inside ⟨[], body, rfl⟩
      have first : Reads ⟨.instruction mark, names⟩ [c] [] ⟨.instruction (c = '?'), names⟩ :=
        .of_move fun offset start => by simp only [step, if_neg early]
      refine first.cons (ih fun found => inside ?_)
      have here : (if decide (c = '?') then '?' :: body else body) <:+ c :: body := by
        by_cases again : c = '?'
        · simp [again]
        · simp [again]
      cases mark with
      | false => exact found.trans here.isInfix
      | true => exact found.trans (here.trans (List.suffix_cons ..)).isInfix

theorem reads_instruction {body : List Char} (inside : ¬ ['?', '>'] <:+: '?' :: body) :
    Reads ⟨.text, names⟩ ("<?".toList ++ (body ++ "?>".toList)) [.aside] ⟨.text, names⟩ := by
  have opens : Reads ⟨.text, names⟩ "<?".toList [] ⟨.instructionOpening, names⟩ :=
    fun offset start done rest => ⟨_, _, rfl⟩
  have closes : Reads ⟨.instruction true, names⟩ ['>'] [.aside] ⟨.text, names⟩ :=
    .of_pass fun offset start => rfl
  -- Behind the opening a bracket is a fault, else it is as if a question mark had been met.
  have through : Reads ⟨.instructionOpening, names⟩ (body ++ ['?']) []
      ⟨.instruction true, names⟩ := by
    have known : Reads ⟨.instruction true, names⟩ (body ++ ['?']) [] ⟨.instruction true, names⟩ :=
      reads_instruction_body names inside
    cases body with
    | nil => exact .of_move fun offset start => rfl
    | cons c body =>
        have notClosed : c ≠ '>' := by
          rintro rfl
          exact inside ⟨[], body, rfl⟩
        intro offset start done rest
        obtain ⟨offset', start', same⟩ := known offset start done rest
        refine ⟨offset', start', ?_⟩
        rw [← same]
        simp [run, step, notClosed, move]
  have whole := opens.trans (through.trans closes)
  rw [List.append_assoc body] at whole
  exact whole

end

theorem reads_aside {text : List Char} (spells : SpellsAside text) :
    ∃ events, Spelled [] events ∧ ∀ names, Reads ⟨.text, names⟩ text events ⟨.text, names⟩ := by
  cases spells with
  | text plain => exact ⟨[], .nil, fun names => reads_text names plain⟩
  | comment inside =>
      exact ⟨_, .aside .nil, fun names => counts_comment.reads names (by decide)
        (fun offset start done rest => ⟨_, _, rfl⟩) inside⟩
  | data inside =>
      exact ⟨_, .aside .nil, fun names => counts_data.reads names (by decide)
        (fun offset start done rest => ⟨_, _, rfl⟩) inside⟩
  | instruction inside =>
      exact ⟨_, .aside .nil, fun names => reads_instruction names inside⟩

/-! ## Tags -/

/-- A text that leaves a reader inside a tag and outside its quotes. -/
def Inside (text : List Char) : Prop :=
  ∀ names reversed, Reads ⟨.tag none reversed, names⟩ text []
    ⟨.tag none (text.reverse ++ reversed), names⟩

namespace Inside

theorem nil : Inside [] :=
  fun _ _ => .refl _

theorem append {first second : List Char} (left : Inside first) (right : Inside second) :
    Inside (first ++ second) := by
  intro names reversed
  have whole := (left names reversed).trans (right names (first.reverse ++ reversed))
  rwa [← List.append_assoc, ← List.reverse_append] at whole

theorem char {c : Char} (plain : c ≠ '>') (unquoted : ¬ IsQuote c) : Inside [c] := by
  intro names reversed
  have quiet : ¬ (c = '"' || c = '\'') = true := by
    rwa [Bool.or_eq_true, decide_eq_true_eq, decide_eq_true_eq]
  exact .of_move fun offset start => by
    simp only [step, tagMode, if_neg plain, if_neg quiet, List.reverse_singleton,
      List.singleton_append]

theorem chars {text : List Char} (plain : ∀ c ∈ text, c ≠ '>' ∧ ¬ IsQuote c) : Inside text := by
  induction text with
  | nil => exact nil
  | cons c text ih =>
      obtain ⟨here, later⟩ := List.forall_mem_cons.mp plain
      exact (char here.1 here.2).append (ih later)

theorem gap {gap : List Char} (isGap : IsGap gap) : Inside gap := by
  refine chars fun c member => ⟨?_, ?_⟩
  · rintro rfl
    exact absurd (isGap '>' member) (by decide)
  · rintro (rfl | rfl)
    · exact absurd (isGap '"' member) (by decide)
    · exact absurd (isGap '\'' member) (by decide)

theorem name {name : List Char} (named : IsName name) : Inside name := by
  refine chars fun c member => ⟨named.ne member (by decide), ?_⟩
  rintro (quote | quote)
  · exact named.ne member (by decide) quote
  · exact named.ne member (by decide) quote

theorem value {quote : Char} {value : List Char} (enclosed : quote ∉ value)
    (names : List String) (reversed : List Char) :
    Reads ⟨.tag (some quote) reversed, names⟩ (value ++ [quote]) []
      ⟨.tag none ((value ++ [quote]).reverse ++ reversed), names⟩ := by
  induction value generalizing reversed with
  | nil => exact .of_move fun offset start => by simp [step, tagMode]
  | cons c value ih =>
      rw [List.mem_cons, not_or] at enclosed
      have first : Reads ⟨.tag (some quote) reversed, names⟩ [c] []
          ⟨.tag (some quote) (c :: reversed), names⟩ :=
        .of_move fun offset start => by
          simp only [step, tagMode, if_neg (Ne.symm enclosed.1)]
      have whole := first.cons (ih enclosed.2 (c :: reversed))
      simpa using whole

theorem quoted {quote : Char} {text : List Char} (isQuote : IsQuote quote)
    (enclosed : quote ∉ text) : Inside (quote :: (text ++ [quote])) := by
  intro names reversed
  have opens : Reads ⟨.tag none reversed, names⟩ [quote] []
      ⟨.tag (some quote) (quote :: reversed), names⟩ := by
    rcases isQuote with rfl | rfl
    · exact .of_move fun offset start => rfl
    · exact .of_move fun offset start => rfl
  have whole := opens.cons (value enclosed names (quote :: reversed))
  simpa using whole

theorem attributes {attributes : List Attribute} {text : List Char}
    (spells : SpellsAttributes attributes text) : Inside text := by
  induction spells with
  | nil behind => exact gap behind
  | cons first _ ih =>
      refine append ?_ ih
      cases first with
      | mk _ inFront named beforeSign behindSign isQuote enclosed =>
          have sign : Inside ['='] := char (by decide) (by rintro (sign | sign) <;> cases sign)
          have written := (gap behindSign).append (quoted isQuote enclosed)
          exact (gap inFront).append ((name named).append
            ((gap beforeSign).append (sign.append written)))

end Inside

variable (names : List String)

theorem reads_begun {c : Char} {content : List Char} (first : IsNameChar c ∨ c = '/')
    (inside : Inside content) :
    Reads ⟨.text, names⟩ ('<' :: c :: content) [] ⟨.tag none (c :: content).reverse, names⟩ := by
  have bracket : Reads ⟨.text, names⟩ ['<'] [] ⟨.opened, names⟩ :=
    @Reads.of_step _ _ _ none fun offset start => ⟨offset + 1, offset, rfl⟩
  have plain : ∀ other, ¬ IsNameChar other → other ≠ '/' → c ≠ other := by
    rintro other never notSlash rfl
    rcases first with named | slash
    · exact never named
    · exact notSlash slash
  have begun : Reads ⟨.opened, names⟩ [c] [] ⟨.tag none [c], names⟩ :=
    .of_move fun offset start => by
      simp [step, tagMode, plain '!' (by decide) (by decide), plain '?' (by decide) (by decide),
        plain '>' (by decide) (by decide), plain '"' (by decide) (by decide),
        plain '\'' (by decide) (by decide)]
  have whole := bracket.cons (begun.cons (inside names [c]))
  simpa using whole

theorem reads_completed {c : Char} {content : List Char} {event : Event} {next : List String}
    (first : IsNameChar c ∨ c = '/') (inside : Inside content)
    (completed : complete names (c :: content) = .ok (event, next)) :
    Reads ⟨.text, names⟩ ('<' :: c :: (content ++ ['>'])) [event] ⟨.text, next⟩ := by
  have closes : Reads ⟨.tag none (c :: content).reverse, names⟩ ['>'] [event] ⟨.text, next⟩ :=
    @Reads.of_step _ _ _ (some event) fun offset start => ⟨offset + 1, start, by
      simp only [step, tagMode, if_true, List.reverse_reverse, completed]⟩
  exact (reads_begun names first inside).trans closes

theorem content_spellsTag {name : List Char} {attributes : List Attribute} {tag : Tag}
    (spells : SpellsTag name attributes tag) :
    ∃ c rest, tag.content = c :: rest ∧ IsNameChar c ∧ Inside rest
      ∧ tag.content.getLast? ≠ some '/' := by
  cases spells with
  | @mk text _ named spells =>
      obtain ⟨nonempty, plain⟩ := named
      cases name with
      | nil => exact absurd rfl nonempty
      | cons c rest =>
          obtain ⟨here, later⟩ := List.forall_mem_cons.mp plain
          have tail : Inside rest := by
            cases rest with
            | nil => exact Inside.nil
            | cons d more => exact Inside.name ⟨by simp, later⟩
          refine ⟨c, rest ++ text, rfl, here, tail.append (Inside.attributes spells), ?_⟩
          apply spells.getLast?_ne
          intro last
          exact absurd (plain '/' (List.mem_of_getLast? last)) (by decide)

theorem complete_of_isNameChar {c : Char} (named : IsNameChar c) (rest : List Char) :
    complete names (c :: rest)
      = if (c :: rest).getLast? = some '/' then .ok (.empty ⟨(c :: rest).dropLast⟩, names)
        else .ok (.opening ⟨c :: rest⟩, (Tag.mk (c :: rest)).name :: names) := by
  have notSlash : c ≠ '/' := by
    rintro rfl
    exact absurd named (by decide)
  unfold complete
  split
  · rename_i same
    exact absurd (List.cons.inj same).1 notSlash
  · rfl

theorem reads_startTag {name : List Char} {attributes : List Attribute} {tag : Tag}
    (spells : SpellsTag name attributes tag) :
    Reads ⟨.text, names⟩ (startTag tag) [.opening tag] ⟨.text, tag.name :: names⟩ := by
  obtain ⟨content⟩ := tag
  obtain ⟨c, rest, same, named, inside, last⟩ := content_spellsTag spells
  obtain rfl : content = c :: rest := same
  refine reads_completed names (.inl named) inside ?_
  rw [complete_of_isNameChar names named, if_neg last]

theorem reads_emptyTag {name : List Char} {attributes : List Attribute} {tag : Tag}
    (spells : SpellsTag name attributes tag) :
    Reads ⟨.text, names⟩ (emptyTag tag) [.empty tag] ⟨.text, names⟩ := by
  obtain ⟨content⟩ := tag
  obtain ⟨c, rest, same, named, inside, -⟩ := content_spellsTag spells
  obtain rfl : content = c :: rest := same
  have slash : Inside ['/'] := Inside.char (by decide) (by rintro (same | same) <;> cases same)
  have completed : complete names (c :: (rest ++ ['/'])) = .ok (.empty ⟨c :: rest⟩, names) := by
    rw [complete_of_isNameChar names named, ← List.cons_append, List.getLast?_concat, if_pos rfl,
      List.dropLast_concat]
  have whole := reads_completed names (.inl named) (inside.append slash) completed
  rw [List.append_assoc] at whole
  exact whole

theorem endName_gap {name gap : List Char} (named : IsName name) (behind : IsGap gap) :
    endName (name ++ gap) = String.ofList name := by
  have notBlank : (name ++ gap).all isSpace = false := by
    cases name with
    | nil => exact absurd rfl named.nonempty
    | cons c rest =>
        rw [List.cons_append, List.all_cons, named.isSpace c (List.mem_cons_self ..),
          Bool.false_and]
  rw [endName, notBlank, if_neg (by decide),
    Text.reverse_dropWhile_after named.isSpace behind]

theorem reads_endTag {name gap : List Char} (named : IsName name) (behind : IsGap gap) :
    Reads ⟨.text, String.ofList name :: names⟩ (endTag name gap) [.closing] ⟨.text, names⟩ := by
  refine reads_completed _ (.inr rfl) ((Inside.name named).append (Inside.gap behind)) ?_
  simp only [complete, endName_gap named behind, if_true]

end Reader

/-! ## Documents -/

theorem SpellsContent.reads {elements : List Element} {text : List Char}
    (spells : SpellsContent elements text) :
    ∃ events, Spelled elements events ∧
      ∀ names, Reader.Reads ⟨.text, names⟩ text events ⟨.text, names⟩ := by
  induction spells with
  | nil => exact ⟨[], .nil, fun names => .refl _⟩
  | aside first _ ih =>
      obtain ⟨before, nothing, passes⟩ := Reader.reads_aside first
      obtain ⟨events, spelled, reads⟩ := ih
      exact ⟨before ++ events, nothing.append spelled,
        fun names => (passes names).trans (reads names)⟩
  | empty first _ ih =>
      obtain ⟨events, spelled, reads⟩ := ih
      exact ⟨_, .empty _ spelled,
        fun names => (Reader.reads_emptyTag names first).trans (reads names)⟩
  | @pair name gap attributes tag children elements inner rest first _ behind _ ihWithin ihLater =>
      obtain ⟨insideEvents, insideSpelled, insideReads⟩ := ihWithin
      obtain ⟨events, spelled, reads⟩ := ihLater
      refine ⟨_, .pair tag insideSpelled spelled, fun names => ?_⟩
      have closing : Reader.Reads ⟨.text, tag.name :: names⟩ (endTag name gap) [.closing]
          ⟨.text, names⟩ := by
        rw [first.name_eq]
        exact Reader.reads_endTag names first.named behind
      exact (Reader.reads_startTag names first).trans
        ((insideReads (tag.name :: names)).trans (closing.trans (reads names)))

theorem SpellsContent.of_mark {elements : List Element} {text : List Char}
    (spells : SpellsContent elements ('\uFEFF' :: text)) : SpellsContent elements text := by
  generalize whole : '\uFEFF' :: text = marked at spells
  -- An empty text may stand in front of the one that begins with the mark.
  induction spells with
  | nil => cases whole
  | @aside elements first rest aside later ih =>
      cases first with
      | nil => exact ih whole
      | cons c first =>
          obtain ⟨rfl, rfl⟩ := List.cons.inj whole
          refine .aside ?_ later
          cases aside with
          | text plain => exact .text fun member => plain (List.mem_cons_of_mem _ member)
  | empty _ _ _ => cases whole
  | pair _ _ _ _ _ _ => cases whole

/-- A text that spells a list of elements is read, to its end, as events that do. -/
theorem read_spellsContent {elements : List Element} {text : List Char}
    (spells : SpellsContent elements text) :
    ∃ events, read text = (events, none) ∧ Spelled elements events := by
  have runs : ∀ {text}, SpellsContent elements text →
      ∃ events, Reader.initial.run [] text = (events, none) ∧ Spelled elements events := by
    intro text spells
    obtain ⟨events, spelled, reads⟩ := spells.reads
    obtain ⟨offset, start, same⟩ := reads [] 0 0 [] []
    refine ⟨events, ?_, spelled⟩
    rw [List.append_nil, List.append_nil] at same
    rw [Reader.initial, same, Reader.run, List.reverse_reverse]
    rfl
  unfold read
  split
  · exact runs spells.of_mark
  · exact runs spells

end LintBridge.Markup
