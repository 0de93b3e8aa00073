import LintBridge.Proofs.Json.Escapes

/-!
# What the reader accepts

The reader accepts no text but those that spell a value.  `Asks` says for each of its states
what the rest of an accepted text is made of: the rest of the part that is under way, and
behind it what closes the containers that are open.  One character at a time, from the end of
the text to its start, this becomes the spelling of the whole.
-/

set_option autoImplicit false

namespace LintBridge.Json

namespace Reader

/-! ## What is open -/

/-- What stands behind a part up to the end of its container. -/
inductive Further {α : Type} (P : α → List Char → Prop) : List α → List Char → Prop where
  | none {gap : List Char} (blank : IsGap gap) : Further P [] gap
  | some {parts : List α} {gap others : List Char} (blank : IsGap gap)
      (joined : Joined P parts others) : Further P parts (gap ++ ',' :: others)

/-- The texts of a value inside so many containers. -/
abbrev SpellsInside (count : Nat) : Json → List Char → Prop :=
  Spells (deepest - count)

/-- What stands behind a value up to the end of the text, and what the text then spells. -/
inductive Behind (final : Json) : List Frame → Json → List Char → Prop where
  | outside {gap : List Char} (blank : IsGap gap) : Behind final [] final gap
  | list {items more : List Json} {outer : List Frame} {value : Json} {tail rest : List Char}
      (further : Further (SpellsItem (SpellsInside (outer.length + 1))) more tail)
      (later : Behind final outer (.array ((value :: items).reverse ++ more)) rest) :
      Behind final (.list items :: outer) value (tail ++ ']' :: rest)
  | record {members : Members} {more : List (String × Json)} {key : String}
      {outer : List Frame} {value : Json} {tail rest : List Char}
      (further : Further (SpellsMember (SpellsInside (outer.length + 1))) more tail)
      (later : Behind final outer
        (.object (more.foldl (fun done m => Members.insert m.1 m.2 done)
          (Members.insert key value members))) rest) :
      Behind final (.record members key :: outer) value (tail ++ '\x7d' :: rest)

/-- A value and what stands behind it. -/
inductive ValueDue (final : Json) (frames : List Frame) : List Char → Prop where
  | mk {gap text rest : List Char} {value : Json} (blank : IsGap gap)
      (spelled : SpellsInside frames.length value text)
      (later : Behind final frames value rest) : ValueDue final frames (gap ++ text ++ rest)

/-- Members, the end of their object and what stands behind it. -/
inductive MembersDue (final : Json) (members : Members) (outer : List Frame) :
    List Char → Prop where
  | mk {more : List (String × Json)} {body rest : List Char}
      (joined : Joined (SpellsMember (SpellsInside (outer.length + 1))) more body)
      (later : Behind final outer
        (.object (more.foldl (fun done m => Members.insert m.1 m.2 done) members)) rest) :
      MembersDue final members outer (body ++ '\x7d' :: rest)

/-- A colon, the value of a key and what stands behind it. -/
inductive ColonDue (final : Json) (frames : List Frame) : List Char → Prop where
  | mk {gap rest : List Char} (blank : IsGap gap) (later : ValueDue final frames rest) :
      ColonDue final frames (gap ++ ':' :: rest)

/-- The end of a container that gets nothing more, and what stands behind it. -/
inductive EndDue (final : Json) (last : Char) (outer : List Frame) (value : Json) :
    List Char → Prop where
  | mk {gap rest : List Char} (blank : IsGap gap) (later : Behind final outer value rest) :
      EndDue final last outer value (gap ++ last :: rest)

section

variable {final value : Json} {frames outer : List Frame} {text : List Char} {c : Char}

theorem isGap_cons {gap : List Char} (space : isSpace c = true) (blank : IsGap gap) :
    IsGap (c :: gap) :=
  List.forall_mem_cons.mpr ⟨space, blank⟩

theorem Further.cons_space {α : Type} {P : α → List Char → Prop} {parts : List α}
    (space : isSpace c = true) (further : Further P parts text) : Further P parts (c :: text) := by
  cases further with
  | none blank => exact .none (isGap_cons space blank)
  | some blank joined => exact .some (isGap_cons space blank) joined

theorem Behind.cons_space (space : isSpace c = true) (behind : Behind final frames value text) :
    Behind final frames value (c :: text) := by
  cases behind with
  | outside blank => exact .outside (isGap_cons space blank)
  | list further later => exact .list (further.cons_space space) later
  | record further later => exact .record (further.cons_space space) later

theorem ValueDue.cons_space (space : isSpace c = true) (due : ValueDue final frames text) :
    ValueDue final frames (c :: text) := by
  cases due with
  | mk blank spelled later => exact .mk (isGap_cons space blank) spelled later

theorem ColonDue.cons_space (space : isSpace c = true) (due : ColonDue final frames text) :
    ColonDue final frames (c :: text) := by
  cases due with
  | mk blank later => exact .mk (isGap_cons space blank) later

theorem EndDue.cons_space {last : Char} (space : isSpace c = true)
    (due : EndDue final last outer value text) : EndDue final last outer value (c :: text) := by
  cases due with
  | mk blank later => exact .mk (isGap_cons space blank) later

theorem spellsMember_cons_space {S : Json → List Char → Prop} {m : String × Json}
    (space : isSpace c = true) (spelled : SpellsMember S m text) : SpellsMember S m (c :: text) := by
  cases spelled with
  | mk front named back written => exact .mk (isGap_cons space front) named back written

theorem MembersDue.cons_space {members : Members} (space : isSpace c = true)
    (due : MembersDue final members outer text) : MembersDue final members outer (c :: text) := by
  cases due with
  | mk joined later =>
      cases joined with
      | one last => exact .mk (.one (spellsMember_cons_space space last)) later
      | more first others => exact .mk (.more (spellsMember_cons_space space first) others) later

theorem valueDue_here {written : List Char} (spelled : SpellsInside frames.length value written)
    (later : Behind final frames value text) : ValueDue final frames (written ++ text) :=
  @ValueDue.mk final frames [] written text value isGap_nil spelled later

theorem endDue_here {last : Char} (later : Behind final outer value text) :
    EndDue final last outer value (last :: text) :=
  @EndDue.mk final last outer value [] text isGap_nil later

/-- A value that is due in an array begins the rest of its items. -/
theorem ValueDue.items {items : List Json} (due : ValueDue final (.list items :: outer) text) :
    ∃ more body rest, Joined (SpellsItem (SpellsInside (outer.length + 1))) more body
      ∧ Behind final outer (.array (items.reverse ++ more)) rest ∧ text = body ++ ']' :: rest := by
  cases due with
  | @mk gap written _ value blank spelled later =>
      cases later with
      | @list _ more _ _ tail rest further later =>
          have whole : (value :: items).reverse ++ more = items.reverse ++ value :: more := by
            rw [List.reverse_cons, List.append_assoc, List.singleton_append]
          rw [whole] at later
          cases further with
          | none back => exact ⟨_, _, rest, .one (.mk blank spelled back), later, by simp⟩
          | some back joined =>
              exact ⟨_, _, rest, .more (.mk blank spelled back) joined, later, by simp⟩

/-- A key with what stands behind it begins the rest of the members. -/
theorem ColonDue.members {members : Members} {name : String} {written : List Char}
    (spelled : SpellsString name written)
    (due : ColonDue final (.record members name :: outer) text) :
    MembersDue final members outer (written ++ text) := by
  cases due with
  | mk between later =>
      cases later with
      | mk blank valued later =>
          cases later with
          | record further later =>
              cases further with
              | none back =>
                  have first := SpellsMember.mk isGap_nil spelled between (.mk blank valued back)
                  simpa using MembersDue.mk (.one first) later
              | some back joined =>
                  have first := SpellsMember.mk isGap_nil spelled between (.mk blank valued back)
                  simpa using MembersDue.mk (.more first joined) later

end

/-! ## What a state asks for -/

/-- The value that was delivered last, and the containers that it was delivered to, from what is
open and done behind it. -/
inductive Delivered : List Frame → Option Json → List Frame → Json → Prop where
  | outside {value : Json} : Delivered [] (some value) [] value
  | list {items : List Json} {outer : List Frame} {result : Option Json} {value : Json} :
      Delivered (.list (value :: items) :: outer) result (.list items :: outer) value
  | record {members : Members} {key : String} {outer : List Frame} {result : Option Json}
      {value : Json} :
      Delivered (.record (members.insert key value) key :: outer) result
        (.record members key :: outer) value

theorem delivered_deliver (r : Reader) (value : Json) :
    Delivered (r.deliver value).frames (r.deliver value).result r.frames value := by
  rcases r with ⟨_, frames, _, _⟩
  match frames with
  | [] => exact .outside
  | .list _ :: _ => exact .list
  | .record _ _ :: _ => exact .record

/-- What stands behind a string: a colon if it is a key. -/
def StringDue (final : Json) (frames : List Frame) (isKey : Bool) (string : String)
    (text : List Char) : Prop :=
  if isKey then
    ∀ members key outer, frames = .record members key :: outer →
      ColonDue final (.record members string :: outer) text
  else Behind final frames (.string string) text

/-- What the reader asks for up to the end of a text that spells a value.  Nothing is said of
states in which the innermost container is not the one that they are about. -/
def Asks (final : Json) (r : Reader) (text : List Char) : Prop :=
  match r.mode with
  | .value | .listNext => ValueDue final r.frames text
  | .listStart => ∀ items outer, r.frames = .list items :: outer →
      ValueDue final r.frames text ∨ EndDue final ']' outer (.array items.reverse) text
  | .recordStart => ∀ members key outer, r.frames = .record members key :: outer →
      MembersDue final members outer text ∨ EndDue final '\x7d' outer (.object members) text
  | .recordNext => ∀ members key outer, r.frames = .record members key :: outer →
      MembersDue final members outer text
  | .colon => ∀ members key outer, r.frames = .record members key :: outer →
      ColonDue final r.frames text
  | .after => ∀ frames value, Delivered r.frames r.result frames value →
      Behind final frames value text
  | .word left value => ∃ rest, text = left ++ rest ∧ Behind final r.frames value rest
  | .number n => ∃ digits last rest value, n.follow digits = some last ∧ last.value = .ok value
      ∧ text = digits ++ rest ∧ Behind final r.frames value rest
  | .string isKey reversed escape => Sound escape ∧ ∀ before, Reaches escape before →
      ∃ chars body rest, SpellsChars chars (before ++ body) ∧ text = body ++ '"' :: rest
        ∧ StringDue final r.frames isKey (String.ofList (reversed.reverse ++ chars)) rest

section

variable {final value : Json} {r r' : Reader} {text : List Char} {c : Char}

theorem behind_of_asks_deliver (asks : Asks final (r.deliver value) text) :
    Behind final r.frames value text := by
  unfold Asks at asks
  rw [deliver_mode] at asks
  exact asks _ _ (delivered_deliver r value)

theorem asks_string {isKey : Bool} {reversed : List Char} {escape : Escape}
    (mode : r.mode = .string isKey reversed escape)
    (stepped : r.stringStep isKey reversed escape c = .ok r') (asks : Asks final r' text) :
    Asks final r (c :: text) := by
  unfold Asks
  rw [mode]
  rcases stringStep_cases stepped with ⟨rfl, rfl, rfl⟩ | ⟨found?, next, moves, rfl⟩
  · refine ⟨trivial, fun before reached => ?_⟩
    cases reached
    refine ⟨[], [], text, .nil, rfl, ?_⟩
    rw [List.append_nil]
    cases isKey with
    | false => exact behind_of_asks_deliver asks
    | true =>
        intro members key outer inside
        rw [deliverText, if_pos rfl, inside] at asks
        exact asks _ _ _ rfl
  · obtain ⟨sound, asks⟩ := asks
    cases moves with
    | more alive reaches =>
        refine ⟨alive sound, fun before reached => ?_⟩
        obtain ⟨chars, body, rest, spelled, rfl, due⟩ := asks _ (reaches sound reached)
        refine ⟨chars, c :: body, rest, ?_, rfl, due⟩
        rwa [List.append_assoc] at spelled
    | @done found alive spells =>
        refine ⟨alive, fun before reached => ?_⟩
        obtain ⟨chars, body, rest, spelled, rfl, due⟩ := asks _ .none
        refine ⟨found :: chars, c :: body, rest, ?_, rfl, ?_⟩
        · have whole := SpellsChars.cons (spells reached) spelled
          rwa [List.append_assoc] at whole
        · rw [Option.toList_some, List.singleton_append, List.reverse_cons, List.append_assoc] at due
          exact due

theorem behind_of_proceed {frames : List Frame}
    (delivered : Delivered r.frames r.result frames value) (mode : r.mode = .after)
    (stepped : r.proceed c = .ok r') (asks : Asks final r' text) :
    Behind final frames value (c :: text) := by
  unfold proceed at stepped
  split at stepped
  case isTrue space =>
    cases stepped
    unfold Asks at asks
    rw [mode] at asks
    exact (asks _ _ delivered).cons_space space
  case isFalse =>
    rcases r with ⟨_, inside, result, _⟩
    cases delivered with
    | outside => cases stepped
    | @list items outer =>
        dsimp only at stepped
        split at stepped
        case isTrue comma =>
          cases stepped
          have due : ValueDue final (.list (value :: items) :: outer) text := asks
          obtain ⟨more, body, rest, joined, later, rfl⟩ := due.items
          rw [comma]
          exact .list (.some isGap_nil joined) later
        case isFalse =>
          split at stepped
          case isTrue bracket =>
            cases stepped
            have later := behind_of_asks_deliver asks
            rw [bracket]
            refine @Behind.list _ _ _ _ _ [] _ (.none isGap_nil) ?_
            rwa [List.append_nil]
          case isFalse => cases stepped
    | @record members key outer =>
        dsimp only at stepped
        split at stepped
        case isTrue comma =>
          cases stepped
          have due : MembersDue final (members.insert key value) outer text := asks _ _ _ rfl
          obtain ⟨joined, later⟩ := due
          rw [comma]
          exact .record (.some isGap_nil joined) later
        case isFalse =>
          split at stepped
          case isTrue bracket =>
            cases stepped
            have later := behind_of_asks_deliver asks
            rw [bracket]
            exact @Behind.record _ _ _ _ _ _ [] _ (.none isGap_nil) later
          case isFalse => cases stepped

/-- A container inside so many others, where there is room for it. -/
theorem spellsInside_container {count : Nat} (room : count + 1 < 128) {written : List Char}
    (spelled : SpellsContainer (SpellsInside (count + 1)) value written) :
    SpellsInside count value written := by
  have deeper : deepest - count = deepest - (count + 1) + 1 := by
    unfold deepest
    omega
  unfold SpellsInside
  rw [deeper]
  exact .inr spelled

theorem valueDue_of_begin (stepped : r.beginValue c = .ok r') (shown : isSpace c = false)
    (asks : Asks final r' text) : ValueDue final r.frames (c :: text) := by
  have scalar : ∀ {value written rest}, SpellsScalar value (c :: written) →
      Behind final r.frames value rest → ValueDue final r.frames (c :: (written ++ rest)) :=
    fun spelled later => valueDue_here (spelled.spells _) later
  unfold beginValue at stepped
  rw [shown, if_neg (by decide)] at stepped
  split at stepped
  case isTrue quote =>
    cases stepped
    obtain ⟨-, asks⟩ := asks
    obtain ⟨chars, body, rest, spelled, rfl, later⟩ := asks [] .none
    have string : SpellsScalar (.string (String.ofList chars)) (c :: (body ++ ['"'])) :=
      .string ⟨body, by simpa using spelled, by rw [quote]; rfl⟩
    have whole := scalar string later
    simpa using whole
  case isFalse =>
  split at stepped
  case isTrue bracket =>
    unfold openFrame at stepped
    split at stepped
    case isFalse => cases stepped
    case isTrue room =>
      cases stepped
      rw [bracket]
      rcases asks _ _ rfl with due | ended
      · obtain ⟨more, body, rest, joined, later, rfl⟩ := due.items
        have whole := valueDue_here (spellsInside_container room (.list joined)) later
        simpa using whole
      · obtain ⟨blank, later⟩ := ended
        have whole := valueDue_here (spellsInside_container room (.emptyList blank)) later
        simpa using whole
  case isFalse =>
  split at stepped
  case isTrue bracket =>
    unfold openFrame at stepped
    split at stepped
    case isFalse => cases stepped
    case isTrue room =>
      cases stepped
      rw [bracket]
      rcases asks _ _ _ rfl with due | ended
      · obtain ⟨joined, later⟩ := due
        have whole := valueDue_here (spellsInside_container room (.record joined)) later
        simpa using whole
      · obtain ⟨blank, later⟩ := ended
        have whole := valueDue_here (spellsInside_container room (.emptyRecord blank)) later
        simpa using whole
  case isFalse =>
  split at stepped
  case isTrue word =>
    cases stepped
    obtain ⟨rest, rfl, later⟩ := asks
    exact scalar (word ▸ .null) later
  case isFalse =>
  split at stepped
  case isTrue word =>
    cases stepped
    obtain ⟨rest, rfl, later⟩ := asks
    exact scalar (word ▸ .yes) later
  case isFalse =>
  split at stepped
  case isTrue word =>
    cases stepped
    obtain ⟨rest, rfl, later⟩ := asks
    exact scalar (word ▸ .no) later
  case isFalse =>
  split at stepped
  case h_1 n begins =>
    cases stepped
    obtain ⟨digits, last, rest, value, follows, complete, rfl, later⟩ := asks
    exact scalar (.number ⟨c, digits, n, last, rfl, begins, follows, complete⟩) later
  case h_2 => cases stepped

theorem begin_cases (stepped : r.beginValue c = .ok r') (asks : Asks final r' text) :
    (isSpace c = true ∧ r' = r) ∨ ValueDue final r.frames (c :: text) := by
  cases space : isSpace c with
  | false => exact .inr (valueDue_of_begin stepped space asks)
  | true =>
      rw [beginValue, if_pos space] at stepped
      cases stepped
      exact .inl ⟨rfl, rfl⟩

theorem membersDue_of_key {members : Members} {key : String} {outer : List Frame}
    {result : Option Json} {place : Place}
    (asks : Asks final ⟨.string true [] .none, .record members key :: outer, result, place⟩ text) :
    MembersDue final members outer ('"' :: text) := by
  obtain ⟨-, asks⟩ := asks
  obtain ⟨chars, body, rest, spelled, rfl, due⟩ := asks [] .none
  have colon := due _ _ _ rfl
  have name : SpellsString (String.ofList chars) ('"' :: body ++ ['"']) :=
    ⟨body, by simpa using spelled, rfl⟩
  have whole := colon.members name
  simpa using whole

/-! ## Whole texts -/

theorem peek_eq_ok {x : Except Fault Reader} (peeked : x.mapError (·, 1) = .ok r') : x = .ok r' :=
  Result.mapError_eq_ok_iff.mp peeked

theorem asks_of_turn (stepped : r.turn c = .ok r') (asks : Asks final r' text) :
    Asks final r (c :: text) := by
  rcases r with ⟨mode, frames, result, place⟩
  -- Behind a value that was not delivered yet, the character does what it does behind it.
  have ended : ∀ {r : Reader} {value : Json},
      (r.deliver value).proceed c = .ok r' → Behind final r.frames value (c :: text) :=
    fun stepped => behind_of_proceed (delivered_deliver _ _) (deliver_mode _ _) stepped asks
  cases mode with
  | value =>
      rcases begin_cases (peek_eq_ok stepped) asks with ⟨space, rfl⟩ | due
      · exact ValueDue.cons_space space asks
      · exact due
  | listNext =>
      rw [turn] at stepped
      dsimp only at stepped
      split at stepped
      case isTrue => cases stepped
      case isFalse =>
        rcases begin_cases (peek_eq_ok stepped) asks with ⟨space, rfl⟩ | due
        · exact ValueDue.cons_space space asks
        · exact due
  | listStart =>
      rintro items outer rfl
      rw [turn] at stepped
      dsimp only at stepped
      split at stepped
      case isTrue bracket =>
        cases stepped
        rw [bracket]
        exact .inr (endDue_here (behind_of_asks_deliver asks))
      case isFalse =>
        rcases begin_cases (peek_eq_ok stepped) asks with ⟨space, rfl⟩ | due
        · exact (asks _ _ rfl).imp (·.cons_space space) (·.cons_space space)
        · exact .inl due
  | recordStart =>
      rintro members key outer rfl
      rw [turn] at stepped
      dsimp only at stepped
      split at stepped
      case isTrue space =>
        cases stepped
        exact (asks _ _ _ rfl).imp (·.cons_space space) (·.cons_space space)
      case isFalse =>
        split at stepped
        case isTrue quote =>
          cases stepped
          exact .inl (quote ▸ membersDue_of_key asks)
        case isFalse =>
          split at stepped
          case isTrue bracket =>
            cases stepped
            rw [bracket]
            exact .inr (endDue_here (behind_of_asks_deliver asks))
          case isFalse => cases stepped
  | recordNext =>
      rintro members key outer rfl
      rw [turn] at stepped
      dsimp only at stepped
      split at stepped
      case isTrue space =>
        cases stepped
        exact (asks _ _ _ rfl).cons_space space
      case isFalse =>
        split at stepped
        case isTrue quote =>
          cases stepped
          exact quote ▸ membersDue_of_key asks
        case isFalse =>
          split at stepped
          case isTrue => cases stepped
          case isFalse => cases stepped
  | colon =>
      rintro members key outer rfl
      rw [turn] at stepped
      dsimp only at stepped
      split at stepped
      case isTrue space =>
        cases stepped
        exact (asks _ _ _ rfl).cons_space space
      case isFalse =>
        split at stepped
        case isTrue colon =>
          cases stepped
          rw [colon]
          exact @ColonDue.mk _ _ [] _ isGap_nil asks
        case isFalse => cases stepped
  | after =>
      intro frames value delivered
      exact behind_of_proceed delivered rfl (peek_eq_ok stepped) asks
  | word left value =>
      cases left with
      | nil => exact ⟨c :: text, rfl, ended (peek_eq_ok stepped)⟩
      | cons expected left =>
          rw [turn] at stepped
          dsimp only at stepped
          split at stepped
          case isFalse => cases stepped
          case isTrue same =>
            cases stepped
            rw [same]
            cases left with
            | nil => exact ⟨text, rfl, behind_of_asks_deliver asks⟩
            | cons _ left =>
                obtain ⟨rest, rfl, later⟩ := asks
                exact ⟨rest, rfl, later⟩
  | number n =>
      rw [turn] at stepped
      dsimp only at stepped
      split at stepped
      case h_1 next goesOn =>
        cases stepped
        obtain ⟨digits, last, rest, value, follows, complete, rfl, later⟩ := asks
        refine ⟨c :: digits, last, rest, value, ?_, complete, rfl, later⟩
        rw [Numeral.follow, goesOn]
        exact follows
      case h_2 => cases stepped
      case h_3 =>
        split at stepped
        case h_1 => cases stepped
        case h_2 value complete =>
          exact ⟨[], n, c :: text, value, rfl, complete, rfl, ended (peek_eq_ok stepped)⟩
  | string isKey reversed escape => exact asks_string rfl stepped asks

theorem behind_of_missing (ends : (r.deliver value).missing = .ok final) :
    Behind final r.frames value [] := by
  rcases r with ⟨_, frames, _, _⟩
  match frames, ends with
  | [], ends =>
      cases ends
      exact .outside isGap_nil
  | .list _ :: _, ends => cases ends
  | .record _ _ :: _, ends => cases ends

theorem asks_of_finish (ends : r.finish = .ok final) : Asks final r [] := by
  have ends := Result.mapError_eq_ok_iff.mp ends
  rcases r with ⟨mode, frames, result, place⟩
  cases mode with
  | number n =>
      dsimp only at ends
      split at ends
      case h_1 => cases ends
      case h_2 value complete =>
        exact ⟨[], n, [], value, rfl, complete, rfl, behind_of_missing ends⟩
  | after =>
      intro frames value delivered
      cases delivered with
      | outside =>
          cases ends
          exact .outside isGap_nil
      | list => cases ends
      | record => cases ends
  | _ => cases ends

theorem asks_of_run (accepted : text.foldlM step r >>= finish = .ok final) :
    Asks final r text := by
  induction text generalizing r with
  | nil => exact asks_of_finish accepted
  | cons c text ih =>
      rw [List.foldlM_cons] at accepted
      cases stepped : r.turn c with
      | error fault =>
          rw [step, stepped] at accepted
          cases accepted
      | ok next =>
          rw [step, stepped] at accepted
          have later : Asks final { next with place := r.place.past c } text := ih accepted
          exact asks_of_turn stepped later

end

end Reader

/-- The reader accepts the texts that spell a value, as that value, and no others. -/
theorem read_eq_ok_iff {text : String} {value : Json} :
    read text = .ok value ↔ SpellsText value text.toList := by
  constructor
  · intro accepted
    have due : Reader.ValueDue value [] text.toList := Reader.asks_of_run accepted
    generalize text.toList = chars at due
    obtain ⟨front, spelled, later⟩ := due
    cases later with
    | outside back => exact .mk front spelled back
  · exact read_of_spells

/-! ## Objects -/

/-- The texts of an object with its members as they are written, also those that a later one
of the same key replaces. -/
inductive SpellsObject : List (String × Json) → List Char → Prop where
  | empty {front gap back : List Char} (before : IsGap front) (inside : IsGap gap)
      (after : IsGap back) : SpellsObject [] (front ++ ('\x7b' :: gap ++ ['\x7d']) ++ back)
  | some {members : List (String × Json)} {front body back : List Char} (before : IsGap front)
      (joined : Joined (SpellsMember (Spells (deepest - 1))) members body) (after : IsGap back) :
      SpellsObject members (front ++ ('\x7b' :: body ++ ['\x7d']) ++ back)

theorem read_object {members : List (String × Json)} {text : String}
    (spelled : SpellsObject members text.toList) : read text = .ok (.ofMembers members) := by
  apply read_of_spells
  generalize text.toList = chars at spelled
  cases spelled with
  | empty before inside after => exact .mk before (.inr (.emptyRecord inside)) after
  | some before joined after => exact .mk before (.inr (.record joined)) after

theorem Numeral.value_ne_object (n : Numeral) (inside : Members) :
    n.value ≠ .ok (.object inside) := by
  intro complete
  unfold value signed at complete
  split at complete
  case h_5 => split at complete <;> cases complete
  case h_6 =>
    split at complete
    case isTrue => split at complete <;> cases complete
    case isFalse => cases complete
  all_goals first
    | cases complete
    | split at complete <;> cases complete

/-- Where an object was read, its members were written, and the last one of each key counts. -/
theorem exists_spellsObject {text : String} {inside : Members}
    (accepted : read text = .ok (.object inside)) :
    ∃ members, SpellsObject members text.toList ∧ inside = Members.ofList members := by
  have spelled := read_eq_ok_iff.mp accepted
  generalize text.toList = chars at spelled
  obtain ⟨before, written, after⟩ := spelled
  rcases written with scalar | container
  · cases scalar with
    | number named =>
        obtain ⟨_, _, _, last, _, _, _, complete⟩ := named
        exact absurd complete (last.value_ne_object inside)
  · cases container with
    | emptyRecord gap => exact ⟨[], .empty before gap after, rfl⟩
    | record joined => exact ⟨_, .some before joined after, rfl⟩

end LintBridge.Json
