import LintBridge.Proofs.Json.Spelling
import LintBridge.Proofs.Result

/-!
# Reading spelled values

Each part of a spelled value leads the reader from one state to another, wherever the part
begins.  A number is complete only when the next character comes, so behind a value the
reader either has delivered it or still holds a number that may end.
-/

set_option autoImplicit false

namespace LintBridge.Json

/-! ## Numbers -/

namespace Numeral

theorem begin?_ne {c other : Char} {n : Numeral} (begins : begin? c = some n)
    (never : begin? other = none) : c ≠ other := by
  rintro rfl
  rw [never] at begins
  cases begins

/-- The characters that may stand behind a value. -/
def Stops (c : Char) : Prop :=
  Reader.isSpace c = true ∨ c = ',' ∨ c = ']' ∨ c = '\x7d'

theorem Stops.eq {c : Char} (stops : Stops c) :
    c = ' ' ∨ c = '\n' ∨ c = '\t' ∨ c = '\r' ∨ c = ',' ∨ c = ']' ∨ c = '\x7d' := by
  simpa [Stops, Reader.isSpace, or_assoc] using stops

/-- Where a number has a value, it ends before such a character. -/
theorem turn_of_value {n : Numeral} {worth : Json} {c : Char} (complete : n.value = .ok worth)
    (stops : Stops c) : n.turn c = .ends := by
  have digit : c.isDigit = false := by
    rcases stops.eq with rfl | rfl | rfl | rfl | rfl | rfl | rfl <;> rfl
  have goesOn : n.afterDigits c = .ends := by
    rcases stops.eq with rfl | rfl | rfl | rfl | rfl | rfl | rfl <;> rfl
  have goesOn' : n.afterFraction c = .ends := by
    rcases stops.eq with rfl | rfl | rfl | rfl | rfl | rfl | rfl <;> rfl
  -- A number that ends in a sign, a point or a mark has no value; all other parts end here.
  unfold turn
  unfold value at complete
  split <;> simp_all

end Numeral

namespace Reader

/-! ## Taking in a text -/

/-- A text leads a reader from one state to another, apart from the place. -/
def Leads (r : Reader) (text : List Char) (r' : Reader) : Prop :=
  ∀ place, ∃ place', text.foldlM step { r with place } = .ok { r' with place := place' }

namespace Leads

theorem refl (r : Reader) : Leads r [] r :=
  fun place => ⟨place, rfl⟩

theorem append {r between r' : Reader} {first second : List Char} (sooner : Leads r first between)
    (later : Leads between second r') : Leads r (first ++ second) r' := by
  intro place
  obtain ⟨halfway, half⟩ := sooner place
  obtain ⟨final, whole⟩ := later halfway
  refine ⟨final, ?_⟩
  rw [List.foldlM_append, half]
  exact whole

theorem of_turn {r r' : Reader} {c : Char}
    (turns : ∀ place, ({ r with place } : Reader).turn c = .ok { r' with place }) :
    Leads r [c] r' := by
  intro place
  refine ⟨place.past c, ?_⟩
  simp only [List.foldlM_cons, List.foldlM_nil, step, turns]
  rfl

theorem cons {r r' : Reader} (between : Reader) {c : Char} {text : List Char}
    (turns : ∀ place, ({ r with place } : Reader).turn c = .ok { between with place })
    (later : Leads between text r') : Leads r (c :: text) r' :=
  (of_turn turns).append later

theorem stay {r : Reader} {text : List Char}
    (turns : ∀ c ∈ text, ∀ place, ({ r with place } : Reader).turn c = .ok { r with place }) :
    Leads r text r := by
  induction text with
  | nil => exact .refl r
  | cons c text ih =>
      exact .cons r (turns c (List.mem_cons_self ..))
        (ih fun c' member => turns c' (List.mem_cons_of_mem _ member))

end Leads

theorem deliver_placed (r : Reader) (value : Json) (place : Place) :
    ({ r with place } : Reader).deliver value = { r.deliver value with place } := by
  unfold deliver
  rcases r with ⟨mode, frames, result, _⟩
  match frames with
  | [] => rfl
  | .list _ :: _ => rfl
  | .record _ _ :: _ => rfl

theorem deliver_moded (r : Reader) (value : Json) (mode : Mode) :
    ({ r with mode } : Reader).deliver value = r.deliver value := by
  unfold deliver
  rcases r with ⟨_, frames, result, _⟩
  match frames with
  | [] => rfl
  | .list _ :: _ => rfl
  | .record _ _ :: _ => rfl

theorem deliver_moved (r : Reader) (value : Json) (mode : Mode) (place : Place) :
    ({ r with mode, place } : Reader).deliver value = { r.deliver value with place } :=
  (deliver_moded { r with place } value mode).trans (deliver_placed r value place)

theorem deliver_mode (r : Reader) (value : Json) : (r.deliver value).mode = .after := by
  unfold deliver
  split <;> rfl

/-! ## Strings -/

section

variable (r : Reader) (isKey : Bool) (reversed : List Char)

/-- The reader in a string. -/
def within (escape : Escape) : Reader :=
  { r with mode := .string isKey reversed escape }

theorem leads_fourDigits {n : Nat} {digits : List Char} {high : Option Nat}
    {found? : Option Char} {escape : Escape} (named : FourDigits n digits)
    (whole : unit high n = .ok (found?, escape)) :
    Leads (r.within isKey reversed (.number 4 (some 0) high)) digits
      (r.within isKey (found?.toList ++ reversed) escape) := by
  have thin : ∀ {d c}, d < 16 → Text.IsDigit d c → c.utf8Size = 1 :=
    Text.IsDigit.of_forall (p := fun _ c => c.utf8Size = 1) (by decide) (by decide)
  have front : ∀ {d c} (due value : Nat), d < 16 → Text.IsDigit d c →
      Leads (r.within isKey reversed (.number (due + 2) (some value) high)) [c]
        (r.within isKey reversed (.number (due + 1) (some (value * 16 + d)) high)) := by
    intro d c due value small written
    refine .of_turn fun place => ?_
    simp [within, turn, stringStep, thin small written, Text.hexDigit?_isDigit small written]
  have last : ∀ {d c} (value : Nat), d < 16 → Text.IsDigit d c → value * 16 + d = n →
      Leads (r.within isKey reversed (.number 1 (some value) high)) [c]
        (r.within isKey (found?.toList ++ reversed) escape) := by
    intro d c value small written same
    refine .of_turn fun place => ?_
    simp [within, turn, stringStep, thin small written, Text.hexDigit?_isDigit small written,
      same, whole]
  cases named with
  | mk smallA smallB smallC smallD isA isB isC isD =>
      have first := front 2 0 smallA isA
      rw [Nat.zero_mul, Nat.zero_add] at first
      exact first.append ((front 1 _ smallB isB).append
        ((front 0 _ smallC isC).append (last _ smallD isD rfl)))

theorem leads_unicode :
    Leads (r.within isKey reversed .none) ['\\', 'u']
      (r.within isKey reversed (.number 4 (some 0) none)) :=
  (Leads.of_turn fun _ => rfl).append
    (.of_turn (r := r.within isKey reversed .slash) fun _ => rfl)

theorem leads_char {c : Char} {text : List Char} (spelled : SpellsChar c text) :
    Leads (r.within isKey reversed .none) text (r.within isKey (c :: reversed) .none) := by
  cases spelled with
  | plain shown unquoting unescaping =>
      refine .of_turn fun place => ?_
      simp [within, turn, stringStep, unquoting, unescaping, Nat.not_lt.mpr shown]
  | @letter sign named =>
      have other : sign ≠ 'u' := by
        rintro rfl
        cases named
      refine .cons (r.within isKey reversed .slash) (fun _ => rfl) (.of_turn fun _ => ?_)
      simp [within, turn, stringStep, other, named]
  | number named =>
      have whole : unit none c.toNat = .ok (some c, .none) := by
        have valid : c.toNat < 0xD800 ∨ 0xDFFF < c.toNat := by
          rcases c.valid with low | high
          · exact .inl low
          · exact .inr high.1
        rw [unit, if_neg (by simp; omega), if_neg (by simp; omega), Char.ofNat_toNat]
      exact (leads_unicode r isKey reversed).append (leads_fourDigits r isKey reversed named whole)
  | @pair high low first second isHigh isLow smallHigh smallLow whole =>
      have opens : unit none (0xD800 + high) = .ok (none, .half (0xD800 + high)) := by
        rw [unit, if_neg (by simp; omega), if_pos (by simp; omega)]
      have closes : unit (some (0xD800 + high)) (0xDC00 + low) = .ok (some c, .none) := by
        rw [unit, if_pos (by simp; omega), Nat.add_sub_cancel_left, Nat.add_sub_cancel_left, ← whole,
          Char.ofNat_toNat]
      have between : Leads (r.within isKey reversed (.half (0xD800 + high))) ['\\', 'u']
          (r.within isKey reversed (.number 4 (some 0) (some (0xD800 + high)))) :=
        (Leads.of_turn fun _ => rfl).append
          (.of_turn (r := r.within isKey reversed (.halfSlash (0xD800 + high))) fun _ => rfl)
      have half := (leads_unicode r isKey reversed).append
        (leads_fourDigits r isKey reversed isHigh opens)
      exact half.append (between.append (leads_fourDigits r isKey reversed isLow closes))

theorem leads_chars {chars text : List Char} (spelled : SpellsChars chars text)
    (reversed : List Char) :
    Leads (r.within isKey reversed .none) text
      (r.within isKey (chars.reverse ++ reversed) .none) := by
  induction spelled generalizing reversed with
  | nil => exact .refl _
  | @cons c chars text rest first others ih =>
      rw [List.reverse_cons, List.append_assoc, List.singleton_append]
      exact (leads_char r isKey reversed first).append (ih (c :: reversed))

end

/-- The rest of a string behind its first quote, up to the last one. -/
theorem leads_body (r : Reader) (isKey : Bool) {string : String} {body : List Char}
    (spelled : SpellsChars string.toList body) :
    Leads (r.within isKey [] .none) (body ++ ['"'])
      ((r.within isKey string.toList.reverse .none).deliverText isKey string) := by
  have inside := leads_chars r isKey spelled []
  rw [List.append_nil] at inside
  refine inside.append (.of_turn fun place => ?_)
  have whole : String.ofList string.toList.reverse.reverse = string := by
    rw [List.reverse_reverse, String.ofList_toList]
  simp only [within, turn, stringStep, if_true, whole]
  cases isKey with
  | false => exact congrArg Except.ok (deliver_placed _ _ place)
  | true =>
      rcases r with ⟨_, frames, result, _⟩
      match frames with
      | [] => rfl
      | .list _ :: _ => rfl
      | .record _ _ :: _ => rfl

/-! ## Values -/

/-- A value is due. -/
def Due (r : Reader) : Prop :=
  r.mode = .value ∨ r.mode = .listStart ∨ r.mode = .listNext

/-- The readers that have taken in a value. -/
inductive Taken (r : Reader) (value : Json) : Reader → Prop where
  | delivered : Taken r value (r.deliver value)
  | open' {n : Numeral} (complete : n.value = .ok value) :
      Taken r value { r with mode := .number n }

section

variable {r r' : Reader} {value : Json}

theorem Due.turn_eq (due : Due r) {c : Char} (inside : c ≠ ']') (place : Place) :
    ({ r with place } : Reader).turn c
      = (({ r with place } : Reader).beginValue c).mapError (·, 1) := by
  rcases due with mode | mode | mode <;> simp [turn, mode, inside]

theorem Due.leads_gap (due : Due r) {gap : List Char} (blank : IsGap gap) : Leads r gap r := by
  refine .stay fun c member place => ?_
  have space := blank c member
  have inside : c ≠ ']' := by
    rintro rfl
    cases space
  rw [due.turn_eq inside, beginValue, if_pos space]
  rfl

/-- What a character does behind the value does not depend on how the value was taken in. -/
theorem Taken.turn_eq (taken : Taken r value r') {c : Char} (stops : Numeral.Stops c)
    (place : Place) :
    ({ r' with place } : Reader).turn c
      = (({ r.deliver value with place } : Reader).proceed c).mapError (·, 1) := by
  cases taken with
  | delivered => simp only [turn, deliver_mode]
  | open' complete =>
      simp only [turn, Numeral.turn_of_value complete stops, complete, deliver_moved]

theorem Taken.leads_gap (taken : Taken r value r') {gap : List Char} (blank : IsGap gap) :
    ∃ r'', Taken r value r'' ∧ Leads r' gap r'' := by
  cases gap with
  | nil => exact ⟨r', taken, .refl r'⟩
  | cons c gap =>
      have passes : ∀ {s}, Taken r value s → ∀ c' ∈ c :: gap, ∀ place,
          ({ s with place } : Reader).turn c' = .ok { r.deliver value with place } := by
        intro s taken c' member place
        have space := blank c' member
        rw [taken.turn_eq (.inl space), proceed, if_pos space]
        rfl
      refine ⟨r.deliver value, .delivered, .cons _ (passes taken c (List.mem_cons_self ..)) ?_⟩
      exact .stay fun c' member => passes .delivered c' (List.mem_cons_of_mem _ member)

theorem leads_word (r : Reader) (value : Json) {c : Char} {rest : List Char} :
    Leads { r with mode := .word (c :: rest) value } (c :: rest) (r.deliver value) := by
  induction rest generalizing c with
  | nil => exact .of_turn fun place => by simp [turn, deliver_moved]
  | cons c' rest ih =>
      exact .cons { r with mode := .word (c' :: rest) value } (fun place => by simp [turn]) ih

theorem leads_follow (r : Reader) {first last : Numeral} {rest : List Char}
    (follows : first.follow rest = some last) :
    Leads { r with mode := .number first } rest { r with mode := .number last } := by
  induction rest generalizing first with
  | nil =>
      cases follows
      exact .refl _
  | cons c rest ih =>
      rw [Numeral.follow] at follows
      split at follows
      case h_1 next goesOn =>
        exact .cons { r with mode := .number next }
          (fun place => by simp only [turn, goesOn]) (ih follows)
      all_goals cases follows

theorem Due.turn_begin (due : Due r) {c : Char} {n : Numeral}
    (begins : Numeral.begin? c = some n) (place : Place) :
    ({ r with place } : Reader).turn c = .ok { r with mode := .number n, place } := by
  have differs : ∀ {other}, Numeral.begin? other = none → c ≠ other := Numeral.begin?_ne begins
  have shown : isSpace c = false := by
    have blank : c ≠ ' ' ∧ c ≠ '\n' ∧ c ≠ '\t' ∧ c ≠ '\r' :=
      ⟨differs rfl, differs rfl, differs rfl, differs rfl⟩
    simp [isSpace, blank]
  have others : c ≠ '"' ∧ c ≠ '[' ∧ c ≠ '\x7b' ∧ c ≠ 'n' ∧ c ≠ 't' ∧ c ≠ 'f' :=
    ⟨differs rfl, differs rfl, differs rfl, differs rfl, differs rfl, differs rfl⟩
  rw [due.turn_eq (differs rfl), beginValue]
  simp only [shown, others, begins, if_false, Bool.false_eq_true]
  rfl

theorem leads_scalar (due : Due r) {text : List Char} (spelled : SpellsScalar value text) :
    ∃ r', Taken r value r' ∧ Leads r text r' := by
  cases spelled with
  | null =>
      exact ⟨_, .delivered, .cons _ (fun place => due.turn_eq (by decide) place)
        (leads_word r .null)⟩
  | yes =>
      exact ⟨_, .delivered, .cons _ (fun place => due.turn_eq (by decide) place)
        (leads_word r (.bool true))⟩
  | no =>
      exact ⟨_, .delivered, .cons _ (fun place => due.turn_eq (by decide) place)
        (leads_word r (.bool false))⟩
  | number named =>
      obtain ⟨c, rest, first, last, rfl, begins, follows, complete⟩ := named
      exact ⟨_, .open' complete,
        .cons { r with mode := .number first } (due.turn_begin begins)
          (leads_follow r follows)⟩
  | @string string _ written =>
      obtain ⟨body, inside, rfl⟩ := written
      have whole := leads_body r false inside
      have same : (r.within false string.toList.reverse .none).deliverText false string
          = r.deliver (.string string) := deliver_moded r (.string string) _
      rw [same] at whole
      exact ⟨_, .delivered, .cons _ (fun place => due.turn_eq (by decide) place) whole⟩

/-! ## Containers -/

/-- Every text of such values is taken in where a value is due, as long as there is room for
their containers. -/
def TakesIn (S : Json → List Char → Prop) (room : Nat) : Prop :=
  ∀ {r : Reader} {value : Json} {text : List Char}, Due r → r.frames.length + room < 128 →
    S value text → ∃ r', Taken r value r' ∧ Leads r text r'

section

variable {S : Json → List Char → Prop} {room : Nat}

theorem TakesIn.leads_item (reads : TakesIn S room) (due : Due r)
    (shallow : r.frames.length + room < 128) {text : List Char}
    (spelled : SpellsItem S value text) : ∃ r', Taken r value r' ∧ Leads r text r' := by
  cases spelled with
  | mk front written back =>
      obtain ⟨r', taken, leads⟩ := reads due shallow written
      obtain ⟨r'', taken', passes⟩ := taken.leads_gap back
      exact ⟨r'', taken', ((due.leads_gap front).append leads).append passes⟩

/-- The reader in a container that it opened. -/
def opened (r : Reader) (mode : Mode) (frame : Frame) : Reader :=
  { r with mode, frames := frame :: r.frames }

/-- The items of an array up to its bracket, behind those that are done (the last one
first). -/
theorem TakesIn.leads_items (reads : TakesIn S room) (shallow : r.frames.length + 1 + room < 128)
    {items : List Json} {body : List Char} (joined : Joined (SpellsItem S) items body)
    {mode : Mode} {done : List Json} (due : Due (r.opened mode (.list done))) :
    Leads (r.opened mode (.list done)) (body ++ [']'])
      (r.deliver (.array (done.reverse ++ items))) := by
  induction joined generalizing mode done with
  | @one item text last =>
      obtain ⟨r', taken, leads⟩ := reads.leads_item due shallow last
      refine leads.append (.of_turn fun place => ?_)
      rw [taken.turn_eq (.inr (.inr (.inl rfl))), ← List.reverse_cons]
      exact congrArg Except.ok (deliver_moved r (.array (item :: done).reverse) .after place)
  | @more item rest text others first later ih =>
      obtain ⟨r', taken, leads⟩ := reads.leads_item due shallow first
      have next := @ih .listNext (item :: done) (.inr (.inr rfl))
      rw [List.reverse_cons, List.append_assoc, List.singleton_append] at next
      rw [List.append_assoc]
      exact leads.append (.cons (r.opened .listNext (.list (item :: done)))
        (fun place => taken.turn_eq (.inr (.inl rfl)) place) next)

/-- A key is due. -/
def KeyDue (r : Reader) : Prop :=
  r.mode = .recordStart ∨ r.mode = .recordNext

theorem KeyDue.leads_gap (due : KeyDue r) {gap : List Char} (blank : IsGap gap) :
    Leads r gap r := by
  refine .stay fun c member place => ?_
  rcases due with mode | mode <;> simp [turn, mode, blank c member]

theorem TakesIn.leads_member (reads : TakesIn S room)
    (shallow : r.frames.length + 1 + room < 128) {mode : Mode} {members : Members}
    {key : String} (due : KeyDue (r.opened mode (.record members key))) {member : String × Json}
    {text : List Char} (spelled : SpellsMember S member text) :
    ∃ r', Taken (r.opened .value (.record members member.1)) member.2 r'
      ∧ Leads (r.opened mode (.record members key)) text r' := by
  cases spelled with
  | @mk name value before string between item front named back written =>
      obtain ⟨body, inside, rfl⟩ := named
      obtain ⟨r', taken, leads⟩ := reads.leads_item
        (r := r.opened .value (.record members name)) (.inl rfl) shallow written
      refine ⟨r', taken, ?_⟩
      have quote : ∀ place,
          ({ r.opened mode (.record members key) with place } : Reader).turn '"'
            = .ok { (r.opened mode (.record members key)).within true [] .none with place } := by
        intro place
        rcases due with mode | mode <;> simp [turn, mode, isSpace, within]
      have gap : Leads (r.opened .colon (.record members name)) between
          (r.opened .colon (.record members name)) := by
        refine .stay fun c member place => ?_
        simp [turn, opened, back c member]
      have colon : Leads (r.opened .colon (.record members name)) (between ++ ':' :: item) r' :=
        gap.append (.cons _ (fun place => rfl) leads)
      have keyed := (due.leads_gap front).append
        (.cons _ quote (leads_body (r.opened mode (.record members key)) true inside))
      rw [List.append_assoc]
      exact keyed.append colon

/-- The members of an object up to its bracket, behind those that are done. -/
theorem TakesIn.leads_members (reads : TakesIn S room)
    (shallow : r.frames.length + 1 + room < 128) {members : Members} {body : List Char}
    (joined : Joined (SpellsMember S) members body) {mode : Mode} {done : Members} {key : String}
    (due : KeyDue (r.opened mode (.record done key))) :
    Leads (r.opened mode (.record done key)) (body ++ ['\x7d'])
      (r.deliver (.object (members.foldl (fun done m => Members.insert m.1 m.2 done) done))) := by
  induction joined generalizing mode done key with
  | @one member text last =>
      obtain ⟨r', taken, leads⟩ := reads.leads_member shallow due last
      refine leads.append (.of_turn fun place => ?_)
      rw [taken.turn_eq (.inr (.inr (.inr rfl)))]
      exact congrArg Except.ok
        (deliver_moved r (.object (Members.insert member.1 member.2 done)) .after place)
  | @more member rest text others first later ih =>
      obtain ⟨r', taken, leads⟩ := reads.leads_member shallow due first
      have next := @ih .recordNext (Members.insert member.1 member.2 done) member.1 (.inr rfl)
      rw [List.append_assoc]
      exact leads.append (.cons
        (r.opened .recordNext (.record (Members.insert member.1 member.2 done) member.1))
        (fun place => taken.turn_eq (.inr (.inl rfl)) place) next)

theorem TakesIn.leads_container (reads : TakesIn S room) (due : Due r)
    (shallow : r.frames.length + (room + 1) < 128) {text : List Char}
    (spelled : SpellsContainer S value text) : Leads r text (r.deliver value) := by
  have fits : r.frames.length + 1 < 128 := by omega
  have deep : r.frames.length + 1 + room < 128 := by omega
  have list : ∀ place, ({ r with place } : Reader).turn '['
      = .ok { r.opened .listStart (.list []) with place } := by
    intro place
    rw [due.turn_eq (by decide)]
    simp [beginValue, isSpace, openFrame, fits, opened]
  have record : ∀ place, ({ r with place } : Reader).turn '\x7b'
      = .ok { r.opened .recordStart (.record [] "") with place } := by
    intro place
    rw [due.turn_eq (by decide)]
    simp [beginValue, isSpace, openFrame, fits, opened]
  cases spelled with
  | emptyList inside =>
      have gap := Due.leads_gap (r := r.opened .listStart (.list [])) (.inr (.inl rfl)) inside
      refine .cons _ list (gap.append (.of_turn fun place => ?_))
      exact congrArg Except.ok (deliver_moved r (.array []) .listStart place)
  | list inside => exact .cons _ list (reads.leads_items deep inside (.inr (.inl rfl)))
  | emptyRecord inside =>
      have gap := KeyDue.leads_gap (r := r.opened .recordStart (.record [] "")) (.inl rfl) inside
      refine .cons _ record (gap.append (.of_turn fun place => ?_))
      exact congrArg Except.ok (deliver_moved r (.object []) .recordStart place)
  | record inside => exact .cons _ record (reads.leads_members deep inside (.inl rfl))

theorem takesIn_spells (depth : Nat) : TakesIn (Spells depth) depth := by
  induction depth with
  | zero => exact fun due _ spelled => leads_scalar due spelled
  | succ depth ih =>
      intro r value text due shallow spelled
      rcases spelled with scalar | container
      · exact leads_scalar due scalar
      · exact ⟨_, .delivered, ih.leads_container due shallow container⟩

end

end

end Reader

theorem read_of_spells {value : Json} {text : String} (spelled : SpellsText value text.toList) :
    read text = .ok value := by
  obtain ⟨r', taken, leads⟩ := Reader.TakesIn.leads_item (Reader.takesIn_spells deepest)
    (r := Reader.initial) (.inl rfl) (by decide) spelled
  obtain ⟨place, whole⟩ := leads .start
  have start : ({ Reader.initial with place := .start } : Reader) = Reader.initial := rfl
  rw [read, ← start, whole]
  cases taken with
  | delivered => rfl
  | open' complete =>
      simp only [bind, Except.bind, Reader.finish, complete]
      rfl

theorem SpellsText.unique {first second : Json} {text : List Char}
    (one : SpellsText first text) (other : SpellsText second text) : first = second := by
  have same : (String.ofList text).toList = text := String.toList_ofList
  have left := read_of_spells (same.symm ▸ one)
  have right := read_of_spells (same.symm ▸ other)
  exact Except.ok.inj (left.symm.trans right)

end LintBridge.Json
