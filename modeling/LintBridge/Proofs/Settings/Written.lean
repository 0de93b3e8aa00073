import LintBridge.Proofs.Json.Acceptance
import LintBridge.Proofs.Json.Writing
import LintBridge.Proofs.Settings.Schema

/-!
# Settings that are written and read back

A text of settings need not be the one that they are written as.  Its members may stand in any
order, those that are as usual may be there or not, a `$schema` may be noted, and a member may
stand behind others of its key, which it replaces.  `Tells` says which members tell which
settings, and the texts of such members are exactly those that are read as these settings.
-/

set_option autoImplicit false

namespace LintBridge

open Json

namespace Settings

/-! ## Looking up what was written -/

/-- The value of the last member of a key. -/
def last? (key : String) (members : List (String × Json)) : Option Json :=
  Members.find? key members.reverse

theorem find?_append (key : String) (front back : List (String × Json)) :
    Members.find? key (front ++ back) = (Members.find? key front).or (Members.find? key back) := by
  simp only [Members.find?, List.find?_append, Option.map_or]

theorem last?_append (key : String) (front back : List (String × Json)) :
    last? key (front ++ back) = (last? key back).or (last? key front) := by
  rw [last?, List.reverse_append, find?_append]
  rfl

theorem last?_cons (key : String) (m : String × Json) (back : List (String × Json)) :
    last? key (m :: back) = (last? key back).or (if m.1 = key then some m.2 else none) := by
  rw [← List.singleton_append, last?_append]
  congr 1
  rw [last?, List.reverse_singleton, Members.find?_cons]
  rfl

theorem last?_eq_none {key : String} {members : List (String × Json)}
    (absent : ∀ m ∈ members, m.1 ≠ key) : last? key members = none := by
  rw [last?, Members.find?, Option.map_eq_none_iff, List.find?_eq_none]
  intro m member
  simpa using absent m (List.mem_reverse.mp member)

theorem exists_last? {key : String} {members : List (String × Json)}
    (there : ∃ m ∈ members, m.1 = key) : ∃ value, last? key members = some value := by
  obtain ⟨m, member, named⟩ := there
  rw [← Option.isSome_iff_exists, last?, Members.find?, Option.isSome_map, List.find?_isSome]
  exact ⟨m, List.mem_reverse.mpr member, by simpa using named⟩

theorem mem_of_last? {key : String} {value : Json} {members : List (String × Json)}
    (found : last? key members = some value) : (key, value) ∈ members := by
  obtain ⟨m, there, rfl⟩ := Option.map_eq_some_iff.mp found
  have named : m.1 = key := by simpa using List.find?_some there
  rw [← named]
  exact List.mem_reverse.mp (List.mem_of_find?_eq_some there)

theorem last?_perm {members others : List (String × Json)} (same : members.Perm others)
    (distinct : (members.map (·.1)).Nodup) (key : String) :
    last? key others = last? key members := by
  have kept : ∀ {given : List (String × Json)} {value : Json}, (given.map (·.1)).Nodup →
      (key, value) ∈ given → last? key given = some value := by
    intro given value distinct member
    rw [last?, ← Members.find?_ofList, Members.find?_ofList_of_mem distinct member]
  have distinct' : (others.map (·.1)).Nodup := (same.map _).nodup_iff.mp distinct
  cases found : last? key members with
  | some value => exact kept distinct' (same.mem_iff.mp (mem_of_last? found))
  | none =>
      cases found' : last? key others with
      | none => rfl
      | some value =>
          rw [kept distinct (same.mem_iff.mpr (mem_of_last? found'))] at found
          cases found

/-! ## What members tell -/

/-- The last member of each key counts, and only that one has to be allowed. -/
structure Tells (members : List (String × Json)) (s : LintSettings) : Prop where
  allowed : ∀ key value, last? key members = some value → Allowed (key, value)
  holds : Holds (last? · members) s

theorem isSettings_ofMembers_iff (members : List (String × Json)) :
    IsSettings (.ofMembers members)
      ↔ ∀ key value, last? key members = some value → Allowed (key, value) := by
  have ordered := Members.ordered_ofList members
  constructor
  · rintro ⟨inside, same, allowed⟩ key value found
    cases same
    rw [last?, ← Members.find?_ofList] at found
    exact LintSettings.allowed_of_find? allowed found
  · intro allowed
    refine ⟨_, rfl, fun m member => allowed m.1 m.2 ?_⟩
    have distinct : ((Members.ofList members).map (·.1)).Nodup :=
      List.pairwise_map.mpr (ordered.imp ne_of_lt)
    have found := Members.find?_ofList_of_mem distinct member
    rwa [Members.ofList_of_ordered ordered, Members.find?_ofList] at found

theorem tells_iff (members : List (String × Json)) (s : LintSettings) :
    Tells members s ↔ LintSettings.ofValue (.ofMembers members) = .ok s := by
  have look : (fun key => (Json.ofMembers members).member? key) = (last? · members) :=
    funext fun key => Members.find?_ofList key members
  rw [LintSettings.ofValue_eq_ok_iff, isSettings_ofMembers_iff, look]
  exact ⟨fun tells => ⟨tells.allowed, tells.holds⟩, fun ⟨allowed, holds⟩ => ⟨allowed, holds⟩⟩

theorem ofText_eq_ok_iff (text : String) (s : LintSettings) :
    LintSettings.ofText text = .ok s
      ↔ ∃ members, SpellsObject members text.toList ∧ Tells members s := by
  constructor
  · intro accepted
    unfold LintSettings.ofText at accepted
    split at accepted
    case h_1 => cases accepted
    case h_2 value read =>
      obtain ⟨⟨inside, rfl, -⟩, -⟩ := (LintSettings.ofValue_eq_ok_iff value s).mp accepted
      obtain ⟨members, spelled, rfl⟩ := exists_spellsObject read
      exact ⟨members, spelled, (tells_iff members s).mpr accepted⟩
  · rintro ⟨members, spelled, tells⟩
    rw [LintSettings.ofText, read_object spelled]
    exact (tells_iff members s).mp tells

/-! ## Ways to write settings -/

/-- The ways to write the members of settings. -/
inductive Written (s : LintSettings) : List (String × Json) → Prop where
  | declared : Written s s.members
  | reordered {members others : List (String × Json)} (written : Written s members)
      (distinct : (members.map (·.1)).Nodup) (same : members.Perm others) : Written s others
  /-- A member that is not there is written out as usual. -/
  | filled {front back : List (String × Json)} {m : String × Json}
      (written : Written s (front ++ back)) (usual : m ∈ LintSettings.initial.allMembers)
      (absent : ∀ n ∈ front ++ back, n.1 ≠ m.1) : Written s (front ++ m :: back)
  /-- The only member of its key, which is as usual, is left out. -/
  | dropped {front back : List (String × Json)} {m : String × Json}
      (written : Written s (front ++ m :: back)) (usual : m ∈ LintSettings.initial.allMembers)
      (alone : ∀ n ∈ front ++ back, n.1 ≠ m.1) : Written s (front ++ back)
  | noted {front back : List (String × Json)} (written : Written s (front ++ back))
      (text : String) : Written s (front ++ ("$schema", .string text) :: back)
  /-- Any value is written for a key that has a member further behind. -/
  | replaced {front back : List (String × Json)} {key : String}
      (written : Written s (front ++ back)) (later : ∃ m ∈ back, m.1 = key) (value : Json) :
      Written s (front ++ (key, value) :: back)

theorem allowed_of_mem_allMembers {s : LintSettings} {m : String × Json}
    (member : m ∈ s.allMembers) : Allowed m := by
  simp only [LintSettings.allMembers, List.mem_cons, List.not_mem_nil, or_false] at member
  rcases member with rfl | rfl | rfl | rfl | rfl | rfl
  · exact .flag (by decide) _
  · exact .text (by decide) _
  · exact .text (by decide) _
  · exact .text (by decide) _
  · exact .text (by decide) _
  · exact .flag (by decide) _

theorem allMembers_distinct (s : LintSettings) : (s.allMembers.map (·.1)).Nodup := by
  have names : s.allMembers.map (·.1) = ["enabled", "executable", "nodeInterpreter",
      "configFile", "customRulesPath", "treatAllAsWarnings"] := rfl
  rw [names]
  decide

namespace Tells

variable {s : LintSettings} {members others front back : List (String × Json)}
  {m : String × Json}

theorem all (s : LintSettings) : Tells s.allMembers s where
  allowed _ _ found := allowed_of_mem_allMembers (mem_of_last? found)
  holds := ⟨rfl, rfl, rfl, rfl, rfl, rfl⟩

theorem congr (tells : Tells members s) (same : ∀ key, last? key others = last? key members) :
    Tells others s := by
  have look : (last? · others) = (last? · members) := funext same
  refine ⟨fun key value found => tells.allowed key value (same key ▸ found), ?_⟩
  rw [look]
  exact tells.holds

section

variable (usual : m ∈ LintSettings.initial.allMembers) (alone : ∀ n ∈ front ++ back, n.1 ≠ m.1)
include alone

theorem last?_inserted (key : String) : last? key (front ++ m :: back)
    = if m.1 = key then some m.2 else last? key (front ++ back) := by
  rw [last?_append, last?_cons, last?_append]
  by_cases here : m.1 = key
  · have later : last? m.1 back = none :=
      last?_eq_none fun n member => alone n (List.mem_append_right front member)
    rw [if_pos here, if_pos here, ← here, later]
    rfl
  · rw [if_neg here, if_neg here, Option.or_none]

include usual

theorem usual_inserted {u : String × Json} (member : u ∈ LintSettings.initial.allMembers) :
    (last? u.1 (front ++ m :: back)).getD u.2 = (last? u.1 (front ++ back)).getD u.2 := by
  rw [last?_inserted alone]
  by_cases here : m.1 = u.1
  · have same : m = u :=
      List.inj_on_of_nodup_map (allMembers_distinct _) usual member here
    rw [if_pos here, ← same, last?_eq_none alone]
    rfl
  · rw [if_neg here]

theorem filled (tells : Tells (front ++ back) s) : Tells (front ++ m :: back) s where
  allowed key value found := by
    rw [last?_inserted alone] at found
    split at found
    case isTrue here =>
      cases found
      exact here ▸ allowed_of_mem_allMembers usual
    case isFalse => exact tells.allowed key value found
  holds := tells.holds.congr fun _ member => (usual_inserted usual alone member).symm

theorem dropped (tells : Tells (front ++ m :: back) s) : Tells (front ++ back) s where
  allowed key value found := by
    refine tells.allowed key value ?_
    have apart : m.1 ≠ key := fun here => alone _ (mem_of_last? found) here.symm
    rw [last?_inserted alone, if_neg apart, found]
  holds := tells.holds.congr fun _ member => usual_inserted usual alone member

end

theorem optional {key text : String} (usual : (key, .string "") ∈ LintSettings.initial.allMembers)
    (alone : ∀ n ∈ front ++ back, n.1 ≠ key)
    (tells : Tells (front ++ (key, .string text) :: back) s) :
    Tells (front ++ LintSettings.optionalMember key text ++ back) s := by
  unfold LintSettings.optionalMember
  split
  case isTrue unset =>
    rw [unset] at tells
    rw [List.append_nil]
    exact tells.dropped usual alone
  case isFalse =>
    rw [List.append_assoc, List.singleton_append]
    exact tells

theorem declared (s : LintSettings) : Tells s.members s := by
  have named : ∀ n ∈ LintSettings.optionalMember "configFile" s.configFile,
      n.1 = "configFile" := by
    intro n member
    unfold LintSettings.optionalMember at member
    split at member
    · cases member
    · rw [List.mem_singleton.mp member]
  let front := [("enabled", Json.bool s.enabled), ("executable", .string s.executable),
    ("nodeInterpreter", .string s.nodeInterpreter)]
  have config : Tells (front ++ LintSettings.optionalMember "configFile" s.configFile ++ _) s :=
    optional (by simp [LintSettings.allMembers, LintSettings.initial]) (by simp [front]) (all s)
  refine optional (by simp [LintSettings.allMembers, LintSettings.initial]) ?_ config
  intro n member
  rcases List.mem_append.mp member with member | last
  · rcases List.mem_append.mp member with first | member
    · have names : ∀ key ∈ ["enabled", "executable", "nodeInterpreter"],
          key ≠ "customRulesPath" := by decide
      exact names n.1 (List.mem_map_of_mem first)
    · rw [named n member]
      decide
  · rw [List.mem_singleton.mp last]
    exact (by decide : "treatAllAsWarnings" ≠ "customRulesPath")

theorem noted (tells : Tells (front ++ back) s) (text : String) :
    Tells (front ++ ("$schema", .string text) :: back) s := by
  have inserted : ∀ key, last? key (front ++ ("$schema", .string text) :: back)
      = last? key (front ++ back)
      ∨ key = "$schema" ∧ last? key (front ++ ("$schema", .string text) :: back)
        = some (.string text) := by
    intro key
    rw [last?_append, last?_cons, last?_append]
    by_cases here : "$schema" = key
    · rw [if_pos here]
      cases last? key back with
      | some value => exact .inl rfl
      | none => exact .inr ⟨here.symm, rfl⟩
    · rw [if_neg here, Option.or_none]
      exact .inl rfl
  refine ⟨fun key value found => ?_, tells.holds.congr fun u member => ?_⟩
  · rcases inserted key with same | ⟨rfl, same⟩
    · exact tells.allowed key value (same ▸ found)
    · rw [same] at found
      cases found
      exact .note text
  · rcases inserted u.1 with same | ⟨note, -⟩
    · exact congrArg (·.getD u.2) same.symm
    · have apart : ∀ m ∈ LintSettings.initial.allMembers, m.1 ≠ "$schema" := by
        simp [LintSettings.allMembers]
      exact absurd note (apart u member)

theorem replaced {key : String} (tells : Tells (front ++ back) s)
    (later : ∃ m ∈ back, m.1 = key) (value : Json) : Tells (front ++ (key, value) :: back) s := by
  refine tells.congr fun key' => ?_
  rw [last?_append, last?_cons, last?_append]
  by_cases here : key = key'
  · obtain ⟨last, found⟩ := exists_last? later
    rw [← here, found]
    rfl
  · rw [if_neg here, Option.or_none]

theorem of_written (written : Written s members) : Tells members s := by
  induction written with
  | declared => exact declared s
  | reordered _ distinct same ih => exact ih.congr (last?_perm same distinct)
  | filled _ usual absent ih => exact ih.filled usual absent
  | dropped _ usual alone ih => exact ih.dropped usual alone
  | noted _ text ih => exact ih.noted text
  | replaced _ later value ih => exact ih.replaced later value

end Tells

end Settings

/-! ## Texts of settings -/

namespace Json

/-- The compact text of members whose values hold no others, in the order that they have. -/
theorem spellsObject_write {members : List (String × Json)}
    (plain : ∀ m ∈ members, Plain 0 m.2) : SpellsObject members (write (.object members)) := by
  have scalar : ∀ {value : Json}, Plain 0 value → Spells (deepest - 1) value (write value) := by
    intro value plain
    have spelled := (spellsScalar_indent plain 0).spells (deepest - 1)
    cases value with
    | array _ => exact plain.elim
    | object _ => exact plain.elim
    | _ => exact spelled
  have written : List.Forall₂ (fun m text => ∃ item, Spells (deepest - 1) m.2 item
      ∧ text = writeString m.1 ++ ':' :: item) members (writeMembers members) := by
    induction members with
    | nil => exact .nil
    | cons m rest ih =>
        obtain ⟨first, later⟩ := List.forall_mem_cons.mp plain
        exact .cons ⟨_, scalar first, rfl⟩ (ih later)
  have wrap : ∀ {m : String × Json} {before text after}, IsGap before →
      (∃ item, Spells (deepest - 1) m.2 item ∧ text = writeString m.1 ++ ':' :: item) →
      IsGap after → SpellsMember (Spells (deepest - 1)) m (before ++ text ++ after) := by
    rintro ⟨key, value⟩ before _ after front ⟨item, spelled, rfl⟩ back
    have whole := SpellsMember.mk front (spellsString_write key) isGap_nil
      (.mk isGap_nil spelled back)
    simpa using whole
  have whole : SpellsObject members ([] ++ ('\x7b' :: separated [','] (writeMembers members)
      ++ ['\x7d']) ++ []) := by
    cases members with
    | nil => exact .empty isGap_nil isGap_nil isGap_nil
    | cons m rest =>
        have joined := @joined_block _ (SpellsMember (Spells (deepest - 1))) _ wrap _ _ isGap_nil
          isGap_nil _ _ written (List.cons_ne_nil _ _)
        rw [List.append_nil] at joined
        exact .some isGap_nil joined isGap_nil
  rwa [List.append_nil] at whole

end Json

namespace LintSettings

open Settings

theorem plain_members (s : LintSettings) : ∀ m ∈ s.members, Plain 0 m.2 := by
  have optional : ∀ key text, ∀ m ∈ optionalMember key text, Plain 0 m.2 := by
    intro key text m member
    unfold optionalMember at member
    split at member
    · cases member
    · rw [List.mem_singleton.mp member]
      trivial
  intro m member
  simp only [members, List.mem_append, or_assoc] at member
  rcases member with first | config | rules | last
  · simp only [List.mem_cons, List.not_mem_nil, or_false] at first
    rcases first with rfl | rfl | rfl <;> trivial
  · exact optional _ _ m config
  · exact optional _ _ m rules
  · rw [List.mem_singleton.mp last]
    trivial

theorem ofText_compact (s : LintSettings) : ofText (Json.object s.members).compact = .ok s := by
  refine (ofText_eq_ok_iff _ s).mpr ⟨s.members, ?_, Tells.declared s⟩
  rw [Json.compact, String.toList_ofList]
  exact spellsObject_write s.plain_members

theorem ofText_toJson (s : LintSettings) : ofText s.toJson.compact = .ok s := by
  have plain : ∀ m ∈ Members.ofList s.members, Plain 0 m.2 := fun m member =>
    s.plain_members m (Members.mem_ofList member)
  have spelled : SpellsObject (Members.ofList s.members) s.toJson.compact.toList := by
    rw [Json.compact, String.toList_ofList]
    exact spellsObject_write plain
  have same : Json.ofMembers (Members.ofList s.members) = .ofMembers s.members :=
    congrArg Json.object (Members.ofList_of_ordered (Members.ordered_ofList s.members))
  rw [ofText, read_object spelled, same]
  exact (tells_iff s.members s).mp (Tells.declared s)

/-- Settings are read back from their text, and from every other text of which the members tell
them: the texts that are read as settings are the texts of such members. -/
theorem written_and_read (s : LintSettings) :
    ofText (Json.object s.members).compact = .ok s
    ∧ ofText s.toJson.compact = .ok s
    ∧ (∀ members text, Written s members → SpellsObject members text.toList →
        ofText text = .ok s)
    ∧ ∀ text, ofText text = .ok s
        ↔ ∃ members, SpellsObject members text.toList ∧ Tells members s := by
  refine ⟨s.ofText_compact, s.ofText_toJson, fun members text written spelled => ?_,
    fun text => ofText_eq_ok_iff text s⟩
  exact (ofText_eq_ok_iff text s).mpr ⟨members, spelled, .of_written written⟩

example : ofText "\x7b \"enabled\": [3], \"$schema\": \"\", \"enabled\": true \x7d"
    = .ok { initial with enabled := true } := by rfl

end LintSettings

end LintBridge
