import LintBridge.Proofs.Json.Members
import LintBridge.Settings.Reader

/-!
# The schema and the record

The closed schema and the record that is read behind it are two descriptions of one form.
`IsSettings` and `Holds` say the form by itself: which members there may be, and which value
each of them gives to its setting.  The schema passes the values of this form and no others,
and all of them are read.
-/

set_option autoImplicit false

namespace LintBridge

open Json

/-! ## The form -/

/-- The members in full, also the paths that are left out where they are not set. -/
def LintSettings.allMembers (settings : LintSettings) : Members :=
  [("enabled", .bool settings.enabled), ("executable", .string settings.executable),
   ("nodeInterpreter", .string settings.nodeInterpreter),
   ("configFile", .string settings.configFile),
   ("customRulesPath", .string settings.customRulesPath),
   ("treatAllAsWarnings", .bool settings.treatAllAsWarnings)]

namespace Settings

def flagKeys : List String :=
  ["enabled", "treatAllAsWarnings"]

def textKeys : List String :=
  ["executable", "nodeInterpreter", "configFile", "customRulesPath"]

/-- The members that settings may have. -/
inductive Allowed : String × Json → Prop where
  | note (text : String) : Allowed ("$schema", .string text)
  | flag {key : String} (known : key ∈ flagKeys) (value : Bool) : Allowed (key, .bool value)
  | text {key : String} (known : key ∈ textKeys) (value : String) : Allowed (key, .string value)

def IsSettings (value : Json) : Prop :=
  ∃ members, value = .object members ∧ ∀ m ∈ members, Allowed m

/-- Each setting is the value that is found under its name, or what holds where nothing is set. -/
structure Holds (find? : String → Option Json) (s : LintSettings) : Prop where
  enabled : (find? "enabled").getD (.bool LintSettings.initial.enabled) = .bool s.enabled
  executable : (find? "executable").getD (.string LintSettings.initial.executable)
    = .string s.executable
  nodeInterpreter : (find? "nodeInterpreter").getD (.string LintSettings.initial.nodeInterpreter)
    = .string s.nodeInterpreter
  configFile : (find? "configFile").getD (.string LintSettings.initial.configFile)
    = .string s.configFile
  customRulesPath : (find? "customRulesPath").getD (.string LintSettings.initial.customRulesPath)
    = .string s.customRulesPath
  treatAllAsWarnings :
    (find? "treatAllAsWarnings").getD (.bool LintSettings.initial.treatAllAsWarnings)
      = .bool s.treatAllAsWarnings

namespace Holds

variable {find? other? : String → Option Json} {s t : LintSettings}

theorem unique (one : Holds find? s) (other : Holds find? t) : s = t := by
  obtain ⟨e₁, x₁, n₁, c₁, r₁, w₁⟩ := one
  obtain ⟨e₂, x₂, n₂, c₂, r₂, w₂⟩ := other
  have flag : ∀ {v : Json} {a b : Bool}, v = .bool a → v = .bool b → a = b := by
    rintro _ a b rfl same
    exact Json.bool.inj same
  have text : ∀ {v : Json} {a b : String}, v = .string a → v = .string b → a = b := by
    rintro _ a b rfl same
    exact Json.string.inj same
  cases s
  cases t
  rw [LintSettings.mk.injEq]
  exact ⟨flag e₁ e₂, text x₁ x₂, text n₁ n₂, text c₁ c₂, text r₁ r₂, flag w₁ w₂⟩

/-- A member that is not there may as well have its usual value. -/
theorem congr (held : Holds find? s)
    (same : ∀ m ∈ LintSettings.initial.allMembers, (find? m.1).getD m.2 = (other? m.1).getD m.2) :
    Holds other? s := by
  simp only [LintSettings.allMembers, List.forall_mem_cons] at same
  obtain ⟨enabled, executable, nodeInterpreter, configFile, customRulesPath, warnings, -⟩ := same
  exact ⟨enabled ▸ held.enabled, executable ▸ held.executable,
    nodeInterpreter ▸ held.nodeInterpreter, configFile ▸ held.configFile,
    customRulesPath ▸ held.customRulesPath, warnings ▸ held.treatAllAsWarnings⟩

end Holds

/-! ## The schema -/

theorem admits_boolean_iff (value : Json) :
    SchemaType.boolean.admits value = true ↔ ∃ b, value = .bool b := by
  cases value <;> simp [SchemaType.admits]

theorem admits_string_iff (value : Json) :
    SchemaType.string.admits value = true ↔ ∃ text, value = .string text := by
  cases value <;> simp [SchemaType.admits]

theorem typeOf?_note : typeOf? "$schema" = some .string := rfl

theorem typeOf?_flag {key : String} (known : key ∈ flagKeys) : typeOf? key = some .boolean := by
  have all : ∀ key ∈ flagKeys, typeOf? key = some .boolean := by decide
  exact all key known

theorem typeOf?_text {key : String} (known : key ∈ textKeys) : typeOf? key = some .string := by
  have all : ∀ key ∈ textKeys, typeOf? key = some .string := by decide
  exact all key known

theorem typeOf?_cases (key : String) :
    key = "$schema" ∨ key ∈ flagKeys ∨ key ∈ textKeys ∨ typeOf? key = none := by
  unfold typeOf? flagKeys textKeys
  split <;> simp

theorem allowed_iff (key : String) (value : Json) :
    Allowed (key, value) ↔ ∃ type, typeOf? key = some type ∧ type.admits value = true := by
  constructor
  · intro allowed
    cases allowed with
    | note text => exact ⟨_, rfl, rfl⟩
    | flag known value => exact ⟨_, typeOf?_flag known, rfl⟩
    | text known value => exact ⟨_, typeOf?_text known, rfl⟩
  · rintro ⟨type, typed, admitted⟩
    rcases typeOf?_cases key with rfl | flag | text | unknown
    · obtain rfl := Option.some.inj (typeOf?_note.symm.trans typed)
      obtain ⟨text, rfl⟩ := (admits_string_iff value).mp admitted
      exact .note text
    · obtain rfl := Option.some.inj ((typeOf?_flag flag).symm.trans typed)
      obtain ⟨b, rfl⟩ := (admits_boolean_iff value).mp admitted
      exact .flag flag b
    · obtain rfl := Option.some.inj ((typeOf?_text text).symm.trans typed)
      obtain ⟨t, rfl⟩ := (admits_string_iff value).mp admitted
      exact .text text t
    · rw [unknown] at typed
      cases typed

theorem Allowed.flag_value {key : String} {value : Json} (allowed : Allowed (key, value))
    (known : key ∈ flagKeys) : ∃ b, value = .bool b := by
  obtain ⟨type, typed, admitted⟩ := (allowed_iff key value).mp allowed
  obtain rfl := Option.some.inj ((typeOf?_flag known).symm.trans typed)
  exact (admits_boolean_iff value).mp admitted

theorem Allowed.text_value {key : String} {value : Json} (allowed : Allowed (key, value))
    (known : key ∈ textKeys) : ∃ text, value = .string text := by
  obtain ⟨type, typed, admitted⟩ := (allowed_iff key value).mp allowed
  obtain rfl := Option.some.inj ((typeOf?_text known).symm.trans typed)
  exact (admits_string_iff value).mp admitted

theorem checkMembers_eq_ok_iff (members : Members) :
    checkMembers members = .ok () ↔ ∀ m ∈ members, Allowed m := by
  induction members with
  | nil => simp [checkMembers]
  | cons m rest ih =>
      obtain ⟨key, value⟩ := m
      rw [List.forall_mem_cons, allowed_iff, ← ih, checkMembers]
      cases typed : typeOf? key with
      | none => simp
      | some type => by_cases admitted : type.admits value = true <;> simp [admitted]

theorem check_eq_ok_iff (value : Json) : check value = .ok () ↔ IsSettings value := by
  cases value with
  | object members => simp [check, checkMembers_eq_ok_iff, IsSettings]
  | null | bool _ | integer _ | decimal _ | string _ | array _ => simp [check, IsSettings]

end Settings

/-! ## The record -/

namespace LintSettings

open Settings

theorem check_of_allowed {field : Field} (inShape : field ∈ shape.fields) {value : Json}
    (allowed : Allowed (field.name, value)) : field.check value = .ok () := by
  simp only [shape, List.mem_cons, List.not_mem_nil, or_false] at inShape
  rcases inShape with rfl | rfl | rfl | rfl | rfl | rfl
  · obtain ⟨b, rfl⟩ := allowed.flag_value (by decide)
    rfl
  · obtain ⟨text, rfl⟩ := allowed.text_value (by decide)
    rfl
  · obtain ⟨text, rfl⟩ := allowed.text_value (by decide)
    rfl
  · obtain ⟨text, rfl⟩ := allowed.text_value (by decide)
    rfl
  · obtain ⟨text, rfl⟩ := allowed.text_value (by decide)
    rfl
  · obtain ⟨b, rfl⟩ := allowed.flag_value (by decide)
    rfl

section

variable {members : Members} (allowed : ∀ m ∈ members, Allowed m)
include allowed

theorem members_of_allowed : shape.members (.object members) = .ok members := by
  have passed : shape.checkMembers members = .ok () := by
    apply Shape.checkMembers_eq_ok
    intro m member field inShape named
    have here := allowed m member
    exact check_of_allowed inShape (named ▸ here)
  have present : Shape.checkPresence members shape.fields = .ok () := by
    apply Shape.checkPresence_eq_ok
    intro field inShape required
    simp only [shape, List.mem_cons, List.not_mem_nil, or_false] at inShape
    rcases inShape with rfl | rfl | rfl | rfl | rfl | rfl <;> cases required
  unfold Shape.members Shape.membersWith
  simp only [passed, present, bind, Except.bind]
  rfl

theorem allowed_of_find? {key : String} {value : Json}
    (found : Members.find? key members = some value) : Allowed (key, value) := by
  obtain ⟨m, there, rfl⟩ := Option.map_eq_some_iff.mp found
  have named : m.1 = key := by simpa using List.find?_some there
  have here := allowed m (List.mem_of_find?_eq_some there)
  rwa [← named]

theorem exists_flag (key : String) (known : key ∈ flagKeys) (missing : Bool) :
    ∃ b, members.get key Decoder.bool missing = .ok b
      ∧ (Members.find? key members).getD (.bool missing) = .bool b := by
  unfold Members.get
  cases found : Members.find? key members with
  | none => exact ⟨missing, rfl, rfl⟩
  | some value =>
      obtain ⟨b, rfl⟩ := (allowed_of_find? allowed found).flag_value known
      exact ⟨b, rfl, rfl⟩

theorem exists_text (key : String) (known : key ∈ textKeys) (missing : String) :
    ∃ text, members.get key Decoder.text missing = .ok text
      ∧ (Members.find? key members).getD (.string missing) = .string text := by
  unfold Members.get
  cases found : Members.find? key members with
  | none => exact ⟨missing, rfl, rfl⟩
  | some value =>
      obtain ⟨text, rfl⟩ := (allowed_of_find? allowed found).text_value known
      exact ⟨text, rfl, rfl⟩

/-- A value of the form is read as the settings that it holds. -/
theorem exists_decode :
    ∃ s, decode (.object members) = .ok s ∧ Holds (Members.find? · members) s := by
  obtain ⟨enabled, read₁, held₁⟩ :=
    exists_flag allowed "enabled" (by decide) initial.enabled
  obtain ⟨executable, read₂, held₂⟩ :=
    exists_text allowed "executable" (by decide) initial.executable
  obtain ⟨nodeInterpreter, read₃, held₃⟩ :=
    exists_text allowed "nodeInterpreter" (by decide) initial.nodeInterpreter
  obtain ⟨configFile, read₄, held₄⟩ :=
    exists_text allowed "configFile" (by decide) initial.configFile
  obtain ⟨customRulesPath, read₅, held₅⟩ :=
    exists_text allowed "customRulesPath" (by decide) initial.customRulesPath
  obtain ⟨treatAllAsWarnings, read₆, held₆⟩ :=
    exists_flag allowed "treatAllAsWarnings" (by decide) initial.treatAllAsWarnings
  refine ⟨⟨enabled, executable, nodeInterpreter, configFile, customRulesPath,
    treatAllAsWarnings⟩, ?_, held₁, held₂, held₃, held₄, held₅, held₆⟩
  simp only [initial] at read₁ read₂ read₃ read₄ read₅ read₆
  simp only [decode, members_of_allowed allowed, read₁, read₂, read₃, read₄, read₅, read₆, bind,
    Except.bind]
  rfl

end

theorem decode_eq_ok_iff {value : Json} (form : IsSettings value) (s : LintSettings) :
    decode value = .ok s ↔ Holds (value.member? ·) s := by
  obtain ⟨members, rfl, allowed⟩ := form
  obtain ⟨t, read, held⟩ := exists_decode allowed
  rw [read, Except.ok.injEq]
  constructor
  · rintro rfl
    exact held
  · intro held'
    exact held.unique held'

theorem ofValue_of_form {value : Json} (form : IsSettings value) :
    ofValue value = (decode value).mapError fun m => .config ("Invalid settings: " ++ m.message) := by
  rw [ofValue, (check_eq_ok_iff value).mpr form]

theorem ofValue_eq_ok_iff (value : Json) (s : LintSettings) :
    ofValue value = .ok s ↔ IsSettings value ∧ Holds (value.member? ·) s := by
  constructor
  · intro read
    have form : IsSettings value := by
      rw [← check_eq_ok_iff]
      unfold ofValue at read
      split at read
      case h_1 => cases read
      case h_2 passed => exact passed
    refine ⟨form, (decode_eq_ok_iff form s).mp ?_⟩
    rw [ofValue_of_form form] at read
    cases decoded : decode value with
    | ok t =>
        rw [decoded] at read
        cases read
        rfl
    | error mismatch =>
        rw [decoded] at read
        cases read
  · rintro ⟨form, held⟩
    rw [ofValue_of_form form, (decode_eq_ok_iff form s).mpr held]
    rfl

theorem exists_ofValue {value : Json} (form : IsSettings value) :
    ∃ s, ofValue value = .ok s := by
  obtain ⟨members, rfl, allowed⟩ := form
  obtain ⟨s, -, held⟩ := exists_decode allowed
  exact ⟨s, (ofValue_eq_ok_iff _ s).mpr ⟨⟨members, rfl, allowed⟩, held⟩⟩

theorem ofValue_of_not_form {value : Json} (form : ¬ IsSettings value) :
    ∃ fault, Settings.check value = .error fault
      ∧ ofValue value = .error (.config ("Settings validation failed: " ++ fault.message)) := by
  cases checked : Settings.check value with
  | ok _ => exact absurd ((check_eq_ok_iff value).mp checked) form
  | error fault =>
      refine ⟨fault, rfl, ?_⟩
      rw [ofValue, checked]

/-- The values of the form are read, each as the settings that it holds, whatever `$schema` says.
All others fail the check: what passes it is never refused behind it. -/
theorem ofValue_decided (value : Json) :
    (∀ s, ofValue value = .ok s ↔ IsSettings value ∧ Holds (value.member? ·) s)
    ∧ (IsSettings value → ∃ s, ofValue value = .ok s)
    ∧ (¬ IsSettings value → ∃ fault, Settings.check value = .error fault
        ∧ ofValue value = .error (.config ("Settings validation failed: " ++ fault.message)))
    ∧ (Settings.check value = .ok () → ∃ s, decode value = .ok s)
    ∧ ∀ other, IsSettings value → IsSettings other →
        (∀ key, key ≠ "$schema" → value.member? key = other.member? key) →
        ofValue value = ofValue other := by
  refine ⟨ofValue_eq_ok_iff value, exists_ofValue, ofValue_of_not_form, ?_, ?_⟩
  · intro passed
    obtain ⟨members, rfl, allowed⟩ := (check_eq_ok_iff value).mp passed
    obtain ⟨s, read, -⟩ := exists_decode allowed
    exact ⟨s, read⟩
  · intro other form form' same
    obtain ⟨s, read⟩ := exists_ofValue form
    have held := ((ofValue_eq_ok_iff value s).mp read).2
    have noted : ∀ m ∈ initial.allMembers, m.1 ≠ "$schema" := by simp [allMembers]
    have held' : Holds (other.member? ·) s := held.congr fun m member =>
      congrArg (·.getD m.2) (same m.1 (noted m member))
    rw [read, (ofValue_eq_ok_iff other s).mpr ⟨form', held'⟩]

example : ofValue (.object [("configFile", .null)])
    = .error (.config "Settings validation failed: null is not of type \"string\" at /configFile") :=
  rfl

end LintSettings

end LintBridge
