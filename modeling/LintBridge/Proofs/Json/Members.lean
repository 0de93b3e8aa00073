import LintBridge.Json.Decoder
import LintBridge.Proofs.Result
import Mathlib.Data.List.Nodup
import Mathlib.Data.String.Basic

/-!
# Members of an object

An object that is put together of members has them in the order of their keys, and the last
one of a key counts.  A record whose members all pass the checks of a shape has the shape,
and what is needed of it is what was put in.
-/

set_option autoImplicit false

namespace LintBridge.Json

namespace Members

/-! ## Order -/

/-- The keys ascend, so each is there once. -/
def Ordered (members : Members) : Prop :=
  members.Pairwise fun m n => m.1 < n.1

theorem mem_insert {key : String} {value : Json} {members : Members} {m : String × Json}
    (member : m ∈ insert key value members) : m = (key, value) ∨ m ∈ members := by
  induction members with
  | nil => exact .inl (List.mem_singleton.mp member)
  | cons first rest ih =>
      unfold insert at member
      split at member
      · exact List.mem_cons.mp member
      · split at member
        · exact (List.mem_cons.mp member).imp_right (List.mem_cons_of_mem _)
        · rcases List.mem_cons.mp member with same | later
          · exact .inr (same ▸ List.mem_cons_self ..)
          · exact (ih later).imp_right (List.mem_cons_of_mem _)

theorem Ordered.insert {key : String} {value : Json} {members : Members}
    (ordered : Ordered members) : Ordered (insert key value members) := by
  induction members with
  | nil => exact List.pairwise_singleton _ _
  | cons first rest ih =>
      obtain ⟨behind, later⟩ := List.pairwise_cons.mp ordered
      unfold Members.insert
      split
      case isTrue before =>
        refine List.pairwise_cons.mpr ⟨fun m member => ?_, ordered⟩
        rcases List.mem_cons.mp member with rfl | member
        · exact before
        · exact lt_trans before (behind m member)
      case isFalse notBefore =>
        split
        case isTrue same => exact List.pairwise_cons.mpr ⟨same ▸ behind, later⟩
        case isFalse other =>
          refine List.pairwise_cons.mpr ⟨fun m member => ?_, ih later⟩
          rcases mem_insert member with rfl | member
          · exact lt_of_le_of_ne (not_lt.mp notBefore) (Ne.symm other)
          · exact behind m member

theorem ordered_ofList (given : List (String × Json)) : Ordered (ofList given) := by
  have step : ∀ done : Members, Ordered done →
      Ordered (given.foldl (fun done m => insert m.1 m.2 done) done) := by
    induction given with
    | nil => exact fun _ ordered => ordered
    | cons m rest ih => exact fun done ordered => ih _ ordered.insert
  exact step [] .nil

theorem insert_last {key : String} {value : Json} {members : Members}
    (last : ∀ m ∈ members, m.1 < key) : insert key value members = members ++ [(key, value)] := by
  induction members with
  | nil => rfl
  | cons first rest ih =>
      have before := last first (List.mem_cons_self ..)
      rw [insert, if_neg (not_lt.mpr (le_of_lt before)), if_neg (ne_of_gt before),
        ih fun m member => last m (List.mem_cons_of_mem _ member)]
      rfl

theorem ofList_of_ordered {members : Members} (ordered : Ordered members) :
    ofList members = members := by
  have step : ∀ done : Members, Ordered (done ++ members) →
      members.foldl (fun done m => insert m.1 m.2 done) done = done ++ members := by
    clear ordered
    induction members with
    | nil => exact fun done _ => (List.append_nil done).symm
    | cons m rest ih =>
        intro done ordered
        have last : ∀ n ∈ done, n.1 < m.1 := fun n member =>
          (List.pairwise_append.mp ordered).2.2 n member m (List.mem_cons_self ..)
        rw [List.foldl_cons, insert_last last, ih, List.append_assoc, List.singleton_append]
        rwa [List.append_assoc, List.singleton_append]
  exact step [] ordered

/-! ## Looking up -/

@[simp] theorem find?_nil (key : String) : find? key [] = none := rfl

@[simp] theorem find?_cons (key : String) (m : String × Json) (rest : Members) :
    find? key (m :: rest) = if m.1 = key then some m.2 else find? key rest := by
  unfold find?
  by_cases here : m.1 = key <;> simp [here]

theorem find?_insert (k key : String) (value : Json) (members : Members) :
    find? k (insert key value members) = if key = k then some value else find? k members := by
  induction members with
  | nil => rw [insert, find?_cons]
  | cons first rest ih =>
      unfold insert
      split
      case isTrue => rw [find?_cons]
      case isFalse =>
        split
        case isTrue same => simp only [find?_cons, ← same]; split <;> rfl
        case isFalse other =>
          simp only [find?_cons, ih]
          by_cases here : first.1 = k
          · rw [if_pos here, if_neg fun same => other (same.trans here.symm), if_pos here]
          · rw [if_neg here, if_neg here]

theorem find?_ofList (key : String) (given : List (String × Json)) :
    find? key (ofList given) = find? key given.reverse := by
  have step : ∀ done : Members, find? key (given.foldl (fun done m => insert m.1 m.2 done) done)
      = (find? key given.reverse).or (find? key done) := by
    induction given with
    | nil => exact fun _ => rfl
    | cons m rest ih =>
        intro done
        have apart : find? key (rest.reverse ++ [m])
            = (find? key rest.reverse).or (find? key [m]) := by
          simp only [find?, List.find?_append, Option.map_or]
        rw [List.foldl_cons, ih, find?_insert, List.reverse_cons, apart, Option.or_assoc,
          find?_cons]
        split <;> rfl
  exact (step []).trans Option.or_none

theorem find?_ofList_of_mem {given : List (String × Json)} (distinct : (given.map (·.1)).Nodup)
    {key : String} {value : Json} (member : (key, value) ∈ given) :
    find? key (ofList given) = some value := by
  have found : given.reverse.find? (·.1 = key) = some (key, value) := by
    have some' : (given.reverse.find? (·.1 = key)).isSome :=
      List.find?_isSome.mpr ⟨_, List.mem_reverse.mpr member, by simp⟩
    obtain ⟨m, found⟩ := Option.isSome_iff_exists.mp some'
    have there := List.mem_reverse.mp (List.mem_of_find?_eq_some found)
    have same : m.1 = key := by simpa using List.find?_some found
    rw [found, List.inj_on_of_nodup_map distinct there member same]
  rw [find?_ofList, find?, found]
  rfl

theorem mem_ofList {given : List (String × Json)} {m : String × Json}
    (member : m ∈ ofList given) : m ∈ given := by
  have step : ∀ done : Members,
      m ∈ given.foldl (fun done m => insert m.1 m.2 done) done → m ∈ done ∨ m ∈ given := by
    clear member
    induction given with
    | nil => exact fun _ member => .inl member
    | cons first rest ih =>
        intro done member
        rcases ih _ member with earlier | later
        · exact (mem_insert earlier).symm.imp_right fun same => List.mem_cons.mpr (.inl same)
        · exact .inr (List.mem_cons_of_mem _ later)
  exact (step [] member).resolve_left (List.not_mem_nil)

end Members

/-! ## Records -/

namespace Shape

theorem checkMembers_eq_ok {shape : Shape} {members : Members}
    (pass : ∀ m ∈ members, ∀ field ∈ shape.fields, field.name = m.1 → field.check m.2 = .ok ()) :
    shape.checkMembers members = .ok () := by
  induction members with
  | nil => rfl
  | cons m rest ih =>
      obtain ⟨first, later⟩ := List.forall_mem_cons.mp pass
      rw [checkMembers]
      cases found : shape.fields.find? (·.name = m.1) with
      | none => exact ih later
      | some field =>
          have named : field.name = m.1 := by simpa using List.find?_some found
          simp only [first field (List.mem_of_find?_eq_some found) named]
          exact ih later

theorem checkPresence_eq_ok {members : Members} {fields : List Field}
    (there : ∀ field ∈ fields, field.presence = .required →
      (members.find? field.name).isSome) : checkPresence members fields = .ok () := by
  induction fields with
  | nil => rfl
  | cons field rest ih =>
      obtain ⟨first, later⟩ := List.forall_mem_cons.mp there
      rw [checkPresence, if_neg, ih later]
      simp only [Bool.and_eq_true, decide_eq_true_eq, not_and, Bool.not_eq_true]
      exact fun required => Option.isNone_eq_false_iff.mpr (first required)

/-- Members that make up a record of a shape: they pass their checks, none that is required
is missing, and none is there twice. -/
structure Admits (shape : Shape) (given : List (String × Json)) : Prop where
  pass : ∀ m ∈ given, ∀ field ∈ shape.fields, field.name = m.1 → field.check m.2 = .ok ()
  there : ∀ field ∈ shape.fields, field.presence = .required →
    ∃ m ∈ given, m.1 = field.name
  distinct : (given.map (·.1)).Nodup

namespace Admits

variable {shape : Shape} {given : List (String × Json)}

theorem members (admits : shape.Admits given) :
    shape.members (.ofMembers given) = .ok (Members.ofList given) := by
  have pass : shape.checkMembers (Members.ofList given) = .ok () :=
    checkMembers_eq_ok fun m member => admits.pass m (Members.mem_ofList member)
  have there : checkPresence (Members.ofList given) shape.fields = .ok () := by
    refine checkPresence_eq_ok fun field member required => ?_
    obtain ⟨m, given', same⟩ := admits.there field member required
    rw [Members.find?_ofList, Members.find?, Option.isSome_map, List.find?_isSome]
    exact ⟨m, List.mem_reverse.mpr given', by simpa using same⟩
  unfold Shape.members membersWith ofMembers
  simp only [pass, there, bind, Except.bind]
  rfl

theorem need {α : Type} {key : String} {value : Json} (admits : shape.Admits given)
    (member : (key, value) ∈ given) (decode : Decoder α) :
    (Members.ofList given).need key decode = decode value := by
  rw [Members.need, Members.find?_ofList_of_mem admits.distinct member]

end Admits

end Shape

end LintBridge.Json
