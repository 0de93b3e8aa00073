import LintBridge.Proofs.Markup.Boundaries
import LintBridge.Proofs.Report.Meaning

/-!
# Truncated reports

The tag that ends the root element is the border: a report that is cut anywhere in front of
the end of this tag is malformed, and one that is cut right there is the whole report.
-/

set_option autoImplicit false

namespace LintBridge.Report

open Markup Text

theorem parse_value_cases (text : String) :
    (∃ report, (parse text).value = .ok report)
      ∨ ∃ message, (parse text).value = .error (.malformedReport message) := by
  simp only [parse, Logged.value_bind, Logged.value_pure]
  cases (read text).value with
  | ok report => exact .inl ⟨report, rfl⟩
  | error malformed => exact .inr ⟨malformed.message, rfl⟩

section

variable {text cut rest : List Char} {report : Report}

/-- A report closes every element, and its elements mean it. -/
theorem closed_of_parse (accepted : (parse (String.ofList text)).value = .ok report) :
    openAfter 0 (Markup.read text).1 = some 0
      ∧ ∀ elements, Spelled elements (Markup.read text).1 → Means elements report := by
  rw [parse_value_eq_ok_iff, String.toList_ofList] at accepted
  obtain ⟨unbroken, closed⟩ := Collector.run_closed (read_nested text) accepted
  refine ⟨closed, ?_⟩
  intro elements spelled
  rw [unbroken] at accepted
  exact (Collector.run_document spelled report).mp accepted

theorem parse_of_means {elements : List Element} (unbroken : (Markup.read text).2 = none)
    (spelled : Spelled elements (Markup.read text).1) (means : Means elements report) :
    (parse (String.ofList text)).value = .ok report := by
  rw [parse_value_eq_ok_iff, String.toList_ofList, unbroken]
  exact (Collector.run_document spelled report).mpr means

theorem exists_rootEnd? (accepted : (parse (String.ofList text)).value = .ok report) :
    ∃ k, rootEnd? text = some k := by
  obtain ⟨closed, told⟩ := closed_of_parse accepted
  obtain ⟨elements, spelled⟩ := exists_spelled closed
  obtain ⟨root, rfl, -⟩ := told elements spelled
  have solid : ∃ p ∈ placed text, p.1 ≠ .aside := by
    obtain ⟨event, member, solid⟩ := spelled.ne_nil_iff.mp (List.cons_ne_nil root [])
    rw [read_events] at member
    obtain ⟨p, inside, rfl⟩ := List.mem_map.mp member
    exact ⟨p, inside, solid⟩
  rw [read_events] at closed
  exact exists_elementEnd? closed (.inr solid)

/-- A cut that is a report itself holds the end of the root. -/
theorem rootEnd?_le {k : Nat} (ends : rootEnd? (cut ++ rest) = some k)
    (accepted : (parse (String.ofList cut)).value = .ok report) : k ≤ length8 cut := by
  obtain ⟨j, found⟩ := exists_rootEnd? accepted
  obtain ⟨later, same, within, -⟩ := exists_placed_append cut rest
  have ends' : rootEnd? (cut ++ rest) = some j := by
    rw [rootEnd?, same]
    exact elementEnd?_append found later
  obtain rfl : j = k := Option.some.inj (ends'.symm.trans ends)
  obtain ⟨front, event, back, split, -⟩ := exists_of_elementEnd? found
  refine within (event, j) ?_
  rw [split]
  exact List.mem_append_right front (List.mem_cons_self ..)

/-- Up to the end of the root a text completes what ends it, and nothing behind it. -/
theorem placed_cut (ends : rootEnd? (cut ++ rest) = some (length8 cut)) :
    ∃ front event, placed cut = front ++ [(event, length8 cut)] ∧ event ≠ .aside
      ∧ openAfter 0 ((placed cut).map Prod.fst) = some 0 := by
  obtain ⟨front, event, back, split, solid, closed⟩ := exists_of_elementEnd? ends
  have ordered := placed_ordered (cut ++ rest)
  rw [split] at ordered
  obtain ⟨-, behind, before⟩ := List.pairwise_append.mp ordered
  have early : (front ++ [(event, length8 cut)]).filter (·.2 ≤ length8 cut)
      = front ++ [(event, length8 cut)] := by
    refine List.filter_eq_self.mpr fun p member => decide_eq_true ?_
    rcases List.mem_append.mp member with inside | last
    · exact Nat.le_of_lt (before p inside _ (List.mem_cons_self ..))
    · obtain rfl := List.mem_singleton.mp last
      exact Nat.le_refl _
  have late : back.filter (·.2 ≤ length8 cut) = [] := by
    refine List.filter_eq_nil_iff.mpr fun p member => ?_
    have beyond := (List.pairwise_cons.mp behind).1 p member
    simpa using beyond
  have whole : placed cut = front ++ [(event, length8 cut)] := by
    rw [placed_eq_filter cut rest, split, List.append_cons, List.filter_append, early, late,
      List.append_nil]
  exact ⟨front, event, whole, solid, whole ▸ closed⟩

/-- A report that is cut behind the end of its root is the same one. -/
theorem parse_cut (accepted : (parse (String.ofList (cut ++ rest))).value = .ok report)
    (ends : rootEnd? (cut ++ rest) = some (length8 cut)) :
    (parse (String.ofList cut)).value = .ok report := by
  obtain ⟨closed, told⟩ := closed_of_parse accepted
  obtain ⟨front, event, split, solid, early⟩ := placed_cut ends
  obtain ⟨later, same, -, -⟩ := exists_placed_append cut rest
  have last : (event, length8 cut) ∈ placed cut := by
    rw [split]
    exact List.mem_append_right front (List.mem_singleton_self _)
  rw [read_events, same, List.map_append] at closed told
  rw [openAfter_append, early, Option.bind_some] at closed
  obtain ⟨elements, spelled⟩ := exists_spelled early
  obtain ⟨others, spelledLater⟩ := exists_spelled closed
  have means := told _ (spelled.append spelledLater)
  obtain ⟨root, alone, -⟩ := id means
  -- The cut has an element, so the one that the document has is in it.
  have some_ : elements ≠ [] :=
    spelled.ne_nil_iff.mpr ⟨event, List.mem_map.mpr ⟨_, last, rfl⟩, solid⟩
  have nothing : others = [] := by
    have count := congrArg List.length alone
    have one := List.length_pos_iff.mpr some_
    rw [List.length_append, List.length_singleton] at count
    exact List.length_eq_zero_iff.mp (by omega)
  rw [nothing, List.append_nil] at means
  rw [← read_events] at spelled
  exact parse_of_means (read_complete last rfl) spelled means

end

/-- A report ends at the bracket of the tag that ends its root.  Cut anywhere in front of the
end of this bracket it is malformed, and cut right behind it it is the same report. -/
theorem parse_cut_malformed (text : String) (report : Report)
    (accepted : (parse text).value = .ok report) :
    ∃ k, rootEnd? text.toList = some k
      ∧ (∃ front back, text.toList = front ++ '>' :: back ∧ length8 front + 1 = k)
      ∧ ∀ cut, cut <+: text.toList →
        (length8 cut < k →
          ∃ message, (parse (String.ofList cut)).value = .error (.malformedReport message))
        ∧ (length8 cut = k → (parse (String.ofList cut)).value = .ok report) := by
  rw [← String.ofList_toList (s := text)] at accepted
  obtain ⟨k, ends⟩ := exists_rootEnd? accepted
  refine ⟨k, ends, ?_, ?_⟩
  · obtain ⟨front, event, back, split, -⟩ := exists_of_elementEnd? ends
    have member : (event, k) ∈ placed text.toList := by
      rw [split]
      exact List.mem_append_right front (List.mem_cons_self ..)
    exact exists_bracket member
  · rintro cut ⟨rest, whole⟩
    rw [← whole] at accepted ends
    refine ⟨fun early => ?_, ?_⟩
    · rcases parse_value_cases (String.ofList cut) with ⟨other, accepted'⟩ | malformed
      · have late := rootEnd?_le ends accepted'
        omega
      · exact malformed
    · rintro rfl
      exact parse_cut accepted ends

/-- Brackets in a comment, in quotes and in a doctype, and text behind the root. -/
def bracketedText : String :=
  "<!DOCTYPE a [<!b>]><checkstyle><!-- > --><file name='>'/></checkstyle> <?x?>"

theorem bracketed_cuts :
    (parse bracketedText).value = .ok ⟨none, some ⟨">", []⟩⟩
      ∧ rootEnd? bracketedText.toList = some 70
      ∧ ∀ cut, cut <+: bracketedText.toList → length8 cut < 70 →
        ∃ message, (parse (String.ofList cut)).value = .error (.malformedReport message) := by
  have accepted : (parse bracketedText).value = .ok ⟨none, some ⟨">", []⟩⟩ := rfl
  have place : rootEnd? bracketedText.toList = some 70 := by decide
  obtain ⟨k, ends, -, cuts⟩ := parse_cut_malformed bracketedText _ accepted
  obtain rfl : k = 70 := Option.some.inj (ends.symm.trans place)
  refine ⟨accepted, place, ?_⟩
  intro cut isCut early
  exact (cuts cut isCut).1 early

end LintBridge.Report
