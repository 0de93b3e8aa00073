import LintBridge.Document.LineTable
import LintBridge.Proofs.Text.Basic
import LintBridge.Proofs.Text.Encoding

/-!
# Lines as pieces of a text

`Line.ofText` cuts a text at every line feed: each line with its end, which is a line
feed, with the carriage return directly before it, or nothing for the last line.  The
line table holds the byte ranges of these lines (`ofText_lines`), which lie on character
boundaries and with their ends make up the text (`ofText_decomposes`).

A reader of bytes finds the same table: it looks at the byte before a line feed, where the
line has one, and never outside of the text (`scan?_eq_ofText`).
-/

set_option autoImplicit false

/-!
## Character boundaries

A byte offset lies on a boundary if it is the length of a beginning of the text.  From a
boundary `takeBytes` and `dropBytes` part the text there; inside a character `takeBytes`
takes the whole of it (`takeBytes_inside`).
-/

namespace LintBridge.Text

/-- No character reaches over the offset. -/
def IsBoundary (text : List Char) (offset : Nat) : Prop :=
  ∃ before after, before ++ after = text ∧ length8 before = offset

theorem IsBoundary.le {text : List Char} {offset : Nat} (boundary : IsBoundary text offset) :
    offset ≤ length8 text := by
  obtain ⟨before, after, rfl, rfl⟩ := boundary
  rw [length8_append]
  exact Nat.le_add_right ..

theorem exists_succ_length8 (c : Char) (rest : List Char) :
    ∃ n, length8 (c :: rest) = n + 1 := by
  have positive := c.utf8Size_pos
  rw [length8_cons]
  exact ⟨c.utf8Size + length8 rest - 1, by omega⟩

theorem takeBytes_zero (text : List Char) : takeBytes 0 text = [] := by
  cases text <;> rfl

theorem dropBytes_zero (text : List Char) : dropBytes 0 text = text := by
  cases text <;> rfl

theorem takeBytes_nil (n : Nat) : takeBytes n [] = [] := by
  cases n <;> rfl

theorem takeBytes_cons {n : Nat} (positive : 0 < n) (c : Char) (rest : List Char) :
    takeBytes n (c :: rest) = c :: takeBytes (n - c.utf8Size) rest := by
  cases n with
  | zero => exact absurd positive (Nat.lt_irrefl 0)
  | succ n => rfl

theorem takeBytes_append (before after : List Char) :
    takeBytes (length8 before) (before ++ after) = before := by
  induction before with
  | nil => exact takeBytes_zero after
  | cons c rest ih =>
      obtain ⟨n, length⟩ := exists_succ_length8 c rest
      have remaining : n + 1 - c.utf8Size = length8 rest := by
        rw [length8_cons] at length
        omega
      rw [length, List.cons_append, takeBytes, remaining, ih]

theorem dropBytes_append (before after : List Char) :
    dropBytes (length8 before) (before ++ after) = after := by
  induction before with
  | nil => exact dropBytes_zero after
  | cons c rest ih =>
      obtain ⟨n, length⟩ := exists_succ_length8 c rest
      have remaining : n + 1 - c.utf8Size = length8 rest := by
        rw [length8_cons] at length
        omega
      rw [length, List.cons_append, dropBytes, remaining, ih]

/-- A character of which the first bytes are taken is taken. -/
theorem takeBytes_inside (before : List Char) (c : Char) (after : List Char) {n : Nat}
    (behind : length8 before < n) (upTo : n ≤ length8 before + c.utf8Size) :
    takeBytes n (before ++ c :: after) = before ++ [c] := by
  induction before generalizing n with
  | nil =>
      rw [length8_nil, Nat.zero_add] at upTo
      rw [List.nil_append, takeBytes_cons behind, Nat.sub_eq_zero_of_le upTo, takeBytes_zero,
        List.nil_append]
  | cons d rest ih =>
      rw [length8_cons] at behind upTo
      rw [List.cons_append, takeBytes_cons (by omega), ih (by omega) (by omega)]
      rfl

theorem takeBytes_mono (text : List Char) {m n : Nat} (order : m ≤ n) :
    takeBytes m text <+: takeBytes n text := by
  induction text generalizing m n with
  | nil => simp [takeBytes_nil]
  | cons c rest ih =>
      cases m with
      | zero =>
          rw [takeBytes_zero]
          exact List.nil_prefix
      | succ m =>
          rw [takeBytes_cons (Nat.succ_pos m), takeBytes_cons (by omega)]
          have further : takeBytes (m + 1 - c.utf8Size) rest <+: takeBytes (n - c.utf8Size) rest :=
            ih (Nat.sub_le_sub_right order c.utf8Size)
          exact List.cons_prefix_cons.mpr ⟨rfl, further⟩

/-- The text of a range that begins behind one part and has the length of the next. -/
theorem slice_append (before middle after : List Char) {stop : Nat}
    (behind : stop = length8 before + length8 middle) :
    slice ⟨length8 before, stop⟩ (before ++ (middle ++ after)) = middle := by
  have length : TextRange.length ⟨length8 before, stop⟩ = length8 middle := by
    rw [TextRange.length, behind, Nat.add_sub_cancel_left]
  rw [slice, length, dropBytes_append, takeBytes_append]

end LintBridge.Text

namespace LintBridge

/-- A line of a text and the characters that end it. -/
structure Line where
  text : List Char
  ending : List Char
  deriving DecidableEq, Repr

namespace Line

/-- A piece that a line feed ends. -/
def ended (piece : List Char) : Line :=
  if piece.getLast? = some '\r' then ⟨piece.dropLast, ['\r', '\n']⟩ else ⟨piece, ['\n']⟩

/-- The lines of the pieces between line feeds. -/
def ofPieces : List (List Char) → List Line
  | [] => []
  | [last] => [⟨last, []⟩]
  | piece :: rest => ended piece :: ofPieces rest

/-- The byte ranges of lines, the first of which starts at a byte. -/
def ranges : Nat → List Line → List TextRange
  | _, [] => []
  | start, line :: rest =>
      ⟨start, start + Text.length8 line.text⟩
        :: ranges (start + Text.length8 line.text + Text.length8 line.ending) rest

/-- The lines of a text. -/
def ofText (text : List Char) : List Line :=
  ofPieces (text.splitOn '\n')

theorem ended_whole (piece : List Char) :
    (ended piece).text ++ (ended piece).ending = piece ++ ['\n'] := by
  unfold ended
  split
  · rename_i last
    obtain ⟨before, rfl⟩ := List.getLast?_eq_some_iff.mp last
    simp
  · rfl

theorem ended_length8 (piece : List Char) :
    Text.length8 (ended piece).text + Text.length8 (ended piece).ending
      = Text.length8 piece + 1 := by
  rw [← Text.length8_append, ended_whole, Text.length8_append]
  rfl

theorem lineFeed_notMem_ended {piece : List Char} (inLine : '\n' ∉ piece) :
    '\n' ∉ (ended piece).text := by
  unfold ended
  split
  · exact fun member => inLine (List.dropLast_subset piece member)
  · exact inLine

theorem ofPieces_cons (piece : List Char) {rest : List (List Char)} (more : rest ≠ []) :
    ofPieces (piece :: rest) = ended piece :: ofPieces rest := by
  cases rest with
  | nil => exact absurd rfl more
  | cons next others => rfl

/-- A text has no line feed, or a first one with a text behind it. -/
theorem induction_on_lines {motive : List Char → Prop}
    (last : ∀ text, '\n' ∉ text → motive text)
    (cut : ∀ before rest, '\n' ∉ before → motive rest → motive (before ++ '\n' :: rest))
    (text : List Char) : motive text := by
  by_cases member : '\n' ∈ text
  · obtain ⟨before, rest, rfl, inLine⟩ := List.eq_append_cons_of_mem member
    exact cut before rest inLine (induction_on_lines last cut rest)
  · exact last text member
termination_by text.length
decreasing_by
  subst text
  simp only [List.length_append, List.length_cons]
  omega

theorem ofText_cut {before : List Char} (inLine : '\n' ∉ before) (rest : List Char) :
    ofText (before ++ '\n' :: rest) = ended before :: ofText rest := by
  rw [ofText, List.splitOn_append_cons_self_of_not_mem inLine,
    ofPieces_cons before (List.splitOn_ne_nil '\n' rest)]
  rfl

theorem ofText_last {text : List Char} (inLine : '\n' ∉ text) : ofText text = [⟨text, []⟩] := by
  rw [ofText, List.splitOn_eq_singleton inLine]
  rfl

theorem ranges_length (start : Nat) (lines : List Line) :
    (ranges start lines).length = lines.length := by
  induction lines generalizing start with
  | nil => rfl
  | cons line rest ih => simp only [ranges, List.length_cons, ih]

theorem ofText_length (text : List Char) : (ofText text).length = text.count '\n' + 1 := by
  induction text using induction_on_lines with
  | last text inLine => simp [ofText_last inLine, List.count_eq_zero_of_not_mem inLine]
  | cut before rest inLine ih =>
      simp [ofText_cut inLine, ih, List.count_eq_zero_of_not_mem inLine]

end Line

namespace LineTable

/-- The table's reader inside a line of which some characters are read. -/
def Cursor.inLine (start : Nat) (sofar : List Char) : Cursor :=
  ⟨start, start + Text.length8 sofar, sofar.getLast? = some '\r'⟩

theorem linesFrom_inLine (start : Nat) (sofar before rest : List Char) (done : List TextRange)
    (inLine : '\n' ∉ before) :
    linesFrom (.inLine start sofar) done (before ++ rest)
      = linesFrom (.inLine start (sofar ++ before)) done rest := by
  induction before generalizing sofar with
  | nil => simp
  | cons c others ih =>
      rw [List.mem_cons, not_or] at inLine
      have further : Cursor.inLine start (sofar ++ [c])
          = ⟨start, start + Text.length8 sofar + c.utf8Size, c = '\r'⟩ := by
        simp [Cursor.inLine, Nat.add_assoc]
      have stepped := ih (sofar ++ [c]) inLine.2
      rw [further, List.append_assoc] at stepped
      simp only [List.cons_append, linesFrom, Ne.symm inLine.1, if_false]
      exact stepped

theorem line_inLine (start : Nat) (piece : List Char) :
    (Cursor.inLine start piece).line
      = ⟨start, start + Text.length8 (Line.ended piece).text⟩ := by
  unfold Cursor.line Cursor.inLine Line.ended
  by_cases last : piece.getLast? = some '\r'
  · obtain ⟨before, rfl⟩ := List.getLast?_eq_some_iff.mp last
    simp [Text.utf8Size_return]
  · simp [last]

theorem linesFrom_eq_ranges (text : List Char) (start : Nat) (done : List TextRange) :
    linesFrom ⟨start, start, false⟩ done text
      = done.reverse ++ Line.ranges start (Line.ofText text) := by
  have fresh : (⟨start, start, false⟩ : Cursor) = .inLine start [] := rfl
  induction text using Line.induction_on_lines generalizing start done with
  | last text inLine =>
      have read := linesFrom_inLine start [] text [] done inLine
      rw [List.append_nil] at read
      rw [fresh, read, Line.ofText_last inLine]
      simp [linesFrom, Cursor.inLine, Line.ranges]
  | cut before rest inLine ih =>
      rw [fresh, linesFrom_inLine start [] before ('\n' :: rest) done inLine,
        List.nil_append, linesFrom, if_pos rfl, ih _ _ rfl, line_inLine,
        Line.ofText_cut inLine]
      have behind : (Cursor.inLine start before).offset + 1
          = start + Text.length8 (Line.ended before).text
              + Text.length8 (Line.ended before).ending := by
        rw [Nat.add_assoc, Line.ended_length8]
        rfl
      simp only [behind, Line.ranges, List.reverse_cons, List.append_assoc,
        List.singleton_append]

theorem ofText_lines (text : List Char) :
    (ofText text).lines = Line.ranges 0 (Line.ofText text) :=
  linesFrom_eq_ranges text 0 []

theorem ofText_count (text : List Char) : (ofText text).count = text.count '\n' + 1 := by
  rw [count, ofText_lines, Line.ranges_length, Line.ofText_length]

end LineTable

/-! ## Lines with their ends -/

namespace Line

/-- The line and its end. -/
def whole (line : Line) : List Char :=
  line.text ++ line.ending

theorem ofText_whole (text : List Char) : (ofText text).flatMap whole = text := by
  induction text using induction_on_lines with
  | last text inLine => simp [ofText_last inLine, whole]
  | cut before rest inLine ih =>
      rw [ofText_cut inLine, List.flatMap_cons, ih, whole, ended_whole, List.append_assoc,
        List.singleton_append]

theorem lineFeed_notMem_ofText {text : List Char} {line : Line} (member : line ∈ ofText text) :
    '\n' ∉ line.text := by
  induction text using induction_on_lines with
  | last text inLine =>
      rw [ofText_last inLine, List.mem_singleton] at member
      subst member
      exact inLine
  | cut before rest inLine ih =>
      rw [ofText_cut inLine, List.mem_cons] at member
      rcases member with rfl | later
      · exact lineFeed_notMem_ended inLine
      · exact ih later

theorem ending_ended (piece : List Char) :
    (ended piece).ending = ['\n'] ∨ (ended piece).ending = ['\r', '\n'] := by
  unfold ended
  split
  · exact .inr rfl
  · exact .inl rfl

/-- Every line but the last one ends with a line feed or with both characters. -/
theorem exists_ofText (text : List Char) :
    ∃ lines last, ofText text = lines ++ [⟨last, []⟩]
      ∧ ∀ line ∈ lines, line.ending = ['\n'] ∨ line.ending = ['\r', '\n'] := by
  induction text using induction_on_lines with
  | last text inLine =>
      exact ⟨[], text, ofText_last inLine, fun _ absent => absurd absent List.not_mem_nil⟩
  | cut before rest inLine ih =>
      obtain ⟨lines, last, same, ends⟩ := ih
      refine ⟨ended before :: lines, last, ?_, ?_⟩
      · rw [ofText_cut inLine, same, List.cons_append]
      · exact List.forall_mem_cons.mpr ⟨ending_ended before, ends⟩

/-! ## Ranges of lines in a text -/

section

variable (front : List Char) (lines : List Line) (last : List Char)

theorem ranges_cons (line : Line) :
    ranges (Text.length8 front) (line :: lines)
      = ⟨Text.length8 front, Text.length8 front + Text.length8 line.text⟩
        :: ranges (Text.length8 (front ++ line.whole)) lines := by
  rw [ranges, whole, Text.length8_append, Text.length8_append, Nat.add_assoc]

theorem exists_ranges (start : Nat) :
    ∃ stop others, ranges start (lines ++ [Line.mk last []]) = ⟨start, stop⟩ :: others := by
  cases lines <;> exact ⟨_, _, rfl⟩

/-- The ranges of lines that stand behind one another lie on character boundaries. -/
theorem ranges_boundaries :
    ∀ range ∈ ranges (Text.length8 front) lines,
      range.start ≤ range.stop ∧ Text.IsBoundary (front ++ lines.flatMap whole) range.start
        ∧ Text.IsBoundary (front ++ lines.flatMap whole) range.stop := by
  induction lines generalizing front with
  | nil => exact fun _ absent => absurd absent List.not_mem_nil
  | cons line rest ih =>
      have further := ih (front ++ line.whole)
      rw [ranges_cons, List.forall_mem_cons, List.flatMap_cons]
      rw [List.append_assoc] at further
      refine ⟨⟨Nat.le_add_right .., ⟨front, _, rfl, rfl⟩, front ++ line.text,
        line.ending ++ rest.flatMap whole, ?_, Text.length8_append ..⟩, further⟩
      rw [whole, List.append_assoc, List.append_assoc]

theorem ranges_slices :
    (ranges (Text.length8 front) lines).map (Text.slice · (front ++ lines.flatMap whole))
      = lines.map (·.text) := by
  induction lines generalizing front with
  | nil => rfl
  | cons line rest ih =>
      have further := ih (front ++ line.whole)
      have here := Text.slice_append front line.text (line.ending ++ rest.flatMap whole) rfl
      rw [List.append_assoc] at further
      rw [← List.append_assoc line.text, ← whole] at here
      rw [ranges_cons, List.map_cons, List.map_cons, List.flatMap_cons, further, here]

theorem ranges_last :
    (ranges (Text.length8 front) (lines ++ [Line.mk last []])).getLast?.map (·.stop)
      = some (Text.length8 (front ++ (lines ++ [Line.mk last []]).flatMap whole)) := by
  induction lines generalizing front with
  | nil => simp [ranges, whole]
  | cons line rest ih =>
      have further := ih (front ++ line.whole)
      obtain ⟨stop, others, found⟩ :=
        exists_ranges rest last (Text.length8 (front ++ line.whole))
      rw [found, List.append_assoc] at further
      rw [List.cons_append, ranges_cons, found, List.getLast?_cons_cons, further,
        List.flatMap_cons]

end

end Line

namespace LineTable

theorem boundaries_of_mem {text : List Char} {range : TextRange}
    (member : range ∈ (ofText text).lines) :
    range.start ≤ range.stop ∧ Text.IsBoundary text range.start
      ∧ Text.IsBoundary text range.stop := by
  have boundaries := Line.ranges_boundaries [] (Line.ofText text)
  rw [Line.ofText_whole, List.nil_append, Text.length8_nil, ← ofText_lines] at boundaries
  exact boundaries range member

theorem line?_le {text : List Char} {n : Nat} {range : TextRange}
    (found : (ofText text).line? n = some range) :
    range.start ≤ Text.length8 text ∧ range.stop ≤ Text.length8 text := by
  obtain ⟨-, start, stop⟩ := boundaries_of_mem (List.mem_of_getElem? found)
  exact ⟨start.le, stop.le⟩

/-- What stands between the ranges, one after the other. -/
def separators (text : List Char) : List TextRange → List (List Char)
  | first :: next :: rest =>
      Text.slice ⟨first.stop, next.start⟩ text :: separators text (next :: rest)
  | _ => []

/-- Texts with separators between them. -/
def weave : List (List Char) → List (List Char) → List Char
  | text :: texts, separator :: separators => text ++ separator ++ weave texts separators
  | texts, _ => texts.flatten

theorem separators_ranges (front : List Char) (lines : List Line) (last : List Char) :
    separators (front ++ (lines ++ [Line.mk last []]).flatMap Line.whole)
        (Line.ranges (Text.length8 front) (lines ++ [Line.mk last []]))
      = lines.map (·.ending) := by
  induction lines generalizing front with
  | nil => rfl
  | cons line rest ih =>
      have further := ih (front ++ line.whole)
      have stop : Text.length8 (front ++ line.whole)
          = Text.length8 (front ++ line.text) + Text.length8 line.ending := by
        simp only [Line.whole, Text.length8_append, Nat.add_assoc]
      have between := Text.slice_append (front ++ line.text) line.ending
        ((rest ++ [Line.mk last []]).flatMap Line.whole) stop
      obtain ⟨other, others, found⟩ :=
        Line.exists_ranges rest last (Text.length8 (front ++ line.whole))
      rw [found, List.append_assoc] at further
      rw [Text.length8_append, List.append_assoc, ← List.append_assoc line.text,
        ← Line.whole] at between
      rw [List.cons_append, Line.ranges_cons, found, List.flatMap_cons, separators, further,
        between, List.map_cons]

theorem weave_lines (lines : List Line) (last : List Char) :
    weave ((lines ++ [Line.mk last []]).map (·.text)) (lines.map (·.ending))
      = (lines ++ [Line.mk last []]).flatMap Line.whole := by
  induction lines with
  | nil => simp [weave, Line.whole]
  | cons line rest ih =>
      rw [List.cons_append, List.map_cons, List.map_cons, weave, ih, List.flatMap_cons, Line.whole]

/-! ## Line feeds by their offsets -/

/-- The byte offsets of the line feeds of a text that begins at an offset. -/
def feeds : Nat → List Char → List Nat
  | _, [] => []
  | offset, c :: rest =>
      if c = '\n' then offset :: feeds (offset + c.utf8Size) rest
      else feeds (offset + c.utf8Size) rest

theorem feeds_inLine (offset : Nat) {piece : List Char} (inLine : '\n' ∉ piece)
    (rest : List Char) :
    feeds offset (piece ++ rest) = feeds (offset + Text.length8 piece) rest := by
  induction piece generalizing offset with
  | nil => rfl
  | cons c others ih =>
      rw [List.mem_cons, not_or] at inLine
      rw [List.cons_append, feeds, if_neg (Ne.symm inLine.1), ih _ inLine.2, Text.length8_cons,
        Nat.add_assoc]

theorem feeds_cut (offset : Nat) {before : List Char} (inLine : '\n' ∉ before)
    (rest : List Char) :
    feeds offset (before ++ '\n' :: rest)
      = (offset + Text.length8 before) :: feeds (offset + Text.length8 before + 1) rest := by
  rw [feeds_inLine offset inLine, feeds, if_pos rfl, Text.utf8Size_lineFeed]

theorem feeds_last (offset : Nat) {text : List Char} (inLine : '\n' ∉ text) :
    feeds offset text = [] := by
  have none_left := feeds_inLine offset inLine []
  rwa [List.append_nil] at none_left

/-- The lines start at the beginning and one behind each line feed. -/
theorem starts_ranges (start : Nat) (text : List Char) :
    (Line.ranges start (Line.ofText text)).map (·.start)
      = start :: (feeds start text).map (· + 1) := by
  induction text using Line.induction_on_lines generalizing start with
  | last text inLine => rw [Line.ofText_last inLine, feeds_last start inLine]; rfl
  | cut before rest inLine ih =>
      have whole := Line.ended_length8 before
      have behind : start + Text.length8 (Line.ended before).text
          + Text.length8 (Line.ended before).ending = start + Text.length8 before + 1 := by
        omega
      rw [Line.ofText_cut inLine, feeds_cut start inLine, Line.ranges, List.map_cons, behind, ih,
        List.map_cons]

/-! ## A reader of bytes -/

/-- One less, where there is one. -/
def lower? : Nat → Option Nat
  | 0 => none
  | n + 1 => some n

/-- The line from its start to a line feed, by a look at the byte before. -/
def lineAt? (bytes : Bytes) (start feed : Nat) : Option TextRange :=
  if start < feed then do
    let before ← lower? feed
    let byte ← bytes[before]?
    if byte = 13 then return ⟨start, ← lower? feed⟩ else return ⟨start, feed⟩
  else some ⟨start, feed⟩

/-- The lines of a text, from a start and the line feeds behind it.  There are none where a
byte outside of the text is looked at or a number falls below zero. -/
def scan? (bytes : Bytes) : Nat → List Nat → Option (List TextRange)
  | start, [] => some [⟨start, bytes.length⟩]
  | start, feed :: rest => do
      let line ← lineAt? bytes start feed
      let others ← scan? bytes (feed + 1) rest
      return line :: others

theorem length_utf8Bytes (text : List Char) :
    (text.flatMap String.utf8EncodeChar).length = Text.length8 text := by
  induction text with
  | nil => rfl
  | cons c rest ih =>
      rw [List.flatMap_cons, List.length_append, ih, String.length_utf8EncodeChar,
        Text.length8_cons]

/-- The last byte of a character is that of a carriage return only if the character is one. -/
theorem getLast?_utf8EncodeChar (c : Char) :
    ∃ byte, (String.utf8EncodeChar c).getLast? = some byte ∧ (byte = 13 ↔ c = '\r') := by
  have isReturn : c.val.toNat = 13 ↔ c = '\r' := by
    rw [Char.ext_iff, ← UInt32.toNat_inj]
    rfl
  have is13 {n : Nat} (small : n < 256) : UInt8.ofNat n = 13 ↔ n = 13 := by
    rw [← UInt8.toNat_inj, Text.Utf8.toNat_byte small]
    rfl
  rw [String.utf8EncodeChar]
  generalize c.val.toNat = v at isReturn
  by_cases one : v ≤ 127
  · rw [if_pos one]
    exact ⟨_, rfl, (is13 (by omega)).trans isReturn⟩
  · have continued : UInt8.ofNat (v % 64 + 128) = 13 ↔ c = '\r' := by
      rw [is13 (by omega), ← isReturn]
      omega
    rw [if_neg one]
    split
    · exact ⟨_, rfl, continued⟩
    · split <;> exact ⟨_, rfl, continued⟩

/-- Before the end of a part of a text stands the last byte of its last character. -/
theorem byte_before (front : List Char) (c : Char) (rest : List Char) :
    ((front ++ c :: rest).flatMap String.utf8EncodeChar)[Text.length8 (front ++ [c]) - 1]?
      = (String.utf8EncodeChar c).getLast? := by
  have positive := c.utf8Size_pos
  have place : Text.length8 (front ++ [c]) - 1
      = (front.flatMap String.utf8EncodeChar).length + (c.utf8Size - 1) := by
    rw [length_utf8Bytes, Text.length8_append, Text.length8_cons, Text.length8_nil]
    omega
  have inside : c.utf8Size - 1 < (String.utf8EncodeChar c).length := by
    rw [String.length_utf8EncodeChar]
    omega
  rw [List.flatMap_append, List.flatMap_cons, place,
    List.getElem?_append_right (Nat.le_add_right ..), Nat.add_sub_cancel_left,
    List.getElem?_append_left inside, List.getLast?_eq_getElem?, String.length_utf8EncodeChar]

theorem lineAt?_piece (front piece rest : List Char) :
    lineAt? ((front ++ (piece ++ '\n' :: rest)).flatMap String.utf8EncodeChar)
        (Text.length8 front) (Text.length8 front + Text.length8 piece)
      = some ⟨Text.length8 front,
          Text.length8 front + Text.length8 (Line.ended piece).text⟩ := by
  rcases List.eq_nil_or_concat piece with rfl | ⟨before, c, rfl⟩
  · -- an empty line has no byte to look at
    simp [lineAt?, Line.ended]
  · obtain ⟨byte, last, isReturn⟩ := getLast?_utf8EncodeChar c
    have positive := c.utf8Size_pos
    have found := byte_before (front ++ before) c ('\n' :: rest)
    rw [last] at found
    obtain ⟨n, length⟩ : ∃ n, Text.length8 front + Text.length8 (before ++ [c]) = n + 1 :=
      ⟨Text.length8 front + Text.length8 before + c.utf8Size - 1, by simp; omega⟩
    have one_less : Text.length8 (front ++ before ++ [c]) - 1 = n := by
      rw [List.append_assoc, Text.length8_append, length, Nat.add_sub_cancel]
    have below : Text.length8 front < n + 1 := by
      rw [← length, Text.length8_append, Text.length8_cons]
      omega
    rw [one_less, List.append_assoc] at found
    rw [List.concat_eq_append, List.append_assoc before, List.singleton_append, length, lineAt?,
      if_pos below]
    simp only [lower?, Option.bind_eq_bind, Option.bind_some, found, isReturn]
    by_cases carriage : c = '\r'
    · subst carriage
      have stop : n = Text.length8 front + Text.length8 before := by
        rw [Text.length8_append, Text.length8_cons, Text.length8_nil, Text.utf8Size_return] at length
        omega
      simp [Line.ended, stop]
    · simp [Line.ended, carriage, ← length]

/-- The reader of bytes never fails, and finds the lines behind any part of a text. -/
theorem scan?_eq_ranges (front rest : List Char) :
    scan? ((front ++ rest).flatMap String.utf8EncodeChar) (Text.length8 front)
        (feeds (Text.length8 front) rest)
      = some (Line.ranges (Text.length8 front) (Line.ofText rest)) := by
  induction rest using Line.induction_on_lines generalizing front with
  | last text inLine =>
      rw [feeds_last _ inLine, Line.ofText_last inLine, scan?, length_utf8Bytes,
        Text.length8_append]
      rfl
  | cut before rest inLine ih =>
      have line := lineAt?_piece front before rest
      have further := ih (front ++ before ++ ['\n'])
      have next : Text.length8 (front ++ before ++ ['\n'])
          = Text.length8 front + Text.length8 before + 1 := by
        rw [Text.length8_append, Text.length8_append]
        rfl
      have behind : Text.length8 front + Text.length8 (Line.ended before).text
          + Text.length8 (Line.ended before).ending
            = Text.length8 front + Text.length8 before + 1 := by
        rw [Nat.add_assoc, Line.ended_length8, Nat.add_assoc]
      rw [next, List.append_assoc, List.append_assoc, List.singleton_append] at further
      rw [feeds_cut _ inLine, Line.ofText_cut inLine, Line.ranges, behind, scan?, line, further]
      rfl

theorem scan?_eq_ofText (text : List Char) :
    scan? (Text.encode (String.ofList text)) 0 (feeds 0 text) = some (ofText text).lines := by
  rw [Text.encode_eq, String.toList_ofList, ofText_lines]
  exact scan?_eq_ranges [] text

/-- The lines of a text are the pieces between its line feeds, less a carriage return at the
end of each but the last.  Their ranges are found without a look outside of the text, lie on
character boundaries one behind the other from the first byte to the last, and with a line
feed, or both characters, between them make up the text. -/
theorem ofText_decomposes (text : List Char) :
    let lines := (ofText text).lines
    scan? (Text.encode (String.ofList text)) 0 (feeds 0 text) = some lines
      ∧ (ofText text).count = text.count '\n' + 1
      ∧ lines.map (Text.slice · text) = (Line.ofText text).map (·.text)
      ∧ (∀ range ∈ lines, range.start ≤ range.stop ∧ Text.IsBoundary text range.start
          ∧ Text.IsBoundary text range.stop ∧ '\n' ∉ Text.slice range text)
      ∧ lines.map (·.start) = 0 :: (feeds 0 text).map (· + 1)
      ∧ lines.getLast?.map (·.stop) = some (Text.length8 text)
      ∧ separators text lines = ((Line.ofText text).map (·.ending)).dropLast
      ∧ (∀ separator ∈ separators text lines, separator = ['\n'] ∨ separator = ['\r', '\n'])
      ∧ weave (lines.map (Text.slice · text)) (separators text lines) = text := by
  intro lines
  obtain ⟨front, last, pieces, ends⟩ := Line.exists_ofText text
  have whole := Line.ofText_whole text
  have ranges : lines = Line.ranges 0 (Line.ofText text) := ofText_lines text
  have slices := Line.ranges_slices [] (Line.ofText text)
  rw [whole, List.nil_append, Text.length8_nil, ← ranges] at slices
  have between := separators_ranges [] front last
  rw [← pieces, whole, List.nil_append, Text.length8_nil, ← ranges] at between
  have stop := Line.ranges_last [] front last
  rw [← pieces, whole, List.nil_append, Text.length8_nil, ← ranges] at stop
  refine ⟨scan?_eq_ofText text, ofText_count text, slices, ?_, ?_, stop, ?_, ?_, ?_⟩
  · intro range member
    obtain ⟨order, first, behind⟩ := boundaries_of_mem member
    have text_in : Text.slice range text ∈ (Line.ofText text).map (·.text) := by
      rw [← slices]
      exact List.mem_map_of_mem member
    obtain ⟨line, there, same⟩ := List.mem_map.mp text_in
    refine ⟨order, first, behind, ?_⟩
    rw [← same]
    exact Line.lineFeed_notMem_ofText there
  · rw [ranges, starts_ranges]
  · rw [between, pieces, List.map_append, List.map_singleton, List.dropLast_concat]
  · rw [between]
    exact List.forall_mem_map.mpr ends
  · rw [slices, between, pieces, weave_lines, ← pieces, whole]

/-- Empty lines, a carriage return before both characters, and one at the end. -/
example : (ofText "\né\r\r\n\n😀\r".toList).lines = [⟨0, 0⟩, ⟨1, 4⟩, ⟨6, 6⟩, ⟨7, 12⟩] := by
  decide

end LineTable

end LintBridge
