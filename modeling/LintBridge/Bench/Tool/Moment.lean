import LintBridge.Bench.Tool.Quote

/-!
# Moments

Points of time as seconds since the beginning of 1970, and how they are written.
-/

set_option autoImplicit false

namespace LintBridge

/-- A point of time: seconds since the beginning of 1970, and billionths of a second. -/
structure Moment where
  seconds : Nat
  nanos : Nat

namespace Moment

def start : Moment :=
  ⟨1767225600, 0⟩

/-- So many microseconds later. -/
def after (m : Moment) (micros : Nat) : Moment :=
  let nanos := m.nanos + micros * 1000
  ⟨m.seconds + nanos / 1000000000, nanos % 1000000000⟩

def days (m : Moment) : Nat :=
  m.seconds / 86400

def ofDay (m : Moment) : Nat :=
  m.seconds % 86400

def weekday (m : Moment) : Nat :=
  (m.days + 4) % 7

/-- Year, month and day, counted in years that begin with March. -/
def date (m : Moment) : Nat × Nat × Nat :=
  let shifted := m.days + 719468
  let era := shifted / 146097
  let day := shifted % 146097
  let year := (day - day / 1460 + day / 36524 - day / 146096) / 365
  let dayOfYear := day - (365 * year + year / 4 - year / 100)
  let month := (5 * dayOfYear + 2) / 153
  let first := (153 * month + 2) / 5
  let calendarMonth := if month < 10 then month + 3 else month - 9
  let calendarYear := era * 400 + year + (if calendarMonth ≤ 2 then 1 else 0)
  (calendarYear, calendarMonth, dayOfYear - first + 1)

def ofDate (year month day : Nat) : Moment :=
  let shiftedYear := if month ≤ 2 then year - 1 else year
  let era := shiftedYear / 400
  let yearOfEra := shiftedYear % 400
  let dayOfYear := (153 * (if 2 < month then month - 3 else month + 9) + 2) / 5 + day - 1
  let dayOfEra := yearOfEra * 365 + yearOfEra / 4 - yearOfEra / 100 + dayOfYear
  ⟨(era * 146097 + dayOfEra - 719468) * 86400, 0⟩

def weekdays : List String :=
  ["Sunday", "Monday", "Tuesday", "Wednesday", "Thursday", "Friday", "Saturday"]

def months : List String :=
  ["January", "February", "March", "April", "May", "June", "July", "August", "September",
   "October", "November", "December"]

def digits (width n : Nat) : Raw :=
  let text := Raw.ofNat n
  List.replicate (width - text.length) '0' ++ text

/-- What a letter of a form stands for; letters that stand for a form are that form. -/
def field (m : Moment) (letter : Char) : Option (Raw ⊕ String) :=
  let (year, month, day) := m.date
  let hour := m.ofDay / 3600
  let minute := m.ofDay / 60 % 60
  let second := m.ofDay % 60
  let hour12 := if hour % 12 = 0 then 12 else hour % 12
  let name (names : List String) (n : Nat) : Raw := ((names[n]?).getD "").toList
  let some (raw : Raw) : Option (Raw ⊕ String) := Option.some (.inl raw)
  let form (text : String) : Option (Raw ⊕ String) := Option.some (.inr text)
  match letter with
  | 'Y' => some (Raw.ofNat year)
  | 'C' => some (digits 2 (year / 100))
  | 'y' => some (digits 2 (year % 100))
  | 'm' => some (digits 2 month)
  | 'd' => some (digits 2 day)
  | 'e' => some (Raw.padLeft 2 (Raw.ofNat day))
  | 'H' => some (digits 2 hour)
  | 'k' => some (Raw.padLeft 2 (Raw.ofNat hour))
  | 'I' => some (digits 2 hour12)
  | 'l' => some (Raw.padLeft 2 (Raw.ofNat hour12))
  | 'M' => some (digits 2 minute)
  | 'S' => some (digits 2 second)
  | 'N' => some (digits 9 m.nanos)
  | 's' => some (Raw.ofNat m.seconds)
  | 'j' => some (digits 3 ((m.days - (ofDate year 1 1).days) + 1))
  | 'a' => some ((name weekdays m.weekday).take 3)
  | 'A' => some (name weekdays m.weekday)
  | 'b' | 'h' => some ((name months (month - 1)).take 3)
  | 'B' => some (name months (month - 1))
  | 'p' => some (if hour < 12 then "AM" else "PM").toList
  | 'P' => some (if hour < 12 then "am" else "pm").toList
  | 'u' => some (Raw.ofNat (if m.weekday = 0 then 7 else m.weekday))
  | 'w' => some (Raw.ofNat m.weekday)
  | 'Z' => some "UTC".toList
  | 'z' => some "+0000".toList
  | 'n' => some ['\n']
  | 't' => some ['\t']
  | '%' => some ['%']
  | 'D' | 'x' => form "%m/%d/%y"
  | 'F' => form "%Y-%m-%d"
  | 'T' | 'X' => form "%H:%M:%S"
  | 'R' => form "%H:%M"
  | 'r' => form "%I:%M:%S %p"
  | 'c' => form "%a %b %e %H:%M:%S %Y"
  | _ => none

/-- A form filled in.  A number between the sign and the letter is how many digits of a
fraction are written. -/
def write (m : Moment) : Nat → Raw → Raw
  | 0, form => form
  | _ + 1, [] => []
  | fuel + 1, '%' :: rest =>
      let behind := if rest.head? = some '-' then rest.drop 1 else rest
      let plain : Raw → Raw := fun text =>
        if rest.head? = some '-' then
          match text.dropWhile fun c => c = '0' || c = ' ' with
          | [] => ['0']
          | kept => kept
        else text
      let width := behind.takeWhile Char.isDigit
      match behind.drop width.length with
      | [] => '%' :: rest
      | letter :: more =>
          let own : Raw :=
            match m.field letter with
            | some (.inl text) =>
                if letter = 'N' && !width.isEmpty then text.take (Raw.digitsValue width) else plain text
            | some (.inr form) => m.write fuel form.toList
            | none => '%' :: rest.take (rest.length - more.length)
          own ++ m.write fuel more
  | fuel + 1, c :: rest => c :: m.write fuel rest

def read? (now : Moment) (text : Raw) : Option Moment :=
  let words := (Raw.split ' ' (text.map fun c => if c = 'T' then ' ' else c)).filter fun w => !w.isEmpty
  match words with
  | [] => some ⟨now.seconds - now.ofDay, 0⟩
  | ['@' :: n] => (Raw.nat? n).map (⟨·, 0⟩)
  | [word] =>
      match String.ofList word with
      | "now" => some now
      | "today" => some now
      | "yesterday" => some ⟨now.seconds - 86400, now.nanos⟩
      | "tomorrow" => some ⟨now.seconds + 86400, now.nanos⟩
      | _ => day? word
  | [word, time] => do
      let day ← day? word
      let seconds ← time? time
      return ⟨day.seconds + seconds, 0⟩
  | _ => none
where
  day? (word : Raw) : Option Moment :=
    match (Raw.split '-' word).map Raw.nat? with
    | [some year, some month, some day] =>
        if 1970 ≤ year && 1 ≤ month && month ≤ 12 && 1 ≤ day && day ≤ 31 then
          some (ofDate year month day)
        else none
    | _ => none
  time? (word : Raw) : Option Nat :=
    match (Raw.split ':' word).map Raw.nat? with
    | [some hour, some minute] => if hour < 24 && minute < 60 then some (hour * 3600 + minute * 60) else none
    | [some hour, some minute, some second] =>
        if hour < 24 && minute < 60 && second < 61 then some (hour * 3600 + minute * 60 + second) else none
    | _ => none

end Moment

end LintBridge
