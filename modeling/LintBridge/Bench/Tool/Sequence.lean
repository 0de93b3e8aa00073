import LintBridge.Bench.Pattern.Dialect
import LintBridge.Bench.Tool.Format
import LintBridge.Bench.Tool.Options
import LintBridge.Bench.Tool.Place

/-!
# Sequences of numbers

Numbers from a first one to a last one by equal steps.  They are counted in units of the
last decimal place, so that no step is rounded.
-/

set_option autoImplicit false

namespace LintBridge.Sequence

/-- A decimal number: units of a decimal place, and how many places there are. -/
structure Decimal where
  units : Int
  places : Nat

def Decimal.read? (raw : Raw) : Option Decimal :=
  let (minus, digits) : Bool × Raw :=
    match raw with
    | '-' :: rest => (true, rest)
    | '+' :: rest => (false, rest)
    | rest => (false, rest)
  let signed (n : Nat) : Int := if minus then -(n : Int) else n
  match digits with
  | '0' :: 'x' :: hex =>
      if hex.isEmpty || !hex.all (fun c => (Pattern.Dialect.digitOf? 16 c).isSome) then none
      else some ⟨signed (hex.foldl (fun n c => n * 16 + (Pattern.Dialect.digitOf? 16 c).getD 0) 0), 0⟩
  | _ =>
      let whole := digits.takeWhile Char.isDigit
      let (fraction, rest) : Raw × Raw :=
        match digits.drop whole.length with
        | '.' :: more => (more.takeWhile Char.isDigit, more.dropWhile Char.isDigit)
        | rest => ([], rest)
      if whole.isEmpty && fraction.isEmpty then none
      else
        let n := signed (Raw.digitsValue (whole ++ fraction))
        match rest with
        | [] => some ⟨n, fraction.length⟩
        | e :: power =>
            if e ≠ 'e' && e ≠ 'E' then none
            else
              match Raw.int? power with
              | none => none
              | some k =>
                  if k < -300 || 300 < k then none
                  else if k < fraction.length then some ⟨n, (fraction.length - k).toNat⟩
                  else some ⟨n * Nat.pow 10 (k - fraction.length).toNat, 0⟩

def Decimal.scaled (d : Decimal) (places : Nat) : Int :=
  d.units * Int.pow 10 (places - d.places)

def shown (places : Nat) (units : Int) : Raw :=
  let digits := Raw.ofNat units.natAbs
  let digits := List.replicate (places + 1 - digits.length) '0' ++ digits
  let whole := digits.take (digits.length - places)
  let text := if places = 0 then whole else whole ++ '.' :: digits.drop (digits.length - places)
  if units < 0 then '-' :: text else text

def filled (width : Nat) (text : Raw) : Raw :=
  match text with
  | '-' :: digits => '-' :: List.replicate (width - text.length) '0' ++ digits
  | digits => List.replicate (width - text.length) '0' ++ digits

def numbers : Nat → Int → Int → Int → List Int
  | 0, _, _, _ => []
  | fuel + 1, first, step, last =>
      if (0 ≤ step && last < first) || (step < 0 && first < last) then []
      else first :: numbers fuel (first + step) step last

structure Wish where
  mark : Raw
  equalWidth : Bool
  format : Option Raw

def wishOf : Nat → List Raw → Wish → Except Tool.Misuse (Wish × List Raw)
  | 0, args, w => .ok (w, args)
  | fuel + 1, args, w =>
      match args with
      | ['-', '-'] :: rest => .ok (w, rest)
      | ('-' :: c :: more) :: rest =>
          if c.isDigit || c = '.' then .ok (w, args)
          else
            let valued (set : Raw → Wish) (letter : Char) : Except Tool.Misuse (Wish × List Raw) :=
              if !more.isEmpty then wishOf fuel rest (set more)
              else
                match rest with
                | value :: rest => wishOf fuel rest (set value)
                | [] => .error (.lacksValue letter)
            match c with
            | 'w' =>
                wishOf fuel (if more.isEmpty then rest else ('-' :: more) :: rest)
                  { w with equalWidth := true }
            | 's' => valued (fun mark => { w with mark }) 's'
            | 'f' => valued (fun format => { w with format := some format }) 'f'
            | '-' =>
                let name := more.takeWhile (· ≠ '=')
                let value := more.drop (name.length + 1)
                match String.ofList name with
                | "separator" => wishOf fuel rest { w with mark := value }
                | "format" => wishOf fuel rest { w with format := some value }
                | "equal-width" => wishOf fuel rest { w with equalWidth := true }
                | _ => .error (.unknownWord ('-' :: '-' :: name))
            | c => .error (.unknownLetter c)
      | args => .ok (w, args)

def formatTrouble? (format : Raw) : Option Raw :=
  let plain := format.filter (· = '%')
  if plain.isEmpty then some ("format ".toList ++ Tool.quote format ++ " has no % directive".toList)
  else
    let behind := (format.dropWhile (· ≠ '%')).drop 1
    let letter := (behind.dropWhile fun c => c.isDigit || "-+ #0.'".toList.contains c).head?
    match letter with
    | none => some ("format ".toList ++ Tool.quote format ++ " ends in %".toList)
    | some c =>
        if !"aefgAEFG".toList.contains c then
          some ("format ".toList ++ Tool.quote format ++ " has unknown %".toList ++ [c]
            ++ " directive".toList)
        else if 1 < plain.length then
          some ("format ".toList ++ Tool.quote format ++ " has too many % directives".toList)
        else none

def seq (t : Errand) : Product :=
  match wishOf (t.args.length + 20) t.args ⟨['\n'], false, none⟩ with
  | .error misuse => t.misuse misuse.message 1
  | .ok (w, words) =>
      match words with
      | [] => Tool.lacks t "missing operand" 1
      | _ :: _ :: _ :: word :: _ => Tool.extraOperand t word
      | words =>
          match w.format.bind formatTrouble? with
          | some text => t.complaint text 1
          | none =>
              let read := words.map fun word => (word, Decimal.read? word)
              match read.find? (·.2.isNone) with
              | some (word, _) =>
                  t.misuse ("invalid floating point argument: ".toList ++ Tool.quote word) 1
              | none =>
                  let values := read.filterMap (·.2)
                  let one : Decimal := ⟨1, 0⟩
                  let (first, step, last) : Decimal × Decimal × Decimal :=
                    match values with
                    | [last] => (one, one, last)
                    | [first, last] => (first, one, last)
                    | first :: step :: last :: _ => (first, step, last)
                    | [] => (one, one, one)
                  if step.units = 0 then
                    t.misuse ("invalid Zero increment value: ".toList
                      ++ Tool.quote ((words[1]?).getD [])) 1
                  else write t w first step last
where
  write (t : Errand) (w : Wish) (first step last : Decimal) : Product :=
    let places := max first.places step.places
    let scale := max places last.places
    let count := ((last.scaled scale - first.scaled scale).natAbs / (step.scaled scale).natAbs) + 1
    let found := numbers (min count 2000000) (first.scaled scale) (step.scaled scale) (last.scaled scale)
    let cut (units : Int) : Int := units.tdiv (Int.pow 10 (scale - places))
    let plain := found.map fun n => shown places (cut n)
    let texts : List Raw :=
      match w.format with
      | some format => plain.map fun text => (Tool.format format [text]).1
      | none =>
          if w.equalWidth then
            let ends := [shown places (first.scaled places), shown places (cut (last.scaled scale))]
            let width := (ends.map (·.length)).foldl max 0
            plain.map (filled width)
          else plain
    match texts with
    | [] => t.quiet 0
    | first :: rest => t.said (first ++ rest.flatMap (w.mark ++ ·) ++ ['\n'])

end LintBridge.Sequence
