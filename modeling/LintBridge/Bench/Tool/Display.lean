import LintBridge.Bench.Tool.Options

/-!
# Texts shown

Tools that show texts as they are, numbered, turned around or broken into short lines.
-/

set_option autoImplicit false

namespace LintBridge.Tool

/-- The tool reads its input where it is given no files, or is given it as one. -/
def readsFiles (c : Choices) : Bool :=
  c.operands.isEmpty || c.operands.any isInput

def unread (t : Errand) (name : Raw) (e : OsError) : Product :=
  t.complaint (quoteOdd name ++ ':' :: ' ' :: e.reason) 1

def forFiles (t : Errand) (names : List Raw) (work : Raw → Raw) : Product :=
  t.forEach (t.sources names) fun t item =>
    match item.2 with
    | .ok raw => t.said (work raw)
    | .error e => unread t item.1 e

namespace Page

structure Look where
  numbered : Bool
  filledOnly : Bool
  marksEnds : Bool
  marksTabs : Bool
  marksHidden : Bool
  squeezed : Bool

/-- How far a text has come: the last number, and how many empty lines stand at its end;
none within a line. -/
structure Point where
  number : Nat
  blanks : Option Nat

/-- A byte of seven bits with a caret in front where it is not shown. -/
def careted (c : Char) : Raw :=
  if c.toNat < 32 then ['^', Char.ofNat (c.toNat + 64)]
  else if c = '\x7f' then ['^', '?']
  else [c]

def Look.byte (look : Look) (c : Char) : Raw :=
  if c = '\t' then (if look.marksTabs then ['^', 'I'] else [c])
  else if !look.marksHidden then [c]
  else if c.toNat < 128 then careted c
  else 'M' :: '-' :: careted (Char.ofNat (c.toNat - 128))

def numberField (n : Nat) : Raw :=
  Raw.padLeft 6 (Raw.ofNat n) ++ ['\t']

def Look.line (look : Look) (p : Point) (line : Raw) : Raw × Point :=
  let ended := line.getLast? = some '\n'
  let body := if ended then line.dropLast else line
  let empty := body.isEmpty && ended && p.blanks.isSome
  let blanks := (p.blanks.getD 0) + 1
  if empty && look.squeezed && 2 ≤ blanks then ([], { p with blanks := some blanks })
  else
    let counted := p.blanks.isSome && look.numbered && !(empty && look.filledOnly)
    let front := if counted then numberField (p.number + 1) else []
    let returned := look.marksEnds && ended && body.getLast? = some '\r'
    let shown :=
      if returned && !look.marksHidden then body.dropLast ++ ['^', 'M'] else body.flatMap look.byte
    let back : Raw := if ended then (if look.marksEnds then ['$', '\n'] else ['\n']) else []
    (front ++ shown ++ back,
      ⟨if counted then p.number + 1 else p.number,
        if !ended then none else if empty then some blanks else some 0⟩)

def Look.text (look : Look) (p : Point) (raw : Raw) : Raw × Point :=
  let (lines, p) :=
    (Raw.wholeLines raw).foldl
      (fun (lines, p) line =>
        let (shown, p) := look.line p line
        (shown :: lines, p))
      (([] : List Raw), p)
  (lines.reverse.flatten, p)

def lookOf (c : Choices) : Look where
  numbered := c.has 'n' || c.has 'b'
  filledOnly := c.has 'b'
  marksEnds := c.has 'E' || c.has 'e' || c.has 'A'
  marksTabs := c.has 'T' || c.has 't' || c.has 'A'
  marksHidden := c.has 'v' || c.has 'e' || c.has 't' || c.has 'A'
  squeezed := c.has 's'

def cat (t : Errand) (c : Choices) : Product :=
  let look := lookOf c
  let plain := c.options.all (·.1 = 'u')
  ((t.sources c.operands).foldl
    (fun (p, point) item =>
      match item.2 with
      | .error e => (p.andAlso (unread t item.1 e), point)
      | .ok raw =>
          let (shown, point) := if plain then (raw, point) else look.text point raw
          (p.andAlso (t.said shown), point))
    (t.quiet 0, (⟨0, some 0⟩ : Point))).1

def catOptions : OptionTable :=
  (OptionTable.ofLetters "AbeEnstTuv" "").withWords
    [("number", 'n'), ("number-nonblank", 'b'), ("show-ends", 'E'), ("show-tabs", 'T'),
     ("show-all", 'A'), ("show-nonprinting", 'v'), ("squeeze-blank", 's')]

def tac (t : Errand) (c : Choices) : Product :=
  t.forEach (t.sources c.operands) fun t item =>
    match item.2 with
    | .ok raw => t.said (Raw.wholeLines raw).reverse.flatten
    | .error .isADirectory => t.complaint (item.1 ++ ": read error: Invalid argument".toList) 1
    | .error e =>
        t.complaint ("failed to open ".toList ++ quoteAlways item.1 ++ " for reading: ".toList
          ++ e.reason) 1

def rev (t : Errand) (c : Choices) : Product :=
  t.forEach (t.sources c.operands) fun t item =>
    match item.2 with
    | .ok raw =>
        t.said ((Raw.wholeLines raw).flatMap fun line =>
          let ended := line.getLast? = some '\n'
          let body := if ended then line.dropLast else line
          Raw.ofLetters body.letters.reverse ++ (if ended then ['\n'] else []))
    | .error e => t.complaint ("cannot open ".toList ++ item.1 ++ ':' :: ' ' :: e.reason) 1

structure Numbering where
  style : Char
  mark : Raw
  width : Nat
  left : Bool
  zeros : Bool
  step : Int

def Numbering.field (n : Numbering) (value : Int) : Raw :=
  let digits := Raw.ofInt value
  let digits :=
    if n.zeros then List.replicate (n.width - digits.length) '0' ++ digits
    else if n.left then Raw.padRight n.width digits
    else Raw.padLeft n.width digits
  digits ++ n.mark

def Numbering.lines (n : Numbering) : Int → List Raw → List Raw
  | _, [] => []
  | value, line :: rest =>
      if n.style = 'a' || (n.style = 't' && !line.isEmpty) then
        (n.field value ++ line) :: n.lines (value + n.step) rest
      else (List.replicate (n.width + n.mark.length) ' ' ++ line) :: n.lines value rest

def nl (t : Errand) (c : Choices) : Product :=
  let number (letter : Char) (usual : Int) : Int := ((c.value? letter) >>= Raw.int?).getD usual
  let form := (c.value? 'n').getD ['r', 'n']
  let n : Numbering :=
    ⟨((c.value? 'b').getD ['t']).head?.getD 't', (c.value? 's').getD ['\t'],
      (number 'w' 6).toNat, form = ['l', 'n'], form = ['r', 'z'], number 'i' 1⟩
  let (raw, p) := t.gather c.operands 1
  (p.andAlso (t.said (Raw.ofLines (n.lines (number 'v' 1) raw.lines))))

/-- A line broken into pieces that are so wide at most, behind a blank if one is asked
for. -/
def broken (width : Nat) (atBlanks : Bool) : Nat → List Char → List (List Char)
  | 0, line => [line]
  | fuel + 1, line =>
      if line.length ≤ width then [line]
      else
        let piece := line.take width
        let cut :=
          if atBlanks then
            let kept := Raw.trimRight (fun c => !Raw.isBlank c) piece
            if kept.isEmpty then width else kept.length
          else width
        line.take cut :: broken width atBlanks fuel (line.drop cut)

def fold (t : Errand) (c : Choices) : Product :=
  let old := t.args.findSome? fun a =>
    match a with
    | '-' :: digits => Raw.nat? digits
    | _ => none
  match ((c.value? 'w').map Raw.nat?).getD (some (old.getD 80)) with
  | some 0 =>
      t.complaint ("invalid number of columns: ".toList ++ quote ((c.value? 'w').getD [])
        ++ ": Numerical result out of range".toList) 1
  | none => t.complaint ("invalid number of columns: ".toList ++ quote ((c.value? 'w').getD [])) 1
  | some width =>
      forFiles t c.operands fun raw =>
        (Raw.wholeLines raw).flatMap fun line =>
          let ended := line.getLast? = some '\n'
          let body := Raw.letters (if ended then line.dropLast else line)
          let pieces := broken width (c.has 's') (body.length + 1) body
          Raw.join '\n' (pieces.map Raw.ofLetters) ++ (if ended then ['\n'] else [])

end Page

end LintBridge.Tool
