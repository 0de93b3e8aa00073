import LintBridge.Bench.Tool.Options
import LintBridge.Bench.Tool.Place

/-!
# Files compared

Where two texts differ: at which byte first, or in which lines.  Lines that are in both are
found as a longest row that stands in this order in both texts.
-/

set_option autoImplicit false

namespace LintBridge.Tool

namespace Compare

/-- Lines of one text that stand in place of lines of another one: where they begin and how
many they are, counted from zero. -/
structure Hunk where
  first : Nat
  size : Nat
  otherFirst : Nat
  otherSize : Nat
  deriving DecidableEq

/-- For rows of lines how long the longest common row of what is behind each place is: from
a line and the lengths for the lines behind it. -/
def lengthsAbove {α : Type} (same : α → α → Bool) (line : α) (others : List α) (below : List Nat) :
    List Nat :=
  match others, below with
  | other :: others, diagonal :: below =>
      let rest := lengthsAbove same line others below
      let right := rest.head?.getD 0
      let own := if same line other then (below.head?.getD 0) + 1 else max diagonal right
      own :: rest
  | _, _ => [0]

def lengths {α : Type} (same : α → α → Bool) (others : List α) : List α → List (List Nat)
  | [] => [List.replicate (others.length + 1) 0]
  | line :: rest =>
      let below := lengths same others rest
      lengthsAbove same line others (below.head?.getD []) :: below

/-- The hunks on a way through both rows that keeps a longest common row. -/
def hunks {α : Type} (same : α → α → Bool) :
    Nat → Nat → Nat → List α → List α → List (List Nat) → List Hunk
  | 0, _, _, _, _, _ => []
  | fuel + 1, i, j, lines, others, table =>
      let drop : List (List Nat) := (table.tail).map id
      let right : List (List Nat) := table.map List.tail
      match lines, others with
      | [], [] => []
      | [], others => [⟨i, 0, j, others.length⟩]
      | lines, [] => [⟨i, lines.length, j, 0⟩]
      | line :: rest, other :: more =>
          if same line other then
            hunks same fuel (i + 1) (j + 1) rest more (drop.map List.tail)
          else
            let below := ((table[1]?.bind (·.head?)).getD 0)
            let beside := ((table.head?.bind (·[1]?)).getD 0)
            if beside ≤ below then
              add ⟨i, 1, j, 0⟩ (hunks same fuel (i + 1) j rest (other :: more) drop)
            else add ⟨i, 0, j, 1⟩ (hunks same fuel i (j + 1) (line :: rest) more right)
where
  add (h : Hunk) : List Hunk → List Hunk
    | [] => [h]
    | next :: rest =>
        if h.first + h.size = next.first && h.otherFirst + h.otherSize = next.otherFirst then
          ⟨h.first, h.size + next.size, h.otherFirst, h.otherSize + next.otherSize⟩ :: rest
        else h :: next :: rest

def commonFront {α : Type} (same : α → α → Bool) : List α → List α → Nat
  | a :: rest, b :: others => if same a b then commonFront same rest others + 1 else 0
  | _, _ => 0

def differences {α : Type} (same : α → α → Bool) (lines others : List α) : List Hunk :=
  let front := commonFront same lines others
  let a := lines.drop front
  let b := others.drop front
  let back := commonFront same a.reverse b.reverse
  let a := a.take (a.length - back)
  let b := b.take (b.length - back)
  hunks same (a.length + b.length + 1) front front a b (lengths same b a)

def span (first size : Nat) : Raw :=
  if size = 0 then Raw.ofNat first
  else if size = 1 then Raw.ofNat (first + 1)
  else Raw.ofNat (first + 1) ++ ',' :: Raw.ofNat (first + size)

/-- A line behind a sign; one that has no end is told of. -/
def marked (sign : Raw) (line : Raw) : Raw :=
  if line.getLast? = some '\n' then sign ++ line
  else sign ++ line ++ "\n\\ No newline at end of file\n".toList

def Hunk.shown (lines others : List Raw) (h : Hunk) : Raw :=
  let letter := if h.size = 0 then 'a' else if h.otherSize = 0 then 'd' else 'c'
  let old := (lines.drop h.first).take h.size
  let new := (others.drop h.otherFirst).take h.otherSize
  span h.first h.size ++ letter :: span h.otherFirst h.otherSize ++ ['\n']
    ++ old.flatMap (marked ['<', ' '])
    ++ (if letter = 'c' then ['-', '-', '-', '\n'] else [])
    ++ new.flatMap (marked ['>', ' '])

def grouped (context : Nat) : List Hunk → List (List Hunk)
  | [] => []
  | h :: rest =>
      match grouped context rest with
      | (next :: more) :: groups =>
          if next.first ≤ h.first + h.size + 2 * context then (h :: next :: more) :: groups
          else [h] :: (next :: more) :: groups
      | groups => [h] :: groups

def groupSpan (first size : Nat) : Raw :=
  if size = 1 then Raw.ofNat (first + 1)
  else Raw.ofNat (if size = 0 then first else first + 1) ++ ',' :: Raw.ofNat size

def shownGroup (context : Nat) (lines others : List Raw) (group : List Hunk) : Raw :=
  match group.head?, group.getLast? with
  | some first, some last =>
      let start := first.first - context
      let lead := first.first - start
      let stop := min lines.length (last.first + last.size + context)
      let otherStart := first.otherFirst - lead
      let otherStop := last.otherFirst + last.otherSize + (stop - (last.first + last.size))
      let head : Raw :=
        "@@ -".toList ++ groupSpan start (stop - start) ++ ' ' :: '+'
          :: groupSpan otherStart (otherStop - otherStart) ++ " @@\n".toList
      let (body, place) : Raw × Nat :=
        group.foldl
          (fun (text, place) h =>
            let between := (lines.drop place).take (h.first - place)
            (text ++ between.flatMap (marked [' '])
              ++ ((lines.drop h.first).take h.size).flatMap (marked ['-'])
              ++ ((others.drop h.otherFirst).take h.otherSize).flatMap (marked ['+']),
              h.first + h.size))
          ([], start)
      head ++ body ++ ((lines.drop place).take (stop - place)).flatMap (marked [' '])
  | _, _ => []

def counted (c : Choices) (line : Raw) : Raw :=
  let line := if c.has 'i' then line.map Char.toLower else line
  if c.has 'w' then line.filter fun d => !Raw.isSpace d
  else if c.has 'b' then oneBlank (Raw.trimRight Raw.isSpace line)
  else line
where
  oneBlank : Raw → Raw
    | a :: b :: rest =>
        if Raw.isSpace a && Raw.isSpace b then oneBlank (b :: rest)
        else (if Raw.isSpace a then ' ' else a) :: oneBlank (b :: rest)
    | other => other

def textsOf (c : Choices) (shownNames : Raw × Raw) (a b : Raw) : Option Raw :=
  let lines := a.wholeLines
  let others := b.wholeLines
  let pair (line : Raw) : Raw × Raw := (counted c line, line)
  let found := differences (fun x y => x.1 = y.1) (lines.map pair) (others.map pair)
  let found :=
    if c.has 'B' then
      found.filter fun h =>
        !(((lines.drop h.first).take h.size ++ (others.drop h.otherFirst).take h.otherSize).all
          (· = ['\n']))
    else found
  if found.isEmpty then none
  else if c.has 'u' || c.has 'U' then
    let context := ((c.value? 'U').bind Raw.nat?).getD 3
    let labels := c.values 'L'
    let stamp : Raw := "\t1970-01-01 00:00:00.000000000 +0000".toList
    let name (n : Nat) (usual : Raw) : Raw := (labels[n]?).getD (usual ++ stamp)
    some ("--- ".toList ++ name 0 shownNames.1 ++ "\n+++ ".toList ++ name 1 shownNames.2 ++ ['\n']
      ++ (grouped context found).flatMap (shownGroup context lines others))
  else some (found.flatMap (Hunk.shown lines others))

def files (t : Errand) (c : Choices) (names : Raw × Raw) (head : Raw) (a b : Raw) : Product :=
  if c.has 'q' && a ≠ b && (textsOf c names a b).isSome then
    (t.said ("Files ".toList ++ names.1 ++ " and ".toList ++ names.2 ++ " differ\n".toList)).done 1
  else
    match if a = b then none else textsOf c names a b with
    | some text => (t.said (head ++ text)).done 1
    | none =>
        if c.has 's' then
          t.said ("Files ".toList ++ names.1 ++ " and ".toList ++ names.2 ++ " are identical\n".toList)
        else t.quiet 0

def directories (c : Choices) (head : Raw) : Nat → Errand → Raw → Raw → Product
  | 0, t, _, _ => t.quiet 0
  | depth + 1, t, first, second =>
      let namesOf (name : Raw) : List Raw :=
        match t.node? name with
        | .ok (location, .directory) => t.tree.sortedNames location
        | _ => []
      let own := namesOf first
      let all := (own ++ (namesOf second).filter fun n => !own.contains n).mergeSort Raw.le
      t.forEach all fun t name =>
        let a := within first name
        let b := within second name
        let only (directory : Raw) : Product :=
          (t.said ("Only in ".toList ++ directory ++ ':' :: ' ' :: name ++ ['\n'])).done 1
        let title : Raw := head ++ ' ' :: a ++ ' ' :: b ++ ['\n']
        match t.isThere a, t.isThere b, t.isDirectory a, t.isDirectory b with
        | true, false, _, _ =>
            if c.has 'N' && !t.isDirectory a then files t c (a, b) title ((t.source a).toOption.getD []) []
            else only first
        | false, _, _, _ =>
            if c.has 'N' && !t.isDirectory b then files t c (a, b) title [] ((t.source b).toOption.getD [])
            else only second
        | _, _, true, true =>
            if c.has 'r' then directories c head depth t a b
            else t.said ("Common subdirectories: ".toList ++ a ++ " and ".toList ++ b ++ ['\n'])
        | _, _, false, false =>
            files t c (a, b) title ((t.source a).toOption.getD []) ((t.source b).toOption.getD [])
        | _, _, true, false =>
            (t.said ("File ".toList ++ a ++ " is a directory while file ".toList ++ b
              ++ " is a regular file\n".toList)).done 1
        | _, _, false, true =>
            (t.said ("File ".toList ++ a ++ " is a regular file while file ".toList ++ b
              ++ " is a directory\n".toList)).done 1

def options : OptionTable :=
  { (OptionTable.ofLetters "abBcdeEiilnNpqrstTuwy" "CUFIWxXSL").withWords
      [("brief", 'q'), ("report-identical-files", 's'), ("unified", 'u'), ("recursive", 'r'),
       ("new-file", 'N'), ("ignore-case", 'i'), ("ignore-all-space", 'w'),
       ("ignore-space-change", 'b'), ("ignore-blank-lines", 'B'), ("label", 'L'), ("text", 'a'),
       ("normal", 'n')] with
    loose := ['u'] }

def misuse (t : Errand) (text : Raw) : Product :=
  (t.quiet 2).grumble (t.line text ++ t.line ("Try '".toList ++ t.name
    ++ " --help' for more information.".toList))

def run (t : Errand) (c : Choices) : Product :=
  match c.operands with
  | [] => misuse t ("missing operand after '".toList ++ t.name ++ ['\''])
  | [name] => misuse t ("missing operand after '".toList ++ name ++ ['\''])
  | [first, second] =>
      if t.isDirectory first && t.isDirectory second then
        let head := Raw.join ' ' ("diff".toList :: t.args.filter fun a => a ≠ first && a ≠ second)
        directories c head (t.tree.entries.length + 1) t first second
      else
        let a := if t.isDirectory first then within first (lastPart second) else first
        let b := if t.isDirectory second then within second (lastPart first) else second
        let refused (name : Raw) : Product :=
          match t.source name with
          | .error e => t.complaint (name ++ ':' :: ' ' :: e.reason) 2
          | .ok _ => t.quiet 0
        match t.source a, t.source b with
        | .ok x, .ok y => files t c (a, b) [] x y
        | _, _ => (refused a).andAlso (refused b)
  | _ :: _ :: extra :: _ => misuse t ("extra operand '".toList ++ extra ++ ['\''])

end Compare

def diff (t : Errand) : Product :=
  match choices Compare.options t.args with
  | .error fault => Compare.misuse t fault.message
  | .ok c => Compare.run t c

/-- The first place where two texts differ, and how many line ends stand in front of it. -/
def firstDifference : Nat → Nat → Raw → Raw → Option (Nat × Nat) × Nat × Nat
  | place, lines, a :: rest, b :: others =>
      if a = b then firstDifference (place + 1) (if a = '\n' then lines + 1 else lines) rest others
      else (some (place, lines), place, lines)
  | place, lines, _, _ => (none, place, lines)

def cmp (t : Errand) (c : Choices) : Product :=
  let (first, second) : Raw × Raw :=
    match c.operands with
    | [first] => (first, ['-'])
    | first :: second :: _ => (first, second)
    | [] => ([], [])
  if c.operands.isEmpty then Compare.misuse t ("missing operand after '".toList ++ t.name ++ ['\''])
  else
    let quiet := c.has 's'
    match t.source first, t.source second with
    | .error e, _ => if quiet then t.quiet 2 else t.complaint (first ++ ':' :: ' ' :: e.reason) 2
    | _, .error e => if quiet then t.quiet 2 else t.complaint (second ++ ':' :: ' ' :: e.reason) 2
    | .ok a, .ok b =>
        let (a, b) :=
          match (c.value? 'n').bind Raw.nat? with
          | some n => (a.take n, b.take n)
          | none => (a, b)
        if a = b then t.quiet 0
        else if quiet then t.quiet 1
        else
          match firstDifference 0 0 a b with
          | (some (place, lines), _, _) =>
              if c.has 'l' then (t.said (listed c a b)).done 1
              else
                (t.said (first ++ ' ' :: second ++ " differ: byte ".toList ++ Raw.ofNat (place + 1)
                  ++ ", line ".toList ++ Raw.ofNat (lines + 1) ++ ['\n'])).done 1
          | (none, place, lines) =>
              let name := if a.length < b.length then first else second
              let text : Raw :=
                if place = 0 then "EOF on ".toList ++ name ++ " which is empty".toList
                else
                  let shorter := if a.length < b.length then a else b
                  let back : Raw :=
                    if shorter.getLast? = some '\n' then ", line ".toList ++ Raw.ofNat lines
                    else ", in line ".toList ++ Raw.ofNat (lines + 1)
                  "EOF on ".toList ++ name ++ " after byte ".toList ++ Raw.ofNat place ++ back
              t.complaint text 1
where
  listed (_ : Choices) (a b : Raw) : Raw :=
    let width := (Raw.ofNat (min a.length b.length)).length
    let pairs := (a.zip b).zip (List.range a.length)
    pairs.flatMap fun (p, n) =>
      if p.1 = p.2 then []
      else
        let octal (d : Char) : Raw := Raw.padLeft 3 (Nat.toDigits 8 d.toNat)
        Raw.padLeft width (Raw.ofNat (n + 1)) ++ ' ' :: octal p.1 ++ ' ' :: octal p.2 ++ ['\n']

end LintBridge.Tool
