import LintBridge.Bench.Tool.Copying
import LintBridge.Bench.Tool.Ends

/-!
# New files and directories

Tools that make files and directories, write to them and change who can run them.
-/

set_option autoImplicit false

namespace LintBridge.Tool

open Copying (refusal)

namespace Making

def directory (told : Bool) (t : Errand) (name : Raw) : Product :=
  let failed (why : Raw) : Product :=
    t.complaint ("cannot create directory ".toList ++ quote name ++ ':' :: ' ' :: why) 1
  match t.spot false name with
  | .ok (.vacant place last) =>
      let p :=
        if told then t.said (t.line ("created directory ".toList ++ quoteAlways name)) else t.quiet 0
      { p with tree := t.tree.set (place ++ [last]) .directory }
  | .ok (.found _ _) => failed "File exists".toList
  | .error e => failed e.reason

def downwards (name : Raw) : List Raw :=
  let cuts := (List.range name.length).filter fun n =>
    0 < n && name[n]? = some '/' && name[n - 1]? ≠ some '/'
  cuts.map name.take ++ (if name.getLast? = some '/' then [] else [name])

def directories (told : Bool) (t : Errand) (name : Raw) : Product :=
  let p :=
    (downwards name).foldl
      (fun (p, name) part =>
        let t := { t with tree := p.tree }
        if 0 < p.status then (p, name)
        else if t.isDirectory part then (p, name)
        else if t.isThere part then
          let e : Raw := if part = name then "File exists".toList else OsError.notADirectory.reason
          (p.andAlso (t.complaint ("cannot create directory ".toList ++ quote part
            ++ ':' :: ' ' :: e) 1), name)
        else (p.andAlso (directory told t part), name))
      (t.quiet 0, name)
  if name.isEmpty then directory told t name else p.1

end Making

/-- The rights that a text gives, if it gives any: what they are from what they were. -/
def Rights.reader? (raw : Raw) : Option (Bool → Bool) :=
  if !raw.isEmpty && raw.all (fun c => '0' ≤ c && c ≤ '7') && raw.length ≤ 5 then
    let value := raw.foldl (fun n c => n * 8 + (c.toNat - 48)) 0
    some fun _ => value / 64 % 2 = 1 || value / 8 % 2 = 1 || value % 2 = 1
  else
    (Raw.split ',' raw).foldl
      (fun found clause => found.bind fun before => (clause? clause).map fun own => own ∘ before)
      (some id)
where
  clause? (clause : Raw) : Option (Bool → Bool) :=
    let who := clause.takeWhile "ugoa".toList.contains
    match clause.drop who.length with
    | sign :: letters =>
        if "+-=".toList.contains sign && letters.all "rwxXst".toList.contains then
          let runs := letters.contains 'x'
          some fun before =>
            if sign = '+' then before || runs || (letters.contains 'X' && before)
            else if sign = '-' then before && !(runs && (who.isEmpty || who.contains 'a' || who.contains 'u'))
            else runs || (before && letters.contains 'X')
        else none
    | [] => none

def Rights.shown (node : Node) : Raw × Raw :=
  match node with
  | .file _ false | .sink => ("0644".toList, "rw-r--r--".toList)
  | .link _ => ("0777".toList, "rwxrwxrwx".toList)
  | _ => ("0755".toList, "rwxr-xr-x".toList)

def changeRights (change : Bool → Bool) (told deep : Bool) : Nat → Errand → Raw → Product
  | 0, t, _ => t.quiet 0
  | depth + 1, t, name =>
      match t.node? name with
      | .error e =>
          match t.spot false name with
          | .ok (.found _ (.link _)) =>
              t.complaint ("cannot operate on dangling symlink ".toList ++ quoteAlways name) 1
          | _ => refusal t "cannot access " name e
      | .ok (location, .file content before) =>
          let after := change before
          let (old, oldText) := Rights.shown (.file content before)
          let (new, newText) := Rights.shown (.file content after)
          let text : Raw :=
            if before = after then
              " retained as ".toList ++ old ++ ' ' :: '(' :: oldText ++ [')', '\n']
            else
              " changed from ".toList ++ old ++ ' ' :: '(' :: oldText ++ ") to ".toList ++ new
                ++ ' ' :: '(' :: newText ++ [')', '\n']
          let p :=
            if told then t.said ("mode of ".toList ++ quoteAlways name ++ text) else t.quiet 0
          { p with tree := t.tree.set location (.file content after) }
      | .ok (location, .directory) =>
          if deep then
            t.forEach (t.tree.sortedNames location) fun t inner =>
              changeRights change told deep depth t (within name inner)
          else t.quiet 0
      | .ok _ => t.quiet 0

def chmod (t : Errand) (c : Choices) : Product :=
  match c.operands with
  | [] => lacks t "missing operand" 1
  | [mode] => t.misuse ("missing operand after ".toList ++ quote mode) 1
  | mode :: names =>
      match Rights.reader? mode with
      | none => t.misuse ("invalid mode: ".toList ++ quote mode) 1
      | some change =>
          t.forEach names (changeRights change (c.has 'v') (c.has 'R') (t.tree.entries.length + 1))

/-- A mode that takes rights away looks like an option, but is none. -/
def chmodArgs (args : List Raw) : List Raw :=
  match args.span fun a => !isMode a with
  | (before, mode :: after) => if before.contains ['-', '-'] then args else before ++ ['-', '-'] :: mode :: after
  | (_, []) => args
where
  isMode : Raw → Bool
    | '-' :: c :: _ => "rwxXst0".toList.contains c
    | _ => false

def mkdir (t : Errand) (c : Choices) : Product :=
  if c.operands.isEmpty then lacks t "missing operand" 1
  else
    match (c.value? 'm').map fun mode => (mode, (Rights.reader? mode).isSome) with
    | some (mode, false) => t.complaint ("invalid mode ".toList ++ quote mode) 1
    | _ =>
        t.forEach c.operands
          (if c.has 'p' then Making.directories (c.has 'v') else Making.directory (c.has 'v'))

def touch (t : Errand) (c : Choices) : Product :=
  if c.operands.isEmpty then t.misuse "missing file operand".toList 1
  else
    match (c.value? 'r').map fun name => (name, t.node? name) with
    | some (name, .error e) => refusal t "failed to get attributes of " name e
    | _ =>
        t.forEach c.operands fun t name =>
          match t.spot true name with
          | .ok (.found _ _) => t.quiet 0
          | .ok (.vacant place last) =>
              if c.has 'c' then t.quiet 0
              else if name.getLast? = some '/' then
                t.complaint ("setting times of ".toList ++ quoteAlways name
                  ++ ": No such file or directory".toList) 1
              else { t.quiet 0 with tree := t.tree.set (place ++ [last]) (.file [] false) }
          | .error e => if c.has 'c' then t.quiet 0 else refusal t "cannot touch " name e

/-- Writes a text to a file, behind what is there or in place of it. -/
def writeTo (t : Errand) (append : Bool) (name raw : Raw) : Except OsError FileTree :=
  let before : Bytes := if append then ((t.tree.read t.current name.toPath).toOption).getD [] else []
  t.tree.write t.current name.toPath (before ++ raw.toBytes)

def tee (t : Errand) (c : Choices) : Product :=
  let written :=
    t.forEach c.operands fun t name =>
      match String.ofList name with
      | "/dev/stderr" | "/dev/fd/2" => (t.quiet 0).grumble t.input
      | "-" | "/dev/stdout" | "/dev/fd/1" => t.said t.input
      | _ =>
          match writeTo t (c.has 'a') name t.input with
          | .ok tree => { t.quiet 0 with tree }
          | .error e => unread t name e
  (written).andAlso ({ t with tree := written.tree }.said t.input)

/-- The name of a new file or directory: the letters in place of the row of marks, behind
which an ending may stand. -/
def freshName? (t : Errand) (template ending : Raw) : Option Raw :=
  let reversed := template.reverse
  let back := reversed.takeWhile (· ≠ 'X')
  let marks := (reversed.drop back.length).takeWhile (· = 'X')
  if marks.length < 3 || back.contains '/' then none
  else
    let front := (reversed.drop (back.length + marks.length)).reverse
    let named (n : Nat) : Raw :=
      front ++ (Raw.ofNat (Nat.pow 10 marks.length + n)).drop 1 ++ back.reverse ++ ending
    (List.range 1000).findSome? fun n => if t.isThere (named n) then none else some (named n)

def mktemp (t : Errand) (c : Choices) : Product :=
  let given := c.operands.head?
  let template := given.getD "tmp.XXXXXXXXXX".toList
  let directory : Option Raw :=
    match c.value? 'p' with
    | some name => some (if name.isEmpty then "/tmp".toList else name)
    | none => if given.isNone || c.has 't' then some ((t.binding? "TMPDIR").getD "/tmp".toList) else none
  let whole := match directory with
    | some name => within name template
    | none => template
  match freshName? t whole ((c.value? 'S').getD []) with
  | none => t.complaint ("too few X's in template ".toList ++ quote template) 1
  | some name =>
      let what : String := if c.has 'd' then "directory" else "file"
      let failed (e : OsError) : Product :=
        if c.has 'q' then t.quiet 1
        else
          t.complaint ("failed to create ".toList ++ what.toList ++ " via template ".toList
            ++ quote whole ++ ':' :: ' ' :: e.reason) 1
      match t.spot false name with
      | .ok (.vacant place last) =>
          let node : Node := if c.has 'd' then .directory else .file [] false
          let p := t.saidLines [name]
          if c.has 'u' then p else { p with tree := t.tree.set (place ++ [last]) node }
      | .ok (.found _ _) => failed .accessDenied
      | .error e => failed e

def truncate (t : Errand) (c : Choices) : Product :=
  match c.value? 's' with
  | none => t.misuse ("you must specify either ".toList ++ quote "--size".toList ++ " or ".toList
      ++ quote "--reference".toList) 1
  | some text =>
      let sign := (text.head?).filter "+-".toList.contains
      match amount? (if sign.isSome then text.drop 1 else text) with
      | none => t.complaint ("Invalid number: ".toList ++ quote text) 1
      | some amount =>
          t.forEach c.operands fun t name =>
            let before := ((t.tree.read t.current name.toPath).toOption).getD []
            let size :=
              match sign with
              | some '+' => before.length + amount
              | some _ => before.length - amount
              | none => amount
            if c.has 'c' && !t.isThere name then t.quiet 0
            else
              let content := before.take size ++ List.replicate (size - before.length) 0
              match t.tree.write t.current name.toPath content with
              | .ok tree => { t.quiet 0 with tree }
              | .error e =>
                  t.complaint ("cannot open ".toList ++ quoteAlways name ++ " for writing: ".toList
                    ++ e.reason) 1

def dd (t : Errand) : Product :=
  let operand (name : String) : Option Raw :=
    t.args.reverse.findSome? fun a =>
      let front := name.toList ++ ['=']
      if front.isPrefixOf a then some (a.drop front.length) else none
  let number (name : String) (usual : Nat) : Nat := ((operand name).bind amount?).getD usual
  let known := ["if", "of", "bs", "ibs", "obs", "cbs", "count", "skip", "seek", "conv", "status",
    "iflag", "oflag"]
  match t.args.find? fun a => !known.contains (String.ofList (a.takeWhile (· ≠ '='))) with
  | some a => t.misuse ("unrecognized operand ".toList ++ quote a) 1
  | none =>
      let name := (operand "if").getD ['-']
      match t.source name with
      | .error e => t.complaint ("failed to open ".toList ++ quoteAlways name ++ ':' :: ' ' :: e.reason) 1
      | .ok raw =>
          let size := max 1 (number "bs" (number "ibs" 512))
          let kept := raw.drop (number "skip" 0 * size)
          let kept := match (operand "count").bind amount? with
            | some n => kept.take (n * size)
            | none => kept
          let rest := raw.drop (number "skip" 0 * size + kept.length)
          let records := Raw.ofNat (kept.length / size) ++ '+'
            :: Raw.ofNat (if kept.length % size = 0 then 0 else 1)
          let report : Raw := records ++ " records in\n".toList ++ records ++ " records out\n".toList
            ++ Raw.ofNat kept.length ++ " bytes copied, 0.0001 s, 1.0 MB/s\n".toList
          let status := (operand "status").getD []
          let report : Raw :=
            if status = "none".toList then []
            else if status = "noxfer".toList then records ++ " records in\n".toList ++ records ++ " records out\n".toList
            else report
          let finish (p : Product) : Product :=
            (if report.isEmpty then p else p.grumble report).leaving (if isInput name then rest else [])
          match operand "of" with
          | none => finish (t.said kept)
          | some target =>
              let skipped := number "seek" 0 * size
              let before := ((t.tree.read t.current target.toPath).toOption).getD []
              let front := before.take skipped ++ List.replicate (skipped - before.length) 0
              let whole := "notrunc".toList.isPrefixOf ((operand "conv").getD [])
              let back := if whole then before.drop (skipped + kept.length) else []
              match t.tree.write t.current target.toPath (front ++ kept.toBytes ++ back) with
              | .ok tree => finish { t.quiet 0 with tree }
              | .error e =>
                  t.complaint ("failed to open ".toList ++ quoteAlways target ++ ':' :: ' ' :: e.reason) 1

end LintBridge.Tool
