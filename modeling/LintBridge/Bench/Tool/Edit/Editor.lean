import LintBridge.Bench.Tool.Edit.Run

/-!
# The stream editor

The editor takes its script from options or from its first argument, and runs it over all
files as one text, or over each file on its own, perhaps in place.
-/

set_option autoImplicit false

namespace LintBridge.Edit

open Tool (Choices OptionTable)

def options : OptionTable where
  flags := "nErsuz".toList
  valued := "efl".toList
  words :=
    [("quiet", 'n'), ("silent", 'n'), ("expression", 'e'), ("file", 'f'), ("regexp-extended", 'E'),
     ("in-place", 'i'), ("line-length", 'l'), ("separate", 's'), ("unbuffered", 'u'),
     ("null-data", 'z'), ("zero-terminated", 'z'), ("posix", 'u'), ("debug", 'u'),
     ("sandbox", 'u'), ("follow-symlinks", 'u')]
  loose := ['i']
  mixed := true

/-- The sources of the script among the options, and a complaint about a file that cannot
be read. -/
def sourcesOf (t : Errand) (c : Choices) : Except Raw (List (Origin × Raw)) :=
  go 1 (c.options.filter fun o => o.1 = 'e' || o.1 = 'f')
where
  go (number : Nat) : List (Char × Raw) → Except Raw (List (Origin × Raw))
    | [] => .ok []
    | ('e', text) :: rest => (go (number + 1) rest).map ((.expression number, text) :: ·)
    | (_, name) :: rest =>
        match t.source name with
        | .ok text =>
            let text := if text.getLast? = some '\n' then text.dropLast else text
            (go number rest).map ((.file name, text) :: ·)
        | .error e => .error ("couldn't open file ".toList ++ name ++ ':' :: ' ' :: e.reason)

def operands (c : Choices) : List Raw :=
  if c.has 'e' || c.has 'f' then c.operands else c.operands.drop 1

/-- The editor reads its input if it is given no files, or a script there. -/
def readsInput (c : Choices) : Bool :=
  let files := operands c
  files.isEmpty || files.any Tool.isInput || (c.values 'f').any Tool.isInput

def complaint (t : Errand) (text : Raw) (status : Nat) : Product :=
  t.complaint text status

def lostLabel? (script : Script) : Option Raw :=
  script.commands.toList.findSome? fun c =>
    let missing (name : Raw) : Option Raw :=
      if name.isEmpty || (labelPlace? script.commands name).isSome then none else some name
    match c.action with
    | .jump name => missing name
    | .jumpIf _ name => missing name
    | _ => none

/-- The texts of files, and complaints about those that cannot be read.  A directory ends
all. -/
def texts (t : Errand) : List Raw → List (Raw × Raw) × List Raw × Option Raw
  | [] => ([], [], none)
  | name :: rest =>
      match t.source name with
      | .ok raw =>
          let (found, complaints, stop) := texts t rest
          ((name, raw) :: found, complaints, stop)
      | .error .isADirectory =>
          ([], [], some ("read error on ".toList ++ name ++ ": Is a directory".toList))
      | .error e =>
          let (found, complaints, stop) := texts t rest
          (found, ("can't read ".toList ++ name ++ ':' :: ' ' :: e.reason) :: complaints, stop)

def putFiles (t : Errand) (p : Product) (files : List (Raw × Output)) : Product :=
  files.foldl
    (fun p f =>
      if f.1 = "/dev/stderr".toList then
        (if f.2.all.isEmpty then p else p.grumble f.2.all)
      else
        match p.tree.write t.current f.1.toPath f.2.all.toBytes with
        | .ok tree => { p with tree }
        | .error _ => p)
    p

/-- The end of a run that found no pattern where it was to use the last one. -/
def lostPattern (t : Errand) (c : Choices) : Raw :=
  let number := max 1 (c.values 'e').length
  t.line ("-e expression #".toList ++ Raw.ofNat number
    ++ ", char 0: no previous regular expression".toList)

def runAll (t : Errand) (c : Choices) (w : Setting) (script : Script) (names : List Raw) :
    Product :=
  let (found, complaints, stop) :=
    if names.isEmpty then ([([], t.input)], [], none) else texts t names
  let lines := found.flatMap fun f =>
    linesOf w.mark (if Tool.isInput f.1 then [] else f.1) f.2
  let r := cycles w mostSteps true (.start script.commands script.files lines)
  let complaints := (complaints ++ stop.toList).map t.line
  let before : Product :=
    complaints.foldl Product.grumble (t.quiet (if complaints.isEmpty then 0 else 2))
  let p := putFiles t (before.say r.state.out.all) r.state.files
  let p := if stop.isSome then p.done 4 else p
  let p := if r.lost then (p.grumble (lostPattern t c)).done 1 else p
  let p := match r.quit with
    | some status => p.done (if status = 0 then p.status else status)
    | none => p
  if r.endless then { p with ending := .never } else p

def copyName (ending name : Raw) : Raw :=
  if ending.contains '*' then
    let last := (name.reverse.takeWhile (· ≠ '/')).reverse
    let new := ending.flatMap fun c => if c = '*' then last else [c]
    if new.contains '/' then new else name.take (name.length - last.length) ++ new
  else name ++ ending

def runEach (t : Errand) (c : Choices) (w : Setting) (script : Script) (inPlace : Option Raw) :
    List Raw → Product → Product
  | [], p => p
  | name :: rest, p =>
      let t := { t with tree := p.tree }
      match t.source name, inPlace with
      | .error .isADirectory, some _ =>
          let p := p.grumble (t.line ("couldn't edit ".toList ++ name ++ ": not a regular file".toList))
          runEach t c w script inPlace rest (p.atLeast 4)
      | .error .isADirectory, none =>
          (p.grumble (t.line ("read error on ".toList ++ name ++ ": Is a directory".toList))).done 4
      | .error e, _ =>
          let p := p.grumble (t.line ("can't read ".toList ++ name ++ ':' :: ' ' :: e.reason))
          runEach t c w script inPlace rest (p.atLeast 2)
      | .ok raw, inPlace =>
          let lines := linesOf w.mark (if Tool.isInput name then [] else name) raw
          let r := cycles w mostSteps true (.start script.commands script.files lines)
          let p := putFiles t p r.state.files
          let p : Product :=
            match inPlace with
            | none => p.say r.state.out.all
            | some ending =>
                let kept :=
                  if ending.isEmpty then p.tree
                  else ((p.tree.write t.current (copyName ending name).toPath raw.toBytes).toOption).getD p.tree
                { p with
                  tree := ((kept.write t.current name.toPath r.state.out.all.toBytes).toOption).getD kept }
          if r.lost then (p.grumble (lostPattern t c)).done 1
          else if r.endless then { p with ending := .never }
          else
            match r.quit with
            | some status => p.atLeast status
            | none => runEach t c w script inPlace rest p

def openFiles (t : Errand) : List Raw → Except Raw FileTree
  | [] => .ok t.tree
  | name :: rest =>
      if name = "/dev/stdout".toList || name = "/dev/stderr".toList then openFiles t rest
      else
        match t.tree.write t.current name.toPath [] with
        | .ok tree => openFiles { t with tree } rest
        | .error e => .error ("couldn't open file ".toList ++ name ++ ':' :: ' ' :: e.reason)

def sed (t : Errand) (c : Choices) : Product :=
  let given := c.has 'e' || c.has 'f'
  let found : Except Raw (List (Origin × Raw)) :=
    if given then sourcesOf t c
    else
      match c.operands with
      | [] => .ok []
      | script :: _ => .ok [(.expression 1, script)]
  match found with
  | .error text => complaint t text 4
  | .ok [] => (t.quiet 1).grumble
      "Usage: sed [OPTION]... \x7bscript-only-if-no-other-script\x7d [input-file]...\n".toList
  | .ok sources =>
      match read (c.has 'E' || c.has 'r') sources with
      | .error flaw => complaint t flaw.message 1
      | .ok script =>
          match lostLabel? script with
          | some name =>
              complaint t ("can't find label for jump to `".toList ++ name ++ ['\'']) 4
          | none =>
              match openFiles t script.files with
              | .error text => complaint t text 4
              | .ok tree =>
                  let t := { t with tree }
                  let mark : Char := if c.has 'z' then '\x00' else '\n'
                  let w : Setting :=
                    ⟨script.commands, c.has 'n' || script.silent, mark,
                      fun name => ((t.source name).toOption).getD []⟩
                  let names := operands c
                  if c.has 'i' then runEach t c w script (some ((c.value? 'i').getD [])) names (t.quiet 0)
                  else if c.has 's' && 1 < names.length then
                    runEach t c w script none names (t.quiet 0)
                  else runAll t c w script names

end LintBridge.Edit
