import LintBridge.Bench.Shell.Input
import LintBridge.Bench.Shell.Layer
import LintBridge.Bench.Shell.State
import LintBridge.Bench.Tool.Format
import LintBridge.Bench.Tool.Judgement

/-!
# Commands of the shell itself

The commands that a shell carries out without a program.  A mistake in one that scripts
cannot do without ends the shell, a mistake in another one only fails.
-/

set_option autoImplicit false

namespace LintBridge.Shell

def regularNames : List String :=
  ["[", "alias", "bg", "cd", "chdir", "command", "echo", "false", "fg", "getopts", "hash", "jobs",
   "kill", "printf", "pwd", "read", "test", "true", "type", "ulimit", "umask", "unalias", "wait"]

def isOwn (name : Raw) : Bool :=
  let text := String.ofList name
  specialNames.contains text || regularNames.contains text

def isSpecialName (name : Raw) : Bool :=
  specialNames.contains (String.ofList name)

def declares (name : Raw) : Bool :=
  ["export", "readonly", "local", "alias"].contains (String.ofList name)

def State.mistake (s : State) (text : Raw) : State :=
  (s.complain text).done 2

def illegalNumber (raw : Raw) : Raw :=
  "Illegal number: ".toList ++ raw

def illegalOption (c : Char) : Raw :=
  "Illegal option -".toList ++ [c]

def badName (raw : Raw) : Raw :=
  raw ++ ": bad variable name".toList

/-- The options in front of other arguments: letters with their values.  The error is
what is wrong. -/
def ownOptions (flags valued : List Char) :
    Nat → List Raw → Except Raw (List (Char × Raw) × List Raw)
  | 0, args => .ok ([], args)
  | fuel + 1, args =>
      match args with
      | ['-', '-'] :: rest => .ok ([], rest)
      | ('-' :: c :: more) :: rest =>
          if flags.contains c then
            let rest := if more.isEmpty then rest else ('-' :: more) :: rest
            (ownOptions flags valued fuel rest).map fun r => ((c, []) :: r.1, r.2)
          else if valued.contains c then
            match more, rest with
            | [], [] => .error ("No arg for -".toList ++ c :: " option".toList)
            | [], value :: rest =>
                (ownOptions flags valued fuel rest).map fun r => ((c, value) :: r.1, r.2)
            | value, rest =>
                (ownOptions flags valued fuel rest).map fun r => ((c, value) :: r.1, r.2)
          else .error (illegalOption c)
      | args => .ok ([], args)

/-- Goes on with options and the arguments behind them, or refuses. -/
def withOwnOptions (flags valued : String) (args : List Raw)
    (run : List (Char × Raw) → List Raw → State → State) (s : State) : State :=
  match ownOptions flags.toList valued.toList (args.flatten.length + args.length + 1) args with
  | .ok (options, rest) => run options rest s
  | .error text => s.mistake text

def withNumber (args : List Raw) (usual : Nat) (run : Nat → State → State) (s : State) : State :=
  match args with
  | [] => run usual s
  | word :: _ =>
      match Raw.nat? word with
      | some n => run n s
      | none => s.fail (illegalNumber word)

def sortedValues (s : State) : List (String × Variable) :=
  s.values.mergeSort fun a b => Raw.le (Raw.ofString a.1) (Raw.ofString b.1)

def shownValues (front : Raw) (keep : Variable → Bool) (s : State) : Raw :=
  (sortedValues s).flatMap fun (name, v) =>
    if !keep v then []
    else
      match v.value with
      | some raw => front ++ name.toList ++ '=' :: quotedText raw ++ ['\n']
      | none => if front.isEmpty then [] else front ++ name.toList ++ ['\n']

/-- Gives a variable a mark, and a value if the argument has one. -/
def declareOne (mark : Variable → Variable) (arg : Raw) (s : State) : State :=
  let name := arg.takeWhile (· ≠ '=')
  if !isName name then s.fail (badName name)
  else
    let key := String.ofList name
    let s := if name.length < arg.length then s.tryAssign key (arg.drop (name.length + 1)) else s
    if s.flow ≠ .go then s
    else s.putVariable key (some (mark ((s.binding? key).getD ⟨none, false, false⟩)))

def declareAll (mark : Variable → Variable) : List Raw → State → State
  | [], s => s.done 0
  | arg :: rest, s =>
      let s := declareOne mark arg s
      if s.flow ≠ .go then s else declareAll mark rest s

def declareMarked (word : String) (mark : Variable → Variable) (marked : Variable → Bool)
    (args : List Raw) : State → State :=
  withOwnOptions "p" "" args fun options rest s =>
    if rest.isEmpty || !options.isEmpty then
      (s.send 1 (shownValues (word.toList ++ [' ']) marked s)).done 0
    else declareAll mark rest s

def takeLocals (args : List Raw) (s : State) : State :=
  match s.locals with
  | none => s.fail "not in a function".toList
  | some before =>
      let names := args.map fun a => String.ofList (a.takeWhile (· ≠ '='))
      let kept := names.map fun name => (name, s.binding? name)
      declareAll id args { s with locals := some (kept.reverse ++ before) }

def unsetAll (options : List (Char × Raw)) : List Raw → State → State
  | [], s => s.done 0
  | name :: rest, s =>
      let key := String.ofList name
      if options.any (·.1 = 'f') then
        unsetAll options rest { s with functions := s.functions.filter (·.1 ≠ key) }
      else if !isName name then s.fail (badName name)
      else if s.isFixed key then s.fail (name ++ ": is read only".toList)
      else unsetAll options rest (s.putVariable key none)

/-- A way without its idle pieces, and with two dots carried out. -/
def tidied (way : Raw) : Raw :=
  let kept := (Raw.split '/' way).foldl
    (fun (kept : List Raw) piece =>
      if piece.isEmpty || piece = ['.'] then kept
      else if piece = ['.', '.'] then kept.drop 1
      else piece :: kept)
    []
  '/' :: Raw.join '/' kept.reverse

def goTo (physical : Bool) (target : Raw) (tells : Bool) (s : State) : State :=
  let way := if target.head? = some '/' then target else s.directory ++ '/' :: target
  let way := if physical then way else tidied way
  match s.tree.node s.current (Raw.toPath way) with
  | .ok (location, .directory) =>
      let way := if physical then Raw.ofPath (FileTree.pathOf location) else way
      let mark (raw : Raw) : Option Variable := some ⟨some raw, true, false⟩
      let s := (s.putVariable "OLDPWD" (mark s.directory)).putVariable "PWD" (mark way)
      let s := { s with current := location, directory := way }
      (if tells then s.send 1 (way ++ ['\n']) else s).done 0
  | _ => s.mistake ("can't cd to ".toList ++ target)

def changeDirectory (args : List Raw) : State → State :=
  withOwnOptions "LP" "" args fun options rest s =>
    let physical := (options.getLast?.map (·.1)) = some 'P'
    match rest with
    | [] => goTo physical ((s.look "HOME").getD []) false s
    | ['-'] :: _ => goTo physical ((s.look "OLDPWD").getD s.directory) true s
    | target :: _ => goTo physical target false s

def printDirectory (args : List Raw) : State → State :=
  withOwnOptions "LP" "" args fun options _ s =>
    let physical := (options.getLast?.map (·.1)) = some 'P'
    let way := if physical then Raw.ofPath (FileTree.pathOf s.current) else s.directory
    (s.send 1 (way ++ ['\n'])).done 0

def setOptions (args : List Raw) (s : State) : State :=
  if args.isEmpty then (s.send 1 (shownValues [] (fun _ => true) s)).done 0
  else
    match takeOptions args s with
    | .error text => s.fail text
    | .ok words =>
        let s := words.state
        (if words.replaces then { s with args := words.rest } else s).done 0

def shift (args : List Raw) : State → State :=
  withNumber args 1 fun n s =>
    if n ≤ s.args.length then { s with args := s.args.drop n, status := 0 }
    else s.fail "can't shift that many".toList

def leaveLoops (args : List Raw) (flow : Nat → Flow) : State → State :=
  withNumber args 1 fun n s =>
    if n = 0 then s.fail (illegalNumber (args.head?.getD []))
    else if s.loops = 0 then s.done 0
    else { s.done 0 with flow := flow (min s.loops n) }

def read (args : List Raw) : State → State :=
  withOwnOptions "r" "p" args fun options names s =>
    if names.isEmpty then s.mistake "arg count".toList
    else
      match names.find? fun name => !isName name with
      | some name => s.mistake (badName name)
      | none => readLine (options.any (·.1 = 'r')) (names.map String.ofList) s

def getOptions (args : List Raw) (s : State) : State :=
  match args with
  | table :: name :: rest =>
      let args := if rest.isEmpty then s.args else rest
      let found := nextOption table args ⟨s.optionIndex, s.lettersTaken⟩
      let s :=
        match found.complaint with
        | some raw => s.send 2 raw
        | none => s
      let s :=
        if found.ended then s
        else
          match found.value with
          | some value => s.tryAssign "OPTARG" value
          | none => s.putVariable "OPTARG" none
      let s := s.assign "OPTIND" (Raw.ofNat found.place.index)
      let s := s.tryAssign (String.ofList name) [found.letter]
      { s with
        optionIndex := found.place.index, lettersTaken := found.place.taken,
        status := if found.ended then 1 else 0 }
  | _ => s.mistake "Usage: getopts optstring var [arg...]".toList

def judge (name : Raw) (args : List Raw) (s : State) : State :=
  let bracket := name = ['[']
  if bracket && args.getLast? ≠ some [']'] then s.mistake "missing ]".toList
  else
    let words := if bracket then args.dropLast else args
    let task : Errand := ⟨name, words, [], false, s.tree, s.current, []⟩
    match Judgement.judge task (words.length + 1) words with
    | .ok truth => s.done (if truth then 0 else 1)
    | .error trouble => s.mistake trouble.message

/-- Writes to the output; a closed one is a failure. -/
def say (name : Raw) (raw : Raw) (s : State) : State :=
  if (s.target? 1).isNone && !raw.isEmpty then
    (s.complain (name ++ ": I/O error".toList)).done 1
  else (s.send 1 raw).done 0

def printf (args : List Raw) : State → State :=
  withOwnOptions "" "" args fun _ rest s =>
    match rest with
    | [] => s.mistake "usage: printf format [arg ...]".toList
    | source :: args =>
        let (text, troubles, status) := Tool.format source args
        let s := troubles.foldl (fun s trouble => s.complain trouble.message) s
        let s := say "printf".toList text s
        s.done (max s.status status)

/-- Waits for processes in the background, and tells the status of the last one. -/
def waitFor : List Raw → State → State
  | [], s =>
      let ends := s.jobs.foldl (fun latest job => max latest job.ends) s.time
      (s.wait (ends - s.time)).done 0
  | numbers, s => each numbers s
where
  each : List Raw → State → State
    | [], s => s
    | word :: rest, s =>
        match Raw.nat? word with
        | none => s.mistake (illegalNumber word)
        | some number =>
            match s.job? number with
            | none => each rest (s.done 127)
            | some job =>
                let s := (s.wait (job.ends - s.time)).done job.status
                each rest (if 128 < job.status then s.lament (job.status - 128) else s)

def trap (args : List Raw) (s : State) : State :=
  match args with
  | [] =>
      let list := s.traps.mergeSort fun a b => a.1 ≤ b.1
      let shown := list.flatMap fun (signal, action) =>
        "trap -- ".toList ++ quotedText action ++ ' ' :: signalName signal ++ ['\n']
      (s.send 1 shown).done 0
  | [word] => each none [word] s
  | action :: words => each (if action = ['-'] then none else some action) words s
where
  each (action : Option Raw) : List Raw → State → State
    | [], s => s.done 0
    | word :: rest, s =>
        match signal? word with
        | some signal => each action rest (s.setTrap action signal)
        | none => (s.send 2 ("trap: ".toList ++ word ++ ": bad trap\n".toList)).done 1

def killUsage : Raw :=
  ("Usage: kill [-s sigspec | -signum | -sigspec] [pid | job]... or\n"
    ++ "kill -l [exitstatus]").toList

/-- The signal and the targets that arguments name; the error is what is wrong. -/
def killAim (args : List Raw) : Except Raw (Nat × List Raw) :=
  match args with
  | [] => .error killUsage
  | ('-' :: name) :: rest =>
      match if name.isEmpty then none else signal? name with
      | some signal => if rest.isEmpty then .error killUsage else .ok (signal, rest)
      | none =>
          match ownOptions ['l'] ['s'] (args.length + args.flatten.length + 1) args with
          | .error text => .error text
          | .ok (options, rest) =>
              match options.getLast? with
              | none => if rest.isEmpty then .error killUsage else .ok (15, rest)
              | some (_, value) =>
                  match signal? value with
                  | none => .error ("invalid signal number or name: ".toList ++ value)
                  | some signal => if rest.isEmpty then .error killUsage else .ok (signal, rest)
  | rest => .ok (15, rest)

namespace Layer

def receive (inner : Layer) (signal : Nat) (s : State) : State :=
  match s.trap? signal with
  | some action =>
      if signal = 9 || signal = 19 then s.strike signal
      else if action.isEmpty then s
      else
        let after := inner.runText action { s with context := none }
        if after.flow = .go then { after with status := s.status, context := s.context } else after
  | none => s.strike signal

def killEach (inner : Layer) (signal : Nat) : List Raw → State → State
  | [], s => s
  | target :: rest, s =>
      let digits := if target.head? = some '-' then target.drop 1 else target
      match Raw.nat? digits with
      | none => s.mistake (illegalNumber target)
      | some number =>
          let s :=
            if number = 0 || number = s.process then inner.receive signal s
            else if (s.job? number).isSome then s.killJob number signal
            else (s.complain "No such process\n".toList).done 1
          if s.flow ≠ .go then s else inner.killEach signal rest s

def kill (inner : Layer) (args : List Raw) (s : State) : State :=
  match args with
  | ['-', 'l'] :: rest =>
      match rest with
      | [] =>
          let names := (List.range 65).flatMap fun n => (if n = 0 then ['0'] else signalName n) ++ ['\n']
          (s.send 1 names).done 0
      | word :: _ =>
          let n := (Raw.nat? word).getD 0
          let n := if 128 < n then n - 128 else n
          if 0 < n && n < 65 then (s.send 1 (signalName n ++ ['\n'])).done 0
          else s.mistake ("invalid signal number or exit status: ".toList ++ word)
  | _ =>
      match killAim args with
      | .error text => s.mistake text
      | .ok (signal, targets) => inner.killEach signal targets (s.done 0)

/-- Names that stand for texts, in the order in which they are listed. -/
def listedAliases (s : State) : List (String × Raw) :=
  let place (name : String) : Nat :=
    let codes := (Raw.ofName name).map Char.toNat
    ((codes.head?.getD 0) * 16 + codes.foldl (· + ·) 0) % 39
  s.aliases.reverse.mergeSort fun a b => place a.1 ≤ place b.1

def aliasLine (a : String × Raw) : Raw :=
  "alias ".toList ++ a.1.toList ++ '=' :: quotedText a.2

def nameTexts (args : List Raw) (s : State) : State :=
  let shown (a : String × Raw) : Raw := a.1.toList ++ '=' :: quotedText a.2 ++ ['\n']
  if args.isEmpty then s.send 1 ((listedAliases s).flatMap shown)
  else
    args.foldl
      (fun (s : State) arg =>
        let name := arg.takeWhile (· ≠ '=')
        let key := String.ofList name
        if name.length < arg.length && !name.isEmpty then
          let kept := s.aliases.filter (·.1 ≠ key)
          { s with aliases := (key, arg.drop (name.length + 1)) :: kept }
        else
          match s.aliases.find? (·.1 = key) with
          | some a => s.send 1 (shown a)
          | none => (s.send 2 ("alias: ".toList ++ arg ++ " not found\n".toList)).done 1)
      s

def forgetTexts (args : List Raw) (s : State) : State :=
  if args.head? = some ['-', 'a'] then { s with aliases := [] }
  else
    args.foldl
      (fun (s : State) name =>
        let key := String.ofList name
        if s.aliases.any (·.1 = key) then { s with aliases := s.aliases.filter (·.1 ≠ key) }
        else (s.send 2 ("unalias: ".toList ++ name ++ " not found\n".toList)).done 1)
      s

def describe (verbose : Bool) (name : Raw) (s : State) : Raw × Bool :=
  let text := String.ofList name
  let line (short long : Raw) : Raw := (if verbose then name ++ long else short) ++ ['\n']
  if keywords.contains text then (line name " is a shell keyword".toList, true)
  else if let some (_, value) := s.aliases.find? (·.1 = text) then
    (line (aliasLine (text, value)) (" is an alias for ".toList ++ value), true)
  else if specialNames.contains text then (line name " is a special shell builtin".toList, true)
  else if s.functions.any (·.1 = text) then (line name " is a shell function".toList, true)
  else if regularNames.contains text then (line name " is a shell builtin".toList, true)
  else
    match findCommand s name with
    | .program place _ | .script place _ => (line place (" is ".toList ++ place), true)
    | _ => (if verbose then name ++ ": not found\n".toList else [], false)

def describeAll : List Raw → State → State
  | [], s => s
  | name :: rest, s =>
      let (text, known) := describe true name s
      let s := s.send 1 text
      describeAll rest (if known then s else s.done 127)

def plainCommand (inner : Layer) (args : List Raw) : State → State :=
  withOwnOptions "pvV" "" args fun options rest s =>
    match options.find? fun o => o.1 ≠ 'p', rest with
    | some (letter, _), name :: _ =>
        let (text, known) := describe (letter = 'V') name s
        (s.send 1 text).done (if known then 0 else 127)
    | _, [] => s.done 0
    | none, words => { inner.plain words { s with context := none } with context := s.context }

def runHere (inner : Layer) (args : List Raw) (s : State) : State :=
  match args with
  | [] => s.done 0
  | file :: _ =>
      let found : Option Raw :=
        if file.contains '/' then some file
        else
          (s.searchPath.map fun d => if d.isEmpty then file else d ++ '/' :: file).find? fun place =>
            s.tree.kind s.current (Raw.toPath place) = some .file
      match found with
      | none => s.fail (file ++ ": not found".toList)
      | some place =>
          match s.tree.read s.current (Raw.toPath place) with
          | .ok bytes =>
              let after :=
                inner.runText (Raw.ofBytes bytes) { s.done 0 with context := some place }
              { after with
                context := s.context, flow := if after.flow = .back then .go else after.flow }
          | .error e =>
              let why : Raw :=
                match e with
                | .notFound | .notADirectory => "No such file".toList
                | e => e.reason
              s.fail ("cannot open ".toList ++ place ++ [':', ' '] ++ why)

def replace (inner : Layer) (args : List Raw) (s : State) : State :=
  match args with
  | [] => s.done 0
  | program :: _ =>
      match findCommand s program with
      | .missing => (s.complain (program ++ ": not found".toList)).ended 127
      | .denied => (s.complain (program ++ ": Permission denied".toList)).ended 126
      | _ =>
          let after := inner.launch args { s with traps := s.traps.filter (·.2.isEmpty) }
          if after.flow = .go then after.ended after.status else after

def runOwn (inner : Layer) (name : Raw) (args : List Raw) (s : State) : State :=
  match String.ofList name with
  | ":" | "true" => s.done 0
  | "false" => s.done 1
  | "echo" => say name (Tool.echoText args) s
  | "printf" => printf args s
  | "exit" => withNumber args s.status (fun n s => s.ended (n % 256)) s
  | "return" => withNumber args s.status (fun n s => { s with status := n, flow := .back }) s
  | "break" => leaveLoops args .leave s
  | "continue" => leaveLoops args .again s
  | "exec" => inner.replace args s
  | "cd" | "chdir" => changeDirectory args s
  | "pwd" => printDirectory args s
  | "set" => setOptions args s
  | "shift" => shift args s
  | "export" =>
      declareMarked "export" (fun v => { v with exported := true }) (·.exported) args s
  | "readonly" => declareMarked "readonly" (fun v => { v with fixed := true }) (·.fixed) args s
  | "local" => takeLocals args s
  | "test" | "[" => judge name args s
  | "unset" =>
      let after := withOwnOptions "fv" "" args (fun options rest => unsetAll options rest) s
      if after.flow = .go && after.status = 2 then after.ended 2 else after
  | "read" => read args s
  | "getopts" => getOptions args s
  | "eval" => inner.runText (Raw.join ' ' args) (s.done 0)
  | "." => inner.runHere args s
  | "wait" => waitFor args s
  | "kill" => inner.kill args s
  | "trap" => trap args s
  | "type" => describeAll args (s.done 0)
  | "command" => inner.plainCommand args s
  | "umask" =>
      if args.isEmpty then (s.send 1 "0022\n".toList).done 0
      else if args = [['-', 'S']] then (s.send 1 "u=rwx,g=rx,o=rx\n".toList).done 0
      else s.done 0
  | "ulimit" => if args.isEmpty then (s.send 1 "unlimited\n".toList).done 0 else s.done 0
  | "times" => (s.send 1 "0m0.000000s 0m0.000000s\n0m0.000000s 0m0.000000s\n".toList).done 0
  | "fg" | "bg" => s.mistake "No current job".toList
  | "alias" => nameTexts args (s.done 0)
  | "unalias" => forgetTexts args (s.done 0)
  | "hash" =>
      match args.find? fun a => (describe false a s).1.isEmpty with
      | some a => (s.complain (a ++ ": not found".toList)).done 1
      | none => s.done 0
  | _ => s.done 0

def own (inner : Layer) (name : Raw) (args : List Raw) (s : State) : State :=
  { inner.runOwn name args { s with context := some name } with context := s.context }

end Layer

end LintBridge.Shell
