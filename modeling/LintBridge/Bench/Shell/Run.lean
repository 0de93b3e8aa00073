import LintBridge.Bench.Rule.Call
import LintBridge.Bench.Shell.Batch
import LintBridge.Bench.Shell.Own
import LintBridge.Bench.Shell.Session
import LintBridge.Bench.Shell.Setting
import LintBridge.Bench.Shell.Walk
import LintBridge.Bench.Tool.Toolbox

/-!
# Running shell scripts

Commands change the state of a shell.  A command in brackets, in a pipeline or in the
background works on a copy of the shell and shares the files and what is written.  Below
the last layer stands one that hangs.  Among the programs that a shell starts are the
shell itself and those that start other ones.
-/

set_option autoImplicit false

/-! ## Programs that a shell starts -/

namespace LintBridge.Shell

def programNames : List String :=
  ["sh", "dash", "sleep", "date", "kill", "which", "env", "printenv", "timeout", "nohup",
   "setsid", "stdbuf", "nice", "find", "xargs", "awk", "mawk"]

def State.take (s : State) (p : Product) : State :=
  let s := { s with tree := p.tree, status := p.status }
  let s := p.written.foldl (fun s w => s.send (match w.1 with | .out => 1 | .err => 2) w.2) s
  let s :=
    match s.target? 0 with
    | some (.input id true) => if p.left.isEmpty then s else s.setText id p.left
    | _ => s
  let isRead : Bool :=
    match s.target? 1 with
    | some (.buffer _) => false
    | _ => true
  if p.ending = .never || (p.ending = .unread && isRead) then
    { s with time := s.limit, flow := .hung }
  else s

def State.use (s : State) (tool : Tool) (name : Raw) (args : List Raw) : State :=
  let (input, after) := if tool.reads args then s.takeInput else ([], s)
  let onFile :=
    match s.target? 0 with
    | some (.input _ file) => file
    | _ => false
  after.take (tool.run ⟨name, args, input, onFile, s.tree, s.current, s.environment⟩)

namespace Layer

def runProgram (inner : Layer) (program : String) (name : Raw) (args : List Raw) (s : State) :
    State :=
  match program with
  | "sh" | "dash" => s.adopt (inner.runShell name args s.child)
  | "sleep" => sleep name args s
  | "date" => tellTime name args s
  | "kill" => { inner.kill args { s with context := none } with context := s.context }
  | "which" => which args s
  | "env" => inner.runIn name args s
  | "printenv" => printEnvironment args s
  | "timeout" => inner.runFor name args s
  | "nohup" | "setsid" | "stdbuf" | "nice" => inner.runCalmly program name args s
  | "find" => inner.find name args s
  | "xargs" => inner.batch name args s
  | "awk" | "mawk" => inner.runRules name args s
  | program =>
      match Tool.named? program with
      | none => (s.complain (name ++ ": not found".toList)).done 127
      | some tool => s.use tool name args

def runLaunch (inner : Layer) (words : List Raw) (s : State) : State :=
  match words with
  | [] => s.done 0
  | name :: args =>
      match findCommand s name with
      | .missing =>
          let why : String := if name.isEmpty then ": Permission denied" else ": not found"
          (s.complain (name ++ why.toList)).done 127
      | .denied => (s.complain (name ++ ": Permission denied".toList)).done 126
      | .program _ program => inner.runProgram program name args s
      | .script place content =>
          match interpreter? content with
          | none => s.adopt (inner.runShell "/bin/sh".toList (place :: args) s.child)
          | some (interpreter, options) =>
              match findCommand s interpreter with
              | .program _ program =>
                  inner.runProgram program interpreter (options ++ place :: args) s
              | _ => (s.complain (name ++ ": not found".toList)).done 127

end Layer

end LintBridge.Shell

/-! ## Commands -/

namespace LintBridge.Shell

def Command.redirections : Command → List Redirection
  | .simple _ _ _ list => list
  | .subshell _ _ list => list
  | .group _ _ list => list
  | _ => []

def Command.isAlone : Command → Bool
  | .simple _ _ _ _ => true
  | _ => false

/-- The descriptors after redirections, with files taken as sinks. -/
def aimed (s : State) : List Redirection → State
  | [] => s
  | r :: rest =>
      let target : Option Target :=
        match r.aim with
        | .copy [.text [digit] _] => if digit.isDigit then s.target? (digit.toNat - 48) else none
        | _ => some .sink
      aimed (s.setTarget r.descriptor target) rest

namespace Layer

def runPlain (inner : Layer) (words : List Raw) (s : State) : State :=
  match words with
  | [] => s
  | name :: args => if isOwn name then inner.own name args s else inner.launch words s

def runCall (inner : Layer) (words : List Raw) (s : State) : State :=
  match words with
  | [] => s
  | name :: args =>
      match if isSpecialName name then none else s.functions.find? fun f => f.1.toList = name with
      | some (_, body) =>
          let after :=
            inner.run body
              { s with args, locals := some [], loops := 0, optionIndex := 1, lettersTaken := 0 }
          let after := (after.locals.getD []).foldl (fun s kept => s.putVariable kept.1 kept.2) after
          { after with
            args := s.args, locals := s.locals, loops := s.loops,
            optionIndex := s.optionIndex, lettersTaken := s.lettersTaken,
            flow := if after.flow = .back then .go else after.flow }
      | none => inner.plain words s

/-- The fields of words up to the first one that is any, and the words behind it. -/
def firstFields (inner : Layer) : List Word → State → List Raw × List Word × State
  | [], s => ([], [], s)
  | word :: rest, s =>
      let (own, s) := inner.fieldsOfWord word s
      if own.isEmpty && s.flow = .go then inner.firstFields rest s else (own, rest, s)

def commandFields (inner : Layer) (words : List Word) (s : State) : List Raw × State :=
  let (first, rest, s) := inner.firstFields words s
  if s.flow ≠ .go then (first, s)
  else
    let (others, s) : List Raw × State :=
      if first.head?.any declares then inner.declaredFields rest s else inner.fields rest s
    (first ++ others, s)

def trace (outer : State) (assigned : List (String × Raw)) (words : List Raw) (s : State) : State :=
  if !s.has 'x' then s
  else
    let texts := assigned.map (fun a => a.1.toList ++ '=' :: a.2) ++ words
    let text := (s.look "PS4").getD [] ++ Raw.join ' ' texts ++ ['\n']
    { ({ s with descriptors := outer.descriptors }).send 2 text with descriptors := s.descriptors }

def assignFor (name : String) (value : Raw) (s : State) : State :=
  if s.isFixed name then s.fail (name.toList ++ ": is read only".toList)
  else s.putVariable name (some ⟨some value, true, false⟩)

def runSimple (inner : Layer) (line : Nat) (assignments : List (String × Word))
    (words : List Word) (redirections : List Redirection) (s : State) : State :=
  let (list, s) := inner.commandFields words { s with line, outputStatus := 0 }
  if s.flow ≠ .go then s
  else
    let special := list.head?.any isSpecialName
    let (opened, fine) := inner.redirect redirections s
    if opened.flow ≠ .go then { opened with descriptors := s.descriptors }
    else if !fine then
      let failed := { opened with descriptors := s.descriptors, status := 2 }
      if special then failed.ended 2 else failed
    else
      let keeps := list.isEmpty || special
      let assign : String → Raw → State → State :=
        if keeps then fun name value s => s.tryAssign name value else assignFor
      let (assigned, ready) := inner.assignedValues assign assignments opened
      if ready.flow ≠ .go then { ready with descriptors := s.descriptors }
      else
        let ready := trace s assigned list ready
        match list with
        | [] => { ready with descriptors := s.descriptors, status := ready.outputStatus }
        | _ =>
            let after := inner.call list ready
            let after :=
              if keeps then after
              else
                assignments.foldl
                  (fun (after : State) a => after.putVariable a.1 (opened.binding? a.1)) after
            if list = ["exec".toList] then after
            else { after with descriptors := s.descriptors }

def runPipeline (inner : Layer) : List Command → Option Nat → State → State
  | [], _, s => s
  | command :: rest, source, s =>
      let fed :=
        match source with
        | some id => s.setTarget 0 (some (.input id false))
        | none => s
      if rest.isEmpty then s.absorb (inner.finish (inner.run command fed.apart))
      else
        let id := s.fresh
        let shell := ({ fed.apart with fresh := id + 1 }).setTarget 1 (some (.buffer id))
        inner.runPipeline rest (some id) (s.absorb (inner.finish (inner.run command shell)))

def runTest (inner : Layer) (command : Command) (s : State) : State :=
  let after := inner.run command { s with tested := true }
  { after with tested := s.tested }

def afterBody (s : State) : State × Bool :=
  match s.flow with
  | .go => (s, true)
  | .leave n => ({ s with flow := if n ≤ 1 then .go else .leave (n - 1), status := 0 }, false)
  | .again n =>
      if n ≤ 1 then ({ s with flow := .go }, true) else ({ s with flow := .again (n - 1) }, false)
  | _ => (s, false)

/-- A part of a command; one that is not there succeeds. -/
def runPart (inner : Layer) (command : Command) (s : State) : State :=
  match command with
  | .nothing => s.done 0
  | command => inner.run command s

def runEach (inner : Layer) (name : String) (body : Command) : List Raw → State → State
  | [], s => s
  | word :: rest, s =>
      let s := s.tryAssign name word
      if s.flow ≠ .go then s
      else
        let (after, more) := afterBody (inner.run body s)
        if more then inner.runEach name body rest after else after

def anyMatches (inner : Layer) (raw : Raw) : List Word → State → Bool × State
  | [], s => (false, s)
  | pattern :: rest, s =>
      let (found, s) := inner.marks pattern s
      if s.flow ≠ .go then (true, s)
      else if Pattern.nameMatches found raw then (true, s)
      else inner.anyMatches raw rest s

def runCases (inner : Layer) (raw : Raw) : List (List Word × Command) → State → State
  | [], s => s.done 0
  | (patterns, body) :: rest, s =>
      let (hit, s) := inner.anyMatches raw patterns s
      if hit then inner.runPart body s else inner.runCases raw rest s

def runGo (inner : Layer) (command : Command) (s : State) : State :=
  match command with
  | .nothing => s
  | .simple line assignments words redirections =>
      (inner.runSimple line assignments words redirections s).checked
  | .pipeline commands => (inner.runPipeline commands none s).checked
  | .negated command =>
      let after := inner.runTest command s
      if after.flow ≠ .go then after else after.done (if after.status = 0 then 1 else 0)
  | .both first second =>
      let after := inner.runTest first s
      if after.status = 0 then inner.run second after else after
  | .either first second =>
      let after := inner.runTest first s
      if after.status = 0 then after else inner.run second after
  | .sequence first second => inner.run second (inner.run first s)
  | .background command =>
      let holds := (aimed s command.redirections).holdsStream
      let number := State.processNumber s.fresh
      let shell := { s.apart with fresh := s.fresh + 1, writer := number, tested := false }
      let after := inner.finish (inner.run command (shell.setTarget 0 none))
      s.detach after number holds command.isAlone
  | .choice test yes no =>
      let after := inner.runTest test s
      if after.flow ≠ .go then after
      else inner.runPart (if after.status = 0 then yes else no) after
  | .loop whileTrue test body status =>
      let (after, more) := afterBody (inner.runTest test { s with loops := s.loops + 1 })
      if !more then { after with loops := s.loops }
      else if (after.status = 0) = (whileTrue = true) then
        let (after, more) := afterBody (inner.run body after)
        let after := { after with loops := s.loops }
        if more then inner.run (.loop whileTrue test body after.status) after else after
      else { after with loops := s.loops, status }
  | .each line name words body =>
      let (list, s) : List Raw × State :=
        match words with
        | some words => inner.fields words { s with line }
        | none => (s.args, s)
      if s.flow ≠ .go then s
      else
        let ready := if list.isEmpty then s.done 0 else s
        { inner.runEach name body list { ready with loops := s.loops + 1 } with loops := s.loops }
  | .cases line word branches =>
      let (raw, s) := inner.single word { s with line }
      if s.flow ≠ .go then s else inner.runCases raw branches s
  | .subshell line command redirections =>
      let (opened, fine) := inner.redirect redirections { s.apart with line }
      (s.absorb (if fine then inner.finish (inner.run command opened) else opened)).checked
  | .group line command redirections =>
      let (opened, fine) := inner.redirect redirections { s with line }
      { (if fine then inner.run command opened else opened) with descriptors := s.descriptors }
  | .define name body =>
      { s with functions := (name, body) :: s.functions.filter (·.1 ≠ name), status := 0 }

def runScript (inner : Layer) (cursor : Cursor) (s : State) : State :=
  if s.flow ≠ .go then s
  else
    match commandLine.run { cursor with aliases := s.aliases } with
    | .error flaw => ({ s with line := flaw.line }).fail flaw.text.toList
    | .ok (none, _) => s
    | .ok (some command, rest) =>
        let s :=
          if s.has 'v' then s.send 2 (cursor.rest.take (cursor.rest.length - rest.rest.length)) else s
        inner.script rest (if s.has 'n' then s else inner.run command s)

/-- The layer over another one.  The inner layer is only built where it is needed. -/
def above (inner : Unit → Layer) : Layer where
  segments split word s := (inner ()).segmentsOf split word s
  run command s := if s.flow ≠ .go then s else (inner ()).runGo command s
  call words s := (inner ()).runCall words s
  plain words s := (inner ()).runPlain words s
  launch words s := (inner ()).runLaunch words s
  script cursor s := (inner ()).runScript cursor s

def ofDepth : Nat → Layer
  | 0 => bottom
  | n + 1 => above fun _ => ofDepth n

def usual : Layer :=
  ofDepth 100000

end Layer

end LintBridge.Shell
