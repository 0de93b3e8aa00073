import LintBridge.Bench.Rule.Run

/-!
# Calling a script of rules

The arguments of a call, and the whole of a script: what is done at the beginning, with each
record, and at the end.
-/

set_option autoImplicit false

namespace LintBridge.Rule

open Shell (Layer)

structure Call where
  separator : Option Raw
  assigned : List (String × Raw)
  files : List Raw
  operands : List Raw

abbrev Refusal := Raw × Nat

def Call.read (called : Raw) : Nat → List Raw → Call → Except Refusal Call
  | 0, words, c => .ok { c with operands := words }
  | fuel + 1, words, c =>
      let refuse {α : Type} (text : Raw) : Except Refusal α :=
        .error (called ++ ':' :: ' ' :: text ++ ['\n'], 2)
      match words with
      | ['-', '-'] :: rest => .ok { c with operands := rest }
      | ('-' :: letter :: own) :: rest =>
          let taken : Option (Raw × List Raw) :=
            if own.isEmpty then rest.head?.map fun v => (v, rest.tail) else some (own, rest)
          if !("FvfW".toList.contains letter) then
            refuse ("not an option: -".toList ++ letter :: own)
          else
            match taken with
            | none => refuse ("option -".toList ++ letter :: " lacks argument".toList)
            | some (value, rest) =>
                match letter with
                | 'F' => Call.read called fuel rest { c with separator := some value }
                | 'f' => Call.read called fuel rest { c with files := c.files ++ [value] }
                | 'v' =>
                    match assignment? value with
                    | some a => Call.read called fuel rest { c with assigned := c.assigned ++ [a] }
                    | none => refuse ("improper assignment: -v ".toList ++ value)
                | _ => Call.read called fuel rest c
      | words => .ok { c with operands := words }

def usage : Raw :=
  "Usage: mawk [Options] [Program] [file ...]\n".toList

def Course.begin (called : Raw) (script : Script) (words : List Raw) (s : Shell.State) : Course :=
  let text (value : String) : Binding := .value (.text value.toList)
  let number (n : Nat) : Binding := .value (.ofNat n)
  let keys := (List.range words.length).map Raw.ofNat
  { shell := s
    script
    called
    globals :=
      [("FS", text " "), ("OFS", text " "), ("ORS", text "\n"), ("RS", text "\n"),
       ("SUBSEP", text "\x1c"), ("CONVFMT", text "%.6g"), ("OFMT", text "%.6g"), ("NR", number 0),
       ("FNR", number 0), ("RSTART", number 0), ("RLENGTH", .value (.number (-1.0))),
       ("FILENAME", text ""), ("ARGC", number words.length), ("ARGV", .table 0),
       ("ENVIRON", .table 1)]
    locals := []
    depth := 0
    tables :=
      [(0, (keys.zip (words.map Value.input)).reverse),
       (1, s.environment.map fun v => (v.1.toList, .input v.2))]
    freshTable := 2
    record := []
    parts := #[]
    nextArg := 1
    input := none
    hasInput := false
    sources := []
    written := []
    pipes := []
    out := []
    active := []
    flow := .go
    status := 0
    seed := 1 }

namespace Clause

def holds (w : Surroundings) (fuel : Nat) (c : Clause) : Doing Bool := do
  match c.occasion with
  | .start | .finish => return false
  | .always => return true
  | .when test => return (← eval w fuel test).holds
  | .between id first last =>
      let begins ← (do
        if (← get).active.contains id then return true
        else return (← eval w fuel first).holds : Doing Bool)
      if begins then
        let ends := (← eval w fuel last).holds
        modify fun c =>
          let others := c.active.filter (· ≠ id)
          { c with active := if ends then others else id :: others }
      return begins

def isStart (c : Clause) : Bool :=
  match c.occasion with
  | .start => true
  | _ => false

def isFinish (c : Clause) : Bool :=
  match c.occasion with
  | .finish => true
  | _ => false

end Clause

def applyAll (w : Surroundings) (fuel : Nat) : List Clause → Doing Unit
  | [] => return
  | clause :: rest => do
      if ← clause.holds w fuel then
        if ← goes then follow w fuel clause.body
      if ← goes then applyAll w fuel rest

def followOnce (w : Surroundings) (fuel : Nat) : List Clause → Doing Unit
  | [] => return
  | clause :: rest => do
      follow w fuel clause.body
      if ← goes then followOnce w fuel rest

def applyToRecords (w : Surroundings) (clauses : List Clause) : Nat → Doing Unit
  | 0 => exhausted ()
  | fuel + 1 => do
      match ← nextMain 1000000 with
      | none => return
      | some record =>
          modify fun c => c.setRecord record
          applyAll w fuel clauses
          let c ← get
          match c.flow with
          | .next => set { c with flow := .go }
          | .nextFile => set { c with flow := .go, input := none }
          | _ => pure ()
          if ← goes then applyToRecords w clauses fuel

def supply : Nat := 1100000

def followScript (w : Surroundings) (clauses : List Clause) : Doing Unit := do
  let starts := clauses.filter Clause.isStart
  let finishes := clauses.filter Clause.isFinish
  let others := clauses.filter fun c => !(c.isStart || c.isFinish)
  followOnce w supply starts
  if (← goes) && !(others.isEmpty && finishes.isEmpty) then applyToRecords w others supply
  let c ← get
  match c.flow with
  | .go | .exit =>
      set { c with flow := .go }
      followOnce w supply finishes
  | _ => pure ()
  let c ← get
  match c.flow with
  | .hung => return
  | _ => runPipes w.inner c.pipes

def Call.script (called : Raw) (c : Call) (s : Shell.State) : Except Refusal (Raw × List Raw) :=
  match c.files, c.operands with
  | [], [] => .error (usage, 0)
  | [], text :: rest => .ok (text, rest)
  | files, operands => do
      let texts ← files.mapM textOf
      return (texts.flatten, operands)
where
  textOf (name : Raw) : Except Refusal Raw :=
    match s.tree.read s.current (Raw.toPath name) with
    | .ok bytes => .ok (Raw.ofBytes bytes ++ ['\n'])
    | .error e =>
        let why : Raw := "\" (".toList ++ e.reason ++ ")\n".toList
        .error (called ++ ": cannot open \"".toList ++ name ++ why, 2)

end LintBridge.Rule

namespace LintBridge.Shell

open Rule

/-- The program that follows rules.  One that writes without an end is stopped when nobody
reads any more. -/
def Layer.runRules (inner : Layer) (name : Raw) (args : List Raw) (s : State) : State :=
  let called := ((Raw.split '/' name).getLast?).getD name
  let version := args.head?.any fun word => word = "--version".toList || word = "-Wversion".toList
  let isVersion := version || args.take 2 = ["-W".toList, "version".toList]
  if isVersion then (s.send 1 "mawk 1.3.4 20200120\n".toList).done 0
  else
    let ready : Except Refusal (Call × Script × List Raw) := do
      let call ← Call.read called (args.length + 1) args ⟨none, [], [], []⟩
      let (text, operands) ← call.script called s
      let script ← (Script.read text).mapError fun text => (called ++ ':' :: ' ' :: text ++ ['\n'], 2)
      return (call, script, operands)
    match ready with
    | .error (text, status) => (s.send (if status = 0 then 1 else 2) text).done status
    | .ok (call, script, operands) =>
        let course := Course.begin called script (called :: operands) s
        let assigned :=
          (call.separator.map fun f => ("FS", f)).toList ++ call.assigned
        let whole : Doing Unit := do
          assigned.forM fun a => assignWord a.1 a.2
          followScript ⟨inner, script.routines⟩ script.clauses
        let ended := (whole.run course).2
        let after := ended.flush
        let isRead : Bool :=
          match s.target? 1 with
          | some (.buffer _) => false
          | _ => true
        match after.flow with
        | .hung =>
            if !isRead && after.shell.flow = .go && !ended.out.isEmpty then after.shell.done 141
            else { after.shell with time := s.limit, flow := .hung }
        | _ => after.shell.done after.status

end LintBridge.Shell
