import LintBridge.Bench.Shell.Layer
import LintBridge.Bench.Shell.State
import LintBridge.Bench.Tool.Options

/-!
# Programs that start programs

The programs that are there to start other ones, and the shell as one of them.
-/

set_option autoImplicit false

/-!
## Starting programs in the name of another one

Some programs are there to start other ones.  They have messages of their own about
programs that cannot be started.
-/

namespace LintBridge.Shell

def State.note (s : State) (text : Raw) (status : Nat) : State :=
  (s.send 2 (text ++ ['\n'])).done status

def State.misuse (s : State) (program text : Raw) (status : Nat) : State :=
  s.note (program ++ ':' :: ' ' :: text ++ "\nTry '".toList ++ program
    ++ " --help' for more information.".toList) status

/-- What a tool is given that works for a program which starts others. -/
def State.errand (s : State) (name : Raw) (args : List Raw) : Errand :=
  ⟨name, args, [], false, s.tree, s.current, s.environment⟩

namespace Layer

/-- Starts a program; what is said of one that cannot be started begins with a text that
its name gives. -/
def start (inner : Layer) (front : Raw → Raw) (words : List Raw) (s : State) : State :=
  match words with
  | [] => s.done 0
  | name :: args =>
      match findCommand s name with
      | .missing => s.note (front name ++ ": No such file or directory".toList) 127
      | .denied => s.note (front name ++ ": Permission denied".toList) 126
      | _ => inner.launch (name :: args) s

end Layer

end LintBridge.Shell

/-!
## The shell as a program

How a shell begins that another program starts: its variables, its options, and where its
commands are.
-/

namespace LintBridge.Shell

def ownVariables : List (String × Raw) :=
  [("IFS", [' ', '\t', '\n']), ("OPTIND", ['1']), ("PS1", ['#', ' ']), ("PS2", ['>', ' ']),
   ("PS4", ['+', ' '])]

def startValues (environment : List (String × Raw)) (directory : Raw) : List (String × Variable) :=
  let given := environment.filter fun v => !(ownVariables.any (·.1 = v.1) || v.1 = "PWD")
  ("PWD", ⟨some directory, true, false⟩)
    :: ownVariables.map (fun v => (v.1, ⟨some v.2, false, false⟩))
    ++ given.map fun v => (v.1, ⟨some v.2, true, false⟩)

def State.child (s : State) : State :=
  { s with
    values := startValues s.environment s.directory, functions := [], aliases := [], options := [],
    jobs := [],
    traps := s.traps.filter (·.2.isEmpty), locals := none, loops := 0, status := 0,
    context := none, tested := false, process := processNumber s.fresh, fresh := s.fresh + 1,
    optionIndex := 1, lettersTaken := 0, line := 0, lastJob := none }

/-- The options of a shell: its state with them, whether commands are a text, and what is
left; the error is what is wrong. -/
def shellOptions : List Raw → Bool → State → Except Raw (State × Bool × List Raw)
  | [], onText, s => .ok (s, onText, [])
  | word :: rest, onText, s =>
      match word with
      | ['-', '-'] | ['-'] => .ok (s, onText, rest)
      | sign :: letter :: letters =>
          if sign = '-' || sign = '+' then
            let all := letter :: letters
            let plain := all.filter fun c => c ≠ 'c' && c ≠ 'o' && c ≠ 'l'
            match takeLetters (sign = '-') plain s with
            | .error c => .error ("Illegal option ".toList ++ [sign, c])
            | .ok s =>
                if all.contains 'o' then
                  match rest with
                  | [] => .ok (s, onText || all.contains 'c', [])
                  | name :: rest =>
                      match optionNames.find? (·.1.toList = name) with
                      | some (_, c) =>
                          shellOptions rest (onText || all.contains 'c') (s.setOption c (sign = '-'))
                      | none => .error ("Illegal option ".toList ++ sign :: 'o' :: ' ' :: name)
                else shellOptions rest (onText || all.contains 'c') s
          else .ok (s, onText, word :: rest)
      | _ => .ok (s, onText, word :: rest)

namespace Layer

def runShell (inner : Layer) (name : Raw) (args : List Raw) (s : State) : State :=
  let s := { s with name }
  match shellOptions args false s with
  | .error text => s.fail text
  | .ok (s, true, []) => s.fail "-c requires an argument".toList
  | .ok (s, true, script :: rest) =>
      inner.finish (inner.runText script { s with name := rest.head?.getD name, args := rest.tail })
  | .ok (s, false, rest) =>
      match if s.has 's' then none else rest.head? with
      | none =>
          let (script, s) := s.takeInput
          inner.finish (inner.runText script { s with args := rest, options := 's' :: s.options })
      | some file =>
          match s.tree.read s.current (Raw.toPath file) with
          | .ok bytes =>
              inner.finish (inner.runText (Raw.ofBytes bytes) { s with name := file, args := rest.tail })
          | .error .isADirectory => s
          | .error e =>
              let why : Raw := if e = .notFound then "No such file".toList else e.reason
              s.fail ("cannot open ".toList ++ file ++ [':', ' '] ++ why)

end Layer

end LintBridge.Shell
