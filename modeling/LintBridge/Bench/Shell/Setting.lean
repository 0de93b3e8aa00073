import LintBridge.Bench.Shell.Session
import LintBridge.Bench.Shell.Sum
import LintBridge.Bench.Tool.Moment

/-!
# Commands under other conditions

Programs that start a command in another environment, for a limited time, or in another
way that its results do not show.
-/

set_option autoImplicit false

namespace LintBridge.Shell

open Tool (Choices OptionTable)

/-- The durations of words, in microseconds; the error holds the words that are none. -/
def durations (words : List Raw) : Except (List Raw) Nat :=
  match words.filter fun word => (duration? word).isNone with
  | [] => .ok ((words.filterMap duration?).foldl (· + ·) 0)
  | wrong => .error wrong

def wordsOf : Nat → Option Raw → Raw → List Raw
  | 0, _, _ => []
  | _ + 1, word, [] => (word.map List.reverse).toList
  | fuel + 1, word, c :: rest =>
      if Raw.isSpace c then (word.map List.reverse).toList ++ wordsOf fuel none rest
      else if c = '\'' || c = '"' then
        let inside := rest.takeWhile (· ≠ c)
        wordsOf fuel (some (inside.reverse ++ word.getD [])) (rest.drop (inside.length + 1))
      else wordsOf fuel (some (c :: word.getD [])) rest

/-- What a call of the program that changes the environment asks for. -/
structure Environs where
  bare : Bool
  /-- The variables that are taken away, the last one first. -/
  lost : List String
  directory : Option Raw
  mark : Char
  words : List Raw

def environs : Nat → List Raw → Environs → Except Raw Environs
  | 0, words, e => .ok { e with words }
  | fuel + 1, words, e =>
      match words with
      | ['-', '-'] :: rest => .ok { e with words := rest }
      | ['-'] :: rest => environs fuel rest { e with bare := true }
      | ('-' :: '-' :: text) :: rest =>
          let name := text.takeWhile (· ≠ '=')
          let value := text.drop (name.length + 1)
          match String.ofList name with
          | "ignore-environment" => environs fuel rest { e with bare := true }
          | "null" => environs fuel rest { e with mark := '\x00' }
          | "unset" => environs fuel rest { e with lost := String.ofList value :: e.lost }
          | "chdir" => environs fuel rest { e with directory := some value }
          | "split-string" => environs fuel (wordsOf (value.length + 1) none value ++ rest) e
          | _ => .error ("unrecognized option '".toList ++ '-' :: '-' :: text ++ ['\''])
      | ('-' :: letter :: letters) :: rest =>
          let more : List Raw := if letters.isEmpty then rest else ('-' :: letters) :: rest
          let value : Option (Raw × List Raw) :=
            if letters.isEmpty then rest.head?.map fun v => (v, rest.tail) else some (letters, rest)
          match letter with
          | 'i' => environs fuel more { e with bare := true }
          | '0' => environs fuel more { e with mark := '\x00' }
          | 'v' => environs fuel more e
          | 'u' | 'C' | 'S' =>
              match value with
              | none => .error ("option requires an argument -- '".toList ++ [letter, '\''])
              | some (value, rest) =>
                  if letter = 'u' then
                    environs fuel rest { e with lost := String.ofList value :: e.lost }
                  else if letter = 'C' then environs fuel rest { e with directory := some value }
                  else environs fuel (wordsOf (value.length + 1) none value ++ rest) e
          | _ => .error ("invalid option -- '".toList ++ [letter, '\''])
      | words => .ok { e with words }

/-- The environment with one variable after the other, each behind a mark. -/
def environmentText (mark : Char) (s : State) : Raw :=
  s.environment.flatMap fun v => v.1.toList ++ '=' :: v.2 ++ [mark]

def printEnvironment (args : List Raw) (s : State) : State :=
  let (mark, names) : Char × List Raw :=
    match args with
    | ['-', '0'] :: names => ('\x00', names)
    | names => ('\n', names)
  if names.isEmpty then (s.send 1 (environmentText mark s)).done 0
  else
    let value? (name : Raw) : Option Raw :=
      (s.environment.find? (·.1.toList = name)).map (·.2)
    let text := (names.filterMap value?).flatMap fun value => value ++ [mark]
    (s.send 1 text).done (if names.all fun name => (value? name).isSome then 0 else 1)

def assignmentsOf (words : List Raw) : List (String × Raw) × List Raw :=
  let (assigned, command) := words.span fun word => word.contains '='
  (assigned.map fun word =>
    let name := word.takeWhile (· ≠ '=')
    (String.ofList name, word.drop (name.length + 1)), command)

namespace Layer

def runIn (inner : Layer) (name : Raw) (args : List Raw) (s : State) : State :=
  match environs (2 * args.flatten.length + args.length + 1) args ⟨false, [], none, '\n', []⟩ with
  | .error text => s.misuse name text 125
  | .ok e =>
      let kept := if e.bare then [] else s.values.filter fun v => !e.lost.contains v.1
      let (assigned, command) := assignmentsOf e.words
      let changed := assigned.foldl
        (fun (s : State) (v : String × Raw) => s.putVariable v.1 (some ⟨some v.2, true, false⟩))
        { s with values := kept }
      let back (after : State) : State :=
        { after with values := s.values, current := s.current, directory := s.directory }
      if command.isEmpty then back ((changed.send 1 (environmentText e.mark changed)).done 0)
      else
        let front (command : Raw) : Raw := name ++ ':' :: ' ' :: Tool.quote command
        match e.directory with
        | none => back (inner.start front command changed)
        | some directory =>
            match s.tree.node s.current (Raw.toPath directory) with
            | .ok (place, .directory) =>
                back (inner.start front command
                  { changed with current := place, directory := Raw.ofPath (FileTree.pathOf place) })
            | found =>
                let why : OsError := match found with | .error e => e | .ok _ => .notADirectory
                back (changed.note (name ++ ": cannot change directory to ".toList
                  ++ Tool.quoteAlways directory ++ ':' :: ' ' :: why.reason) 125)

def limitOptions : OptionTable where
  flags := "vfp".toList
  valued := "sk".toList
  words := [("foreground", 'f'), ("preserve-status", 'p'), ("verbose", 'v'), ("signal", 's'),
    ("kill-after", 'k')]
  loose := []
  mixed := false

def runFor (inner : Layer) (name : Raw) (args : List Raw) (s : State) : State :=
  let advice : Raw := "Try '".toList ++ name ++ " --help' for more information.".toList
  match Tool.choices limitOptions args with
  | .error misuse => s.misuse name misuse.message 125
  | .ok c =>
      match c.operands with
      | [] | [_] => s.note advice 125
      | word :: command =>
          match duration? word with
          | none => s.misuse name ("invalid time interval ".toList ++ Tool.quote word) 125
          | some n =>
              let limit := if n = 0 then s.limit else min s.limit (s.time + n)
              let front (command : Raw) : Raw :=
                name ++ ": failed to run command ".toList ++ Tool.quote command
              let after := inner.start front command { s with limit }
              let after := { after with limit := s.limit }
              let kills : Bool :=
                match c.value? 's' with
                | some signal => ["KILL".toList, "SIGKILL".toList, ['9']].contains signal
                | none => false
              if after.flow = .hung && limit < s.limit then
                { after with
                  flow := .go, status := if kills then 137 else if c.has 'p' then 143 else 124 }
              else after

/-- A command behind the options of a program that changes nothing its results show. -/
def runBehind (inner : Layer) (table : OptionTable) (front : Raw → Raw) (lacking : Raw → State → State)
    (name : Raw) (args : List Raw) (s : State) : State :=
  match Tool.choices table args with
  | .error misuse => s.misuse name misuse.message 125
  | .ok c => if c.operands.isEmpty then lacking name s else inner.start front c.operands s

/-- The programs that change nothing which the results of a command show. -/
def runCalmly (inner : Layer) (program : String) (name : Raw) (args : List Raw) (s : State) : State :=
  let quoted (text : String) (command : Raw) : Raw :=
    name ++ text.toList ++ Tool.quote command
  let lacks (name : Raw) (s : State) : State := s.misuse name "missing operand".toList 125
  match program with
  | "nohup" =>
      inner.runBehind { OptionTable.ofLetters "" "" with mixed := false }
        (fun command => name ++ ": failed to run command ".toList ++ Tool.quoteAlways command)
        lacks name args s
  | "setsid" =>
      inner.runBehind { OptionTable.ofLetters "cfw" "" with mixed := false }
        (fun command => name ++ ": failed to execute ".toList ++ command)
        (fun name s => s.misuse name "no command specified".toList 1) name args s
  | "stdbuf" =>
      if args.isEmpty then lacks name s
      else
        inner.runBehind { OptionTable.ofLetters "" "ioe" with mixed := false }
          (quoted ": failed to run command ") lacks name args s
  | _ =>
      inner.runBehind { OptionTable.ofLetters "0123456789" "n" with mixed := false }
        (quoted ": ") (fun _ s => (s.send 1 ['0', '\n']).done 0) name args s

end Layer

def sleep (name : Raw) (args : List Raw) (s : State) : State :=
  match Tool.choices (OptionTable.ofLetters "" "") args with
  | .error misuse => s.misuse name misuse.message 1
  | .ok c =>
      if c.operands.isEmpty then s.misuse name "missing operand".toList 1
      else if ["infinity".toList, "inf".toList].any c.operands.contains then s.wait s.limit
      else
        match durations c.operands with
        | .ok n => (s.wait n).done 0
        | .error words =>
            let lines := words.map fun word =>
              name ++ ": invalid time interval ".toList ++ Tool.quote word
            (s.send 2 (Raw.ofLines lines)).note
              ("Try '".toList ++ name ++ " --help' for more information.".toList) 1

def tellTime (name : Raw) (args : List Raw) (s : State) : State :=
  let table : OptionTable :=
    { (OptionTable.ofLetters "uR" "d").withWords
        [("utc", 'u'), ("universal", 'u'), ("date", 'd'), ("iso-8601", 'I'), ("rfc-email", 'R')] with
      loose := ['I'] }
  match Tool.choices table args with
  | .error misuse => s.misuse name misuse.message 1
  | .ok c =>
      let now := Moment.start.after s.time
      let usual : Raw :=
        if c.has 'R' then "%a, %d %b %Y %H:%M:%S +0000".toList
        else
          match c.value? 'I' with
          | some kind =>
              (if kind = "seconds".toList || kind = ['s'] then "%Y-%m-%dT%H:%M:%S+00:00"
                else "%Y-%m-%d").toList
          | none => "%a %b %e %H:%M:%S UTC %Y".toList
      let wrong (text : Raw) : State :=
        s.note (name ++ ": invalid date ".toList ++ Tool.quote text) 1
      let form : Except Raw Raw :=
        match c.operands with
        | [] => .ok usual
        | ('+' :: form) :: _ => .ok form
        | other :: _ => .error other
      match form, (c.value? 'd').map fun text => (text, Moment.read? now text) with
      | .error text, _ => wrong text
      | .ok _, some (text, none) => wrong text
      | .ok form, some (_, some moment) =>
          (s.send 1 (moment.write (4 * form.length + 64) form ++ ['\n'])).done 0
      | .ok form, none => (s.send 1 (now.write (4 * form.length + 64) form ++ ['\n'])).done 0

def which (args : List Raw) (s : State) : State :=
  let all := args.head? = some ['-', 'a']
  let names := if all || args.head? = some ['-', 's'] then args.tail else args
  let places (name : Raw) : List Raw :=
    let found (place : Raw) : List Raw :=
      match s.tree.node s.current (Raw.toPath place) with
      | .ok (_, .program _) | .ok (_, .file _ true) => [place]
      | _ => []
    if name.contains '/' then found name
    else
      let hits := s.searchPath.flatMap fun directory =>
        found ((if directory.isEmpty then ['.'] else directory) ++ '/' :: name)
      if all then hits else hits.take 1
  let s := s.send 1 (Raw.ofLines (names.flatMap places))
  s.done (if names.isEmpty || names.any fun name => (places name).isEmpty then 1 else 0)

end LintBridge.Shell
