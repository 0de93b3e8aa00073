import LintBridge.Bench.Shell.State

/-!
# Changes of a shell

Single changes that commands make: shells beside this one come and go, options are set,
signals arrive.
-/

set_option autoImplicit false

namespace LintBridge.Shell

/-- The signals by number and name, with what a shell says about a process that one of
them killed. -/
def signals : List (Nat × String × String) :=
  [(1, "HUP", "Hangup"), (2, "INT", ""), (3, "QUIT", "Quit"), (4, "ILL", "Illegal instruction"),
   (5, "TRAP", "Trace/breakpoint trap"), (6, "ABRT", "Aborted"), (7, "BUS", "Bus error"),
   (8, "FPE", "Floating point exception"), (9, "KILL", "Killed"),
   (10, "USR1", "User defined signal 1"), (11, "SEGV", "Segmentation fault"),
   (12, "USR2", "User defined signal 2"), (13, "PIPE", ""), (14, "ALRM", "Alarm clock"),
   (15, "TERM", "Terminated"), (17, "CHLD", ""), (18, "CONT", ""), (19, "STOP", ""),
   (20, "TSTP", ""), (21, "TTIN", ""), (22, "TTOU", ""), (23, "URG", ""),
   (24, "XCPU", "CPU time limit exceeded"), (25, "XFSZ", "File size limit exceeded"),
   (26, "VTALRM", "Virtual timer expired"), (27, "PROF", "Profiling timer expired"),
   (28, "WINCH", ""), (29, "IO", "I/O possible"), (30, "PWR", "Power failure"),
   (31, "SYS", "Bad system call")]

def signal? (raw : Raw) : Option Nat :=
  match Raw.nat? raw with
  | some n => if n < 65 then some n else none
  | none =>
      let name := String.ofList (raw.map Char.toUpper)
      if name = "EXIT" then some 0 else (signals.find? (·.2.1 = name)).map (·.1)

def signalName (number : Nat) : Raw :=
  if number = 0 then "EXIT".toList
  else if number = 34 then "RTMIN".toList
  else if number = 64 then "RTMAX".toList
  else if 34 < number && number < 50 then "RTMIN+".toList ++ Raw.ofNat (number - 34)
  else if 49 < number && number < 64 then "RTMAX-".toList ++ Raw.ofNat (64 - number)
  else
    match signals.find? (·.1 = number) with
    | some signal => signal.2.1.toList
    | none => Raw.ofNat number

def isHarmless (signal : Nat) : Bool :=
  [0, 17, 18, 23, 28].contains signal

def isStop (signal : Nat) : Bool :=
  [19, 20, 21, 22].contains signal

def signalStatus (number : Nat) : Nat :=
  128 + number

namespace State

def endStatus (s : State) : Nat :=
  match s.flow with
  | .exit status => status
  | .signal number => signalStatus number
  | _ => s.status

def held (s : State) : Nat :=
  s.jobs.foldl (fun time job => if job.holds then max time job.ends else time) s.heldUntil

def leaving (outer inner : State) : State :=
  { outer with
    tree := inner.tree, time := inner.time, sent := inner.sent, heldUntil := inner.held,
    texts := inner.texts, fresh := inner.fresh, status := inner.endStatus }

/-- The outer shell after an inner one of the same process group has come to its end. -/
def absorb (outer inner : State) : State :=
  { outer.leaving inner with
    flow := match inner.flow with
      | .signal number => .signal number
      | .hung => .hung
      | _ => outer.flow }

def lament (s : State) (signal : Nat) : State :=
  match signals.find? (·.1 = signal) with
  | some (_, _, text) => if text.isEmpty then s else s.send 2 (text.toList ++ ['\n'])
  | none => s

def adopt (outer inner : State) : State :=
  let after := outer.leaving inner
  match inner.flow with
  | .signal number => after.lament number
  | .hung => { after with flow := .hung }
  | _ => after

def apart (s : State) : State :=
  { s with traps := s.traps.filter (·.2.isEmpty), jobs := [] }

def processNumber (id : Nat) : Nat :=
  4242 + id

/-- The outer shell while an inner one goes on in the background. -/
def detach (outer inner : State) (number : Nat) (holds alone : Bool) : State :=
  let ends := if inner.flow = .hung then inner.limit else inner.time
  { outer with
    tree := inner.tree, sent := inner.sent, texts := inner.texts, fresh := inner.fresh,
    heldUntil := inner.held, status := 0, lastJob := some number,
    jobs := ⟨number, ends, inner.endStatus, holds, alone⟩ :: outer.jobs }

def holdsStream (s : State) : Bool :=
  s.descriptors.any fun d =>
    match d.2 with
    | .stream _ => true
    | _ => false

/-- A failure that nobody looks at ends the shell where errors do. -/
def checked (s : State) : State :=
  if s.flow = .go && s.status ≠ 0 && s.has 'e' && !s.tested then s.ended s.status else s

def job? (s : State) (number : Nat) : Option Background :=
  s.jobs.find? (·.number = number)

/-- Sends a signal to a process in the background.  What it would have written later is
never written; a shell leaves behind the program that it waits for. -/
def killJob (s : State) (number signal : Nat) : State :=
  match s.job? number with
  | none => s
  | some job =>
      if job.ends ≤ s.time || isHarmless signal || isStop signal then s
      else
        let killed := { job with ends := s.time, status := signalStatus signal }
        { s with
          sent := s.sent.filter fun x => x.sender ≠ number || x.time < s.time,
          heldUntil := if job.holds && !job.alone then max s.heldUntil job.ends else s.heldUntil,
          jobs := s.jobs.map fun other => if other.number = number then killed else other }

def strike (s : State) (signal : Nat) : State :=
  if isHarmless signal then s.done 0
  else if isStop signal then { s with time := s.limit, flow := .hung }
  else { s with flow := .signal signal }

def setOption (s : State) (letter : Char) (on : Bool) : State :=
  let others := s.options.filter (· ≠ letter)
  { s with options := if on then letter :: others else others }

end State

def optionNames : List (String × Char) :=
  [("errexit", 'e'), ("noglob", 'f'), ("ignoreeof", 'I'), ("interactive", 'i'), ("monitor", 'm'),
   ("noexec", 'n'), ("stdin", 's'), ("xtrace", 'x'), ("verbose", 'v'), ("vi", 'V'),
   ("emacs", 'E'), ("noclobber", 'C'), ("allexport", 'a'), ("notify", 'b'), ("nounset", 'u'),
   ("privileged", 'p'), ("nolog", '0'), ("debug", '1')]

def optionReport (s : State) : Raw :=
  "Current option settings\n".toList
    ++ optionNames.flatMap fun (name, letter) =>
      Raw.padRight 16 name.toList ++ (if s.has letter then "on\n" else "off\n").toList

/-- What `set` and a shell itself make of options: the arguments behind them, and whether
these replace the old ones. -/
structure OptionWords where
  state : State
  rest : List Raw
  replaces : Bool

/-- Takes the letters of one argument; the value is what is wrong. -/
def takeLetters (on : Bool) : List Char → State → Except Char State
  | [], s => .ok s
  | letter :: rest, s =>
      if optionNames.any (·.2 = letter) && letter ≠ '0' && letter ≠ '1' then
        takeLetters on rest (s.setOption letter on)
      else .error letter

/-- Takes the options of `set`; an unknown one is an error. -/
def takeOptions : List Raw → State → Except Raw OptionWords
  | [], s => .ok ⟨s, [], false⟩
  | ['-', '-'] :: rest, s => .ok ⟨s, rest, true⟩
  | ['-'] :: rest, s =>
      .ok ⟨(s.setOption 'x' false).setOption 'v' false, rest, !rest.isEmpty⟩
  | word :: [], s =>
      match word with
      | '-' :: 'o' :: [] => .ok ⟨s.send 1 (optionReport s), [], false⟩
      | '+' :: 'o' :: [] => .ok ⟨s, [], false⟩
      | sign :: letters =>
          if sign = '-' || sign = '+' then
            match takeLetters (sign = '-') letters s with
            | .ok s => .ok ⟨s, [], false⟩
            | .error letter => .error ("Illegal option ".toList ++ [sign, letter])
          else .ok ⟨s, [word], true⟩
      | [] => .ok ⟨s, [word], true⟩
  | word :: next :: rest, s =>
      match word with
      | sign :: letters =>
          if sign = '-' || sign = '+' then
            let named := letters.getLast? = some 'o'
            let plain := if named then letters.dropLast else letters
            match takeLetters (sign = '-') plain s with
            | .error letter => .error ("Illegal option ".toList ++ [sign, letter])
            | .ok s =>
                if named then
                  match optionNames.find? (·.1.toList = next) with
                  | some (_, letter) => takeOptions rest (s.setOption letter (sign = '-'))
                  | none => .error ("Illegal option ".toList ++ sign :: 'o' :: ' ' :: next)
                else takeOptions (next :: rest) s
          else .ok ⟨s, word :: next :: rest, true⟩
      | [] => .ok ⟨s, word :: next :: rest, true⟩

/-- Microseconds of a text such as `0.5` or `2m`. -/
def duration? (raw : Raw) : Option Nat :=
  let whole := raw.takeWhile Char.isDigit
  let rest := raw.drop whole.length
  let (fraction, unit) : Raw × Raw :=
    match rest with
    | '.' :: more =>
        let digits := more.takeWhile Char.isDigit
        (digits, more.drop digits.length)
    | _ => ([], rest)
  let micros := Raw.digitsValue whole * 1000000
    + Raw.digitsValue ((fraction ++ List.replicate 6 '0').take 6)
  if whole.isEmpty && fraction.isEmpty then none
  else
    match unit with
    | [] | ['s'] => some micros
    | ['m'] => some (micros * 60)
    | ['h'] => some (micros * 3600)
    | ['d'] => some (micros * 86400)
    | _ => none

def State.setTrap (s : State) (action : Option Raw) (signal : Nat) : State :=
  let others := s.traps.filter (·.1 ≠ signal)
  { s with
    traps := match action with
      | some raw => (signal, raw) :: others
      | none => others }

/-- A text in single quotes, and its own single quotes in double ones. -/
def quoteParts : Nat → Raw → Raw
  | 0, _ => []
  | fuel + 1, raw =>
      let plain := raw.takeWhile (· ≠ '\'')
      let quotes := (raw.drop plain.length).takeWhile (· = '\'')
      let rest := raw.drop (plain.length + quotes.length)
      '\'' :: plain ++ '\'' :: (if quotes.isEmpty then [] else '"' :: quotes ++ ['"'])
        ++ (if rest.isEmpty then [] else quoteParts fuel rest)

def quotedText (raw : Raw) : Raw :=
  quoteParts (raw.length + 1) raw

end LintBridge.Shell
