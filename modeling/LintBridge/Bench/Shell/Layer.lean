import LintBridge.Bench.Shell.Change
import LintBridge.Bench.Shell.Field
import LintBridge.Bench.Shell.Reader
import LintBridge.Bench.Shell.Sum
import LintBridge.Bench.Tool.Basic

/-!
# Words and redirections

Commands contain words and words contain commands.  So one layer of the interpreter is
defined over another one, which runs what is inside.  Here is what a layer makes of words
and of redirections.
-/

set_option autoImplicit false

namespace LintBridge.Shell

open Pattern (Mark)

def Edit.needsValue : Edit → Bool
  | .plain | .length | .cut _ _ _ => true
  | _ => false

structure Layer where
  /-- What a word becomes; it is told whether several fields may come out. -/
  segments : Bool → Word → State → List Segment × State
  run : Command → State → State
  call : List Raw → State → State
  plain : List Raw → State → State
  /-- A command of words whose first one is looked for among the files. -/
  launch : List Raw → State → State
  script : Cursor → State → State

namespace Layer

def hang (s : State) : State :=
  { s with time := s.limit, flow := .hung }

def bottom : Layer :=
  ⟨fun _ _ s => ([], hang s), fun _ s => hang s, fun _ s => hang s, fun _ s => hang s,
    fun _ s => hang s, fun _ s => hang s⟩

def runText (inner : Layer) (text : Raw) (s : State) : State :=
  inner.script (.ofScript text 1) s

def marks (inner : Layer) (word : Word) (s : State) : List Mark × State :=
  let (found, s) := inner.segments false (homed s word) s
  (joined found, s)

def single (inner : Layer) (word : Word) (s : State) : Raw × State :=
  let (found, s) := inner.marks word s
  (unmarked found, s)

def finish (inner : Layer) (s : State) : State :=
  match s.trap? 0, s.flow with
  | some action, .go | some action, .exit _ | some action, .back =>
      let status := s.endStatus
      let after := inner.runText action { s with traps := [], flow := .go, status, context := none }
      if after.flow = .go then { after with flow := .exit status } else after
  | _, _ => s

def outputOf (inner : Layer) (command : Command) (s : State) : Raw × State :=
  let id := s.fresh
  let shell := ({ s.apart with fresh := id + 1 }).setTarget 1 (some (.buffer id))
  let after := s.absorb (inner.finish (inner.run command shell))
  (Raw.trimRight (· = '\n') (after.textOf id),
    { after with
      texts := after.texts.filter (·.1 ≠ id), status := s.status, outputStatus := after.status })

/-- The values of all arguments, which may be fields of their own. -/
def argSegments (split quoted : Bool) (all : Bool) (s : State) : List Segment :=
  let between : Option Char :=
    match s.look "IFS" with
    | some raw => raw.head?
    | none => some ' '
  let apart : List Segment :=
    if quoted then
      if split && all then [.gap]
      else (between.map fun c => Segment.mark c true).toList
    else if split then [.loose (between.getD '\x00')]
    else (between.map Segment.loose).toList
  let one (arg : Raw) : List Segment := valueSegments quoted arg
  match s.args with
  | [] => []
  | first :: rest => one first ++ rest.flatMap fun arg => apart ++ one arg

def plainSegments (split quoted : Bool) (name : String) (s : State) : List Segment :=
  match name with
  | "@" => argSegments split quoted true s
  | "*" =>
      if quoted then .field :: argSegments split quoted false s
      else argSegments split quoted false s
  | name => valueSegments quoted ((s.parameter? name).getD [])

def missing (name : String) (why : Raw) (s : State) : List Segment × State :=
  ([], s.fail (name.toList ++ [':', ' '] ++ why))

def editSegments (inner : Layer) (split : Bool) (name : String) (edit : Edit) (quoted : Bool)
    (s : State) : List Segment × State :=
  let value : Option Raw :=
    if (name = "@" || name = "*") && s.args.isEmpty then none else s.parameter? name
  let isGiven (emptyToo : Bool) : Bool :=
    match value with
    | some raw => !(emptyToo && raw.isEmpty)
    | none => false
  let other (word : Word) : List Segment × State :=
    let (found, s) := inner.segments split (homed s word) s
    (if quoted then .field :: found else found.map Segment.loosened, s)
  if s.has 'u' && value.isNone && !(name = "@" || name = "*") && edit.needsValue then
    missing name "parameter not set".toList s
  else
  match edit with
  | .plain => (plainSegments split quoted name s, s)
  | .length => (valueSegments quoted (Raw.ofNat (value.getD []).length), s)
  | .fallback emptyToo word =>
      if isGiven emptyToo then (plainSegments split quoted name s, s) else other word
  | .assign emptyToo word =>
      if isGiven emptyToo then (plainSegments split quoted name s, s)
      else if isName name.toList then
        let (raw, s) := inner.single word s
        (valueSegments quoted raw, s.tryAssign name raw)
      else ([], s.fail (name.toList ++ ": bad variable name".toList))
  | .demand emptyToo word =>
      if isGiven emptyToo then (plainSegments split quoted name s, s)
      else
        let (raw, s) := inner.single word s
        let usual : String :=
          if emptyToo then "parameter not set or null" else "parameter not set"
        missing name (if word.isEmpty then usual.toList else raw) s
  | .instead emptyToo word =>
      if isGiven emptyToo then other word else (if quoted then [.field] else [], s)
  | .cut atEnd longest pattern =>
      let (found, s) := inner.marks pattern s
      (valueSegments quoted (Pattern.cutPart atEnd longest found (value.getD [])), s)
  | .unknown => ([], s.fail "Bad substitution".toList)

def sumSegments (inner : Layer) (source : Word) (quoted : Bool) (s : State) :
    List Segment × State :=
  let (found, s) := inner.segments false source s
  let text := unmarked (joined found)
  if s.flow ≠ .go then ([], s)
  else
    match Sum.value (fun name => (s.look name).getD []) text with
    | .ok (n, assigned) =>
        let s := assigned.reverse.foldl (fun s a => s.tryAssign a.1 (Raw.ofInt a.2)) s
        (valueSegments quoted (Raw.ofInt n), s)
    | .error trouble => ([], s.fail (trouble.message text))

def pieceSegments (inner : Layer) (split : Bool) (piece : Piece) (s : State) :
    List Segment × State :=
  match piece with
  | .text raw quoted => (if quoted then quotedSegments raw else raw.map (.mark · false), s)
  | .parameter name edit quoted => inner.editSegments split name edit quoted s
  | .output command quoted =>
      let (raw, s) := inner.outputOf command s
      (valueSegments quoted (raw.filter (· ≠ '\x00')), s)
  | .sum source quoted => inner.sumSegments source quoted s

/-- The segments of a word, up to what stops the shell.  All arguments in quotes are no
field if there are none. -/
def segmentsOf (inner : Layer) (split : Bool) : Word → State → List Segment × State
  | [], s => ([], s)
  | .text [] true :: .parameter "@" .plain true :: rest, s =>
      let (more, after) := inner.segmentsOf split rest s
      (argSegments split true true s ++ more, after)
  | piece :: rest, s =>
      let (first, s) := inner.pieceSegments split piece s
      if s.flow ≠ .go then (first, s)
      else
        let (more, s) := inner.segmentsOf split rest s
        (first ++ more, s)

def fieldsOfWord (inner : Layer) (word : Word) (s : State) : List Raw × State :=
  let (found, s) := inner.segments true (homed s word) s
  ((fieldsOf s.separators found).flatMap (spread s), s)

def fields (inner : Layer) : List Word → State → List Raw × State
  | [], s => ([], s)
  | word :: rest, s =>
      let (own, s) := inner.fieldsOfWord word s
      if s.flow ≠ .go then (own, s)
      else
        let (more, s) := inner.fields rest s
        (own ++ more, s)

def valueOf (inner : Layer) (word : Word) (s : State) : Raw × State :=
  let (found, s) := inner.segments false (homedValue s word) s
  (unmarked (joined found), s)

/-- The fields of words of which those that assign are taken as they are. -/
def declaredFields (inner : Layer) : List Word → State → List Raw × State
  | [], s => ([], s)
  | word :: rest, s =>
      let (own, s) : List Raw × State :=
        match assignment? word with
        | some (name, value) =>
            let (raw, s) := inner.valueOf value s
            ([name.toList ++ '=' :: raw], s)
        | none => inner.fieldsOfWord word s
      if s.flow ≠ .go then (own, s)
      else
        let (more, s) := inner.declaredFields rest s
        (own ++ more, s)

def assignedValues (inner : Layer) (assign : String → Raw → State → State) :
    List (String × Word) → State → List (String × Raw) × State
  | [], s => ([], s)
  | (name, word) :: rest, s =>
      let (raw, s) := inner.valueOf word s
      if s.flow ≠ .go then ([], s)
      else
        let s := assign name raw s
        if s.flow ≠ .go then ([(name, raw)], s)
        else
          let (more, s) := inner.assignedValues assign rest s
          ((name, raw) :: more, s)

def refuse (s : State) (creates : Bool) (name : Raw) (e : OsError) : State :=
  let why : Raw :=
    match e with
    | .notFound | .notADirectory =>
        (if creates then "Directory nonexistent" else "No such file").toList
    | e => e.reason
  let verb : Raw := (if creates then "cannot create " else "cannot open ").toList
  (s.complain (verb ++ name ++ [':', ' '] ++ why)).done 2

def feed (s : State) (descriptor : Nat) (raw : Raw) (file : Bool) : State :=
  let id := s.fresh
  (({ s with fresh := id + 1 }).setText id raw).setTarget descriptor (some (.input id file))

def device? (name : Raw) : Option Nat :=
  match String.ofList name with
  | "/dev/stdin" | "/dev/fd/0" => some 0
  | "/dev/stdout" | "/dev/fd/1" => some 1
  | "/dev/stderr" | "/dev/fd/2" => some 2
  | _ => none

/-- A descriptor that writes to a file whose content is set first. -/
def openFile (s : State) (descriptor : Nat) (name : Raw) (content : Bytes) : State × Bool :=
  match device? name >>= s.target? with
  | some target => (s.setTarget descriptor (some target), true)
  | none =>
      match s.tree.write s.current (Raw.toPath name) content with
      | .error e => (refuse s true name e, false)
      | .ok tree =>
          let target :=
            match tree.node s.current (Raw.toPath name) with
            | .ok (location, .file _ _) => Target.file location
            | _ => Target.sink
          ({ s with tree }.setTarget descriptor (some target), true)

def copyTarget (s : State) (descriptor : Nat) (name : Raw) : State × Bool :=
  match name with
  | ['-'] => (s.setTarget descriptor none, true)
  | [digit] =>
      if digit.isDigit then
        match s.target? (digit.toNat - 48) with
        | some target => (s.setTarget descriptor (some target), true)
        | none => ((s.complain (name ++ ": Bad file descriptor".toList)).done 2, false)
      else (s.fail "Syntax error: Bad fd number".toList, false)
  | _ => (s.fail "Syntax error: Bad fd number".toList, false)

/-- Opens what one redirection names; false where it cannot be. -/
def redirectOne (inner : Layer) (r : Redirection) (s : State) : State × Bool :=
  match r.aim with
  | .read word =>
      let (name, s) := inner.single word s
      if s.flow ≠ .go then (s, false)
      else
        match device? name >>= s.target? with
        | some target => (s.setTarget r.descriptor (some target), true)
        | none =>
            match s.tree.read s.current (Raw.toPath name) with
            | .error .isADirectory => (feed s r.descriptor [] true, true)
            | .error e => (refuse s false name e, false)
            | .ok bytes => (feed s r.descriptor (Raw.ofBytes bytes) true, true)
  | .both word =>
      let (name, s) := inner.single word s
      let before := ((s.tree.read s.current (Raw.toPath name)).toOption).getD []
      let (s, fine) := openFile s r.descriptor name before
      (if fine then feed s r.descriptor (Raw.ofBytes before) true else s, fine)
  | .text word =>
      let (raw, s) := inner.single word s
      (feed s r.descriptor raw false, s.flow = .go)
  | .copy word =>
      let (name, s) := inner.single word s
      if s.flow ≠ .go then (s, false) else copyTarget s r.descriptor name
  | .write word anyway =>
      let (name, s) := inner.single word s
      if s.flow ≠ .go then (s, false)
      else if s.has 'C' && !anyway && s.tree.kind s.current (Raw.toPath name) = some .file then
        ((s.complain ("cannot create ".toList ++ name ++ ": File exists".toList)).done 2, false)
      else openFile s r.descriptor name []
  | .append word =>
      let (name, s) := inner.single word s
      if s.flow ≠ .go then (s, false)
      else
        openFile s r.descriptor name
          (((s.tree.read s.current (Raw.toPath name)).toOption).getD [])

/-- Opens what redirections name; false where one cannot be. -/
def redirect (inner : Layer) : List Redirection → State → State × Bool
  | [], s => (s, true)
  | r :: rest, s =>
      let (s, fine) := inner.redirectOne r s
      if fine then inner.redirect rest s else (s, false)

end Layer

end LintBridge.Shell
