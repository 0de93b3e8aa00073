import LintBridge.Bench.Pattern.Name
import LintBridge.Bench.Shell.State

/-!
# Fields

What a word becomes: first a row of segments, then fields.  Values that are not quoted
are cut at separators: blanks among these count for nothing at the ends of a value and
once between fields, every other one ends a field.  At last a field that is an open
pattern becomes the names of files that it matches.
-/

set_option autoImplicit false

namespace LintBridge.Shell

open Pattern (Mark)

inductive Segment where
  | mark (c : Char) (quoted : Bool)
  | loose (c : Char)
  | field
  | gap
  deriving DecidableEq, Repr

def quotedSegments (raw : Raw) : List Segment :=
  .field :: raw.map (.mark · true)

def valueSegments (quoted : Bool) (raw : Raw) : List Segment :=
  if quoted then quotedSegments raw else raw.map .loose

/-- Literal text of an unquoted word inside of a parameter is cut as values are. -/
def Segment.loosened : Segment → Segment
  | mark c false => loose c
  | other => other

/-- The character separates arguments where no character separates fields. -/
def isSilent (c : Char) : Bool :=
  c = '\x00'

/-- The fields that are complete and the open one, the last mark first. -/
structure Cutting where
  complete : List (List Mark)
  marks : List Mark
  begun : Bool
  afterBlank : Bool

namespace Cutting

def start : Cutting :=
  ⟨[], [], false, false⟩

def add (c : Cutting) (mark : Mark) : Cutting :=
  { c with marks := mark :: c.marks, begun := true, afterBlank := false }

def close (c : Cutting) (afterBlank : Bool) : Cutting :=
  ⟨c.marks.reverse :: c.complete, [], false, afterBlank⟩

def step (separators : Raw) (c : Cutting) : Segment → Cutting
  | .mark m quoted => c.add (m, quoted)
  | .field => { c with begun := true, afterBlank := false }
  | .gap => c.close false
  | .loose m =>
      if !(isSilent m || separators.contains m) then c.add (m, false)
      else
        let blank := isSilent m || m = ' ' || m = '\t' || m = '\n'
        if c.afterBlank then { c with afterBlank := blank }
        else if blank && !c.begun then c
        else c.close blank

def fields (c : Cutting) : List (List Mark) :=
  (if c.begun then c.marks.reverse :: c.complete else c.complete).reverse

end Cutting

def fieldsOf (separators : Raw) (segments : List Segment) : List (List Mark) :=
  (segments.foldl (Cutting.step separators) .start).fields

def joined : List Segment → List Mark
  | [] => []
  | .mark c quoted :: rest => (c, quoted) :: joined rest
  | .loose c :: rest => if isSilent c then joined rest else (c, false) :: joined rest
  | .gap :: rest => (' ', false) :: joined rest
  | .field :: rest => joined rest

def unmarked (marks : List Mark) : Raw :=
  marks.map (·.1)

def patternParts (reversed : List Mark) : List Mark → List (List Mark)
  | [] => [reversed.reverse]
  | m :: rest =>
      if m.1 = '/' then reversed.reverse :: patternParts [] rest
      else patternParts (m :: reversed) rest

/-- The names in a directory that a part of a pattern matches.  Hidden names are matched
by a dot alone. -/
def namesLike (s : State) (front : Raw) (part : List Mark) : List Raw :=
  let directory := if front.isEmpty then Path.ofText "." else Raw.toPath front
  match s.tree.node s.current directory with
  | .ok (location, .directory) =>
      let hidden := part.head?.map (·.1) = some '.'
      let names := ((s.tree.names location).map Raw.ofName) ++ [['.'], ['.', '.']]
      let places := Pattern.Name.ofMarks part
      (names.filter fun n => (n.head? ≠ some '.' || hidden) && Pattern.Name.fits places n).mergeSort
        Raw.le
  | _ => []

def pathsLike (s : State) (front : Raw) : List (List Mark) → List Raw
  | [] => [front]
  | [part] =>
      if Pattern.isOpen part then (namesLike s front part).map fun n => front ++ n
      else
        let path := front ++ unmarked part
        match s.tree.locate false s.current (Raw.toPath path) with
        | .ok (.found _ _) => [path]
        | _ => []
  | part :: rest =>
      if Pattern.isOpen part then
        (namesLike s front part).flatMap fun n =>
          match s.tree.node s.current (Raw.toPath (front ++ n)) with
          | .ok (_, .directory) => pathsLike s (front ++ n ++ ['/']) rest
          | _ => []
      else pathsLike s (front ++ unmarked part ++ ['/']) rest

/-- The names that an open pattern matches, or the pattern itself. -/
def spread (s : State) (pattern : List Mark) : List Raw :=
  if s.has 'f' || !Pattern.isOpen pattern then [unmarked pattern]
  else
    let found := pathsLike s [] (patternParts [] pattern)
    if found.isEmpty then [unmarked pattern] else found.mergeSort Raw.le

/-- The directory of a user, or the home of the one who runs the shell. -/
def homeOf? (s : State) (user : Raw) : Option Raw :=
  match String.ofList user with
  | "" => s.look "HOME"
  | "root" => some "/root".toList
  | _ => none

def withHome (s : State) (ends : Char → Bool) : Word → Word
  | .text ('~' :: raw) false :: rest =>
      let user := raw.takeWhile fun c => !ends c
      let after := raw.drop user.length
      if after.isEmpty && !rest.isEmpty then .text ('~' :: raw) false :: rest
      else
        match homeOf? s user with
        | some home =>
            .text home true :: (if after.isEmpty then rest else .text after false :: rest)
        | none => .text ('~' :: raw) false :: rest
  | word => word

def homed (s : State) (word : Word) : Word :=
  withHome s (· = '/') word

/-- Texts of a value that colons part, so that each part may begin with a home. -/
def atColons (reversed : Raw) : Raw → List Raw
  | [] => if reversed.isEmpty then [] else [reversed.reverse]
  | c :: rest =>
      if c = ':' then (c :: reversed).reverse :: atColons [] rest else atColons (c :: reversed) rest

/-- The value of an assignment, where a home may stand behind every colon too. -/
def homedValue (s : State) : Word → Word
  | [] => []
  | .text raw false :: rest =>
      let parts := (atColons [] raw).map fun part : Raw => ([.text part false] : Word)
      match parts.reverse with
      | last :: front =>
          front.reverse.flatMap (withHome s fun c => c = '/' || c = ':')
            ++ withHome s (fun c => c = '/' || c = ':') (last ++ rest)
      | [] => .text raw false :: rest
  | word => word

end LintBridge.Shell
