import LintBridge.LintError
import LintBridge.Log
import LintBridge.Report.Element

/-!
# From events to a report

A report is a document whose one root is named `checkstyle`.  Of the root's
children the first one named `file` counts, and of that one's children those named
`error`, each an issue.  Everything else is passed over, attributes included.

The collector keeps the names of the open elements, the report so far, and whether
the file section that is open is the one that counts.
-/

set_option autoImplicit false

namespace LintBridge.Report

open Markup

structure Collector where
  /-- Names of the open elements, the innermost first. -/
  names : List String
  report? : Option Report
  collecting : Bool
  deriving DecidableEq, Repr

namespace Collector

def initial : Collector :=
  ⟨[], none, false⟩

def beginReport (c : Collector) (tag : Tag) : Except Malformed Collector :=
  if tag.name = "checkstyle" then
    match c.report? with
    | some _ => .error .secondRoot
    | none => do
        let version ← tag.text? "version"
        return { c with report? := some ⟨version, none⟩ }
  else .error (.otherRoot tag.name)

def beginFile (c : Collector) (tag : Tag) : Except Malformed Collector :=
  match c.report? with
  | some ⟨version, none⟩ => do
      let name ← tag.text "name"
      return { c with report? := some ⟨version, some ⟨name, []⟩⟩, collecting := true }
  | _ => .ok c

def add (c : Collector) (issue : Issue) : Collector :=
  match c.report? with
  | some ⟨version, some file⟩ =>
      { c with report? := some ⟨version, some { file with issues := file.issues ++ [issue] }⟩ }
  | _ => c

def enter (c : Collector) (tag : Tag) : Except Malformed Collector :=
  match c.names.length with
  | 0 => c.beginReport tag
  | 1 => if tag.name = "file" then c.beginFile tag else .ok c
  | 2 =>
      if c.collecting && tag.name = "error" then tag.issue.map c.add else .ok c
  | _ => .ok c

/-- Behind an element with `depth` ancestors. -/
def leave (c : Collector) (depth : Nat) (name : String) : Collector :=
  if depth = 1 && name = "file" then { c with collecting := false } else c

def step (c : Collector) : Event → Except Malformed Collector
  | .opening tag => (c.enter tag).map fun c' => { c' with names := tag.name :: c'.names }
  | .empty tag => (c.enter tag).map fun c' => c'.leave c'.names.length tag.name
  | .closing =>
      match c.names with
      | [] => .ok c
      | name :: outer => .ok ({ c with names := outer }.leave outer.length name)
  | .aside => .ok c

/-- The event begins a file section that does not count. -/
def passesOver (c : Collector) : Event → Bool
  | .opening tag | .empty tag =>
      c.names.length = 1 && tag.name = "file"
        && (match c.report? with
            | some report => report.file.isSome
            | none => false)
  | .closing | .aside => false

def finish (c : Collector) : Except Malformed Report :=
  match c.names, c.report? with
  | name :: _, _ => .error (.unclosed name)
  | [], some report => .ok report
  | [], none => .error .noRoot

def extraFile : String :=
  "Checkstyle report has more than one <file>; ignoring extra sections"

/-- The report of a series of events that the reader may have broken off.  What is
wrong with an event comes before what broke the series off. -/
def run (misread? : Option Misread) : Collector → List Event → Logged (Except Malformed Report)
  | c, [] =>
      match misread? with
      | some misread => pure (.error (.markup misread))
      | none => pure c.finish
  | c, event :: rest => do
      if c.passesOver event then Logged.note .warn extraFile
      match c.step event with
      | .error malformed => pure (.error malformed)
      | .ok next => run misread? next rest

end Collector

def read (text : String) : Logged (Except Malformed Report) :=
  let (events, misread?) := Markup.read text.toList
  Collector.initial.run misread? events

def parse (text : String) : Logged (Except LintError Report) := do
  let result ← read text
  return result.mapError fun malformed => .malformedReport malformed.message

end LintBridge.Report
