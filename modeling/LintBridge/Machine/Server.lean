import LintBridge.Host.Job
import LintBridge.Machine.FileTree

/-!
# A host in memory

A machine has a file tree, a current directory, a clock and a log, and answers the
requests of jobs.  It stands in for the system where a run has to be repeatable.  What its
processes do is left open.
-/

set_option autoImplicit false

namespace LintBridge

structure Machine where
  tree : FileTree
  current : Location
  /-- Milliseconds. -/
  clock : Nat
  copies : Nat
  /-- The entries, the last one first. -/
  entries : List LogEntry

namespace Machine

def log (m : Machine) : List LogEntry :=
  m.entries.reverse

/-- Six letters that differ for different numbers. -/
def letters : Nat → Nat → List Char
  | 0, _ => []
  | places + 1, n => letters places (n / 26) ++ [Char.ofNat (97 + n % 26)]

@[irreducible] def copyPath (directory : Path) (before after : String) (m : Machine) : Path :=
  directory.join (.ofText (before ++ String.ofList (letters 6 m.copies) ++ after))

/-- Makes a copy under the first free name, of so many at most. -/
def createCopy (directory : Path) (before after : String) :
    Nat → Machine → Except (OsError × Path) Path × Machine
  | 0, m => (.error (.accessDenied, directory), m)
  | tries + 1, m =>
      let path := m.copyPath directory before after
      let m := { m with copies := m.copies + 1 }
      match m.tree.create m.current path with
      | .error e => (.error (e, path), m)
      | .ok none => createCopy directory before after tries m
      | .ok (some tree) => (.ok path, { m with tree })

/-- How processes run: what is seen of one that starts in a directory, for so many
microseconds at most, and the tree that it leaves. -/
abbrev Launcher :=
  FileTree → Location → CommandLine → Nat → Except OsError (Observation × FileTree)

def serveWith (launch : Launcher) : Job.Server Machine
  | .log entry, m => ((), { m with entries := entry :: m.entries })
  | .currentDirectory, m => (.ok (FileTree.pathOf m.current), m)
  | .read path, m => (m.tree.read m.current path, m)
  | .kind path, m => (m.tree.kind m.current path, m)
  | .canonical path, m => (m.tree.canonical m.current path, m)
  | .createCopy directory before after, m => createCopy directory before after 1000 m
  | .write path content, m =>
      match m.tree.write m.current path content with
      | .ok tree => (.ok (), { m with tree })
      | .error e => (.error e, m)
  | .remove path, m => ((), { m with tree := m.tree.remove m.current path })
  | .launch command budget, m =>
      match launch m.tree m.current command budget with
      | .ok (observation, tree) => (.ok observation, { m with tree })
      | .error e => (.error e, m)
  | .clock, m => (m.clock, m)

def empty : Machine :=
  ⟨.bare, [], 0, 0, []⟩

def refusing : Launcher := fun _ _ _ _ => .error .notFound

end Machine

end LintBridge
