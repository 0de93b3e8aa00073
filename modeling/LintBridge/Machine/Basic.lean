import LintBridge.Bench.Launch
import LintBridge.Machine.Server

/-!
# A machine with programs

The usual programs of a system stand in for those that the tests start.  They are a bench
for trying the linting out, and no part of it: nothing that is said of linting depends on
what a program does.
-/

set_option autoImplicit false

namespace LintBridge.Machine

def standardTree : FileTree :=
  let tree := FileTree.bare
  let tree := tree.makeDirectories [] ["bin"]
  let tree := tree.makeDirectories [] ["usr", "bin"]
  let tree := tree.makeDirectories [] ["tmp"]
  let tree := tree.makeDirectories [] ["dev"]
  let tree := tree.set ["dev", "null"] .sink
  programs tree (Shell.programNames ++ Tool.names)
where
  programs (tree : FileTree) : List String → FileTree
    | [] => tree
    | name :: rest =>
        programs ((tree.set ["bin", name] (.program name)).set ["usr", "bin", name] (.program name))
          rest

def standard : Machine :=
  ⟨standardTree, [], 0, 0, []⟩

/-- Answers a request; processes are scripts of the shell. -/
def serve : Job.Server Machine :=
  serveWith FileTree.launch

def run {α : Type} (m : Machine) (job : Job α) : α × Machine :=
  job.run serve m

end LintBridge.Machine
