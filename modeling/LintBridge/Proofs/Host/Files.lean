import LintBridge.Machine.Server
import LintBridge.Proofs.Machine.Locating

/-!
# Hosts with files

`FileTree.Answers` says which replies to a request fit a file tree, and what becomes of
the tree.  A host may refuse whatever it likes, and a process may do anything to the
files.  What is taken for granted is that a reply tells the truth, that a new copy is made
where nothing stands, and that a removed file is gone.
-/

set_option autoImplicit false

namespace LintBridge

namespace FileTree

/-- A copy is made under a new name, or nothing happens. -/
def Makes (current : Location) (tree : FileTree) (directory : Path) (before after : String) :
    Except (OsError × Path) Path → FileTree → Prop
  | .ok path, left =>
      (∃ letters : String, letters ≠ "" ∧ '/' ∉ letters.toList ∧
        path = directory.join (.ofText (before ++ letters ++ after))) ∧
      tree.create current path = .ok (some left)
  | .error _, left => left = tree

/-- The file is written, or perhaps a part of it. -/
def Writes (current : Location) (tree : FileTree) (path : Path) (content : Bytes) :
    Except OsError Unit → FileTree → Prop
  | .ok (), left => tree.write current path content = .ok left
  | .error _, left => left = tree ∨ ∃ part, tree.write current path part = .ok left

/-- What a file holds after it was written, or partly written, or not at all. -/
theorem Writes.puts {current place : Location} {tree left : FileTree} {path : Path}
    {content held : Bytes} {executable : Bool} {reply : Except OsError Unit}
    (writes : tree.Writes current path content reply left)
    (there : tree.locate true current path = .ok (.found place (.file held executable))) :
    ∃ bytes, (reply = .ok () → bytes = content) ∧ tree.Puts place bytes executable left := by
  cases reply with
  | ok _ => exact ⟨content, fun _ => rfl, puts_of_write there writes⟩
  | error e =>
      rcases writes with same | ⟨part, written⟩
      · subst same
        refine ⟨held, fun impossible => ?_, (get?_of_file there).1, fun _ _ => rfl⟩
        cases impossible
      · refine ⟨part, fun impossible => ?_, puts_of_write there written⟩
        cases impossible

/-- The reply fits the tree, and the other tree is what the request leaves. -/
def Answers (current : Location) (tree : FileTree) : (r : Request) → r.Reply → FileTree → Prop
  | .log _, _, left | .kind _, _, left | .clock, _, left => left = tree
  | .currentDirectory, reply, left =>
      left = tree ∧ ∀ path : Path, reply = Except.ok path → path = pathOf current
  | .read path, reply, left => left = tree ∧ reply = tree.read current path
  | .canonical path, reply, left =>
      left = tree ∧ ∀ path' : Path, reply = Except.ok path' →
        tree.canonical current path = .ok path'
  | .createCopy directory before after, reply, left =>
      tree.Makes current directory before after reply left
  | .write path content, reply, left => tree.Writes current path content reply left
  | .remove path, _, left => left = tree.remove current path
  | .launch _ _, _, _ => True

end FileTree

/-- A host whose files are a tree, seen from a directory that stays the same. -/
structure FileHost (σ : Type) where
  serve : Job.Server σ
  tree : σ → FileTree
  current : σ → Location
  stays : ∀ r s, current (serve r s).2 = current s
  answers : ∀ r s, (tree s).Answers (current s) r (serve r s).1 (tree (serve r s).2)

namespace Machine

theorem letters_ne_nil (places n : Nat) : letters (places + 1) n ≠ [] := by
  simp [letters]

theorem slash_notMem_letters (places n : Nat) : '/' ∉ letters places n := by
  induction places generalizing n with
  | zero => simp [letters]
  | succ places ih =>
      have small : n % 26 < 26 := Nat.mod_lt n (by decide)
      have letter : ∀ k < 26, '/' ≠ Char.ofNat (97 + k) := by decide
      rw [letters, List.mem_append, not_or, List.mem_singleton]
      exact ⟨ih _, letter _ small⟩

theorem createCopy_makes (directory : Path) (before after : String) (tries : Nat) (m : Machine) :
    (createCopy directory before after tries m).2.current = m.current ∧
      m.tree.Makes m.current directory before after (createCopy directory before after tries m).1
        (createCopy directory before after tries m).2.tree := by
  induction tries generalizing m with
  | zero => exact ⟨rfl, rfl⟩
  | succ tries ih =>
      rw [createCopy]
      dsimp only
      split
      · exact ⟨rfl, rfl⟩
      · exact ih { m with copies := m.copies + 1 }
      next tree made =>
        refine ⟨rfl, ⟨String.ofList (letters 6 m.copies), ?_, ?_, by rw [copyPath]⟩, made⟩
        · simpa using letters_ne_nil 5 m.copies
        · simpa using slash_notMem_letters 6 m.copies

/-- The machine as a host, where processes run in a given way. -/
def host (launch : Launcher) : FileHost Machine where
  serve := serveWith launch
  tree m := m.tree
  current m := m.current
  stays r m := by
    cases r with
    | createCopy directory before after =>
        simp only [serveWith]
        exact (createCopy_makes directory before after 1000 m).1
    | write path content =>
        simp only [serveWith]
        split <;> rfl
    | launch command budget =>
        simp only [serveWith]
        split <;> rfl
    | _ => rfl
  answers r m := by
    cases r with
    | log | kind | clock | remove => rfl
    | currentDirectory => exact ⟨rfl, fun path same => (Except.ok.inj same).symm⟩
    | read path => exact ⟨rfl, rfl⟩
    | canonical path => exact ⟨rfl, fun path' same => same⟩
    | createCopy directory before after =>
        simp only [serveWith]
        exact (createCopy_makes directory before after 1000 m).2
    | write path content =>
        simp only [serveWith]
        split
        next written => exact written
        next => exact .inl rfl
    | launch command budget => trivial

end Machine

end LintBridge
