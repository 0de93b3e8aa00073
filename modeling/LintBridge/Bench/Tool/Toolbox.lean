import LintBridge.Bench.Tool.Column
import LintBridge.Bench.Tool.Compare
import LintBridge.Bench.Tool.Copying
import LintBridge.Bench.Tool.Count
import LintBridge.Bench.Tool.Digest
import LintBridge.Bench.Tool.Dump
import LintBridge.Bench.Tool.Edit.Editor
import LintBridge.Bench.Tool.Expression
import LintBridge.Bench.Tool.Letter
import LintBridge.Bench.Tool.Listing
import LintBridge.Bench.Tool.Order
import LintBridge.Bench.Tool.Saying
import LintBridge.Bench.Tool.Search
import LintBridge.Bench.Tool.Sequence

/-!
# The toolbox

The tools of a machine by name, each with the word on whether it reads its input.
-/

set_option autoImplicit false

namespace LintBridge

structure Tool where
  run : Errand → Product
  reads : List Raw → Bool

namespace Tool

def silent (run : Errand → Product) : Tool :=
  ⟨run, fun _ => false⟩

def readingBy (table : OptionTable) (reads : Choices → Bool) (run : Errand → Product) : Tool where
  run
  reads args :=
    match choices table args with
    | .ok c => reads c
    | .error _ => false

/-- A tool that has options, and reads its input where they say so. -/
def withTable (table : OptionTable) (reads : Choices → Bool) (run : Errand → Choices → Product) :
    Tool :=
  readingBy table reads (withOptions table 1 run)

def filter (table : OptionTable) (run : Errand → Choices → Product) : Tool :=
  withTable table readsFiles run

def worker (table : OptionTable) (run : Errand → Choices → Product) : Tool :=
  withTable table (fun _ => false) run

def after (change : List Raw → List Raw) (tool : Tool) : Tool where
  run t := tool.run { t with args := change t.args }
  reads args := tool.reads (change args)

open OptionTable (ofLetters)

def displays : List (String × Tool) :=
  [("cat", filter Page.catOptions Page.cat),
   ("tac", filter (ofLetters "b" "s") Page.tac),
   ("rev", filter (ofLetters "" "") Page.rev),
   ("nl", filter (ofLetters "p" "bsnwivlhfd") Page.nl),
   ("fold", filter (ofLetters "bs0123456789" "w") Page.fold),
   ("head", after (Ends.modernArgs ['-']) (filter Ends.options Ends.head)),
   ("tail", after (Ends.modernArgs ['-', '+']) (filter Ends.options Ends.tail)),
   ("wc", filter wcOptions wc)]

def fileTools : List (String × Tool) :=
  [("basename", worker { ofLetters "az" "s" with mixed := false } basename),
   ("dirname", worker (ofLetters "z" "") dirname),
   ("readlink", worker ((ofLetters "femnqsvz" "").withWords
      [("canonicalize", 'f'), ("canonicalize-existing", 'e'), ("canonicalize-missing", 'm'),
       ("no-newline", 'n')]) readlink),
   ("realpath", worker ((ofLetters "emLPqsz" "T").withWords
      [("relative-to", 'T'), ("canonicalize-existing", 'e'), ("canonicalize-missing", 'm'),
       ("strip", 's'), ("no-symlinks", 's'), ("quiet", 'q')]) realpath),
   ("pwd", worker (ofLetters "LP" "") pwd),
   ("cp", worker copyOptions cp),
   ("mv", worker copyOptions mv),
   ("ln", worker copyOptions ln),
   ("rm", worker ((ofLetters "dfiIrRv" "").withWords
      [("force", 'f'), ("recursive", 'r'), ("dir", 'd'), ("verbose", 'v')]) rm),
   ("rmdir", worker ((ofLetters "pv" "").withWords [("parents", 'p'), ("verbose", 'v')]) rmdir),
   ("unlink", worker (ofLetters "" "") unlink),
   ("mkdir", worker ((ofLetters "pvZ" "m").withWords
      [("parents", 'p'), ("verbose", 'v'), ("mode", 'm')]) mkdir),
   ("touch", worker ((ofLetters "acfhm" "rdt").withWords
      [("no-create", 'c'), ("reference", 'r'), ("date", 'd')]) touch),
   ("chmod", after chmodArgs (worker ((ofLetters "cfvR" "").withWords
      [("recursive", 'R'), ("verbose", 'v')]) chmod)),
   ("mktemp", worker ((ofLetters "dqtu" "pS").withWords
      [("directory", 'd'), ("quiet", 'q'), ("dry-run", 'u'), ("tmpdir", 'p'), ("suffix", 'S')])
      mktemp),
   ("truncate", worker ((ofLetters "co" "rs").withWords [("size", 's'), ("no-create", 'c')])
      truncate),
   ("tee", withTable ((ofLetters "aip" "").withWords [("append", 'a')]) (fun _ => true) tee),
   ("dd", ⟨dd, fun args => args.all fun a => !"if=".toList.isPrefixOf a⟩),
   ("ls", silent (withOptions Listing.options 2 ls)),
   ("dir", silent (withOptions Listing.options 2 ls)),
   ("stat", worker ((ofLetters "Lft" "c").withWords [("format", 'c'), ("dereference", 'L')]) stat)]

def readsOperand (c : Choices) : Bool :=
  c.operands.any isInput

def editors : List (String × Tool) :=
  let grep := after Search.modernArgs (readingBy Search.options Search.readsInput Search.grep)
  [("sed", withTable Edit.options Edit.readsInput Edit.sed),
   ("grep", grep),
   ("egrep", after (['-', 'E'] :: ·) grep),
   ("fgrep", after (['-', 'F'] :: ·) grep),
   ("tr", withTable trOptions (fun _ => true) tr),
   ("cut", filter cutOptions cut),
   ("paste", filter ((ofLetters "sz" "d").withWords [("delimiters", 'd'), ("serial", 's')]) paste),
   ("expand", filter ((ofLetters "i" "t").withWords [("initial", 'i'), ("tabs", 't')]) expand)]

def sorters : List (String × Tool) :=
  [("sort", readingBy Sorting.options readsFiles (withOptions Sorting.options 2 Sorting.sort)),
   ("uniq", withTable uniqOptions (fun c => (c.operands.head?.map isInput).getD true) uniq),
   ("comm", withTable ((ofLetters "123z" "o").withWords [("output-delimiter", 'o')])
      readsOperand comm),
   ("diff", readingBy Compare.options readsOperand diff),
   ("cmp", withTable ((ofLetters "sbl" "ni").withWords
      [("silent", 's'), ("quiet", 's'), ("bytes", 'n'), ("verbose", 'l')])
      (fun c => readsOperand c || c.operands.length = 1) cmp)]

def reckoners : List (String × Tool) :=
  let sums (digest : List UInt8 → Raw) : Tool :=
    filter (ofLetters "bt" "") (Digest.sums digest)
  [("expr", silent Expression.expr),
   ("seq", silent Sequence.seq),
   ("od", filter odOptions od),
   ("base64", filter base64Options base64),
   ("md5sum", sums Digest.md5),
   ("sha1sum", sums Digest.sha1),
   ("sha256sum", sums Digest.sha256),
   ("cksum", filter (ofLetters "" "") Digest.cksum)]

/-- The tools that write their arguments or tell something about the machine. -/
def answers : List (String × Tool) :=
  let plain (text : String) : Tool := worker (ofLetters "" "") (tells text)
  [("true", silent (·.quiet 0)),
   ("false", silent (·.quiet 1)),
   ("sync", silent (·.quiet 0)),
   ("echo", silent echo),
   ("printf", silent printf),
   ("test", silent test),
   ("[", silent test),
   ("yes", worker (ofLetters "" "") yes),
   ("uname", worker (ofLetters "asnrvmpio" "") uname),
   ("arch", plain "x86_64"),
   ("whoami", plain "root"),
   ("hostname", plain "localhost"),
   ("nproc", plain "4"),
   ("id", worker (ofLetters "gGnruz" "") userId),
   ("groups", silent (·.said "root\n".toList)),
   ("tty", silent fun t => (t.said "not a tty\n".toList).done 1),
   ("logname", silent fun t => t.complaint "no login name".toList 1)]

def all : List (String × Tool) :=
  answers ++ displays ++ editors ++ sorters ++ reckoners ++ fileTools

def named? (name : String) : Option Tool :=
  (all.find? (·.1 = name)).map (·.2)

def names : List String :=
  all.map (·.1)

end Tool

end LintBridge
