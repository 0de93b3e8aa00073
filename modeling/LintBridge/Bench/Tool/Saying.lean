import LintBridge.Bench.Tool.Format
import LintBridge.Bench.Tool.Judgement
import LintBridge.Bench.Tool.Place

/-!
# Texts said

Programs that write their arguments, and programs that tell something about the machine.
They exist beside the shell's own commands of the same names and have wordings of their
own.
-/

set_option autoImplicit false

namespace LintBridge.Tool

namespace Saying

def hexadecimal : Nat → Nat → Raw → Nat × Raw
  | n + 1, value, c :: rest =>
      if Shell.Sum.isDigitOf 16 c then hexadecimal n (value * 16 + Shell.Sum.digitValue c) rest
      else (value, c :: rest)
  | _, value, rest => (value, rest)

/-- The text with its escapes carried out, and whether it ends all output. -/
def unescape : Nat → Raw → Raw × Bool
  | 0, raw => (raw, false)
  | _ + 1, [] => ([], false)
  | fuel + 1, '\\' :: rest =>
      let behind (c : Char) (after : Raw) : Raw × Bool :=
        let (more, ended) := unescape fuel after
        (c :: more, ended)
      match rest with
      | 'c' :: _ => ([], true)
      | '0' :: digits =>
          let (n, after) := octal 3 0 digits
          behind (byteOf n) after
      | 'x' :: digits =>
          let (n, after) := hexadecimal 2 0 digits
          if after.length = digits.length then behind '\\' rest else behind (byteOf n) after
      | _ =>
          match escaped? rest with
          | some (c, after) => behind c after
          | none => behind '\\' rest
  | fuel + 1, c :: rest =>
      let (more, ended) := unescape fuel rest
      (c :: more, ended)

/-- The letters of options in front of the words, and the words. -/
def echoOptions : List Raw → List Char × List Raw
  | ('-' :: c :: letters) :: rest =>
      if (c :: letters).all fun c => c = 'n' || c = 'e' || c = 'E' then
        let (others, words) := echoOptions rest
        (c :: letters ++ others, words)
      else ([], ('-' :: c :: letters) :: rest)
  | words => ([], words)

end Saying

open Saying in
/-- Writes its arguments; options say whether escapes are carried out. -/
def echo (t : Errand) : Product :=
  let (letters, words) := echoOptions t.args
  let text := Raw.join ' ' words
  let (text, ended) : Raw × Bool :=
    if (letters.reverse.find? fun c => c ≠ 'n') = some 'e' then unescape (text.length + 1) text
    else (text, false)
  t.said (if letters.contains 'n' || ended then text else text ++ ['\n'])

def FormatTrouble.text : FormatTrouble → Raw
  | notNumber arg => quote arg ++ ": expected a numeric value".toList
  | leftOver arg => quote arg ++ ": value not completely converted".toList
  | outOfRange arg => quote arg ++ ": Numerical result out of range".toList
  | unknown directive | unfinished directive =>
      directive ++ ": invalid conversion specification".toList

def printf (t : Errand) : Product :=
  match (if t.args.head? = some ['-', '-'] then t.args.tail else t.args) with
  | [] => lacks t "missing operand" 1
  | source :: args =>
      let f := fill source args
      let p := f.troubles.reverse.foldl (fun (p : Product) trouble => p.grumble (t.line trouble.text))
        (t.said f.written.reverse)
      let p := if f.troubles.isEmpty then p else p.done 1
      match if f.ended.isNone && !f.used then f.args.head? else none with
      | some arg =>
          p.grumble (t.line ("warning: ignoring excess arguments, starting with ".toList ++ quote arg))
      | none => p

def testMessage (words : List Raw) : Judgement.Trouble → Raw
  | .unexpected word =>
      let odd := if words.length = 3 then (words[1]?).getD word else word
      quote odd ++ ": binary operator expected".toList
  | .lacksArgument word => "missing argument after ".toList ++ quote word
  | .notNumber word => "invalid integer ".toList ++ quote word
  | .openBracket => "')' expected".toList

def test (t : Errand) : Product :=
  let bracket := lastPart t.name = ['[']
  if bracket && t.args.getLast? ≠ some [']'] then
    t.complaint ("missing ".toList ++ quote [']']) 2
  else
    let words := if bracket then t.args.dropLast else t.args
    match words with
    | [_, right] =>
        match Judgement.role words with
        | .unary _ | .not => outcome t words
        | _ => t.complaint ("missing argument after ".toList ++ quote right) 2
    | _ => outcome t words
where
  outcome (t : Errand) (words : List Raw) : Product :=
    match Judgement.judge t (words.length + 1) words with
    | .ok truth => t.quiet (if truth then 0 else 1)
    | .error trouble => t.complaint (testMessage words trouble) 2

def yes (t : Errand) (c : Choices) : Product :=
  let line := (if c.operands.isEmpty then ['y'] else Raw.join ' ' c.operands) ++ ['\n']
  let text := (List.replicate (endlessSize / line.length) line).flatten
  { t.said text with ending := .unread }

def tells (text : String) (t : Errand) (c : Choices) : Product :=
  match c.operands with
  | [] => t.said (text.toList ++ ['\n'])
  | extra :: _ => extraOperand t extra

def uname (t : Errand) (c : Choices) : Product :=
  let parts : List (List Char × String) :=
    [(['s', 'a'], "Linux"), (['n', 'a'], "localhost"), (['r', 'a'], "6.1.0"),
     (['v', 'a'], "#1 SMP"), (['m', 'a'], "x86_64"), (['p'], "unknown"), (['i'], "unknown"),
     (['o', 'a'], "GNU/Linux")]
  let chosen := parts.filter fun part => part.1.any c.has
  let words := if c.options.isEmpty then ["Linux"] else chosen.map (·.2)
  tells (" ".intercalate words) t c

def userId (t : Errand) (c : Choices) : Product :=
  if c.has 'u' || c.has 'g' || c.has 'G' then t.said (if c.has 'n' then "root\n" else "0\n").toList
  else t.said "uid=0(root) gid=0(root) groups=0(root)\n".toList

end LintBridge.Tool
