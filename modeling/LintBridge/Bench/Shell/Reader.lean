import LintBridge.Bench.Shell.Word

/-!
# Reading scripts

Commands are read from tokens, one line of commands at a time.  Words that begin a
command may be keywords.  A text inside of the script is taken from behind its line as
soon as it is announced.  Every reader has a bound on its depth, which the length of the
script gives.
-/

set_option autoImplicit false

namespace LintBridge.Shell

open Read

def keywords : List String :=
  ["!", "case", "do", "done", "elif", "else", "esac", "fi", "for", "if", "in", "then", "until",
   "while", "\x7b", "\x7d"]

def blanks : Nat → Read Unit
  | 0 => return ()
  | fuel + 1 => do
      match ← peek with
      | some c =>
          if Raw.isBlank c then
            drop
            blanks fuel
          else if c = '#' then
            let comment := (← rest).takeWhile (· ≠ '\n')
            skip comment.length
      | none => return ()

/-- The rest of the sign of a redirection that begins with a character. -/
def arrow (c : Char) : Read String := do
  if c = '>' then
    if ← take? '>' then return ">>"
    else if ← take? '|' then return ">|"
    else if ← take? '&' then return ">&"
    else return ">"
  else if ← take? '<' then
    if ← take? '-' then return "<<-" else return "<<"
  else if ← take? '&' then return "<&"
  else if ← take? '>' then return "<>"
  else return "<"

def freshToken (commands : Read Command) : Read Token := do
  blanks ((← rest).length + 1)
  match ← peek with
  | none => return .endOfFile
  | some c =>
      match c with
      | '\n' =>
          drop
          return .newline
      | '&' =>
          drop
          return .sign (if ← take? '&' then "&&" else "&")
      | '|' =>
          drop
          return .sign (if ← take? '|' then "||" else "|")
      | ';' =>
          drop
          return .sign (if ← take? ';' then ";;" else ";")
      | '(' =>
          drop
          return .sign "("
      | ')' =>
          drop
          return .sign ")"
      | _ =>
          if c = '<' || c = '>' then
            drop
            return .redirection none (← arrow c)
          else
            let word ← wordIn commands .bare
            match plainText? word, ← peek with
            | some [digit], some sign =>
                if digit.isDigit && (sign = '<' || sign = '>') then
                  drop
                  return .redirection (some (digit.toNat - 48)) (← arrow sign)
                else return .word word
            | _, _ => return .word word

def Token.asKeyword (token : Token) : Token :=
  match token with
  | .word pieces =>
      match plainText? pieces with
      | some raw =>
          if keywords.contains (String.ofList raw) then .keyword (String.ofList raw) else token
      | none => token
  | _ => token

def anyToken (commands : Read Command) : Read Token := do
  match ← unheld with
  | some token => return token
  | none => freshToken commands

/-- The text that a word stands for, unless that text is being read. -/
def aliasOf? (cursor : Cursor) (word : Word) : Option (String × Raw) := do
  let name := String.ofList (← plainText? word)
  if cursor.opened.any fun o => o.1 = name && o.2 < cursor.rest.length then none
  else cursor.aliases.find? (·.1 = name)

/-- The next token where the name of a command may stand.  A name that stands for a text
is replaced by it; `keys` tells whether keywords may stand there too. -/
def leadToken (commands : Read Command) (keys : Bool) : Nat → Read Token
  | 0 => anyToken commands
  | fuel + 1 => do
      let token ← anyToken commands
      let token := if keys then token.asKeyword else token
      match token with
      | .word word =>
          let cursor ← get
          match aliasOf? cursor word with
          | some (name, value) =>
              let size := cursor.rest.length
              set { cursor with
                rest := value ++ ' ' :: cursor.rest,
                opened := (name, size) :: cursor.opened,
                leadsOn := if value.getLast?.any Raw.isBlank then some size else cursor.leadsOn }
              leadToken commands keys fuel
          | none => return token
      | token => return token

def keyToken (commands : Read Command) : Read Token := do
  leadToken commands true ((← get).aliases.length + 1)

/-- The next token where keywords may stand, but no name of a command, behind any ends of
lines. -/
def wordTokenBelow (commands : Read Command) : Nat → Read Token
  | 0 => return .endOfFile
  | fuel + 1 => do
      match (← anyToken commands).asKeyword with
      | .newline => wordTokenBelow commands fuel
      | token => return token

/-- The next token where keywords may stand, behind any ends of lines. -/
def keyTokenBelow (commands : Read Command) : Nat → Read Token
  | 0 => return .endOfFile
  | fuel + 1 => do
      match ← keyToken commands with
      | .newline => keyTokenBelow commands fuel
      | token => return token

def expected {α : Type} (token : Token) (wanted : String) : Read α :=
  mistake (token.shown ++ " unexpected (expecting " ++ wanted ++ ")")

def unexpected {α : Type} (token : Token) : Read α :=
  mistake (token.shown ++ " unexpected")

def Token.closes : Token → Bool
  | endOfFile => true
  | sign text => text = ")" || text = ";;"
  | keyword name => ["do", "done", "elif", "else", "esac", "fi", "then", "\x7d"].contains name
  | _ => false

/-- The rest of a line, over ends of lines that stand in quotes, and what follows. -/
def restOfLine : Option Char → Raw → Raw × Raw
  | _, [] => ([], [])
  | some '\'', c :: rest =>
      let (line, after) := restOfLine (if c = '\'' then none else some '\'') rest
      (c :: line, after)
  | quote, '\\' :: c :: rest =>
      let (line, after) := restOfLine quote rest
      ('\\' :: c :: line, after)
  | some quote, c :: rest =>
      let (line, after) := restOfLine (if c = quote then none else some quote) rest
      (c :: line, after)
  | none, c :: rest =>
      if c = '\n' then ([], '\n' :: rest)
      else
        let (line, after) := restOfLine (if c = '\'' || c = '"' then some c else none) rest
        (c :: line, after)

def goesOn (line : Raw) : Bool :=
  (line.reverse.takeWhile (· = '\\')).length % 2 = 1

/-- The lines up to one that is a mark, what follows, and how many lines were taken. -/
def linesUpTo (mark : Raw) (literal : Bool) : Bool → List Raw → List Raw × List Raw × Nat
  | _, [] => ([], [], 0)
  | joined, line :: rest =>
      if !joined && line = mark then ([], rest, 1)
      else
        let (lines, after, n) := linesUpTo mark literal (!literal && goesOn line) rest
        (line :: lines, after, n + 1)

def textBelow (commands : Read Command) (mark : Word) (tabs : Bool) : Read Word := do
  let literal := hasQuotes mark
  let markText := mark.flatMap fun piece =>
    match piece with
    | .text raw _ => raw
    | _ => []
  let cursor ← get
  let (line, after) := restOfLine none cursor.rest
  let lines := Raw.split '\n' (after.drop 1)
  let lines := if after.isEmpty then [] else lines
  let lines := if tabs then lines.map (·.dropWhile (· = '\t')) else lines
  let (taken, left, n) := linesUpTo markText literal false lines
  let ended := n ≠ taken.length
  let content := Raw.join '\n' taken ++ (if ended && !taken.isEmpty then ['\n'] else [])
  let first := cursor.line + 1 + cursor.passed
  let kept := if tabs then (Raw.split '\n' (after.drop 1)).drop n else left
  let below := if after.isEmpty then [] else '\n' :: Raw.join '\n' kept
  set { cursor with rest := line ++ below, passed := cursor.passed + n }
  if literal then return [.text content true]
  else
    match textPieces commands content first with
    | .ok word => return word
    | .error flaw => fun _ => .error flaw

def aimOf (commands : Read Command) (arrow : String) : Read Aim := do
  match ← freshToken commands with
  | .word word =>
      match arrow with
      | "<" => return .read word
      | ">" => return .write word false
      | ">|" => return .write word true
      | ">>" => return .append word
      | "<>" => return .both word
      | "<<" => return .text (← textBelow commands word false)
      | "<<-" => return .text (← textBelow commands word true)
      | _ => return .copy word
  | token => unexpected token

def redirection (commands : Read Command) (descriptor : Option Nat) (arrow : String) :
    Read Redirection := do
  let usual := if arrow.toList.head? = some '>' then 1 else 0
  return .mk (descriptor.getD usual) (← aimOf commands arrow)

def redirections (commands : Read Command) : Nat → Read (List Redirection)
  | 0 => return []
  | fuel + 1 => do
      match ← keyToken commands with
      | .redirection descriptor arrow =>
          let first ← redirection commands descriptor arrow
          return first :: (← redirections commands fuel)
      | token =>
          hold token
          return []

/-- The commands that can be no function's name, as scripts cannot do without them. -/
def specialNames : List String :=
  [".", ":", "break", "continue", "eval", "exec", "exit", "export", "local", "readonly", "return",
   "set", "shift", "times", "trap", "unset"]

def wordList (commands : Read Command) : Nat → Read (List Word)
  | 0 => return []
  | fuel + 1 => do
      match ← anyToken commands with
      | .word word => return word :: (← wordList commands fuel)
      | .newline => return []
      | token => if token.isSign ";" then return [] else unexpected token

/-- The patterns of a branch, of which the first one is given, up to the bracket. -/
def patterns (commands : Read Command) (first : Token) : Nat → Read (List Word)
  | 0 => return []
  | fuel + 1 => do
      let word : Word :=
        match first with
        | .word word => word
        | .keyword name => [.text name.toList false]
        | _ => []
      let token ← anyToken commands
      if token.isSign "|" then
        let next ← anyToken commands
        return word :: (← patterns commands next fuel)
      else if token.isSign ")" then return [word]
      else expected token "\")\""

structure Parts where
  assignments : List (String × Word)
  words : List Word
  redirections : List Redirection

mutual

/-- Commands up to a token that begins none; one of them may be needed. -/
def commands (needed : Bool) : Nat → Read Command
  | 0 => return .nothing
  | fuel + 1 => do
      let source ← rest
      let token ← keyTokenBelow (commands false fuel) (source.length + 2)
      hold token
      match token with
      | .endOfFile => return .nothing
      | token =>
          if !needed && token.closes then return .nothing
          else
            let first ← andOr fuel
            let after ← anyToken (commands false fuel)
            if after.isSign "&" then return .sequence (.background first) (← commands false fuel)
            else if after.isSign ";" then return .sequence first (← commands false fuel)
            else
              match after with
              | .newline => return .sequence first (← commands false fuel)
              | after =>
                  hold after
                  return first

/-- Pipelines of which each one depends on the outcome before it. -/
def andOr : Nat → Read Command
  | 0 => return .nothing
  | fuel + 1 => do
      let first ← pipeline fuel
      andOrRest first fuel

def andOrRest (first : Command) : Nat → Read Command
  | 0 => return first
  | fuel + 1 => do
      let token ← anyToken (commands false fuel)
      let source ← rest
      if token.isSign "&&" || token.isSign "||" then
        hold (← keyTokenBelow (commands false fuel) (source.length + 2))
        let second ← pipeline fuel
        andOrRest (if token.isSign "&&" then .both first second else .either first second) fuel
      else
        hold token
        return first

def pipeline : Nat → Read Command
  | 0 => return .nothing
  | fuel + 1 => do
      let token ← keyToken (commands false fuel)
      let negated := token.isKeyword "!"
      if !negated then hold token
      let first ← command fuel
      let others ← stages fuel
      let whole := if others.isEmpty then first else .pipeline (first :: others)
      return if negated then .negated whole else whole

def stages : Nat → Read (List Command)
  | 0 => return []
  | fuel + 1 => do
      let token ← anyToken (commands false fuel)
      if token.isSign "|" then
        let source ← rest
        hold (← keyTokenBelow (commands false fuel) (source.length + 2))
        let first ← command fuel
        return first :: (← stages fuel)
      else
        hold token
        return []

def command : Nat → Read Command
  | 0 => return .nothing
  | fuel + 1 => do
      let line ← Read.line
      let inside := commands false fuel
      let token ← keyToken inside
      let grouped (body : Command) : Read Command := do
        let source ← rest
        let list ← redirections inside (source.length + 1)
        return if list.isEmpty then body else .group line body list
      match token with
      | .keyword "if" => grouped (← choice fuel)
      | .keyword "while" => grouped (← loop true fuel)
      | .keyword "until" => grouped (← loop false fuel)
      | .keyword "for" => grouped (← each line fuel)
      | .keyword "case" => grouped (← cases line fuel)
      | .keyword "\x7b" =>
          let body ← commands true fuel
          let close ← keyToken inside
          if close.isKeyword "\x7d" then grouped body else expected close "\"\x7d\""
      | .sign "(" =>
          let body ← commands true fuel
          let close ← keyToken inside
          if close.isSign ")" then
            let source ← rest
            return .subshell line body (← redirections inside (source.length + 1))
          else expected close "\")\""
      | .word _ | .redirection _ _ =>
          hold token
          simple line ⟨[], [], []⟩ fuel
      | token => unexpected token

def choice : Nat → Read Command
  | 0 => return .nothing
  | fuel + 1 => do
      let inside := commands false fuel
      let test ← commands true fuel
      let token ← keyToken inside
      if !token.isKeyword "then" then expected token "\"then\""
      let yes ← commands true fuel
      let token ← keyToken inside
      if token.isKeyword "elif" then return .choice test yes (← choice fuel)
      else if token.isKeyword "else" then
        let no ← commands true fuel
        let token ← keyToken inside
        if token.isKeyword "fi" then return .choice test yes no else expected token "\"fi\""
      else if token.isKeyword "fi" then return .choice test yes .nothing
      else expected token "\"fi\""

def loop (whileTrue : Bool) : Nat → Read Command
  | 0 => return .nothing
  | fuel + 1 => do
      let inside := commands false fuel
      let test ← commands true fuel
      let token ← keyToken inside
      if !token.isKeyword "do" then expected token "\"do\""
      let body ← commands true fuel
      let token ← keyToken inside
      if token.isKeyword "done" then return .loop whileTrue test body 0
      else expected token "\"done\""

def each (line : Nat) : Nat → Read Command
  | 0 => return .nothing
  | fuel + 1 => do
      let inside := commands false fuel
      let name : Option Raw :=
        match ← anyToken inside with
        | .word word => (plainText? word).filter isName
        | _ => none
      match name with
      | none => mistake "Bad for loop variable"
      | some name =>
          let source ← rest
          let bound := source.length + 2
          let token ← keyTokenBelow inside bound
          let words : Option (List Word) ← (do
            if token.isKeyword "in" then return some (← wordList inside bound)
            else
              if !token.isSign ";" then hold token
              return none : Read (Option (List Word)))
          let token ← keyTokenBelow inside bound
          if !token.isKeyword "do" then expected token "\"do\""
          let body ← commands true fuel
          let token ← keyToken inside
          if token.isKeyword "done" then return .each line (String.ofList name) words body
          else expected token "\"done\""

def cases (line : Nat) : Nat → Read Command
  | 0 => return .nothing
  | fuel + 1 => do
      let inside := commands false fuel
      match ← anyToken inside with
      | .word word =>
          let source ← rest
          let token ← keyTokenBelow inside (source.length + 2)
          if !token.isKeyword "in" then expected token "\"in\""
          return .cases line word (← branches fuel)
      | token => expected token "word"

def branches : Nat → Read (List (List Word × Command))
  | 0 => return []
  | fuel + 1 => do
      let inside := commands false fuel
      let source ← rest
      let bound := source.length + 2
      let token ← wordTokenBelow inside bound
      if token.isKeyword "esac" then return []
      else
        let first ← if token.isSign "(" then anyToken inside else pure token
        let list ← patterns inside first bound
        let body ← commands false fuel
        let token ← keyTokenBelow inside bound
        if token.isKeyword "esac" then return [(list, body)]
        else if token.isSign ";;" then return (list, body) :: (← branches fuel)
        else expected token "\";;\""

def simple (line : Nat) (parts : Parts) : Nat → Read Command
  | 0 => return .nothing
  | fuel + 1 => do
      let inside := commands false fuel
      let cursor ← get
      let leadsOn :=
        cursor.leadsOn.any fun size => (cursor.rest.dropWhile Raw.isBlank).length ≤ size
      let token ←
        if parts.words.isEmpty then leadToken inside false (cursor.aliases.length + 1)
        else if leadsOn then
          set { cursor with leadsOn := none }
          leadToken inside false (cursor.aliases.length + 1)
        else anyToken inside
      match token with
      | .word word =>
          match if parts.words.isEmpty then assignment? word else none with
          | some assignment =>
              simple line { parts with assignments := parts.assignments ++ [assignment] } fuel
          | none => simple line { parts with words := parts.words ++ [word] } fuel
      | .redirection descriptor arrow =>
          let r ← redirection inside descriptor arrow
          simple line { parts with redirections := parts.redirections ++ [r] } fuel
      | token =>
          match parts with
          | ⟨[], [name], []⟩ =>
              if token.isSign "(" then define name fuel
              else
                hold token
                return .simple line [] [name] []
          | parts =>
              hold token
              return .simple line parts.assignments parts.words parts.redirections

def define (name : Word) : Nat → Read Command
  | 0 => return .nothing
  | fuel + 1 => do
      let inside := commands false fuel
      let token ← anyToken inside
      if !token.isSign ")" then expected token "\")\""
      match (plainText? name).filter isName with
      | some raw =>
          if specialNames.contains (String.ofList raw) then mistake "Bad function name"
          let source ← rest
          hold (← keyTokenBelow inside (source.length + 2))
          return .define (String.ofList raw) (← command fuel)
      | none => mistake "Bad function name"

end

def commandFuel (source : Raw) : Nat :=
  8 * source.length + 64

def lineFrom (before : Command) : Nat → Read Command
  | 0 => return before
  | fuel + 1 => do
      let inside := commands false fuel
      let token ← keyToken inside
      match token with
      | .newline => return before
      | .endOfFile =>
          hold .endOfFile
          return before
      | token =>
          hold token
          let next ← andOr fuel
          let after ← anyToken inside
          if after.isSign "&" then lineFrom (.sequence before (.background next)) fuel
          else if after.isSign ";" then lineFrom (.sequence before next) fuel
          else
            match after with
            | .newline => return .sequence before next
            | .endOfFile =>
                hold .endOfFile
                return .sequence before next
            | after => unexpected after

/-- The commands of the next line, or nothing at the end of the script. -/
def commandLine : Read (Option Command) := do
  let source ← rest
  let fuel := commandFuel source
  let token ← keyToken (commands false fuel)
  match token with
  | .endOfFile => return none
  | token =>
      hold token
      return some (← lineFrom .nothing fuel)

end LintBridge.Shell
