import LintBridge.Bench.Shell.Cursor

/-!
# Reading words of scripts

How the pieces of a word are read.  What a character means depends on where it stands:
outside of quotes, between double quotes, in the braces of a parameter, in a text inside
of the script, or in a sum.  Commands inside of words are read by a reader that is given.
-/

set_option autoImplicit false

namespace LintBridge.Shell

open Read

inductive Setting where
  | bare
  | braces
  /-- Between double quotes; a brace ends something around them or not. -/
  | quotes (inBraces : Bool)
  | quotedBraces (inText : Bool)
  | text
  | sum
  deriving DecidableEq, Repr

namespace Setting

def isQuoted : Setting → Bool
  | bare | braces => false
  | _ => true

def inBraces : Setting → Setting
  | bare | braces => braces
  | text | quotedBraces true => quotedBraces true
  | _ => quotedBraces false

def endsWord (c : Char) : Bool :=
  " \t\n;&|<>()".toList.contains c

def isEnd (setting : Setting) (c : Char) : Bool :=
  match setting with
  | bare => endsWord c
  | braces | quotedBraces _ => c = '\x7d'
  | quotes _ => c = '"'
  | text | sum => false

def atEnd? : Setting → Option String
  | bare | text => none
  | braces | quotedBraces true => some "Missing '\x7d'"
  | quotes _ | quotedBraces false => some "Unterminated quoted string"
  | sum => some "Missing '))'"

/-- A backslash takes away the meaning of a character that follows. -/
def protects (setting : Setting) (c : Char) : Bool :=
  match setting with
  | bare | braces => true
  | quotes inBraces => "\\`$\"".toList.contains c || (inBraces && c = '\x7d')
  | quotedBraces _ => "\\`$\"\x7d".toList.contains c
  | text => "\\`$".toList.contains c
  | sum => "\\`$\"".toList.contains c

end Setting

def singleQuoted : Read Raw := do
  let taken := (← rest).takeWhile (· ≠ '\'')
  skip taken.length
  match ← exactly with
  | some _ => return taken
  | none => mistake "Unterminated quoted string"

/-- The text between backquotes, without the backslashes that protect it. -/
def backquoted (quoted : Bool) : Nat → Read Raw
  | 0 => mistake "EOF in backquote substitution"
  | fuel + 1 => do
      match ← next with
      | none => mistake "EOF in backquote substitution"
      | some '`' => return []
      | some '\\' =>
          match ← exactly with
          | some c =>
              if "\\`$".toList.contains c || (quoted && c = '"') then
                return c :: (← backquoted quoted fuel)
              else return '\\' :: c :: (← backquoted quoted fuel)
          | none => return ['\\']
      | some c => return c :: (← backquoted quoted fuel)

def commandOf (commands : Read Command) (source : Raw) : Read Command := fun cursor =>
  match commands.run (.ofScript source 1) with
  | .ok (command, _) => .ok (command, cursor)
  | .error flaw => .error flaw

def bracketed (commands : Read Command) : Read Command := do
  let command ← commands
  match ← unheld with
  | some token =>
      if token.isSign ")" then return command
      else mistake (token.shown ++ " unexpected (expecting \")\")")
  | none => mistake "end of file unexpected (expecting \")\")"

/-- The name of a parameter between braces, empty if there is none. -/
def parameterName : Read String := do
  match ← peek with
  | some c =>
      if isNameStart c then return String.ofList (← all isNameChar)
      else if c.isDigit then return String.ofList (← all Char.isDigit)
      else if isSpecial c then
        drop
        return c.toString
      else return ""
  | none => return ""

mutual

def pieces (commands : Read Command) (setting : Setting) : Nat → Read Word
  | 0 => return []
  | fuel + 1 => do
      match ← peek with
      | none =>
          match setting.atEnd? with
          | some text => mistake text
          | none => return []
      | some c =>
          if setting.isEnd c then return []
          else
            drop
            let first ← piece commands setting c fuel
            return first ++ (← pieces commands setting fuel)

def piece (commands : Read Command) (setting : Setting) (c : Char) : Nat → Read Word
  | 0 => return []
  | fuel + 1 => do
      let quoted := setting.isQuoted
      match c with
      | '\\' =>
          match ← exactly with
          | none => return [.text ['\\'] true]
          | some c => return [.text (if setting.protects c then [c] else ['\\', c]) true]
      | '\'' =>
          if quoted then return [.text ['\''] true]
          else return [.text [] true, .text (← singleQuoted) true]
      | '"' =>
          match setting with
          | .bare | .braces =>
              let inner ← pieces commands (.quotes (setting = .braces)) fuel
              drop
              return .text [] true :: inner
          | .quotedBraces _ =>
              let inner ← pieces commands (.quotes true) fuel
              drop
              return inner
          | _ => return [.text ['"'] true]
      | '`' =>
          let source ← backquoted quoted ((← rest).length + 1)
          return [.output (← commandOf commands source) quoted]
      | '$' => dollar commands setting fuel
      | c => return [.text [c] quoted]

def dollar (commands : Read Command) (setting : Setting) : Nat → Read Word
  | 0 => return []
  | fuel + 1 => do
      let quoted := setting.isQuoted
      match ← peek with
      | some '\x7b' =>
          drop
          return [← parameter commands setting fuel]
      | some '(' =>
          drop
          if ← take? '(' then return [.sum (← sumPieces commands 0 fuel) quoted]
          else return [.output (← bracketed commands) quoted]
      | some c =>
          if isNameStart c then
            return [.parameter (String.ofList (← all isNameChar)) .plain quoted]
          else if isSpecial c then
            drop
            return [.parameter c.toString .plain quoted]
          else return [.text ['$'] quoted]
      | none => return [.text ['$'] quoted]

def sumPieces (commands : Read Command) (depth : Nat) : Nat → Read Word
  | 0 => return []
  | fuel + 1 => do
      match ← next with
      | none => mistake "Missing '))'"
      | some '(' => return .text ['('] true :: (← sumPieces commands (depth + 1) fuel)
      | some ')' =>
          if 0 < depth then return .text [')'] true :: (← sumPieces commands (depth - 1) fuel)
          else if ← take? ')' then return []
          else return .text [')'] true :: (← sumPieces commands depth fuel)
      | some c =>
          let first ← piece commands .sum c fuel
          return first ++ (← sumPieces commands depth fuel)

def parameter (commands : Read Command) (setting : Setting) : Nat → Read Piece
  | 0 => return .text [] true
  | fuel + 1 => do
      let quoted := setting.isQuoted
      match ← peekTwo with
      | (some '#', some c) =>
          drop
          let (_, second) ← peekTwo
          if isNameStart c || c.isDigit || (isSpecial c && second = some '\x7d') then
            let name ← parameterName
            if ← take? '\x7d' then return .parameter name .length quoted
            else
              let _ ← pieces commands setting.inBraces fuel
              drop
              return .parameter name .unknown quoted
          else return .parameter "#" (← edit commands setting fuel) quoted
      | _ =>
          let name ← parameterName
          if name = "" then
            let _ ← pieces commands setting.inBraces fuel
            drop
            return .parameter name .unknown quoted
          else return .parameter name (← edit commands setting fuel) quoted

/-- The edit behind a parameter's name, up to the closing brace. -/
def edit (commands : Read Command) (setting : Setting) : Nat → Read Edit
  | 0 => return .plain
  | fuel + 1 => do
      if ← take? '\x7d' then return .plain
      else
        let emptyToo ← take? ':'
        let sign ← next
        let cuts := !emptyToo && (sign = some '%' || sign = some '#')
        let longest ← if cuts then take? (sign.getD ' ') else pure false
        let word ← pieces commands (if cuts then .braces else setting.inBraces) fuel
        let word := joinTexts word
        drop
        match sign with
        | some '-' => return .fallback emptyToo word
        | some '=' => return .assign emptyToo word
        | some '?' => return .demand emptyToo word
        | some '+' => return .instead emptyToo word
        | some '%' => return if cuts then .cut true longest word else .unknown
        | some '#' => return if cuts then .cut false longest word else .unknown
        | _ => return .unknown

end

def pieceFuel (source : Raw) : Nat :=
  6 * source.length + 16

def wordIn (commands : Read Command) (setting : Setting) : Read Word := do
  let source ← rest
  return joinTexts (← pieces commands setting (pieceFuel source))

def textPieces (commands : Read Command) (source : Raw) (line : Nat) : Except Flaw Word :=
  ((wordIn commands .text).run (.ofScript source line)).map (·.1)

end LintBridge.Shell
