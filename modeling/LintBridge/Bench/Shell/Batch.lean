import LintBridge.Bench.Shell.Session
import LintBridge.Bench.Tool.Format

/-!
# Commands made from input

A program that takes arguments from its input and starts a command with them: with all,
with so many at once, or with each in a place of its own.
-/

set_option autoImplicit false

namespace LintBridge.Shell

open Tool (Choices OptionTable)

namespace Batch

/-- The words of input in which blanks, quotes and backslashes mean something; each with
the number of its line.  A blank at the end of a line joins the next one to it. -/
structure Splitting where
  /-- The word in the making, backwards; none between words. -/
  word : Option Raw
  /-- The words, the last one first. -/
  words : List (Raw × Nat)
  line : Nat
  blank : Bool

namespace Splitting

def close (p : Splitting) : Splitting :=
  match p.word with
  | some word => { p with word := none, words := (word.reverse, p.line) :: p.words }
  | none => p

def add (p : Splitting) (text : Raw) : Splitting :=
  { p with word := some (text.reverse ++ p.word.getD []), blank := false }

/-- Reads input to its end; the error is a quote that is not closed.  Whole lines are words
where `whole` is set. -/
def read (whole : Bool) : Nat → Raw → Splitting → Except Char Splitting × Splitting
  | 0, _, p => (.ok p.close, p)
  | _ + 1, [], p => (.ok p.close, p)
  | fuel + 1, c :: rest, p =>
      match c with
      | '\n' =>
          let after := p.close
          let joins := p.blank && !whole
          let fresh := p.word.isNone && !(p.words.head?.map (·.2) = some p.line)
          read whole fuel rest
            { after with line := if joins || fresh then p.line else p.line + 1, blank := false }
      | '\\' =>
          match rest with
          | d :: more => read whole fuel more (p.add [d])
          | [] => (.ok p.close, p)
      | '\'' | '"' =>
          let inside := rest.takeWhile fun d => d ≠ c && d ≠ '\n'
          match rest.drop inside.length with
          | d :: more => if d = c then read whole fuel more (p.add inside) else (.error c, p)
          | [] => (.error c, p)
      | _ =>
          if Raw.isBlank c then
            if whole && p.word.isSome then read whole fuel rest (p.add [c])
            else read whole fuel rest { p.close with blank := true }
          else read whole fuel rest (p.add [c])

end Splitting

/-- What the input gives: words with the numbers of their lines, and the quote that is not
closed. -/
structure Supply where
  words : List (Raw × Nat)
  openQuote : Option Char

/-- The words of input; a mark separates them where one is given. -/
def supply (mark : Option Char) (whole : Bool) (input : Raw) : Supply :=
  match mark with
  | some mark =>
      let parts := Raw.splitEnded mark input
      ⟨parts.zip (List.range parts.length), none⟩
  | none =>
      match Splitting.read whole (input.length + 1) input ⟨none, [], 0, false⟩ with
      | (.ok p, _) => ⟨p.words.reverse, none⟩
      | (.error quote, p) => ⟨p.words.reverse, some quote⟩

def groups (count lines : Option Nat) : Nat → List (Raw × Nat) → List (List Raw)
  | 0, _ => []
  | _ + 1, [] => []
  | fuel + 1, first :: rest =>
      let all := first :: rest
      let size :=
        match lines, count with
        | some n, _ =>
            let kept := (all.map (·.2)).eraseDups.take n
            (all.takeWhile fun w => kept.contains w.2).length
        | none, some n => max 1 n
        | none, none => all.length
      (all.take size).map (·.1) :: groups count lines fuel (all.drop size)

def replaced (place text : Raw) : Nat → Raw → Raw
  | 0, source => source
  | _ + 1, [] => []
  | fuel + 1, c :: rest =>
      if !place.isEmpty && place.isPrefixOf (c :: rest) then
        text ++ replaced place text fuel ((c :: rest).drop place.length)
      else c :: replaced place text fuel rest

def options : OptionTable where
  flags := "0oprtx".toList
  valued := "aEdILnPs".toList
  words :=
    [("null", '0'), ("arg-file", 'a'), ("delimiter", 'd'), ("eof", 'e'), ("replace", 'i'),
     ("max-lines", 'l'), ("max-args", 'n'), ("max-procs", 'P'), ("interactive", 'p'),
     ("no-run-if-empty", 'r'), ("max-chars", 's'), ("verbose", 't'), ("exit", 'x'),
     ("open-tty", 'o')]
  loose := ['e', 'i', 'l']
  mixed := false

def markOf (c : Choices) : Option Char :=
  match c.last? ['0', 'd'] with
  | some '0' => some '\x00'
  | some _ =>
      match c.value? 'd' with
      | some ('\\' :: escape) => ((Tool.escaped? escape).map (·.1)).orElse fun _ => some '\\'
      | some (mark :: _) => some mark
      | _ => none
  | none => none

/-- The numbers that options have must be numbers, and not too small. -/
def wrongNumber? (c : Choices) : Option Raw :=
  c.options.findSome? fun o =>
    let least : Nat := if o.1 = 'P' then 0 else 1
    if "nLPs".toList.contains o.1 || (o.1 = 'l' && !o.2.isEmpty) then
      match Raw.nat? o.2 with
      | none => some ("invalid number \"".toList ++ o.2 ++ "\" for -".toList ++ [o.1]
          ++ " option".toList)
      | some n =>
          if n < least then
            some ("value ".toList ++ o.2 ++ " for -".toList ++ [o.1] ++ " option should be >= ".toList
              ++ Raw.ofNat least)
          else none
    else none

def baseOf (c : Choices) : List Raw :=
  if c.operands.isEmpty then ["echo".toList] else c.operands

def commandsOf (c : Choices) (words : List (Raw × Nat)) : List (List Raw) :=
  let command := baseOf c
  let number (letter : Char) : Option Nat := (c.value? letter).bind Raw.nat?
  match c.last? ['I', 'i', 'L', 'l', 'n'] with
  | some 'I' | some 'i' => replacing command
  | some 'L' => (groups none (number 'L') (words.length + 1) words).map (command ++ ·)
  | some 'l' => (groups none (some ((number 'l').getD 1)) (words.length + 1) words).map (command ++ ·)
  | some _ =>
      if isReplacing && number 'n' = some 1 then replacing command
      else (groups (number 'n') none (words.length + 1) words).map (command ++ ·)
  | none => [command ++ words.map (·.1)]
where
  isReplacing : Bool := c.has 'I' || c.has 'i'
  replacing (command : List Raw) : List (List Raw) :=
    let place :=
      match c.value? 'I', c.value? 'i' with
      | some place, _ => place
      | none, some (d :: place) => d :: place
      | _, _ => ['\x7b', '\x7d']
    words.map fun word => command.map fun part => replaced place word.1 (part.length + 1) part

end Batch

namespace Layer

open Batch

/-- Starts one command after the other; the end of one may be the end of all. -/
def runBatch (inner : Layer) (name : Raw) (shows : Bool) : List (List Raw) → State → State
  | [], s => s
  | words :: rest, s =>
      let s :=
        if shows then s.send 2 (Raw.join ' ' (words.map Tool.quoteOdd) ++ ['\n']) else s
      let before := s.status
      let command := words.head?.getD []
      let after := inner.start (fun command => name ++ ':' :: ' ' :: command) words (s.setTarget 0 none)
      let stopped (text : String) (status : Nat) : State :=
        after.note (name ++ ':' :: ' ' :: command ++ ':' :: ' ' :: text.toList) status
      if after.flow ≠ .go then after
      else if after.status = 126 || after.status = 127 then
        match findCommand s command with
        | .missing | .denied => after
        | _ => runBatch inner name shows rest (after.done 123)
      else if after.status = 255 then stopped "exited with status 255; aborting" 124
      else if 128 < after.status then
        stopped ("terminated by signal " ++ toString (after.status - 128)) 125
      else runBatch inner name shows rest (after.done (if after.status = 0 then before else 123))

def batch (inner : Layer) (name : Raw) (args : List Raw) (s : State) : State :=
  match Tool.choices options args with
  | .error misuse => s.misuse name misuse.message 1
  | .ok c =>
      match wrongNumber? c with
      | some text => s.misuse name text 1
      | none =>
          let (source, s) : Except OsError Raw × State :=
            match c.value? 'a' with
            | some file => ((s.errand name []).source file, s)
            | none => (.ok s.takeInput.1, s.takeInput.2)
          match source with
          | .error e =>
              s.note (name ++ ": Cannot open input file ".toList ++ Tool.quote ((c.value? 'a').getD [])
                ++ ':' :: ' ' :: e.reason) 1
          | .ok input =>
              let whole := c.has 'I' || c.has 'i'
              let found := supply (markOf c) whole input
              let stop := ((c.value? 'E').orElse fun _ => c.value? 'e').filter fun e => !e.isEmpty
              let words := found.words.takeWhile fun w => some w.1 ≠ stop
              let input := s.target? 0
              let made :=
                if !words.isEmpty then commandsOf c words
                else if whole || c.has 'r' || found.openQuote.isSome then []
                else [baseOf c]
              let s :=
                match found.openQuote with
                | some quote =>
                    s.send 2 (name ++ ": unmatched ".toList
                      ++ (if quote = '"' then "double" else "single").toList
                      ++ " quote; by default quotes are special to xargs unless you use the -0 option\n".toList)
                | none => s
              let after := inner.runBatch name (c.has 't') made (s.done 0)
              let after := after.setTarget 0 input
              if found.openQuote.isSome && after.status = 0 then after.done 1 else after

end Layer

end LintBridge.Shell
