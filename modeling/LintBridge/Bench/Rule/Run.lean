import LintBridge.Bench.Rule.Channel
import LintBridge.Bench.Tool.Moment

/-!
# Following rules

What the expressions of a script are worth and what its statements do.  Every step takes
from a supply, which bounds the steps of a loop and how deep calls go; a script that uses
it up never comes to an end.
-/

set_option autoImplicit false

namespace LintBridge.Rule

open Pattern (Regex)
open Shell (Layer)

inductive Spot where
  | name (name : String)
  | part (number : Nat)
  | element (table : Nat) (key : Raw)
  | nowhere

def Spot.look : Spot → Doing Value
  | name n => return (← get).look n
  | part n => return (← get).part n
  | element id key => modifyGet fun c => c.element id key
  | nowhere => return .unset

def Spot.assign (v : Value) : Spot → Doing Unit
  | name n => modify fun c => c.assign n v
  | part n => modify fun c => c.setPart n v
  | element id key => modify fun c => c.setElement id key v
  | nowhere => return

def tableOf (name : String) : Doing Nat := do
  let (id, c) := (← get).tableId? name
  set c
  match id with
  | some id => return id
  | none =>
      runError ("type error in arg(s) for ".toList ++ name.toList)
      return 0

def dynamic (source : Raw) : Doing Regex := do
  match patternOf source with
  | .ok r => return r
  | .error trouble =>
      modify fun c => c.breakOff (badPattern trouble source)
      return .any

def substitute (hit : Raw) : Raw → Raw
  | '\\' :: '&' :: rest => '&' :: substitute hit rest
  | '\\' :: '\\' :: rest => '\\' :: substitute hit rest
  | '&' :: rest => hit ++ substitute hit rest
  | c :: rest => c :: substitute hit rest
  | [] => []

/-- A text with so many matches replaced, and how many there were.  A match of nothing does
not follow a match directly. -/
def replaceMatches (r : Regex) (f : Regex.Field) (form : Raw) :
    Nat → Nat → Bool → List Raw × Nat
  | 0, place, _ => ([f.part place f.text.size], 0)
  | most + 1, place, afterMatch =>
      match Course.firstMatch? r f place with
      | none => ([f.part place f.text.size], 0)
      | some (a, b) =>
          let skipped := f.part place a
          if a < b then
            let (rest, n) := replaceMatches r f form most b true
            (skipped :: substitute (f.part a b) form :: rest, n + 1)
          else
            let own := if afterMatch && a = place then [] else substitute [] form
            let counted := if afterMatch && a = place then 0 else 1
            if f.text.size ≤ a then ([skipped, own], counted)
            else
              let (rest, n) := replaceMatches r f form most (a + 1) false
              (skipped :: own :: f.part a (a + 1) :: rest, n + counted)

/-- The part of a text that begins at a place, counted from one, and has a length. -/
def partOf (text : Raw) (place : Float) (length : Option Float) : Raw :=
  let whole (x : Float) : Int := Value.toInt (.number x)
  let first := whole place.round
  let last : Int :=
    match length with
    | none => text.length + 1
    | some n => if n.isNaN then first else whole (place + n).round
  let first := max 1 first
  let last := min ((text.length : Int) + 1) last
  if last ≤ first then [] else (text.drop (first - 1).toNat).take (last - first).toNat

/-- Where a text begins in another one, counted from one. -/
def placeIn (part : Raw) : Nat → Raw → Nat
  | n, text =>
      if part.isPrefixOf text then n + 1
      else
        match text with
        | [] => 0
        | _ :: rest => placeIn part (n + 1) rest

def ownValue (name : String) (args : List Value) : Doing Value := do
  let c ← get
  let first := args.head?.getD .unset
  let second := args[1]?.getD Value.unset
  let text (n : Nat) : Raw := c.textOf (args[n]?.getD Value.unset)
  let x := first.toNumber
  let real (y : Float) : Doing Value := return .number y
  match name with
  | "substr" =>
      return .text (partOf (text 0) second.toNumber (args[2]?.map Value.toNumber))
  | "index" => return .ofNat (placeIn (text 1) 0 (text 0))
  | "sprintf" =>
      match fillForm (c.keptText "CONVFMT") ((text 0).length + 1) (text 0) args.tail with
      | (raw, true) => return .text raw
      | (_, false) =>
          runError ("not enough arguments passed to sprintf(\"".toList ++ text 0 ++ "\")".toList)
          return .unset
  | "sin" => real x.sin
  | "cos" => real x.cos
  | "atan2" => real (Float.atan2 x second.toNumber)
  | "exp" => real x.exp
  | "log" => real x.log
  | "sqrt" => real x.sqrt
  | "int" => real (if x < 0.0 then x.ceil else x.floor)
  | "rand" =>
      let seed := (c.seed * 1103515245 + 12345) % 2147483648
      set { c with seed }
      return .number (Float.ofNat seed / 2147483648.0)
  | "srand" =>
      set { c with seed := if args.isEmpty then Moment.start.seconds else first.toInt.toNat }
      return .ofNat c.seed
  | "tolower" => return .text ((text 0).map Char.toLower)
  | "toupper" => return .text ((text 0).map Char.toUpper)
  | "fflush" =>
      modify Course.flush
      return .ofNat 0
  | "systime" => return .ofNat (Moment.start.after c.shell.time).seconds
  | "strftime" =>
      let moment : Moment :=
        match args[1]? with
        | some v => ⟨v.toInt.toNat, 0⟩
        | none => Moment.start.after c.shell.time
      let form := if args.isEmpty then "%c".toList else text 0
      return .text (moment.write (4 * form.length + 64) form)
  | "mktime" =>
      match (Course.words (text 0)).map Raw.nat? with
      | some year :: some month :: some day :: some hour :: some minute :: some second :: _ =>
          return .ofNat ((Moment.ofDate year month day).seconds + hour * 3600 + minute * 60 + second)
      | _ => return .number (-1.0)
  | _ => return .unset

def putParts (id : Nat) (parts : List Raw) : Doing Value := do
  let keyed := (parts.zip (List.range parts.length)).map fun p =>
    (Raw.ofNat (p.2 + 1), Value.input p.1)
  modify fun c => c.setTable id keyed.reverse
  return .ofNat parts.length

/-- A name that a function is given: a table stays the same one. -/
def shared (name : String) : Doing Binding := do
  let c ← get
  match c.binding? name with
  | some (.table id) => return .table id
  | some (.loose id) => return .loose id
  | some (.value .unset) | none =>
      if name = "NF" then return .value (c.look name)
      else
        let id := c.freshTable
        set ({ c with freshTable := id + 1 }.bind name (.loose id))
        return .loose id
  | some (.value v) => return .value v

def afterBody : Doing Bool := do
  let c ← get
  match c.flow with
  | .go => return true
  | .goOn =>
      set { c with flow := .go }
      return true
  | .leave =>
      set { c with flow := .go }
      return false
  | _ => return false

def exhausted {α : Type} (v : α) : Doing α := do
  modify fun c => { c with flow := .hung }
  return v

/-- Whoever follows a script: the programs around it, and the functions that it has. -/
structure Surroundings where
  inner : Layer
  routines : List Routine

mutual

def eval (w : Surroundings) : Nat → Expr → Doing Value
  | 0, _ => exhausted .unset
  | fuel + 1, e => do
      match e with
      | .number x => return .number x
      | .text raw => return .text raw
      | .regex r =>
          return .ofBool (Course.firstMatch? r (Course.fieldOf (← get).record) 0).isSome
      | .variable name => return (← get).look name
      | .field _ | .element _ _ => (← spot w fuel e).look
      | .hasKey keys table =>
          let key ← keyText w fuel keys
          let id ← tableOf table
          return .ofBool (((← get).table id).any (·.1 = key))
      | .assign sign target value =>
          match sign with
          | none =>
              let v ← eval w fuel value
              let place ← spot w fuel target
              if ← goes then place.assign v
              return v
          | some sign =>
              let place ← spot w fuel target
              let v ← eval w fuel value
              let before ← place.look
              let v := .number (Value.calculate sign before.toNumber v.toNumber)
              if ← goes then place.assign v
              return v
      | .choose test yes no =>
          if (← eval w fuel test).holds then eval w fuel yes else eval w fuel no
      | .both a b =>
          if (← eval w fuel a).holds then return .ofBool (← eval w fuel b).holds
          else return .ofBool false
      | .either a b =>
          if (← eval w fuel a).holds then return .ofBool true
          else return .ofBool (← eval w fuel b).holds
      | .not a => return .ofBool !(← eval w fuel a).holds
      | .fits others a pattern =>
          let v ← eval w fuel a
          let r ← patternIn w fuel pattern
          let f := Course.fieldOf ((← get).textOf v)
          return .ofBool ((Course.firstMatch? r f 0).isSome != others)
      | .compare sign a b =>
          let a ← eval w fuel a
          let b ← eval w fuel b
          return .ofBool (Value.compare ((← get).keptText "CONVFMT") sign a b)
      | .join a b =>
          let a ← eval w fuel a
          let b ← eval w fuel b
          let c ← get
          return .text (c.textOf a ++ c.textOf b)
      | .calculate sign a b =>
          let a ← eval w fuel a
          let b ← eval w fuel b
          return .number (Value.calculate sign a.toNumber b.toNumber)
      | .negative a => return .number (-(← eval w fuel a).toNumber)
      | .positive a => return .number (← eval w fuel a).toNumber
      | .step late up target =>
          let place ← spot w fuel target
          let before := (← place.look).toNumber
          let after := if up then before + 1.0 else before - 1.0
          if ← goes then place.assign (.number after)
          return .number (if late then before else after)
      | .call name args => call w fuel name args
      | .read origin source target => read w fuel origin source target
      | .row parts => do
          match parts with
          | [e] => eval w fuel e
          | parts => return .text (← keyText w fuel parts)

def spot (w : Surroundings) : Nat → Expr → Doing Spot
  | 0, _ => exhausted .nowhere
  | fuel + 1, e => do
      match e with
      | .variable name => return .name name
      | .element table keys =>
          let key ← keyText w fuel keys
          return .element (← tableOf table) key
      | .field number =>
          let n := (← eval w fuel number).toInt
          if n < 0 then
            runError ("negative field index $".toList ++ Raw.ofInt n)
            return .nowhere
          else return .part n.toNat
      | .row [e] => spot w fuel e
      | _ => return .nowhere

def keyText (w : Surroundings) : Nat → List Expr → Doing Raw
  | 0, _ => exhausted []
  | _ + 1, [] => return []
  | fuel + 1, e :: rest => do
      let v ← eval w fuel e
      let first := (← get).textOf v
      match rest with
      | [] => return first
      | rest =>
          let more ← keyText w fuel rest
          return first ++ (← get).keptText "SUBSEP" ++ more

def values (w : Surroundings) : Nat → List Expr → Doing (List Value)
  | 0, _ => exhausted []
  | _ + 1, [] => return []
  | fuel + 1, e :: rest => do
      let v ← eval w fuel e
      return v :: (← values w fuel rest)

def patternIn (w : Surroundings) : Nat → Expr → Doing Regex
  | 0, _ => exhausted .any
  | fuel + 1, e => do
      match e with
      | .regex r => return r
      | e =>
          let v ← eval w fuel e
          dynamic ((← get).textOf v)

def arguments (w : Surroundings) : Nat → List String → List Expr → Doing (List (String × Binding))
  | 0, _, _ => exhausted []
  | _ + 1, [], _ => return []
  | fuel + 1, name :: names, [] => do
      return (name, .value .unset) :: (← arguments w fuel names [])
  | fuel + 1, name :: names, e :: rest => do
      let given ← (do
        match e with
        | .variable other => shared other
        | e => return .value (← eval w fuel e) : Doing Binding)
      return (name, given) :: (← arguments w fuel names rest)

def call (w : Surroundings) : Nat → String → List Expr → Doing Value
  | 0, _, _ => exhausted .unset
  | fuel + 1, name, args => do
      match w.routines.find? (·.name = name) with
      | some routine =>
          let given ← arguments w fuel routine.parameters args
          let c ← get
          if !c.goes then return .unset
          else if 200 ≤ c.depth then
            modify fun c => c.breakOff "program limit exceeded: eval stack size=1024".toList
            return .unset
          else
            set { c with locals := given, depth := c.depth + 1 }
            follow w fuel routine.body
            let after ← get
            let back := { after with locals := c.locals, depth := c.depth }
            match after.flow with
            | .back v =>
                set { back with flow := .go }
                return v
            | _ =>
                set back
                return .unset
      | none =>
          match name, args with
          | "length", [] => return .ofNat (← get).record.length
          | "length", [.variable other] =>
              let c ← get
              match c.binding? other with
              | some (.table id) | some (.loose id) => return .ofNat (c.table id).length
              | _ => return .ofNat (c.textOf (c.look other)).length
          | "length", e :: _ =>
              let v ← eval w fuel e
              return .ofNat ((← get).textOf v).length
          | "split", source :: .variable table :: rest =>
              let v ← eval w fuel source
              let text := (← get).textOf v
              match rest with
              | .regex r :: _ =>
                  let parts :=
                    if text.isEmpty then []
                    else Course.cutAt r (Course.fieldOf text) (text.length + 1) 0 0
                  putParts (← tableOf table) parts
              | rest =>
                  let separator ← (do
                    match rest with
                    | e :: _ =>
                        let v ← eval w fuel e
                        return (← get).textOf v
                    | [] => return (← get).keptText "FS" : Doing Raw)
                  match Course.splitText separator text with
                  | .ok parts => putParts (← tableOf table) parts
                  | .error text =>
                      modify fun c => c.breakOff text
                      return .unset
          | "match", source :: pattern :: _ =>
              let v ← eval w fuel source
              let r ← patternIn w fuel pattern
              let found := Course.firstMatch? r (Course.fieldOf ((← get).textOf v)) 0
              let (place, length) : Value × Value :=
                match found with
                | some (a, b) => (.ofNat (a + 1), .ofNat (b - a))
                | none => (.ofNat 0, .number (-1.0))
              modify fun c => (c.bind "RSTART" (.value place)).bind "RLENGTH" (.value length)
              return place
          | "sub", pattern :: form :: rest | "gsub", pattern :: form :: rest =>
              let r ← patternIn w fuel pattern
              let v ← eval w fuel form
              let form := (← get).textOf v
              let target := rest.head?.getD (.field (.number 0.0))
              let place ← spot w fuel target
              let v ← (match place with
                | .nowhere => eval w fuel target
                | place => place.look)
              let text := (← get).textOf v
              let most := if name = "sub" then 1 else text.length + 2
              let (pieces, n) := replaceMatches r (Course.fieldOf text) form most 0 false
              if 0 < n && (← goes) then place.assign (.text pieces.flatten)
              return .ofNat n
          | "system", e :: _ =>
              let v ← eval w fuel e
              if ← goes then
                return .ofNat (← runCommand w.inner "sh".toList ((← get).textOf v) none false).2
              else return .unset
          | "close", e :: _ =>
              let v ← eval w fuel e
              if ← goes then
                let status ← close w.inner ((← get).textOf v)
                return .number (Float.ofInt status)
              else return .unset
          | name, args => ownValue name (← values w fuel args)

def read (w : Surroundings) : Nat → Origin → Option Expr → Option Expr → Doing Value
  | 0, _, _, _ => exhausted .unset
  | fuel + 1, origin, source, target => do
      let name ← (do
        match source with
        | some e =>
            let v ← eval w fuel e
            return (← get).textOf v
        | none => return [] : Doing Raw)
      if !(← goes) then return .unset
      else
        let found ← (do
          match origin with
          | .main => return .ok (← nextMain fuel)
          | .file => nextOf w.inner false name
          | .command => nextOf w.inner true name : Doing (Except Unit (Option Raw)))
        match found with
        | .error () => return .number (-1.0)
        | .ok none => return .ofNat 0
        | .ok (some record) =>
            match target with
            | none => modify fun c => c.setRecord record
            | some e =>
                let place ← spot w fuel e
                place.assign (.input record)
            return .ofNat 1

def follow (w : Surroundings) : Nat → Statement → Doing Unit
  | 0, _ => exhausted ()
  | fuel + 1, statement => do
      if !(← goes) then return
      else
        match statement with
        | .nothing => return
        | .expression e =>
            let _ ← eval w fuel e
            return
        | .print parts aim =>
            let list ← values w fuel parts
            let c ← get
            let text :=
              if parts.isEmpty then c.record
              else ((list.map c.shownText).intersperse (c.keptText "OFS")).flatten
            write w fuel aim (text ++ c.keptText "ORS")
        | .format parts aim =>
            let list ← values w fuel parts
            let c ← get
            let form := c.textOf (list.head?.getD .unset)
            let (text, enough) :=
              fillForm (c.keptText "CONVFMT") (form.length + 1) form list.tail
            write w fuel aim text
            if !enough then
                runError ("not enough arguments passed to printf(\"".toList ++ form
                  ++ "\")".toList)
        | .block list => followAll w fuel list
        | .branch test yes no =>
            if (← eval w fuel test).holds then follow w fuel yes else follow w fuel no
        | .loop test body step =>
            let more ← holds w fuel test
            if more && (← goes) then
              follow w fuel body
              if ← afterBody then
                follow w fuel step
                follow w fuel (.loop test body step)
        | .again body test =>
            follow w fuel body
            if ← afterBody then
              if (← eval w fuel test).holds then follow w fuel (.again body test)
        | .each name table body =>
            let id ← tableOf table
            followKeys w fuel name body ((← get).keysOf id)
        | .leave => modify fun c => { c with flow := .leave }
        | .goOn => modify fun c => { c with flow := .goOn }
        | .next => modify fun c => { c with flow := .next }
        | .nextFile => modify fun c => { c with flow := .nextFile }
        | .exit status =>
            match status with
            | none => modify fun c => { c with flow := .exit }
            | some e =>
                let v ← eval w fuel e
                modify fun c =>
                  { c with flow := .exit, status := (v.toInt % 256).toNat }
        | .back value =>
            match value with
            | none => modify fun c => { c with flow := .back .unset }
            | some e =>
                let v ← eval w fuel e
                if ← goes then modify fun c => { c with flow := .back v }
        | .forget table keys =>
            let id ← tableOf table
            match keys with
            | [] => modify fun c => c.setTable id []
            | keys =>
                let key ← keyText w fuel keys
                modify fun c => c.setTable id ((c.table id).filter (·.1 ≠ key))

def followAll (w : Surroundings) : Nat → List Statement → Doing Unit
  | 0, _ => exhausted ()
  | _ + 1, [] => return
  | fuel + 1, first :: rest => do
      follow w fuel first
      if ← goes then followAll w fuel rest

def followKeys (w : Surroundings) : Nat → String → Statement → List Raw → Doing Unit
  | 0, _, _, _ => exhausted ()
  | _ + 1, _, _, [] => return
  | fuel + 1, name, body, key :: rest => do
      modify fun c => c.assign name (.input key)
      follow w fuel body
      if ← afterBody then followKeys w fuel name body rest

def holds (w : Surroundings) : Nat → Option Expr → Doing Bool
  | 0, _ => exhausted false
  | _ + 1, none => return true
  | fuel + 1, some e => return (← eval w fuel e).holds

def write (w : Surroundings) : Nat → Aim → Raw → Doing Unit
  | 0, _, _ => exhausted ()
  | fuel + 1, aim, text => do
      let named (e : Expr) (act : Raw → Doing Unit) : Doing Unit := do
        let v ← eval w fuel e
        if ← goes then act ((← get).textOf v)
      if ← goes then
        match aim with
        | .output => toOutput text
        | .file e => named e fun name => toFile name text false
        | .behind e => named e fun name => toFile name text true
        | .command e => named e fun command => toCommand command text

end

end LintBridge.Rule
