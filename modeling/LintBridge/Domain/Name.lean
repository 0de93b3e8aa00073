import LintBridge.Domain.Direction
import LintBridge.Domain.Punycode
import LintBridge.Domain.SpellingTable
import LintBridge.Text.CodeTable

/-!
# Names of domains

The one spelling of the characters of a name, and the form in which it is looked up.
-/

set_option autoImplicit false

/-!
## Spelling

The one way in which a character is written in the name of a domain: letters become
small, forms of a letter become the letter, some characters are left out, and others
may not stand in a name at all.
-/

namespace LintBridge.Domain

open Text (CodeTable.Shifts CodeTable.Texts CodeTable.Ranges)

namespace Spelling

def shifts : CodeTable.Shifts :=
  Text.CodeTable.shifts SpellingTable.shifts

def texts : CodeTable.Texts :=
  [SpellingTable.basicSpellings, SpellingTable.symbolSpellings, SpellingTable.squareSpellings,
   SpellingTable.ideographSpellings, SpellingTable.formSpellings,
   SpellingTable.letterSpellings, SpellingTable.pictureSpellings,
   SpellingTable.remoteSpellings].flatMap Text.CodeTable.texts

def dropped : CodeTable.Ranges :=
  Text.CodeTable.ranges SpellingTable.dropped

def refused : CodeTable.Ranges :=
  Text.CodeTable.ranges SpellingTable.refused

end Spelling

def isPlain (c : Char) : Bool :=
  c.toNat < 0x80

/-- How a character is written in a name, unless it may not stand there. -/
def spell? (c : Char) : Option (List Char) :=
  if isPlain c then some [c.toLower]
  else
    match Spelling.shifts.get? c with
    | some letter => some [letter]
    | none =>
        match Spelling.texts.get? c with
        | some text => some text
        | none =>
            if Spelling.dropped.holds c then some []
            else if Spelling.refused.holds c then none
            else some [c]

def isSpelled (c : Char) : Bool :=
  spell? c = some [c]

def spellAll? (text : List Char) : Option (List Char) :=
  (text.mapM spell?).map List.flatten

end LintBridge.Domain

/-!
## Names of domains

The form of a name in which it is looked up has plain characters only.  A name is brought
to the one spelling of its characters, its letters and marks are composed, and each label
that is not plain is written with letters and digits behind a sign.  A label that comes
with the sign must be one that is written so.
-/

namespace LintBridge.Domain

/-- What stands before a label that is written with letters and digits. -/
def sign : List Char :=
  "xn--".toList

structure Label where
  /-- What is read. -/
  text : List Char
  /-- What is looked up. -/
  plain : List Char

namespace Label

def isSound (text : List Char) : Bool :=
  !text.head?.any isMark && text.all isSpelled && Joiner.areInPlace [] text

def ofText? (text : List Char) : Option Label :=
  if sign.isPrefixOf text then do
    let read ← Punycode.read? (text.drop sign.length)
    if text.all isPlain && !read.all isPlain && Mark.composed read = read && isSound read then
      some ⟨read, text⟩
    else none
  else if text.all isPlain then some ⟨text, text⟩
  else if isSound text then some ⟨text, sign ++ Punycode.write text⟩
  else none

end Label

def plainName? (name : List Char) : Option (List Char) := do
  let spelled ← spellAll? name
  let labels ← ((Mark.composed spelled).splitOn '.').mapM Label.ofText?
  if isReadable (labels.map (·.text)) then
    some (['.'].intercalate (labels.map (·.plain)))
  else none

end LintBridge.Domain
