import Linura.Lib.Text
import Linura.Lib.Words

/-!
# Taking texts apart

Leading texts, separators and canonical decimal numbers.
-/

namespace Linura.Lib

variable (text : String)

/-- The text starts with `lead`. -/
def startsWith (lead : String) : Bool := lead.toList.isPrefixOf text.toList

/-- The text ends with `tail`. -/
def endsWith (tail : String) : Bool := tail.toList.isSuffixOf text.toList

/-- What follows `lead`, for a text that starts with it. -/
def stripLead (lead : String) : Option String :=
  if startsWith text lead then some (String.ofList (text.toList.drop lead.toList.length)) else none

/-- What precedes `tail`, for a text that ends with it. -/
def stripTail (tail : String) : Option String :=
  if endsWith text tail then
    some (String.ofList (text.toList.take (text.toList.length - tail.toList.length)))
  else none

/-- The parts before and after the first separator. -/
def splitOnceChars (separator : Char) : List Char → Option (List Char × List Char)
  | [] => none
  | c :: rest =>
    if c = separator then some ([], rest)
    else (splitOnceChars separator rest).map fun parts => (c :: parts.1, parts.2)

variable (separator : Char)

/-- `str::split_once` -/
def splitOnce : Option (String × String) :=
  (splitOnceChars separator text.toList).map fun parts => (.ofList parts.1, .ofList parts.2)

/-- `str::rsplit_once` -/
def rsplitOnce : Option (String × String) :=
  (splitOnceChars separator text.toList.reverse).map fun parts =>
    (.ofList parts.2.reverse, .ofList parts.1.reverse)

/-- `str::split` -/
def splitAll : List String :=
  (text.toList.splitOn separator).map .ofList

/-- A number written in decimal without leading zeros that fits 64 bits. -/
def canonicalDecimal : Option Nat :=
  if text.isEmpty ∨ (1 < text.toList.length ∧ text.toList.head? = some '0')
      ∨ !text.toList.all Char.isDigit then none
  else
    let value := text.toList.foldl (fun total digit => total * 10 + (digit.toNat - '0'.toNat)) 0
    if value ≤ u64Max then some value else none

/-- Replace the occurrences of a pattern that is not empty, from the left.  The fuel is the length
of the text. -/
def replaceChars (pattern replacement : List Char) : Nat → List Char → List Char
  | 0, text => text
  | _ + 1, [] => []
  | fuel + 1, c :: rest =>
    if pattern.isPrefixOf (c :: rest) then
      replacement ++ replaceChars pattern replacement fuel ((c :: rest).drop pattern.length)
    else c :: replaceChars pattern replacement fuel rest

/-- `str::replace`.  The empty pattern occurs before each character and at the end. -/
def replaceText (pattern replacement : String) : String :=
  if pattern.isEmpty then
    .ofList (replacement.toList ++ text.toList.flatMap (· :: replacement.toList))
  else .ofList (replaceChars pattern.toList replacement.toList text.toList.length text.toList)

example : replaceText "seen at 7:7" "7" "<id>" = "seen at <id>:<id>" := by decide

end Linura.Lib
