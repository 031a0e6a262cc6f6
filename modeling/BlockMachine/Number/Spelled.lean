import BlockMachine.Number.Scientific
import BlockMachine.Text.Blank

/-!
Numbers that arrive as text where a number is wanted.

A whole number takes one optional sign and digits of any script, at most 4300 of
them; a single underscore may stand between two digits, and white space around
the number is dropped.

A real number takes one optional sign and then plain digits, a point and an
exponent, or one of the words for the infinities and for no number. It is read
without the white space around it; failing that, without the underscores in it.
-/

namespace BlockMachine.Number

/-- Digits of the class, with single underscores between them only. -/
def separated (isDigit : Char → Bool) : List Char → Bool
  | [] => false
  | [c] => isDigit c
  | c :: '_' :: rest => isDigit c && separated isDigit rest
  | c :: rest => isDigit c && separated isDigit rest

namespace Whole

def maxDigits : Nat := 4300

inductive Fault
  | malformed
  | tooLong (count : Nat)
  deriving DecidableEq

def isSpelling (c : Char) : Bool :=
  Text.isDigit c || c == '_'

/-- The count of digits is settled before what follows them is looked at. -/
def read (text : List Char) : Except Fault Int :=
  let (negative, body) := splitSign (Text.trimBy Text.isWhite text)
  let spelling := body.takeWhile isSpelling
  let digits := spelling.filterMap Text.digit?
  if !separated Text.isDigit spelling then .error .malformed
  else if maxDigits < digits.length then .error (.tooLong digits.length)
  else if spelling.length < body.length then .error .malformed
  else
    let size : Int := ofDigits digits
    .ok (if negative then -size else size)

end Whole

namespace Real

/-- The words count in either case. -/
def word? (word : List Char) : Option Float :=
  let plain := String.ofList (word.map Char.toLower)
  if plain = "inf" || plain = "infinity" then some infinity
  else if plain = "nan" then some notANumber
  else none

/-- Plain digits around an optional point, then an optional exponent, to the end. -/
def scientific? (text : List Char) : Option (Nat × Int) :=
  let whole := text.takeWhile isPlainDigit
  let behind := text.dropWhile isPlainDigit
  let (part, behind) := (fraction? 0 behind).getD ([], behind)
  let (exponent, behind) := (exponent? behind).getD (0, behind)
  if (whole.isEmpty && part.isEmpty) || !behind.isEmpty then none
  else some (ofPlainDigits (whole ++ part), exponent - part.length)

/-- A number in plain spelling, to the end of the text. -/
def plain? (text : List Char) : Option Float :=
  let (negative, body) := splitSign text
  match word? body with
  | some value => some (if negative then -value else value)
  | none =>
    (scientific? body).map fun (digits, exponent) =>
      Scientific.toFloat ⟨negative, digits, exponent⟩

/-- No underscore stands at either end or beside another; `before` is the character in front. -/
def underscoresApart (before : Char) : List Char → Bool
  | [] => before != '_'
  | c :: rest => (before != '_' || c != '_') && underscoresApart c rest

def withoutUnderscores? (text : List Char) : Option (List Char) :=
  if underscoresApart '_' text then some (text.filter (· != '_')) else none

/-- White space is dropped only around a number that has no underscores. -/
def read? (text : List Char) : Option Float :=
  match plain? (Text.trimBy Text.isWhite text) with
  | some value => some value
  | none => (withoutUnderscores? text).bind plain?

end Real

end BlockMachine.Number
