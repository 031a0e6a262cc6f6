import BlockMachine.Number.Binary64
import BlockMachine.Text.Digit

/-!
Number literals of formulas: digits of any script, possibly mixed, and at most
one decimal point. A literal denotes an exact decimal, and is read as the
nearest binary64 number to it, whatever its length.
-/

namespace BlockMachine.Number

def ofDigits (digits : List Nat) : Nat :=
  digits.foldl (fun value digit => 10 * value + digit) 0

/-- The decimal `digits / 10 ^ places`. -/
structure Decimal where
  digits : Nat
  places : Nat
  deriving DecidableEq

def Decimal.toFloat (decimal : Decimal) : Float :=
  nearest decimal.digits (Nat.pow 10 decimal.places)

namespace Literal

def isWellFormed (literal : List Char) : Bool :=
  literal.count '.' ≤ 1 && literal.any Text.isDigit

def decimal (literal : List Char) : Decimal where
  digits := ofDigits (literal.filterMap Text.digit?)
  places := (literal.dropWhile (· != '.')).length - 1

/-- The value of a run of digits and points, if it is a number at all. -/
def read? (literal : List Char) : Option Float :=
  if isWellFormed literal then some (decimal literal).toFloat else none

end Literal

end BlockMachine.Number
