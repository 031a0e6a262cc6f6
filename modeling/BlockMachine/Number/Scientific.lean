import BlockMachine.Number.Literal

/-!
Decimals with an exponent, as data formats write numbers. Exponents that leave
the range of binary64 on either side are settled by comparison alone, so no
power of ten is ever computed that the result does not need.
-/

namespace BlockMachine.Number

/-- The number `digits * 10 ^ exponent`, possibly negated. -/
structure Scientific where
  negative : Bool
  digits : Nat
  exponent : Int
  deriving DecidableEq

namespace Scientific

def magnitude (digits : Nat) (exponent : Int) : Float :=
  if digits = 0 then nearest 0 1
  else if 400 < exponent then infinity
  else if exponent < -(Int.ofNat (digits.log2 + 400)) then nearest 0 1
  else nearest (digits * Nat.pow 10 exponent.toNat) (Nat.pow 10 (-exponent).toNat)

def toFloat (number : Scientific) : Float :=
  let size := magnitude number.digits number.exponent
  if number.negative then -size else size

end Scientific

/-- The nearest binary64 number to a whole number. -/
def nearestWhole (n : Int) : Float :=
  let size := nearest n.natAbs 1
  if n < 0 then -size else size

/-- The digits of the decimal system's usual script. -/
def isPlainDigit (c : Char) : Bool :=
  '0' ≤ c && c ≤ '9'

def ofPlainDigits (digits : List Char) : Nat :=
  ofDigits (digits.map fun c => c.toNat - 48)

/-- Takes an optional sign off the front; the flag says whether it was a minus. -/
def splitSign : List Char → Bool × List Char
  | '-' :: rest => (true, rest)
  | '+' :: rest => (false, rest)
  | text => (false, text)

/-- Takes a complete exponent off the front, if there is one. -/
def exponent? : List Char → Option (Int × List Char)
  | [] => none
  | mark :: text =>
    if mark = 'e' || mark = 'E' then
      let (negative, unsigned) := splitSign text
      let digits := unsigned.takeWhile isPlainDigit
      if digits.isEmpty then none
      else
        let size : Int := ofPlainDigits digits
        some (if negative then -size else size, unsigned.dropWhile isPlainDigit)
    else none

/-- Takes a point and at least `least` digits off the front, if they are there. -/
def fraction? (least : Nat) : List Char → Option (List Char × List Char)
  | '.' :: text =>
    let digits := text.takeWhile isPlainDigit
    if digits.length < least then none else some (digits, text.dropWhile isPlainDigit)
  | _ => none

end BlockMachine.Number
