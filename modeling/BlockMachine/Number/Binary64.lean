/-!
Binary64 words in exact arithmetic. Every finite magnitude is a whole number of
units of 2^-1074. A word above zero is `scale * 2^52 + significand`, where the
significand counts steps of `2^scale` units; a significand that rounds up to
2^53 carries into the next scale by itself, and past the last scale the word is
that of infinity.
-/

namespace BlockMachine.Number

/-- The quotient rounded to the nearest whole number, a tie to the even one. -/
def roundDiv (n d : Nat) : Nat :=
  let twice := 2 * (n % d)
  if twice < d then n / d
  else if d < twice then n / d + 1
  else n / d + n / d % 2

def infinityWord : Nat := 0x7FF0000000000000

/-- The word of the nearest binary64 number to `n / d`, for `d` above zero. -/
def nearestWord (n d : Nat) : Nat :=
  let units := n * Nat.pow 2 1074
  let scale := (units / d).log2 - 52
  min (scale * Nat.pow 2 52 + roundDiv units (d * Nat.pow 2 scale)) infinityWord

def ofWord (word : Nat) : Float :=
  Float.ofBits (UInt64.ofNat word)

def nearest (n d : Nat) : Float :=
  ofWord (nearestWord n d)

def infinity : Float := ofWord infinityWord

def notANumber : Float := infinity - infinity

/-- The magnitude of a finite word, in units of 2^-1074. -/
def unitsOfWord (word : Nat) : Nat :=
  let scale := word / Nat.pow 2 52 % Nat.pow 2 11
  let fraction := word % Nat.pow 2 52
  if scale = 0 then fraction else (Nat.pow 2 52 + fraction) * Nat.pow 2 (scale - 1)

def isNegativeWord (word : Nat) : Bool :=
  word / Nat.pow 2 63 % 2 == 1

/-- A finite number without its fraction. -/
def truncate (x : Float) : Int :=
  let word := x.toBits.toNat
  let whole : Int := Int.ofNat (unitsOfWord word / Nat.pow 2 1074)
  if isNegativeWord word then -whole else whole

end BlockMachine.Number
