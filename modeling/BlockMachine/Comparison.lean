/-!
Comparisons of two values. Equality has two symbols and is exact; a value that
is no number differs from everything, itself included.
-/

namespace BlockMachine

inductive Comparison
  | greater
  | less
  | equal
  | different
  | atLeast
  | atMost
  deriving DecidableEq

namespace Comparison

def ofSymbol? : List Char → Option Comparison
  | ['>'] => some .greater
  | ['<'] => some .less
  | ['='] => some .equal
  | ['=', '='] => some .equal
  | ['!', '='] => some .different
  | ['>', '='] => some .atLeast
  | ['<', '='] => some .atMost
  | _ => none

def holds : Comparison → Float → Float → Bool
  | .greater, left, right => right < left
  | .less, left, right => left < right
  | .equal, left, right => left == right
  | .different, left, right => left != right
  | .atLeast, left, right => right ≤ left
  | .atMost, left, right => left ≤ right

end Comparison

end BlockMachine
