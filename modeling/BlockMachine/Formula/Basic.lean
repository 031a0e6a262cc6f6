/-!
Formulas over named variables and their values. Chains of equal rank nest to the
left, a sign applies to the operand behind it, and every operation is that of
binary64 arithmetic.
-/

namespace BlockMachine

inductive Sign
  | plus
  | minus
  deriving DecidableEq

inductive Scale
  | times
  | over
  deriving DecidableEq

/-- Division by zero gives an infinity, or no number when the dividend is zero or none itself. -/
def divide (left right : Float) : Float := left / right

def Sign.apply : Sign → Float → Float
  | .plus, x => x
  | .minus, x => -x

def Sign.combine : Sign → Float → Float → Float
  | .plus, x, y => x + y
  | .minus, x, y => x - y

def Scale.combine : Scale → Float → Float → Float
  | .times, x, y => x * y
  | .over, x, y => divide x y

inductive Formula
  | number (value : Float)
  | named (name : String)
  | signed (sign : Sign) (operand : Formula)
  | added (left : Formula) (sign : Sign) (right : Formula)
  | scaled (left : Formula) (scale : Scale) (right : Formula)

def Formula.value (read : String → Float) : Formula → Float
  | .number value => value
  | .named name => read name
  | .signed sign operand => sign.apply (operand.value read)
  | .added left sign right => sign.combine (left.value read) (right.value read)
  | .scaled left scale right => scale.combine (left.value read) (right.value read)

end BlockMachine
