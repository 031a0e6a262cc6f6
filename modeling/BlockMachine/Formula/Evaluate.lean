import BlockMachine.Env
import BlockMachine.Formula.Reader
import BlockMachine.Text.Blank

/-!
Evaluation of a formula's text in an environment. Blanks count for nothing, even
inside numbers and names, and the formula must fill the whole text.
-/

namespace BlockMachine.Formula

/-- The nesting cost a formula may reach. -/
def allowance : Nat := 1000

def parseWithin (allowance : Option Nat) (declared : String → Bool) (text : List Char) :
    Except Fault Formula :=
  match scan ⟨.sum, allowance, declared⟩ 1 .start text with
  | .error fault => .error fault
  | .ok (formula, []) => .ok formula
  | .ok (_, c :: rest) => .error (.trailing (text.length - rest.length) c)

def parse (declared : String → Bool) (text : List Char) : Except Fault Formula :=
  parseWithin (some allowance) declared text

/-- The value of a text that holds no blanks. -/
def evaluateText (env : Env) (text : List Char) : Except Error Float :=
  match parse env.declares text with
  | .ok formula => .ok (formula.value env.read)
  | .error fault => .error ⟨text, fault⟩

def evaluate (env : Env) (expression : String) : Except Error Float :=
  evaluateText env (Text.squeeze expression.toList)

end BlockMachine.Formula
