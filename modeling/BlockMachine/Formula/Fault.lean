import BlockMachine.Json.Basic

/-!
What a caller is told about a failure, and what can be wrong with a formula. A
diagnostic has a stable code, a sentence, and, where they apply, the column in a
text, that text, and the name, character or symbol at fault. Columns of a formula
count from one, over the squeezed text.
-/

namespace BlockMachine

structure Diagnostic where
  code : String
  message : String
  column : Option Int := none
  text : Option String := none
  detail : Option String := none
  deriving DecidableEq

/-- Absent fields are left out; a zero column and an empty text are present. -/
def Diagnostic.members (diagnostic : Diagnostic) : List (String × Json) :=
  Json.present
    [("code", some (.text diagnostic.code)),
     ("message", some (.text diagnostic.message)),
     ("column", diagnostic.column.map .whole),
     ("text", diagnostic.text.map .text),
     ("detail", diagnostic.detail.map .text)]

def Diagnostic.toJson (diagnostic : Diagnostic) : Json :=
  .object diagnostic.members

namespace Formula

inductive Fault
  /-- An operand was expected at the end of the text. -/
  | missingOperand (column : Nat)
  /-- Something other than a closing parenthesis follows inside parentheses. -/
  | unclosed (column : Nat)
  | malformedNumber (column : Nat) (literal : List Char)
  | undefinedName (column : Nat) (name : List Char)
  /-- No operand starts with this character. -/
  | unexpected (column : Nat) (c : Char)
  /-- The formula is complete before this character. -/
  | trailing (column : Nat) (c : Char)
  | tooDeep
  deriving DecidableEq

namespace Fault

def code : Fault → String
  | missingOperand _ => "EMPTY_FACTOR"
  | unclosed _ => "UNBALANCED_PARENTHESES"
  | malformedNumber _ _ => "INVALID_NUMBER_FORMAT"
  | undefinedName _ _ => "UNDEFINED_VARIABLE"
  | unexpected _ _ => "UNEXPECTED_CHARACTER"
  | trailing _ _ => "TRAILING_INPUT"
  | tooDeep => "NESTING_TOO_DEEP"

def message : Fault → String
  | missingOperand _ => "Empty factor"
  | unclosed _ => "Missing closing parenthesis"
  | malformedNumber _ literal => "Invalid number format: " ++ String.ofList literal
  | undefinedName _ name => "Undefined variable '" ++ String.ofList name ++ "'"
  | unexpected _ c => "Unexpected character: " ++ String.singleton c
  | trailing _ c => "Unexpected character: " ++ String.singleton c
  | tooDeep => "Expression is nested too deeply"

def column? : Fault → Option Nat
  | missingOperand column => some column
  | unclosed column => some column
  | malformedNumber column _ => some column
  | undefinedName column _ => some column
  | unexpected column _ => some column
  | trailing column _ => some column
  | tooDeep => none

def detail? : Fault → Option String
  | malformedNumber _ literal => some (String.ofList literal)
  | undefinedName _ name => some (String.ofList name)
  | unexpected _ c => some (String.singleton c)
  | trailing _ c => some (String.singleton c)
  | missingOperand _ => none
  | unclosed _ => none
  | tooDeep => none

end Fault

/-- A fault together with the squeezed text it was found in. -/
structure Error where
  text : List Char
  fault : Fault
  deriving DecidableEq

def Error.diagnostic (error : Error) : Diagnostic where
  code := error.fault.code
  message := error.fault.message
  column := error.fault.column?.map Int.ofNat
  text := some (String.ofList error.text)
  detail := error.fault.detail?

end Formula

end BlockMachine
