import BlockMachine.Json.Basic
import BlockMachine.Number.Spelled
import BlockMachine.Text.Quoted

/-!
The largest number of blocks a run may have. The server has a ceiling; a client
may ask for less in its settings, in any form that reads as a whole number, and
gets a limit between zero and the ceiling.
-/

namespace BlockMachine.Limit

/-- The values that are no number in any reading. -/
inductive Shape
  | null
  | list
  | object
  deriving DecidableEq

def Shape.word : Shape → String
  | .null => "NoneType"
  | .list => "list"
  | .object => "dict"

/-- Why a value does not read as a whole number. -/
inductive Fault
  | notNumeric (shape : Shape)
  | malformed (text : String)
  | tooLong (count : Nat)
  | infinite
  | notANumber
  /-- A setting of the environment cannot hold a null character. -/
  | embeddedNull
  deriving DecidableEq

/-- A text is shown quoted, and cut after this many characters. -/
def shownLength : Nat := 200

def Fault.message : Fault → String
  | .notNumeric shape =>
    "int() argument must be a string, a bytes-like object or a real number, not '" ++
      shape.word ++ "'"
  | .malformed text =>
    "invalid literal for int() with base 10: " ++
      String.ofList ((Text.quoted text.toList).take shownLength)
  | .tooLong count =>
    "Exceeds the limit (" ++ toString Number.Whole.maxDigits ++
      " digits) for integer string conversion: value has " ++ toString count ++
      " digits; use sys.set_int_max_str_digits() to increase the limit"
  | .infinite => "cannot convert float infinity to integer"
  | .notANumber => "cannot convert float NaN to integer"
  | .embeddedNull => "embedded null byte"

def wholeOfText (text : String) : Except Fault Int :=
  match Number.Whole.read text.toList with
  | .ok n => .ok n
  | .error .malformed => .error (.malformed text)
  | .error (.tooLong count) => .error (.tooLong count)

/-- Numbers with a fraction are cut toward zero, and the truth values count as one and zero. -/
def wholeOfJson : Json → Except Fault Int
  | .null => .error (.notNumeric .null)
  | .bool value => .ok (if value then 1 else 0)
  | .whole n => .ok n
  | .real x =>
    if x.isNaN then .error .notANumber
    else if x.isInf then .error .infinite
    else .ok (Number.truncate x)
  | .text value => wholeOfText value
  | .list _ => .error (.notNumeric .list)
  | .object _ => .error (.notNumeric .object)

abbrev Settings := List (String × Json)

/-- Without settings the ceiling itself is the limit, whatever its sign. -/
def cap (ceiling : Int) (settings : Settings) : Except Fault Int :=
  if settings.isEmpty then .ok ceiling
  else
    (wholeOfJson ((settings.lookup "max_blocks").getD (.whole ceiling))).map fun requested =>
      max 0 (min requested ceiling)

def defaultCeiling : Int := 10000

/-- The ceiling a server is configured with, if it is. -/
def ceilingOf : Option String → Except Fault Int
  | none => .ok defaultCeiling
  | some text =>
    if text.toList.contains '\x00' then .error .embeddedNull else wholeOfText text

end BlockMachine.Limit
