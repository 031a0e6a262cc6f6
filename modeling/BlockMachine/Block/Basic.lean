import BlockMachine.Comparison
import BlockMachine.Formula.Evaluate

/-!
The three kinds of block and what each does to the environment. A block is
checked before it changes anything: all names of a declaration are valid before
one is declared, and a value is computed before it is stored. As data a block has
its kind, its texts and its flag.
-/

namespace BlockMachine

inductive Block
  /-- Declares the names in a list separated by commas. -/
  | declare (names : String)
  | assign (target expression : String)
  /-- Compares two expressions; when the comparison is false the next block is skipped. -/
  | branch (left comparison right : String)
  deriving DecidableEq

namespace Block

inductive Fault
  | noNames
  | invalidName (name : String)
  | undeclared (name : String)
  | invalidComparison (symbol : String)
  | formula (error : Formula.Error)
  deriving DecidableEq

def Fault.diagnostic : Fault → Diagnostic
  | .noNames =>
    { code := "EMPTY_VARIABLE_LIST", message := "No variable names given" }
  | .invalidName name =>
    { code := "INVALID_VARIABLE_NAME", message := "Invalid variable name: " ++ name,
      detail := some name }
  | .undeclared name =>
    { code := "UNDECLARED_VARIABLE", message := "Variable '" ++ name ++ "' is not declared",
      detail := some name }
  | .invalidComparison symbol =>
    { code := "INVALID_COMPARISON_OPERATOR",
      message := "Invalid comparison operator: " ++ symbol, detail := some symbol }
  | .formula error => error.diagnostic

/-- The parts of a text between its commas; a text without a comma is one part. -/
def pieces : List Char → List (List Char)
  | [] => [[]]
  | c :: rest =>
    if c = ',' then [] :: pieces rest
    else
      match pieces rest with
      | [] => [[c]]
      | piece :: more => (c :: piece) :: more

/-- The names a list gives, blank parts left out. -/
def givenNames (names : String) : List (List Char) :=
  ((pieces names.toList).map Text.trim).filter fun name => !name.isEmpty

def parseNames (names : String) : Except Fault (List String) :=
  let given := givenNames names
  if given.isEmpty then .error .noNames
  else
    match given.find? fun name => !name.all Text.isPlainLetter with
    | some name => .error (.invalidName (String.ofList name))
    | none => .ok (given.map String.ofList)

def compare (left : Float) (symbol : String) (right : Float) : Except Fault Bool :=
  match Comparison.ofSymbol? (Text.trim symbol.toList) with
  | some comparison => .ok (comparison.holds left right)
  | none => .error (.invalidComparison symbol)

/-- The environment after a block, and whether the next block is to run. -/
structure Effect where
  env : Env
  proceed : Bool

def evaluate (env : Env) (expression : String) : Except Fault Float :=
  (Formula.evaluate env expression).mapError .formula

def perform (env : Env) : Block → Except Fault Effect
  | .declare names =>
    (parseNames names).map fun given => ⟨env.declareAll given, true⟩
  | .assign target expression =>
    let name := String.ofList (Text.trim target.toList)
    if env.declares name then
      (evaluate env expression).map fun value => ⟨env.assign name value, true⟩
    else .error (.undeclared name)
  | .branch left symbol right =>
    (evaluate env left).bind fun leftValue =>
      (evaluate env right).bind fun rightValue =>
        (compare leftValue symbol rightValue).map fun holds => ⟨env, holds⟩

/-- The texts a block is made of. -/
inductive Field
  | names
  | target
  | expression
  | left
  | comparison
  | right
  deriving DecidableEq

/-- Replaces one text; a block without that field stays as it is. -/
def set (field : Field) (value : String) : Block → Block
  | .declare names =>
    if field = .names then .declare value else .declare names
  | .assign target expression =>
    match field with
    | .target => .assign value expression
    | .expression => .assign target value
    | _ => .assign target expression
  | .branch left comparison right =>
    match field with
    | .left => .branch value comparison right
    | .comparison => .branch left value right
    | .right => .branch left comparison value
    | _ => .branch left comparison right

def toJson (block : Block) (flagged : Bool) : Json :=
  match block with
  | .declare names =>
    .object [("kind", .text "var_decl"), ("names", .text names), ("has_error", .bool flagged)]
  | .assign target expression =>
    .object [("kind", .text "assignment"), ("var_name", .text target),
      ("expression", .text expression), ("has_error", .bool flagged)]
  | .branch left comparison right =>
    .object [("kind", .text "if"), ("left_expr", .text left), ("op", .text comparison),
      ("right_expr", .text right), ("has_error", .bool flagged)]

end Block

end BlockMachine
