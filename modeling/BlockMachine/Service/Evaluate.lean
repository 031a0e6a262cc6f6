import BlockMachine.Formula.Evaluate
import BlockMachine.Number.Spelled
import BlockMachine.Service.Problem

/-!
Requests to evaluate one expression in an environment that the request gives.
-/

namespace BlockMachine.Service

/-- A variable's value may be sent as a number, a truth value or a text that spells a number. -/
def readNumber (place : List Step) (json : Json) : Checked Float :=
  match json with
  | .real x => .ok x
  | .whole n =>
    let x := Number.nearestWhole n
    if x.isFinite then .ok x else refuse .notANumber place json
  | .bool value => .ok (if value then 1.0 else 0.0)
  | .text value =>
    match Number.Real.read? value.toList with
    | some x => .ok x
    | none => refuse .unreadableNumber place json
  | .null => refuse .notANumber place json
  | .list _ => refuse .notANumber place json
  | .object _ => refuse .notANumber place json

structure EvaluateRequest where
  expression : String
  env : Env

namespace EvaluateRequest

def readExpression (members : List (String × Json)) : Checked String :=
  match members.lookup "expression" with
  | none => refuse .missing [.field "body", .field "expression"] (.object members)
  | some (.text expression) => .ok expression
  | some other => refuse .notAText [.field "body", .field "expression"] other

def readVariables : Option Json → Checked Env
  | none => .ok .empty
  | some (.object members) =>
    (each (fun _ (name, value) =>
        (readNumber [.field "body", .field "variables", .field name] value).map (name, ·))
      0 members).map Env.mk
  | some other => refuse .notAMapping [.field "body", .field "variables"] other

def ofJson : Json → Checked EvaluateRequest
  | .object members =>
    (both (readExpression members) (readVariables (members.lookup "variables"))).map
      fun (expression, env) => ⟨expression, env⟩
  | other => refuse .notAnObject [.field "body"] other

end EvaluateRequest

def evaluate (request : EvaluateRequest) : Except Formula.Error Float :=
  Formula.evaluate request.env request.expression

def evaluationToJson : Except Formula.Error Float → Json
  | .ok value => .object [("value", Json.ofFloat value), ("errors", .null)]
  | .error error => .object [("value", .null), ("errors", error.diagnostic.toJson)]

end BlockMachine.Service
