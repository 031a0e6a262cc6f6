import BlockMachine.Json.Basic

/-!
What a request body can get wrong, and where. Every problem shows the part of
the body it is about. Checks of several fields are combined so that all problems
are listed, in the order of the fields.
-/

namespace BlockMachine.Service

/-- One step on the way to a part of the body. -/
inductive Step
  | field (name : String)
  | index (i : Nat)
  deriving DecidableEq

inductive Mistake
  | missing
  | notJson
  | notAnObject
  | notAList
  | notAMapping
  | noKind
  | unknownKind
  | notAText
  | notABool
  | unreadableBool
  | notANumber
  | unreadableNumber
  deriving DecidableEq

def Mistake.word : Mistake → String
  | .missing => "missing"
  | .notJson => "json_invalid"
  | .notAnObject => "model_attributes_type"
  | .notAList => "list_type"
  | .notAMapping => "dict_type"
  | .noKind => "union_tag_not_found"
  | .unknownKind => "union_tag_invalid"
  | .notAText => "string_type"
  | .notABool => "bool_type"
  | .unreadableBool => "bool_parsing"
  | .notANumber => "float_type"
  | .unreadableNumber => "float_parsing"

structure Problem where
  mistake : Mistake
  place : List Step
  /-- The value found there, or the one that lacks what is missing. -/
  input : Json

def Step.toJson : Step → Json
  | .field name => .text name
  | .index i => .whole i

def Problem.toJson (problem : Problem) : Json :=
  .object [("type", .text problem.mistake.word), ("loc", .list (problem.place.map Step.toJson)),
    ("input", problem.input)]

abbrev Checked (α : Type) := Except (List Problem) α

def refuse {α : Type} (mistake : Mistake) (place : List Step) (input : Json) : Checked α :=
  .error [⟨mistake, place, input⟩]

/-- Both values, or the problems of either. -/
def both {α β : Type} : Checked α → Checked β → Checked (α × β)
  | .ok a, .ok b => .ok (a, b)
  | .ok _, .error problems => .error problems
  | .error problems, .ok _ => .error problems
  | .error problems, .error more => .error (problems ++ more)

/-- All values of a list, or all their problems. -/
def each {α β : Type} (check : Nat → α → Checked β) : Nat → List α → Checked (List β)
  | _, [] => .ok []
  | index, item :: rest =>
    (both (check index item) (each check (index + 1) rest)).map fun (value, values) =>
      value :: values

/-- A text; an absent one is empty. -/
def textField (members : List (String × Json)) (place : List Step) (name : String) :
    Checked String :=
  match members.lookup name with
  | none => .ok ""
  | some (.text value) => .ok value
  | some other => refuse .notAText (place ++ [.field name]) other

end BlockMachine.Service
