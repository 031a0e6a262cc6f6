import BlockMachine.Block.Basic
import BlockMachine.Limit
import BlockMachine.Service.Problem

/-!
Requests to run a list of blocks. A request gives the blocks and, if it likes,
settings; flags on its blocks must be readable but count for nothing.
-/

namespace BlockMachine.Service

def trueWords : List String := ["1", "on", "t", "true", "y", "yes"]

def falseWords : List String := ["0", "off", "f", "false", "n", "no"]

def flagOfText? (text : String) : Option Bool :=
  let word := String.ofList (text.toList.map Char.toLower)
  if trueWords.contains word then some true
  else if falseWords.contains word then some false
  else none

/-- A truth value as it can be sent. -/
inductive FlagReading
  | flag (value : Bool)
  /-- A text or a machine integer, but none that stands for a truth value. -/
  | unreadable
  | unrelated
  deriving DecidableEq

def FlagReading.ofWhole (n : Int) : FlagReading :=
  if n = 0 then .flag false
  else if n = 1 then .flag true
  else if -9223372036854775808 ≤ n && n < 9223372036854775808 then .unreadable
  else .unrelated

/-- A number without a fraction counts as a machine integer strictly between the two ends. -/
def FlagReading.ofReal (x : Float) : FlagReading :=
  if x == 0.0 then .flag false
  else if x == 1.0 then .flag true
  else if -9223372036854775808.0 < x && x < 9223372036854775808.0 && x.floor == x then .unreadable
  else .unrelated

def FlagReading.ofJson : Json → FlagReading
  | .bool value => .flag value
  | .whole n => ofWhole n
  | .real x => ofReal x
  | .text value =>
    match flagOfText? value with
    | some spelled => .flag spelled
    | none => .unreadable
  | .null => .unrelated
  | .list _ => .unrelated
  | .object _ => .unrelated

def readFlag (place : List Step) (json : Json) : Checked Bool :=
  match FlagReading.ofJson json with
  | .flag value => .ok value
  | .unreadable => refuse .unreadableBool place json
  | .unrelated => refuse .notABool place json

def flagField (members : List (String × Json)) (place : List Step) : Checked Bool :=
  match members.lookup "has_error" with
  | none => .ok false
  | some value => readFlag (place ++ [.field "has_error"]) value

/-- The texts of a block of a known kind, and then its flag, which is dropped. -/
def readKind (members : List (String × Json)) (place : List Step) : String → Checked Block
  | "var_decl" =>
    let inside := place ++ [.field "var_decl"]
    (both (textField members inside "names") (flagField members inside)).map
      fun (names, _) => .declare names
  | "assignment" =>
    let inside := place ++ [.field "assignment"]
    (both (textField members inside "var_name")
      (both (textField members inside "expression") (flagField members inside))).map
        fun (target, expression, _) => .assign target expression
  | "if" =>
    let inside := place ++ [.field "if"]
    (both (textField members inside "left_expr")
      (both (textField members inside "op")
        (both (textField members inside "right_expr") (flagField members inside)))).map
          fun (left, comparison, right, _) => .branch left comparison right
  | _ => refuse .unknownKind place (.object members)

def readBlock (place : List Step) : Json → Checked Block
  | .object members =>
    match members.lookup "kind" with
    | none => refuse .noKind place (.object members)
    | some (.text kind) => readKind members place kind
    | some _ => refuse .unknownKind place (.object members)
  | other => refuse .notAnObject place other

structure RunRequest where
  blocks : List Block
  settings : Limit.Settings

namespace RunRequest

def readBlocks : Option Json → Checked (List Block)
  | none => .ok []
  | some (.list items) =>
    each (fun index => readBlock [.field "body", .field "blocks", .index index]) 0 items
  | some other => refuse .notAList [.field "body", .field "blocks"] other

/-- Null settings are no settings. -/
def readSettings : Option Json → Checked Limit.Settings
  | none => .ok []
  | some .null => .ok []
  | some (.object members) => .ok members
  | some other => refuse .notAMapping [.field "body", .field "settings"] other

def ofJson : Json → Checked RunRequest
  | .object members =>
    (both (readBlocks (members.lookup "blocks")) (readSettings (members.lookup "settings"))).map
      fun (blocks, settings) => ⟨blocks, settings⟩
  | other => refuse .notAnObject [.field "body"] other

end RunRequest

end BlockMachine.Service
