import BlockMachine.Json.Token

/-!
JSON values from their tokens, by a machine that keeps the lists and objects
still open. The first token that cannot stand where it does decides the failure.
-/

namespace BlockMachine.Json

inductive ReadFault
  /-- The bytes are no text in their encoding. -/
  | undecodable
  | malformed
  /-- The text is beyond what is converted: too deep, or a whole number too long. -/
  | beyondLimits
  deriving DecidableEq

/-- An open list or object; the value now being read belongs to it. Items stand last first. -/
inductive Holder
  | list (items : List Json)
  | object (members : List (String × Json)) (key : String)

inductive Position
  | value (outer : List Holder)
  | firstItem (outer : List Holder)
  | firstKey (outer : List Holder)
  | key (members : List (String × Json)) (outer : List Holder)
  | colon (members : List (String × Json)) (key : String) (outer : List Holder)
  | complete (value : Json) (outer : List Holder)

def maxDepth : Nat := 950

def descend (outer : List Holder) (next : Position) : Except ReadFault Position :=
  if maxDepth ≤ outer.length then .error .beyondLimits else .ok next

def readValue (outer : List Holder) : Token → Except ReadFault Position
  | .scalar value => .ok (.complete value outer)
  | .text value => .ok (.complete (.text value) outer)
  | .openList => descend outer (.firstItem outer)
  | .openObject => descend outer (.firstKey outer)
  | .oversized => .error .beyondLimits
  | _ => .error .malformed

def advance : Position → Token → Except ReadFault Position
  | .value outer, token => readValue outer token
  | .firstItem outer, .closeList => .ok (.complete (.list []) outer)
  | .firstItem outer, token => readValue (.list [] :: outer) token
  | .firstKey outer, .closeObject => .ok (.complete (.object []) outer)
  | .firstKey outer, .text key => .ok (.colon [] key outer)
  | .key members outer, .text key => .ok (.colon members key outer)
  | .colon members key outer, .colon => .ok (.value (.object members key :: outer))
  | .complete value (.list items :: outer), .comma => .ok (.value (.list (value :: items) :: outer))
  | .complete value (.list items :: outer), .closeList =>
    .ok (.complete (.list (value :: items).reverse) outer)
  | .complete value (.object members key :: outer), .comma =>
    .ok (.key (setMember members key value) outer)
  | .complete value (.object members key :: outer), .closeObject =>
    .ok (.complete (.object (setMember members key value)) outer)
  | _, _ => .error .malformed

def assemble : Position → List Token → Except ReadFault Json
  | .complete value [], [] => .ok value
  | _, [] => .error .malformed
  | position, token :: rest =>
    match advance position token with
    | .error fault => .error fault
    | .ok next => assemble next rest

def read (source : List Char) : Except ReadFault Json :=
  assemble (.value []) (tokens .between source)

def readBytes (bytes : List UInt8) : Except ReadFault Json :=
  match Text.decode? bytes with
  | none => .error .undecodable
  | some source => read source

end BlockMachine.Json
