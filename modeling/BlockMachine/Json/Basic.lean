/-!
JSON values. Numbers written without a fraction or an exponent are whole and
exact; all others are binary64. Members keep the order of their first
appearance, and a repeated key takes its last value.
-/

namespace BlockMachine

inductive Json
  | null
  | bool (value : Bool)
  | whole (value : Int)
  | real (value : Float)
  | text (value : String)
  | list (items : List Json)
  | object (members : List (String × Json))

namespace Json

def setMember (members : List (String × Json)) (key : String) (value : Json) :
    List (String × Json) :=
  match members with
  | [] => [(key, value)]
  | (other, old) :: rest =>
    if other = key then (key, value) :: rest else (other, old) :: setMember rest key value

/-- JSON has no infinities and no "not a number"; they are sent as words. -/
def ofFloat (x : Float) : Json :=
  if x.isNaN then .text "nan"
  else if x.isInf then .text (if 0.0 < x then "inf" else "-inf")
  else .real x

mutual

/-- No infinity and no "not a number" stands anywhere in the value. -/
def isFinite : Json → Bool
  | .null => true
  | .bool _ => true
  | .whole _ => true
  | .real x => x.isFinite
  | .text _ => true
  | .list items => areFinite items
  | .object members => haveFinite members

def areFinite : List Json → Bool
  | [] => true
  | item :: rest => item.isFinite && areFinite rest

def haveFinite : List (String × Json) → Bool
  | [] => true
  | (_, value) :: rest => value.isFinite && haveFinite rest

end

/-- The members for which there is a value. -/
def present (members : List (String × Option Json)) : List (String × Json) :=
  members.filterMap fun (key, value?) => value?.map fun value => (key, value)

end Json

end BlockMachine
