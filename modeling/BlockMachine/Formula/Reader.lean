import BlockMachine.Formula.Basic
import BlockMachine.Formula.Fault
import BlockMachine.Number.Literal

/-!
Formulas are read one character at a time, by a machine whose state holds what
is still open: the chains and signs at each parenthesis level, and the number or
name being spelled. A text is thus refused at the first character that rules it
out, and what was read before depends on nothing that follows.
-/

namespace BlockMachine.Formula

/-- Which operators may extend a formula outside all parentheses. -/
inductive Level
  | operand
  | product
  | sum
  deriving DecidableEq

structure Rules where
  level : Level
  /-- The largest nesting cost, if there is one. -/
  allowance : Option Nat
  declared : String → Bool

/-- What stands before an awaited operand, at one parenthesis level. The last sign comes first. -/
structure Frame where
  sum : Option (Formula × Sign)
  product : Option (Formula × Scale)
  signs : List Sign

def Frame.empty : Frame := ⟨none, none, []⟩

/-- The product so far, once the operand is there. -/
def Frame.close (frame : Frame) (operand : Formula) : Formula :=
  let signed := frame.signs.foldl (fun inner sign => .signed sign inner) operand
  match frame.product with
  | none => signed
  | some (left, scale) => .scaled left scale signed

/-- What stands before an operator: a product, a sum it will join, the levels around it. -/
structure Chain where
  sum : Option (Formula × Sign)
  product : Formula
  outer : List Frame

def Chain.total (chain : Chain) : Formula :=
  match chain.sum with
  | none => chain.product
  | some (left, sign) => .added left sign chain.product

/-- Completes the operand awaited by `frame`. -/
def Frame.chain (frame : Frame) (operand : Formula) (outer : List Frame) : Chain :=
  ⟨frame.sum, frame.close operand, outer⟩

/-- The spelling of a number or name is kept last character first. -/
inductive State
  | operand (frame : Frame) (outer : List Frame)
  | number (frame : Frame) (outer : List Frame) (spelled : List Char)
  | name (frame : Frame) (outer : List Frame) (spelled : List Char)
  | operator (chain : Chain)

def State.start : State := .operand Frame.empty []

/-- Three for every open parenthesis and one for every sign that awaits its operand. -/
def cost (frame : Frame) (outer : List Frame) : Nat :=
  outer.foldr (fun level spent => spent + 3 + level.signs.length) frame.signs.length

inductive Move
  | go (state : State)
  | stop (formula : Formula)

def sign? (c : Char) : Option Sign :=
  if c = '+' then some .plus else if c = '-' then some .minus else none

def scale? (c : Char) : Option Scale :=
  if c = '*' then some .times else if c = '/' then some .over else none

def exceeds (allowance : Option Nat) (spent : Nat) : Bool :=
  match allowance with
  | none => false
  | some most => most < spent

/-- Nests one step deeper, if the allowance admits it. -/
def descend (rules : Rules) (frame : Frame) (outer : List Frame) : Except Fault Move :=
  if exceeds rules.allowance (cost frame outer) then .error .tooDeep
  else .ok (.go (.operand frame outer))

/-- A character where an operand is awaited. -/
def enter (rules : Rules) (column : Nat) (frame : Frame) (outer : List Frame) (c : Char) :
    Except Fault Move :=
  match sign? c with
  | some sign => descend rules { frame with signs := sign :: frame.signs } outer
  | none =>
    if c = '(' then descend rules Frame.empty (frame :: outer)
    else if Text.isNumeral c then .ok (.go (.number frame outer [c]))
    else if Text.isLetter c then .ok (.go (.name frame outer [c]))
    else .error (.unexpected column c)

/-- A character behind a complete operand. -/
def extend (rules : Rules) (column : Nat) (chain : Chain) (c : Char) : Except Fault Move :=
  match sign? c with
  | some sign =>
    if chain.outer.isEmpty && rules.level != .sum then .ok (.stop chain.total)
    else .ok (.go (.operand ⟨some (chain.total, sign), none, []⟩ chain.outer))
  | none =>
    match scale? c with
    | some scale =>
      if chain.outer.isEmpty && rules.level == .operand then .ok (.stop chain.total)
      else .ok (.go (.operand ⟨chain.sum, some (chain.product, scale), []⟩ chain.outer))
    | none =>
      match chain.outer with
      | [] => .ok (.stop chain.total)
      | frame :: outer =>
        if c = ')' then .ok (.go (.operator (frame.chain chain.total outer)))
        else .error (.unclosed column)

/-- The number spelled right before `column`. -/
def endNumber (column : Nat) (frame : Frame) (outer : List Frame) (spelled : List Char) :
    Except Fault Chain :=
  match Number.Literal.read? spelled.reverse with
  | some value => .ok (frame.chain (.number value) outer)
  | none => .error (.malformedNumber (column - spelled.length) spelled.reverse)

/-- The name spelled right before `column`. -/
def endName (rules : Rules) (column : Nat) (frame : Frame) (outer : List Frame)
    (spelled : List Char) : Except Fault Chain :=
  if rules.declared (String.ofList spelled.reverse) then
    .ok (frame.chain (.named (String.ofList spelled.reverse)) outer)
  else .error (.undefinedName (column - spelled.length) spelled.reverse)

def step (rules : Rules) (column : Nat) (state : State) (c : Char) : Except Fault Move :=
  match state with
  | .operand frame outer => enter rules column frame outer c
  | .number frame outer spelled =>
    if Text.isNumeral c then .ok (.go (.number frame outer (c :: spelled)))
    else (endNumber column frame outer spelled).bind (extend rules column · c)
  | .name frame outer spelled =>
    if Text.isNameChar c then .ok (.go (.name frame outer (c :: spelled)))
    else (endName rules column frame outer spelled).bind (extend rules column · c)
  | .operator chain => extend rules column chain c

/-- A complete formula, at the end of the text. -/
def conclude (column : Nat) (chain : Chain) : Except Fault Formula :=
  if chain.outer.isEmpty then .ok chain.total else .error (.unclosed column)

def finish (rules : Rules) (column : Nat) (state : State) : Except Fault Formula :=
  match state with
  | .operand _ _ => .error (.missingOperand column)
  | .number frame outer spelled =>
    (endNumber column frame outer spelled).bind (conclude column)
  | .name frame outer spelled =>
    (endName rules column frame outer spelled).bind (conclude column)
  | .operator chain => conclude column chain

/-- The longest formula at the front of the text, and the rest. -/
def scan (rules : Rules) (column : Nat) (state : State) :
    List Char → Except Fault (Formula × List Char)
  | [] => (finish rules column state).map fun formula => (formula, [])
  | c :: text =>
    match step rules column state c with
    | .error fault => .error fault
    | .ok (.stop formula) => .ok (formula, c :: text)
    | .ok (.go next) => scan rules (column + 1) next text

end BlockMachine.Formula
