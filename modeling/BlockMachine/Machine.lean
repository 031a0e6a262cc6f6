import BlockMachine.Block.Basic

/-!
The machine that runs a list of blocks. A cursor walks the list from an empty
environment; a false condition moves it past the next block, if there is one,
and the first fault stops the run. A list may hold items of a foreign type: such
an item is refused only when the cursor reaches it. But before anything else the
error flags of all items are cleared, and an item that takes no flag keeps the
list from being run at all.
-/

namespace BlockMachine

inductive Item
  | block (block : Block)
  /-- An object of another type, which may or may not take an error flag. -/
  | foreign (typeName : String) (takesFlag : Bool := true)
  deriving DecidableEq

/-- The type of an item that takes no flag. -/
def Item.flagless? : Item → Option String
  | .foreign typeName false => some typeName
  | _ => none

theorem Item.flagless?_eq_some_iff {item : Item} {typeName : String} :
    item.flagless? = some typeName ↔ item = .foreign typeName false := by
  unfold flagless?
  split
  · simp
  · next other =>
    constructor
    · intro found
      cases found
    · intro same
      exact absurd same (other typeName)

def Item.takesFlag (item : Item) : Bool :=
  item.flagless?.isNone

namespace Machine

/-- Why a run ended before the end of the list. -/
inductive Halt
  | failed (index : Nat) (fault : Block.Fault)
  | overLimit (count : Nat) (limit : Int)
  deriving DecidableEq

structure Report where
  env : Env
  halt : Option Halt
  steps : Nat
  skipped : List Nat

/-- Why a list returns no report. -/
inductive Unsupported
  /-- An item takes no flag, so that its flag cannot be cleared. -/
  | noFlag (typeName : String)
  /-- The cursor stands on an item that is not a block. -/
  | noBlock (typeName : String)
  deriving DecidableEq

structure State where
  cursor : Nat
  env : Env
  steps : Nat
  skipped : List Nat

def State.start : State := ⟨0, .empty, 0, []⟩

def State.report (state : State) (halt : Option Halt) : Report :=
  ⟨state.env, halt, state.steps, state.skipped⟩

/-- The state after a block of a list of `count` items. -/
def State.after (state : State) (count : Nat) (effect : Block.Effect) : State :=
  if !effect.proceed && state.cursor + 1 < count then
    ⟨state.cursor + 2, effect.env, state.steps + 1, state.skipped ++ [state.cursor + 1]⟩
  else ⟨state.cursor + 1, effect.env, state.steps + 1, state.skipped⟩

theorem State.cursor_lt_after (state : State) (count : Nat) (effect : Block.Effect) :
    state.cursor < (state.after count effect).cursor := by
  unfold after
  split
  · exact Nat.lt_add_of_pos_right (by decide)
  · exact Nat.lt_add_one _

def runFrom (items : List Item) (state : State) : Except Unsupported Report :=
  if inside : state.cursor < items.length then
    match items[state.cursor] with
    | .foreign typeName _ => .error (.noBlock typeName)
    | .block block =>
      match block.perform state.env with
      | .error fault => .ok (state.report (some (.failed state.cursor fault)))
      | .ok effect => runFrom items (state.after items.length effect)
  else .ok (state.report none)
termination_by items.length - state.cursor
decreasing_by
  have := state.cursor_lt_after items.length effect
  omega

/-- The type of the first item that takes no flag. -/
def flagless? (items : List Item) : Option String :=
  items.findSome? Item.flagless?

/-- A list that can be cleared of its flags is refused as a whole when it is longer than the limit,
and run otherwise. -/
def execute (limit : Option Int) (items : List Item) : Except Unsupported Report :=
  match flagless? items, limit with
  | some typeName, _ => .error (.noFlag typeName)
  | none, none => runFrom items .start
  | none, some most =>
    if most < items.length then .ok (State.start.report (some (.overLimit items.length most)))
    else runFrom items .start

def Report.succeeded (report : Report) : Bool :=
  report.halt.isNone

def Halt.index? : Halt → Option Nat
  | .failed index _ => some index
  | .overLimit _ _ => none

def Report.failedIndex (report : Report) : Option Nat :=
  report.halt.bind Halt.index?

def Halt.diagnostic : Halt → Diagnostic
  | .failed _ fault => fault.diagnostic
  | .overLimit count limit =>
    { code := "BLOCK_LIMIT",
      message := "Too many blocks: " ++ toString count ++ " > " ++ toString limit }

def Halt.toJson (halt : Halt) : Json :=
  .object (halt.diagnostic.members ++
    [("block", (halt.index?.map fun index => .whole index).getD .null)])

def Unsupported.message : Unsupported → String
  | .noFlag typeName => "'" ++ typeName ++ "' object has no attribute 'has_error'"
  | .noBlock typeName => "Unsupported block type: " ++ typeName

end Machine

end BlockMachine
