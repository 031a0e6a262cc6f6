import BlockMachine.Machine

/-!
A sheet is a list of places, each with an item and an error flag, that is edited
and run again and again. One and the same item may stand at several places: they
carry one label, and what is done to the item shows at all of them. A run first
clears every flag and then flags the block that stopped it. An item that takes no
flag ends the clearing where it stands, and the run with it.
-/

namespace BlockMachine

def Item.set (item : Item) (field : Block.Field) (value : String) : Item :=
  match item with
  | .block inner => .block (inner.set field value)
  | .foreign typeName takesFlag => .foreign typeName takesFlag

structure Slot where
  label : Nat
  item : Item
  flagged : Bool
  deriving DecidableEq

structure Sheet where
  slots : List Slot
  deriving DecidableEq

namespace Sheet

def items (sheet : Sheet) : List Item :=
  sheet.slots.map Slot.item

def flags (sheet : Sheet) : List Bool :=
  sheet.slots.map Slot.flagged

/-- Changes the item that stands at a place, wherever else it stands. -/
def updateAt (sheet : Sheet) (index : Nat) (change : Slot → Slot) : Sheet :=
  match sheet.slots[index]? with
  | none => sheet
  | some target =>
    ⟨sheet.slots.map fun slot => if slot.label = target.label then change slot else slot⟩

def setFlag (sheet : Sheet) (index : Nat) (flagged : Bool) : Sheet :=
  sheet.updateAt index fun slot => { slot with flagged := flagged }

def setField (sheet : Sheet) (index : Nat) (field : Block.Field) (value : String) : Sheet :=
  sheet.updateAt index fun slot => { slot with item := slot.item.set field value }

/-- The places in front of the first item that takes no flag. -/
def clearable (sheet : Sheet) : List Slot :=
  sheet.slots.takeWhile fun slot => slot.item.takesFlag

/-- Clears the flags of the items in front of the first one that takes none, wherever else they
stand. -/
def clear (sheet : Sheet) : Sheet :=
  ⟨sheet.slots.map fun slot =>
    if slot.label ∈ sheet.clearable.map Slot.label then { slot with flagged := false } else slot⟩

/-- What is put at a place: a new item, or the one that stands elsewhere on the sheet. -/
inductive Entry
  | new (item : Item) (flagged : Bool)
  | shared (index : Nat)
  deriving DecidableEq

def freshLabel (sheet : Sheet) : Nat :=
  sheet.slots.foldl (fun bound slot => max bound (slot.label + 1)) 0

def slotFor (sheet : Sheet) : Entry → Option Slot
  | .new item flagged => some ⟨sheet.freshLabel, item, flagged⟩
  | .shared index => sheet.slots[index]?

def insert (sheet : Sheet) (index : Nat) (entry : Entry) : Sheet :=
  match sheet.slotFor entry with
  | none => sheet
  | some slot => ⟨sheet.slots.insertIdx index slot⟩

def ofEntries (entries : List Entry) : Sheet :=
  entries.foldl (fun sheet entry => sheet.insert sheet.slots.length entry) ⟨[]⟩

/-- A sheet on which no two places share a block. -/
def ofBlocks (blocks : List Block) : Sheet :=
  ⟨blocks.mapIdx fun index block => ⟨index, .block block, false⟩⟩

def remove (sheet : Sheet) (index : Nat) : Sheet :=
  ⟨sheet.slots.eraseIdx index⟩

def execute (limit : Option Int) (sheet : Sheet) :
    Except Machine.Unsupported Machine.Report × Sheet :=
  match Machine.execute limit sheet.items with
  | .error unsupported => (.error unsupported, sheet.clear)
  | .ok report =>
    match report.failedIndex with
    | none => (.ok report, sheet.clear)
    | some index => (.ok report, sheet.clear.setFlag index true)

/-- Runs the sheet for its final environment alone. -/
def run (limit : Option Int) (sheet : Sheet) : Except Machine.Unsupported Env × Sheet :=
  let (result, after) := sheet.execute limit
  (result.map Machine.Report.env, after)

/-- The sheet as data, unless a foreign item stands on it. -/
def toJson? (sheet : Sheet) : Option (List Json) :=
  sheet.slots.mapM fun slot =>
    match slot.item with
    | .block block => some (block.toJson slot.flagged)
    | .foreign _ _ => none

end Sheet

end BlockMachine
