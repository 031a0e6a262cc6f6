import BlockMachine.Proofs.NameLists
import BlockMachine.Proofs.RenamedReading
import Mathlib.Logic.Equiv.Basic

/-!
Runs under a renaming. Names are renamed wherever a block has them: in the list of
a declaration, in the target of an assignment, and in expressions. Each block of
the renamed list then does to the renamed environment what it did before, so the
run takes the same steps and ends at the same place, and only the names in its
environment are new.
-/

namespace BlockMachine

namespace Renaming

/-- Renames a plain name between blanks, which stay; any other text stays as a whole. -/
def padded (r : Renaming) (text : List Char) : List Char :=
  if PlainName (String.ofList (Text.trim text)) then
    text.takeWhile Text.isBlank ++
      (r.spell (Text.trim text) ++ (text.reverse.takeWhile Text.isBlank).reverse)
  else text

theorem trim_padded (r : Renaming) (text : List Char) :
    Text.trim (r.padded text) = r.spell (Text.trim text) := by
  rcases r.spell_cases (Text.trim text) with ⟨plain, -, letters⟩ | ⟨other, kept⟩
  · rw [padded, if_pos plain]
    apply Text.Trims.trimBy_eq
    apply Text.trims_of_kept
    · exact List.all_eq_true.1 List.all_takeWhile
    · intro c member
      exact List.all_eq_true.1 List.all_takeWhile c (List.mem_reverse.1 member)
    · intro c member
      exact Text.isBlank_of_isPlainLetter (letters c member)
  · rw [padded, if_neg other, kept]

theorem comma_not_mem_padded (r : Renaming) {text : List Char} (whole : ',' ∉ text) :
    ',' ∉ r.padded text := by
  rcases r.spell_cases (Text.trim text) with ⟨plain, -, letters⟩ | ⟨other, -⟩
  · rw [padded, if_pos plain]
    intro member
    rcases List.mem_append.1 member with front | later
    · exact whole ((List.takeWhile_sublist _).subset front)
    · rcases List.mem_append.1 later with name | back
      · exact absurd (letters _ name) (by decide)
      · rw [List.mem_reverse] at back
        exact whole (List.mem_reverse.1 ((List.takeWhile_sublist _).subset back))
  · rw [padded, if_neg other]
    exact whole

theorem isEmpty_spell (r : Renaming) (spelled : List Char) :
    (r.spell spelled).isEmpty = spelled.isEmpty := by
  rcases r.spell_cases spelled with ⟨plain, nonempty, -⟩ | ⟨-, kept⟩
  · have old := plain.1
    rw [String.toList_ofList] at old
    rw [List.isEmpty_eq_false_iff.2 nonempty, List.isEmpty_eq_false_iff.2 old]
  · rw [kept]

theorem all_isPlainLetter_spell (r : Renaming) (spelled : List Char) :
    (r.spell spelled).all Text.isPlainLetter = spelled.all Text.isPlainLetter := by
  rcases r.spell_cases spelled with ⟨plain, -, letters⟩ | ⟨-, kept⟩
  · have old := plain.2
    rw [String.toList_ofList] at old
    rw [List.all_eq_true.2 letters, List.all_eq_true.2 old]
  · rw [kept]

/-- Renames the names in a list of names. -/
def list (r : Renaming) (names : String) : String :=
  String.ofList (List.intercalate [','] ((Block.pieces names.toList).map r.padded))

theorem givenNames_list (r : Renaming) (names : String) :
    Block.givenNames (r.list names) = (Block.givenNames names).map r.spell := by
  have parts : Block.pieces (r.list names).toList =
      (Block.pieces names.toList).map r.padded := by
    rw [list, String.toList_ofList]
    apply Block.pieces_intercalate
    · simpa using Block.pieces_ne_nil names.toList
    · intro part member
      obtain ⟨piece, listed, rfl⟩ := List.mem_map.1 member
      exact r.comma_not_mem_padded (Block.comma_not_mem_pieces listed)
  have trimmed : ((Block.pieces names.toList).map r.padded).map Text.trim =
      ((Block.pieces names.toList).map Text.trim).map r.spell := by
    simp only [List.map_map, Function.comp_def, r.trim_padded]
  rw [Block.givenNames, parts, trimmed, List.filter_map]
  simp only [Function.comp_def, r.isEmpty_spell]
  rfl

end Renaming

namespace Env

theorem declare_rename (r : Renaming) (env : Env) (name : String) :
    (env.rename r).declare (r.on name) = (env.declare name).rename r := by
  rw [declare, declare, declares_rename]
  split
  · rfl
  · simp [rename]

theorem declareAll_rename (r : Renaming) (env : Env) (names : List String) :
    (env.rename r).declareAll (names.map r.on) = (env.declareAll names).rename r := by
  induction names generalizing env with
  | nil => rfl
  | cons name rest ih =>
    have first : ∀ (env : Env) (name : String) (rest : List String),
        env.declareAll (name :: rest) = (env.declare name).declareAll rest := fun _ _ _ => rfl
    rw [List.map_cons, first, declare_rename, ih, first]

theorem assign_rename (r : Renaming) (env : Env) (name : String) (value : Float) :
    (env.rename r).assign (r.on name) value = (env.assign name value).rename r := by
  simp only [assign, rename, List.map_map]
  congr 1
  apply List.map_congr_left
  rintro ⟨key, x⟩ _
  by_cases same : key = name
  · simp [same]
  · have apart : r.on key ≠ r.on name := fun equal => same (r.on_injective equal)
    simp [same, apart]

end Env

namespace Block

def rename (r : Renaming) : Block → Block
  | .declare names => .declare (r.list names)
  | .assign target expression =>
    .assign (String.ofList (r.padded target.toList)) (r.expression expression)
  | .branch left symbol right => .branch (r.expression left) symbol (r.expression right)

abbrev Fault.code (fault : Fault) : String :=
  fault.diagnostic.code

theorem parseNames_alike (r : Renaming) (names : String) :
    Corresponds Fault.code (fun given other => other = given.map r.on) (parseNames names)
      (parseNames (r.list names)) := by
  have invalid : ∀ given : List (List Char),
      ((given.map r.spell).find? fun name => !name.all Text.isPlainLetter) =
        (given.find? fun name => !name.all Text.isPlainLetter).map r.spell := by
    intro given
    rw [List.find?_map]
    simp only [Function.comp_def, r.all_isPlainLetter_spell]
  simp only [parseNames, r.givenNames_list, List.isEmpty_map, invalid]
  split
  · exact .error rfl
  · cases (givenNames names).find? fun name => !name.all Text.isPlainLetter with
    | some name => exact .error (by simp only [Fault.code, Fault.diagnostic])
    | none =>
      refine .ok ?_
      simp only [List.map_map, Function.comp_def, r.ofList_spell]

theorem evaluate_alike (r : Renaming) (env : Env) (expression : String) :
    Corresponds Fault.code Eq (evaluate env expression)
      (evaluate (env.rename r) (r.expression expression)) := by
  have alike := Formula.evaluate_alike r env expression
  unfold evaluate
  generalize Formula.evaluate env expression = here at alike
  generalize Formula.evaluate (env.rename r) (r.expression expression) = there at alike
  cases alike with
  | ok same => exact .ok same
  | error same => exact .error same

def Effect.rename (r : Renaming) (effect : Effect) : Effect :=
  ⟨effect.env.rename r, effect.proceed⟩

/-- A renamed block does to the renamed environment what it did before. -/
theorem perform_alike (r : Renaming) (env : Env) (block : Block) :
    Corresponds Fault.code (fun effect other => other = effect.rename r) (block.perform env)
      ((block.rename r).perform (env.rename r)) := by
  cases block with
  | declare names =>
    simp only [rename, perform]
    refine (parseNames_alike r names).map ?_
    rintro given other rfl
    rw [Env.declareAll_rename]
    rfl
  | assign target expression =>
    have name : String.ofList (Text.trim (String.ofList (r.padded target.toList)).toList) =
        r.on (String.ofList (Text.trim target.toList)) := by
      rw [String.toList_ofList, r.trim_padded, r.ofList_spell]
    simp only [rename, perform, name, Env.declares_rename]
    split
    · refine (evaluate_alike r env expression).map ?_
      rintro value other rfl
      rw [Env.assign_rename]
      rfl
    · exact .error (by simp only [Fault.code, Fault.diagnostic])
  | branch left symbol right =>
    simp only [rename, perform]
    refine (evaluate_alike r env left).bind ?_
    rintro x other rfl
    refine (evaluate_alike r env right).bind ?_
    rintro y other rfl
    cases compare x symbol y with
    | error fault => exact .error rfl
    | ok holds => exact .ok rfl

end Block

def Item.rename (r : Renaming) : Item → Item
  | .block inner => .block (inner.rename r)
  | .foreign typeName takesFlag => .foreign typeName takesFlag

theorem Item.flagless?_rename (r : Renaming) (item : Item) :
    (item.rename r).flagless? = item.flagless? := by
  cases item with
  | block inner => rfl
  | foreign typeName takesFlag => rfl

namespace Machine

theorem flagless?_rename (r : Renaming) (items : List Item) :
    flagless? (items.map (Item.rename r)) = flagless? items := by
  simp only [flagless?, List.findSome?_map, Function.comp_def, Item.flagless?_rename]

def State.rename (r : Renaming) (state : State) : State :=
  { state with env := state.env.rename r }

theorem State.after_rename (r : Renaming) (state : State) (count : Nat) (effect : Block.Effect) :
    (state.rename r).after count (effect.rename r) = (state.after count effect).rename r := by
  unfold State.after
  by_cases skips : (!effect.proceed && state.cursor + 1 < count) = true
  · rw [if_pos skips]
    exact if_pos skips
  · rw [if_neg skips]
    exact if_neg skips

/-- The same run under other names; the texts of its fault are its own. -/
structure Report.Renamed (r : Renaming) (report other : Report) : Prop where
  env : other.env = report.env.rename r
  steps : other.steps = report.steps
  skipped : other.skipped = report.skipped
  failedIndex : other.failedIndex = report.failedIndex
  code : (other.halt.map fun halt => halt.diagnostic.code) =
    report.halt.map fun halt => halt.diagnostic.code

abbrev OutcomesAlike (r : Renaming) : Outcome → Outcome → Prop :=
  Corresponds id (Report.Renamed r)

/-- The cursors move through a list and the renamed list in step. -/
theorem runFrom_alike (r : Renaming) (items : List Item) (state : State) :
    OutcomesAlike r (runFrom items state)
      (runFrom (items.map (Item.rename r)) (state.rename r)) := by
  have turn : ∀ {state : State} {item : Item}, items[state.cursor]? = some item →
      (items.map (Item.rename r))[(state.rename r).cursor]? = some (item.rename r) := by
    intro state item found
    rw [List.getElem?_map]
    exact congrArg (Option.map (Item.rename r)) found
  -- the induction is on the run of the list; the renamed one has its turns at the same places
  fun_induction runFrom items state with
  | case1 state inside typeName takesFlag present =>
    have found := turn (List.getElem?_eq_some_iff.2 ⟨inside, present⟩)
    rw [(Ends.foreign found).runFrom_eq]
    exact .error rfl
  | case2 state inside block present fault fails =>
    have found := turn (List.getElem?_eq_some_iff.2 ⟨inside, present⟩)
    have alike := Block.perform_alike r state.env block
    rw [fails] at alike
    generalize renamed : (block.rename r).perform (state.env.rename r) = other at alike
    cases alike with
    | error same =>
      rw [(Ends.failed found renamed).runFrom_eq]
      exact .ok ⟨rfl, rfl, rfl, rfl, congrArg some same⟩
  | case3 state inside block present effect performs ih =>
    have found := turn (List.getElem?_eq_some_iff.2 ⟨inside, present⟩)
    have alike := Block.perform_alike r state.env block
    rw [performs] at alike
    generalize renamed : (block.rename r).perform (state.env.rename r) = other at alike
    cases alike with
    | ok related =>
      rw [related] at renamed
      rw [runFrom_of_turn found renamed, State.after_rename, List.length_map]
      exact ih
  | case4 state outside =>
    have beyond : (items.map (Item.rename r)).length ≤ (state.rename r).cursor := by
      rw [List.length_map]
      exact Nat.not_lt.1 outside
    rw [(Ends.done beyond).runFrom_eq]
    exact .ok ⟨rfl, rfl, rfl, rfl, rfl⟩

theorem execute_alike (r : Renaming) (limit : Option Int) (items : List Item) :
    OutcomesAlike r (execute limit items) (execute limit (items.map (Item.rename r))) := by
  have ran := runFrom_alike r items .start
  rw [show State.rename r .start = .start from rfl] at ran
  simp only [execute, flagless?_rename, List.length_map]
  split
  · exact .error rfl
  · exact ran
  · split
    · exact .ok ⟨rfl, rfl, rfl, rfl, rfl⟩
    · exact ran

/-- A list with its names renamed runs as before: it takes the same steps, skips the same
positions and stops at the same one with the same code, and what it leaves is the old
environment under the new names. -/
theorem execute_rename (r : Renaming) (limit : Option Int) (items : List Item) :
    (∀ report, execute limit items = .ok report →
      ∃ renamed, execute limit (items.map (Item.rename r)) = .ok renamed ∧
        renamed.steps = report.steps ∧ renamed.skipped = report.skipped ∧
        renamed.failedIndex = report.failedIndex ∧
        (renamed.halt.map fun halt => halt.diagnostic.code) =
          (report.halt.map fun halt => halt.diagnostic.code) ∧
        renamed.env.entries = report.env.entries.map (fun (name, x) => (r.on name, x)) ∧
        ∀ name ∈ report.env.names, ∃ plain : PlainName name,
          r.on name = r.apply ⟨name, plain⟩) ∧
    ∀ unsupported, execute limit items = .error unsupported →
      execute limit (items.map (Item.rename r)) = .error unsupported := by
  have alike := execute_alike r limit items
  constructor
  · intro report ran
    obtain ⟨turns, state, trace, told, -⟩ := exists_trace_of_execute ran
    have plainNames : ∀ name ∈ report.env.names, PlainName name := by
      rw [told]
      exact trace.names_plain
    rw [ran] at alike
    generalize execute limit (items.map (Item.rename r)) = outcome at alike
    cases alike with
    | @ok _ renamed related =>
      refine ⟨renamed, rfl, related.steps, related.skipped, related.failedIndex, related.code,
        congrArg Env.entries related.env, ?_⟩
      intro name member
      exact ⟨plainNames name member, r.on_of_plainName (plainNames name member)⟩
  · intro unsupported stopped
    rw [stopped] at alike
    generalize execute limit (items.map (Item.rename r)) = outcome at alike
    cases alike with
    | @error _ other same => rw [show other = unsupported from same]

/-- `x` and `nan` change places; the second block reads a name of neither list and fails in both. -/
theorem x_swapped_with_nan :
    let x : {name : String // PlainName name} := ⟨"x", by decide +kernel⟩
    let nan : {name : String // PlainName name} := ⟨"nan", by decide +kernel⟩
    let r : Renaming := ⟨Equiv.swap x nan, Equiv.injective _⟩
    let items : List Item := [.block (.declare " x ,y"), .block (.assign "x" "y * z2")]
    let others : List Item := [.block (.declare " nan ,y"), .block (.assign "nan" "y*z2")]
    items.map (Item.rename r) = others ∧
      ∃ renamed, execute none others = .ok renamed ∧ renamed.failedIndex = some 1 ∧
        renamed.env.entries = [("nan", 0.0), ("y", 0.0)] := by
  intro x nan r items others
  have written : items.map (Item.rename r) = others := by decide +kernel
  have swapped : r.on "x" = "nan" := by decide +kernel
  have kept : r.on "y" = "y" := by decide +kernel
  let fault : Formula.Error := ⟨"y*z2".toList, .undefinedName 3 ['z', '2']⟩
  have ran : execute none items =
      .ok ⟨⟨[("x", 0.0), ("y", 0.0)]⟩, some (.failed 1 (.formula fault)), 1, []⟩ :=
    (runFrom_eq_iff_runs _ _).2 (.next rfl (.failed rfl))
  obtain ⟨renamed, other, -, -, failed, -, entries, -⟩ := (execute_rename r none items).1 _ ran
  rw [written] at other
  simp only [List.map_cons, List.map_nil, swapped, kept] at entries
  exact ⟨written, renamed, other, failed, entries⟩

end Machine

end BlockMachine
