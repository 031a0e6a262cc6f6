import BlockMachine.Proofs.Recognition
import BlockMachine.Proofs.Semantics
import BlockMachine.Proofs.Traces

/-!
The environment of a run is told by its history. The names are those declared so
far, in the order of their first declaration, and none is lost or moved; the
value of a name is the one last assigned to it, or zero. Names are made of plain
letters only, so each can be read back as a formula of its own, and a name of a
formula that has a digit or a foreign letter in it is never declared.
-/

namespace BlockMachine

namespace Text

theorem toNat_of_isPlainLetter {c : Char} (plain : isPlainLetter c = true) :
    (0x41 ≤ c.toNat ∧ c.toNat ≤ 0x5A) ∨ (0x61 ≤ c.toNat ∧ c.toNat ≤ 0x7A) := by
  simp only [isPlainLetter, Bool.or_eq_true, Bool.and_eq_true, decide_eq_true_eq] at plain
  rcases plain with small | capital
  · exact .inr small
  · exact .inl capital

theorem isBlank_of_isPlainLetter {c : Char} (plain : isPlainLetter c = true) :
    isBlank c = false :=
  isBlank_of_isLetter (isLetter_of_isPlainLetter plain)

end Text

/-- One plain letter or more. -/
def PlainName (name : String) : Prop :=
  name.toList ≠ [] ∧ ∀ c ∈ name.toList, Text.isPlainLetter c = true

theorem PlainName.exists_identifier {name : String} (plain : PlainName name) :
    ∃ identifier : Grammar.Identifier, identifier.spelled = name.toList := by
  obtain ⟨nonempty, letters⟩ := plain
  cases spelled : name.toList with
  | nil => exact absurd spelled nonempty
  | cons first rest =>
    rw [spelled] at letters
    refine ⟨⟨first, rest, ?_, ?_⟩, rfl⟩
    · exact Text.isLetter_of_isPlainLetter (letters first List.mem_cons_self)
    · intro c member
      exact Text.isNameChar_of_isLetter
        (Text.isLetter_of_isPlainLetter (letters c (List.mem_cons_of_mem _ member)))

/-- A digit or a letter beyond the plain ones keeps a name from being declared. -/
theorem not_plainName_of_mem {name : String} {c : Char} (member : c ∈ name.toList)
    (strange : Text.isDigit c = true ∨ 0x7F < c.toNat) : ¬PlainName name := by
  rintro ⟨-, letters⟩
  have plain := letters c member
  rcases strange with digit | far
  · rw [Text.isDigit_of_isLetter (Text.isLetter_of_isPlainLetter plain)] at digit
    cases digit
  · have bounds := Text.toNat_of_isPlainLetter plain
    omega

namespace Formula
open Grammar

/-- A declared name is a formula of its own. -/
theorem evaluate_of_plainName {env : Env} {name : String} (plain : PlainName name)
    (declared : name ∈ env.names) : evaluate env name = .ok (env.read name) := by
  obtain ⟨identifier, spelled⟩ := plain.exists_identifier
  have named : identifier.name = name := by
    rw [Identifier.name, spelled, String.ofList_toList]
  let e : Expression := .mk (.mk (.name identifier) .none) .none
  have text : e.text = name.toList := by
    simp [e, Expression.text, Summands.text, Term.text, Factors.text, Factor.text, spelled]
  have fits : e.Fits (rulesOf env) 0 := by
    refine ⟨?_, rfl⟩
    intro other member
    have same : other = identifier.name := List.mem_singleton.1 member
    rw [same, named]
    exact (env.declares_iff name).2 declared
  have solid : Text.squeeze name.toList = name.toList :=
    Text.squeeze_eq_self fun c member => Text.isBlank_of_isPlainLetter (plain.2 c member)
  rw [evaluate_eq_ok_iff_derives, solid]
  refine ⟨e.interpret .formula, ⟨e, text, rfl, fits⟩, ?_⟩
  rw [e.value_formula, ← named]
  rfl

/-- A formula with an undeclared name in it has no value. -/
theorem evaluate_of_undeclared {env : Env} {expression name : String} {e : Expression}
    (text : e.text = Text.squeeze expression.toList) (member : name ∈ e.interpret .names)
    (undeclared : name ∉ env.names) : ∃ error, evaluate env expression = .error error := by
  cases evaluated : evaluate env expression with
  | error error => exact ⟨error, rfl⟩
  | ok value =>
    rw [evaluate_eq_ok_iff_derives] at evaluated
    obtain ⟨formula, ⟨other, otherText, -, fits⟩, -⟩ := evaluated
    have same : other = e := Expression.eq_of_text_eq (otherText.trans text.symm)
    subst same
    exact absurd ((env.declares_iff name).1 (fits.declared name member)) undeclared

end Formula

namespace Env

theorem find?_of_not_mem {env : Env} {name : String} (new : name ∉ env.names) :
    env.find? name = none := by
  rw [← env.declares_iff, declares, Option.not_isSome_iff_eq_none] at new
  exact new

theorem read_declare (env : Env) (name other : String) :
    (env.declare name).read other = env.read other := by
  rw [read, find?_declare]
  split
  · next same => rw [same]; rfl
  · rfl

theorem find?_declareAll (env : Env) (names : List String) (other : String) :
    (env.declareAll names).find? other =
      if other ∈ names then some (env.read other) else env.find? other := by
  induction names generalizing env with
  | nil => rfl
  | cons name rest ih =>
    have first : env.declareAll (name :: rest) = (env.declare name).declareAll rest := rfl
    rw [first, ih, read_declare, find?_declare]
    by_cases same : other = name
    · subst same
      simp
    · simp [same]

theorem names_declareAll (env : Env) (names : List String) :
    (env.declareAll names).names = env.names ++ (names.removeAll env.names).eraseDups := by
  have new : names.filter (· ∉ env.names) = names.removeAll env.names := by
    simp only [List.removeAll, List.elem_eq_mem, decide_not]
  rw [declareAll_eq_withNew, withNew, new]
  simp [Env.names, List.map_append, Function.comp_def]

end Env

theorem Block.names_prefix_of_perform {env : Env} {block : Block} {effect : Block.Effect}
    (performs : block.perform env = .ok effect) : env.names <+: effect.env.names := by
  rcases Block.perform_cases performs with ⟨names, -, -, -, rfl⟩ |
    ⟨target, expression, value, -, -, -, rfl⟩ |
    ⟨left, symbol, right, x, y, holds, -, -, -, -, rfl⟩
  · rw [Env.names_declareAll]
    exact List.prefix_append _ _
  · exact ⟨[], by rw [List.append_nil, Env.names_assign]⟩
  · exact List.prefix_refl _

/-- A declaration checks its names before it declares one. -/
theorem Block.names_plain_of_perform {env : Env} {block : Block} {effect : Block.Effect}
    (plain : ∀ name ∈ env.names, PlainName name) (performs : block.perform env = .ok effect) :
    ∀ name ∈ effect.env.names, PlainName name := by
  rcases Block.perform_cases performs with ⟨names, -, -, valid, rfl⟩ |
    ⟨target, expression, value, -, -, -, rfl⟩ |
    ⟨left, symbol, right, x, y, holds, -, -, -, -, rfl⟩
  · intro name member
    rw [Env.names_declareAll, List.mem_append, List.mem_eraseDups] at member
    rcases member with known | new
    · exact plain name known
    · obtain ⟨given, present, rfl⟩ := List.mem_map.1 (List.mem_filter.1 new).1
      have letters := valid given present
      have nonempty := (List.mem_filter.1 present).2
      rw [PlainName, String.toList_ofList]
      exact ⟨by simpa using nonempty, List.all_eq_true.1 letters⟩
  · rw [Env.names_assign]
    exact plain
  · exact plain

namespace Machine

/-- The names that a turn declares, whether they are new or not. -/
def Turn.declared (turn : Turn) : List String :=
  match turn.block with
  | .declare names => (Block.givenNames names).map String.ofList
  | _ => []

/-- The value that a turn assigns to the name, if it assigns one. -/
def Turn.stored? (turn : Turn) (name : String) : Option Float :=
  match turn.block with
  | .assign target expression =>
    if Block.trimmed target = name then
      (Formula.evaluate turn.before.env expression).toOption
    else none
  | _ => none

/-- The names declared by the turns, in the order of their first declaration. -/
def declaredBy (turns : List Turn) : List String :=
  (turns.flatMap Turn.declared).eraseDups

/-- The value last assigned to the name. -/
def lastStored? (turns : List Turn) (name : String) : Option Float :=
  turns.reverse.findSome? (Turn.stored? · name)

theorem declaredBy_append (turns : List Turn) (turn : Turn) :
    declaredBy (turns ++ [turn]) =
      declaredBy turns ++ (turn.declared.removeAll (declaredBy turns)).eraseDups := by
  have known : ∀ names : List String, names.removeAll (turns.flatMap Turn.declared) =
      names.removeAll (declaredBy turns) := by
    intro names
    simp only [List.removeAll, List.elem_eq_mem, declaredBy, List.mem_eraseDups]
  rw [declaredBy, List.flatMap_append, List.eraseDups_append, known, declaredBy]
  simp

theorem lastStored?_append (turns : List Turn) (turn : Turn) (name : String) :
    lastStored? (turns ++ [turn]) name = (turn.stored? name).or (lastStored? turns name) := by
  simp only [lastStored?, List.reverse_append, List.reverse_singleton, List.singleton_append,
    List.findSome?_cons]
  cases turn.stored? name with
  | none => rfl
  | some value => rfl

/-- The environment holds what the turns have declared and assigned. -/
structure Records (turns : List Turn) (env : Env) : Prop where
  names : env.names = declaredBy turns
  value : ∀ name ∈ env.names, env.find? name = some ((lastStored? turns name).getD 0.0)
  assigned : ∀ name value, lastStored? turns name = some value → name ∈ env.names

section
variable {turns : List Turn} {state : State} (records : Records turns state.env)
include records

theorem Records.declare (names : String) (effect : Block.Effect) :
    Records (turns ++ [⟨state, .declare names, effect⟩])
      (state.env.declareAll ((Block.givenNames names).map String.ofList)) := by
  have stored : ∀ name, lastStored? (turns ++ [⟨state, .declare names, effect⟩]) name =
      lastStored? turns name := fun name => lastStored?_append turns _ name
  refine ⟨?_, ?_, ?_⟩
  · rw [Env.names_declareAll, declaredBy_append, records.names]
    rfl
  · intro name member
    rw [Env.find?_declareAll, stored]
    by_cases known : name ∈ state.env.names
    · have value := records.value name known
      rw [Env.read, value, Option.getD_some, ite_self]
    · -- a name that is new was never assigned, and starts at zero
      have given : name ∈ (Block.givenNames names).map String.ofList := by
        rw [Env.names_declareAll, List.mem_append, List.mem_eraseDups] at member
        exact (List.mem_filter.1 (member.resolve_left known)).1
      have unassigned : lastStored? turns name = none := by
        rw [Option.eq_none_iff_forall_ne_some]
        intro value assigned
        exact known (records.assigned name value assigned)
      rw [if_pos given, Env.read, Env.find?_of_not_mem known, unassigned]
  · intro name value assigned
    rw [stored] at assigned
    rw [Env.names_declareAll]
    exact List.mem_append_left _ (records.assigned name value assigned)

theorem Records.assign {target expression : String} {value : Float}
    (known : Block.trimmed target ∈ state.env.names)
    (evaluates : Formula.evaluate state.env expression = .ok value) (effect : Block.Effect) :
    Records (turns ++ [⟨state, .assign target expression, effect⟩])
      (state.env.assign (Block.trimmed target) value) := by
  have stored : ∀ name,
      lastStored? (turns ++ [⟨state, .assign target expression, effect⟩]) name =
        if Block.trimmed target = name then some value else lastStored? turns name := by
    intro name
    rw [lastStored?_append]
    simp only [Turn.stored?, evaluates, Except.toOption]
    split
    · rfl
    · rfl
  refine ⟨?_, ?_, ?_⟩
  · rw [Env.names_assign, declaredBy_append, records.names]
    simp [Turn.declared, List.removeAll]
  · intro name member
    rw [Env.names_assign] at member
    rw [Env.find?_assign, stored]
    by_cases same : Block.trimmed target = name
    · subst same
      rw [if_pos rfl, if_pos rfl, records.value _ known]
      rfl
    · rw [if_neg (Ne.symm same), if_neg same, records.value name member]
  · intro name other assigned
    rw [Env.names_assign]
    rw [stored] at assigned
    split at assigned
    · next same => exact same ▸ known
    · exact records.assigned name other assigned

theorem Records.branch (left symbol right : String) (effect : Block.Effect) :
    Records (turns ++ [⟨state, .branch left symbol right, effect⟩]) state.env := by
  have stored : ∀ name, lastStored? (turns ++ [⟨state, .branch left symbol right, effect⟩]) name =
      lastStored? turns name := fun name => lastStored?_append turns _ name
  refine ⟨?_, ?_, ?_⟩
  · rw [declaredBy_append, records.names]
    simp [Turn.declared, List.removeAll]
  · intro name member
    rw [stored]
    exact records.value name member
  · intro name value assigned
    rw [stored] at assigned
    exact records.assigned name value assigned

theorem Records.turn {block : Block} {effect : Block.Effect}
    (performs : block.perform state.env = .ok effect) :
    Records (turns ++ [⟨state, block, effect⟩]) effect.env := by
  rcases Block.perform_cases performs with ⟨names, rfl, -, -, rfl⟩ |
    ⟨target, expression, value, rfl, known, evaluates, rfl⟩ |
    ⟨left, symbol, right, x, y, holds, rfl, -, -, -, rfl⟩
  · exact records.declare names _
  · exact records.assign known evaluates _
  · exact records.branch left symbol right _

end

theorem State.env_after (state : State) (count : Nat) (effect : Block.Effect) :
    (state.after count effect).env = effect.env := by
  unfold State.after
  split
  · rfl
  · rfl

/-- What every block keeps true of the environment holds wherever a run comes. -/
theorem Trace.env_invariant {items : List Item} (holds : List Turn → Env → Prop)
    (empty : holds [] .empty)
    (keeps : ∀ {turns state block effect}, Trace items turns state → holds turns state.env →
      block.perform state.env = .ok effect → holds (turns ++ [⟨state, block, effect⟩]) effect.env)
    {turns : List Turn} {state : State} (trace : Trace items turns state) :
    holds turns state.env := by
  induction trace with
  | start => exact empty
  | turn passed found performs ih =>
    rw [State.env_after]
    exact keeps passed ih performs

section
variable {items : List Item} {turns : List Turn} {state : State} (trace : Trace items turns state)
include trace

theorem Trace.records : Records turns state.env := by
  apply trace.env_invariant Records
  · refine ⟨rfl, ?_, ?_⟩
    · intro name member
      cases member
    · intro name value assigned
      cases assigned
  · intro turns state block effect passed records performs
    exact records.turn performs

theorem Trace.names_nodup : state.env.names.Nodup := by
  apply trace.env_invariant fun _ env => env.names.Nodup
  · exact List.nodup_nil
  · intro turns state block effect passed distinct performs
    exact Block.nodup_of_perform distinct performs

theorem Trace.names_prefix : ∀ turn ∈ turns, turn.before.env.names <+: state.env.names := by
  apply trace.env_invariant fun turns env => ∀ turn ∈ turns, turn.before.env.names <+: env.names
  · intro turn member
    cases member
  · intro turns state block effect passed earlier performs turn member
    have grows := Block.names_prefix_of_perform performs
    rcases List.mem_append.1 member with before | last
    · exact (earlier turn before).trans grows
    · rw [List.mem_singleton.1 last]
      exact grows

theorem Trace.names_plain : ∀ name ∈ state.env.names, PlainName name := by
  apply trace.env_invariant fun _ env => ∀ name ∈ env.names, PlainName name
  · intro name member
    cases member
  · intro turns state block effect passed plain performs
    exact Block.names_plain_of_perform plain performs

/-- A name of a formula that cannot be declared never has a value. -/
theorem Trace.unresolved {identifier : Grammar.Identifier}
    (strange : ∃ c ∈ identifier.spelled, Text.isDigit c = true ∨ 0x7F < c.toNat) :
    identifier.name ∉ state.env.names := by
  obtain ⟨c, member, strange⟩ := strange
  have spelled : c ∈ identifier.name.toList := by
    rw [Grammar.Identifier.name, String.toList_ofList]
    exact member
  intro declared
  exact not_plainName_of_mem spelled strange (trace.names_plain _ declared)

end

/-- Wherever a run comes, the environment is the one its history tells: distinct plain names in the
order of their first declaration, none lost or moved since, each with the value last assigned or
zero; each reads back as a formula, and no name with a digit or a letter beyond the plain ones is
ever declared. What a list returns is the environment of the place where its run ends, all its
steps taken; a list beyond the limit is refused at the start. -/
theorem environment_told_by_history (items : List Item) :
    (∀ limit report, execute limit items = .ok report →
      ∃ turns state, Trace items turns state ∧ report.env = state.env ∧
        report.steps = turns.length ∧
        (Ends items state (.ok report) ∨
          state = .start ∧ ∃ most ∈ limit, most < items.length)) ∧
    ∀ turns state, Trace items turns state →
      state.env.names.Nodup ∧ (∀ name ∈ state.env.names, PlainName name) ∧
      state.env.names = declaredBy turns ∧
      (∀ turn ∈ turns, turn.before.env.names <+: state.env.names) ∧
      (∀ name ∈ state.env.names, ∃ value, state.env.find? name = some value ∧
        value = (lastStored? turns name).getD 0.0 ∧
        Formula.evaluate state.env name = .ok value) ∧
      ∀ identifier : Grammar.Identifier,
        (∃ c ∈ identifier.spelled, Text.isDigit c = true ∨ 0x7F < c.toNat) →
        identifier.name ∉ state.env.names ∧
          ∀ (e : Grammar.Expression) (expression : String),
            e.text = Text.squeeze expression.toList → identifier.name ∈ e.interpret .names →
            ∃ error, Formula.evaluate state.env expression = .error error := by
  constructor
  · intro limit report ran
    obtain ⟨turns, state, trace, told, ending⟩ := exists_trace_of_execute ran
    refine ⟨turns, state, trace, ?_, ?_, ending⟩
    · rw [told]
      rfl
    · rw [told, ← trace.steps_eq]
      rfl
  · intro turns state trace
    refine ⟨trace.names_nodup, trace.names_plain, trace.records.names, trace.names_prefix, ?_, ?_⟩
    · intro name member
      have found := trace.records.value name member
      have readBack := Formula.evaluate_of_plainName (trace.names_plain name member) member
      rw [Env.read, found] at readBack
      exact ⟨_, found, rfl, readBack⟩
    · intro identifier strange
      have undeclared := trace.unresolved strange
      exact ⟨undeclared, fun e expression text member =>
        Formula.evaluate_of_undeclared text member undeclared⟩

end Machine

end BlockMachine
