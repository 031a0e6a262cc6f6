import BlockMachine.Proofs.Independence
import BlockMachine.Proofs.Lookups
import BlockMachine.Proofs.Semantics

/-!
Assignments that may change places. Two neighbours that give values to different
names, and of which neither names the target of the other, lead to one
environment in either order. Both are performed, so the cursor leaves them
behind in one state, and from there on the lists are the same.
-/

namespace BlockMachine

theorem Env.assign_comm (env : Env) {name other : String} (different : name ≠ other)
    (value change : Float) :
    (env.assign name value).assign other change = (env.assign other change).assign name value := by
  simp only [Env.assign, List.map_map]
  congr 1
  apply List.map_congr_left
  intro entry _
  by_cases first : entry.1 = name
  · simp [first, different]
  · by_cases second : entry.1 = other
    · simp [second, different.symm]
    · simp [first, second]

namespace Formula

/-- The name stands in the expression as a whole, blanks left out. -/
def Mentions (expression name : String) : Prop :=
  ∃ identifier : Grammar.Identifier, identifier.name = name ∧
    identifier.OccursIn (Text.squeeze expression.toList)

theorem mentions_name {identifier : Grammar.Identifier} {name : String}
    (mentions : Mentions identifier.name name) : name = identifier.name := by
  obtain ⟨other, rfl, before, after, whole, ends, starts⟩ := mentions
  rw [squeeze_name] at whole
  have noneBefore : before = [] := by
    apply ends.eq_nil
    intro c member
    apply identifier.inName
    rw [whole]
    exact List.mem_append_left _ (List.mem_append_left _ member)
  have noneAfter : after = [] := by
    apply starts.eq_nil
    intro c member
    apply identifier.inName
    rw [whole]
    exact List.mem_append_right _ member
  rw [Grammar.Identifier.name, Grammar.Identifier.name, whole, noneBefore, noneAfter,
    List.nil_append, List.append_nil]

theorem evaluate_assign {expression name : String} (silent : ¬Mentions expression name) (env : Env)
    (value : Float) : evaluate (env.assign name value) expression = evaluate env expression := by
  apply evaluate_congr
  intro identifier occurs
  have different : identifier.name ≠ name := fun same => silent ⟨identifier, same, occurs⟩
  rw [Env.find?_assign, if_neg different]

end Formula

namespace Block

/-- The assignments store into different names, and neither reads what the other stores. -/
structure Independent (target expression other formula : String) : Prop where
  different : trimmed target ≠ trimmed other
  silent : ¬Formula.Mentions formula (trimmed target)
  otherSilent : ¬Formula.Mentions expression (trimmed other)

theorem Independent.perform_swap {target expression other formula : String}
    (independent : Independent target expression other formula) {env between last : Env}
    (first : (Block.assign target expression).perform env = .ok ⟨between, true⟩)
    (second : (Block.assign other formula).perform between = .ok ⟨last, true⟩) :
    ∃ middle, (Block.assign other formula).perform env = .ok ⟨middle, true⟩ ∧
      (Block.assign target expression).perform middle = .ok ⟨last, true⟩ := by
  obtain ⟨known, value, evaluates, stored⟩ := perform_assign_iff.1 first
  cases stored
  obtain ⟨otherKnown, change, otherEvaluates, stored⟩ := perform_assign_iff.1 second
  cases stored
  rw [Env.names_assign] at otherKnown
  rw [Formula.evaluate_assign independent.silent] at otherEvaluates
  refine ⟨env.assign (trimmed other) change, ?_, ?_⟩
  · exact perform_assign_iff.2 ⟨otherKnown, change, otherEvaluates, rfl⟩
  · refine perform_assign_iff.2 ⟨?_, value, ?_, ?_⟩
    · rwa [Env.names_assign]
    · rw [Formula.evaluate_assign independent.otherSilent, evaluates]
    · rw [Env.assign_comm env independent.different]

end Block

namespace Machine

theorem exists_turns_of_assignments {items : List Item} {place : Nat}
    {target expression other formula : String}
    (found : items[place]? = some (.block (.assign target expression)))
    (nextFound : items[place + 1]? = some (.block (.assign other formula)))
    (here : Performed items place) (next : Performed items (place + 1)) :
    ∃ turns state between last, Trace items turns state ∧ state.cursor = place ∧
      (Block.assign target expression).perform state.env = .ok ⟨between, true⟩ ∧
      (Block.assign other formula).perform between = .ok ⟨last, true⟩ := by
  obtain ⟨turns, state, effect, trace, rfl, performs⟩ := here.exists_before found
  obtain ⟨others, later, last, passed, there, follows⟩ := next.exists_before nextFound
  obtain ⟨-, value, -, rfl⟩ := Block.perform_assign_iff.1 performs
  obtain ⟨-, change, -, rfl⟩ := Block.perform_assign_iff.1 follows
  -- an assignment does not skip, so the next one is performed in the environment it leaves
  have same := (trace.turn found performs).eq_of_cursor_eq passed there.symm
  rw [← same] at follows
  exact ⟨turns, state, _, _, trace, rfl, performs, follows⟩

theorem runFrom_of_two_turns {items : List Item} {state : State} {first second : Block}
    {between last : Env} (found : items[state.cursor]? = some (.block first))
    (nextFound : items[state.cursor + 1]? = some (.block second))
    (performs : first.perform state.env = .ok ⟨between, true⟩)
    (follows : second.perform between = .ok ⟨last, true⟩) :
    runFrom items state =
      runFrom items ⟨state.cursor + 2, last, state.steps + 2, state.skipped⟩ := by
  let middle : State := ⟨state.cursor + 1, between, state.steps + 1, state.skipped⟩
  have there : items[middle.cursor]? = some (.block second) := nextFound
  calc runFrom items state
      = runFrom items middle := runFrom_of_turn found performs
    _ = runFrom items ⟨state.cursor + 2, last, state.steps + 2, state.skipped⟩ :=
        runFrom_of_turn there follows

/-- Where two blocks take their turns, any two that lead to the same environment may stand. -/
theorem runFrom_of_two_replaced {before after : List Item} {first second other next : Block}
    {turns : List Turn} {state : State} {between middle last : Env}
    (trace : Trace (before ++ .block first :: .block second :: after) turns state)
    (cursor : state.cursor = before.length)
    (performs : first.perform state.env = .ok ⟨between, true⟩)
    (follows : second.perform between = .ok ⟨last, true⟩)
    (otherPerforms : other.perform state.env = .ok ⟨middle, true⟩)
    (nextPerforms : next.perform middle = .ok ⟨last, true⟩) :
    runFrom (before ++ .block other :: .block next :: after) .start =
      runFrom (before ++ .block first :: .block second :: after) .start := by
  let items := before ++ .block first :: .block second :: after
  let replaced := before ++ .block other :: .block next :: after
  have sameLength : replaced.length = items.length := by simp [items, replaced]
  have replacedTrace : Trace replaced turns state := by
    apply trace.of_agree sameLength
    intro turn member
    have behind : turn.place < before.length := cursor ▸ trace.place_lt member
    rw [List.getElem?_append_left behind, List.getElem?_append_left behind]
  have sameRest : replaced.drop (state.cursor + 2) = items.drop (state.cursor + 2) := by
    simp [items, replaced, cursor, List.drop_append]
  calc runFrom replaced .start
      = runFrom replaced state := replacedTrace.runFrom_eq
    _ = runFrom replaced ⟨state.cursor + 2, last, state.steps + 2, state.skipped⟩ :=
        runFrom_of_two_turns (by simp [replaced, cursor]) (by simp [replaced, cursor])
          otherPerforms nextPerforms
    _ = runFrom items ⟨state.cursor + 2, last, state.steps + 2, state.skipped⟩ :=
        runFrom_of_drop_eq sameRest
    _ = runFrom items state :=
        (runFrom_of_two_turns (by simp [items, cursor]) (by simp [items, cursor])
          performs follows).symm
    _ = runFrom items .start := trace.runFrom_eq.symm

/-- Neighbouring assignments to different names may change places where both are performed and
neither mentions the name that the other stores: the list returns the same, whatever follows. -/
theorem execute_swap_assignments {before after : List Item}
    {target expression other formula : String}
    (independent : Block.Independent target expression other formula)
    (here : Performed (before ++ .block (.assign target expression) ::
      .block (.assign other formula) :: after) before.length)
    (next : Performed (before ++ .block (.assign target expression) ::
      .block (.assign other formula) :: after) (before.length + 1)) (limit : Option Int) :
    execute limit (before ++ .block (.assign other formula) ::
        .block (.assign target expression) :: after) =
      execute limit (before ++ .block (.assign target expression) ::
        .block (.assign other formula) :: after) := by
  let items := before ++ .block (.assign target expression) ::
    .block (.assign other formula) :: after
  have found : items[before.length]? = some (.block (.assign target expression)) := by
    simp [items]
  have nextFound : items[before.length + 1]? = some (.block (.assign other formula)) := by
    simp [items]
  obtain ⟨turns, state, between, last, trace, cursor, performs, follows⟩ :=
    exists_turns_of_assignments found nextFound here next
  obtain ⟨middle, first, second⟩ := independent.perform_swap performs follows
  apply execute_of_runFrom_eq
  · simp
  · simp only [flagless?, List.findSome?_append, List.findSome?_cons, Item.flagless?]
  · exact runFrom_of_two_replaced trace cursor performs follows first second

/-- Both assignments read `xy`, which is neither of the names they store into; the block behind
them fails at its own position. -/
theorem assignments_from_longer_name :
    let before : List Item := [.block (.declare "x, y, xy"), .block (.assign "xy" "-xy")]
    let items : List Item := before ++ .block (.assign "x" "xy") :: .block (.assign " y " "xy") ::
      [.block (.assign "q" "x")]
    let swapped : List Item := before ++ .block (.assign " y " "xy") ::
      .block (.assign "x" "xy") :: [.block (.assign "q" "x")]
    Block.Independent "x" "xy" " y " "xy" ∧ Performed items 2 ∧ Performed items 3 ∧
      execute (some 5) swapped = .ok ⟨⟨[("x", -0.0), ("y", -0.0), ("xy", -0.0)]⟩,
        some (.failed 4 (.undeclared "q")), 4, []⟩ := by
  intro before items swapped
  let xy : Grammar.Identifier := ⟨'x', ['y'], by decide, List.all_eq_true.1 (by decide)⟩
  have silent : ∀ name, name ≠ xy.name → ¬Formula.Mentions "xy" name := by
    intro name different mentions
    exact different (Formula.mentions_name (show Formula.Mentions xy.name name from mentions))
  have independent : Block.Independent "x" "xy" " y " "xy" :=
    ⟨by decide, silent _ (by decide), silent _ (by decide)⟩
  have declares : (Block.declare "x, y, xy").perform .empty =
      .ok ⟨⟨[("x", 0.0), ("y", 0.0), ("xy", 0.0)]⟩, true⟩ := rfl
  have negates : (Block.assign "xy" "-xy").perform ⟨[("x", 0.0), ("y", 0.0), ("xy", 0.0)]⟩ =
      .ok ⟨⟨[("x", 0.0), ("y", 0.0), ("xy", -0.0)]⟩, true⟩ := rfl
  have first : (Block.assign "x" "xy").perform ⟨[("x", 0.0), ("y", 0.0), ("xy", -0.0)]⟩ =
      .ok ⟨⟨[("x", -0.0), ("y", 0.0), ("xy", -0.0)]⟩, true⟩ := rfl
  have second : (Block.assign " y " "xy").perform ⟨[("x", -0.0), ("y", 0.0), ("xy", -0.0)]⟩ =
      .ok ⟨⟨[("x", -0.0), ("y", -0.0), ("xy", -0.0)]⟩, true⟩ := rfl
  have passed : Trace items _ ⟨3, ⟨[("x", -0.0), ("y", 0.0), ("xy", -0.0)]⟩, 3, []⟩ :=
    ((Trace.start.turn rfl declares).turn rfl negates).turn rfl first
  have trace : Trace items _ ⟨4, ⟨[("x", -0.0), ("y", -0.0), ("xy", -0.0)]⟩, 4, []⟩ :=
    passed.turn rfl second
  have here : Performed items 2 :=
    ⟨_, _, passed, _, List.mem_append_right _ List.mem_cons_self, rfl⟩
  have next : Performed items 3 :=
    ⟨_, _, trace, _, List.mem_append_right _ List.mem_cons_self, rfl⟩
  have stops : Ends items ⟨4, ⟨[("x", -0.0), ("y", -0.0), ("xy", -0.0)]⟩, 4, []⟩ _ :=
    .failed rfl rfl
  have flaggable : Flaggable items := List.all_eq_true.1 rfl
  refine ⟨independent, here, next, ?_⟩
  rw [execute_swap_assignments independent here next]
  calc execute (some 5) items
      = runFrom items .start := execute_of_within flaggable (by simp [items, before])
    _ = _ := trace.runFrom_eq.trans stops.runFrom_eq

end Machine

end BlockMachine
