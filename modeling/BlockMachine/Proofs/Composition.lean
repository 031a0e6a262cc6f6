import BlockMachine.Proofs.Semantics
import BlockMachine.Proofs.Traces

/-!
Runs of lists put together. A list that runs through leaves off where the list
behind it begins: the rest is the run of that second list from the environment
reached, with every position counted from the start of the first. Only a false
condition at the very end of the first list makes a difference, for it now has a
next item to skip.
-/

namespace BlockMachine.Machine

/-- The run of a list from an environment that may hold names already. -/
def runIn (env : Env) (items : List Item) : Outcome :=
  runFrom items ⟨0, env, 0, []⟩

def Halt.shift (offset : Nat) : Halt → Halt
  | .failed index fault => .failed (offset + index) fault
  | .overLimit count limit => .overLimit count limit

/-- The same report with its positions counted from an earlier item. -/
def Report.shift (offset : Nat) (report : Report) : Report where
  env := report.env
  halt := report.halt.map (Halt.shift offset)
  steps := report.steps
  skipped := report.skipped.map (offset + ·)

def Outcome.shift (offset : Nat) (outcome : Outcome) : Outcome :=
  outcome.map (Report.shift offset)

theorem Outcome.shift_after (offset steps : Nat) (skipped : List Nat) (outcome : Outcome) :
    Outcome.shift offset (Outcome.after steps skipped outcome) =
      Outcome.after steps (skipped.map (offset + ·)) (Outcome.shift offset outcome) := by
  cases outcome with
  | error unsupported => rfl
  | ok report => simp [Outcome.shift, Outcome.after, Except.map, Report.shift, Report.after]

/-- Where a list stands does not matter to its run. -/
theorem Runs.shift {does : Doing} {position : Nat} {env : Env} {items : List Item}
    {outcome : Outcome} (runs : Runs does position env items outcome) (offset : Nat) :
    Runs does (offset + position) env items (Outcome.shift offset outcome) := by
  induction runs with
  | done => exact .done
  | foreign => exact .foreign
  | failed fails => exact .failed fails
  | next performs later ih =>
    rw [Outcome.shift_after]
    exact .next performs ih
  | last performs => exact .last performs
  | skip performs later ih =>
    rw [Outcome.shift_after]
    exact .skip performs ih

theorem runIn_runs (env : Env) (items : List Item) :
    Runs Performs 0 env items (runIn env items) := by
  obtain ⟨outcome, runs, completes⟩ := runFrom_runs items ⟨0, env, 0, []⟩
  rw [runIn, completes, outcome.after_zero]
  exact runs

/-- From the end of the first list on, the run is that of the second list. -/
theorem runFrom_append (xs ys : List Item) (env : Env) (steps : Nat) (skipped : List Nat) :
    runFrom (xs ++ ys) ⟨xs.length, env, steps, skipped⟩ =
      Outcome.after steps skipped (Outcome.shift xs.length (runIn env ys)) := by
  obtain ⟨outcome, runs, completes⟩ := runFrom_runs (xs ++ ys) ⟨xs.length, env, steps, skipped⟩
  have rest : (xs ++ ys).drop xs.length = ys := List.drop_left
  rw [rest] at runs
  have same := runs.outcome_eq ((runIn_runs env ys).shift xs.length)
  rw [completes, same]

theorem Trace.cursor_le {items : List Item} {turns : List Turn} {state : State}
    (trace : Trace items turns state) : state.cursor ≤ items.length := by
  cases trace with
  | start => exact Nat.zero_le _
  | turn passed found performs =>
    obtain ⟨inside, -⟩ := List.getElem?_eq_some_iff.1 found
    unfold State.after
    split
    · next more =>
      simp only [Bool.and_eq_true, decide_eq_true_eq] at more
      exact more.2
    · exact inside

theorem State.after_skip {state : State} {count : Nat} (more : state.cursor + 1 < count)
    (env : Env) :
    state.after count ⟨env, false⟩ =
      ⟨state.cursor + 2, env, state.steps + 1, state.skipped ++ [state.cursor + 1]⟩ := by
  simp only [State.after, more, decide_true, Bool.not_false, Bool.and_true, if_true]

theorem State.after_last {state : State} {count : Nat} (last : state.cursor + 1 = count)
    (env : Env) :
    state.after count ⟨env, false⟩ = ⟨count, env, state.steps + 1, state.skipped⟩ := by
  simp only [State.after, last, Nat.lt_irrefl, decide_false, Bool.and_false, Bool.false_eq_true,
    if_false]

/-- Where another item follows in the list, or none is to be skipped, a longer list changes
nothing. -/
theorem State.after_append {state : State} {effect : Block.Effect} (xs ys : List Item)
    (inside : effect.proceed = true ∨ state.cursor + 1 < xs.length) :
    state.after (xs ++ ys).length effect = state.after xs.length effect := by
  rcases inside with proceeds | more
  · simp only [State.after, proceeds, Bool.not_true, Bool.false_and]
  · have longer : state.cursor + 1 < (xs ++ ys).length := by
      rw [List.length_append]
      omega
    simp only [State.after, more, longer]

theorem Trace.append {xs : List Item} {turns : List Turn} {state : State}
    (trace : Trace xs turns state) (ys : List Item)
    (inside : ∀ turn ∈ turns, turn.effect.proceed = true ∨ turn.place + 1 < xs.length) :
    Trace (xs ++ ys) turns state := by
  induction trace with
  | start => exact .start
  | @turn turns state block effect passed found performs ih =>
    have earlier := ih fun turn member => inside turn (List.mem_append_left _ member)
    have here := inside ⟨state, block, effect⟩ (List.mem_append_right _ List.mem_cons_self)
    rw [← State.after_append xs ys here]
    apply earlier.turn _ performs
    rw [List.getElem?_append_left (List.getElem?_eq_some_iff.1 found).1, found]

/-- Only a condition can keep the next item from its turn. -/
theorem exists_branch_of_not_proceed {env : Env} {block : Block} {effect : Block.Effect}
    (performs : block.perform env = .ok effect) (stays : effect.proceed = false) :
    ∃ left symbol right, block = .branch left symbol right := by
  rcases Block.perform_cases performs with ⟨names, -, -, -, rfl⟩ |
    ⟨target, expression, value, -, -, -, rfl⟩ | ⟨left, symbol, right, x, y, holds, branch, -⟩
  · cases stays
  · cases stays
  · exact ⟨left, symbol, right, branch⟩

/-- The last item of the list is performed, as a condition that is false. -/
def EndsFalse (items : List Item) : Prop :=
  ∃ turns state, Trace items turns state ∧ ∃ turn ∈ turns, turn.place + 1 = items.length ∧
    (∃ left symbol right, turn.block = .branch left symbol right) ∧ turn.effect.proceed = false

/-- Unless the list ends with a false condition, its turns stay as they are in a longer list. -/
theorem Trace.inside_of_not_endsFalse {items : List Item} {turns : List Turn} {state : State}
    (trace : Trace items turns state) (closed : ¬EndsFalse items) :
    ∀ turn ∈ turns, turn.effect.proceed = true ∨ turn.place + 1 < items.length := by
  intro turn member
  obtain ⟨-, found, performs⟩ := trace.exists_before member
  obtain ⟨inside, -⟩ := List.getElem?_eq_some_iff.1 found
  cases stays : turn.effect.proceed with
  | true => exact .inl rfl
  | false =>
    refine .inr (Nat.lt_of_le_of_ne inside ?_)
    intro last
    exact closed ⟨turns, state, trace, turn, member, last,
      exists_branch_of_not_proceed performs stays, stays⟩

theorem exists_trace_of_succeeded {items : List Item} {report : Report}
    (ran : runFrom items .start = .ok report) (succeeded : report.succeeded = true) :
    ∃ turns, Trace items turns ⟨items.length, report.env, report.steps, report.skipped⟩ := by
  obtain ⟨turns, last, trace, ends⟩ := exists_trace_to_end items
  rw [ran] at ends
  cases ends with
  | done outside =>
    have through : last.cursor = items.length := Nat.le_antisymm trace.cursor_le outside
    refine ⟨turns, ?_⟩
    rw [← through]
    exact trace
  | failed found fails => cases succeeded

theorem runFrom_append_of_not_endsFalse {xs : List Item} {report : Report}
    (ran : runFrom xs .start = .ok report) (succeeded : report.succeeded = true)
    (closed : ¬EndsFalse xs) (ys : List Item) :
    runFrom (xs ++ ys) .start =
      Outcome.after report.steps report.skipped
        (Outcome.shift xs.length (runIn report.env ys)) := by
  obtain ⟨turns, trace⟩ := exists_trace_of_succeeded ran succeeded
  have longer := trace.append ys (trace.inside_of_not_endsFalse closed)
  rw [longer.runFrom_eq, runFrom_append]

/-- The state in which a list comes to its last item, when that is a false condition. -/
theorem EndsFalse.exists_last {xs : List Item} {report : Report} (dangling : EndsFalse xs)
    (ran : runFrom xs .start = .ok report) :
    ∃ turns state block, Trace xs turns state ∧ state.cursor + 1 = xs.length ∧
      xs[state.cursor]? = some (.block block) ∧
      block.perform state.env = .ok ⟨report.env, false⟩ ∧ report.steps = state.steps + 1 ∧
      report.skipped = state.skipped := by
  obtain ⟨turns, state, trace, turn, member, last, -, stays⟩ := dangling
  obtain ⟨⟨earlier, before⟩, found, performs⟩ := trace.exists_before member
  obtain ⟨start, block, ⟨after, proceed⟩⟩ := turn
  cases stays
  have ended : Ends xs ⟨xs.length, after, start.steps + 1, start.skipped⟩ _ :=
    .done (Nat.le_refl _)
  rw [before.runFrom_eq, runFrom_of_turn found performs, State.after_last last, ended.runFrom_eq]
    at ran
  cases ran
  exact ⟨earlier, start, block, before, last, found, performs, rfl, rfl⟩

theorem runFrom_append_of_endsFalse {xs : List Item} {report : Report}
    (ran : runFrom xs .start = .ok report) (dangling : EndsFalse xs) (dropped : Item)
    (rest : List Item) :
    runFrom (xs ++ dropped :: rest) .start =
      Outcome.after report.steps (report.skipped ++ [xs.length])
        (Outcome.shift (xs.length + 1) (runIn report.env rest)) := by
  obtain ⟨turns, state, block, trace, last, found, performs, steps, skipped⟩ :=
    dangling.exists_last ran
  have inside : ∀ turn ∈ turns, turn.effect.proceed = true ∨ turn.place + 1 < xs.length := by
    intro turn member
    have behind := trace.place_lt member
    exact .inr (by omega)
  have longer := trace.append (dropped :: rest) inside
  have present : (xs ++ dropped :: rest)[state.cursor]? = some (.block block) := by
    rw [List.getElem?_append_left (by omega), found]
  -- in the longer list the condition has a next item to skip
  have passed : state.after (xs ++ dropped :: rest).length ⟨report.env, false⟩ =
      ⟨(xs ++ [dropped]).length, report.env, report.steps, report.skipped ++ [xs.length]⟩ := by
    have more : state.cursor + 1 < (xs ++ dropped :: rest).length := by
      rw [List.length_append, List.length_cons]
      omega
    rw [State.after_skip more, steps, skipped, List.length_append, List.length_singleton, ← last]
  have regrouped : xs ++ dropped :: rest = (xs ++ [dropped]) ++ rest := by
    rw [List.append_assoc, List.singleton_append]
  rw [longer.runFrom_eq, runFrom_of_turn present performs, passed, regrouped, runFrom_append,
    List.length_append, List.length_singleton]

/-- A list put behind one that runs through is run from the environment reached, its positions
counted from the start; a false condition that ends the first list skips its first item. -/
theorem execute_append {xs ys : List Item} {report : Report}
    (ran : execute none xs = .ok report) (succeeded : report.succeeded = true)
    (flaggable : Flaggable ys) :
    (¬EndsFalse xs → execute none (xs ++ ys) =
      Outcome.after report.steps report.skipped
        (Outcome.shift xs.length (runIn report.env ys))) ∧
    (EndsFalse xs → execute none (xs ++ ys) =
      Outcome.after report.steps (report.skipped ++ if ys.isEmpty then [] else [xs.length])
        (Outcome.shift (xs.length + 1) (runIn report.env ys.tail))) := by
  have first : runFrom xs .start = .ok report := runFrom_of_unlimited ran
  have whole : Flaggable (xs ++ ys) :=
    List.forall_mem_append.2 ⟨flaggable_of_ok ran, flaggable⟩
  rw [execute_none whole]
  constructor
  · intro closed
    exact runFrom_append_of_not_endsFalse first succeeded closed ys
  · intro dangling
    cases ys with
    | nil =>
      have ended : Ends [] ⟨0, report.env, 0, []⟩ _ := .done (Nat.le_refl 0)
      have nothing : runIn report.env [] = .ok ⟨report.env, none, 0, []⟩ := ended.runFrom_eq
      rw [List.append_nil, first, List.tail_nil, nothing]
      obtain ⟨env, halt, steps, skipped⟩ := report
      cases halt with
      | none => simp [Outcome.after, Outcome.shift, Except.map, Report.after, Report.shift]
      | some halt => cases succeeded
    | cons dropped rest => exact runFrom_append_of_endsFalse first dangling dropped rest

theorem endsFalse_of_greater_self :
    EndsFalse [.block (.declare "x"), .block (.branch "x" ">" "x")] := by
  have declared : Trace [.block (.declare "x"), .block (.branch "x" ">" "x")]
      [⟨.start, .declare "x", ⟨⟨[("x", 0.0)]⟩, true⟩⟩] ⟨1, ⟨[("x", 0.0)]⟩, 1, []⟩ :=
    Trace.start.turn rfl rfl
  have compared : (Block.branch "x" ">" "x").perform ⟨[("x", 0.0)]⟩ =
      .ok ⟨⟨[("x", 0.0)]⟩, false⟩ := rfl
  exact ⟨_, _, declared.turn rfl compared, _, List.mem_append_right _ List.mem_cons_self, rfl,
    ⟨"x", ">", "x", rfl⟩, rfl⟩

/-- The false condition skips the first item behind its list, which is not even a block. -/
theorem condition_skips_into_next_list :
    let xs : List Item := [.block (.declare "x"), .block (.branch "x" ">" "x")]
    let ys : List Item := [.foreign "Loop", .block (.assign "q" "2")]
    let report : Report := ⟨⟨[("x", 0.0)]⟩, none, 2, []⟩
    execute none xs = .ok report ∧ report.succeeded = true ∧ Flaggable ys ∧ EndsFalse xs ∧
      execute none (xs ++ ys) =
        .ok ⟨⟨[("x", 0.0)]⟩, some (.failed 3 (.undeclared "q")), 2, [2]⟩ := by
  intro xs ys report
  have ran : execute none xs = .ok report := (runFrom_eq_iff_runs _ _).2 (.next rfl (.last rfl))
  have dangling : EndsFalse xs := endsFalse_of_greater_self
  have stops : Ends ys.tail ⟨0, report.env, 0, []⟩ _ := .failed rfl rfl
  have second : runIn report.env ys.tail =
      .ok ⟨report.env, some (.failed 0 (.undeclared "q")), 0, []⟩ := stops.runFrom_eq
  have flaggable : Flaggable ys := List.all_eq_true.1 rfl
  refine ⟨ran, rfl, flaggable, dangling, ?_⟩
  rw [(execute_append ran rfl flaggable).2 dangling, second]
  rfl

end BlockMachine.Machine
