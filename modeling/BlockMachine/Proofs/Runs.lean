import BlockMachine.Machine

/-!
Runs of the machine, told along the list. What is left of the list is taken one
block at a time, or two where a condition is false, and the outcome of the rest
is completed by the step and the skipped position in front of it. The relation
leaves open what a single block does; with what blocks do perform, it is the run
of the cursor through the list. A list that takes its flags is refused by its
length or run from its start. A block that fails leaves no trace in what the run
returns: a declaration with one bad name declares nothing, a rejected assignment
stores nothing, and a condition never stores anything.
-/

namespace BlockMachine.Machine

/-- The report of a run that has taken steps and skipped positions before. -/
def Report.after (steps : Nat) (skipped : List Nat) (report : Report) : Report :=
  ⟨report.env, report.halt, steps + report.steps, skipped ++ report.skipped⟩

theorem Report.after_zero (report : Report) : report.after 0 [] = report := by
  simp [Report.after]

theorem Report.after_after (steps more : Nat) (skipped others : List Nat) (report : Report) :
    (report.after more others).after steps skipped =
      report.after (steps + more) (skipped ++ others) := by
  simp [Report.after, Nat.add_assoc]

abbrev Outcome := Except Unsupported Report

def Outcome.after (steps : Nat) (skipped : List Nat) (outcome : Outcome) : Outcome :=
  outcome.map (Report.after steps skipped)

theorem Outcome.after_zero (outcome : Outcome) : Outcome.after 0 [] outcome = outcome := by
  cases outcome with
  | error unsupported => rfl
  | ok report => exact congrArg Except.ok report.after_zero

theorem Outcome.after_after (steps more : Nat) (skipped others : List Nat) (outcome : Outcome) :
    Outcome.after steps skipped (Outcome.after more others outcome) =
      Outcome.after (steps + more) (skipped ++ others) outcome := by
  cases outcome with
  | error unsupported => rfl
  | ok report => exact congrArg Except.ok (report.after_after steps more skipped others)

theorem Outcome.of_after_ok {steps : Nat} {skipped : List Nat} {outcome : Outcome} {report : Report}
    (completed : Outcome.after steps skipped outcome = .ok report) :
    ∃ rest, outcome = .ok rest ∧ report = rest.after steps skipped := by
  cases outcome with
  | error unsupported => cases completed
  | ok rest =>
    cases completed
    exact ⟨rest, rfl, rfl⟩

/-- What a block may do in an environment. -/
abbrev Doing := Env → Block → Except Block.Fault Block.Effect → Prop

/-- The outcome of the items from `position` on. -/
inductive Runs (does : Doing) : Nat → Env → List Item → Outcome → Prop
  | done {position : Nat} {env : Env} : Runs does position env [] (.ok ⟨env, none, 0, []⟩)
  | foreign {position : Nat} {env : Env} {typeName : String} {takesFlag : Bool} {rest : List Item} :
      Runs does position env (.foreign typeName takesFlag :: rest) (.error (.noBlock typeName))
  | failed {position : Nat} {env : Env} {block : Block} {rest : List Item} {fault : Block.Fault}
      (fails : does env block (.error fault)) :
      Runs does position env (.block block :: rest)
        (.ok ⟨env, some (.failed position fault), 0, []⟩)
  | next {position : Nat} {env after : Env} {block : Block} {rest : List Item} {outcome : Outcome}
      (performs : does env block (.ok ⟨after, true⟩))
      (later : Runs does (position + 1) after rest outcome) :
      Runs does position env (.block block :: rest) (Outcome.after 1 [] outcome)
  | last {position : Nat} {env after : Env} {block : Block}
      (performs : does env block (.ok ⟨after, false⟩)) :
      Runs does position env [.block block] (.ok ⟨after, none, 1, []⟩)
  | skip {position : Nat} {env after : Env} {block : Block} {dropped : Item} {rest : List Item}
      {outcome : Outcome} (performs : does env block (.ok ⟨after, false⟩))
      (later : Runs does (position + 2) after rest outcome) :
      Runs does position env (.block block :: dropped :: rest)
        (Outcome.after 1 [position + 1] outcome)

def Performs : Doing :=
  fun env block result => block.perform env = result

/-- The cursor completes the run along the list from where it stands. -/
theorem runFrom_runs (items : List Item) (state : State) :
    ∃ outcome, Runs Performs state.cursor state.env (items.drop state.cursor) outcome ∧
      runFrom items state = Outcome.after state.steps state.skipped outcome := by
  fun_induction runFrom items state with
  | case1 state inside typeName takesFlag found =>
    refine ⟨.error (.noBlock typeName), ?_, rfl⟩
    rw [List.drop_eq_getElem_cons inside, found]
    exact .foreign
  | case2 state inside block found fault fails =>
    refine ⟨.ok ⟨state.env, some (.failed state.cursor fault), 0, []⟩, ?_, ?_⟩
    · rw [List.drop_eq_getElem_cons inside, found]
      exact .failed fails
    · simp [Outcome.after, Except.map, Report.after, State.report]
  | case3 state inside block found effect performs ih =>
    obtain ⟨outcome, later, completes⟩ := ih
    rw [List.drop_eq_getElem_cons inside, found, completes]
    obtain ⟨after, proceed⟩ := effect
    cases proceed with
    | true =>
      simp only [State.after, Bool.not_true, Bool.false_and, Bool.false_eq_true, if_false] at later ⊢
      exact ⟨Outcome.after 1 [] outcome, .next performs later, by
        rw [Outcome.after_after, List.append_nil]⟩
    | false =>
      -- behind the last block there is nothing to skip, and the cursor leaves the list as usual
      by_cases more : state.cursor + 1 < items.length
      · simp only [State.after, Bool.not_false, Bool.true_and, more, decide_true, if_true] at later ⊢
        rw [List.drop_eq_getElem_cons more]
        exact ⟨Outcome.after 1 [state.cursor + 1] outcome, .skip performs later, by
          rw [Outcome.after_after]⟩
      · simp only [State.after, more, decide_false, Bool.and_false, Bool.false_eq_true, if_false]
          at later ⊢
        have nothing : items.drop (state.cursor + 1) = [] := List.drop_eq_nil_of_le (by omega)
        rw [nothing] at later ⊢
        cases later
        exact ⟨.ok ⟨after, none, 1, []⟩, .last performs, by
          simp [Outcome.after, Except.map, Report.after]⟩
  | case4 state outside =>
    refine ⟨.ok ⟨state.env, none, 0, []⟩, ?_, ?_⟩
    · rw [List.drop_eq_nil_of_le (by omega)]
      exact .done
    · simp [Outcome.after, Except.map, Report.after, State.report]

/-- Where a block does one thing at most, a list has one outcome at most. -/
theorem Runs.unique {does : Doing}
    (single : ∀ {env block result other}, does env block result → does env block other →
      result = other)
    {position : Nat} {env : Env} {items : List Item} {outcome other : Outcome}
    (first : Runs does position env items outcome) (second : Runs does position env items other) :
    outcome = other := by
  induction first generalizing other with
  | done => cases second; rfl
  | foreign => cases second; rfl
  | failed fails =>
    cases second with
    | failed fails' => cases single fails fails'; rfl
    | next performs' _ => cases single fails performs'
    | last performs' => cases single fails performs'
    | skip performs' _ => cases single fails performs'
  | next performs later ih =>
    cases second with
    | failed fails' => cases single performs fails'
    | next performs' later' =>
      cases single performs performs'
      rw [ih later']
    | last performs' => cases single performs performs'
    | skip performs' _ => cases single performs performs'
  | last performs =>
    cases second with
    | failed fails' => cases single performs fails'
    | next performs' _ => cases single performs performs'
    | last performs' => cases single performs performs'; rfl
  | skip performs later ih =>
    cases second with
    | failed fails' => cases single performs fails'
    | next performs' _ => cases single performs performs'
    | skip performs' later' =>
      cases single performs performs'
      rw [ih later']

theorem Runs.outcome_eq {position : Nat} {env : Env} {items : List Item} {outcome other : Outcome}
    (first : Runs Performs position env items outcome)
    (second : Runs Performs position env items other) : outcome = other :=
  first.unique (fun here there => here.symm.trans there) second

theorem runFrom_eq_iff_runs (items : List Item) (outcome : Outcome) :
    runFrom items .start = outcome ↔ Runs Performs 0 .empty items outcome := by
  obtain ⟨found, runs, completes⟩ := runFrom_runs items .start
  have same : runFrom items .start = found := completes.trans found.after_zero
  rw [same]
  constructor
  · intro equal
    rw [← equal]
    exact runs
  · intro other
    exact runs.outcome_eq other

/-- From the cursor on, a run depends on the items still ahead. -/
theorem runFrom_of_drop_eq {items others : List Item} {state : State}
    (same : others.drop state.cursor = items.drop state.cursor) :
    runFrom others state = runFrom items state := by
  obtain ⟨outcome, runs, completes⟩ := runFrom_runs items state
  obtain ⟨other, otherRuns, otherCompletes⟩ := runFrom_runs others state
  rw [same] at otherRuns
  rw [completes, otherCompletes, otherRuns.outcome_eq runs]

/-- The flags of all items can be cleared. -/
abbrev Flaggable (items : List Item) : Prop :=
  ∀ item ∈ items, item.takesFlag = true

theorem Flaggable.take {items : List Item} (flaggable : Flaggable items) (count : Nat) :
    Flaggable (items.take count) := by
  intro item member
  exact flaggable item (List.mem_of_mem_take member)

theorem flaggable_blocks (blocks : List Block) : Flaggable (blocks.map .block) := by
  intro item member
  obtain ⟨block, -, rfl⟩ := List.mem_map.1 member
  rfl

theorem flagless?_eq_none_iff {items : List Item} : flagless? items = none ↔ Flaggable items := by
  simp only [flagless?, List.findSome?_eq_none_iff, Flaggable, Item.takesFlag,
    Option.isNone_iff_eq_none]

theorem flagless?_eq_some_iff {items : List Item} {typeName : String} :
    flagless? items = some typeName ↔ ∃ before after,
      items = before ++ .foreign typeName false :: after ∧ Flaggable before := by
  simp only [flagless?, List.findSome?_eq_some_iff, Item.flagless?_eq_some_iff, Flaggable,
    Item.takesFlag, Option.isNone_iff_eq_none]
  constructor
  · rintro ⟨before, item, after, split, rfl, taken⟩
    exact ⟨before, after, split, taken⟩
  · rintro ⟨before, after, split, taken⟩
    exact ⟨before, _, after, split, rfl, taken⟩

theorem execute_of_flagless {items : List Item} {typeName : String}
    (refuses : flagless? items = some typeName) (limit : Option Int) :
    execute limit items = .error (.noFlag typeName) := by
  simp only [execute, refuses]

theorem flaggable_or_flagless (limit : Option Int) (items : List Item) :
    Flaggable items ∨ ∃ typeName, flagless? items = some typeName ∧
      execute limit items = .error (.noFlag typeName) := by
  cases found : flagless? items with
  | none => exact .inl (flagless?_eq_none_iff.1 found)
  | some typeName => exact .inr ⟨typeName, rfl, execute_of_flagless found limit⟩

theorem flaggable_of_ok {limit : Option Int} {items : List Item} {report : Report}
    (ran : execute limit items = .ok report) : Flaggable items := by
  rcases flaggable_or_flagless limit items with flaggable | ⟨typeName, -, refused⟩
  · exact flaggable
  · rw [refused] at ran
    cases ran

theorem execute_of_beyond {items : List Item} (flaggable : Flaggable items) {most : Int}
    (beyond : most < items.length) : execute (some most) items =
      .ok (State.start.report (some (.overLimit items.length most))) := by
  simp only [execute, flagless?_eq_none_iff.2 flaggable, if_pos beyond]

/-- A list is refused as a whole, or run from its start. -/
theorem execute_cases {items : List Item} (flaggable : Flaggable items) (limit : Option Int) :
    (∃ most ∈ limit, most < items.length ∧ execute limit items =
      .ok (State.start.report (some (.overLimit items.length most)))) ∨
    (∀ most ∈ limit, (items.length : Int) ≤ most) ∧ execute limit items = runFrom items .start := by
  have taken := flagless?_eq_none_iff.2 flaggable
  cases limit with
  | none => exact .inr ⟨by simp, by simp only [execute, taken]⟩
  | some most =>
    by_cases beyond : most < items.length
    · exact .inl ⟨most, rfl, beyond, execute_of_beyond flaggable beyond⟩
    · refine .inr ⟨?_, by simp only [execute, taken, if_neg beyond]⟩
      intro other same
      cases same
      exact Int.not_lt.1 beyond

theorem execute_of_within {limit : Option Int} {items : List Item} (flaggable : Flaggable items)
    (within : ∀ most ∈ limit, (items.length : Int) ≤ most) :
    execute limit items = runFrom items .start := by
  rcases execute_cases flaggable limit with ⟨most, given, beyond, -⟩ | ⟨-, runs⟩
  · exact absurd beyond (Int.not_lt.2 (within most given))
  · exact runs

theorem runFrom_of_within {limit : Option Int} {items : List Item} {report : Report}
    (within : ∀ most ∈ limit, (items.length : Int) ≤ most)
    (ran : execute limit items = .ok report) : runFrom items .start = .ok report := by
  rw [← execute_of_within (flaggable_of_ok ran) within]
  exact ran

theorem execute_none {items : List Item} (flaggable : Flaggable items) :
    execute none items = runFrom items .start :=
  execute_of_within flaggable (by simp)

theorem runFrom_of_unlimited {items : List Item} {report : Report}
    (ran : execute none items = .ok report) : runFrom items .start = .ok report :=
  runFrom_of_within (by simp) ran

/-- Lists of one length that are cleared and run alike return the same under any limit. -/
theorem execute_of_runFrom_eq {items others : List Item} (sameLength : others.length = items.length)
    (sameFlags : flagless? others = flagless? items)
    (same : runFrom others .start = runFrom items .start) (limit : Option Int) :
    execute limit others = execute limit items := by
  simp only [execute, sameLength, sameFlags, same]

/-- A run that fails stops at a block of the list, and the list up to that block runs through
to the environment in which the block fails. -/
theorem Runs.of_failed {does : Doing} {position index : Nat} {env : Env} {items : List Item}
    {report : Report} {fault : Block.Fault} (runs : Runs does position env items (.ok report))
    (failed : report.halt = some (.failed index fault)) :
    ∃ length block, index = position + length ∧ items[length]? = some (.block block) ∧
      does report.env block (.error fault) ∧
      Runs does position env (items.take length) (.ok { report with halt := none }) := by
  generalize whole : (Except.ok report : Outcome) = outcome at runs
  induction runs generalizing report with
  | done =>
    cases whole
    cases failed
  | foreign => cases whole
  | @failed position env block rest found fails =>
    cases whole
    cases failed
    exact ⟨0, block, rfl, rfl, fails, .done⟩
  | @next position env after block rest outcome performs later ih =>
    obtain ⟨tail, rfl, rfl⟩ := Outcome.of_after_ok whole.symm
    have stopped : tail.halt = some (.failed index fault) := failed
    obtain ⟨length, stop, place, found, fails, before⟩ := ih stopped rfl
    exact ⟨length + 1, stop, by omega, found, fails, .next performs before⟩
  | last =>
    cases whole
    cases failed
  | @skip position env after block dropped rest outcome performs later ih =>
    obtain ⟨tail, rfl, rfl⟩ := Outcome.of_after_ok whole.symm
    have stopped : tail.halt = some (.failed index fault) := failed
    obtain ⟨length, stop, place, found, fails, before⟩ := ih stopped rfl
    exact ⟨length + 2, stop, by omega, found, fails, .skip performs before⟩

theorem halt_of_failedIndex {report : Report} {index : Nat}
    (failed : report.failedIndex = some index) :
    ∃ fault, report.halt = some (.failed index fault) := by
  unfold Report.failedIndex at failed
  obtain ⟨halt, halted, found⟩ := Option.bind_eq_some_iff.1 failed
  cases halt with
  | failed other fault =>
    cases found
    exact ⟨fault, halted⟩
  | overLimit count limit => cases found

/-- Only a run of the list itself stops at one of its blocks. -/
theorem runs_of_failedIndex {limit : Option Int} {items : List Item} {report : Report} {index : Nat}
    (ran : execute limit items = .ok report) (failed : report.failedIndex = some index) :
    (∀ most ∈ limit, (items.length : Int) ≤ most) ∧ Runs Performs 0 .empty items (.ok report) := by
  rcases execute_cases (flaggable_of_ok ran) limit with
    ⟨most, given, beyond, refused⟩ | ⟨within, runs⟩
  · rw [refused] at ran
    cases ran
    cases failed
  · rw [runs] at ran
    exact ⟨within, (runFrom_eq_iff_runs items _).1 ran⟩

theorem block_of_failedIndex {limit : Option Int} {items : List Item} {report : Report} {index : Nat}
    (ran : execute limit items = .ok report) (failed : report.failedIndex = some index) :
    ∃ block, items[index]? = some (.block block) := by
  obtain ⟨fault, halted⟩ := halt_of_failedIndex failed
  obtain ⟨length, block, place, found, -⟩ := (runs_of_failedIndex ran failed).2.of_failed halted
  rw [Nat.zero_add] at place
  exact ⟨block, place ▸ found⟩

/-- The list up to a failed block runs through and returns what the whole list returned, the
environment in which that block fails included. -/
theorem execute_take_of_failedIndex {limit : Option Int} {items : List Item} {report : Report}
    {index : Nat} (ran : execute limit items = .ok report)
    (failed : report.failedIndex = some index) :
    execute limit (items.take index) = .ok { report with halt := none } ∧
      ∃ block fault, items[index]? = some (.block block) ∧
        report.halt = some (.failed index fault) ∧ block.perform report.env = .error fault := by
  obtain ⟨within, runs⟩ := runs_of_failedIndex ran failed
  obtain ⟨fault, halted⟩ := halt_of_failedIndex failed
  obtain ⟨length, block, place, found, fails, before⟩ := runs.of_failed halted
  rw [Nat.zero_add] at place
  subst place
  refine ⟨?_, block, fault, found, halted, fails⟩
  have shorter : ∀ most ∈ limit, ((items.take index).length : Int) ≤ most := by
    intro most given
    have enough := within most given
    have cut := List.length_take_le' index items
    omega
  rw [execute_of_within ((flaggable_of_ok ran).take index) shorter]
  exact (runFrom_eq_iff_runs _ _).2 before

/-- The second declaration fails at its last name, and neither of its other names is declared. -/
theorem declaration_fails_whole :
    let items : List Item := [.block (.declare "x"), .block (.declare "y, z, z1")]
    let report : Report :=
      ⟨⟨[("x", 0.0)]⟩, some (.failed 1 (.invalidName "z1")), 1, []⟩
    execute (some 2) items = .ok report ∧ report.failedIndex = some 1 ∧
      execute (some 2) [.block (.declare "x")] = .ok ⟨⟨[("x", 0.0)]⟩, none, 1, []⟩ := by
  intro items report
  have ran : execute (some 2) items = .ok report :=
    (runFrom_eq_iff_runs items _).2 (.next rfl (.failed rfl))
  exact ⟨ran, rfl, (execute_take_of_failedIndex ran rfl).1⟩

end BlockMachine.Machine
