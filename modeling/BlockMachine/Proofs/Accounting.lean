import BlockMachine.Proofs.Composition

/-!
What a run counts and what it lists. Every position the cursor has left behind is
counted as a step or listed as skipped. A position is skipped right behind a
condition that was false, and the cursor goes past both at once, so no two
skipped positions are neighbours. The run that has ended has taken every turn
that any of its traces takes, so its counts are those of the whole list.
-/

namespace BlockMachine.Machine

/-- The counts and the list of a state, told by the turns that led to it. -/
structure Accounts (items : List Item) (turns : List Turn) (state : State) : Prop where
  balance : state.steps + state.skipped.length = state.cursor
  apart : state.skipped.Pairwise fun earlier later => earlier + 1 < later
  skips : ∀ place, place ∈ state.skipped ↔
    place < items.length ∧ ∃ turn ∈ turns, turn.place + 1 = place ∧ turn.effect.proceed = false

theorem accounts_start (items : List Item) : Accounts items [] .start :=
  ⟨rfl, .nil, by simp [State.start]⟩

theorem Accounts.skip {items : List Item} {turns : List Turn} {state : State} {block : Block}
    {env : Env} (accounts : Accounts items turns state)
    (behind : ∀ place ∈ state.skipped, place < state.cursor)
    (more : state.cursor + 1 < items.length) :
    Accounts items (turns ++ [⟨state, block, ⟨env, false⟩⟩])
      (state.after items.length ⟨env, false⟩) := by
  rw [State.after_skip more]
  constructor
  · have balance := accounts.balance
    simp only [List.length_append, List.length_singleton]
    omega
  · rw [List.pairwise_append]
    refine ⟨accounts.apart, List.pairwise_singleton _ _, ?_⟩
    intro earlier skipped later last
    rw [List.mem_singleton] at last
    have before := behind earlier skipped
    omega
  · intro place
    simp only [List.mem_append, List.mem_singleton, accounts.skips place, or_and_right,
      exists_or, exists_eq_left, Turn.place]
    constructor
    · rintro (⟨inside, earlier⟩ | here)
      · exact ⟨inside, .inl earlier⟩
      · exact ⟨by omega, .inr ⟨here.symm, trivial⟩⟩
    · rintro ⟨inside, earlier | ⟨here, -⟩⟩
      · exact .inl ⟨inside, earlier⟩
      · exact .inr here.symm

theorem Accounts.step {items : List Item} {turns : List Turn} {state : State} {block : Block}
    {effect : Block.Effect} (accounts : Accounts items turns state)
    (kept : effect.proceed = true ∨ items.length ≤ state.cursor + 1) :
    Accounts items (turns ++ [⟨state, block, effect⟩]) (state.after items.length effect) := by
  have after : state.after items.length effect =
      ⟨state.cursor + 1, effect.env, state.steps + 1, state.skipped⟩ := by
    rcases kept with proceeds | last
    · simp [State.after, proceeds]
    · simp [State.after, Nat.not_lt.2 last]
  rw [after]
  constructor
  · have balance := accounts.balance
    simp only
    omega
  · exact accounts.apart
  · intro place
    simp only [List.mem_append, List.mem_singleton, accounts.skips place, or_and_right,
      exists_or, exists_eq_left, Turn.place]
    constructor
    · rintro ⟨inside, earlier⟩
      exact ⟨inside, .inl earlier⟩
    · rintro ⟨inside, earlier | ⟨here, stays⟩⟩
      · exact ⟨inside, earlier⟩
      · rcases kept with proceeds | last
        · rw [proceeds] at stays
          cases stays
        · omega

theorem Trace.accounts {items : List Item} {turns : List Turn} {state : State}
    (trace : Trace items turns state) : Accounts items turns state := by
  induction trace with
  | start => exact accounts_start items
  | @turn turns state block effect passed found performs ih =>
    obtain ⟨env, proceed⟩ := effect
    -- only a false condition with an item behind it books a skipped position beside its step
    by_cases more : proceed = false ∧ state.cursor + 1 < items.length
    · obtain ⟨rfl, inside⟩ := more
      exact ih.skip (fun place skipped => passed.mem_skipped_lt skipped) inside
    · apply ih.step
      cases proceed with
      | true => exact .inl rfl
      | false => exact .inr (Nat.not_lt.1 fun inside => more ⟨rfl, inside⟩)

theorem Ends.not_performs {items : List Item} {state : State} {report : Report}
    (ends : Ends items state (.ok report)) {block : Block} {effect : Block.Effect}
    (found : items[state.cursor]? = some (.block block)) :
    block.perform state.env ≠ .ok effect := by
  intro performs
  cases ends with
  | done outside =>
    obtain ⟨inside, -⟩ := List.getElem?_eq_some_iff.1 found
    omega
  | failed present fails =>
    rw [found] at present
    cases present
    rw [fails] at performs
    cases performs

/-- A trace that has come to the end of its run has taken every turn there is. -/
theorem Trace.mem_of_ends {items : List Item} {turns others : List Turn} {last state : State}
    {report : Report} (trace : Trace items turns last) (ends : Ends items last (.ok report))
    (other : Trace items others state) {turn : Turn} (taken : turn ∈ others) : turn ∈ turns := by
  obtain ⟨⟨earlier, before⟩, found, performs⟩ := other.exists_before taken
  rcases before.meets trace with here | ⟨same, member, begins⟩ | ⟨later, member, beyond⟩
  · rw [Turn.place, here] at found
    rw [here] at performs
    exact absurd performs (ends.not_performs found)
  · -- the trace takes its turn in the same state, and there a block does one thing only
    obtain ⟨-, present, does⟩ := trace.exists_before member
    obtain ⟨state, block, effect⟩ := turn
    obtain ⟨state', block', effect'⟩ := same
    cases begins
    simp only [Turn.place] at found present performs does
    rw [found] at present
    cases present
    rw [performs] at does
    cases does
    exact member
  · obtain ⟨-, present, does⟩ := before.exists_before member
    rw [Turn.place, beyond] at present
    rw [beyond] at does
    exact absurd does (ends.not_performs present)

/-- The cursor comes to a condition at this position; both its sides have values, and the
comparison does not hold between them. -/
def FalseAt (items : List Item) (place : Nat) : Prop :=
  ∃ turns state left symbol right x y, Trace items turns state ∧ state.cursor = place ∧
    items[place]? = some (.block (.branch left symbol right)) ∧
    Formula.evaluate state.env left = .ok x ∧ Formula.evaluate state.env right = .ok y ∧
    (Block.comparisons x y).lookup (Block.trimmed symbol) = some false

theorem falseAt_iff_turn {items : List Item} {place : Nat} :
    FalseAt items place ↔ ∃ turns state, Trace items turns state ∧
      ∃ turn ∈ turns, turn.place = place ∧ turn.effect.proceed = false := by
  constructor
  · rintro ⟨turns, state, left, symbol, right, x, y, trace, rfl, found, leftEvaluates,
      rightEvaluates, known⟩
    have performs : (Block.branch left symbol right).perform state.env =
        .ok ⟨state.env, false⟩ := by
      simp only [Block.perform, Block.evaluate_ok leftEvaluates, Block.evaluate_ok rightEvaluates,
        Block.compare_eq_lookup, known, Except.bind, Except.map]
    exact ⟨_, _, trace.turn found performs, _, List.mem_append_right _ List.mem_cons_self, rfl, rfl⟩
  · rintro ⟨turns, state, trace, turn, member, rfl, stays⟩
    obtain ⟨⟨earlier, before⟩, found, performs⟩ := trace.exists_before member
    rcases Block.perform_cases performs with ⟨names, -, -, -, proceeds⟩ |
      ⟨target, expression, value, -, -, -, proceeds⟩ |
      ⟨left, symbol, right, x, y, holds, branch, leftEvaluates, rightEvaluates, known, compared⟩
    · rw [proceeds] at stays
      cases stays
    · rw [proceeds] at stays
      cases stays
    · rw [branch] at found
      rw [compared] at stays
      cases stays
      exact ⟨earlier, turn.before, left, symbol, right, x, y, before, rfl, found, leftEvaluates,
        rightEvaluates, known⟩

section Ended

variable {items : List Item} {turns : List Turn} {last : State} {report : Report}
  (trace : Trace items turns last) (ends : Ends items last (.ok report))
include trace ends

theorem Trace.mem_skipped_iff (place : Nat) :
    place ∈ last.skipped ↔ 1 ≤ place ∧ place < items.length ∧ FalseAt items (place - 1) := by
  rw [trace.accounts.skips place, falseAt_iff_turn]
  constructor
  · rintro ⟨inside, turn, member, rfl, stays⟩
    exact ⟨by omega, inside, turns, last, trace, turn, member, by omega, stays⟩
  · rintro ⟨positive, inside, others, state, other, turn, taken, behind, stays⟩
    exact ⟨inside, turn, trace.mem_of_ends ends other taken, by omega, stays⟩

theorem Trace.exists_performed :
    ∃ performed : List Nat, performed.Nodup ∧ (∀ place, place ∈ performed ↔ Performed items place) ∧
      last.steps = performed.length := by
  have distinct := trace.partition.nodup_iff.2 List.nodup_range
  refine ⟨turns.map Turn.place, (List.nodup_append.1 distinct).1, ?_, ?_⟩
  · intro place
    rw [List.mem_map]
    constructor
    · rintro ⟨turn, member, here⟩
      exact ⟨turns, last, trace, turn, member, here⟩
    · rintro ⟨others, state, other, turn, taken, here⟩
      exact ⟨turn, trace.mem_of_ends ends other taken, here⟩
  · rw [trace.steps_eq, List.length_map]

end Ended

/-- The books of a list that was run. Steps and skipped positions add up to the length of the list,
or to the position of the block that failed, which is not skipped. The skipped positions ascend,
no two of them are neighbours, and they are those behind the false conditions, the end of the list
apart. The steps are the positions performed without a fault. -/
theorem execute_accounts {limit : Option Int} {items : List Item} {report : Report}
    (within : ∀ most ∈ limit, (items.length : Int) ≤ most)
    (ran : execute limit items = .ok report) :
    (report.halt = none ∧ report.steps + report.skipped.length = items.length ∨
      ∃ index fault, report.halt = some (.failed index fault) ∧
        report.steps + report.skipped.length = index ∧ index ∉ report.skipped) ∧
    (report.skipped.Pairwise fun earlier later => earlier + 1 < later) ∧
    (∀ place, place ∈ report.skipped ↔
      1 ≤ place ∧ place < items.length ∧ FalseAt items (place - 1)) ∧
    ∃ performed : List Nat, performed.Nodup ∧ (∀ place, place ∈ performed ↔ Performed items place) ∧
      report.steps = performed.length := by
  obtain ⟨turns, last, trace, ends⟩ := exists_trace_to_end items
  rw [runFrom_of_within within ran] at ends
  have skipped := trace.mem_skipped_iff ends
  have counted := trace.exists_performed ends
  have books := trace.accounts
  cases ends with
  | done outside =>
    have through : last.cursor = items.length := Nat.le_antisymm trace.cursor_le outside
    exact ⟨.inl ⟨rfl, books.balance.trans through⟩, books.apart, skipped, counted⟩
  | @failed block fault found fails =>
    have kept : last.cursor ∉ last.skipped := fun member =>
      Nat.lt_irrefl _ (trace.mem_skipped_lt member)
    exact ⟨.inr ⟨last.cursor, fault, rfl, books.balance, kept⟩, books.apart, skipped, counted⟩

/-- Two conditions are false; a third one that would be false stands where nothing is performed. -/
theorem skipped_condition_skips_nothing :
    let items : List Item := [.block (.declare "x"), .block (.branch "x" ">" "x"), .foreign "Loop",
      .block (.branch "x" "=" "x"), .block (.branch "x" "<" "x"), .block (.branch "x" "!=" "x"),
      .block (.assign "q" "x")]
    let report : Report :=
      ⟨⟨[("x", 0.0)]⟩, some (.failed 6 (.undeclared "q")), 4, [2, 5]⟩
    (∀ most ∈ some (7 : Int), (items.length : Int) ≤ most) ∧
      execute (some 7) items = .ok report ∧ FalseAt items 4 ∧ ¬FalseAt items 5 := by
  intro items report
  have within : ∀ most ∈ some (7 : Int), (items.length : Int) ≤ most := by
    intro most given
    cases given
    decide
  have greater : (Block.branch "x" ">" "x").perform ⟨[("x", 0.0)]⟩ =
      .ok ⟨⟨[("x", 0.0)]⟩, false⟩ := rfl
  have less : (Block.branch "x" "<" "x").perform ⟨[("x", 0.0)]⟩ =
      .ok ⟨⟨[("x", 0.0)]⟩, false⟩ := rfl
  have runs : Runs Performs 0 .empty items (.ok report) :=
    .next rfl (.skip greater (.next rfl (.skip less (.failed rfl))))
  have ran : execute (some 7) items = .ok report := (runFrom_eq_iff_runs _ _).2 runs
  obtain ⟨-, -, skipped, -⟩ := execute_accounts within ran
  refine ⟨within, ran, ((skipped 5).1 (by decide)).2.2, ?_⟩
  intro fails
  have listed : 6 ∈ report.skipped := (skipped 6).2 ⟨by decide, by decide, fails⟩
  exact absurd listed (by decide)

end BlockMachine.Machine
