import BlockMachine.Proofs.Accounting

/-!
Foreign items in a list. One that takes no flag keeps the list from being run,
wherever it stands and whatever the limit. Otherwise a run breaks off at a foreign
item exactly when its cursor comes there: the items in front of it run through,
and the last of them is no false condition, which would skip it. A foreign item
that takes its flag and is skipped, or stands behind a block that fails, or in a
list beyond the limit, is never looked at, and whatever goes wrong inside a block
is told in the report.
-/

namespace BlockMachine.Machine

/-- The items in front of the position run through with this report, and the last of them does not
skip the position. -/
structure ComesTo (limit : Option Int) (items : List Item) (place : Nat) (report : Report) :
    Prop where
  ran : execute limit (items.take place) = .ok report
  succeeded : report.succeeded = true
  kept : ¬EndsFalse (items.take place)

theorem Trace.after_le {items : List Item} {turns : List Turn} {state : State}
    (trace : Trace items turns state) {turn : Turn} (member : turn ∈ turns) :
    (turn.before.after items.length turn.effect).cursor ≤ state.cursor := by
  rcases trace.after_turn member with here | ⟨next, taken, here⟩
  · exact Nat.le_of_eq (congrArg State.cursor here)
  · have behind : next.before.cursor < state.cursor := trace.place_lt taken
    rw [← here]
    omega

theorem proceed_or_lt {state : State} {count place : Nat} {effect : Block.Effect}
    (reached : (state.after count effect).cursor ≤ place) (inside : place < count) :
    effect.proceed = true ∨ state.cursor + 1 < place := by
  have forward := state.cursor_lt_after count effect
  obtain ⟨env, proceed⟩ := effect
  cases proceed with
  | true => exact .inl rfl
  | false =>
    rw [State.after_skip (by omega)] at reached
    exact .inr reached

/-- A trace that ends in front of a position does not depend on the items from there on. -/
theorem Trace.take {items : List Item} {turns : List Turn} {state : State}
    (trace : Trace items turns state) {place : Nat} (reached : state.cursor ≤ place)
    (inside : place < items.length) : Trace (items.take place) turns state := by
  have length : (items.take place).length = place := List.length_take_of_le (Nat.le_of_lt inside)
  induction trace with
  | start => exact .start
  | @turn turns state block effect passed found performs ih =>
    have forward := state.cursor_lt_after items.length effect
    have kept := proceed_or_lt reached inside
    rw [← length] at kept
    have same := State.after_append (items.take place) (items.drop place) kept
    rw [List.take_append_drop] at same
    rw [same]
    apply (ih (by omega)).turn _ performs
    rw [List.getElem?_take_of_lt (by omega), found]

theorem Trace.not_endsFalse {items : List Item} {turns : List Turn} {state : State}
    (trace : Trace items turns state) (inside : state.cursor < items.length) :
    ¬EndsFalse (items.take state.cursor) := by
  have length : (items.take state.cursor).length = state.cursor :=
    List.length_take_of_le (Nat.le_of_lt inside)
  rintro ⟨others, other, dangling, turn, taken, last, -, stays⟩
  have ends : Ends (items.take state.cursor) state (.ok (state.report none)) :=
    .done (Nat.le_of_eq length)
  -- the run of the list takes that turn as well, and it would move the cursor past the position
  have member : turn ∈ turns := (trace.take (Nat.le_refl _) inside).mem_of_ends ends dangling taken
  rw [length] at last
  rcases proceed_or_lt (trace.after_le member) inside with proceeds | before
  · rw [proceeds] at stays
    cases stays
  · have here : turn.before.cursor + 1 = state.cursor := last
    omega

theorem Flaggable.of_foreign {items : List Item} (flaggable : Flaggable items) {place : Nat}
    {typeName : String} {takesFlag : Bool}
    (found : items[place]? = some (.foreign typeName takesFlag)) : takesFlag = true := by
  cases takesFlag with
  | true => rfl
  | false => exact flaggable _ (List.mem_of_getElem? found)

section Cleared

variable {limit : Option Int} {items : List Item} {place : Nat} {report : Report}
  (flaggable : Flaggable items) (within : ∀ most ∈ limit, (items.length : Int) ≤ most)
include flaggable within

/-- A position is come to exactly when the cursor of the whole list comes there, and the report of
the items in front of it tells the state of the cursor. -/
theorem comesTo_iff_trace (inside : place < items.length) :
    ComesTo limit items place report ↔
      ∃ turns state, Trace items turns state ∧ state.cursor = place ∧
        report = state.report none := by
  have length : (items.take place).length = place := List.length_take_of_le (Nat.le_of_lt inside)
  have shorter : ∀ most ∈ limit, ((items.take place).length : Int) ≤ most := by
    intro most given
    have enough := within most given
    omega
  have runs := execute_of_within (flaggable.take place) shorter
  constructor
  · rintro ⟨ran, succeeded, kept⟩
    rw [runs] at ran
    obtain ⟨turns, trace⟩ := exists_trace_of_succeeded ran succeeded
    have longer := trace.append (items.drop place) (trace.inside_of_not_endsFalse kept)
    rw [List.take_append_drop] at longer
    refine ⟨turns, _, longer, length, ?_⟩
    obtain ⟨env, halt, steps, skipped⟩ := report
    cases halt with
    | none => rfl
    | some halt => cases succeeded
  · rintro ⟨turns, state, trace, rfl, rfl⟩
    have front := trace.take (Nat.le_refl _) inside
    have ends : Ends (items.take state.cursor) state (.ok (state.report none)) :=
      .done (Nat.le_of_eq length)
    exact ⟨by rw [runs, front.runFrom_eq, ends.runFrom_eq], rfl, trace.not_endsFalse inside⟩

/-- The run of a list goes on from any position it comes to. -/
theorem ComesTo.execute_eq (comes : ComesTo limit items place report)
    (inside : place < items.length) :
    execute limit items = runFrom items ⟨place, report.env, report.steps, report.skipped⟩ := by
  obtain ⟨turns, state, trace, rfl, rfl⟩ := (comesTo_iff_trace flaggable within inside).1 comes
  rw [execute_of_within flaggable within, trace.runFrom_eq]
  rfl

theorem ComesTo.execute_of_foreign {typeName : String} {takesFlag : Bool}
    (comes : ComesTo limit items place report)
    (found : items[place]? = some (.foreign typeName takesFlag)) :
    execute limit items = .error (.noBlock typeName) := by
  obtain ⟨inside, -⟩ := List.getElem?_eq_some_iff.1 found
  have ends : Ends items ⟨place, report.env, report.steps, report.skipped⟩ _ := .foreign found
  rw [comes.execute_eq flaggable within inside, ends.runFrom_eq]

theorem ComesTo.execute_of_fault {block : Block} {fault : Block.Fault}
    (comes : ComesTo limit items place report) (found : items[place]? = some (.block block))
    (fails : block.perform report.env = .error fault) :
    execute limit items = .ok { report with halt := some (.failed place fault) } := by
  obtain ⟨inside, -⟩ := List.getElem?_eq_some_iff.1 found
  have ends : Ends items ⟨place, report.env, report.steps, report.skipped⟩ _ := .failed found fails
  rw [comes.execute_eq flaggable within inside, ends.runFrom_eq]
  rfl

end Cleared

theorem comesTo_of_error {limit : Option Int} {items : List Item} {unsupported : Unsupported}
    (flaggable : Flaggable items) (broke : execute limit items = .error unsupported) :
    (∀ most ∈ limit, (items.length : Int) ≤ most) ∧ ∃ place report typeName,
      unsupported = .noBlock typeName ∧ items[place]? = some (.foreign typeName true) ∧
      ComesTo limit items place report := by
  rcases execute_cases flaggable limit with ⟨most, given, beyond, refused⟩ | ⟨within, runs⟩
  · rw [refused] at broke
    cases broke
  · obtain ⟨turns, last, trace, ends⟩ := exists_trace_to_end items
    rw [← runs, broke] at ends
    cases ends with
    | @foreign typeName takesFlag found =>
      cases flaggable.of_foreign found
      obtain ⟨inside, -⟩ := List.getElem?_eq_some_iff.1 found
      exact ⟨within, last.cursor, last.report none, typeName, rfl, found,
        (comesTo_iff_trace flaggable within inside).2 ⟨turns, last, trace, rfl, rfl⟩⟩

theorem execute_eq_noFlag_iff {limit : Option Int} {items : List Item} {typeName : String} :
    execute limit items = .error (.noFlag typeName) ↔ flagless? items = some typeName := by
  constructor
  · intro broke
    rcases flaggable_or_flagless limit items with flaggable | ⟨other, found, refused⟩
    · obtain ⟨-, place, report, other, named, -⟩ := comesTo_of_error flaggable broke
      cases named
    · rw [refused] at broke
      cases broke
      exact found
  · intro found
    exact execute_of_flagless found limit

theorem flaggable_of_noBlock {limit : Option Int} {items : List Item} {typeName : String}
    (broke : execute limit items = .error (.noBlock typeName)) : Flaggable items := by
  rcases flaggable_or_flagless limit items with flaggable | ⟨other, -, refused⟩
  · exact flaggable
  · rw [refused] at broke
    cases broke

/-- A list breaks off before it is run exactly when an item takes no flag, and tells the type of the
first such item. Any other list breaks off exactly when it is within its limit and the cursor comes
to a foreign item, and tells the type of that item; else it returns a report. So does a list whose
cursor comes to a block that fails: the report of the items in front of it, with the fault and its
position. -/
theorem execute_breaks_off_iff_foreign (limit : Option Int) (items : List Item) :
    (∀ typeName, execute limit items = .error (.noFlag typeName) ↔ ∃ before after,
      items = before ++ .foreign typeName false :: after ∧ Flaggable before) ∧
    (∀ typeName, execute limit items = .error (.noBlock typeName) ↔ Flaggable items ∧
      (∀ most ∈ limit, (items.length : Int) ≤ most) ∧ ∃ place report,
        items[place]? = some (.foreign typeName true) ∧ ComesTo limit items place report) ∧
    (Flaggable items → (¬∃ place report typeName, (∀ most ∈ limit, (items.length : Int) ≤ most) ∧
        items[place]? = some (.foreign typeName true) ∧ ComesTo limit items place report) →
      ∃ report, execute limit items = .ok report) ∧
    ∀ place report block fault, Flaggable items → (∀ most ∈ limit, (items.length : Int) ≤ most) →
      ComesTo limit items place report → items[place]? = some (.block block) →
      block.perform report.env = .error fault →
      execute limit items = .ok { report with halt := some (.failed place fault) } := by
  refine ⟨?_, ?_, ?_, ?_⟩
  · intro typeName
    rw [execute_eq_noFlag_iff, flagless?_eq_some_iff]
  · intro typeName
    constructor
    · intro broke
      have flaggable := flaggable_of_noBlock broke
      obtain ⟨within, place, report, other, named, found, comes⟩ := comesTo_of_error flaggable broke
      cases named
      exact ⟨flaggable, within, place, report, found, comes⟩
    · rintro ⟨flaggable, within, place, report, found, comes⟩
      exact comes.execute_of_foreign flaggable within found
  · intro flaggable unreached
    cases outcome : execute limit items with
    | ok report => exact ⟨report, rfl⟩
    | error unsupported =>
      obtain ⟨within, place, report, typeName, -, found, comes⟩ :=
        comesTo_of_error flaggable outcome
      exact absurd ⟨place, report, typeName, within, found, comes⟩ unreached
  · intro place report block fault flaggable within comes found fails
    exact comes.execute_of_fault flaggable within found fails

/-- Of two foreign items the first one is skipped, and the run breaks off at the second one. -/
theorem second_foreign_item_reached :
    let items : List Item := [.block (.declare "x"), .block (.branch "x" ">" "x"),
      .foreign "Loop" true, .foreign "Call" true, .block (.assign "q" "x")]
    Flaggable items ∧ ComesTo (some 5) items 3 ⟨⟨[("x", 0.0)]⟩, none, 2, [2]⟩ ∧
      execute (some 5) items = .error (.noBlock "Call") := by
  intro items
  have flaggable : Flaggable items := List.all_eq_true.1 rfl
  have within : ∀ most ∈ some (5 : Int), (items.length : Int) ≤ most := by
    intro most given
    cases given
    decide
  have declared : Trace items [⟨.start, .declare "x", ⟨⟨[("x", 0.0)]⟩, true⟩⟩]
      ⟨1, ⟨[("x", 0.0)]⟩, 1, []⟩ := Trace.start.turn rfl rfl
  have compared : (Block.branch "x" ">" "x").perform ⟨[("x", 0.0)]⟩ =
      .ok ⟨⟨[("x", 0.0)]⟩, false⟩ := rfl
  have comes : ComesTo (some 5) items 3 ⟨⟨[("x", 0.0)]⟩, none, 2, [2]⟩ :=
    (comesTo_iff_trace flaggable within (by decide)).2
      ⟨_, _, declared.turn rfl compared, rfl, rfl⟩
  exact ⟨flaggable, comes, ((execute_breaks_off_iff_foreign (some 5) items).2.1 "Call").2
    ⟨flaggable, within, 3, _, rfl, comes⟩⟩

/-- An item that takes no flag breaks the run off although a false condition skips it, and so does
one in a list beyond its limit: to be come to is not what decides. -/
theorem flagless_item_breaks_off_unreached :
    let items : List Item := [.block (.declare "x"), .block (.branch "x" ">" "x"),
      .foreign "NoneType" false]
    execute none items = .error (.noFlag "NoneType") ∧
      (¬∃ place report typeName takesFlag, items[place]? = some (.foreign typeName takesFlag) ∧
        ComesTo none items place report) ∧
      execute (some 0) [.foreign "NoneType" false] = .error (.noFlag "NoneType") := by
  intro items
  refine ⟨execute_of_flagless rfl none, ?_, execute_of_flagless rfl (some 0)⟩
  rintro ⟨place, report, typeName, takesFlag, found, comes⟩
  match place with
  | 0 | 1 => cases found
  | 2 => exact comes.kept endsFalse_of_greater_self
  | place + 3 => cases found

end BlockMachine.Machine
