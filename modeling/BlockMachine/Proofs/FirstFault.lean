import BlockMachine.Proofs.Paths

/-!
A fault is reported at the leftmost place possible. What stands before its column
can still be completed to a formula: a zero stands in for an awaited operand, and
then every open parenthesis is closed. A character that no operand starts with,
one that should have closed a parenthesis, and one behind a complete formula rule
out every continuation, whatever names are known.
-/

namespace BlockMachine.Formula
open Grammar

/-- With nothing but `more` behind it, the text is a formula. -/
def Completes (rules : Rules) (text more : List Char) : Prop :=
  (∀ c ∈ more, Text.isBlank c = false) ∧ ∃ formula, Derives rules 0 (text ++ more) formula

theorem Completes.cons {rules : Rules} {text more : List Char} {c : Char}
    (completes : Completes rules (text ++ [c]) more) (solid : Text.isBlank c = false) :
    Completes rules text (c :: more) := by
  obtain ⟨solidMore, formula, derives⟩ := completes
  refine ⟨?_, formula, ?_⟩
  · intro d member
    rcases List.mem_cons.1 member with same | later
    · rw [same]
      exact solid
    · exact solidMore d later
  · rwa [List.append_assoc, List.singleton_append] at derives

/-- Behind a complete operand, closing every open parenthesis completes the formula. -/
theorem exists_completes_of_chain {rules : Rules} {chain : Chain} {text : List Char}
    (spells : (State.operator chain).Spells rules text) : ∃ more, Completes rules text more := by
  -- one parenthesis closes one level, so the induction is on the levels still open
  induction levels : chain.outer generalizing chain text with
  | nil =>
    refine ⟨[], by simp, chain.total, ?_⟩
    rw [List.append_nil]
    exact derives_of_outermost spells levels
  | cons frame outer ih =>
    have closes : step rules 1 (.operator chain) ')' = .ok (.go _) :=
      step_close (.operator chain) levels 1
    obtain ⟨more, completes⟩ := ih (step_spells spells closes) rfl
    exact ⟨')' :: more, completes.cons (by decide)⟩

theorem Settled.exists_completes {rules : Rules} {state : State} {chain : Chain} {text : List Char}
    (settled : Settled rules state chain) (spells : state.Spells rules text) :
    ∃ more, Completes rules text more :=
  exists_completes_of_chain (settled.spells spells)

/-- A zero stands in for the operand that is awaited. -/
theorem Awaits.exists_completes {rules : Rules} {frame : Frame} {outer : List Frame}
    {text : List Char} (awaits : Awaits rules frame outer text) :
    ∃ more, Completes rules text more := by
  have entered : Formula.enter rules 1 frame outer '0' =
      .ok (.go (.number frame outer ['0'])) := rfl
  have reads : Number.Literal.read? ['0'].reverse =
      some (Number.Literal.decimal ['0']).toFloat := rfl
  have settled : Settled rules (.number frame outer ['0']) _ := .number reads
  obtain ⟨more, completes⟩ := settled.exists_completes (awaits.enter entered)
  exact ⟨'0' :: more, completes.cons (by decide)⟩

/-- The column of the fault is right behind a part of what was read that can be completed, by
nothing at all if the fault is a trailing character. -/
def Located (rules : Rules) (read : List Char) (fault : Fault) : Prop :=
  ∀ column, fault.column? = some column → ∃ before after more, read = before ++ after ∧
    column = before.length + 1 ∧ Completes rules before more ∧
    (fault.code = "TRAILING_INPUT" → more = [])

theorem Completes.located {rules : Rules} {read more : List Char} {fault : Fault}
    (completes : Completes rules read more)
    (here : ∀ column, fault.column? = some column → column = 1 + read.length)
    (trailing : fault.code = "TRAILING_INPUT" → more = []) : Located rules read fault := by
  intro column located
  have place := here column located
  exact ⟨read, [], more, by rw [List.append_nil], by omega, completes, trailing⟩

theorem Unsettled.located {rules : Rules} {state : State} {read : List Char} {fault : Fault}
    (unsettled : Unsettled rules (1 + read.length) state fault)
    (spells : state.Spells rules read) : Located rules read fault := by
  have start : ∀ before spelled : List Char, read = before ++ spelled.reverse →
      1 + read.length - spelled.length = before.length + 1 := by
    intro before spelled whole
    rw [whole, List.length_append, List.length_reverse]
    omega
  intro column located
  cases unsettled with
  | @number frame outer spelled malformed =>
    obtain ⟨before, whole, awaits, -⟩ := spells
    obtain ⟨more, completes⟩ := awaits.exists_completes
    cases located
    exact ⟨before, spelled.reverse, more, whole, start before spelled whole, completes,
      by simp [Fault.code]⟩
  | @name frame outer spelled undeclared =>
    obtain ⟨before, identifier, -, whole, awaits⟩ := spells
    obtain ⟨more, completes⟩ := awaits.exists_completes
    cases located
    exact ⟨before, spelled.reverse, more, whole, start before spelled whole, completes,
      by simp [Fault.code]⟩

theorem located_of_step {rules : Rules} {state : State} {read : List Char} {c : Char}
    {fault : Fault} (spells : state.Spells rules read)
    (refused : step rules (1 + read.length) state c = .error fault) : Located rules read fault := by
  rcases step_error_cases refused with ⟨frame, outer, rfl, rfl | rfl⟩ | unsettled |
    ⟨chain, settled, rfl⟩
  · intro column located
    cases located
  · obtain ⟨more, completes⟩ := Awaits.exists_completes spells
    exact completes.located (by simp [Fault.column?]) (by simp [Fault.code])
  · exact unsettled.located spells
  · obtain ⟨more, completes⟩ := settled.exists_completes spells
    exact completes.located (by simp [Fault.column?]) (by simp [Fault.code])

theorem located_of_finish {rules : Rules} {state : State} {read : List Char} {fault : Fault}
    (spells : state.Spells rules read)
    (refused : finish rules (1 + read.length) state = .error fault) : Located rules read fault := by
  rcases finish_error_cases refused with ⟨frame, outer, rfl, rfl⟩ | unsettled |
    ⟨chain, settled, rfl⟩
  · obtain ⟨more, completes⟩ := Awaits.exists_completes spells
    exact completes.located (by simp [Fault.column?]) (by simp [Fault.code])
  · exact unsettled.located spells
  · obtain ⟨more, completes⟩ := settled.exists_completes spells
    exact completes.located (by simp [Fault.column?]) (by simp [Fault.code])

theorem Faulty.located {rules : Rules} {read left : List Char} {last : State} {fault : Fault}
    (follows : Follows rules 1 .start read last)
    (faulty : Faulty rules (1 + read.length) last left fault) : Located rules read fault := by
  have spells : last.Spells rules read := follows.spells (start_spells rules)
  cases faulty with
  | unfinished fails => exact located_of_finish spells fails
  | refused refuses => exact located_of_step spells refuses
  | @trailing c rest formula stops =>
    have derives := step_stop_derives spells stops
    have completes : Completes rules read [] := ⟨by simp, formula, by rwa [List.append_nil]⟩
    exact completes.located (by simp [Fault.column?]) fun _ => rfl

/-- A text that has a value is followed to its end. -/
theorem follows_of_evaluate {env : Env} {expression : String} {value : Float}
    (evaluated : evaluate env expression = .ok value) :
    ∃ last, Follows (rulesOf env) 1 .start (Text.squeeze expression.toList) last := by
  obtain ⟨read, left, last, whole, follows, halts⟩ :=
    parseWithin_path (some allowance) env.declares (Text.squeeze expression.toList)
  unfold evaluate evaluateText parse at evaluated
  split at evaluated
  · next formula parsed =>
    rw [parsed] at halts
    refine ⟨last, ?_⟩
    rw [whole, halts.1, List.append_nil]
    exact follows
  · cases evaluated

theorem faulty_of_evaluate {env : Env} {expression : String} {error : Error}
    (fails : evaluate env expression = .error error) :
    error.text = Text.squeeze expression.toList ∧
      ∃ read left last, error.text = read ++ left ∧
        Follows (rulesOf env) 1 .start read last ∧
        Faulty (rulesOf env) (1 + read.length) last left error.fault := by
  obtain ⟨read, left, last, whole, follows, halts⟩ :=
    parseWithin_path (some allowance) env.declares (Text.squeeze expression.toList)
  unfold evaluate evaluateText parse at fails
  split at fails
  · cases fails
  · next fault parsed =>
    cases fails
    rw [parsed] at halts
    exact ⟨rfl, read, left, last, whole, follows, halts⟩

/-- A character lets no reader pass, though the one at hand knows all names before it. -/
structure Blocks (rules : Rules) (column : Nat) (state : State) (c : Char) : Prop where
  stuck : ∀ next, step rules column state c ≠ .ok (.go next)
  defined : ∀ place name, step rules column state c ≠ .error (.undefinedName place name)

theorem Blocks.of_step_eq {rules : Rules} {column : Nat} {state : State} {c : Char}
    {result : Except Fault Move} (steps : step rules column state c = result)
    (stuck : ∀ next, result ≠ .ok (.go next))
    (defined : ∀ place name, result ≠ .error (.undefinedName place name)) :
    Blocks rules column state c := by
  subst steps
  exact ⟨stuck, defined⟩

/-- Behind such a character no text has a value, in any environment. -/
theorem Blocks.evaluate_ne_ok {env other : Env} {read more : List Char} {last : State} {c : Char}
    {expression : String} {value : Float}
    (follows : Follows (rulesOf env) 1 .start read last)
    (blocks : Blocks (rulesOf env) (1 + read.length) last c)
    (text : Text.squeeze expression.toList = read ++ c :: more) :
    evaluate other expression ≠ .ok value := by
  intro evaluated
  have sameLevel : (rulesOf env).level = (rulesOf other).level := rfl
  have sameAllowance : (rulesOf env).allowance = (rulesOf other).allowance := rfl
  obtain ⟨final, through⟩ := follows_of_evaluate evaluated
  rw [text] at through
  obtain ⟨middle, before, after⟩ := through.of_append
  have same : last = middle := follows.unique sameLevel sameAllowance before
  subst same
  cases after with
  | cons moves later =>
    have agree := step_eq_of_defined sameLevel sameAllowance blocks.defined
      (fun place name undefined => by rw [moves] at undefined; cases undefined)
    exact blocks.stuck _ (agree.trans moves)

/-- The faults that rule out every continuation, each at the character it is reported at. -/
theorem Faulty.blocks {rules : Rules} {read left : List Char} {last : State} {fault : Fault}
    {column : Nat} (faulty : Faulty rules (1 + read.length) last left fault)
    (located : fault.column? = some column)
    (final : fault.code = "UNEXPECTED_CHARACTER" ∨ fault.code = "TRAILING_INPUT" ∨
      fault.code = "UNBALANCED_PARENTHESES" ∧ column ≤ (read ++ left).length) :
    ∃ c rest, left = c :: rest ∧ column = read.length + 1 ∧
      Blocks rules (1 + read.length) last c := by
  have unsettled : ∀ {column state}, ¬Unsettled rules column state fault := by
    intro place state unsettled
    cases unsettled with
    | number malformed => simp [Fault.code] at final
    | name undeclared => simp [Fault.code] at final
  cases faulty with
  | unfinished fails =>
    rcases finish_error_cases fails with ⟨frame, outer, rfl, rfl⟩ | incomplete |
      ⟨chain, settled, rfl⟩
    · simp [Fault.code] at final
    · exact absurd incomplete unsettled
    · -- the end of the text is no character of it
      cases located
      rcases final with other | other | ⟨-, inside⟩
      · simp [Fault.code] at other
      · simp [Fault.code] at other
      · rw [List.append_nil] at inside
        omega
  | @refused c rest fault refuses =>
    have blocks : Blocks rules (1 + read.length) last c := by
      apply Blocks.of_step_eq refuses
      · intro next moved
        cases moved
      · intro place name undefined
        cases undefined
        simp [Fault.code] at final
    refine ⟨c, rest, rfl, ?_, blocks⟩
    rcases step_error_cases refuses with ⟨frame, outer, rfl, rfl | rfl⟩ | incomplete |
      ⟨chain, settled, rfl⟩
    · cases located
    · cases located
      omega
    · exact absurd incomplete unsettled
    · cases located
      omega
  | @trailing c rest formula stops =>
    have blocks : Blocks rules (1 + read.length) last c := by
      apply Blocks.of_step_eq stops
      · intro next moved
        cases moved
      · intro place name undefined
        cases undefined
    cases located
    exact ⟨c, rest, rfl, by omega, blocks⟩

/-- What precedes the column of an error can be completed in the same environment, by nothing at
all if the error is a trailing character; and a character that no operand starts with, that closes
nothing or that trails rules out every continuation in every environment. -/
theorem evaluate_error_leftmost {env : Env} {expression : String} {error : Error} {column : Nat}
    (fails : evaluate env expression = .error error)
    (located : error.fault.column? = some column) :
    error.text = Text.squeeze expression.toList ∧ 1 ≤ column ∧ column ≤ error.text.length + 1 ∧
    (∃ more value,
      evaluate env (String.ofList (error.text.take (column - 1) ++ more)) = .ok value ∧
      (error.fault.code = "TRAILING_INPUT" → more = [])) ∧
    (error.fault.code = "UNEXPECTED_CHARACTER" ∨ error.fault.code = "TRAILING_INPUT" ∨
        error.fault.code = "UNBALANCED_PARENTHESES" ∧ column ≤ error.text.length →
      ∀ (more : List Char) (other : Env), ∃ refusal,
        evaluate other (String.ofList (error.text.take column ++ more)) = .error refusal) := by
  obtain ⟨text, read, left, last, whole, follows, faulty⟩ := faulty_of_evaluate fails
  have solid : ∀ c ∈ error.text, Text.isBlank c = false := by
    intro c member
    rw [text] at member
    exact Text.isBlank_of_mem_squeeze member
  obtain ⟨before, after, more, parts, place, ⟨solidMore, formula, derives⟩, trailing⟩ :=
    faulty.located follows column located
  have apart : error.text = before ++ (after ++ left) := by
    rw [whole, parts, List.append_assoc]
  refine ⟨text, by omega, ?_, ⟨more, formula.value env.read, ?_, trailing⟩, ?_⟩
  · rw [apart, List.length_append]
    omega
  · have taken : error.text.take (column - 1) = before := by
      rw [apart, place, Nat.add_sub_cancel, List.take_left]
    have solidBoth : ∀ c ∈ before ++ more, Text.isBlank c = false := by
      intro c member
      rcases List.mem_append.1 member with early | late
      · exact solid c (by rw [apart]; exact List.mem_append_left _ early)
      · exact solidMore c late
    rw [taken, evaluate_eq_ok_iff_derives, String.toList_ofList, Text.squeeze_eq_self solidBoth]
    exact ⟨formula, derives, rfl⟩
  · intro final more other
    rw [whole] at final
    obtain ⟨c, rest, rfl, here, blocks⟩ := faulty.blocks located final
    have through : error.text = (read ++ [c]) ++ rest := by
      rw [whole, List.append_assoc, List.singleton_append]
    have taken : error.text.take column = read ++ [c] := by
      rw [through, here, List.take_left' (by simp)]
    have squeezed : Text.squeeze (String.ofList (error.text.take column ++ more)).toList =
        read ++ c :: Text.squeeze more := by
      have solidRead : Text.squeeze (read ++ [c]) = read ++ [c] := by
        apply Text.squeeze_eq_self
        intro d member
        exact solid d (by rw [through]; exact List.mem_append_left _ member)
      rw [String.toList_ofList, taken, Text.squeeze_append, solidRead, List.append_assoc,
        List.singleton_append]
    cases result : evaluate other (String.ofList (error.text.take column ++ more)) with
    | error refusal => exact ⟨refusal, rfl⟩
    | ok value => exact absurd result (blocks.evaluate_ne_ok follows squeezed)

/-- Before the letter one parenthesis is missing; with the letter, nothing helps. -/
theorem letter_behind_number_leftmost :
    let error : Error := ⟨['(', '1', '+', '2', 'a'], .unclosed 5⟩
    evaluate .empty "(1 + 2 a" = .error error ∧ error.fault.column? = some 5 ∧
      (∃ more value, evaluate .empty (String.ofList (['(', '1', '+', '2'] ++ more)) = .ok value) ∧
      ∀ (more : List Char) (other : Env), ∃ refusal,
        evaluate other (String.ofList (['(', '1', '+', '2', 'a'] ++ more)) = .error refusal := by
  intro error
  have fails : evaluate .empty "(1 + 2 a" = .error error := rfl
  obtain ⟨-, -, -, ⟨more, value, completed, -⟩, ruledOut⟩ :=
    evaluate_error_leftmost fails (show error.fault.column? = some 5 from rfl)
  exact ⟨fails, rfl, ⟨more, value, completed⟩, ruledOut (.inr (.inr ⟨rfl, by decide⟩))⟩

end BlockMachine.Formula
