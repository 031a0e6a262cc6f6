import BlockMachine.Proofs.Pointing

/-!
Reading from any place of a text, at each of the three levels: an operand, a
product, or a sum. Something is read or a fault is found, and neither lies outside
of the text. What is read has a derivation from the rule of its level, and ends
before a character that does not carry it on; a sum is read alike when its text
ends there or goes on with a closing parenthesis.
-/

namespace BlockMachine.Formula
open Grammar

/-- The formula of the level that starts at the place: the place behind it, and its value. -/
def readAt (level : Level) (allowance : Option Nat) (env : Env) (text : List Char) (place : Nat) :
    Except Fault (Nat × Float) :=
  (scan ⟨level, allowance, env.declares⟩ (place + 1) .start (text.drop place)).map
    fun (formula, rest) => (text.length - rest.length, formula.value env.read)

/-- Evaluation reads a sum from the front of the text, and nothing may stand behind it. -/
theorem evaluateText_eq_readAt (env : Env) (text : List Char) :
    evaluateText env text =
      match readAt .sum (some allowance) env text 0 with
      | .error fault => .error ⟨text, fault⟩
      | .ok (stop, value) =>
        match text[stop]? with
        | none => .ok value
        | some c => .error ⟨text, .trailing (stop + 1) c⟩ := by
  obtain ⟨read, left, last, whole, -, halts⟩ :=
    scan_path ⟨.sum, some allowance, env.declares⟩ 1 .start text
  unfold evaluateText parse parseWithin readAt
  rw [List.drop_zero, Nat.zero_add]
  generalize scan ⟨.sum, some allowance, env.declares⟩ 1 .start text = result at halts
  cases halts with
  | finished finishes => simp [Except.map]
  | unfinished fails => rfl
  | refused refuses => rfl
  | @stopped c rest formula stops =>
    have place : text.length - (c :: rest).length = read.length := by
      rw [whole, List.length_append]
      omega
    have column : text.length - rest.length = read.length + 1 := by
      rw [whole, List.length_append, List.length_cons]
      omega
    have here : text[read.length]? = some c := by simp [whole]
    simp only [Except.map, place, column, here]

section Stopping

variable {rules : Rules} {column : Nat} {chain : Chain} {c : Char} {formula : Formula}

/-- Products go on at every level but that of operands, and sums at their own level. -/
theorem extend_stop_ends (stopped : extend rules column chain c = .ok (.stop formula)) :
    (rules.level ≠ .operand → scale? c = none) ∧ (rules.level = .sum → sign? c = none) := by
  unfold extend at stopped
  split at stopped
  · next sign found =>
    split at stopped
    · next leaves =>
      refine ⟨fun _ => ?_, fun whole => by simp [whole] at leaves⟩
      rw [eq_symbol_of_sign? found]
      cases sign <;> rfl
    · cases stopped
  · next noSign =>
    refine ⟨fun above => ?_, fun _ => noSign⟩
    split at stopped
    · split at stopped
      · next leaves => simp [above] at leaves
      · cases stopped
    · next noScale => exact noScale

/-- A complete formula ends with an operand outside all parentheses. -/
theorem Halts.settled {last : State} {left rest : List Char}
    (halts : Halts rules column last left (.ok (formula, rest))) :
    rest = left ∧ ∃ chain, Settled rules last chain ∧ chain.outer = [] ∧ chain.total = formula := by
  cases halts with
  | finished finishes =>
    obtain ⟨chain, settled, concluded⟩ := finish_cases finishes
    obtain ⟨outermost, total⟩ := conclude_eq_ok concluded
    exact ⟨rfl, chain, settled, outermost, total.symm⟩
  | stopped stops =>
    obtain ⟨chain, settled, extended⟩ := exists_settled_of_stop stops
    obtain ⟨outermost, total⟩ := extend_stop extended
    exact ⟨rfl, chain, settled, outermost, total.symm⟩

theorem Halts.ends {last : State} {left rest : List Char}
    (halts : Halts rules column last left (.ok (formula, rest))) :
    ∀ c ∈ left.head?, (rules.level ≠ .operand → c ≠ '*' ∧ c ≠ '/') ∧
      (rules.level = .sum → c ≠ '+' ∧ c ≠ '-') := by
  intro c first
  cases halts with
  | finished finishes => cases first
  | stopped stops =>
    cases first
    obtain ⟨chain, -, extended⟩ := exists_settled_of_stop stops
    obtain ⟨noScale, noSign⟩ := extend_stop_ends extended
    exact ⟨fun above => ne_of_scale?_eq_none (noScale above),
      fun whole => ne_of_sign?_eq_none (noSign whole)⟩

end Stopping

section Derivations

/-- The same rules at the level of sums. -/
def Rules.whole (rules : Rules) : Rules :=
  { rules with level := .sum }

variable {rules : Rules} {column : Nat} {state : State} {chain : Chain}

theorem extend_whole {c : Char} {next : State}
    (moved : extend rules column chain c = .ok (.go next)) :
    extend rules.whole column chain c = .ok (.go next) := by
  unfold extend at moved ⊢
  split at moved
  · split at moved
    · cases moved
    · simpa [Rules.whole] using moved
  · split at moved
    · split at moved
      · cases moved
      · simpa [Rules.whole] using moved
    · exact moved

theorem bind_extend_whole {ended : Except Fault Chain} {c : Char} {next : State}
    (moved : (ended.bind (extend rules column · c)) = .ok (.go next)) :
    (ended.bind (extend rules.whole column · c)) = .ok (.go next) := by
  cases ended with
  | error fault => cases moved
  | ok chain => exact extend_whole moved

/-- The levels differ only in where they stop. -/
theorem step_whole {c : Char} {next : State}
    (moved : step rules column state c = .ok (.go next)) :
    step rules.whole column state c = .ok (.go next) := by
  cases state with
  | operand frame outer => exact moved
  | number frame outer spelled =>
    simp only [step] at moved ⊢
    split
    · next numeral => simpa only [numeral, if_true] using moved
    · next apart =>
      simp only [apart] at moved
      exact bind_extend_whole moved
  | name frame outer spelled =>
    simp only [step] at moved ⊢
    split
    · next inName => simpa only [inName, if_true] using moved
    · next apart =>
      simp only [apart] at moved
      exact bind_extend_whole moved
  | operator chain => exact extend_whole moved

theorem Follows.whole {last : State} {text : List Char}
    (follows : Follows rules column state text last) :
    Follows rules.whole column state text last := by
  induction follows with
  | nil => exact .nil
  | cons moves later ih => exact .cons (step_whole moves) ih

theorem Settled.of_whole (settled : Settled rules.whole state chain) :
    Settled rules state chain := by
  cases settled with
  | operator => exact .operator chain
  | number reads => exact .number reads
  | name declared => exact .name declared

theorem Admitted.whole {spent nesting : Nat} {names : List String}
    (admitted : Admitted rules spent names nesting) : Admitted rules.whole spent names nesting :=
  ⟨admitted.declared, admitted.affordable⟩

/-- Behind the text of a derivation the reader has a complete operand, outside all parentheses. -/
theorem Follows.exists_settled {middle : State} {e : Expression}
    (follows : Follows rules column .start e.text middle) (fits : e.Fits rules 0) :
    ∃ chain, Settled rules middle chain ∧ chain.outer = [] := by
  -- the level of sums reads the derivation, and the reader took the same way as that level
  obtain ⟨state, chain, settled, -, outermost, reaches⟩ := e.reaches (by rfl) [] fits.whole
  have scanned := reaches column []
  rw [show State.operand Frame.empty [] = .start from rfl, follows.whole.scan_eq [], scan, scan,
    settled.finish, conclude, outermost] at scanned
  cases finished : finish rules.whole (column + e.text.length) middle with
  | error fault =>
    rw [finished] at scanned
    cases scanned
  | ok formula =>
    obtain ⟨last, complete, concluded⟩ := finish_cases finished
    exact ⟨last, complete.of_whole, (conclude_eq_ok concluded).1⟩

/-- Behind a complete operand, outside all parentheses, only the level of sums goes on with a sign. -/
theorem Settled.level_of_sign {next : State} {sign : Sign} (settled : Settled rules state chain)
    (outermost : chain.outer = [])
    (moved : Formula.step rules column state sign.symbol = .ok (.go next)) :
    rules.level = .sum := by
  rw [settled.step (Text.isSpelling_sign sign)] at moved
  cases level : rules.level with
  | operand => simp [extend, sign?_symbol, outermost, level] at moved
  | product => simp [extend, sign?_symbol, outermost, level] at moved
  | sum => rfl

theorem Settled.level_of_scale {next : State} {scale : Scale} (settled : Settled rules state chain)
    (outermost : chain.outer = [])
    (moved : Formula.step rules column state scale.symbol = .ok (.go next)) :
    rules.level ≠ .operand := by
  rw [settled.step (Text.isSpelling_scale scale)] at moved
  intro lowest
  simp [extend, sign?_scale, scale?_symbol, outermost, lowest] at moved

theorem Follows.summands_eq_none {last : State} {t : Term} {summands : Summands}
    (below : rules.level ≠ .sum)
    (follows : Follows rules column .start (Expression.mk t summands).text last)
    (fits : (Expression.mk t summands).Fits rules 0) : summands = .none := by
  cases summands with
  | none => rfl
  | more sign other rest =>
    rw [Expression.text, Summands.text] at follows
    obtain ⟨middle, before, after⟩ := follows.of_append
    have alone : (Expression.mk t .none).text = t.text := by
      rw [Expression.text, Summands.text, List.append_nil]
    rw [← alone] at before
    -- the first term is complete before the sign, so a lower level would have stopped there
    obtain ⟨chain, settled, outermost⟩ := before.exists_settled (admitted_total _ fits)
    cases after with
    | cons moves later => exact absurd (settled.level_of_sign outermost moves) below

theorem Follows.factors_eq_none {last : State} {factor : Factor} {factors : Factors}
    (lowest : rules.level = .operand)
    (follows : Follows rules column .start (Term.mk factor factors).text last)
    (fits : (Term.mk factor factors).Fits rules 0) : factors = .none := by
  cases factors with
  | none => rfl
  | more scale other rest =>
    rw [Term.text, Factors.text] at follows
    obtain ⟨middle, before, after⟩ := follows.of_append
    have alone : (Expression.mk (.mk factor .none) .none).text = factor.text := by
      rw [Expression.text, Term.text, Factors.text, Summands.text, List.append_nil, List.append_nil]
    rw [← alone] at before
    obtain ⟨chain, settled, outermost⟩ := before.exists_settled (admitted_product _ fits)
    cases after with
    | cons moves later => exact absurd lowest (settled.level_of_scale outermost moves)

end Derivations

/-- The text has this value by the rule of the level. -/
def Level.Derives (read : String → Float) (text : List Char) (value : Float) : Level → Prop
  | .operand => ∃ factor : Factor, factor.text = text ∧ factor.interpret (.value read) = value
  | .product => ∃ t : Term, t.text = text ∧ t.interpret (.value read) = value
  | .sum => ∃ e : Expression, e.text = text ∧ e.interpret (.value read) = value

/-- What is complete at a level was derived by its rule. -/
theorem Follows.level_derives {rules : Rules} {column : Nat} {text : List Char} {last : State}
    {formula : Formula} (follows : Follows rules column .start text last)
    (derives : Derives rules 0 text formula) (read : String → Float) :
    rules.level.Derives read text (formula.value read) := by
  obtain ⟨⟨⟨factor, factors⟩, summands⟩, rfl, rfl, fits⟩ := derives
  rw [Expression.value_formula]
  cases level : rules.level with
  | sum => exact ⟨_, rfl, rfl⟩
  | product =>
    have alone := follows.summands_eq_none (by simp [level]) fits
    subst alone
    refine ⟨.mk factor factors, ?_, rfl⟩
    rw [Expression.text, Summands.text, List.append_nil]
  | operand =>
    have alone := follows.summands_eq_none (by simp [level]) fits
    subst alone
    rw [Expression.text, Summands.text, List.append_nil] at follows
    have single := follows.factors_eq_none level fits
    subst single
    refine ⟨factor, ?_, rfl⟩
    rw [Expression.text, Summands.text, List.append_nil, Term.text, Factors.text, List.append_nil]

section Faults

variable {rules : Rules} {start : Nat} {read left : List Char} {last : State} {fault : Fault}

/-- A number or a name begins within what was read. -/
theorem Unsettled.column {state : State}
    (unsettled : Unsettled rules (start + read.length) state fault)
    (spells : state.Spells rules read) :
    ∃ offset ≤ read.length, fault.column? = some (start + offset) := by
  have begins : ∀ before spelled : List Char, read = before ++ spelled.reverse →
      before.length ≤ read.length ∧
        some (start + read.length - spelled.length) = some (start + before.length) := by
    intro before spelled whole
    rw [whole, List.length_append, List.length_reverse, Option.some.injEq]
    omega
  cases unsettled with
  | @number frame outer spelled malformed =>
    obtain ⟨before, whole, -, -⟩ := spells
    exact ⟨before.length, begins before spelled whole⟩
  | @name frame outer spelled undeclared =>
    obtain ⟨before, identifier, -, whole, -⟩ := spells
    exact ⟨before.length, begins before spelled whole⟩

/-- A fault has its column in what was read or right behind it, unless a character nests too deep. -/
theorem Halts.column (follows : Follows rules start .start read last)
    (halts : Halts rules (start + read.length) last left (.error fault)) :
    (∃ offset ≤ read.length, fault.column? = some (start + offset)) ∨
      fault = .tooDeep ∧ ∃ c rest, left = c :: rest ∧
        step rules (start + read.length) last c = .error .tooDeep := by
  have spells : last.Spells rules read := follows.spells (start_spells rules)
  cases halts with
  | unfinished fails =>
    left
    rcases finish_error_cases fails with ⟨frame, outer, -, rfl⟩ | unsettled | ⟨chain, -, rfl⟩
    · exact ⟨read.length, Nat.le_refl _, rfl⟩
    · exact unsettled.column spells
    · exact ⟨read.length, Nat.le_refl _, rfl⟩
  | @refused c rest _ refuses =>
    rcases step_error_cases refuses with ⟨frame, outer, -, rfl | rfl⟩ | unsettled | ⟨chain, -, rfl⟩
    · exact .inr ⟨rfl, c, rest, rfl, refuses⟩
    · exact .inl ⟨read.length, Nat.le_refl _, rfl⟩
    · exact .inl (unsettled.column spells)
    · exact .inl ⟨read.length, Nat.le_refl _, rfl⟩

end Faults

section Places

variable (level : Level) (allowance : Option Nat) (env : Env)

theorem readAt_append (before text : List Char) :
    readAt level allowance env (before ++ text) before.length =
      (scan ⟨level, allowance, env.declares⟩ (before.length + 1) .start text).map
        fun (formula, rest) =>
          (before.length + text.length - rest.length, formula.value env.read) := by
  rw [readAt, List.drop_left, List.length_append]

/-- Reading goes wrong at the place: the fault tells the column, or the text nests too deep from
there on, and only if there is an allowance. -/
inductive FailsAt (text : List Char) (start place : Nat) : Fault → Prop
  | told {fault : Fault} (column : fault.column? = some (place + 1)) :
      FailsAt text start place fault
  | tooDeep (limited : allowance ≠ none)
      (before : readAt level allowance env (text.take place) start ≠ .error .tooDeep)
      (behind : readAt level allowance env (text.take (place + 1)) start = .error .tooDeep) :
      FailsAt text start place .tooDeep

variable {level allowance env} {before read left : List Char} {last : State}
  (follows : Follows ⟨level, allowance, env.declares⟩ (before.length + 1) .start read last)
include follows

/-- What is scanned where the reader halts is what is read at the place. -/
theorem readAt_of_follows :
    readAt level allowance env (before ++ (read ++ left)) before.length =
      (scan ⟨level, allowance, env.declares⟩ (before.length + 1 + read.length) last left).map
        fun (formula, rest) =>
          (before.length + (read.length + left.length) - rest.length, formula.value env.read) := by
  rw [readAt_append, follows.scan_eq, List.length_append]

theorem readAt_eq_ok_of_scan {formula : Formula}
    (scanned : scan ⟨level, allowance, env.declares⟩ (before.length + 1 + read.length) last left =
      .ok (formula, left)) :
    readAt level allowance env (before ++ (read ++ left)) before.length =
      .ok (before.length + read.length, formula.value env.read) := by
  have place : before.length + (read.length + left.length) - left.length =
      before.length + read.length := by omega
  rw [readAt_of_follows follows, scanned]
  simp only [Except.map, place]

theorem failsAt_of_tooDeep {c : Char} {rest : List Char}
    (refused : step ⟨level, allowance, env.declares⟩ (before.length + 1 + read.length) last c =
      .error .tooDeep) :
    FailsAt level allowance env (before ++ (read ++ c :: rest)) before.length
      (before.length + read.length) .tooDeep := by
  have cut : (before ++ (read ++ c :: rest)).take (before.length + read.length) =
      before ++ (read ++ []) := by
    rw [List.take_length_add_append, List.take_left, List.append_nil]
  have onward : (before ++ (read ++ c :: rest)).take (before.length + read.length + 1) =
      before ++ (read ++ [c]) := by
    rw [Nat.add_assoc, List.take_length_add_append, List.take_length_add_append]
    rfl
  -- without this character the text ends where an operand is awaited, which is another fault
  refine .tooDeep (allowance_of_tooDeep refused) ?_ ?_
  · rw [cut, readAt_of_follows follows, scan]
    intro deep
    cases finished : finish ⟨level, allowance, env.declares⟩ (before.length + 1 + read.length) last with
    | error fault =>
      rw [finished] at deep
      cases deep
      exact finish_ne_tooDeep finished
    | ok formula =>
      rw [finished] at deep
      cases deep
  · rw [onward, readAt_of_follows follows, scan, refused]
    rfl

end Places

/-- A complete formula stays one when a closing parenthesis follows, or nothing. -/
theorem Settled.scan_eq {rules : Rules} {column : Nat} {last : State} {chain : Chain}
    (settled : Settled rules last chain) (outermost : chain.outer = []) {more : List Char}
    (ends : more = [] ∨ more.head? = some ')') :
    scan rules column last more = .ok (chain.total, more) := by
  cases more with
  | nil =>
    rw [scan, settled.finish, conclude, outermost]
    rfl
  | cons c rest =>
    have closing : c = ')' := by simpa using ends
    have stops : extend rules column chain ')' = .ok (.stop chain.total) := by
      simp [extend, sign?, scale?, outermost]
    rw [scan, closing, settled.step Text.isSpelling_close, stops]

theorem scan_of_readAt_error {level : Level} {allowance : Option Nat} {env : Env}
    {before text : List Char} {fault : Fault}
    (fails : readAt level allowance env (before ++ text) before.length = .error fault) :
    scan ⟨level, allowance, env.declares⟩ (before.length + 1) .start text = .error fault := by
  rw [readAt_append] at fails
  cases scanned : scan ⟨level, allowance, env.declares⟩ (before.length + 1) .start text with
  | error other =>
    rw [scanned] at fails
    cases fails
    rfl
  | ok result =>
    rw [scanned] at fails
    cases fails

/-- What was read at a place lies behind it, and the reader came to the end of it and no further. -/
theorem exists_path_of_readAt {level : Level} {allowance : Option Nat} {env : Env}
    {before text : List Char} {stop : Nat} {value : Float}
    (reads : readAt level allowance env (before ++ text) before.length = .ok (stop, value)) :
    ∃ read left last formula, text = read ++ left ∧
      Follows ⟨level, allowance, env.declares⟩ (before.length + 1) .start read last ∧
      Halts ⟨level, allowance, env.declares⟩ (before.length + 1 + read.length) last left
        (.ok (formula, left)) ∧
      stop = before.length + read.length ∧ value = formula.value env.read := by
  obtain ⟨read, left, last, rfl, follows, halts⟩ :=
    scan_path ⟨level, allowance, env.declares⟩ (before.length + 1) .start text
  cases scanned : scan ⟨level, allowance, env.declares⟩ (before.length + 1) .start (read ++ left) with
  | error fault =>
    rw [readAt_append, scanned] at reads
    cases reads
  | ok result =>
    obtain ⟨formula, rest⟩ := result
    rw [scanned] at halts
    obtain ⟨rfl, -⟩ := halts.settled
    rw [follows.scan_eq] at scanned
    rw [readAt_eq_ok_of_scan follows scanned] at reads
    cases reads
    exact ⟨read, rest, last, formula, rfl, follows, halts, rfl, rfl⟩

/-- A formula that was read is not empty, and was derived by the rule of its level. -/
theorem Halts.level_derives {rules : Rules} {column : Nat} {read left rest : List Char}
    {last : State} {formula : Formula} (follows : Follows rules column .start read last)
    (halts : Halts rules (column + read.length) last left (.ok (formula, rest)))
    (values : String → Float) :
    read ≠ [] ∧ rules.level.Derives values read (formula.value values) := by
  have spells : last.Spells rules read := follows.spells (start_spells rules)
  have derives : Derives rules 0 read formula := by
    cases halts with
    | finished finishes => exact finish_derives spells finishes
    | stopped stops => exact step_stop_derives spells stops
  refine ⟨?_, follows.level_derives derives values⟩
  intro nothing
  obtain ⟨-, chain, settled, -⟩ := halts.settled
  subst nothing
  cases follows
  cases settled

section Outcomes

variable {level : Level} {allowance : Option Nat} {env : Env} {before text : List Char}

/-- What is read lies behind the place and within the text, is derived by the rule of the level, and
ends before a character that does not carry it on. -/
theorem readAt_within {stop : Nat} {value : Float}
    (reads : readAt level allowance env (before ++ text) before.length = .ok (stop, value)) :
    before.length < stop ∧ stop ≤ (before ++ text).length ∧
      (∀ c, (before ++ text)[stop]? = some c → (level ≠ .operand → c ≠ '*' ∧ c ≠ '/') ∧
        (level = .sum → c ≠ '+' ∧ c ≠ '-')) ∧
      level.Derives env.read (((before ++ text).take stop).drop before.length) value := by
  obtain ⟨read, left, last, formula, rfl, follows, halts, rfl, rfl⟩ := exists_path_of_readAt reads
  obtain ⟨nonempty, derives⟩ := halts.level_derives follows env.read
  have positive := List.length_pos_iff.2 nonempty
  have here : (before ++ (read ++ left))[before.length + read.length]? = left.head? := by
    rw [List.getElem?_append_right (Nat.le_add_right _ _), Nat.add_sub_cancel_left,
      List.getElem?_append_right (Nat.le_refl _), Nat.sub_self, List.head?_eq_getElem?]
  refine ⟨by omega, ?_, fun c first => halts.ends c (here ▸ first), ?_⟩
  · rw [List.length_append, List.length_append]
    omega
  · rw [List.take_length_add_append, List.take_left, List.drop_left]
    exact derives

/-- A fault lies not before the place, and not beyond the end of the text. -/
theorem failsAt_of_readAt {fault : Fault}
    (fails : readAt level allowance env (before ++ text) before.length = .error fault) :
    ∃ failed, before.length ≤ failed ∧ failed ≤ (before ++ text).length ∧
      FailsAt level allowance env (before ++ text) before.length failed fault := by
  obtain ⟨read, left, last, rfl, follows, halts⟩ :=
    scan_path ⟨level, allowance, env.declares⟩ (before.length + 1) .start text
  rw [scan_of_readAt_error fails] at halts
  simp only [List.length_append]
  rcases halts.column follows with ⟨offset, within, column⟩ | ⟨rfl, c, rest, rfl, refused⟩
  · refine ⟨before.length + offset, by omega, by omega, .told ?_⟩
    rw [column, Nat.add_right_comm]
  · exact ⟨_, by omega, by omega, failsAt_of_tooDeep follows refused⟩

/-- What is read does not depend on what stands behind it, as long as that carries nothing on. -/
theorem readAt_stable {stop : Nat} {value : Float}
    (reads : readAt level allowance env (before ++ text) before.length = .ok (stop, value))
    {more : List Char} (ends : more = [] ∨ more.head? = some ')') :
    readAt level allowance env ((before ++ text).take stop ++ more) before.length =
      .ok (stop, value) := by
  obtain ⟨read, left, last, formula, rfl, follows, halts, rfl, rfl⟩ := exists_path_of_readAt reads
  obtain ⟨-, chain, settled, outermost, rfl⟩ := halts.settled
  rw [List.take_length_add_append, List.take_left, List.append_assoc]
  exact readAt_eq_ok_of_scan follows (settled.scan_eq outermost ends)

end Outcomes

/-- From any place of the text and at any level, either a formula is read that lies behind the place
and within the text, is derived by the rule of the level and ends before a character that does not
carry it on, or reading fails at a place that is not before the first one nor beyond the text. What
was read is read again when its text is cut behind it, or goes on there with a closing parenthesis. -/
theorem readAt_progress (level : Level) (allowance : Option Nat) (env : Env) (text : List Char)
    (place : Nat) (inside : place ≤ text.length) :
    ((∃ stop value, readAt level allowance env text place = .ok (stop, value) ∧
        place < stop ∧ stop ≤ text.length ∧
        (∀ c, text[stop]? = some c → (level ≠ .operand → c ≠ '*' ∧ c ≠ '/') ∧
          (level = .sum → c ≠ '+' ∧ c ≠ '-')) ∧
        level.Derives env.read ((text.take stop).drop place) value) ∨
      ∃ fault failed, readAt level allowance env text place = .error fault ∧
        place ≤ failed ∧ failed ≤ text.length ∧
        FailsAt level allowance env text place failed fault) ∧
    ∀ stop value, readAt level allowance env text place = .ok (stop, value) →
      ∀ more : List Char, more = [] ∨ more.head? = some ')' →
        readAt level allowance env (text.take stop ++ more) place = .ok (stop, value) := by
  obtain ⟨before, text, rfl, rfl⟩ :
      ∃ before rest, text = before ++ rest ∧ place = before.length :=
    ⟨text.take place, text.drop place, (List.take_append_drop place text).symm,
      (List.length_take_of_le inside).symm⟩
  refine ⟨?_, fun stop value reads more ends => readAt_stable reads ends⟩
  cases reads : readAt level allowance env (before ++ text) before.length with
  | ok result =>
    obtain ⟨stop, value⟩ := result
    exact .inl ⟨stop, value, rfl, readAt_within reads⟩
  | error fault =>
    obtain ⟨failed, behind, within, fails⟩ := failsAt_of_readAt reads
    exact .inr ⟨fault, failed, rfl, behind, within, fails⟩

/-- The sum behind the parenthesis is read up to where it closes, whatever stands behind that. -/
theorem sum_in_parentheses_read :
    let text := ['(', '1', '+', '2', ')', '*', '3']
    1 ≤ text.length ∧ ∃ value, readAt .sum none .empty text 1 = .ok (4, value) ∧
      readAt .sum none .empty ['(', '1', '+', '2', ')', '!'] 1 = .ok (4, value) := by
  intro text
  have inside : 1 ≤ text.length := by decide
  have reads : readAt .sum none .empty text 1 = .ok (4, _) := rfl
  have stable := (readAt_progress .sum none .empty text 1 inside).2 4 _ reads
  exact ⟨inside, _, reads, stable [')', '!'] (.inr rfl)⟩

end BlockMachine.Formula
