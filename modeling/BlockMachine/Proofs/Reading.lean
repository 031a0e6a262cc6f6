import BlockMachine.Proofs.Grammar

/-!
The reader follows derivations. From a state that awaits an operand it passes
over the text of a factor and comes to rest behind it with the factor's tree in
place; from there it passes over the rest of the chain, and so on outwards. Only
undeclared names and nesting beyond the allowance can stop it on the way.
-/

namespace BlockMachine.Formula
open Grammar

/-- Reading `text` takes the reader from one state to the other, whatever follows. -/
def Reaches (rules : Rules) (state : State) (text : List Char) (next : State) : Prop :=
  ∀ column rest, scan rules column state (text ++ rest) =
    scan rules (column + text.length) next rest

theorem Reaches.refl (rules : Rules) (state : State) : Reaches rules state [] state := by
  intro column rest
  rfl

theorem Reaches.trans {rules : Rules} {first second third : State} {left right : List Char}
    (before : Reaches rules first left second) (after : Reaches rules second right third) :
    Reaches rules first (left ++ right) third := by
  intro column rest
  rw [List.append_assoc, before, after, List.length_append, Nat.add_assoc]

theorem Reaches.step {rules : Rules} {state next : State} {c : Char}
    (moves : ∀ column, Formula.step rules column state c = .ok (.go next)) :
    Reaches rules state [c] next := by
  intro column rest
  simp only [List.cons_append, List.nil_append, scan, moves column, List.length_cons,
    List.length_nil, Nat.zero_add]

/-- The operand in a state is complete, and stands in the chain. -/
inductive Settled (rules : Rules) : State → Chain → Prop
  | operator (chain : Chain) : Settled rules (.operator chain) chain
  | number {frame : Frame} {outer : List Frame} {spelled : List Char} {value : Float}
      (reads : Number.Literal.read? spelled.reverse = some value) :
      Settled rules (.number frame outer spelled) (frame.chain (.number value) outer)
  | name {frame : Frame} {outer : List Frame} {spelled : List Char}
      (declared : rules.declared (String.ofList spelled.reverse) = true) :
      Settled rules (.name frame outer spelled)
        (frame.chain (.named (String.ofList spelled.reverse)) outer)

/-- A complete operand gives way to a character that cannot be part of it. -/
theorem Settled.step {rules : Rules} {state : State} {chain : Chain}
    (settled : Settled rules state chain) {c : Char} (outside : Text.isSpelling c = false)
    (column : Nat) : Formula.step rules column state c = extend rules column chain c := by
  simp only [Text.isSpelling, Bool.or_eq_false_iff] at outside
  cases settled with
  | operator => rfl
  | number reads =>
    simp only [Formula.step, outside.1, Bool.false_eq_true, if_false, endNumber, reads]
    rfl
  | name declared =>
    simp only [Formula.step, outside.2, Bool.false_eq_true, if_false, endName, declared, if_true]
    rfl

theorem Settled.finish {rules : Rules} {state : State} {chain : Chain}
    (settled : Settled rules state chain) (column : Nat) :
    Formula.finish rules column state = conclude column chain := by
  cases settled with
  | operator => rfl
  | number reads =>
    simp only [Formula.finish, endNumber, reads]
    rfl
  | name declared =>
    simp only [Formula.finish, endName, declared, if_true]
    rfl

/-- What a character can do that does not stop the reader with a fault. -/
theorem step_cases {rules : Rules} {column : Nat} {state : State} {c : Char} {move : Move}
    (moved : step rules column state c = .ok move) :
    (∃ frame outer, state = .operand frame outer ∧ enter rules column frame outer c = .ok move) ∨
    (∃ frame outer spelled, state = .number frame outer spelled ∧ Text.isNumeral c = true ∧
      move = .go (.number frame outer (c :: spelled))) ∨
    (∃ frame outer spelled, state = .name frame outer spelled ∧ Text.isNameChar c = true ∧
      move = .go (.name frame outer (c :: spelled))) ∨
    ∃ chain, Settled rules state chain ∧ extend rules column chain c = .ok move := by
  cases state with
  | operand frame outer => exact .inl ⟨frame, outer, rfl, moved⟩
  | number frame outer spelled =>
    simp only [step, endNumber] at moved
    split at moved
    · next numeral =>
      cases moved
      exact .inr (.inl ⟨frame, outer, spelled, rfl, numeral, rfl⟩)
    · split at moved
      · next value reads => exact .inr (.inr (.inr ⟨_, .number reads, moved⟩))
      · cases moved
  | name frame outer spelled =>
    simp only [step, endName] at moved
    split at moved
    · next inName =>
      cases moved
      exact .inr (.inr (.inl ⟨frame, outer, spelled, rfl, inName, rfl⟩))
    · split at moved
      · next declared => exact .inr (.inr (.inr ⟨_, .name declared, moved⟩))
      · cases moved
  | operator chain => exact .inr (.inr (.inr ⟨chain, .operator chain, moved⟩))

theorem finish_cases {rules : Rules} {column : Nat} {state : State} {formula : Formula}
    (finished : finish rules column state = .ok formula) :
    ∃ chain, Settled rules state chain ∧ conclude column chain = .ok formula := by
  cases state with
  | operand frame outer => cases finished
  | number frame outer spelled =>
    simp only [finish, endNumber] at finished
    split at finished
    · next value reads => exact ⟨_, .number reads, finished⟩
    · cases finished
  | name frame outer spelled =>
    simp only [finish, endName] at finished
    split at finished
    · next declared => exact ⟨_, .name declared, finished⟩
    · cases finished
  | operator chain => exact ⟨chain, .operator chain, finished⟩

theorem exceeds_mono {allowance : Option Nat} {less more : Nat} (order : less ≤ more)
    (within : exceeds allowance more = false) : exceeds allowance less = false := by
  cases allowance with
  | none => rfl
  | some most =>
    simp only [exceeds, decide_eq_false_iff_not] at within ⊢
    omega

theorem cost_frame (frame : Frame) (outer : List Frame) :
    cost frame outer = cost Frame.empty outer + frame.signs.length := by
  unfold cost
  induction outer with
  | nil => simp [Frame.empty]
  | cons level outer ih =>
    simp only [List.foldr_cons, ih]
    omega

theorem cost_sign (frame : Frame) (sign : Sign) (outer : List Frame) :
    cost { frame with signs := sign :: frame.signs } outer = cost frame outer + 1 := by
  rw [cost_frame, cost_frame frame outer, List.length_cons, Nat.add_assoc]

theorem cost_open (frame : Frame) (outer : List Frame) :
    cost Frame.empty (frame :: outer) = cost frame outer + 3 := by
  have opened : cost Frame.empty (frame :: outer) =
      cost Frame.empty outer + 3 + frame.signs.length := rfl
  rw [opened, cost_frame frame outer]
  omega

/-- Its names are declared, and its nesting fits into what is left of the allowance. -/
structure Admitted (rules : Rules) (spent : Nat) (names : List String) (nesting : Nat) : Prop where
  declared : ∀ name ∈ names, rules.declared name = true
  affordable : exceeds rules.allowance (spent + nesting) = false

theorem admitted_join {rules : Rules} {spent : Nat} {names others : List String}
    {nesting other : Nat} :
    Admitted rules spent (names ++ others) (max nesting other) ↔
      Admitted rules spent names nesting ∧ Admitted rules spent others other := by
  constructor
  · rintro ⟨declared, affordable⟩
    refine ⟨⟨fun name member => declared name (List.mem_append_left _ member), ?_⟩,
      ⟨fun name member => declared name (List.mem_append_right _ member), ?_⟩⟩
    · exact exceeds_mono (by omega) affordable
    · exact exceeds_mono (by omega) affordable
  · rintro ⟨first, second⟩
    constructor
    · intro name member
      rcases List.mem_append.1 member with left | right
      · exact first.declared name left
      · exact second.declared name right
    · rcases Nat.le_total nesting other with order | order
      · rw [Nat.max_eq_right order]
        exact second.affordable
      · rw [Nat.max_eq_left order]
        exact first.affordable

theorem admitted_deeper {rules : Rules} {spent : Nat} {names : List String} {nesting more : Nat} :
    Admitted rules spent names (nesting + more) ↔ Admitted rules (spent + more) names nesting := by
  have total : spent + (nesting + more) = spent + more + nesting := by omega
  constructor
  · rintro ⟨declared, affordable⟩
    exact ⟨declared, total ▸ affordable⟩
  · rintro ⟨declared, affordable⟩
    exact ⟨declared, total ▸ affordable⟩

theorem Admitted.spent {rules : Rules} {spent : Nat} {names : List String} {nesting : Nat}
    (admitted : Admitted rules spent names nesting) : exceeds rules.allowance spent = false :=
  exceeds_mono (by omega) admitted.affordable

theorem admitted_total {rules : Rules} {spent : Nat} (summands : Summands)
    {names : List String} {nesting : Nat}
    (admitted : Admitted rules spent (summands.interpret .names names)
      (summands.interpret .nesting nesting)) : Admitted rules spent names nesting := by
  cases summands with
  | none => exact admitted
  | more sign term rest => exact (admitted_join.1 (admitted_total rest admitted)).1

theorem admitted_product {rules : Rules} {spent : Nat} (factors : Factors)
    {names : List String} {nesting : Nat}
    (admitted : Admitted rules spent (factors.interpret .names names)
      (factors.interpret .nesting nesting)) : Admitted rules spent names nesting := by
  cases factors with
  | none => exact admitted
  | more scale factor rest => exact (admitted_join.1 (admitted_product rest admitted)).1

theorem step_sign {rules : Rules} {frame : Frame} {outer : List Frame} (sign : Sign)
    (affordable : exceeds rules.allowance (cost frame outer + 1) = false) (column : Nat) :
    step rules column (.operand frame outer) sign.symbol =
      .ok (.go (.operand { frame with signs := sign :: frame.signs } outer)) := by
  simp only [step, enter, sign?_symbol, descend, cost_sign, affordable, Bool.false_eq_true,
    if_false]

theorem step_open {rules : Rules} {frame : Frame} {outer : List Frame}
    (affordable : exceeds rules.allowance (cost frame outer + 3) = false) (column : Nat) :
    step rules column (.operand frame outer) '(' =
      .ok (.go (.operand Frame.empty (frame :: outer))) := by
  have noSign : sign? '(' = none := rfl
  simp only [step, enter, noSign, if_true, descend, cost_open, affordable, Bool.false_eq_true,
    if_false]

/-- Characters of one class are collected, the last one first. -/
theorem reaches_run (rules : Rules) (spelling : List Char → State) {inside : Char → Bool}
    (collects : ∀ spelled c, inside c = true → ∀ column,
      step rules column (spelling spelled) c = .ok (.go (spelling (c :: spelled))))
    (more spelled : List Char) (allInside : ∀ c ∈ more, inside c = true) :
    Reaches rules (spelling spelled) more (spelling (more.reverse ++ spelled)) := by
  induction more generalizing spelled with
  | nil => exact Reaches.refl rules _
  | cons c more ih =>
    have first := Reaches.step (collects spelled c (allInside c List.mem_cons_self))
    have rest := ih (c :: spelled) fun d member => allInside d (List.mem_cons_of_mem _ member)
    simpa using first.trans rest

theorem read?_numeral (numeral : Numeral) :
    Number.Literal.read? numeral.spelled = some numeral.value := by
  have wellFormed : Number.Literal.isWellFormed numeral.spelled = true := by
    simp only [Number.Literal.isWellFormed, Bool.and_eq_true, decide_eq_true_eq, List.any_eq_true]
    exact numeral.wellFormed
  simp only [Number.Literal.read?, wellFormed, if_true, Numeral.value]

/-- The reader collects digits and points before it asks whether they are a number. -/
theorem reaches_numerals (rules : Rules) (frame : Frame) (outer : List Frame) {literal : List Char}
    (nonempty : literal ≠ []) (numeric : ∀ c ∈ literal, Text.isNumeral c = true) :
    Reaches rules (.operand frame outer) literal (.number frame outer literal.reverse) := by
  cases literal with
  | nil => exact absurd rfl nonempty
  | cons c more =>
    have numeral := numeric c List.mem_cons_self
    have spelling := Text.isSpelling_of_isNumeral numeral
    have first : Reaches rules (.operand frame outer) [c] (.number frame outer [c]) :=
      Reaches.step fun column => by
        simp only [step, enter, sign?_of_isSpelling spelling, ne_open_of_isSpelling spelling,
          numeral, if_true, if_false]
    have rest := reaches_run rules (.number frame outer)
      (fun spelled d inside column => by simp only [step, inside, if_true]) more [c]
      fun d member => numeric d (List.mem_cons_of_mem _ member)
    rw [List.reverse_cons]
    exact first.trans rest

theorem reaches_number {rules : Rules} (frame : Frame) (outer : List Frame) (numeral : Numeral) :
    ∃ state, Settled rules state (frame.chain (.number numeral.value) outer) ∧
      Reaches rules (.operand frame outer) numeral.spelled state := by
  have reads := read?_numeral numeral
  rw [← List.reverse_reverse numeral.spelled] at reads
  obtain ⟨c, member, -⟩ := numeral.wellFormed.2
  exact ⟨_, Settled.number reads,
    reaches_numerals rules frame outer (List.ne_nil_of_mem member) numeral.numeric⟩

/-- The reader collects an identifier as a whole before it asks whether it is declared. -/
theorem reaches_identifier (rules : Rules) (frame : Frame) (outer : List Frame)
    (identifier : Identifier) :
    Reaches rules (.operand frame outer) identifier.spelled
      (.name frame outer identifier.spelled.reverse) := by
  have letter := identifier.letter
  have spelling := Text.isSpelling_of_isNameChar (Text.isNameChar_of_isLetter letter)
  have first : Reaches rules (.operand frame outer) [identifier.first]
      (.name frame outer [identifier.first]) := Reaches.step fun column => by
    simp only [step, enter, sign?_of_isSpelling spelling, ne_open_of_isSpelling spelling,
      Text.isNumeral_of_isLetter letter, letter, if_true, if_false, Bool.false_eq_true]
  have rest := reaches_run rules (.name frame outer)
    (fun spelled c inside column => by simp only [step, inside, if_true]) identifier.rest
    [identifier.first] identifier.continued
  rw [Identifier.spelled, List.reverse_cons]
  exact first.trans rest

theorem reaches_name {rules : Rules} (frame : Frame) (outer : List Frame) (identifier : Identifier)
    (declared : rules.declared identifier.name = true) :
    ∃ state, Settled rules state (frame.chain (.named identifier.name) outer) ∧
      Reaches rules (.operand frame outer) identifier.spelled state := by
  have settled : Settled rules (.name frame outer identifier.spelled.reverse)
      (frame.chain (.named (String.ofList identifier.spelled.reverse.reverse)) outer) :=
    .name (by rw [List.reverse_reverse]; exact declared)
  rw [List.reverse_reverse] at settled
  exact ⟨_, settled, reaches_identifier rules frame outer identifier⟩

theorem step_extend_sign {rules : Rules} (whole : rules.level = .sum) {state : State}
    {chain : Chain} (settled : Settled rules state chain) (sign : Sign) (column : Nat) :
    step rules column state sign.symbol =
      .ok (.go (.operand ⟨some (chain.total, sign), none, []⟩ chain.outer)) := by
  rw [settled.step (Text.isSpelling_sign sign) column]
  simp [extend, sign?_symbol, whole]

theorem step_extend_scale {rules : Rules} (whole : rules.level = .sum) {state : State}
    {chain : Chain} (settled : Settled rules state chain) (scale : Scale) (column : Nat) :
    step rules column state scale.symbol =
      .ok (.go (.operand ⟨chain.sum, some (chain.product, scale), []⟩ chain.outer)) := by
  rw [settled.step (Text.isSpelling_scale scale) column]
  simp [extend, sign?_scale, scale?_symbol, whole]

theorem step_close {rules : Rules} {state : State} {chain : Chain} {frame : Frame}
    {outer : List Frame} (settled : Settled rules state chain)
    (inside : chain.outer = frame :: outer) (column : Nat) :
    step rules column state ')' = .ok (.go (.operator (frame.chain chain.total outer))) := by
  have noSign : sign? ')' = none := rfl
  have noScale : scale? ')' = none := rfl
  rw [settled.step Text.isSpelling_close column]
  simp only [extend, noSign, noScale, inside, if_true]

/-- What is read to its end in parentheses becomes the operand awaited before them. -/
theorem reaches_enclosed {rules : Rules} {frame : Frame} {outer : List Frame} {text : List Char}
    {formula : Formula} (affordable : exceeds rules.allowance (cost frame outer + 3) = false)
    (reads : ∃ state chain, Settled rules state chain ∧ chain.total = formula ∧
      chain.outer = frame :: outer ∧
      Reaches rules (.operand Frame.empty (frame :: outer)) text state) :
    Reaches rules (.operand frame outer) ('(' :: (text ++ [')']))
      (.operator (frame.chain formula outer)) := by
  obtain ⟨state, chain, settled, total, inside, passes⟩ := reads
  have opens := Reaches.step (step_open affordable)
  have closes := Reaches.step (step_close settled inside)
  rw [total] at closes
  exact opens.trans (passes.trans closes)

end BlockMachine.Formula

namespace BlockMachine.Grammar
open Formula

abbrev Expression.Fits (e : Expression) (rules : Rules) (spent : Nat) : Prop :=
  Admitted rules spent (e.interpret .names) (e.interpret .nesting)

abbrev Term.Fits (t : Term) (rules : Rules) (spent : Nat) : Prop :=
  Admitted rules spent (t.interpret .names) (t.interpret .nesting)

abbrev Factor.Fits (factor : Factor) (rules : Rules) (spent : Nat) : Prop :=
  Admitted rules spent (factor.interpret .names) (factor.interpret .nesting)

-- The induction is on the derivation. A chain is entered with its first members already
-- read, so the statements on what follows start from any state that has settled.
mutual

theorem Expression.reaches {rules : Rules} (whole : rules.level = .sum) (e : Expression)
    (outer : List Frame) (admitted : e.Fits rules (cost Frame.empty outer)) :
    ∃ state chain, Settled rules state chain ∧ chain.total = e.interpret .formula ∧
      chain.outer = outer ∧ Reaches rules (.operand Frame.empty outer) e.text state := by
  cases e with
  | mk first rest =>
    obtain ⟨middle, settled, before⟩ :=
      first.reaches whole none outer (admitted_total rest admitted)
    obtain ⟨state, chain, ends, total, inside, after⟩ :=
      rest.reaches whole settled outer rfl _ _ admitted
    exact ⟨state, chain, ends, total, inside, before.trans after⟩

theorem Summands.reaches {rules : Rules} (whole : rules.level = .sum) (summands : Summands)
    {state : State} {chain : Chain} (settled : Settled rules state chain) (outer : List Frame)
    (inside : chain.outer = outer) (names : List String) (nesting : Nat)
    (admitted : Admitted rules (cost Frame.empty outer) (summands.interpret .names names)
      (summands.interpret .nesting nesting)) :
    ∃ next last, Settled rules next last ∧
      last.total = summands.interpret .formula chain.total ∧ last.outer = outer ∧
      Reaches rules state summands.text next := by
  cases summands with
  | none => exact ⟨state, chain, settled, rfl, inside, Reaches.refl rules state⟩
  | more sign term rest =>
    have joins := Reaches.step (step_extend_sign whole settled sign)
    rw [inside] at joins
    obtain ⟨middle, reads, before⟩ := term.reaches whole (some (chain.total, sign)) outer
      (admitted_join.1 (admitted_total rest admitted)).2
    obtain ⟨next, last, ends, total, same, after⟩ :=
      rest.reaches whole reads outer rfl _ _ admitted
    exact ⟨next, last, ends, total, same, joins.trans (before.trans after)⟩

theorem Term.reaches {rules : Rules} (whole : rules.level = .sum) (t : Term)
    (sum : Option (Formula × Sign)) (outer : List Frame)
    (admitted : t.Fits rules (cost Frame.empty outer)) :
    ∃ state, Settled rules state ⟨sum, t.interpret .formula, outer⟩ ∧
      Reaches rules (.operand ⟨sum, none, []⟩ outer) t.text state := by
  cases t with
  | mk first rest =>
    obtain ⟨middle, settled, before⟩ :=
      first.reaches whole ⟨sum, none, []⟩ outer (admitted_product rest admitted)
    obtain ⟨state, ends, after⟩ := rest.reaches whole settled _ _ admitted
    exact ⟨state, ends, before.trans after⟩

theorem Factors.reaches {rules : Rules} (whole : rules.level = .sum) (factors : Factors)
    {state : State} {sum : Option (Formula × Sign)} {product : Formula} {outer : List Frame}
    (settled : Settled rules state ⟨sum, product, outer⟩) (names : List String) (nesting : Nat)
    (admitted : Admitted rules (cost Frame.empty outer) (factors.interpret .names names)
      (factors.interpret .nesting nesting)) :
    ∃ next, Settled rules next ⟨sum, factors.interpret .formula product, outer⟩ ∧
      Reaches rules state factors.text next := by
  cases factors with
  | none => exact ⟨state, settled, Reaches.refl rules state⟩
  | more scale factor rest =>
    have joins := Reaches.step (step_extend_scale whole settled scale)
    obtain ⟨middle, reads, before⟩ := factor.reaches whole ⟨sum, some (product, scale), []⟩ outer
      (admitted_join.1 (admitted_product rest admitted)).2
    obtain ⟨next, ends, after⟩ := rest.reaches whole reads _ _ admitted
    exact ⟨next, ends, joins.trans (before.trans after)⟩

theorem Factor.reaches {rules : Rules} (whole : rules.level = .sum) (factor : Factor)
    (frame : Frame) (outer : List Frame) (admitted : factor.Fits rules (cost frame outer)) :
    ∃ state, Settled rules state (frame.chain (factor.interpret .formula) outer) ∧
      Reaches rules (.operand frame outer) factor.text state := by
  cases factor with
  | signed sign operand =>
    have deeper := admitted_deeper.1 admitted
    have joins := Reaches.step (step_sign sign deeper.spent)
    rw [← cost_sign frame sign outer] at deeper
    obtain ⟨state, settled, after⟩ := operand.reaches whole _ outer deeper
    exact ⟨state, settled, joins.trans after⟩
  | enclosed inner =>
    have deeper := admitted_deeper.1 admitted
    have affordable := deeper.spent
    rw [← cost_open frame outer] at deeper
    exact ⟨_, .operator _, reaches_enclosed affordable (inner.reaches whole _ deeper)⟩
  | number numeral => exact reaches_number frame outer numeral
  | name identifier =>
    exact reaches_name frame outer identifier (admitted.declared _ (List.mem_singleton.2 rfl))

end

end BlockMachine.Grammar
