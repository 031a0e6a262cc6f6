import BlockMachine.Formula.Evaluate
import BlockMachine.Proofs.Reading

/-!
The reader accepts nothing but the text of a derivation. Every state spells the
text that was read on the way to it: each open level holds a sum and a product
that have derivations of their own, and the signs behind them. One character
keeps this true, so a formula that is complete has a derivation of the whole
text.
-/

namespace BlockMachine.Formula
open Grammar

/-- The text of a sum that waits for its next term, if there is one. -/
def SpellsSum (rules : Rules) (spent : Nat) : Option (Formula × Sign) → List Char → Prop
  | none, text => text = []
  | some (left, sign), text => ∃ e : Expression, text = e.text ++ [sign.symbol] ∧
      e.interpret .formula = left ∧ e.Fits rules spent

/-- The text of a product that waits for its next factor, if there is one. -/
def SpellsProduct (rules : Rules) (spent : Nat) : Option (Formula × Scale) → List Char → Prop
  | none, text => text = []
  | some (left, scale), text => ∃ t : Term, text = t.text ++ [scale.symbol] ∧
      t.interpret .formula = left ∧ t.Fits rules spent

def Frame.Spells (rules : Rules) (spent : Nat) (frame : Frame) (text : List Char) : Prop :=
  ∃ sum product, text = sum ++ product ++ frame.signs.reverse.map Sign.symbol ∧
    SpellsSum rules spent frame.sum sum ∧ SpellsProduct rules spent frame.product product

/-- Closed operands only: the sum so far and the product that will join it. -/
def Chain.Spells (rules : Rules) (spent : Nat) (chain : Chain) (text : List Char) : Prop :=
  ∃ sum, ∃ t : Term, text = sum ++ t.text ∧ SpellsSum rules spent chain.sum sum ∧
    t.interpret .formula = chain.product ∧ t.Fits rules spent

/-- The text up to the innermost parenthesis that is still open. -/
def SpellsOuter (rules : Rules) : List Frame → List Char → Prop
  | [], text => text = []
  | frame :: outer, text => ∃ before here, text = before ++ here ++ ['('] ∧
      SpellsOuter rules outer before ∧ frame.Spells rules (cost Frame.empty outer) here

/-- What is open where an operand is awaited, and its cost is affordable. -/
structure Awaits (rules : Rules) (frame : Frame) (outer : List Frame) (text : List Char) :
    Prop where
  spells : ∃ before here, text = before ++ here ∧ SpellsOuter rules outer before ∧
    frame.Spells rules (cost Frame.empty outer) here
  affordable : exceeds rules.allowance (cost frame outer) = false

def State.Spells (rules : Rules) : State → List Char → Prop
  | .operand frame outer, text => Awaits rules frame outer text
  | .number frame outer spelled, text => ∃ before, text = before ++ spelled.reverse ∧
      Awaits rules frame outer before ∧ ∀ c ∈ spelled, Text.isNumeral c = true
  | .name frame outer spelled, text => ∃ before, ∃ identifier : Identifier,
      identifier.spelled = spelled.reverse ∧ text = before ++ spelled.reverse ∧
      Awaits rules frame outer before
  | .operator chain, text => ∃ before here, text = before ++ here ∧
      SpellsOuter rules chain.outer before ∧
      chain.Spells rules (cost Frame.empty chain.outer) here

theorem fits_add {rules : Rules} {spent : Nat} {e : Expression} {t : Term} (sign : Sign)
    (left : e.Fits rules spent) (right : t.Fits rules spent) :
    (e.add sign t).Fits rules spent := by
  unfold Expression.Fits
  rw [Expression.interpret_add, Expression.interpret_add]
  exact admitted_join.2 ⟨left, right⟩

theorem fits_scale {rules : Rules} {spent : Nat} {t : Term} {factor : Factor} (scale : Scale)
    (left : t.Fits rules spent) (right : factor.Fits rules spent) :
    (t.scale scale factor).Fits rules spent := by
  unfold Term.Fits
  rw [Term.interpret_scale, Term.interpret_scale]
  exact admitted_join.2 ⟨left, right⟩

theorem exists_signed {rules : Rules} {spent : Nat} (signs : List Sign) (factor : Factor)
    (admitted : factor.Fits rules (spent + signs.length)) :
    ∃ whole : Factor, whole.text = signs.reverse.map Sign.symbol ++ factor.text ∧
      whole.interpret .formula =
        signs.foldl (fun inner sign => .signed sign inner) (factor.interpret .formula) ∧
      whole.Fits rules spent := by
  induction signs generalizing factor with
  | nil => exact ⟨factor, rfl, rfl, admitted⟩
  | cons sign signs ih =>
    obtain ⟨whole, text, formula, fits⟩ := ih (.signed sign factor) (admitted_deeper.2 admitted)
    refine ⟨whole, ?_, formula, fits⟩
    rw [text, Factor.text, List.reverse_cons, List.map_append, List.append_assoc]
    rfl

/-- A factor completes the operand that a level waits for. -/
theorem Frame.Spells.close {rules : Rules} {frame : Frame} {outer : List Frame} {here : List Char}
    (spells : frame.Spells rules (cost Frame.empty outer) here) (factor : Factor)
    (admitted : factor.Fits rules (cost frame outer)) :
    (frame.chain (factor.interpret .formula) outer).Spells rules (cost Frame.empty outer)
      (here ++ factor.text) := by
  obtain ⟨sumText, productText, text, sum, product⟩ := spells
  rw [cost_frame] at admitted
  obtain ⟨whole, wholeText, formula, fits⟩ := exists_signed frame.signs factor admitted
  rw [text, List.append_assoc, List.append_assoc, ← wholeText]
  cases waiting : frame.product with
  | none =>
    rw [waiting] at product
    refine ⟨sumText, .mk whole .none, ?_, sum, ?_, fits⟩
    · rw [show productText = [] from product]
      simp [Term.text, Factors.text]
    · simp only [Frame.chain, Frame.close, waiting]
      exact formula
  | some left =>
    obtain ⟨left, scale⟩ := left
    rw [waiting] at product
    obtain ⟨t, termText, termFormula, termFits⟩ := product
    refine ⟨sumText, t.scale scale whole, ?_, sum, ?_, ?_⟩
    · rw [termText, Term.text_scale]
      simp
    · simp only [Frame.chain, Frame.close, waiting, Term.interpret_scale, ← termFormula, ← formula]
      rfl
    · exact fits_scale scale termFits fits

/-- The text has a derivation with this tree, within the rules. -/
def Derives (rules : Rules) (spent : Nat) (text : List Char) (formula : Formula) : Prop :=
  ∃ e : Expression, e.text = text ∧ e.interpret .formula = formula ∧ e.Fits rules spent

theorem Chain.Spells.total {rules : Rules} {spent : Nat} {chain : Chain} {here : List Char}
    (spells : chain.Spells rules spent here) : Derives rules spent here chain.total := by
  obtain ⟨sumText, t, text, sum, formula, fits⟩ := spells
  cases waiting : chain.sum with
  | none =>
    rw [waiting] at sum
    refine ⟨.mk t .none, ?_, ?_, fits⟩
    · rw [text, show sumText = [] from sum]
      simp [Expression.text, Summands.text]
    · simp only [Chain.total, waiting]
      exact formula
  | some left =>
    obtain ⟨left, sign⟩ := left
    rw [waiting] at sum
    obtain ⟨e, sumText, sumFormula, sumFits⟩ := sum
    refine ⟨e.add sign t, ?_, ?_, ?_⟩
    · rw [text, sumText, Expression.text_add]
      simp
    · simp only [Chain.total, waiting, Expression.interpret_add, ← sumFormula, ← formula]
      rfl
    · exact fits_add sign sumFits fits

theorem descend_eq_ok {rules : Rules} {frame : Frame} {outer : List Frame} {move : Move}
    (moved : descend rules frame outer = .ok move) :
    exceeds rules.allowance (cost frame outer) = false ∧ move = .go (.operand frame outer) := by
  unfold descend at moved
  split at moved
  · cases moved
  · next affordable =>
    cases moved
    exact ⟨Bool.eq_false_iff.2 affordable, rfl⟩

theorem Awaits.enter {rules : Rules} {column : Nat} {frame : Frame} {outer : List Frame}
    {text : List Char} {c : Char} {next : State} (awaits : Awaits rules frame outer text)
    (moved : Formula.enter rules column frame outer c = .ok (.go next)) :
    next.Spells rules (text ++ [c]) := by
  obtain ⟨⟨before, here, whole, outside, spells⟩, affordable⟩ := awaits
  unfold Formula.enter at moved
  split at moved
  · next sign found =>
    obtain ⟨deeper, move⟩ := descend_eq_ok moved
    cases move
    obtain ⟨sum, product, level, sumSpells, productSpells⟩ := spells
    refine ⟨⟨before, here ++ [c], by rw [whole, List.append_assoc], outside, sum, product, ?_,
      sumSpells, productSpells⟩, deeper⟩
    rw [level, eq_symbol_of_sign? found]
    simp
  · split at moved
    · next parenthesis =>
      obtain ⟨deeper, move⟩ := descend_eq_ok moved
      cases move
      refine ⟨⟨text ++ [c], [], by rw [List.append_nil], ⟨before, here, ?_, outside, spells⟩, [], [],
        rfl, rfl, rfl⟩, deeper⟩
      rw [whole, parenthesis]
    · split at moved
      · next numeral =>
        cases moved
        refine ⟨text, rfl, ⟨⟨before, here, whole, outside, spells⟩, affordable⟩, ?_⟩
        intro d member
        rw [List.mem_singleton.1 member]
        exact numeral
      · split at moved
        · next letter =>
          cases moved
          exact ⟨text, ⟨c, [], letter, by simp⟩, rfl, rfl, ⟨before, here, whole, outside, spells⟩,
            affordable⟩
        · cases moved

/-- A complete number or name takes its place in the chain. -/
theorem Settled.spells {rules : Rules} {state : State} {chain : Chain} {text : List Char}
    (settled : Settled rules state chain) (spells : state.Spells rules text) :
    (State.operator chain).Spells rules text := by
  cases settled with
  | operator => exact spells
  | @number frame outer spelled value reads =>
    obtain ⟨start, whole, ⟨⟨before, here, started, outside, level⟩, affordable⟩, numeric⟩ := spells
    unfold Number.Literal.read? at reads
    split at reads
    · next wellFormed =>
      cases reads
      simp only [Number.Literal.isWellFormed, Bool.and_eq_true, decide_eq_true_eq,
        List.any_eq_true] at wellFormed
      let numeral : Numeral := ⟨spelled.reverse, by simpa using numeric, wellFormed⟩
      have fits : Admitted rules (cost frame outer) [] 0 := ⟨by simp, affordable⟩
      have closed := level.close (.number numeral) fits
      exact ⟨before, here ++ spelled.reverse, by rw [whole, started, List.append_assoc], outside,
        closed⟩
    · cases reads
  | @name frame outer spelled declared =>
    obtain ⟨start, identifier, spells, whole, ⟨before, here, started, outside, level⟩,
      affordable⟩ := spells
    rw [← spells] at whole declared ⊢
    have fits : Admitted rules (cost frame outer) [identifier.name] 0 :=
      ⟨fun name member => by rw [List.mem_singleton.1 member]; exact declared, affordable⟩
    have closed := level.close (.name identifier) fits
    exact ⟨before, here ++ identifier.spelled, by rw [whole, started, List.append_assoc], outside,
      closed⟩

theorem extend_spells {rules : Rules} {column : Nat} {chain : Chain} {text : List Char} {c : Char}
    {next : State} (spells : (State.operator chain).Spells rules text)
    (moved : extend rules column chain c = .ok (.go next)) : next.Spells rules (text ++ [c]) := by
  obtain ⟨before, here, whole, outside, level⟩ := spells
  have ⟨e, eText, eFormula, eFits⟩ := level.total
  have ⟨sum, t, tText, sumSpells, tFormula, tFits⟩ := level
  unfold extend at moved
  split at moved
  · next sign found =>
    split at moved
    · cases moved
    · cases moved
      have text : here ++ [c] = e.text ++ [sign.symbol] ++ [] := by
        rw [eText, eq_symbol_of_sign? found, List.append_nil]
      exact ⟨⟨before, here ++ [c], by rw [whole, List.append_assoc], outside, e.text ++ [sign.symbol],
        [], by simpa using text, ⟨e, rfl, eFormula, eFits⟩, rfl⟩, eFits.spent⟩
  · split at moved
    · next scale found =>
      split at moved
      · cases moved
      · cases moved
        refine ⟨⟨before, here ++ [c], by rw [whole, List.append_assoc], outside, sum,
          t.text ++ [scale.symbol], ?_, sumSpells, t, rfl, tFormula, tFits⟩, tFits.spent⟩
        rw [tText, eq_symbol_of_scale? found]
        simp
    · split at moved
      · cases moved
      · next frame outer enclosing =>
        split at moved
        · next parenthesis =>
          cases moved
          -- the level that closes is one factor of the level around it
          rw [enclosing] at outside eFits
          obtain ⟨around, opened, start, beyond, waiting⟩ := outside
          rw [cost_open] at eFits
          have closed := waiting.close (.enclosed e) (admitted_deeper.2 eFits)
          refine ⟨around, opened ++ (Factor.enclosed e).text, ?_, beyond, ?_⟩
          · rw [whole, start, parenthesis, Factor.text, eText]
            simp
          · rw [← eFormula]
            exact closed
        · cases moved

theorem extend_stop {rules : Rules} {column : Nat} {chain : Chain} {c : Char} {formula : Formula}
    (stopped : extend rules column chain c = .ok (.stop formula)) :
    chain.outer = [] ∧ formula = chain.total := by
  unfold extend at stopped
  split at stopped
  · split at stopped
    · next leaves =>
      cases stopped
      exact ⟨List.isEmpty_iff.1 (Bool.and_eq_true_iff.1 leaves).1, rfl⟩
    · cases stopped
  · split at stopped
    · split at stopped
      · next leaves =>
        cases stopped
        exact ⟨List.isEmpty_iff.1 (Bool.and_eq_true_iff.1 leaves).1, rfl⟩
      · cases stopped
    · split at stopped
      · next outermost =>
        cases stopped
        exact ⟨outermost, rfl⟩
      · split at stopped
        · cases stopped
        · cases stopped

theorem conclude_eq_ok {column : Nat} {chain : Chain} {formula : Formula}
    (concluded : conclude column chain = .ok formula) :
    chain.outer = [] ∧ formula = chain.total := by
  unfold conclude at concluded
  split at concluded
  · next outermost =>
    cases concluded
    exact ⟨List.isEmpty_iff.1 outermost, rfl⟩
  · cases concluded

/-- Outside all parentheses, a chain has derived the whole text. -/
theorem derives_of_outermost {rules : Rules} {chain : Chain} {text : List Char}
    (spells : (State.operator chain).Spells rules text) (outermost : chain.outer = []) :
    Derives rules 0 text chain.total := by
  obtain ⟨before, here, whole, outside, level⟩ := spells
  rw [outermost] at outside level
  rw [whole, show before = [] from outside, List.nil_append]
  exact level.total

theorem enter_ne_stop {rules : Rules} {column : Nat} {frame : Frame} {outer : List Frame} {c : Char}
    {formula : Formula} : enter rules column frame outer c ≠ .ok (.stop formula) := by
  intro stopped
  unfold enter at stopped
  split at stopped
  · cases (descend_eq_ok stopped).2
  · split at stopped
    · cases (descend_eq_ok stopped).2
    · split at stopped
      · cases stopped
      · split at stopped
        · cases stopped
        · cases stopped

/-- The reader stops behind a complete operand only. -/
theorem exists_settled_of_stop {rules : Rules} {column : Nat} {state : State} {c : Char}
    {formula : Formula} (stopped : step rules column state c = .ok (.stop formula)) :
    ∃ chain, Settled rules state chain ∧ extend rules column chain c = .ok (.stop formula) := by
  rcases step_cases stopped with ⟨frame, outer, rfl, entered⟩ |
    ⟨frame, outer, spelled, rfl, -, go⟩ | ⟨frame, outer, spelled, rfl, -, go⟩ | settled
  · exact absurd entered enter_ne_stop
  · cases go
  · cases go
  · exact settled

theorem step_spells {rules : Rules} {column : Nat} {state next : State} {text : List Char} {c : Char}
    (spells : state.Spells rules text) (moved : step rules column state c = .ok (.go next)) :
    next.Spells rules (text ++ [c]) := by
  rcases step_cases moved with ⟨frame, outer, rfl, entered⟩ |
    ⟨frame, outer, spelled, rfl, numeral, go⟩ | ⟨frame, outer, spelled, rfl, inName, go⟩ |
    ⟨chain, settled, extended⟩
  · exact Awaits.enter spells entered
  · cases go
    obtain ⟨before, whole, awaits, numeric⟩ := spells
    refine ⟨before, by rw [whole, List.reverse_cons, List.append_assoc], awaits, ?_⟩
    intro d member
    rcases List.mem_cons.1 member with same | earlier
    · rw [same]
      exact numeral
    · exact numeric d earlier
  · cases go
    obtain ⟨before, identifier, spelling, whole, awaits⟩ := spells
    refine ⟨before, ⟨identifier.first, identifier.rest ++ [c], identifier.letter, ?_⟩, ?_,
      by rw [whole, List.reverse_cons, List.append_assoc], awaits⟩
    · intro d member
      rcases List.mem_append.1 member with earlier | same
      · exact identifier.continued d earlier
      · rw [List.mem_singleton.1 same]
        exact inName
    · rw [List.reverse_cons, ← spelling]
      rfl
  · exact extend_spells (settled.spells spells) extended

theorem step_stop_derives {rules : Rules} {column : Nat} {state : State} {text : List Char} {c : Char}
    {formula : Formula} (spells : state.Spells rules text)
    (stopped : step rules column state c = .ok (.stop formula)) : Derives rules 0 text formula := by
  obtain ⟨chain, settled, extended⟩ := exists_settled_of_stop stopped
  obtain ⟨outermost, total⟩ := extend_stop extended
  rw [total]
  exact derives_of_outermost (settled.spells spells) outermost

theorem finish_derives {rules : Rules} {column : Nat} {state : State} {text : List Char}
    {formula : Formula} (spells : state.Spells rules text)
    (finished : finish rules column state = .ok formula) : Derives rules 0 text formula := by
  obtain ⟨chain, settled, concluded⟩ := finish_cases finished
  obtain ⟨outermost, total⟩ := conclude_eq_ok concluded
  rw [total]
  exact derives_of_outermost (settled.spells spells) outermost

/-- What a run of the reader returns has a derivation of all it has read. -/
theorem scan_derives {rules : Rules} {column : Nat} {state : State} {text rest left : List Char}
    {formula : Formula} (spells : state.Spells rules text)
    (scanned : scan rules column state rest = .ok (formula, left)) :
    ∃ read, rest = read ++ left ∧ Derives rules 0 (text ++ read) formula := by
  induction rest generalizing column state text with
  | nil =>
    unfold scan at scanned
    cases finished : finish rules column state with
    | error fault =>
      rw [finished] at scanned
      cases scanned
    | ok complete =>
      rw [finished] at scanned
      cases scanned
      exact ⟨[], rfl, by rw [List.append_nil]; exact finish_derives spells finished⟩
  | cons c rest ih =>
    unfold scan at scanned
    split at scanned
    · cases scanned
    · next stopped =>
      cases scanned
      exact ⟨[], rfl, by rw [List.append_nil]; exact step_stop_derives spells stopped⟩
    · next next moved =>
      obtain ⟨read, split, derives⟩ := ih (step_spells spells moved) scanned
      refine ⟨c :: read, by rw [split]; rfl, ?_⟩
      rw [← List.singleton_append, ← List.append_assoc]
      exact derives

theorem start_spells (rules : Rules) : State.start.Spells rules [] := by
  have free : exceeds rules.allowance (cost Frame.empty []) = false := by
    cases limit : rules.allowance with
    | none => rfl
    | some most => simp [exceeds, cost, Frame.empty]
  exact ⟨⟨[], [], rfl, rfl, [], [], rfl, rfl, rfl⟩, free⟩

/-- A text is parsed exactly when it has a derivation within the rules, and into its tree. -/
theorem parseWithin_eq_ok_iff (allowance : Option Nat) (declared : String → Bool)
    (text : List Char) (formula : Formula) :
    parseWithin allowance declared text = .ok formula ↔
      Derives ⟨.sum, allowance, declared⟩ 0 text formula := by
  constructor
  · intro parsed
    unfold parseWithin at parsed
    split at parsed
    · cases parsed
    · next complete scanned =>
      cases parsed
      obtain ⟨read, split, derives⟩ := scan_derives (start_spells _) scanned
      rw [split, List.append_nil]
      exact derives
    · cases parsed
  · rintro ⟨e, spells, means, admitted⟩
    obtain ⟨state, chain, settled, total, outermost, reaches⟩ := e.reaches rfl [] admitted
    have scanned := reaches 1 []
    rw [List.append_nil, spells] at scanned
    simp only [parseWithin, State.start, scanned, scan, settled.finish, conclude, outermost, total,
      means, List.isEmpty_nil, if_true]
    rfl

/-- The rules that evaluation in an environment reads by. -/
abbrev rulesOf (env : Env) : Rules :=
  ⟨.sum, some allowance, env.declares⟩

theorem evaluate_eq_ok_iff_derives (env : Env) (expression : String) (value : Float) :
    evaluate env expression = .ok value ↔
      ∃ formula, Derives (rulesOf env) 0 (Text.squeeze expression.toList) formula ∧
        formula.value env.read = value := by
  constructor
  · intro evaluated
    unfold evaluate evaluateText at evaluated
    split at evaluated
    · next formula parsed =>
      cases evaluated
      exact ⟨formula, (parseWithin_eq_ok_iff _ _ _ _).1 parsed, rfl⟩
    · cases evaluated
  · rintro ⟨formula, derives, means⟩
    have parsed := (parseWithin_eq_ok_iff _ _ _ _).2 derives
    simp only [evaluate, evaluateText, parse, parsed, means]

/-- A text has a value exactly when the grammar derives it, within the allowance and from declared
names only; the value is that of the derivation, and there is no other derivation. -/
theorem evaluate_eq_ok_iff_derivation (env : Env) (expression : String) (value : Float) :
    (evaluate env expression = .ok value ↔
      ∃ e : Grammar.Expression, e.text = Text.squeeze expression.toList ∧
        e.interpret .nesting ≤ allowance ∧ (∀ name ∈ e.interpret .names, name ∈ env.names) ∧
        e.interpret (.value env.read) = value) ∧
    ∀ e other : Grammar.Expression, e.text = other.text ↔ e = other := by
  refine ⟨⟨?_, ?_⟩, fun e other => ⟨Grammar.Expression.eq_of_text_eq, fun same => by rw [same]⟩⟩
  · intro evaluated
    unfold evaluate evaluateText at evaluated
    split at evaluated
    · next formula parsed =>
      cases evaluated
      obtain ⟨e, spells, means, admitted⟩ := (parseWithin_eq_ok_iff _ _ _ _).1 parsed
      refine ⟨e, spells, ?_, ?_, ?_⟩
      · simpa [exceeds] using admitted.affordable
      · intro name member
        exact (env.declares_iff name).1 (admitted.declared name member)
      · rw [← e.value_formula, means]
    · cases evaluated
  · rintro ⟨e, spells, affordable, declared, means⟩
    have admitted : e.Fits ⟨.sum, some allowance, env.declares⟩ 0 :=
      ⟨fun name member => (env.declares_iff name).2 (declared name member),
        by simpa [exceeds] using affordable⟩
    have parsed := (parseWithin_eq_ok_iff _ _ _ _).2 ⟨e, spells, rfl, admitted⟩
    simp only [evaluate, evaluateText, parse, parsed, e.value_formula, means]

end BlockMachine.Formula
