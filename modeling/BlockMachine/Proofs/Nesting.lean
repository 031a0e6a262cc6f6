import BlockMachine.Proofs.Lookups

/-!
How deep a text nests. A reader without an allowance passes through states that
have parentheses and signs open; the largest cost among them is the peak of the
text. An allowance makes a difference exactly to the texts whose peak is beyond
it. What is closed is no longer part of any state, so the peak of a formula is
that of its deepest factor, however long the formula is.
-/

namespace BlockMachine.Grammar

namespace Meaning

/-- For every factor, the cost of the parentheses and signs around it: three and one each. -/
def costs : Meaning (List Nat) where
  number _ := [0]
  name _ := [0]
  signed _ operand := 0 :: operand.map (· + 1)
  enclosed inner := 0 :: inner.map (· + 3)
  added left _ right := left ++ right
  scaled left _ right := left ++ right

/-- There are no parentheses, and every sign stands between two operands. -/
def flat : Meaning Bool where
  number _ := true
  name _ := true
  signed _ _ := false
  enclosed _ := false
  added left _ right := left && right
  scaled left _ right := left && right

end Meaning

/-- Costs of factors together with the largest one. -/
structure Depths where
  costs : List Nat
  most : Nat
  reached : most ∈ costs
  bounded : ∀ cost ∈ costs, cost ≤ most

namespace Depths

def leaf : Depths := ⟨[0], 0, by simp, by simp⟩

/-- The factors stand inside one more sign or pair of parentheses, which is a factor itself. -/
def deeper (more : Nat) (inner : Depths) : Depths where
  costs := 0 :: inner.costs.map (· + more)
  most := inner.most + more
  reached := List.mem_cons_of_mem _ (List.mem_map_of_mem inner.reached)
  bounded := by
    intro cost member
    rcases List.mem_cons.1 member with here | inside
    · omega
    · obtain ⟨less, listed, rfl⟩ := List.mem_map.1 inside
      have bound := inner.bounded less listed
      omega

def join (left right : Depths) : Depths where
  costs := left.costs ++ right.costs
  most := max left.most right.most
  reached := by
    rcases Nat.le_total left.most right.most with order | order
    · rw [Nat.max_eq_right order]
      exact List.mem_append_right _ right.reached
    · rw [Nat.max_eq_left order]
      exact List.mem_append_left _ left.reached
  bounded := by
    intro cost member
    rcases List.mem_append.1 member with listed | listed
    · have bound := left.bounded cost listed
      omega
    · have bound := right.bounded cost listed
      omega

def meaning : Meaning Depths where
  number _ := leaf
  name _ := leaf
  signed _ := deeper 1
  enclosed := deeper 3
  added left _ right := left.join right
  scaled left _ right := left.join right

end Depths

/-- The nesting of a derivation is the cost of one of its factors, and of none is it larger. -/
theorem Expression.nesting_largest (e : Expression) :
    e.interpret .nesting ∈ e.interpret .costs ∧
      ∀ cost ∈ e.interpret .costs, cost ≤ e.interpret .nesting := by
  have listed : (e.interpret Depths.meaning).costs = e.interpret .costs := by
    apply e.map_interpret
    constructor <;> intros <;> rfl
  have largest : (e.interpret Depths.meaning).most = e.interpret .nesting := by
    apply e.map_interpret
    constructor <;> intros <;> rfl
  rw [← listed, ← largest]
  exact ⟨(e.interpret Depths.meaning).reached, (e.interpret Depths.meaning).bounded⟩

theorem Expression.nesting_eq_zero_of_flat {e : Expression} (flat : e.interpret .flat = true) :
    e.interpret .nesting = 0 := by
  have join : ∀ left right : Nat, (max left right == 0) = (left == 0 && right == 0) := by
    intro left right
    rw [Bool.eq_iff_iff, Bool.and_eq_true, beq_iff_eq, beq_iff_eq, beq_iff_eq]
    omega
  have same : (e.interpret .nesting == 0) = e.interpret .flat := by
    apply e.map_interpret (f := fun nesting => nesting == 0)
    constructor
    · exact fun _ => rfl
    · exact fun _ => rfl
    · exact fun _ _ => rfl
    · exact fun _ => rfl
    · exact fun left _ right => join left right
    · exact fun left _ right => join left right
  rw [flat, beq_iff_eq] at same
  exact same

end BlockMachine.Grammar

namespace BlockMachine.Formula
open Grammar

/-- The cost of what is open in a state. -/
def State.cost : State → Nat
  | .operand frame outer => Formula.cost frame outer
  | .number frame outer _ => Formula.cost frame outer
  | .name frame outer _ => Formula.cost frame outer
  | .operator chain => Formula.cost Frame.empty chain.outer

/-- The largest cost of the states from this one on, up to where the reader halts. -/
def peakFrom (rules : Rules) (column : Nat) (state : State) : List Char → Nat
  | [] => state.cost
  | c :: text =>
    match step rules column state c with
    | .ok (.go next) => max state.cost (peakFrom rules (column + 1) next text)
    | .ok (.stop _) => state.cost
    | .error _ => state.cost

/-- The largest cost of the states in which a reader without an allowance reads the text. -/
def peak (declared : String → Bool) (text : List Char) : Nat :=
  peakFrom ⟨.sum, none, declared⟩ 1 .start text

theorem cost_le_peakFrom (rules : Rules) (column : Nat) (state : State) (text : List Char) :
    state.cost ≤ peakFrom rules column state text := by
  cases text with
  | nil => exact Nat.le_refl _
  | cons c text =>
    rw [peakFrom]
    split
    · exact Nat.le_max_left _ _
    · exact Nat.le_refl _
    · exact Nat.le_refl _

/-- What is left of a step when the next state may cost this much at most. -/
def bounded (most : Nat) : Except Fault Move → Except Fault Move
  | .ok (.go next) => if most < next.cost then .error .tooDeep else .ok (.go next)
  | .ok (.stop formula) => .ok (.stop formula)
  | .error fault => .error fault

theorem bounded_eq_self {most : Nat} {result : Except Fault Move}
    (affordable : ∀ next, result = .ok (.go next) → next.cost ≤ most) :
    bounded most result = result := by
  cases result with
  | error fault => rfl
  | ok move =>
    cases move with
    | stop formula => rfl
    | go next => exact if_neg (Nat.not_lt.2 (affordable next rfl))

theorem cost_le_of_extend {rules : Rules} {column : Nat} {chain : Chain} {c : Char} {next : State}
    (extended : extend rules column chain c = .ok (.go next)) :
    next.cost ≤ cost Frame.empty chain.outer := by
  have ends := extend_extends rules column chain c
  rw [extended] at ends
  cases ends with
  | added found =>
    rw [State.cost, cost_frame]
    exact Nat.le_refl _
  | scaled found =>
    rw [State.cost, cost_frame]
    exact Nat.le_refl _
  | @closed frame outer enclosing closes =>
    have after : (State.operator (frame.chain chain.total outer)).cost = cost Frame.empty outer :=
      rfl
    rw [after, enclosing, cost_open, cost_frame frame outer]
    omega

theorem Settled.cost_le {rules : Rules} {state : State} {chain : Chain}
    (settled : Settled rules state chain) : cost Frame.empty chain.outer ≤ state.cost := by
  cases settled with
  | operator => exact Nat.le_refl _
  | @number frame outer spelled value reads =>
    rw [State.cost, cost_frame frame outer]
    exact Nat.le_add_right _ _
  | @name frame outer spelled declared =>
    rw [State.cost, cost_frame frame outer]
    exact Nat.le_add_right _ _

/-- The cost grows nowhere but where an operand is awaited. -/
theorem cost_le_of_step {rules : Rules} {column : Nat} {state next : State} {c : Char}
    (moved : step rules column state c = .ok (.go next))
    (started : ∀ frame outer, state ≠ .operand frame outer) : next.cost ≤ state.cost := by
  rcases step_cases moved with ⟨frame, outer, rfl, -⟩ | ⟨frame, outer, spelled, rfl, -, go⟩ |
    ⟨frame, outer, spelled, rfl, -, go⟩ | ⟨chain, settled, extended⟩
  · exact absurd rfl (started frame outer)
  · cases go
    exact Nat.le_refl _
  · cases go
    exact Nat.le_refl _
  · exact Nat.le_trans (cost_le_of_extend extended) settled.cost_le

section Allowance

variable {level : Level} {declared : String → Bool} {most : Nat}

theorem enter_within (column : Nat) (frame : Frame) (outer : List Frame) (c : Char)
    (affordable : cost frame outer ≤ most) :
    enter ⟨level, some most, declared⟩ column frame outer c =
      bounded most (enter ⟨level, none, declared⟩ column frame outer c) := by
  have descends : ∀ inner levels, descend ⟨level, some most, declared⟩ inner levels =
      bounded most (descend ⟨level, none, declared⟩ inner levels) := by
    intro inner levels
    by_cases deep : most < cost inner levels
    · simp [descend, exceeds, bounded, State.cost, deep]
    · simp [descend, exceeds, bounded, State.cost, deep]
  unfold enter
  split
  · exact descends _ _
  · split
    · exact descends _ _
    · symm
      apply bounded_eq_self
      intro next entered
      split at entered
      · cases entered
        exact affordable
      · split at entered
        · cases entered
          exact affordable
        · cases entered

/-- The allowance is asked for the cost of the next state, and for nothing else. -/
theorem step_within (column : Nat) {state : State} (c : Char) (affordable : state.cost ≤ most) :
    step ⟨level, some most, declared⟩ column state c =
      bounded most (step ⟨level, none, declared⟩ column state c) := by
  have settled : (∀ frame outer, state ≠ .operand frame outer) →
      bounded most (step ⟨level, none, declared⟩ column state c) =
        step ⟨level, none, declared⟩ column state c := by
    intro started
    apply bounded_eq_self
    intro next moved
    exact Nat.le_trans (cost_le_of_step moved started) affordable
  cases state with
  | operand frame outer => exact enter_within column frame outer c affordable
  | number frame outer spelled => exact (settled (by simp)).symm
  | name frame outer spelled => exact (settled (by simp)).symm
  | operator chain => exact (settled (by simp)).symm

/-- From a state it can afford, a reader with an allowance reads as the one without it, unless the
peak that is still ahead is beyond the allowance. -/
theorem scan_within (column : Nat) {state : State} (text : List Char)
    (affordable : state.cost ≤ most) :
    scan ⟨level, some most, declared⟩ column state text =
      if most < peakFrom ⟨level, none, declared⟩ column state text then .error .tooDeep
      else scan ⟨level, none, declared⟩ column state text := by
  induction text generalizing column state with
  | nil => rw [peakFrom, if_neg (Nat.not_lt.2 affordable)]; rfl
  | cons c text ih =>
    rw [scan, scan, step_within column c affordable, peakFrom]
    cases step ⟨level, none, declared⟩ column state c with
    | error fault => rw [if_neg (Nat.not_lt.2 affordable)]; rfl
    | ok move =>
      cases move with
      | stop formula => rw [if_neg (Nat.not_lt.2 affordable)]; rfl
      | go next =>
        have ahead := cost_le_peakFrom ⟨level, none, declared⟩ (column + 1) next text
        have higher : most < max state.cost
            (peakFrom ⟨level, none, declared⟩ (column + 1) next text) ↔
            most < peakFrom ⟨level, none, declared⟩ (column + 1) next text := by omega
        by_cases deep : most < next.cost
        · have beyond : most < peakFrom ⟨level, none, declared⟩ (column + 1) next text := by omega
          simp only [bounded, if_pos deep, higher, if_pos beyond]
        · simp only [bounded, if_neg deep, higher, ih (column + 1) (Nat.not_lt.1 deep)]

end Allowance

theorem parseWithin_by_peak (most : Nat) (declared : String → Bool) (text : List Char) :
    parseWithin (some most) declared text =
      if most < peak declared text then .error .tooDeep else parseWithin none declared text := by
  have free : State.start.cost ≤ most := Nat.zero_le most
  rw [parseWithin, scan_within 1 text free, ← peak]
  by_cases deep : most < peak declared text
  · simp only [if_pos deep]
  · simp only [if_neg deep, parseWithin]

/-- Without an allowance nothing nests too deep. -/
theorem parseWithin_none_ne_tooDeep (declared : String → Bool) (text : List Char) :
    parseWithin none declared text ≠ .error .tooDeep := by
  intro parsed
  obtain ⟨read, left, last, -, -, halts⟩ := parseWithin_path none declared text
  rw [parsed] at halts
  cases halts with
  | unfinished fails => exact finish_ne_tooDeep fails
  | refused refuses => exact allowance_of_tooDeep refuses rfl

/-- A derivation over declared names reaches its nesting and no more. -/
theorem peak_eq_nesting {declared : String → Bool} {e : Expression}
    (known : ∀ name ∈ e.interpret .names, declared name = true) :
    peak declared e.text = e.interpret .nesting := by
  have parsed : parseWithin none declared e.text = .ok (e.interpret .formula) :=
    (parseWithin_eq_ok_iff _ _ _ _).2 ⟨e, rfl, rfl, known, rfl⟩
  apply Nat.le_antisymm
  · -- an allowance of the nesting admits the derivation
    have admitted : e.Fits ⟨.sum, some (e.interpret .nesting), declared⟩ 0 :=
      ⟨known, by simp [exceeds]⟩
    have accepted := (parseWithin_eq_ok_iff _ _ _ _).2 ⟨e, rfl, rfl, admitted⟩
    rw [parseWithin_by_peak] at accepted
    split at accepted
    · cases accepted
    · next within => exact Nat.not_lt.1 within
  · -- and an allowance of the peak admits no other derivation of the text
    have accepted : parseWithin (some (peak declared e.text)) declared e.text =
        .ok (e.interpret .formula) := by
      rw [parseWithin_by_peak, if_neg (Nat.lt_irrefl _), parsed]
    obtain ⟨other, text, -, admitted⟩ := (parseWithin_eq_ok_iff _ _ _ _).1 accepted
    rw [Expression.eq_of_text_eq text] at admitted
    simpa [exceeds] using admitted.affordable

theorem peak_term {declared : String → Bool} {t : Term}
    (known : ∀ name ∈ t.interpret .names, declared name = true) :
    peak declared t.text = t.interpret .nesting := by
  have alone : (Expression.mk t .none).text = t.text := by
    rw [Expression.text, Summands.text, List.append_nil]
  have reached : peak declared (Expression.mk t .none).text = t.interpret .nesting :=
    peak_eq_nesting (e := .mk t .none) known
  rwa [alone] at reached

theorem peak_factor {declared : String → Bool} {factor : Factor}
    (known : ∀ name ∈ factor.interpret .names, declared name = true) :
    peak declared factor.text = factor.interpret .nesting := by
  have alone : (Term.mk factor .none).text = factor.text := by
    rw [Term.text, Factors.text, List.append_nil]
  have reached : peak declared (Term.mk factor .none).text = factor.interpret .nesting :=
    peak_term (t := .mk factor .none) known
  rwa [alone] at reached

/-- What is closed before a sign costs nothing behind it. -/
theorem peak_add {declared : String → Bool} {e : Expression} {t : Term}
    (known : ∀ name ∈ e.interpret .names ++ t.interpret .names, declared name = true)
    (sign : Sign) :
    peak declared (e.text ++ sign.symbol :: t.text) =
      max (peak declared e.text) (peak declared t.text) := by
  have both : ∀ name ∈ (e.add sign t).interpret .names, declared name = true := by
    rwa [Expression.interpret_add]
  rw [← Expression.text_add, peak_eq_nesting both, Expression.interpret_add,
    peak_eq_nesting fun name member => known name (List.mem_append_left _ member),
    peak_term fun name member => known name (List.mem_append_right _ member)]
  rfl

theorem peak_scale {declared : String → Bool} {t : Term} {factor : Factor}
    (known : ∀ name ∈ t.interpret .names ++ factor.interpret .names, declared name = true)
    (scale : Scale) :
    peak declared (t.text ++ scale.symbol :: factor.text) =
      max (peak declared t.text) (peak declared factor.text) := by
  have both : ∀ name ∈ (t.scale scale factor).interpret .names, declared name = true := by
    rwa [Term.interpret_scale]
  rw [← Term.text_scale, peak_term both, Term.interpret_scale,
    peak_term fun name member => known name (List.mem_append_left _ member),
    peak_factor fun name member => known name (List.mem_append_right _ member)]
  rfl

/-- Evaluation with this allowance, or with none. -/
def evaluateWithin (allowance : Option Nat) (env : Env) (expression : String) :
    Except Error Float :=
  match parseWithin allowance env.declares (Text.squeeze expression.toList) with
  | .ok formula => .ok (formula.value env.read)
  | .error fault => .error ⟨Text.squeeze expression.toList, fault⟩

theorem evaluateWithin_by_peak (most : Nat) (env : Env) (expression : String) :
    evaluateWithin (some most) env expression =
      if most < peak env.declares (Text.squeeze expression.toList) then
        .error ⟨Text.squeeze expression.toList, .tooDeep⟩
      else evaluateWithin none env expression := by
  rw [evaluateWithin, parseWithin_by_peak]
  by_cases deep : most < peak env.declares (Text.squeeze expression.toList)
  · simp only [if_pos deep]
  · simp only [if_neg deep, evaluateWithin]

theorem evaluateWithin_none_ne_tooDeep (env : Env) (expression : String) (text : List Char) :
    evaluateWithin none env expression ≠ .error ⟨text, .tooDeep⟩ := by
  intro fails
  unfold evaluateWithin at fails
  split at fails
  · cases fails
  · next fault parsed =>
    cases fails
    exact parseWithin_none_ne_tooDeep _ _ parsed

theorem evaluateWithin_none_of_derivation {env : Env} {expression : String} {e : Expression}
    (text : e.text = Text.squeeze expression.toList)
    (known : ∀ name ∈ e.interpret .names, env.declares name = true) :
    evaluateWithin none env expression = .ok (e.interpret (.value env.read)) := by
  have parsed : parseWithin none env.declares (Text.squeeze expression.toList) =
      .ok (e.interpret .formula) := (parseWithin_eq_ok_iff _ _ _ _).2 ⟨e, text, rfl, known, rfl⟩
  simp only [evaluateWithin, parsed, e.value_formula]

/-- Nesting alone decides whether a text nests too deep: it does exactly when its peak is beyond the
allowance, and else has the value or the error that it has without one. The peak of a derivation
over declared names is the largest cost of its factors. So a chain of operands of any length is
evaluated under every allowance, and where one part is closed before the next begins, their costs
do not add up. -/
theorem tooDeep_iff_peak (most : Nat) (env : Env) (expression : String) :
    let text := Text.squeeze expression.toList
    evaluate env expression = evaluateWithin (some allowance) env expression ∧
    (evaluateWithin (some most) env expression = .error ⟨text, .tooDeep⟩ ↔
      most < peak env.declares text) ∧
    (peak env.declares text ≤ most →
      evaluateWithin (some most) env expression = evaluateWithin none env expression) ∧
    (∀ e : Expression, e.text = text → (∀ name ∈ e.interpret .names, name ∈ env.names) →
      peak env.declares text ∈ e.interpret .costs ∧
      (∀ cost ∈ e.interpret .costs, cost ≤ peak env.declares text) ∧
      (e.interpret .flat = true →
        evaluateWithin (some most) env expression = .ok (e.interpret (.value env.read)))) ∧
    (∀ (e : Expression) (sign : Sign) (t : Term),
      (∀ name ∈ e.interpret .names ++ t.interpret .names, name ∈ env.names) →
      peak env.declares (e.text ++ sign.symbol :: t.text) =
        max (peak env.declares e.text) (peak env.declares t.text)) ∧
    (∀ (t : Term) (scale : Scale) (factor : Factor),
      (∀ name ∈ t.interpret .names ++ factor.interpret .names, name ∈ env.names) →
      peak env.declares (t.text ++ scale.symbol :: factor.text) =
        max (peak env.declares t.text) (peak env.declares factor.text)) := by
  intro text
  have declares : ∀ {names : List String}, (∀ name ∈ names, name ∈ env.names) →
      ∀ name ∈ names, env.declares name = true :=
    fun known name member => (env.declares_iff name).2 (known name member)
  refine ⟨rfl, ?_, ?_, ?_, ?_, ?_⟩
  · rw [evaluateWithin_by_peak]
    split
    · next beyond => simp [text, beyond]
    · next within =>
      constructor
      · intro fails
        exact absurd fails (evaluateWithin_none_ne_tooDeep env expression text)
      · intro beyond
        exact absurd beyond within
  · intro within
    rw [evaluateWithin_by_peak, if_neg (Nat.not_lt.2 within)]
  · intro e spells known
    have reached : peak env.declares text = e.interpret .nesting := by
      rw [← spells, peak_eq_nesting (declares known)]
    refine ⟨reached ▸ e.nesting_largest.1, reached ▸ e.nesting_largest.2, ?_⟩
    intro flat
    have within : ¬most < peak env.declares text := by
      rw [reached, Expression.nesting_eq_zero_of_flat flat]
      exact Nat.not_lt_zero most
    rw [evaluateWithin_by_peak, if_neg within,
      evaluateWithin_none_of_derivation spells (declares known)]
  · intro e sign t known
    exact peak_add (declares known) sign
  · intro t scale factor known
    exact peak_scale (declares known) scale

/-- The second parenthesis is beyond an allowance of three, and then the name behind it is never
come to; an allowance of six finds the name unknown. -/
theorem unknown_name_beyond_allowance :
    let text := ['(', '(', 'x']
    evaluateWithin (some 3) .empty "((x" = .error ⟨text, .tooDeep⟩ ∧
      evaluateWithin (some 6) .empty "((x" = .error ⟨text, .undefinedName 3 ['x']⟩ := by
  intro text
  have six : peak Env.empty.declares (Text.squeeze "((x".toList) = 6 := rfl
  constructor
  · exact (tooDeep_iff_peak 3 .empty "((x").2.1.2 (by rw [six]; decide)
  · rw [(tooDeep_iff_peak 6 .empty "((x").2.2.1 (Nat.le_of_eq six)]
    rfl

end BlockMachine.Formula
