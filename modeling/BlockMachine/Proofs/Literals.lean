import BlockMachine.Proofs.Doubles
import BlockMachine.Proofs.Recognition
import Mathlib.Tactic.Ring

/-!
Number literals denote the nearest number to their exact decimal. The decimal is
read off the places of the digits, before and behind the point, and does not
change with zeros in front, with zeros at the end behind a point, or with the
script of the digits. A text of digits and points is evaluated exactly when it
is a literal, to the one number that its decimal is rounded to.
-/

namespace BlockMachine.Number.Literal

def digit (c : Char) : ℕ :=
  (Text.digit? c).getD 0

/-- Behind the point each place counts a tenth of the one before it. -/
def fraction : List Char → ℚ
  | [] => 0
  | c :: rest => (digit c + fraction rest) / 10

/-- The decimal of a literal behind digits that make up a whole number. -/
def rationalFrom (whole : ℚ) : List Char → ℚ
  | [] => whole
  | c :: rest => if c = '.' then whole + fraction rest else rationalFrom (10 * whole + digit c) rest

/-- The exact decimal that a literal spells. -/
def rational (literal : List Char) : ℚ :=
  rationalFrom 0 literal

/-- At most one point, and a digit. -/
def WellFormed (literal : List Char) : Prop :=
  literal.count '.' ≤ 1 ∧ ∃ c ∈ literal, Text.isDigit c = true

/-- Only digits, of any script, and points. -/
def Numeric (literal : List Char) : Prop :=
  ∀ c ∈ literal, Text.isDigit c = true ∨ c = '.'

theorem Numeric.tail {c : Char} {literal : List Char} (numeric : Numeric (c :: literal)) :
    Numeric literal :=
  fun d member => numeric d (List.mem_cons_of_mem c member)

theorem Numeric.digit?_head {c : Char} {literal : List Char} (numeric : Numeric (c :: literal))
    (noPoint : c ≠ '.') : Text.digit? c = some (digit c) := by
  have found : Text.isDigit c = true := (numeric c List.mem_cons_self).resolve_right noPoint
  obtain ⟨value, found⟩ := Option.isSome_iff_exists.1 found
  rw [digit, found, Option.getD_some]

theorem Numeric.solid {literal : List Char} (numeric : Numeric literal) :
    ∀ c ∈ literal, Text.isBlank c = false := by
  intro c member
  rcases numeric c member with isDigit | rfl
  · exact Text.isBlank_of_isDigit isDigit
  · decide

section Decimal

/-- All digits of a literal, behind digits that make up a whole number. -/
def digitsFrom (whole : ℕ) (literal : List Char) : ℕ :=
  (literal.filterMap Text.digit?).foldl (fun value digit => 10 * value + digit) whole

theorem digitsFrom_digit {c : Char} {value : ℕ} (found : Text.digit? c = some value) (whole : ℕ)
    (rest : List Char) : digitsFrom whole (c :: rest) = digitsFrom (10 * whole + value) rest := by
  rw [digitsFrom, List.filterMap_cons_some found, List.foldl_cons, digitsFrom]

theorem digitsFrom_point (whole : ℕ) (rest : List Char) :
    digitsFrom whole ('.' :: rest) = digitsFrom whole rest := by
  have none : Text.digit? '.' = none := by decide
  rw [digitsFrom, List.filterMap_cons_none none, digitsFrom]

theorem digitsFrom_eq {literal : List Char} (numeric : Numeric literal) (noPoint : '.' ∉ literal)
    (whole : ℕ) :
    (digitsFrom whole literal : ℚ) = (whole + fraction literal) * 10 ^ literal.length := by
  induction literal generalizing whole with
  | nil => simp [digitsFrom, fraction]
  | cons c rest ih =>
    rw [List.mem_cons, not_or] at noPoint
    obtain ⟨apart, later⟩ := noPoint
    rw [digitsFrom_digit (numeric.digit?_head (Ne.symm apart)), ih numeric.tail later, fraction,
      List.length_cons, pow_succ]
    push_cast
    ring

/-- The decimal that is read is the one that the places of the digits tell. -/
theorem rationalFrom_eq {literal : List Char} (numeric : Numeric literal)
    (single : literal.count '.' ≤ 1) (whole : ℕ) :
    rationalFrom whole literal =
      digitsFrom whole literal / 10 ^ ((literal.dropWhile (· != '.')).length - 1) := by
  induction literal generalizing whole with
  | nil => simp [rationalFrom, digitsFrom]
  | cons c rest ih =>
    by_cases point : c = '.'
    · subst point
      rw [List.count_cons_self] at single
      have noPoint : '.' ∉ rest := List.count_eq_zero.1 (by omega)
      have places : (('.' :: rest).dropWhile (· != '.')).length - 1 = rest.length := by simp
      rw [rationalFrom, if_pos rfl, places, digitsFrom_point, digitsFrom_eq numeric.tail noPoint,
        mul_div_cancel_right₀ _ (by positivity)]
    · have dropped : (c :: rest).dropWhile (· != '.') = rest.dropWhile (· != '.') := by
        simp [point]
      rw [List.count_cons_of_ne point] at single
      rw [rationalFrom, if_neg point, dropped, digitsFrom_digit (numeric.digit?_head point),
        ← ih numeric.tail single]
      push_cast
      rfl

theorem isNearest_toFloat {literal : List Char} (numeric : Numeric literal)
    (single : literal.count '.' ≤ 1) : IsNearest (rational literal) (decimal literal).toFloat := by
  have value : rational literal =
      (decimal literal).digits / (Nat.pow 10 (decimal literal).places : ℕ) := by
    have read := rationalFrom_eq numeric single 0
    rw [Nat.cast_zero] at read
    rw [rational, read, Nat.pow_eq, Nat.cast_pow, Nat.cast_ofNat]
    rfl
  rw [value]
  exact isNearest_nearest _ (Nat.pow_pos (by decide))

end Decimal

section Spellings

variable {literal other zeros : List Char}

/-- Among digits and points, a point is what has no value. -/
theorem digit?_eq_none_iff {c : Char} (numeric : Text.isDigit c = true ∨ c = '.') :
    Text.digit? c = none ↔ c = '.' := by
  constructor
  · intro none
    apply numeric.resolve_left
    rw [Text.isDigit, none]
    exact Bool.false_ne_true
  · rintro rfl
    decide

theorem ne_point_of_zero {c : Char} (zero : Text.digit? c = some 0) : c ≠ '.' := by
  intro point
  rw [(digit?_eq_none_iff (.inr point)).2 point] at zero
  cases zero

theorem rational_zeros_append (allZero : ∀ c ∈ zeros, Text.digit? c = some 0) :
    rational (zeros ++ literal) = rational literal := by
  induction zeros with
  | nil => rfl
  | cons c zeros ih =>
    have zero := allZero c List.mem_cons_self
    rw [rational, List.cons_append, rationalFrom, if_neg (ne_point_of_zero zero), digit, zero,
      Option.getD_some, Nat.cast_zero, mul_zero, add_zero]
    exact ih fun d member => allZero d (List.mem_cons_of_mem c member)

theorem fraction_zeros (allZero : ∀ c ∈ zeros, Text.digit? c = some 0) : fraction zeros = 0 := by
  induction zeros with
  | nil => rfl
  | cons c zeros ih =>
    rw [fraction, ih fun d member => allZero d (List.mem_cons_of_mem c member), digit,
      allZero c List.mem_cons_self, Option.getD_some, Nat.cast_zero, add_zero, zero_div]

theorem fraction_append_zeros (allZero : ∀ c ∈ zeros, Text.digit? c = some 0) :
    fraction (literal ++ zeros) = fraction literal := by
  induction literal with
  | nil => exact fraction_zeros allZero
  | cons c rest ih => rw [List.cons_append, fraction, ih, fraction]

theorem rationalFrom_append_zeros (allZero : ∀ c ∈ zeros, Text.digit? c = some 0)
    (point : '.' ∈ literal) (whole : ℚ) :
    rationalFrom whole (literal ++ zeros) = rationalFrom whole literal := by
  induction literal generalizing whole with
  | nil => cases point
  | cons c rest ih =>
    rw [List.cons_append, rationalFrom, rationalFrom]
    by_cases here : c = '.'
    · rw [if_pos here, if_pos here, fraction_append_zeros allZero]
    · rw [if_neg here, if_neg here]
      exact ih ((List.mem_cons.1 point).resolve_left (Ne.symm here)) _

theorem fraction_congr (same : other.map Text.digit? = literal.map Text.digit?) :
    fraction other = fraction literal := by
  induction literal generalizing other with
  | nil => rw [List.map_eq_nil_iff.1 same]
  | cons c rest ih =>
    obtain ⟨d, more, rfl, value, later⟩ := List.map_eq_cons_iff.1 same
    rw [fraction, fraction, digit, digit, value, ih later]

theorem rationalFrom_congr (numeric : Numeric literal) (otherNumeric : Numeric other)
    (same : other.map Text.digit? = literal.map Text.digit?) (whole : ℚ) :
    rationalFrom whole other = rationalFrom whole literal := by
  induction literal generalizing other whole with
  | nil => rw [List.map_eq_nil_iff.1 same]
  | cons c rest ih =>
    obtain ⟨d, more, rfl, value, later⟩ := List.map_eq_cons_iff.1 same
    have points : d = '.' ↔ c = '.' := by
      rw [← digit?_eq_none_iff (otherNumeric d List.mem_cons_self), value,
        digit?_eq_none_iff (numeric c List.mem_cons_self)]
    rw [rationalFrom, rationalFrom, fraction_congr later, digit, digit, value,
      ih numeric.tail otherNumeric.tail later]
    simp only [points]

theorem numeric_zeros (allZero : ∀ c ∈ zeros, Text.digit? c = some 0) : Numeric zeros := by
  intro c member
  rw [Text.isDigit, allZero c member]
  exact .inl rfl

theorem Numeric.append (numeric : Numeric literal) (otherNumeric : Numeric other) :
    Numeric (literal ++ other) := by
  intro c member
  rcases List.mem_append.1 member with first | second
  · exact numeric c first
  · exact otherNumeric c second

/-- Zeros on either side add no point. -/
theorem WellFormed.of_zeros (formed : WellFormed literal)
    (allZero : ∀ c ∈ zeros, Text.digit? c = some 0) :
    WellFormed (zeros ++ literal) ∧ WellFormed (literal ++ zeros) := by
  obtain ⟨single, c, member, isDigit⟩ := formed
  have noPoint : zeros.count '.' = 0 := by
    rw [List.count_eq_zero]
    intro point
    exact ne_point_of_zero (allZero _ point) rfl
  constructor
  · refine ⟨?_, c, List.mem_append_right zeros member, isDigit⟩
    rw [List.count_append]
    omega
  · refine ⟨?_, c, List.mem_append_left zeros member, isDigit⟩
    rw [List.count_append]
    omega

theorem wellFormed_iff (numeric : Numeric literal) :
    WellFormed literal ↔ (literal.map Text.digit?).count none ≤ 1 ∧
      ∃ value ∈ literal.map Text.digit?, value.isSome = true := by
  have points : literal.count '.' = (literal.map Text.digit?).count none := by
    rw [List.count, List.count, List.countP_map]
    apply List.countP_congr
    intro c member
    rw [beq_iff_eq, Function.comp_apply, beq_iff_eq, digit?_eq_none_iff (numeric c member)]
  simp only [WellFormed, points, List.mem_map, exists_exists_and_eq_and, Text.isDigit]

end Spellings

end BlockMachine.Number.Literal

namespace BlockMachine.Formula
open Number.Literal

/-- A run of digits and points is read as a whole. -/
theorem evaluate_numerals (env : Env) {literal : String} (nonempty : literal.toList ≠ [])
    (numeric : Numeric literal.toList) (x : Float) :
    evaluate env literal = .ok x ↔ read? literal.toList = some x := by
  have numerals : ∀ c ∈ literal.toList, Text.isNumeral c = true := by
    intro c member
    rw [Text.isNumeral, Bool.or_eq_true, beq_iff_eq]
    exact numeric c member
  have scanned := reaches_numerals (rulesOf env) Frame.empty [] nonempty numerals 1 []
  rw [List.append_nil] at scanned
  simp only [evaluate, evaluateText, parse, parseWithin, Text.squeeze_eq_self numeric.solid,
    State.start, scanned, scan, finish, endNumber, List.reverse_reverse]
  cases read? literal.toList with
  | none => exact iff_of_false (fun same => by cases same) (fun same => by cases same)
  | some y => exact ⟨fun same => by cases same; rfl, fun same => by cases same; rfl⟩

theorem read?_eq_some_iff {literal : List Char} (numeric : Numeric literal) (x : Float) :
    read? literal = some x ↔ WellFormed literal ∧ Number.IsNearest (rational literal) x := by
  have checked : isWellFormed literal = true ↔ WellFormed literal := by
    simp only [isWellFormed, WellFormed, Bool.and_eq_true, decide_eq_true_eq, List.any_eq_true]
  unfold read?
  by_cases wellFormed : isWellFormed literal = true
  · have nearest := isNearest_toFloat numeric (checked.1 wellFormed).1
    rw [if_pos wellFormed, Option.some.injEq]
    constructor
    · rintro rfl
      exact ⟨checked.1 wellFormed, nearest⟩
    · rintro ⟨-, other⟩
      exact nearest.unique other
  · rw [if_neg wellFormed]
    constructor
    · intro none
      cases none
    · rintro ⟨formed, -⟩
      exact absurd (checked.2 formed) wellFormed

/-- A text of digits and points has the value that is nearest to its decimal, if it is well
formed. -/
theorem evaluate_eq_ok_iff_nearest (env : Env) {literal : String} (nonempty : literal.toList ≠ [])
    (numeric : Numeric literal.toList) (x : Float) :
    evaluate env literal = .ok x ↔
      WellFormed literal.toList ∧ Number.IsNearest (rational literal.toList) x := by
  rw [evaluate_numerals env nonempty numeric, read?_eq_some_iff numeric]

theorem evaluate_of_rational_eq {env : Env} {literal : String} {q : ℚ} {x : Float}
    (nearest : Number.IsNearest q x) (numeric : Numeric literal.toList)
    (formed : WellFormed literal.toList) (same : rational literal.toList = q) :
    evaluate env literal = .ok x := by
  obtain ⟨c, member, -⟩ := formed.2
  rw [evaluate_eq_ok_iff_nearest env (List.ne_nil_of_mem member) numeric, same]
  exact ⟨formed, nearest⟩

/-- A text of digits and points has a value exactly when it has a digit and at most one point. The
value is the one number that the exact decimal is rounded to, so neither zeros in front, nor zeros
at the end behind a point, nor the script of the digits change it. -/
theorem evaluate_numeral_nearest (env : Env) {literal : String} (nonempty : literal.toList ≠ [])
    (numeric : Numeric literal.toList) :
    ((∃ x, evaluate env literal = .ok x) ↔ WellFormed literal.toList) ∧
    ∀ x, evaluate env literal = .ok x →
      (∀ y, Number.IsNearest (rational literal.toList) y ↔ y = x) ∧
      (∀ zeros : String, (∀ c ∈ zeros.toList, Text.digit? c = some 0) →
        evaluate env (zeros ++ literal) = .ok x ∧
        ('.' ∈ literal.toList → evaluate env (literal ++ zeros) = .ok x)) ∧
      ∀ other : String, Numeric other.toList →
        other.toList.map Text.digit? = literal.toList.map Text.digit? →
        evaluate env other = .ok x := by
  have meaning := evaluate_eq_ok_iff_nearest env nonempty numeric
  constructor
  · constructor
    · rintro ⟨x, evaluated⟩
      exact ((meaning x).1 evaluated).1
    · intro formed
      exact ⟨_, (meaning _).2 ⟨formed, isNearest_toFloat numeric formed.1⟩⟩
  · intro x evaluated
    obtain ⟨formed, nearest⟩ := (meaning x).1 evaluated
    refine ⟨fun y => ⟨fun other => other.unique nearest, fun same => same ▸ nearest⟩, ?_, ?_⟩
    · intro zeros allZero
      obtain ⟨before, behind⟩ := formed.of_zeros allZero
      have zerosNumeric := numeric_zeros allZero
      rw [← String.toList_append] at before behind
      constructor
      · apply evaluate_of_rational_eq nearest _ before
        · rw [String.toList_append, rational_zeros_append allZero]
        · rw [String.toList_append]
          exact zerosNumeric.append numeric
      · intro point
        apply evaluate_of_rational_eq nearest _ behind
        · rw [String.toList_append]
          exact rationalFrom_append_zeros allZero point 0
        · rw [String.toList_append]
          exact numeric.append zerosNumeric
    · intro other otherNumeric same
      have otherFormed : WellFormed other.toList := by
        rw [wellFormed_iff otherNumeric, same, ← wellFormed_iff numeric]
        exact formed
      exact evaluate_of_rational_eq nearest otherNumeric otherFormed
        (rationalFrom_congr numeric otherNumeric same 0)

/-- Three and a half, spelled in two scripts, is the only number nearest to itself, and one more
zero does not change it. -/
theorem half_in_two_scripts :
    let half := Number.ofWord 0x400C000000000000
    Numeric "٣.5".toList ∧ evaluate .empty "٣.5" = .ok half ∧
      (∀ y, Number.IsNearest (7 / 2) y ↔ y = half) ∧ evaluate .empty ("٣.5" ++ "0") = .ok half := by
  intro half
  have spelled : "٣.5".toList = ['٣', '.', '5'] := rfl
  have three : digit '٣' = 3 := by decide
  have five : digit '5' = 5 := by decide
  have numeric : Numeric "٣.5".toList := by
    rw [spelled]
    intro c member
    simp only [List.mem_cons, List.not_mem_nil, or_false] at member
    rcases member with rfl | rfl | rfl
    · exact .inl (by decide)
    · exact .inr rfl
    · exact .inl (by decide)
  have evaluated : evaluate .empty "٣.5" = .ok half := by
    have word : Number.nearestWord 35 10 = 0x400C000000000000 := by decide +kernel
    have read : evaluate .empty "٣.5" = .ok (Number.ofWord (Number.nearestWord 35 10)) := rfl
    rw [read, word]
  have decimal : rational "٣.5".toList = 7 / 2 := by
    rw [spelled, rational, rationalFrom, if_neg (by decide), rationalFrom, if_pos rfl, fraction,
      fraction, three, five]
    norm_num
  obtain ⟨nearest, zeros, -⟩ :=
    (evaluate_numeral_nearest .empty (by decide) numeric).2 half evaluated
  rw [decimal] at nearest
  refine ⟨numeric, evaluated, nearest, (zeros "0" ?_).2 ?_⟩
  · intro c member
    rw [List.mem_singleton.1 member]
    decide
  · rw [spelled]
    decide

end BlockMachine.Formula
