import BlockMachine.Proofs.Words
import Mathlib.Algebra.Order.Field.Rat
import Mathlib.Tactic.Linarith
import Mathlib.Tactic.NormNum
import Mathlib.Tactic.Positivity

/-!
The number nearest to a quotient, among all binary64 numbers. The values of the
words without a sign ascend up to infinity, and the word that a quotient is
rounded to is that of the number nearest to it, whatever the sign of the others.
Where rounding ends in zero, in a subnormal number or in infinity is told by the
middles between neighbouring words, and each quotient has one nearest number
only.
-/

namespace BlockMachine.Number
open Float.Model Float.Model.UnpackedFloat

section Values

/-- The exact value of a finite number. -/
def valueOf? : UnpackedFloat → Option ℚ
  | .finite sign m e _ => some (sign.apply m * 2 ^ e)
  | .zero _ => some 0
  | .infinity _ => none
  | .notANumber => none

theorem valueOf?_finite (sign : UnpackedFloat.Sign) (m : Nat) (e : Int) (positive : 0 < m) :
    valueOf? (.finite sign m e positive) = some (sign.apply m * (2 : ℚ) ^ e) := rfl

def rational? (x : Float) : Option ℚ :=
  valueOf? x.toModel.unpack

/-- The bits of a finite number. -/
def bitsOf : UnpackedFloat → Nat
  | .finite _ m _ _ => m
  | .zero _ => 0
  | .infinity _ => 0
  | .notANumber => 0

def significand (x : Float) : Nat :=
  bitsOf x.toModel.unpack

/-- The value of a finite word, by its units and its sign. -/
def valueOfWord (word : Nat) : ℚ :=
  ((signOfWord word).apply (unitsOfWord word) : ℤ) / 2 ^ 1074

theorem apply_mul (sign : UnpackedFloat.Sign) (a b : ℤ) :
    sign.apply (a * b) = sign.apply a * b := by
  cases sign with
  | negative => exact (Int.neg_mul a b).symm
  | positive => rfl

theorem two_zpow_neg (n : ℕ) : (2 : ℚ) ^ (-n : ℤ) = (2 ^ n)⁻¹ := by
  rw [zpow_neg, zpow_natCast]

theorem Unpacks.value {word : Nat} {x : UnpackedFloat} (unpacks : Unpacks word x)
    (finite : word / 2 ^ 52 % 2 ^ 11 ≠ 2047) : valueOf? x = some (valueOfWord word) := by
  have opened := unitsOfWord_eq word
  cases unpacks with
  | infinity last empty => exact absurd last finite
  | notANumber last nonempty => exact absurd last finite
  | zero first empty =>
    have units : unitsOfWord word = 0 := by rw [opened, if_pos first, empty]
    have signed : (signOfWord word).apply 0 = 0 := by cases signOfWord word <;> rfl
    rw [valueOfWord, units, Int.ofNat_zero, signed, Int.cast_zero, zero_div]
    rfl
  | @subnormal m e positive first mantissa exponent =>
    have units : unitsOfWord word = m := by rw [opened, if_pos first, mantissa]
    have power : (2 : ℚ) ^ e = (2 ^ 1074)⁻¹ := by rw [exponent, ← two_zpow_neg]; rfl
    rw [valueOf?_finite, valueOfWord, units, power, div_eq_mul_inv]
  | @normal m e positive first last mantissa exponent =>
    have units : unitsOfWord word = m * 2 ^ (word / 2 ^ 52 % 2 ^ 11 - 1) := by
      rw [opened, if_neg first, mantissa]
    have power : (2 : ℚ) ^ e = 2 ^ (word / 2 ^ 52 % 2 ^ 11 - 1) * (2 ^ 1074)⁻¹ := by
      have shifted : e = (word / 2 ^ 52 % 2 ^ 11 - 1 : ℕ) + -(1074 : ℕ) := by omega
      rw [shifted, zpow_add₀ two_ne_zero, zpow_natCast, two_zpow_neg]
    rw [valueOf?_finite, valueOfWord, units, power, Int.natCast_mul, apply_mul, Int.cast_mul,
      div_eq_mul_inv, mul_assoc]
    norm_cast

theorem Unpacks.finite_of_value {word : Nat} {x : UnpackedFloat} (unpacks : Unpacks word x) {v : ℚ}
    (known : valueOf? x = some v) : word / 2 ^ 52 % 2 ^ 11 ≠ 2047 := by
  cases unpacks with
  | infinity last empty => cases known
  | notANumber last nonempty => cases known
  | zero first empty => omega
  | subnormal first mantissa exponent => omega
  | normal first last mantissa exponent => exact last

theorem Unpacks.bitsOf_mod_two {word : Nat} {x : UnpackedFloat} (unpacks : Unpacks word x)
    (finite : word / 2 ^ 52 % 2 ^ 11 ≠ 2047) : bitsOf x % 2 = word % 2 := by
  cases unpacks with
  | infinity last empty => exact absurd last finite
  | notANumber last nonempty => exact absurd last finite
  | zero first empty =>
    change 0 % 2 = _
    omega
  | @subnormal m e positive first mantissa exponent =>
    change m % 2 = _
    omega
  | @normal m e positive first last mantissa exponent =>
    change m % 2 = _
    omega

theorem rational?_eq_some_iff (x : Float) (v : ℚ) :
    rational? x = some v ↔
      x.toBits.toNat / 2 ^ 52 % 2 ^ 11 ≠ 2047 ∧ v = valueOfWord x.toBits.toNat := by
  constructor
  · intro known
    have finite := (unpacks_toBits x).finite_of_value known
    rw [rational?, (unpacks_toBits x).value finite, Option.some.injEq] at known
    exact ⟨finite, known.symm⟩
  · rintro ⟨finite, rfl⟩
    exact (unpacks_toBits x).value finite

theorem significand_mod_two {x : Float} {v : ℚ} (known : rational? x = some v) :
    significand x % 2 = x.toBits.toNat % 2 :=
  (unpacks_toBits x).bitsOf_mod_two ((rational?_eq_some_iff x v).1 known).1

theorem rational?_ofWord {word : Nat} (finite : word < infinityWord) :
    rational? (ofWord word) = some (valueOfWord word) := by
  have top := infinityWord_eq
  rw [rational?_eq_some_iff, toNat_toBits_ofWord (Nat.le_of_lt finite)]
  exact ⟨by omega, rfl⟩

theorem valueOfWord_of_unsigned {word : Nat} (unsigned : word < 2 ^ 63) :
    valueOfWord word = unitsOfWord word / 2 ^ 1074 := by
  rw [valueOfWord, (signOfWord_eq_positive_iff (by omega)).2 unsigned]
  rfl

theorem valueOfWord_zero : valueOfWord 0 = 0 := by
  have units : unitsOfWord 0 = 0 := by decide
  rw [valueOfWord_of_unsigned (by decide), units, Nat.cast_zero, zero_div]

theorem valueOfWord_normal : valueOfWord (2 ^ 52) = 2 ^ (-1022 : ℤ) := by
  have units : unitsOfWord (2 ^ 52) = 2 ^ 52 := by decide
  rw [valueOfWord_of_unsigned (by decide), units, Nat.cast_pow, Nat.cast_ofNat, div_eq_mul_inv,
    ← two_zpow_neg, ← zpow_natCast, ← zpow_add₀ two_ne_zero]
  rfl

theorem valueOfWord_nonpos {word : Nat} (short : word < 2 ^ 64) (signed : ¬word < 2 ^ 63) :
    valueOfWord word ≤ 0 := by
  have negative : signOfWord word = .negative := by
    cases sign : signOfWord word with
    | negative => rfl
    | positive => exact absurd ((signOfWord_eq_positive_iff short).1 sign) signed
  have below : UnpackedFloat.Sign.apply .negative (unitsOfWord word) ≤ 0 := by
    rw [UnpackedFloat.Sign.apply]
    omega
  rw [valueOfWord, negative]
  exact div_nonpos_of_nonpos_of_nonneg (by exact_mod_cast below) (by positivity)

theorem valueOfWord_lt {word other : Nat} (order : word < other) (bounded : other ≤ infinityWord) :
    valueOfWord word < valueOfWord other := by
  have top := infinityWord_eq
  have units := unitsOfWord_lt order (by omega)
  rw [valueOfWord_of_unsigned (by omega), valueOfWord_of_unsigned (by omega)]
  exact div_lt_div_of_pos_right (by exact_mod_cast units) (by positivity)

end Values

section Distances

theorem cast_inUnits (n : Nat) : (inUnits n : ℚ) = n * 2 ^ 1074 := by
  unfold inUnits
  generalize 1074 = e
  rw [Nat.pow_eq, Nat.cast_mul, Nat.cast_pow, Nat.cast_ofNat]

theorem cast_gap (n d k : Nat) : (gap n d k : ℚ) = |(k : ℚ) * d - n| := by
  rw [gap]
  rcases Nat.le_total (k * d) n with below | above
  · have order : (k : ℚ) * d ≤ n := by exact_mod_cast below
    rw [Nat.sub_eq_zero_of_le below, Nat.zero_add, Nat.cast_sub below, Nat.cast_mul, abs_sub_comm,
      abs_of_nonneg (sub_nonneg.2 order)]
  · have order : (n : ℚ) ≤ k * d := by exact_mod_cast above
    rw [Nat.sub_eq_zero_of_le above, Nat.add_zero, Nat.cast_sub above, Nat.cast_mul,
      abs_of_nonneg (sub_nonneg.2 order)]

theorem abs_sub_eq_gap (n : Nat) {d word : Nat} (positive : 0 < d) (unsigned : word < 2 ^ 63) :
    |valueOfWord word - n / d| = (gap (inUnits n) d (unitsOfWord word) : ℚ) / (2 ^ 1074 * d) := by
  have divides : (0 : ℚ) < d := by exact_mod_cast positive
  have unit : (0 : ℚ) < 2 ^ 1074 := by positivity
  rw [valueOfWord_of_unsigned unsigned, div_sub_div _ _ unit.ne' divides.ne',
    mul_comm (2 ^ 1074 : ℚ) (n : ℚ), abs_div, abs_of_pos (mul_pos unit divides), cast_gap,
    cast_inUnits]

/-- The word that is chosen has the nearest of all values without a sign. -/
theorem nearestWord_closest (n : Nat) {d : Nat} (positive : 0 < d) {word : Nat}
    (bounded : word ≤ infinityWord) :
    |valueOfWord (nearestWord n d) - n / d| ≤ |valueOfWord word - n / d| ∧
      (|valueOfWord word - n / d| = |valueOfWord (nearestWord n d) - n / d| →
        word = nearestWord n d ∨ nearestWord n d % 2 = 0) := by
  have top := infinityWord_eq
  have known := nearestWord_le_infinityWord n d
  have divides : (0 : ℚ) < 2 ^ 1074 * d := mul_pos (by positivity) (by exact_mod_cast positive)
  obtain ⟨near, tie⟩ := nearestWord_noFarther n positive bounded
  rw [abs_sub_eq_gap n positive (by omega), abs_sub_eq_gap n positive (by omega)]
  constructor
  · exact div_le_div_of_nonneg_right (by exact_mod_cast near) divides.le
  · intro equal
    rw [div_left_inj' divides.ne', Nat.cast_inj] at equal
    exact tie equal

theorem nearestWord_le_iff_lt (n : Nat) {d : Nat} (positive : 0 < d) {word : Nat}
    (bounded : word < infinityWord) {middle : ℚ}
    (between : middle = (unitsOfWord word + unitsOfWord (word + 1) : ℕ) * 2 ^ (-1075 : ℤ)) :
    nearestWord n d ≤ word ↔ (n : ℚ) / d < middle ∨ (n : ℚ) / d = middle ∧ word % 2 = 0 := by
  have divides : (0 : ℚ) < d := by exact_mod_cast positive
  have unit : (0 : ℚ) < 2 * 2 ^ 1074 := by positivity
  have half : (2 : ℚ) ^ (-1075 : ℤ) = (2 * 2 ^ 1074)⁻¹ := by
    rw [← pow_succ', ← two_zpow_neg]
    rfl
  have twice : (n : ℚ) * (2 * 2 ^ 1074) = (2 * inUnits n : ℕ) := by
    rw [Nat.cast_mul, cast_inUnits, Nat.cast_ofNat, mul_left_comm]
  rw [nearestWord_le_iff n positive bounded, between, half, ← div_eq_mul_inv,
    div_lt_div_iff₀ divides unit, div_eq_div_iff divides.ne' unit.ne', twice]
  norm_cast

/-- The middle above an odd word belongs to the next one. -/
theorem nearestWord_le_odd_iff (n : Nat) {d : Nat} (positive : 0 < d) {word : Nat}
    (bounded : word < infinityWord) (odd : word % 2 = 1) {middle : ℚ}
    (between : middle = (unitsOfWord word + unitsOfWord (word + 1) : ℕ) * 2 ^ (-1075 : ℤ)) :
    nearestWord n d ≤ word ↔ (n : ℚ) / d < middle := by
  rw [nearestWord_le_iff_lt n positive bounded between]
  apply or_iff_left
  rintro ⟨-, even⟩
  omega

theorem nearestWord_eq_zero_iff (n : Nat) {d : Nat} (positive : 0 < d) :
    nearestWord n d = 0 ↔ (n : ℚ) / d ≤ 2 ^ (-1075 : ℤ) := by
  have units : unitsOfWord 0 + unitsOfWord (0 + 1) = 1 := by decide
  have boundary := nearestWord_le_iff_lt n positive (show 0 < infinityWord by decide) rfl
  rw [units, Nat.cast_one, one_mul, Nat.le_zero] at boundary
  rw [boundary, le_iff_lt_or_eq, and_iff_left (Nat.zero_mod 2)]

theorem nearestWord_lt_normal_iff (n : Nat) {d : Nat} (positive : 0 < d) :
    nearestWord n d < 2 ^ 52 ↔ (n : ℚ) / d < 2 ^ (-1022 : ℤ) - 2 ^ (-1075 : ℤ) := by
  have units : unitsOfWord (2 ^ 52 - 1) + unitsOfWord (2 ^ 52 - 1 + 1) = 2 ^ 53 - 1 := by decide
  have shifted : (2 : ℚ) ^ (-1022 : ℤ) = 2 ^ 53 * 2 ^ (-1075 : ℤ) := by
    rw [← zpow_natCast, ← zpow_add₀ two_ne_zero]
    rfl
  rw [← nearestWord_le_odd_iff n positive (show 2 ^ 52 - 1 < infinityWord by decide) (by decide)]
  · omega
  · rw [units, shifted, ← sub_one_mul]
    norm_num

theorem nearestWord_lt_infinityWord_iff (n : Nat) {d : Nat} (positive : 0 < d) :
    nearestWord n d < infinityWord ↔ (n : ℚ) / d < 2 ^ 1024 - 2 ^ 970 := by
  have top := infinityWord_eq
  -- the largest number and the first one beyond it are neighbours of one scale
  obtain ⟨scale, known⟩ : ∃ scale : ℕ, scale = 2045 := ⟨2045, rfl⟩
  have last : Scaled (infinityWord - 1) scale (2 ^ 53 - 1) := ⟨by omega, by omega, by omega⟩
  have next : Scaled (infinityWord - 1 + 1) scale (2 ^ 53) := ⟨by omega, by omega, by omega⟩
  have step : (2 : ℚ) ^ scale * 2 ^ (-1075 : ℤ) = 2 ^ 970 := by
    rw [known, ← zpow_natCast, ← zpow_natCast, ← zpow_add₀ two_ne_zero]
    rfl
  have steps : (2 : ℚ) ^ 1024 = 2 ^ 54 * 2 ^ 970 := by rw [← pow_add]
  rw [← nearestWord_le_odd_iff n positive (show infinityWord - 1 < infinityWord by omega)
    (by omega)]
  · omega
  · rw [last.units (by omega), next.units (by omega), ← Nat.add_mul, Nat.cast_mul, mul_assoc,
      Nat.cast_pow, Nat.cast_ofNat, step, steps, ← sub_one_mul]
    norm_num

end Distances

/-- The number that `q` is rounded to: of all numbers the nearest one, and of two the one whose last
bit is zero. It has no sign; from half a step beyond the largest number on it is infinite, up to
half the smallest number it is zero, and between these and the normal numbers it is subnormal. -/
structure IsNearest (q : ℚ) (x : Float) : Prop where
  unsigned : isNegativeWord x.toBits.toNat = false
  overflow : 2 ^ 1024 - 2 ^ 970 ≤ q ↔ x.toModel.unpack = .infinity .positive
  nearest : q < 2 ^ 1024 - 2 ^ 970 → ∃ v, rational? x = some v ∧ ∀ y w, rational? y = some w →
    |v - q| ≤ |w - q| ∧ (|w - q| = |v - q| → w = v ∨ significand x % 2 = 0)
  underflow : q ≤ 2 ^ (-1075 : ℤ) ↔ rational? x = some 0
  subnormal : 2 ^ (-1075 : ℤ) < q → q < 2 ^ (-1022 : ℤ) - 2 ^ (-1075 : ℤ) →
    ∃ v, rational? x = some v ∧ 0 < v ∧ v < 2 ^ (-1022 : ℤ)

theorem rational?_nearest {n d : Nat} (finite : nearestWord n d < infinityWord) :
    rational? (nearest n d) = some (valueOfWord (nearestWord n d)) :=
  rational?_ofWord finite

theorem toNat_toBits_nearest (n d : Nat) : (nearest n d).toBits.toNat = nearestWord n d :=
  toNat_toBits_ofWord (nearestWord_le_infinityWord n d)

theorem nearest_closest (n : Nat) {d : Nat} (positive : 0 < d)
    (finite : nearestWord n d < infinityWord) {y : Float} {w : ℚ} (known : rational? y = some w) :
    let v := valueOfWord (nearestWord n d)
    |v - n / d| ≤ |w - n / d| ∧
      (|w - n / d| = |v - n / d| → w = v ∨ significand (nearest n d) % 2 = 0) := by
  intro v
  have top := infinityWord_eq
  rw [significand_mod_two (rational?_nearest finite), toNat_toBits_nearest]
  obtain ⟨bounded, rfl⟩ := (rational?_eq_some_iff y w).1 known
  by_cases unsigned : y.toBits.toNat < 2 ^ 63
  · obtain ⟨near, tie⟩ :=
      nearestWord_closest n positive (show y.toBits.toNat ≤ infinityWord by omega)
    refine ⟨near, fun equal => ?_⟩
    rcases tie equal with same | even
    · exact .inl (by rw [same])
    · exact .inr even
  · -- a number with a sign is no nearer than zero
    have quotient : (0 : ℚ) ≤ n / d := by positivity
    have below := valueOfWord_nonpos y.toBits.toNat_lt unsigned
    have away : |valueOfWord y.toBits.toNat - n / d| = n / d - valueOfWord y.toBits.toNat := by
      rw [abs_of_nonpos (by linarith), neg_sub]
    obtain ⟨near, tie⟩ := nearestWord_closest n positive (Nat.zero_le infinityWord)
    rw [valueOfWord_zero, zero_sub, abs_neg, abs_of_nonneg quotient] at near tie
    rw [away]
    refine ⟨by linarith, fun equal => ?_⟩
    have nothing : valueOfWord y.toBits.toNat = 0 := by linarith
    rcases tie (by linarith) with same | even
    · exact .inl (by rw [nothing, ← valueOfWord_zero, same])
    · exact .inr even

theorem isNearest_nearest (n : Nat) {d : Nat} (positive : 0 < d) :
    IsNearest ((n : ℚ) / d) (nearest n d) := by
  have top := infinityWord_eq
  have known := nearestWord_le_infinityWord n d
  have kept := toNat_toBits_nearest n d
  constructor
  · rw [kept, isNegativeWord_eq_false_iff (by omega)]
    omega
  · rw [unpack_eq_infinity_iff, kept, ← not_lt, ← nearestWord_lt_infinityWord_iff n positive]
    omega
  · intro below
    have finite := (nearestWord_lt_infinityWord_iff n positive).2 below
    exact ⟨_, rational?_nearest finite, fun y w other => nearest_closest n positive finite other⟩
  · rw [← nearestWord_eq_zero_iff n positive]
    constructor
    · intro zero
      rw [rational?_nearest (by omega), zero]
      exact congrArg some valueOfWord_zero
    · intro zero
      obtain ⟨-, equal⟩ := (rational?_eq_some_iff _ _).1 zero
      rw [kept, ← valueOfWord_zero] at equal
      by_contra above
      exact absurd equal (valueOfWord_lt (Nat.pos_of_ne_zero above) known).ne
  · intro above below
    rw [← not_le, ← nearestWord_eq_zero_iff n positive] at above
    rw [← nearestWord_lt_normal_iff n positive] at below
    refine ⟨_, rational?_nearest (by omega), ?_, ?_⟩
    · rw [← valueOfWord_zero]
      exact valueOfWord_lt (Nat.pos_of_ne_zero above) known
    · rw [← valueOfWord_normal]
      exact valueOfWord_lt below (by decide)

/-- Of two values, equally far on either side, none between them is as far. -/
theorem abs_sub_lt_of_between {v u w q : ℚ} (above : v < u) (below : u < w)
    (same : |w - q| = |v - q|) : |u - q| < |v - q| := by
  have middle : w - q = -(v - q) := by
    rcases abs_eq_abs.1 same with equal | opposite
    · linarith
    · exact opposite
  have far : |v - q| = q - v := by rw [abs_of_nonpos (by linarith), neg_sub]
  rw [far, abs_lt]
  constructor <;> linarith

/-- The words that can be rounded to are those of nearest values. -/
theorem IsNearest.closest {q : ℚ} {x : Float} (nearest : IsNearest q x)
    (below : q < 2 ^ 1024 - 2 ^ 970) :
    x.toBits.toNat < infinityWord ∧ ∀ word < infinityWord,
      |valueOfWord x.toBits.toNat - q| ≤ |valueOfWord word - q| ∧
        (|valueOfWord word - q| = |valueOfWord x.toBits.toNat - q| →
          valueOfWord word = valueOfWord x.toBits.toNat ∨ x.toBits.toNat % 2 = 0) := by
  have top := infinityWord_eq
  have unsigned := (isNegativeWord_eq_false_iff x.toBits.toNat_lt).1 nearest.unsigned
  obtain ⟨v, known, closest⟩ := nearest.nearest below
  rw [significand_mod_two known] at closest
  obtain ⟨finite, rfl⟩ := (rational?_eq_some_iff x v).1 known
  exact ⟨by omega, fun word bounded => closest _ _ (rational?_ofWord bounded)⟩

theorem IsNearest.word_le {q : ℚ} {x y : Float} (first : IsNearest q x) (second : IsNearest q y)
    (below : q < 2 ^ 1024 - 2 ^ 970) : y.toBits.toNat ≤ x.toBits.toNat := by
  obtain ⟨finite, closest⟩ := first.closest below
  obtain ⟨otherFinite, otherClosest⟩ := second.closest below
  generalize x.toBits.toNat = word at finite closest otherClosest
  generalize y.toBits.toNat = other at otherFinite closest otherClosest
  by_contra order
  have less := valueOfWord_lt (Nat.not_le.1 order) (Nat.le_of_lt otherFinite)
  obtain ⟨near, tie⟩ := closest other otherFinite
  obtain ⟨otherNear, otherTie⟩ := otherClosest word finite
  have same := le_antisymm otherNear near
  have even := (tie same).resolve_left less.ne'
  have otherEven := (otherTie same.symm).resolve_left less.ne
  -- two even words have another one between them, which is nearer to the middle
  have between := abs_sub_lt_of_between
    (valueOfWord_lt (Nat.lt_succ_self word) (show word + 1 ≤ infinityWord by omega))
    (valueOfWord_lt (show word + 1 < other by omega) (Nat.le_of_lt otherFinite)) same
  exact absurd between (not_lt.2 (closest (word + 1) (by omega)).1)

/-- A quotient has no other nearest number. -/
theorem IsNearest.unique {q : ℚ} {x y : Float} (first : IsNearest q x) (second : IsNearest q y) :
    x = y := by
  apply eq_of_toNat_toBits
  by_cases below : q < 2 ^ 1024 - 2 ^ 970
  · exact Nat.le_antisymm (second.word_le first below) (first.word_le second below)
  · have infinite := (unpack_eq_infinity_iff x).1 (first.overflow.1 (not_lt.1 below))
    have otherInfinite := (unpack_eq_infinity_iff y).1 (second.overflow.1 (not_lt.1 below))
    rw [infinite, otherInfinite]

end BlockMachine.Number
