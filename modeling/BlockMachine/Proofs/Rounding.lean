import BlockMachine.Number.Binary64
import Mathlib.Algebra.Group.Nat.Defs

/-!
Quotients rounded to binary64 words. Words without a sign ascend with the number
of units they stand for, up to the word of infinity, which stands for the first
number beyond all others. A word counts steps of its scale, so to round a
quotient is to round it to a whole number of steps: words of coarser scales are
whole numbers of these steps as well, and words of finer scales are too small to
be nearer.
-/

namespace BlockMachine.Number

/-- How far `k` is from `n / d`, in parts of `1 / d`. -/
def gap (n d k : Nat) : Nat :=
  (k * d - n) + (n - k * d)

/-- The quotient is rounded down from the lower half and up from the upper one, and from the middle
to an even number. -/
theorem roundDiv_cases (n d : Nat) :
    (roundDiv n d = n / d ∧ 2 * (n % d) ≤ d ∨ roundDiv n d = n / d + 1 ∧ d ≤ 2 * (n % d)) ∧
      (2 * (n % d) = d → roundDiv n d % 2 = 0) := by
  unfold roundDiv
  simp only []
  split
  · omega
  · split
    · omega
    · omega

/-- No whole number is nearer to the quotient, and only to an even one is another as near. -/
theorem roundDiv_nearest (n : Nat) {d : Nat} (positive : 0 < d) (k : Nat) :
    gap n d (roundDiv n d) ≤ gap n d k ∧
      (gap n d k = gap n d (roundDiv n d) → k = roundDiv n d ∨ roundDiv n d % 2 = 0) := by
  have whole := Nat.div_add_mod' n d
  have part := Nat.mod_lt n positive
  have next : (n / d + 1) * d = n / d * d + d := Nat.succ_mul _ _
  have apart : k = n / d ∨ k = n / d + 1 ∨ k * d + d ≤ n / d * d ∨ n / d * d + 2 * d ≤ k * d := by
    rcases Nat.lt_trichotomy k (n / d) with below | here | above
    · have scaled := Nat.mul_le_mul_right d (Nat.succ_le_of_lt below)
      rw [Nat.succ_mul] at scaled
      exact .inr (.inr (.inl scaled))
    · exact .inl here
    · by_cases beyond : k = n / d + 1
      · exact .inr (.inl beyond)
      · have scaled := Nat.mul_le_mul_right d (show n / d + 2 ≤ k by omega)
        rw [Nat.add_mul] at scaled
        exact .inr (.inr (.inr scaled))
  obtain ⟨chosen, tie⟩ := roundDiv_cases n d
  generalize roundDiv n d = m at chosen tie
  unfold gap
  rcases chosen with ⟨rfl, half⟩ | ⟨rfl, half⟩
  · rcases apart with rfl | rfl | below | above <;> omega
  · rcases apart with rfl | rfl | below | above <;> omega

/-- A word counts steps of `2 ^ scale` units, and above the first scale it has all its bits. -/
structure Scaled (word scale significand : Nat) : Prop where
  split : word = scale * 2 ^ 52 + significand
  full : scale = 0 ∨ 2 ^ 52 ≤ significand
  bounded : significand ≤ 2 ^ 53

theorem unitsOfWord_eq (word : Nat) :
    unitsOfWord word = if word / 2 ^ 52 % 2 ^ 11 = 0 then word % 2 ^ 52
      else (2 ^ 52 + word % 2 ^ 52) * 2 ^ (word / 2 ^ 52 % 2 ^ 11 - 1) := rfl

theorem exists_scaled (word : Nat) :
    ∃ scale significand, Scaled word scale significand ∧ significand < 2 ^ 53 := by
  refine ⟨word / 2 ^ 52 - 1, word - (word / 2 ^ 52 - 1) * 2 ^ 52, ⟨?_, ?_, ?_⟩, ?_⟩ <;> omega

theorem Scaled.units {word scale significand : Nat} (scaled : Scaled word scale significand)
    (unsigned : word < 2 ^ 63) : unitsOfWord word = significand * 2 ^ scale := by
  obtain ⟨split, full, bounded⟩ := scaled
  rw [unitsOfWord_eq]
  by_cases small : significand < 2 ^ 52
  · have first : scale = 0 := by omega
    rw [if_pos (by omega), first, Nat.pow_zero, Nat.mul_one]
    omega
  · rw [if_neg (by omega)]
    by_cases carried : significand = 2 ^ 53
    · have next : word / 2 ^ 52 % 2 ^ 11 - 1 = scale + 1 := by omega
      have zero : word % 2 ^ 52 = 0 := by omega
      rw [next, zero, carried, Nat.pow_succ]
      omega
    · have same : word / 2 ^ 52 % 2 ^ 11 - 1 = scale := by omega
      have fraction : 2 ^ 52 + word % 2 ^ 52 = significand := by omega
      rw [same, fraction]

/-- The next word counts one step more. -/
theorem Scaled.succ {word scale significand : Nat} (scaled : Scaled word scale significand)
    (room : significand < 2 ^ 53) : Scaled (word + 1) scale (significand + 1) := by
  obtain ⟨split, full, -⟩ := scaled
  exact ⟨by omega, by omega, by omega⟩

theorem unitsOfWord_lt_succ {word : Nat} (unsigned : word + 1 < 2 ^ 63) :
    unitsOfWord word < unitsOfWord (word + 1) := by
  obtain ⟨scale, significand, scaled, room⟩ := exists_scaled word
  rw [scaled.units (by omega), (scaled.succ room).units unsigned, Nat.succ_mul]
  exact Nat.lt_add_of_pos_right (Nat.two_pow_pos scale)

theorem unitsOfWord_lt {word other : Nat} (order : word < other) (unsigned : other < 2 ^ 63) :
    unitsOfWord word < unitsOfWord other := by
  induction other with
  | zero => exact absurd order (Nat.not_lt_zero word)
  | succ other ih =>
    have step := unitsOfWord_lt_succ unsigned
    rcases Nat.lt_succ_iff_lt_or_eq.1 order with earlier | here
    · exact Nat.lt_trans (ih earlier (by omega)) step
    · rwa [here]

theorem unitsOfWord_inj {word other : Nat} (unsigned : word < 2 ^ 63)
    (otherUnsigned : other < 2 ^ 63) (same : unitsOfWord word = unitsOfWord other) : word = other := by
  rcases Nat.lt_trichotomy word other with less | equal | more
  · have strict := unitsOfWord_lt less otherUnsigned
    omega
  · exact equal
  · have strict := unitsOfWord_lt more unsigned
    omega

/-- A word of a finer scale is not above the first word of a coarser one. -/
theorem Scaled.units_mul_le {word scale significand coarser : Nat}
    (scaled : Scaled word scale significand) (unsigned : word < 2 ^ 63) (finer : scale < coarser)
    (d : Nat) : unitsOfWord word * d ≤ 2 ^ 52 * (d * 2 ^ coarser) := by
  have doubled : 2 ^ 53 * 2 ^ scale ≤ 2 ^ 52 * 2 ^ coarser := by
    rw [← Nat.pow_add, ← Nat.pow_add]
    exact Nat.pow_le_pow_right (by decide) (by omega)
  calc unitsOfWord word * d = significand * 2 ^ scale * d := by rw [scaled.units unsigned]
    _ ≤ 2 ^ 53 * 2 ^ scale * d := Nat.mul_le_mul_right d (Nat.mul_le_mul_right _ scaled.bounded)
    _ ≤ 2 ^ 52 * 2 ^ coarser * d := Nat.mul_le_mul_right d doubled
    _ = 2 ^ 52 * (d * 2 ^ coarser) := by rw [Nat.mul_assoc, Nat.mul_comm d]

/-- At its scale a quotient has all the bits of a significand, unless the scale is the first. -/
theorem scaled_roundDiv (n : Nat) {d : Nat} (positive : 0 < d) :
    let scale := (n / d).log2 - 52
    let significand := roundDiv n (d * 2 ^ scale)
    Scaled (scale * 2 ^ 52 + significand) scale significand ∧
      (scale = 0 ∨ 2 ^ 52 * (d * 2 ^ scale) ≤ n) := by
  intro scale significand
  have steps : n / (d * 2 ^ scale) = n / d / 2 ^ scale := (Nat.div_div_eq_div_mul n d _).symm
  have below : n / (d * 2 ^ scale) < 2 ^ 53 := by
    rw [steps, Nat.div_lt_iff_lt_mul (Nat.two_pow_pos scale), ← Nat.pow_add]
    apply Nat.lt_of_lt_of_le (Nat.lt_log2_self (n := n / d))
    exact Nat.pow_le_pow_right (by decide) (by omega)
  have above : scale = 0 ∨ 2 ^ 52 ≤ n / (d * 2 ^ scale) := by
    by_cases first : scale = 0
    · exact .inl first
    · right
      have nonzero : n / d ≠ 0 := by
        intro zero
        simp [scale, zero] at first
      rw [steps, Nat.le_div_iff_mul_le (Nat.two_pow_pos scale), ← Nat.pow_add]
      apply Nat.le_trans _ (Nat.log2_self_le nonzero)
      exact Nat.pow_le_pow_right (by decide) (by omega)
  obtain ⟨chosen, -⟩ := roundDiv_cases n (d * 2 ^ scale)
  constructor
  · exact ⟨rfl, by omega, by omega⟩
  · rcases above with first | full
    · exact .inl first
    · exact .inr ((Nat.le_div_iff_mul_le (Nat.mul_pos positive (Nat.two_pow_pos scale))).1 full)

/-- The gap of a number of steps is the same in steps and in units. -/
theorem gap_steps (n d scale k : Nat) : gap n d (k * 2 ^ scale) = gap n (d * 2 ^ scale) k := by
  rw [gap, gap, Nat.mul_assoc, Nat.mul_comm (2 ^ scale)]

theorem infinityWord_eq : infinityWord = 2047 * 2 ^ 52 := by decide

/-- A whole number in units of 2^-1074. -/
def inUnits (n : Nat) : Nat :=
  n * Nat.pow 2 1074

theorem nearestWord_eq (n d : Nat) :
    let scale := (inUnits n / d).log2 - 52
    nearestWord n d =
      min (scale * 2 ^ 52 + roundDiv (inUnits n) (d * 2 ^ scale)) infinityWord := rfl

theorem nearestWord_le_infinityWord (n d : Nat) : nearestWord n d ≤ infinityWord := by
  rw [nearestWord_eq]
  exact Nat.min_le_right _ _

/-- `chosen` is no farther from `units / d` than `word`, and as far only if it is even. -/
structure NoFarther (units d chosen word : Nat) : Prop where
  le : gap units d (unitsOfWord chosen) ≤ gap units d (unitsOfWord word)
  tie : gap units d (unitsOfWord word) = gap units d (unitsOfWord chosen) →
    word = chosen ∨ chosen % 2 = 0

theorem Scaled.noFarther {units d chosen scale : Nat}
    (scaled : Scaled chosen scale (roundDiv units (d * 2 ^ scale))) (positive : 0 < d)
    (reached : scale = 0 ∨ 2 ^ 52 * (d * 2 ^ scale) ≤ units) (unsigned : chosen < 2 ^ 63)
    {word : Nat} (bounded : word ≤ infinityWord) : NoFarther units d chosen word := by
  have top := infinityWord_eq
  have closest := roundDiv_nearest units (Nat.mul_pos positive (Nat.two_pow_pos scale))
  have value := scaled.units unsigned
  obtain ⟨otherScale, other, otherScaled, room⟩ := exists_scaled word
  by_cases coarser : scale ≤ otherScale
  · -- the other word is a whole number of the steps that were counted
    have steps : unitsOfWord word = other * 2 ^ (otherScale - scale) * 2 ^ scale := by
      rw [otherScaled.units (by omega), Nat.mul_assoc, ← Nat.pow_add, Nat.sub_add_cancel coarser]
    obtain ⟨nearer, tie⟩ := closest (other * 2 ^ (otherScale - scale))
    rw [← gap_steps, ← gap_steps units d scale, ← value, ← steps] at nearer tie
    refine ⟨nearer, fun equal => ?_⟩
    rcases tie equal with same | even
    · exact .inl (unitsOfWord_inj (by omega) unsigned (by rw [steps, same, value]))
    · have split := scaled.split
      exact .inr (by omega)
  · -- the other word is below all words of this scale
    have below : unitsOfWord word * d < 2 ^ 52 * (d * 2 ^ scale) := by
      have next := (otherScaled.succ room).units_mul_le (by omega) (Nat.not_le.1 coarser) d
      have step : unitsOfWord word < unitsOfWord (word + 1) := unitsOfWord_lt_succ (by omega)
      exact Nat.lt_of_lt_of_le (Nat.mul_lt_mul_of_pos_right step positive) next
    have least := (closest (2 ^ 52)).1
    rw [← gap_steps, ← value] at least
    have farther : gap units (d * 2 ^ scale) (2 ^ 52) < gap units d (unitsOfWord word) := by
      unfold gap
      omega
    exact ⟨by omega, fun equal => by omega⟩

/-- No word up to that of infinity is nearer to the quotient than the one that is chosen. -/
theorem nearestWord_noFarther (n : Nat) {d : Nat} (positive : 0 < d) {word : Nat}
    (bounded : word ≤ infinityWord) :
    NoFarther (inUnits n) d (nearestWord n d) word := by
  have top := infinityWord_eq
  have chosen := nearestWord_eq n d
  simp only [] at chosen
  generalize inUnits n = units at chosen ⊢
  obtain ⟨scaled, reached⟩ := scaled_roundDiv units positive
  generalize (units / d).log2 - 52 = scale at chosen scaled reached
  have limits := scaled.bounded
  have full := scaled.full
  by_cases finite : scale ≤ 2045
  · have unclipped : nearestWord n d = scale * 2 ^ 52 + roundDiv units (d * 2 ^ scale) := by omega
    rw [unclipped]
    exact scaled.noFarther positive reached (by omega) bounded
  · have clipped : nearestWord n d = infinityWord := by omega
    have last : Scaled infinityWord 2045 (2 ^ 53) := ⟨by omega, by omega, by omega⟩
    have most : unitsOfWord infinityWord * d ≤ units := by
      have first := last.units_mul_le (by omega) (Nat.not_le.1 finite) d
      omega
    rw [clipped]
    rcases Nat.lt_or_eq_of_le bounded with less | equal
    · have lower := Nat.mul_lt_mul_of_pos_right (unitsOfWord_lt less (by omega)) positive
      constructor
      · unfold gap
        omega
      · unfold gap
        omega
    · rw [equal]
      exact ⟨Nat.le_refl _, fun _ => .inl rfl⟩

/-- A word is chosen up to the middle between it and the next one, and in the middle if it is
even. -/
theorem nearestWord_le_iff (n : Nat) {d : Nat} (positive : 0 < d) {word : Nat}
    (bounded : word < infinityWord) :
    nearestWord n d ≤ word ↔ 2 * inUnits n < (unitsOfWord word + unitsOfWord (word + 1)) * d ∨
      2 * inUnits n = (unitsOfWord word + unitsOfWord (word + 1)) * d ∧ word % 2 = 0 := by
  have top := infinityWord_eq
  have known := nearestWord_le_infinityWord n d
  have here := nearestWord_noFarther n positive (Nat.le_of_lt bounded)
  have next := nearestWord_noFarther n positive (show word + 1 ≤ infinityWord from bounded)
  generalize inUnits n = units at here next ⊢
  generalize nearestWord n d = chosen at known here next ⊢
  have order : unitsOfWord word * d < unitsOfWord (word + 1) * d :=
    Nat.mul_lt_mul_of_pos_right (unitsOfWord_lt_succ (by omega)) positive
  rw [Nat.add_mul]
  obtain ⟨near, tie⟩ := here
  obtain ⟨nearNext, tieNext⟩ := next
  unfold gap at near tie nearNext tieNext
  rcases Nat.lt_trichotomy chosen word with less | rfl | more
  · have lower : unitsOfWord chosen * d < unitsOfWord word * d :=
      Nat.mul_lt_mul_of_pos_right (unitsOfWord_lt less (by omega)) positive
    omega
  · omega
  · rcases Nat.lt_or_eq_of_le (show word + 1 ≤ chosen from more) with later | rfl
    · have upper : unitsOfWord (word + 1) * d < unitsOfWord chosen * d :=
        Nat.mul_lt_mul_of_pos_right (unitsOfWord_lt later (by omega)) positive
      omega
    · omega

end BlockMachine.Number
