/-!
Membership in a character class given as an ascending list of inclusive ranges
of code points. The search stops at the first range that starts above the
point, so the common low code points are decided at once.
-/

namespace BlockMachine.Text.Ranges

def covers : List (Nat × Nat) → Nat → Bool
  | [], _ => false
  | (low, high) :: rest, point =>
    if point < low then false
    else if point ≤ high then true
    else covers rest point

/-- The ranges are non-empty, disjoint and in ascending order from `least` on. -/
def ascending : Nat → List (Nat × Nat) → Bool
  | _, [] => true
  | least, (low, high) :: rest => least ≤ low && low ≤ high && ascending (high + 1) rest

theorem covers_of_lt {ranges : List (Nat × Nat)} {least point : Nat}
    (sorted : ascending least ranges = true) (below : point < least) :
    covers ranges point = false := by
  cases ranges with
  | nil => rfl
  | cons range rest =>
    simp only [ascending, Bool.and_eq_true, decide_eq_true_eq] at sorted
    simp only [covers, if_pos (Nat.lt_of_lt_of_le below sorted.1.1)]

/-- In an ascending table, early stopping loses nothing. -/
theorem covers_iff {ranges : List (Nat × Nat)} {least : Nat} (point : Nat)
    (sorted : ascending least ranges = true) :
    covers ranges point = true ↔ ∃ range ∈ ranges, range.1 ≤ point ∧ point ≤ range.2 := by
  induction ranges generalizing least with
  | nil => simp [covers]
  | cons range rest ih =>
    obtain ⟨low, high⟩ := range
    simp only [ascending, Bool.and_eq_true, decide_eq_true_eq] at sorted
    have tail := ih sorted.2
    simp only [covers, List.mem_cons, exists_eq_or_imp]
    split
    · next early =>
      have none : covers rest point = false := covers_of_lt sorted.2 (by omega)
      rw [none] at tail
      simp only [Bool.false_eq_true, false_iff] at tail ⊢
      intro found
      rcases found with found | found
      · omega
      · exact tail found
    · split
      · next late inside => simp only [true_iff]; exact Or.inl ⟨by omega, inside⟩
      · next late outside =>
        rw [tail]
        constructor
        · exact Or.inr
        · rintro (found | found)
          · omega
          · exact found

end BlockMachine.Text.Ranges
