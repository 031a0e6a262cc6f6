import BlockMachine.Proofs.Replies

/-!
What a client can do to the limit. Settings lower it and never bring it below
zero, as long as the ceiling itself is not below zero. A negative ceiling is the
limit of requests without settings as it stands, while any settings raise it to
zero: the empty list is then accepted with settings only.
-/

namespace BlockMachine.Service
open Machine

/-- The blocks were run, even if one of them failed. -/
def RunReply.Accepted (reply : RunReply) : Prop :=
  ∀ error, reply.error = some error → ∃ index fault, error = .halted (.failed index fault)

/-- A list is run exactly when there is a limit and the list keeps to it. -/
theorem accepted_run_iff (ceiling : Int) (request : RunRequest) :
    (run ceiling request).Accepted ↔
      ∃ limit, Limit.cap ceiling request.settings = .ok limit ∧ request.blocks.length ≤ limit := by
  cases capped : Limit.cap ceiling request.settings with
  | error fault =>
    rw [run_of_unusable capped]
    refine ⟨fun accepted => ?_, nofun⟩
    obtain ⟨index, failure, same⟩ := accepted _ rfl
    cases same
  | ok limit =>
    by_cases beyond : limit < request.blocks.length
    · rw [run_of_beyond capped beyond]
      constructor
      · intro accepted
        obtain ⟨index, failure, same⟩ := accepted _ rfl
        cases same
      · rintro ⟨other, ⟨⟩, within⟩
        omega
    · obtain ⟨report, ran⟩ := exists_report_of_blocks none request.blocks
      rw [run_of_within capped (Int.not_lt.1 beyond) ran]
      refine ⟨fun _ => ⟨limit, rfl, Int.not_lt.1 beyond⟩, fun _ error shown => ?_⟩
      obtain ⟨halt, halted, rfl⟩ := Option.map_eq_some_iff.1 shown
      obtain ⟨index, fault, rfl⟩ := failed_of_halt ran halted
      exact ⟨index, fault, rfl⟩

theorem cap_absent (ceiling : Int) : Limit.cap ceiling [] = .ok ceiling := rfl

theorem cap_zero (ceiling : Int) :
    Limit.cap ceiling [("max_blocks", .whole 0)] = .ok (max 0 (min 0 ceiling)) := rfl

theorem cap_bounds_of_nonneg {ceiling : Int} (nonneg : 0 ≤ ceiling) {settings : Limit.Settings}
    {limit : Int} (capped : Limit.cap ceiling settings = .ok limit) :
    0 ≤ limit ∧ limit ≤ ceiling := by
  rcases Limit.cap_cases capped with ⟨-, rfl⟩ | ⟨requested, -, -, rfl⟩
  · exact ⟨nonneg, Int.le_refl _⟩
  · omega

/-- Each of the three holds of a server exactly when its ceiling is not negative: no limit is below
zero, no settings give more than their absence, and no list is accepted with settings only. -/
theorem settings_only_lower_iff (ceiling : Int) :
    ((∀ settings limit, Limit.cap ceiling settings = .ok limit → 0 ≤ limit) ↔ 0 ≤ ceiling) ∧
    ((∀ settings limit absent, Limit.cap ceiling settings = .ok limit →
      Limit.cap ceiling [] = .ok absent → limit ≤ absent) ↔ 0 ≤ ceiling) ∧
    ((∀ blocks settings, (run ceiling ⟨blocks, settings⟩).Accepted →
      (run ceiling ⟨blocks, []⟩).Accepted) ↔ 0 ≤ ceiling) := by
  refine ⟨⟨?_, ?_⟩, ⟨?_, ?_⟩, ⟨?_, ?_⟩⟩
  · intro never
    exact never [] ceiling (cap_absent ceiling)
  · intro nonneg settings limit capped
    exact (cap_bounds_of_nonneg nonneg capped).1
  · intro lowers
    have zero := lowers _ _ _ (cap_zero ceiling) (cap_absent ceiling)
    omega
  · intro nonneg settings limit absent capped without
    cases without
    exact (cap_bounds_of_nonneg nonneg capped).2
  · intro accepts
    -- with settings the empty list is within the limit of zero
    have empty : (run ceiling ⟨[], [("max_blocks", .whole 0)]⟩).Accepted := by
      rw [accepted_run_iff]
      exact ⟨_, cap_zero ceiling, Int.le_max_left 0 _⟩
    obtain ⟨limit, capped, within⟩ := (accepted_run_iff ceiling _).1 (accepts _ _ empty)
    cases capped
    exact within
  · intro nonneg blocks settings accepted
    obtain ⟨limit, capped, within⟩ := (accepted_run_iff ceiling _).1 accepted
    rw [accepted_run_iff]
    exact ⟨ceiling, cap_absent ceiling, Int.le_trans within (cap_bounds_of_nonneg nonneg capped).2⟩

/-- Below a ceiling of minus five, asking for three blocks raises the limit to zero, and the empty
list is accepted that was refused before. -/
theorem negative_ceiling_raised :
    Limit.cap (-5) [] = .ok (-5) ∧ Limit.cap (-5) [("max_blocks", .whole 3)] = .ok 0 ∧
      (run (-5) ⟨[], [("max_blocks", .whole 3)]⟩).Accepted ∧ ¬(run (-5) ⟨[], []⟩).Accepted := by
  refine ⟨rfl, rfl, ?_, ?_⟩
  · exact (accepted_run_iff _ _).2 ⟨0, rfl, by decide⟩
  · intro accepted
    obtain ⟨limit, capped, within⟩ := (accepted_run_iff _ _).1 accepted
    cases capped
    exact absurd within (by decide)

end BlockMachine.Service
