import SqlGateway.Proofs.Fault.Outcomes
import SqlGateway.Proofs.Snapshot.Moments
import SqlGateway.Snapshot

/-!
# When a snapshot expires

A snapshot that is taken now and is good for a whole number of seconds expires at the number that
these seconds make with what the clock reads. The number has to be one that is kept, and where a
file is written it has to fall into the calendar. Inside the calendar it does so whatever the
clock counts in, and beyond the year 9999 it never does.
-/

namespace SqlGateway

/-- Now is a moment of the calendar, at a place on the line. -/
structure Seconds.FallsOn (now : Seconds) (place : ℚ) : Prop where
  /-- It lies there. -/
  lies : now.position = some (.of place)
  /-- The year 1 has begun. -/
  begun : (Timestamp.firstCounted : ℚ) ≤ place
  /-- The year 10000 has not. -/
  unfinished : place < Timestamp.firstUncounted

/-- What is taken now and is good for some seconds expires at a number that is kept. -/
def Seconds.Expires (now lifetime : Seconds) (expiresAt : Binary64) : Prop :=
  ∃ expiry, now.add lifetime = .ok expiry ∧ Snapshot.checkedMoment expiry = .valid expiresAt

namespace Binary64

/-- A number from the first second of the year 1 to the last one of the year 9999 is rounded to a
    moment of the calendar. -/
theorem Rounds.inCalendar {exact : ℚ} {number : Binary64} (rounds : Rounds exact number)
    (least : Timestamp.firstCounted ≤ exact) (most : exact + 1 ≤ Timestamp.firstUncounted) :
    number.InCalendar := by
  obtain ⟨zeroFinite, zero⟩ := ofInt_exact (show (0 : Int).natAbs < 2 ^ 53 by decide)
  have epoch : (Timestamp.firstCounted : ℚ) < 0 ∧ (0 : ℚ) < Timestamp.firstUncounted := by
    norm_num [Timestamp.firstCounted, Timestamp.firstUncounted]
  rcases le_or_gt 0 exact with nonneg | negative
  · obtain ⟨lastFinite, last⟩ :=
      ofInt_exact (show (Timestamp.firstUncounted - 1).natAbs < 2 ^ 53 by decide)
    push_cast at zero last
    obtain ⟨finite, above, below⟩ := (rounds.upwards nonneg).between zeroFinite lastFinite
      (by linarith) (by linarith)
    exact ⟨finite, by linarith, by linarith⟩
  · obtain ⟨firstFinite, first⟩ :=
      ofInt_exact (show (-Timestamp.firstCounted).natAbs < 2 ^ 53 by decide)
    push_cast at zero first
    obtain ⟨finite, above, below⟩ := (rounds.downwards negative).between zeroFinite firstFinite
      (by linarith) (by linarith)
    rw [isFinite_neg] at finite
    rw [value_neg] at above below
    exact ⟨finite, by linarith, by linarith⟩

/-- A number that is a second before them, or behind them, is not. -/
theorem Rounds.not_inCalendar {exact : ℚ} {number : Binary64} (rounds : Rounds exact number)
    (outside : exact + 1 ≤ Timestamp.firstCounted ∨ Timestamp.firstUncounted ≤ exact) :
    ¬number.InCalendar := by
  have epoch : (Timestamp.firstCounted : ℚ) < 0 ∧ (0 : ℚ) < Timestamp.firstUncounted := by
    norm_num [Timestamp.firstCounted, Timestamp.firstUncounted]
  rintro ⟨finite, begun, unfinished⟩
  rcases outside with before | behind
  · obtain ⟨boundFinite, bound⟩ :=
      ofInt_exact (show (1 - Timestamp.firstCounted).natAbs < 2 ^ 53 by decide)
    push_cast at bound
    have reached := (rounds.downwards (by linarith)).value_le
      ((isFinite_neg number).trans finite) boundFinite (by linarith)
    rw [value_neg] at reached
    linarith
  · obtain ⟨boundFinite, bound⟩ :=
      ofInt_exact (show Timestamp.firstUncounted.natAbs < 2 ^ 53 by decide)
    have reached := (rounds.upwards (by linarith)).value_le finite boundFinite (by linarith)
    linarith

end Binary64

namespace Seconds

variable {now : Seconds} {place : ℚ} {lifetime : Int}

/-- Whole seconds are added to whole seconds as they are. -/
theorem expires_whole_iff {count : Int} {expiresAt : Binary64} :
    (whole count).Expires (.whole lifetime) expiresAt ↔
      (Binary64.ofInt (count + lifetime)).isFinite = true ∧
        expiresAt = .ofInt (count + lifetime) := by
  rw [← nearest_whole_iff, ← Snapshot.checkedMoment_eq_valid_iff]
  exact ⟨fun ⟨_, added, kept⟩ => Except.ok.inj added ▸ kept, fun kept => ⟨_, rfl, kept⟩⟩

/-- Beside a floating-point number they give way to the nearest one. -/
theorem expires_real_iff {count expiresAt : Binary64} :
    (real count).Expires (.whole lifetime) expiresAt ↔
      (Binary64.ofInt lifetime).isFinite = true ∧ expiresAt = count + .ofInt lifetime := by
  constructor
  · rintro ⟨expiry, added, kept⟩
    obtain ⟨_, ⟨⟩, added⟩ := exists_of_bind_ok added
    obtain ⟨rounded, near, ⟨⟩⟩ := exists_of_bind_ok added
    obtain ⟨finite, rfl⟩ := nearest_whole_iff.mp near
    exact ⟨finite, (Checked.valid.inj kept).symm⟩
  · rintro ⟨finite, rfl⟩
    have near := nearest_whole_iff.mpr ⟨finite, rfl⟩
    refine ⟨real (count + .ofInt lifetime), ?_, rfl⟩
    show (do return real (count + (← (whole lifetime).nearest))) = _
    rw [near]
    rfl

/-- A moment of the calendar has a number that it is. -/
theorem FallsOn.exists_nearest (falls : now.FallsOn place) :
    ∃ number, now.nearest = .ok number ∧ number.isFinite = true ∧ number.value = place := by
  obtain ⟨lies, begun, unfinished⟩ := falls
  norm_num [Timestamp.firstCounted] at begun
  norm_num [Timestamp.firstUncounted] at unfinished
  exact nearest_of_position lies (abs_le.mpr ⟨by linarith, by linarith⟩)

/-- A whole number of seconds lies where it says. -/
theorem FallsOn.whole_eq {count : Int} (falls : (whole count).FallsOn place) :
    (count : ℚ) = place :=
  WithTop.coe_injective (WithBot.coe_injective (Option.some.inj falls.lies))

/-- What is good for a number of seconds of at most 52 bits expires at the number to which their
    sum is rounded. -/
theorem FallsOn.exists_rounds (falls : now.FallsOn place) (moderate : lifetime.natAbs ≤ 2 ^ 52) :
    ∃ expiresAt, now.Expires (.whole lifetime) expiresAt ∧
      Binary64.Rounds (place + lifetime) expiresAt := by
  cases now with
  | whole count =>
    obtain rfl := falls.whole_eq
    have begun : Timestamp.firstCounted ≤ count := by exact_mod_cast falls.begun
    have unfinished : count < Timestamp.firstUncounted := by exact_mod_cast falls.unfinished
    unfold Timestamp.firstCounted at begun
    unfold Timestamp.firstUncounted at unfinished
    obtain ⟨finite, _⟩ :=
      Binary64.ofInt_exact (show (count + lifetime).natAbs < 2 ^ 53 by omega)
    refine ⟨_, expires_whole_iff.mpr ⟨finite, rfl⟩, ?_⟩
    rw [← Int.cast_add]
    exact Binary64.rounds_ofInt _
  | real count =>
    obtain ⟨_, ⟨⟩, finite, rfl⟩ := falls.exists_nearest
    obtain ⟨lifetimeFinite, exact⟩ :=
      Binary64.ofInt_exact (moderate.trans_lt (show 2 ^ 52 < 2 ^ 53 by decide))
    refine ⟨_, expires_real_iff.mpr ⟨lifetimeFinite, rfl⟩, ?_⟩
    rw [← exact]
    exact Binary64.rounds_add finite lifetimeFinite

/-- What expires in the calendar, before its last second, does so at a moment of the calendar. -/
theorem FallsOn.expires_within (falls : now.FallsOn place)
    (least : Timestamp.firstCounted ≤ place + lifetime)
    (most : place + lifetime + 1 ≤ Timestamp.firstUncounted) :
    ∃ expiresAt, now.Expires (.whole lifetime) expiresAt ∧ expiresAt.InCalendar := by
  have moderate : lifetime.natAbs ≤ 2 ^ 52 := by
    have above : Timestamp.firstCounted - Timestamp.firstUncounted ≤ lifetime := by
      have behind : (Timestamp.firstCounted - Timestamp.firstUncounted : ℚ) ≤ lifetime := by
        linarith [falls.unfinished]
      exact_mod_cast behind
    have below : lifetime ≤ Timestamp.firstUncounted - Timestamp.firstCounted := by
      have ahead : (lifetime : ℚ) ≤ Timestamp.firstUncounted - Timestamp.firstCounted := by
        linarith [falls.begun]
      exact_mod_cast ahead
    unfold Timestamp.firstUncounted Timestamp.firstCounted at above below
    omega
  obtain ⟨expiresAt, expires, rounds⟩ := falls.exists_rounds moderate
  exact ⟨expiresAt, expires, rounds.inCalendar least most⟩

/-- What expires a second before the calendar begins, or after it has ended, does not do so at a
    moment of the calendar. -/
theorem FallsOn.expires_outside (falls : now.FallsOn place)
    (outside : place + lifetime + 1 ≤ Timestamp.firstCounted ∨
      Timestamp.firstUncounted ≤ place + lifetime) {expiresAt : Binary64}
    (expires : now.Expires (.whole lifetime) expiresAt) : ¬expiresAt.InCalendar := by
  cases now with
  | whole count =>
    obtain ⟨_, rfl⟩ := expires_whole_iff.mp expires
    rw [← falls.whole_eq, ← Int.cast_add] at outside
    exact (Binary64.rounds_ofInt _).not_inCalendar outside
  | real count =>
    obtain ⟨lifetimeFinite, rfl⟩ := expires_real_iff.mp expires
    obtain ⟨_, ⟨⟩, finite, rfl⟩ := falls.exists_nearest
    refine (Binary64.rounds_add finite lifetimeFinite).not_inCalendar ?_
    rcases Nat.lt_or_ge lifetime.natAbs (2 ^ 53) with small | large
    · rwa [(Binary64.ofInt_exact small).2]
    · -- a lifetime that is rounded is so long that the moment at which it begins does not matter
      have long := Binary64.ofInt_large large lifetimeFinite
      obtain ⟨_, begun, unfinished⟩ := falls
      norm_num [Timestamp.firstCounted, Timestamp.firstUncounted] at begun unfinished long ⊢
      rcases le_abs.mp long with ahead | behind
      · exact Or.inr (by linarith)
      · exact Or.inl (by linarith)

/-- The whole number that is rounded for the moment at which something expires. -/
def rounded (now : Seconds) (lifetime : Int) : Int :=
  match now with
  | whole count => count + lifetime
  | real _ => lifetime

/-- Something expires at a number exactly if what is rounded for it is not too large. -/
theorem exists_expires_iff (now : Seconds) (lifetime : Int) :
    (∃ expiresAt, now.Expires (.whole lifetime) expiresAt) ↔
      |(now.rounded lifetime : ℚ)| < Binary64.limit := by
  cases now with
  | whole count =>
    simp only [expires_whole_iff, Binary64.isFinite_ofInt_iff, rounded, exists_and_left,
      exists_eq, and_true]
  | real count =>
    simp only [expires_real_iff, Binary64.isFinite_ofInt_iff, rounded, exists_and_left,
      exists_eq, and_true]

end Seconds

end SqlGateway
