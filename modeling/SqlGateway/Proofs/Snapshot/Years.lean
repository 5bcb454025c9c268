import Mathlib.Data.Nat.Cast.Order.Field
import Mathlib.Data.Rat.Floor
import SqlGateway.Proofs.Binary64.Order
import SqlGateway.Timestamp

/-!
# The years of the calendar

The calendar counts the years from 1 to 9999. A moment has a text exactly if it falls into them:
its number of seconds is finite, at least that of the first second of the year 1 and less than
that of the first second of the year 10000. Numbers of that size are so far apart that none of
them is rounded across a second.
-/

namespace SqlGateway

namespace Calendar

/-- Years are counted from March, so the last 60 days of such a year are those of the next one. -/
theorem carry_eq {dayOfYear : Nat} (within : dayOfYear ≤ 365) :
    (if (if (5 * dayOfYear + 2) / 153 < 10 then (5 * dayOfYear + 2) / 153 + 3
      else (5 * dayOfYear + 2) / 153 - 9) ≤ 2 then 1 else 0 : Int) =
        if dayOfYear < 306 then 0 else 1 := by
  split <;> split at * <;> split <;> omega

/-- The year of a day within its era: only the first 306 days of an era are in its year zero, and
    only its last 60 days are in the first year of the next one. -/
theorem civil_in_era (days : Int) :
    ∃ inEra : Int, (civil days).1 = inEra + (days + epochShift) / 146097 * 400 ∧
      0 ≤ inEra ∧ inEra ≤ 400 ∧
      (inEra = 0 ↔ ((days + epochShift) % 146097).toNat < 306) ∧
      (inEra = 400 ↔ 146037 ≤ ((days + epochShift) % 146097).toNat) := by
  have within : ((days + epochShift) % 146097).toNat < 146097 := by omega
  unfold civil
  dsimp only
  generalize ((days + epochShift) % 146097).toNat = dayOfEra at within ⊢
  generalize chosen :
    (dayOfEra - dayOfEra / 1460 + dayOfEra / 36524 - dayOfEra / 146096) / 365 = yearOfEra
  have bounded : yearOfEra ≤ 399 := by omega
  have first : yearOfEra = 0 ↔ dayOfEra < 365 := by omega
  have last : yearOfEra = 399 ↔ 145731 ≤ dayOfEra := by omega
  generalize inYear :
    dayOfEra - (365 * yearOfEra + yearOfEra / 4 - yearOfEra / 100) = dayOfYear
  have fits : dayOfYear ≤ 365 := by omega
  rw [carry_eq fits]
  refine ⟨yearOfEra + if dayOfYear < 306 then 0 else 1, by ring, ?_, ?_, ?_, ?_⟩
  · split <;> omega
  · split <;> omega
  · split <;> omega
  · split <;> omega

/-- Exactly the days from the first of January 1 to the last of December 9999 have a year that the
    calendar counts. -/
theorem civil_counted_iff (days : Int) :
    1 ≤ (civil days).1 ∧ (civil days).1 ≤ 9999 ↔ -719162 ≤ days ∧ days ≤ 2932896 := by
  obtain ⟨inEra, year, _, _, first, last⟩ := civil_in_era days
  unfold epochShift at year first last
  rw [year]
  omega

end Calendar

namespace Timestamp

/-- The first second of the year 1. -/
def firstCounted : Int := -62135596800

/-- The first second of the year 10000. -/
def firstUncounted : Int := 253402300800

/-- Exactly the seconds of the years that the calendar counts make a moment. -/
theorem exists_ofParts_iff (seconds : Int) (microsecond : Nat) :
    (∃ moment, ofParts seconds microsecond = .ok moment) ↔
      firstCounted ≤ seconds ∧ seconds < firstUncounted := by
  have counted := Calendar.civil_counted_iff (seconds / 86400)
  unfold ofParts firstCounted firstUncounted firstSecond lastSecond
  split
  · exact iff_of_false nofun (by omega)
  · split
    · exact iff_of_false nofun (by omega)
    · dsimp only
      split
      · exact iff_of_false nofun (by omega)
      · exact iff_of_true ⟨_, rfl⟩ (by omega)

end Timestamp

namespace Binary64

/-- Zero of either sign is nearest to zero. -/
theorem nearest_zero (negative : Bool) : (zero negative).nearest = 0 := by
  cases negative <;> rfl

/-- A number with the other sign has the nearest whole number with the other sign. -/
theorem nearest_neg (number : Binary64) : number.neg.nearest = -number.nearest := by
  cases number with
  | finite negative => cases negative <;> simp [neg, nearest, signed]
  | infinite | nan => rfl

/-- A number between two positive whole numbers is nearest to a whole number between them. -/
theorem nearest_bounds {number : Binary64} {least most : Nat} (positive : 0 < least)
    (above : least ≤ number.value) (below : number.value ≤ most) :
    least ≤ number.nearest ∧ number.nearest ≤ most := by
  have valued : (0 : ℚ) < number.value := lt_of_lt_of_le (by exact_mod_cast positive) above
  cases number with
  | infinite | nan => exact absurd valued (lt_irrefl _)
  | finite negative significand exponent canonical =>
    cases negative with
    | true =>
      have magnitude : (0 : ℚ) ≤ significand * 2 ^ exponent := by positivity
      simp only [value, signed, if_true, Int.cast_neg, Int.cast_natCast, neg_mul] at valued
      linarith
    | false =>
      have divisorPositive := (powerOfTwo_ratio exponent).1
      have castPositive : (0 : ℚ) < (powerOfTwo exponent).2 := by exact_mod_cast divisorPositive
      have exact : (finite false significand exponent canonical).value =
          ((significand * (powerOfTwo exponent).1 : Nat) : ℚ) / (powerOfTwo exponent).2 :=
        dyadic_ratio significand exponent
      rw [exact, le_div_iff₀ castPositive] at above
      rw [exact, div_le_iff₀ castPositive] at below
      have reaches : least * (powerOfTwo exponent).2 ≤ significand * (powerOfTwo exponent).1 := by
        exact_mod_cast above
      have stays : significand * (powerOfTwo exponent).1 ≤ most * (powerOfTwo exponent).2 := by
        exact_mod_cast below
      exact ⟨Int.ofNat_le.mpr (le_roundDiv divisorPositive reaches),
        Int.ofNat_le.mpr (roundDiv_le divisorPositive stays)⟩

/-- A proper fraction of a second is not rounded to a full one, or to none, if its divisor is no
    more than a million. -/
theorem nearest_millionths {part divisor : Nat} (some : 0 < part) (proper : part < divisor)
    (fine : divisor ≤ 1000000) :
    1 ≤ (ofFraction false (part * 1000000) divisor).nearest ∧
      (ofFraction false (part * 1000000) divisor).nearest ≤ 999999 := by
  have positive : 0 < divisor := some.trans proper
  have castPositive : (0 : ℚ) < divisor := by exact_mod_cast positive
  obtain ⟨oneFinite, one⟩ := ofInt_exact (show (1 : Int).natAbs < 2 ^ 53 by decide)
  obtain ⟨mostFinite, most⟩ := ofInt_exact (show (999999 : Int).natAbs < 2 ^ 53 by decide)
  have above : (ofInt 1).value ≤ ((part * 1000000 : Nat) : ℚ) / divisor := by
    rw [one, le_div_iff₀ castPositive]
    have whole : 1 * divisor ≤ part * 1000000 := by omega
    exact_mod_cast whole
  have below : ((part * 1000000 : Nat) : ℚ) / divisor ≤ (ofInt 999999).value := by
    rw [most, div_le_iff₀ castPositive]
    have whole : part * 1000000 ≤ 999999 * divisor := by omega
    exact_mod_cast whole
  have nonzero : part * 1000000 ≠ 0 := by omega
  obtain ⟨_, reaches, stays⟩ :=
    (roundsTo_ofFraction nonzero positive).between oneFinite mostFinite above below
  rw [one] at reaches
  rw [most] at stays
  exact nearest_bounds Nat.one_pos (by exact_mod_cast reaches) (by exact_mod_cast stays)

end Binary64

namespace Timestamp

/-- The seconds of a moment are those of the second in which it lies, if the number has no more
    than a million steps in a second. -/
theorem split_eq_floor (negative : Bool) {significand : Nat} {exponent : Int}
    (canonical : Binary64.Canonical significand exponent)
    (fine : (Binary64.powerOfTwo exponent).2 ≤ 1000000) :
    (split (.finite negative significand exponent canonical)).1 =
      ⌊(Binary64.finite negative significand exponent canonical).value⌋ := by
  obtain ⟨positive, _⟩ := Binary64.powerOfTwo_ratio exponent
  have valued : (Binary64.finite negative significand exponent canonical).value =
      (Binary64.signed negative (significand * (Binary64.powerOfTwo exponent).1) : ℚ) /
        (Binary64.powerOfTwo exponent).2 := by
    rw [Binary64.value]
    cases negative with
    | false => exact Binary64.dyadic_ratio significand exponent
    | true =>
      simp only [Binary64.signed, if_true, Int.cast_neg, Int.cast_natCast, neg_mul, neg_div,
        Binary64.dyadic_ratio]
  rw [valued, Rat.floor_intCast_div_natCast]
  unfold split
  dsimp only
  generalize significand * (Binary64.powerOfTwo exponent).1 = scaled
  generalize (Binary64.powerOfTwo exponent).2 = divisor at positive fine ⊢
  have proper := Nat.mod_lt scaled positive
  rcases Nat.eq_zero_or_pos (scaled % divisor) with none | some
  · have still :
        (Binary64.ofFraction negative (scaled % divisor * 1000000) divisor).nearest = 0 := by
      rw [none, Nat.zero_mul]
      exact Binary64.nearest_zero negative
    have whole : scaled = scaled / divisor * divisor :=
      (Nat.div_mul_cancel (Nat.dvd_of_mod_eq_zero none)).symm
    rw [still, if_neg (by decide), if_pos (by decide)]
    conv_rhs => rw [whole, Binary64.signed_mul]
    exact (Int.mul_ediv_cancel _ (by omega)).symm
  · obtain ⟨least, most⟩ := Binary64.nearest_millionths some proper fine
    cases negative with
    | false =>
      rw [if_neg (by omega), if_pos (by omega)]
      rfl
    | true =>
      rw [← Bool.not_false, ← Binary64.neg_ofFraction, Binary64.nearest_neg, if_pos (by omega)]
      have uneven : ¬(divisor : Int) ∣ scaled := by
        rw [Int.natCast_dvd_natCast, Nat.dvd_iff_mod_eq_zero]
        exact some.ne'
      show -((scaled / divisor : Nat) : Int) - 1 = -(scaled : Int) / divisor
      rw [Int.neg_ediv, if_neg uneven, Int.sign_natCast_of_ne_zero positive.ne', Int.natCast_ediv]

/-- The seconds of any moment are at most one off from its number. -/
theorem abs_split_le (moment : Binary64) : |((split moment).1 : ℚ)| ≤ |moment.value| + 1 := by
  cases moment with
  | infinite | nan => simp [split, Binary64.value]
  | finite negative significand exponent canonical =>
    have whole : ((significand * (Binary64.powerOfTwo exponent).1 /
        (Binary64.powerOfTwo exponent).2 : Nat) : ℚ) ≤ significand * 2 ^ exponent := by
      rw [Binary64.dyadic_ratio]
      exact Nat.cast_div_le
    have near : (split (.finite negative significand exponent canonical)).1.natAbs ≤
        significand * (Binary64.powerOfTwo exponent).1 / (Binary64.powerOfTwo exponent).2 + 1 := by
      unfold split
      dsimp only
      generalize significand * (Binary64.powerOfTwo exponent).1 /
        (Binary64.powerOfTwo exponent).2 = whole
      have size : (Binary64.signed negative whole).natAbs = whole := by
        cases negative <;> simp [Binary64.signed]
      split
      · dsimp only
        omega
      · split
        · dsimp only
          omega
        · dsimp only
          omega
    rw [Binary64.value, Binary64.abs_signed, ← Int.cast_abs, Int.abs_eq_natAbs, Int.cast_natCast]
    have near : ((split (.finite negative significand exponent canonical)).1.natAbs : ℚ) ≤ _ :=
      Nat.cast_le.mpr near
    rw [Nat.cast_add, Nat.cast_one] at near
    linarith

end Timestamp

/-- Whether a moment has a text. -/
def Binary64.Dated (moment : Binary64) : Prop :=
  ∃ text, Timestamp.text moment = .ok text

/-- A moment falls into the years that the calendar counts. -/
structure Binary64.InCalendar (moment : Binary64) : Prop where
  /-- It is neither infinite nor nan. -/
  finite : moment.isFinite = true
  /-- The year 1 has begun. -/
  begun : (Timestamp.firstCounted : ℚ) ≤ moment.value
  /-- The year 10000 has not. -/
  unfinished : moment.value < Timestamp.firstUncounted

/-- A large number has few steps in a second. -/
theorem Binary64.powerOfTwo_fine {significand : Nat} {exponent : Int}
    (canonical : Canonical significand exponent)
    (large : (2 : ℚ) ^ 34 ≤ significand * 2 ^ exponent) :
    (powerOfTwo exponent).2 ≤ 1000000 := by
  have least : -19 ≤ exponent := by
    by_contra small
    have tiny : (2 : ℚ) ^ exponent ≤ 2 ^ (-20 : Int) := zpow_le_zpow_right₀ one_le_two (by omega)
    have bits : (significand : ℚ) < 2 ^ 53 := by exact_mod_cast canonical.1
    have less : (significand : ℚ) * 2 ^ exponent < 2 ^ 34 := by
      calc (significand : ℚ) * 2 ^ exponent ≤ significand * 2 ^ (-20 : Int) := by gcongr
        _ < 2 ^ 53 * 2 ^ (-20 : Int) := by gcongr
        _ ≤ 2 ^ 34 := by norm_num
    exact absurd (less.trans_le large) (lt_irrefl _)
  unfold powerOfTwo
  split
  · exact show 1 ≤ 1000000 by decide
  · have few : (-exponent).toNat ≤ 19 := by omega
    calc 1 <<< (-exponent).toNat = 2 ^ (-exponent).toNat := Nat.one_shiftLeft _
      _ ≤ 2 ^ 19 := Nat.pow_le_pow_right (by decide) few
      _ ≤ 1000000 := by decide

/-- The seconds of a moment are counted exactly if the moment falls into the calendar. A number
    that is too small for its second to be known falls far inside. -/
theorem Timestamp.split_counted_iff {moment : Binary64} (finite : moment.isFinite = true) :
    firstCounted ≤ (split moment).1 ∧ (split moment).1 < firstUncounted ↔
      (firstCounted : ℚ) ≤ moment.value ∧ moment.value < firstUncounted := by
  rcases le_or_gt ((2 : ℚ) ^ 34) |moment.value| with large | small
  · cases moment with
    | infinite | nan => cases finite
    | finite negative significand exponent canonical =>
      rw [Binary64.value, Binary64.abs_signed] at large
      rw [split_eq_floor negative canonical (Binary64.powerOfTwo_fine canonical large),
        Int.le_floor, Int.floor_lt]
  · have near := (abs_split_le moment).trans (add_le_add_left small.le 1)
    have whole : |(split moment).1| ≤ 2 ^ 34 + 1 := by exact_mod_cast near
    obtain ⟨least, most⟩ := abs_le.mp whole
    obtain ⟨below, above⟩ := abs_lt.mp small
    unfold firstCounted firstUncounted
    refine iff_of_true ⟨by omega, by omega⟩ ⟨?_, ?_⟩
    · norm_num at below ⊢
      linarith
    · norm_num at above ⊢
      linarith

/-- A moment has a text exactly if it falls into the calendar. -/
theorem Binary64.dated_iff (moment : Binary64) : moment.Dated ↔ moment.InCalendar := by
  have told : moment.Dated ↔ ∃ date, Timestamp.ofSeconds moment = .ok date := by
    unfold Dated Timestamp.text
    cases Timestamp.ofSeconds moment with
    | ok date => exact iff_of_true ⟨_, rfl⟩ ⟨date, rfl⟩
    | error failure => exact iff_of_false nofun nofun
  rw [told]
  cases moment with
  | infinite | nan => exact iff_of_false nofun fun within => nomatch within.finite
  | finite negative significand exponent canonical =>
    refine (Timestamp.exists_ofParts_iff _ _).trans ((Timestamp.split_counted_iff rfl).trans ?_)
    exact ⟨fun ⟨begun, unfinished⟩ => ⟨rfl, begun, unfinished⟩,
      fun within => ⟨within.begun, within.unfinished⟩⟩

/-- A moment that has a text is a finite number of moderate size. -/
theorem Binary64.Dated.bounds {moment : Binary64} (dated : moment.Dated) :
    moment.isFinite = true ∧ |moment.value| ≤ 2 ^ 40 := by
  obtain ⟨finite, begun, unfinished⟩ := (dated_iff moment).mp dated
  norm_num [Timestamp.firstCounted] at begun
  norm_num [Timestamp.firstUncounted] at unfinished
  refine ⟨finite, abs_le.mpr ⟨?_, ?_⟩⟩
  · linarith
  · linarith

end SqlGateway
