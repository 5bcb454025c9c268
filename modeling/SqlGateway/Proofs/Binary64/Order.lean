import SqlGateway.Proofs.Binary64.Rounding

/-!
# Rounding keeps the order

A fraction is rounded to a number on its own side of every other number: a number that is at
most the fraction is at most the rounded one, and a number that is at least the fraction is at
least the rounded one. So a difference that reaches a bound still reaches it after rounding,
and one that stays a number away from the bound does not reach it by rounding. Below zero the
same holds with the other sign.
-/

namespace SqlGateway.Binary64

variable {dividend divisor : Nat}

/-- A number is what a fraction from zero on is rounded to, as far as the order can tell: it is
    on the same side of every finite number as the fraction. -/
structure RoundsTo (exact : ℚ) (number : Binary64) : Prop where
  /-- A bound that the fraction reaches is reached. -/
  reaches : ∀ bound : Binary64, bound.isFinite = true → bound.value ≤ exact →
    number.less bound = false
  /-- A bound that the fraction does not exceed is not exceeded. -/
  stays : ∀ bound : Binary64, bound.isFinite = true → exact ≤ bound.value →
    number.isFinite = true ∧ number.value ≤ bound.value

/-- A finite number is what its value is rounded to. -/
theorem roundsTo_value {number : Binary64} (finite : number.isFinite = true) :
    RoundsTo number.value number where
  reaches bound boundFinite below := by
    rw [← Bool.not_eq_true, less_iff finite boundFinite, not_lt]
    exact below
  stays _ _ above := ⟨finite, above⟩

/-- A number without a sign is its significand times the power of two, and one with a sign is
    not positive. -/
theorem value_cases (negative : Bool) (significand : Nat) (exponent : Int) :
    (signed negative significand : ℚ) * 2 ^ exponent = significand * 2 ^ exponent ∨
      (signed negative significand : ℚ) * 2 ^ exponent ≤ 0 := by
  cases negative with
  | false => exact Or.inl (by simp [signed])
  | true =>
    have magnitude : (0 : ℚ) ≤ significand * 2 ^ exponent := by positivity
    exact Or.inr (by simpa [signed] using magnitude)

/-- If the rounded number has reached a bound, the fraction itself exceeds every number below
    the bound. -/
theorem RoundsTo.lt_of_passed {exact : ℚ} {number bound smaller : Binary64}
    (rounds : RoundsTo exact number) (boundFinite : bound.isFinite = true)
    (smallerFinite : smaller.isFinite = true) (below : smaller.value < bound.value)
    (passed : number.less bound = false) : smaller.value < exact := by
  by_contra exceeds
  obtain ⟨finite, atMost⟩ := rounds.stays smaller smallerFinite (not_lt.mp exceeds)
  have less : number.less bound = true :=
    (less_iff finite boundFinite).mpr (atMost.trans_lt below)
  rw [less] at passed
  cases passed

/-- A finite rounded number is at least every number that the fraction reaches. -/
theorem RoundsTo.value_le {exact : ℚ} {number bound : Binary64} (rounds : RoundsTo exact number)
    (finite : number.isFinite = true) (boundFinite : bound.isFinite = true)
    (below : bound.value ≤ exact) : bound.value ≤ number.value := by
  have reached := rounds.reaches bound boundFinite below
  rwa [← Bool.not_eq_true, less_iff finite boundFinite, not_lt] at reached

/-- A fraction between two numbers is rounded to a number between them. -/
theorem RoundsTo.between {exact : ℚ} {number least most : Binary64}
    (rounds : RoundsTo exact number) (leastFinite : least.isFinite = true)
    (mostFinite : most.isFinite = true) (above : least.value ≤ exact)
    (below : exact ≤ most.value) :
    number.isFinite = true ∧ least.value ≤ number.value ∧ number.value ≤ most.value := by
  obtain ⟨finite, stays⟩ := rounds.stays most mostFinite below
  exact ⟨finite, rounds.value_le finite leastFinite above, stays⟩

/-- A fraction is rounded as the order demands. -/
theorem roundsTo_ofFraction (nonzero : dividend ≠ 0) (positive : 0 < divisor) :
    RoundsTo (dividend / divisor) (ofFraction false dividend divisor) where
  reaches bound boundFinite below := by
    cases bound with
    | infinite | nan => cases boundFinite
    | finite negative significand exponent canonical =>
      rcases ofFraction_cases false nonzero divisor with tooLarge | ⟨finite, valued⟩
      · rw [tooLarge]
        rfl
      · have rounded : (0 : ℚ) ≤
            significandOf dividend divisor * 2 ^ exponentOf dividend divisor := by positivity
        rw [← Bool.not_eq_true, less_iff finite boundFinite, not_lt, valued]
        rcases value_cases negative significand exponent with unsigned | least
        · have below : (significand : ℚ) * 2 ^ exponent ≤ dividend / divisor :=
            unsigned ▸ below
          exact unsigned.trans_le (le_rounded canonical nonzero positive below)
        · exact least.trans rounded
  stays bound boundFinite above := by
    cases bound with
    | infinite | nan => cases boundFinite
    | finite negative significand exponent canonical =>
      have exact : (0 : ℚ) < dividend / divisor := by
        have dividendPositive := Nat.pos_of_ne_zero nonzero
        positivity
      rcases value_cases negative significand exponent with unsigned | least
      · have above : (dividend : ℚ) / divisor ≤ significand * 2 ^ exponent := unsigned ▸ above
        obtain ⟨least, bounded⟩ := rounded_le canonical nonzero positive above
        have finite :=
          (isFinite_ofFraction_iff false _ positive).mpr (above.trans_lt canonical.lt_limit)
        refine ⟨finite, ?_⟩
        rcases ofFraction_cases false nonzero divisor with tooLarge | ⟨_, valued⟩
        · rw [tooLarge] at finite
          cases finite
        · calc (ofFraction false dividend divisor).value
              = significandOf dividend divisor * 2 ^ exponentOf dividend divisor := by
                rw [valued]
                simp [signed]
            _ ≤ ((significand * 2 ^ (exponent - exponentOf dividend divisor).toNat : Nat) : ℚ) *
                  2 ^ exponentOf dividend divisor := by gcongr
            _ = significand * 2 ^ exponent := (scaled_up significand least).symm
            _ = signed negative significand * 2 ^ exponent := unsigned.symm
      · exact absurd (exact.trans_le (above.trans least)) (lt_irrefl _)

/-- A significand with its exponent is rounded as the order demands. -/
theorem roundsTo_ofDyadic {significand : Nat} (nonzero : significand ≠ 0) (exponent : Int) :
    RoundsTo (significand * 2 ^ exponent) (ofDyadic false significand exponent) := by
  obtain ⟨positive, ratio⟩ := powerOfTwo_ratio exponent
  have some : (powerOfTwo exponent).1 ≠ 0 := by
    intro vanishes
    have castPositive : (0 : ℚ) < (powerOfTwo exponent).2 := by exact_mod_cast positive
    have product : (0 : ℚ) < (powerOfTwo exponent).2 * 2 ^ exponent := by positivity
    rw [← ratio, vanishes, Nat.cast_zero] at product
    exact lt_irrefl _ product
  rw [dyadic_ratio]
  exact roundsTo_ofFraction (Nat.mul_ne_zero nonzero some) positive

/-- A number is what any fraction is rounded to, as far as the order can tell. Below zero both are
    looked at with the other sign. -/
structure Rounds (exact : ℚ) (number : Binary64) : Prop where
  /-- From zero on the order is kept. -/
  upwards : 0 ≤ exact → RoundsTo exact number
  /-- Below zero it is turned round. -/
  downwards : exact < 0 → RoundsTo (-exact) number.neg

/-- Zero of either sign is what zero is rounded to. -/
theorem rounds_zero (negative : Bool) : Rounds 0 (zero negative) where
  upwards _ := by
    have exact : (zero negative).value = 0 := by simp [zero, value, signed]
    rw [← exact]
    exact roundsTo_value rfl
  downwards impossible := absurd impossible (lt_irrefl 0)

/-- A whole number with an exponent is rounded as the order demands. -/
theorem rounds_ofDyadic {number : Int} (nonzero : number ≠ 0) (exponent : Int) :
    Rounds (number * 2 ^ exponent) (ofDyadic (number < 0) number.natAbs exponent) := by
  have rounds := roundsTo_ofDyadic (Int.natAbs_ne_zero.mpr nonzero) exponent
  have unit : (0 : ℚ) < 2 ^ exponent := zpow_pos two_pos exponent
  rw [Nat.cast_natAbs] at rounds
  rcases nonzero.lt_or_gt with negative | positive
  · rw [abs_of_neg negative, Int.cast_neg, neg_mul] at rounds
    have below : (number : ℚ) * 2 ^ exponent < 0 :=
      mul_neg_of_neg_of_pos (Int.cast_lt_zero.mpr negative) unit
    rw [decide_eq_true negative]
    refine ⟨fun nonneg => absurd nonneg (not_le.mpr below), fun _ => ?_⟩
    rw [ofDyadic, neg_ofFraction]
    exact rounds
  · rw [abs_of_pos positive] at rounds
    have above : (0 : ℚ) < number * 2 ^ exponent := mul_pos (Int.cast_pos.mpr positive) unit
    rw [decide_eq_false (not_lt.mpr positive.le)]
    exact ⟨fun _ => rounds, fun negative => absurd negative (not_lt.mpr above.le)⟩

/-- Every whole number is rounded as the order demands. -/
theorem rounds_ofInt (number : Int) : Rounds number (ofInt number) := by
  by_cases none : number = 0
  · rw [none, Int.cast_zero]
    exact rounds_zero false
  · have rounds := rounds_ofDyadic none 0
    rw [zpow_zero, mul_one] at rounds
    have same : ofInt number = ofDyadic (number < 0) number.natAbs 0 := by
      simp [ofInt, ofDyadic, powerOfTwo]
    rwa [same]

/-- Every sum is rounded as the order demands. -/
theorem rounds_add {first second : Binary64} (firstFinite : first.isFinite = true)
    (secondFinite : second.isFinite = true) :
    Rounds (first.value + second.value) (first + second) := by
  rcases add_cases firstFinite secondFinite with
    ⟨none, negative, isZero⟩ | ⟨sum, exponent, some, valued, made⟩
  · rw [none, isZero]
    exact rounds_zero negative
  · rw [valued, made]
    exact rounds_ofDyadic some exponent

/-- A difference that is not negative is rounded as the order demands. -/
theorem roundsTo_sub {first second : Binary64} (firstFinite : first.isFinite = true)
    (secondFinite : second.isFinite = true) (ordered : second.value ≤ first.value) :
    RoundsTo (first.value - second.value) (first - second) := by
  have difference : first.value - second.value = first.value + (neg second).value := by
    rw [value_neg, sub_eq_add_neg]
  rw [difference]
  apply (rounds_add firstFinite ((isFinite_neg second).trans secondFinite)).upwards
  rw [← difference]
  exact sub_nonneg.mpr ordered

end SqlGateway.Binary64
