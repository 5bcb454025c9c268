import Mathlib.Algebra.Order.Floor.Semiring
import Mathlib.Algebra.Order.Field.Power
import Mathlib.Data.Rat.Defs
import Mathlib.Tactic.FieldSimp
import Mathlib.Tactic.Linarith
import Mathlib.Tactic.NormNum
import Mathlib.Tactic.Positivity
import Mathlib.Tactic.Ring
import SqlGateway.Binary64.Basic

/-!
# Rounding

A finite number stands for a rational one. The quotient of two whole numbers is rounded to a
finite number unless it is too large: the exponent is chosen so that the rounded significand
has exactly 53 bits, or the exponent is the smallest one. Whole numbers of at most 53 bits
are not rounded at all, and a larger one is never rounded to a small number. A number that is
at most a fraction, or at least, is so of the rounded fraction too.
-/

namespace SqlGateway.Binary64

/-- The rational number that a finite number stands for. -/
def value : Binary64 → ℚ
  | finite negative significand exponent _ => signed negative significand * 2 ^ exponent
  | infinite _ | nan => 0

/-- A power of two as a fraction. -/
theorem powerOfTwo_ratio (exponent : Int) :
    0 < (powerOfTwo exponent).2 ∧
      ((powerOfTwo exponent).1 : ℚ) = (powerOfTwo exponent).2 * 2 ^ exponent := by
  unfold powerOfTwo
  split
  · next nonneg =>
    refine ⟨Nat.one_pos, ?_⟩
    obtain ⟨power, rfl⟩ := Int.eq_ofNat_of_zero_le nonneg
    simp [Nat.one_shiftLeft]
  · next negative =>
    obtain ⟨power, same⟩ := Int.eq_ofNat_of_zero_le (show 0 ≤ -exponent by omega)
    obtain rfl : exponent = -(power : Int) := by omega
    refine ⟨by simp [Nat.one_shiftLeft], ?_⟩
    simp [Nat.one_shiftLeft]

/-- A significand with its exponent, as a fraction of whole numbers. -/
theorem dyadic_ratio (significand : Nat) (exponent : Int) :
    (significand : ℚ) * 2 ^ exponent =
      ((significand * (powerOfTwo exponent).1 : Nat) : ℚ) / (powerOfTwo exponent).2 := by
  obtain ⟨positive, ratio⟩ := powerOfTwo_ratio exponent
  have nonzero : ((powerOfTwo exponent).2 : ℚ) ≠ 0 := by exact_mod_cast positive.ne'
  rw [Nat.cast_mul, ratio]
  field_simp

/-- A fraction times a power of two, as numerator and denominator. -/
def scaled (dividend divisor : Nat) (exponent : Int) : Nat × Nat :=
  (dividend * (powerOfTwo (-exponent)).1, divisor * (powerOfTwo (-exponent)).2)

/-- The exponent that is tried first. -/
def estimate (dividend divisor : Nat) : Int :=
  (dividend.log2 : Int) - divisor.log2 - 52

/-- The exponent with which a fraction is rounded. -/
def exponentOf (dividend divisor : Nat) : Int :=
  let wide := scaled dividend divisor (estimate dividend divisor)
  max (-1074) (if wide.1 / wide.2 < 0x10000000000000 then estimate dividend divisor - 1
    else estimate dividend divisor)

/-- The significand to which a fraction is rounded. -/
def significandOf (dividend divisor : Nat) : Nat :=
  let exact := scaled dividend divisor (exponentOf dividend divisor)
  roundDiv exact.1 exact.2

/-- A fraction that is not zero is rounded with its exponent. -/
theorem ofFraction_of_ne_zero (negative : Bool) {dividend : Nat} (nonzero : dividend ≠ 0)
    (divisor : Nat) : ofFraction negative dividend divisor =
      if significandOf dividend divisor = 0x20000000000000 then
        ofParts negative 0x10000000000000 (exponentOf dividend divisor + 1)
      else ofParts negative (significandOf dividend divisor) (exponentOf dividend divisor) := by
  rw [ofFraction, if_neg nonzero]
  rfl

variable {dividend divisor : Nat}

/-- The parts of a scaled fraction. -/
theorem scaled_ratio (dividend : Nat) {divisor : Nat} (positive : 0 < divisor) (exponent : Int) :
    0 < (scaled dividend divisor exponent).2 ∧
      ((scaled dividend divisor exponent).1 : ℚ) =
        (scaled dividend divisor exponent).2 * (dividend / divisor * 2 ^ (-exponent)) := by
  obtain ⟨nonzero, ratio⟩ := powerOfTwo_ratio (-exponent)
  refine ⟨Nat.mul_pos positive nonzero, ?_⟩
  have divisorNonzero : (divisor : ℚ) ≠ 0 := by exact_mod_cast positive.ne'
  simp only [scaled, Nat.cast_mul, ratio]
  field_simp

/-- A fraction lies between the powers of two of its logarithms. -/
theorem ratio_bounds (nonzero : dividend ≠ 0) (positive : 0 < divisor) :
    (2 : ℚ) ^ ((dividend.log2 : Int) - divisor.log2 - 1) < dividend / divisor ∧
      (dividend : ℚ) / divisor < 2 ^ ((dividend.log2 : Int) - divisor.log2 + 1) := by
  have divisorPositive : (0 : ℚ) < divisor := by exact_mod_cast positive
  have dividendLeast : (2 : ℚ) ^ (dividend.log2 : Int) ≤ dividend := by
    rw [zpow_natCast]
    exact_mod_cast Nat.log2_self_le nonzero
  have dividendMost : (dividend : ℚ) < 2 ^ ((dividend.log2 : Int) + 1) := by
    have most : dividend < 2 ^ (dividend.log2 + 1) := Nat.lt_log2_self
    exact_mod_cast most
  have divisorLeast : (2 : ℚ) ^ (divisor.log2 : Int) ≤ divisor := by
    rw [zpow_natCast]
    exact_mod_cast Nat.log2_self_le positive.ne'
  have divisorMost : (divisor : ℚ) < 2 ^ ((divisor.log2 : Int) + 1) := by
    have most : divisor < 2 ^ (divisor.log2 + 1) := Nat.lt_log2_self
    exact_mod_cast most
  constructor
  · rw [lt_div_iff₀ divisorPositive]
    calc (2 : ℚ) ^ ((dividend.log2 : Int) - divisor.log2 - 1) * divisor
        < 2 ^ ((dividend.log2 : Int) - divisor.log2 - 1) * 2 ^ ((divisor.log2 : Int) + 1) := by
          gcongr
      _ = 2 ^ (dividend.log2 : Int) := by
          rw [← zpow_add₀ two_ne_zero]
          congr 1
          ring
      _ ≤ dividend := dividendLeast
  · rw [div_lt_iff₀ divisorPositive]
    calc (dividend : ℚ) < 2 ^ ((dividend.log2 : Int) + 1) := dividendMost
      _ = 2 ^ ((dividend.log2 : Int) - divisor.log2 + 1) * 2 ^ (divisor.log2 : Int) := by
          rw [← zpow_add₀ two_ne_zero]
          congr 1
          ring
      _ ≤ 2 ^ ((dividend.log2 : Int) - divisor.log2 + 1) * divisor := by gcongr

/-- The quotient of a scaled fraction is below a bound exactly if the fraction is. -/
theorem scaled_div_lt_iff (dividend : Nat) {divisor : Nat} (positive : 0 < divisor)
    (exponent : Int) (bound : Nat) :
    (scaled dividend divisor exponent).1 / (scaled dividend divisor exponent).2 < bound ↔
      (dividend : ℚ) / divisor * 2 ^ (-exponent) < bound := by
  obtain ⟨nonzero, ratio⟩ := scaled_ratio dividend positive exponent
  have castPositive : (0 : ℚ) < (scaled dividend divisor exponent).2 := by exact_mod_cast nonzero
  rw [Nat.div_lt_iff_lt_mul nonzero, ← Nat.cast_lt (α := ℚ), Nat.cast_mul, ratio,
    mul_comm (bound : ℚ), mul_lt_mul_iff_right₀ castPositive]

/-- With the exponent that is tried first the quotient has 52 or 53 bits. -/
theorem estimate_bounds (nonzero : dividend ≠ 0) (positive : 0 < divisor) :
    (2 : ℚ) ^ 51 < dividend / divisor * 2 ^ (-estimate dividend divisor) ∧
      (dividend : ℚ) / divisor * 2 ^ (-estimate dividend divisor) < 2 ^ 53 := by
  obtain ⟨above, below⟩ := ratio_bounds nonzero positive
  constructor
  · calc (2 : ℚ) ^ 51 = 2 ^ (51 : Int) := by norm_num
      _ = 2 ^ ((dividend.log2 : Int) - divisor.log2 - 1) * 2 ^ (-estimate dividend divisor) := by
          rw [← zpow_add₀ two_ne_zero, estimate]
          congr 1
          ring
      _ < dividend / divisor * 2 ^ (-estimate dividend divisor) := by gcongr
  · calc (dividend : ℚ) / divisor * 2 ^ (-estimate dividend divisor)
        < 2 ^ ((dividend.log2 : Int) - divisor.log2 + 1) * 2 ^ (-estimate dividend divisor) := by
          gcongr
      _ = 2 ^ (53 : Int) := by
          rw [← zpow_add₀ two_ne_zero, estimate]
          congr 1
          ring
      _ = 2 ^ 53 := by norm_num

/-- The exponent that is chosen lets the quotient have all 53 bits, unless this exponent is too
    small. -/
theorem exists_exponent (nonzero : dividend ≠ 0) (positive : 0 < divisor) :
    ∃ free, exponentOf dividend divisor = max (-1074) free ∧
      estimate dividend divisor - 1 ≤ free ∧ free ≤ estimate dividend divisor ∧
      (2 : ℚ) ^ 52 ≤ dividend / divisor * 2 ^ (-free) ∧
      (dividend : ℚ) / divisor * 2 ^ (-free) < 2 ^ 53 := by
  obtain ⟨above, below⟩ := estimate_bounds nonzero positive
  have narrowIff := scaled_div_lt_iff dividend positive (estimate dividend divisor)
    0x10000000000000
  by_cases narrow : (scaled dividend divisor (estimate dividend divisor)).1 /
      (scaled dividend divisor (estimate dividend divisor)).2 < 0x10000000000000
  · have doubled : (2 : ℚ) ^ (-(estimate dividend divisor - 1)) =
        2 * 2 ^ (-estimate dividend divisor) := by
      rw [show -(estimate dividend divisor - 1) = 1 + -estimate dividend divisor by ring,
        zpow_add₀ two_ne_zero, zpow_one]
    have small := narrowIff.mp narrow
    push_cast at small
    refine ⟨estimate dividend divisor - 1, by simp only [exponentOf, narrow, if_true], le_refl _,
      by omega, ?_, ?_⟩
    · rw [doubled]
      linarith
    · rw [doubled]
      linarith
  · have wide := not_lt.mp (mt narrowIff.mpr narrow)
    push_cast at wide
    refine ⟨estimate dividend divisor, by simp only [exponentOf, narrow, if_false], by omega,
      le_refl _, by linarith, below⟩

/-- The exponent is chosen so that the quotient is below its bound, and so that it has all its
    bits unless the exponent is the smallest one. -/
theorem exponentOf_bounds (nonzero : dividend ≠ 0) (positive : 0 < divisor) :
    (dividend : ℚ) / divisor * 2 ^ (-exponentOf dividend divisor) < 2 ^ 53 ∧
      ((2 : ℚ) ^ 52 ≤ dividend / divisor * 2 ^ (-exponentOf dividend divisor) ∨
        exponentOf dividend divisor = -1074) := by
  obtain ⟨free, chosen, _, _, least, most⟩ := exists_exponent nonzero positive
  rw [chosen]
  by_cases small : free ≤ -1074
  · rw [max_eq_left small]
    refine ⟨lt_of_le_of_lt ?_ most, Or.inr rfl⟩
    have shorter : (2 : ℚ) ^ (-(-1074) : Int) ≤ 2 ^ (-free) :=
      zpow_le_zpow_right₀ one_le_two (by omega)
    gcongr
  · rw [max_eq_right (by omega)]
    exact ⟨most, Or.inl least⟩

/-- A quotient is rounded to itself or the next number. -/
theorem roundDiv_bounds (dividend divisor : Nat) :
    dividend / divisor ≤ roundDiv dividend divisor ∧
      roundDiv dividend divisor ≤ dividend / divisor + 1 := by
  unfold roundDiv
  dsimp only
  split
  · omega
  · omega

/-- The rounded significand has 53 bits or is the first number with one bit more; it may have
    fewer with the smallest exponent. -/
theorem significandOf_bounds (nonzero : dividend ≠ 0) (positive : 0 < divisor) :
    significandOf dividend divisor ≤ 0x20000000000000 ∧
      (0x10000000000000 ≤ significandOf dividend divisor ∨
        exponentOf dividend divisor = -1074) := by
  obtain ⟨most, least⟩ := exponentOf_bounds nonzero positive
  obtain ⟨down, up⟩ := roundDiv_bounds
    (scaled dividend divisor (exponentOf dividend divisor)).1
    (scaled dividend divisor (exponentOf dividend divisor)).2
  constructor
  · have below := (scaled_div_lt_iff dividend positive
      (exponentOf dividend divisor) 0x20000000000000).mpr (by push_cast; linarith)
    exact le_trans up below
  · refine least.imp_left fun wide => ?_
    have notNarrow := mt (scaled_div_lt_iff dividend positive
      (exponentOf dividend divisor) 0x10000000000000).mp (by push_cast; linarith)
    exact le_trans (Nat.le_of_not_lt notNarrow) down

/-- Canonical parts make a finite number, which stands for what they say. -/
theorem ofParts_of_canonical (negative : Bool) {significand : Nat} {exponent : Int}
    (canonical : Canonical significand exponent) :
    (ofParts negative significand exponent).isFinite = true ∧
      (ofParts negative significand exponent).value =
        signed negative significand * 2 ^ exponent := by
  rw [ofParts, dif_pos canonical]
  exact ⟨rfl, rfl⟩

/-- Only canonical parts make a finite number. -/
theorem canonical_of_isFinite {negative : Bool} {significand : Nat} {exponent : Int}
    (finite : (ofParts negative significand exponent).isFinite = true) :
    Canonical significand exponent := by
  unfold ofParts at finite
  split at finite
  · assumption
  · cases finite

/-- A quotient that reaches a whole number is not rounded below it. -/
theorem le_roundDiv {number dividend divisor : Nat} (positive : 0 < divisor)
    (below : number * divisor ≤ dividend) : number ≤ roundDiv dividend divisor :=
  ((Nat.le_div_iff_mul_le positive).mpr below).trans (roundDiv_bounds dividend divisor).1

/-- A quotient that does not exceed a whole number is not rounded above it. -/
theorem roundDiv_le {number dividend divisor : Nat} (positive : 0 < divisor)
    (above : dividend ≤ number * divisor) : roundDiv dividend divisor ≤ number := by
  rcases above.lt_or_eq with less | rfl
  · have quotient : dividend / divisor < number := (Nat.div_lt_iff_lt_mul positive).mpr less
    exact (roundDiv_bounds dividend divisor).2.trans quotient
  · simp [roundDiv, positive]

/-- A quotient is rounded below an even number exactly if it is more than a half below it. -/
theorem roundDiv_lt_iff {number dividend divisor : Nat} (even : number % 2 = 0)
    (positive : 0 < divisor) :
    roundDiv dividend divisor < number ↔ 2 * dividend + divisor < 2 * number * divisor := by
  have divides := Nat.div_add_mod dividend divisor
  have proper := Nat.mod_lt dividend positive
  unfold roundDiv
  dsimp only
  generalize dividend / divisor = quotient at divides ⊢
  generalize dividend % divisor = rest at divides proper ⊢
  subst divides
  constructor
  · intro below
    split at below
    · next down =>
      have least := Nat.mul_le_mul_left divisor (show quotient + 1 ≤ number from below)
      rcases down with less | ⟨half, evenToo⟩
      · linarith
      · have most := Nat.mul_le_mul_left divisor (show quotient + 2 ≤ number by omega)
        linarith
    · have most := Nat.mul_le_mul_left divisor (show quotient + 2 ≤ number from below)
      linarith
  · intro below
    split
    · next down =>
      by_contra reached
      have most := Nat.mul_le_mul_left divisor (not_lt.mp reached)
      linarith
    · next up =>
      by_contra reached
      have most := Nat.mul_le_mul_left divisor (not_lt.mp reached)
      have half : divisor ≤ 2 * rest := by omega
      linarith

/-- A scaled fraction that reaches a whole number is not rounded below it. -/
theorem le_significandOf {number : Nat} (positive : 0 < divisor)
    (below : (number : ℚ) ≤ dividend / divisor * 2 ^ (-exponentOf dividend divisor)) :
    number ≤ significandOf dividend divisor := by
  obtain ⟨nonzero, ratio⟩ := scaled_ratio dividend positive (exponentOf dividend divisor)
  apply le_roundDiv nonzero
  rw [← Nat.cast_le (α := ℚ), Nat.cast_mul, ratio, mul_comm]
  gcongr

/-- A scaled fraction that does not exceed a whole number is not rounded above it. -/
theorem significandOf_le {number : Nat} (positive : 0 < divisor)
    (above : (dividend : ℚ) / divisor * 2 ^ (-exponentOf dividend divisor) ≤ number) :
    significandOf dividend divisor ≤ number := by
  obtain ⟨nonzero, ratio⟩ := scaled_ratio dividend positive (exponentOf dividend divisor)
  apply roundDiv_le nonzero
  rw [← Nat.cast_le (α := ℚ), Nat.cast_mul, ratio, mul_comm (number : ℚ)]
  gcongr

/-- A scaled fraction is rounded below an even number exactly if it is more than a half below. -/
theorem significandOf_lt_iff {number : Nat} (even : number % 2 = 0) (positive : 0 < divisor) :
    significandOf dividend divisor < number ↔
      (dividend : ℚ) / divisor * 2 ^ (-exponentOf dividend divisor) < number - 1 / 2 := by
  obtain ⟨nonzero, ratio⟩ := scaled_ratio dividend positive (exponentOf dividend divisor)
  have castPositive : (0 : ℚ) < (scaled dividend divisor (exponentOf dividend divisor)).2 := by
    exact_mod_cast nonzero
  rw [significandOf, roundDiv_lt_iff even nonzero, ← Nat.cast_lt (α := ℚ)]
  push_cast
  rw [ratio]
  constructor
  · intro below
    refine (mul_lt_mul_iff_right₀ castPositive).mp ?_
    linarith
  · intro below
    have scaledUp := mul_lt_mul_of_pos_left below castPositive
    linarith

/-- A number over a smaller exponent than its own is a whole number. -/
theorem scaled_up (significand : Nat) {exponent smaller : Int} (least : smaller ≤ exponent) :
    (significand : ℚ) * 2 ^ exponent =
      ((significand * 2 ^ (exponent - smaller).toNat : Nat) : ℚ) * 2 ^ smaller := by
  obtain ⟨shift, shifts⟩ := Int.eq_ofNat_of_zero_le (show 0 ≤ exponent - smaller by omega)
  obtain rfl : exponent = shift + smaller := by omega
  simp [zpow_add₀, mul_assoc]

/-- A number whose exponent is smaller than the one of a fraction is less than the fraction,
    as the fraction has all its bits. -/
theorem lt_of_smaller_exponent {significand : Nat} {exponent : Int}
    (canonical : Canonical significand exponent) (nonzero : dividend ≠ 0) (positive : 0 < divisor)
    (smaller : exponent < exponentOf dividend divisor) :
    (2 : ℚ) ^ 52 ≤ dividend / divisor * 2 ^ (-exponentOf dividend divisor) ∧
      (significand : ℚ) * 2 ^ exponent < 2 ^ 52 * 2 ^ exponentOf dividend divisor := by
  obtain ⟨narrow, least, _⟩ := canonical
  obtain ⟨_, wide | smallest⟩ := exponentOf_bounds nonzero positive
  · refine ⟨wide, ?_⟩
    have bits : (significand : ℚ) < 2 ^ 53 := by exact_mod_cast narrow
    have shorter : (2 : ℚ) ^ exponent ≤ 2 ^ (exponentOf dividend divisor - 1) :=
      zpow_le_zpow_right₀ one_le_two (by omega)
    calc (significand : ℚ) * 2 ^ exponent < 2 ^ 53 * 2 ^ exponent := by gcongr
      _ ≤ 2 ^ 53 * 2 ^ (exponentOf dividend divisor - 1) := by gcongr
      _ = 2 ^ 52 * 2 ^ exponentOf dividend divisor := by
          rw [zpow_sub_one₀ two_ne_zero]
          ring
  · omega

/-- A fraction is its scaled form times the power of two. -/
theorem ratio_eq (dividend divisor : Nat) (exponent : Int) :
    (dividend : ℚ) / divisor = dividend / divisor * 2 ^ (-exponent) * 2 ^ exponent := by
  rw [mul_assoc, ← zpow_add₀ two_ne_zero, neg_add_cancel, zpow_zero, mul_one]

/-- A number that is at most a fraction is at most the rounded fraction. -/
theorem le_rounded {significand : Nat} {exponent : Int} (canonical : Canonical significand exponent)
    (nonzero : dividend ≠ 0) (positive : 0 < divisor)
    (below : (significand : ℚ) * 2 ^ exponent ≤ dividend / divisor) :
    (significand : ℚ) * 2 ^ exponent ≤
      significandOf dividend divisor * 2 ^ exponentOf dividend divisor := by
  have unit : (0 : ℚ) < 2 ^ exponentOf dividend divisor := zpow_pos two_pos _
  rcases le_or_gt (exponentOf dividend divisor) exponent with least | smaller
  · rw [scaled_up significand least, ratio_eq dividend divisor (exponentOf dividend divisor),
      mul_le_mul_iff_left₀ unit] at below
    rw [scaled_up significand least, mul_le_mul_iff_left₀ unit]
    exact_mod_cast le_significandOf positive below
  · obtain ⟨wide, less⟩ := lt_of_smaller_exponent canonical nonzero positive smaller
    have bits : 2 ^ 52 ≤ significandOf dividend divisor :=
      le_significandOf positive (by exact_mod_cast wide)
    calc (significand : ℚ) * 2 ^ exponent ≤ 2 ^ 52 * 2 ^ exponentOf dividend divisor := less.le
      _ ≤ significandOf dividend divisor * 2 ^ exponentOf dividend divisor := by
          gcongr
          exact_mod_cast bits

/-- A number that is at least a fraction has no smaller exponent than the rounded fraction, and
    is at least the rounded fraction. -/
theorem rounded_le {significand : Nat} {exponent : Int} (canonical : Canonical significand exponent)
    (nonzero : dividend ≠ 0) (positive : 0 < divisor)
    (above : (dividend : ℚ) / divisor ≤ significand * 2 ^ exponent) :
    exponentOf dividend divisor ≤ exponent ∧
      significandOf dividend divisor ≤
        significand * 2 ^ (exponent - exponentOf dividend divisor).toNat := by
  have unit : (0 : ℚ) < 2 ^ exponentOf dividend divisor := zpow_pos two_pos _
  rcases le_or_gt (exponentOf dividend divisor) exponent with least | smaller
  · refine ⟨least, significandOf_le positive ?_⟩
    rw [scaled_up significand least, ratio_eq dividend divisor (exponentOf dividend divisor),
      mul_le_mul_iff_left₀ unit] at above
    exact above
  · obtain ⟨wide, less⟩ := lt_of_smaller_exponent canonical nonzero positive smaller
    have reached : (2 : ℚ) ^ 52 * 2 ^ exponentOf dividend divisor ≤ dividend / divisor := by
      rw [ratio_eq dividend divisor (exponentOf dividend divisor)]
      gcongr
    exact absurd (lt_of_lt_of_le less (reached.trans above)) (lt_irrefl _)

/-- A fraction is rounded to a finite number or to infinity, with its sign, and the finite
    number is the one that its exponent and its significand say. -/
theorem ofFraction_cases (negative : Bool) (nonzero : dividend ≠ 0) (divisor : Nat) :
    ofFraction negative dividend divisor = infinite negative ∨
      (ofFraction negative dividend divisor).isFinite = true ∧
        (ofFraction negative dividend divisor).value =
          signed negative (significandOf dividend divisor) *
            2 ^ exponentOf dividend divisor := by
  have parts : ∀ (significand : Nat) (exponent : Int),
      ofParts negative significand exponent = infinite negative ∨
        Canonical significand exponent := by
    intro significand exponent
    by_cases canonical : Canonical significand exponent
    · exact Or.inr canonical
    · exact Or.inl (dif_neg canonical)
  rw [ofFraction_of_ne_zero negative nonzero]
  split
  · next carried =>
    refine (parts _ _).imp_right fun canonical => ?_
    obtain ⟨finite, valued⟩ := ofParts_of_canonical negative canonical
    refine ⟨finite, valued.trans ?_⟩
    -- one bit more with the exponent, or one more in the exponent
    rw [carried, zpow_add_one₀ two_ne_zero]
    cases negative with
    | false => simp only [signed]; push_cast; ring
    | true => simp only [signed]; push_cast; ring
  · exact (parts _ _).imp_right (ofParts_of_canonical negative)

/-- The smallest number that is too large. It lies halfway between the largest finite number and
    the one that would follow. -/
def limit : ℚ := (2 ^ 54 - 1) * 2 ^ (970 : Int)

/-- The limit with the largest exponent. -/
theorem limit_eq : limit = (2 ^ 53 - 1 / 2) * 2 ^ (971 : Int) := by
  have power : (2 : ℚ) ^ (971 : Int) = 2 ^ (970 : Int) * 2 := zpow_add_one₀ two_ne_zero 970
  rw [limit, power]
  ring

/-- A finite number is below the limit by at least half a step of the largest exponent. -/
theorem Canonical.add_le_limit {significand : Nat} {exponent : Int}
    (canonical : Canonical significand exponent) :
    (significand : ℚ) * 2 ^ exponent + 2 ^ (970 : Int) ≤ limit := by
  obtain ⟨narrow, _, most, _⟩ := canonical
  have bits : (significand : ℚ) ≤ 2 ^ 53 - 1 := by
    have whole : ((significand + 1 : Nat) : ℚ) ≤ (2 ^ 53 : Nat) := Nat.cast_le.mpr narrow
    push_cast at whole
    linarith
  have power : (2 : ℚ) ^ (971 : Int) = 2 ^ (970 : Int) * 2 := zpow_add_one₀ two_ne_zero 970
  have below : (significand : ℚ) * 2 ^ exponent ≤ (2 ^ 53 - 1) * 2 ^ (971 : Int) := by
    gcongr
    exact one_le_two
  rw [power] at below
  rw [limit]
  linarith

/-- A finite number is below the limit. -/
theorem Canonical.lt_limit {significand : Nat} {exponent : Int}
    (canonical : Canonical significand exponent) : (significand : ℚ) * 2 ^ exponent < limit :=
  lt_of_lt_of_le (lt_add_of_pos_right _ (zpow_pos two_pos _)) canonical.add_le_limit

/-- A number of at most 53 bits is far below the limit. -/
theorem lt_limit {number : ℚ} (bounded : number ≤ 2 ^ 53) : number < limit := by
  have unit : (1 : ℚ) ≤ 2 ^ (970 : Int) := one_le_zpow₀ one_le_two (by decide)
  calc number ≤ 2 ^ 53 := bounded
    _ < (2 ^ 54 - 1) * 1 := by norm_num
    _ ≤ limit := mul_le_mul_of_nonneg_left unit (by norm_num)

/-- A fraction is rounded to a finite number exactly if its exponent is below the largest one, or is
    the largest one and the significand has no bit too many. -/
theorem isFinite_iff_exponentOf (negative : Bool) (nonzero : dividend ≠ 0)
    (positive : 0 < divisor) :
    (ofFraction negative dividend divisor).isFinite = true ↔
      exponentOf dividend divisor < 971 ∨
        exponentOf dividend divisor = 971 ∧ significandOf dividend divisor < 0x20000000000000 := by
  obtain ⟨bits, wide⟩ := significandOf_bounds nonzero positive
  have smallest : -1074 ≤ exponentOf dividend divisor := le_max_left _ _
  rw [ofFraction_of_ne_zero negative nonzero]
  split
  · next carried =>
    constructor
    · intro finite
      have most := (canonical_of_isFinite finite).2.2.1
      exact Or.inl (by omega)
    · intro fits
      exact (ofParts_of_canonical negative
        ⟨by norm_num, by omega, by omega, Or.inl (le_refl _)⟩).1
  · next other =>
    constructor
    · intro finite
      obtain ⟨narrow, _, most, _⟩ := canonical_of_isFinite finite
      exact most.lt_or_eq.imp_right fun last => ⟨last, narrow⟩
    · intro fits
      exact (ofParts_of_canonical negative
        ⟨lt_of_le_of_ne bits other, smallest, by omega, wide⟩).1

/-- A fraction is rounded to a finite number exactly if it is below the limit. -/
theorem isFinite_ofFraction_iff (negative : Bool) (dividend : Nat) (positive : 0 < divisor) :
    (ofFraction negative dividend divisor).isFinite = true ↔ (dividend : ℚ) / divisor < limit := by
  by_cases zero : dividend = 0
  · refine iff_of_true ?_ (lt_limit ?_)
    · rw [ofFraction, if_pos zero]
      rfl
    · rw [zero, Nat.cast_zero, zero_div]
      positivity
  · obtain ⟨narrow, reached⟩ := exponentOf_bounds zero positive
    have carries : significandOf dividend divisor < 0x20000000000000 ↔
        (dividend : ℚ) / divisor * 2 ^ (-exponentOf dividend divisor) < 2 ^ 53 - 1 / 2 := by
      rw [significandOf_lt_iff (by decide) positive]
      norm_num
    have scaledLimit : (dividend : ℚ) / divisor < limit ↔
        (dividend : ℚ) / divisor * 2 ^ (-exponentOf dividend divisor) <
          (2 ^ 53 - 1 / 2) * 2 ^ (971 - exponentOf dividend divisor) := by
      rw [sub_eq_add_neg (971 : Int), zpow_add₀ two_ne_zero, ← mul_assoc, ← limit_eq,
        mul_lt_mul_iff_left₀ (zpow_pos two_pos _)]
    rw [isFinite_iff_exponentOf negative zero positive, scaledLimit]
    rcases lt_trichotomy (exponentOf dividend divisor) 971 with small | last | large
    · have room : (2 : ℚ) ^ (1 : Int) ≤ 2 ^ (971 - exponentOf dividend divisor) :=
        zpow_le_zpow_right₀ one_le_two (by omega)
      rw [zpow_one] at room
      exact iff_of_true (Or.inl small) (by linarith)
    · rw [carries, last, sub_self, zpow_zero, mul_one]
      exact ⟨fun either => either.elim (absurd · (lt_irrefl _)) And.right,
        fun below => Or.inr ⟨rfl, below⟩⟩
    · have room : (2 : ℚ) ^ (971 - exponentOf dividend divisor) ≤ 2 ^ (-1 : Int) :=
        zpow_le_zpow_right₀ one_le_two (by omega)
      rw [zpow_neg_one] at room
      refine iff_of_false (by omega) (not_lt.mpr ?_)
      rcases reached with full | least
      · linarith
      · omega

/-- A whole number is rounded to a finite one exactly if it is below the limit. -/
theorem isFinite_ofInt_iff (number : Int) :
    (ofInt number).isFinite = true ↔ |(number : ℚ)| < limit := by
  rw [ofInt, isFinite_ofFraction_iff _ _ Nat.one_pos, Nat.cast_one, div_one, Nat.cast_natAbs,
    Int.cast_abs]

/-- The size of a whole number with its sign is the number. -/
theorem signed_natAbs (number : Int) : signed (decide (number < 0)) number.natAbs = number := by
  unfold signed
  by_cases negative : number < 0
  · rw [decide_eq_true negative, if_pos rfl]
    omega
  · rw [decide_eq_false negative, if_neg Bool.false_ne_true]
    omega

/-- A factor may be taken out of a signed number. -/
theorem signed_mul (negative : Bool) (significand factor : Nat) :
    signed negative (significand * factor) = signed negative significand * factor := by
  cases negative with
  | false => simp [signed]
  | true => simp [signed]

/-- A whole number of at most 53 bits is not rounded. -/
theorem ofInt_exact {number : Int} (small : number.natAbs < 2 ^ 53) :
    (ofInt number).isFinite = true ∧ (ofInt number).value = number := by
  by_cases zero : number = 0
  · subst zero
    exact ⟨rfl, by simp [ofInt, ofFraction, value, Binary64.zero, signed]⟩
  · have nonzero : number.natAbs ≠ 0 := Int.natAbs_ne_zero.mpr zero
    have logarithm : number.natAbs.log2 < 53 := (Nat.log2_lt nonzero).mpr small
    obtain ⟨shift, shifts⟩ := Nat.exists_eq_add_of_le (Nat.le_of_lt_succ logarithm)
    have estimated : estimate number.natAbs 1 = -(shift : Int) := by
      have single : Nat.log2 1 = 0 := by decide
      simp only [estimate, single]
      omega
    -- the number itself, moved up, has all 53 bits, so nothing is cut off
    have moved : (2 : Nat) ^ 52 ≤ number.natAbs * 2 ^ shift ∧
        number.natAbs * 2 ^ shift < 2 ^ 53 := by
      have least := Nat.log2_self_le nonzero
      have most : number.natAbs < 2 ^ (number.natAbs.log2 + 1) := Nat.lt_log2_self
      constructor
      · calc 2 ^ 52 = 2 ^ number.natAbs.log2 * 2 ^ shift := by rw [shifts, Nat.pow_add]
          _ ≤ number.natAbs * 2 ^ shift := Nat.mul_le_mul_right _ least
      · calc number.natAbs * 2 ^ shift < 2 ^ (number.natAbs.log2 + 1) * 2 ^ shift :=
              Nat.mul_lt_mul_of_pos_right most (Nat.two_pow_pos shift)
          _ = 2 ^ 53 := by rw [← Nat.pow_add]; congr 1; omega
    have parts : scaled number.natAbs 1 (-(shift : Int)) = (number.natAbs * 2 ^ shift, 1) := by
      simp [scaled, powerOfTwo, Nat.one_shiftLeft]
    have exponent : exponentOf number.natAbs 1 = -(shift : Int) := by
      simp only [exponentOf, estimated, parts, Nat.div_one]
      rw [if_neg (by norm_num at moved ⊢; omega)]
      omega
    have significand : significandOf number.natAbs 1 = number.natAbs * 2 ^ shift := by
      simp [significandOf, exponent, parts, roundDiv, Nat.mod_one]
    have canonical : Canonical (number.natAbs * 2 ^ shift) (-(shift : Int)) :=
      ⟨by norm_num at moved ⊢; omega, by omega, by omega,
        Or.inl (by norm_num at moved ⊢; omega)⟩
    rw [ofInt, ofFraction_of_ne_zero _ nonzero, significand, exponent,
      if_neg (by norm_num at moved ⊢; omega)]
    obtain ⟨finite, valued⟩ := ofParts_of_canonical (decide (number < 0)) canonical
    refine ⟨finite, valued.trans ?_⟩
    rw [signed_mul, signed_natAbs, Int.cast_mul, Int.cast_natCast, Nat.cast_pow, Nat.cast_ofNat,
      mul_assoc, ← zpow_natCast, ← zpow_add₀ two_ne_zero, add_neg_cancel, zpow_zero, mul_one]

/-- The size of a number is that of its significand times the power of two. -/
theorem abs_signed (negative : Bool) (significand : Nat) (exponent : Int) :
    |(signed negative significand : ℚ) * 2 ^ exponent| = significand * 2 ^ exponent := by
  have positive : (0 : ℚ) < 2 ^ exponent := zpow_pos two_pos exponent
  rw [abs_mul, abs_of_pos positive]
  cases negative with
  | false => simp [signed]
  | true => simp [signed]

/-- A whole number of more than 53 bits is not rounded to a small one. -/
theorem ofInt_large {number : Int} (large : 2 ^ 53 ≤ number.natAbs)
    (finite : (ofInt number).isFinite = true) : (2 : ℚ) ^ 52 ≤ |(ofInt number).value| := by
  have nonzero : number.natAbs ≠ 0 := by omega
  have logarithm : 53 ≤ number.natAbs.log2 := (Nat.le_log2 nonzero).mpr large
  obtain ⟨free, chosen, near, _⟩ := exists_exponent nonzero Nat.one_pos
  have exponent : 0 ≤ exponentOf number.natAbs 1 := by
    have single : Nat.log2 1 = 0 := by decide
    simp only [estimate, single] at near
    rw [chosen]
    omega
  obtain ⟨_, wide | least⟩ := significandOf_bounds nonzero Nat.one_pos
  · have one : (1 : ℚ) ≤ 2 ^ exponentOf number.natAbs 1 := one_le_zpow₀ one_le_two exponent
    have bits : (2 : ℚ) ^ 52 ≤ significandOf number.natAbs 1 := by exact_mod_cast wide
    rw [ofInt] at finite ⊢
    rcases ofFraction_cases (decide (number < 0)) nonzero 1 with tooLarge | ⟨_, valued⟩
    · rw [tooLarge] at finite
      cases finite
    · rw [valued, abs_signed]
      nlinarith
  · omega

/-- Two numbers over one exponent compare as they are. -/
theorem align_ratio (first firstExponent second secondExponent : Int) :
    let aligned := align first firstExponent second secondExponent
    (first : ℚ) * 2 ^ firstExponent = aligned.1 * 2 ^ aligned.2.2 ∧
      (second : ℚ) * 2 ^ secondExponent = aligned.2.1 * 2 ^ aligned.2.2 := by
  have moves : ∀ (number exponent lower : Int), lower ≤ exponent →
      (number : ℚ) * 2 ^ exponent =
        ((number * ((1 <<< (exponent - lower).toNat : Nat) : Int) : Int) : ℚ) * 2 ^ lower := by
    intro number exponent lower below
    obtain ⟨shift, shifts⟩ := Int.eq_ofNat_of_zero_le (show 0 ≤ exponent - lower by omega)
    obtain rfl : exponent = shift + lower := by omega
    simp [Nat.one_shiftLeft, zpow_add₀, mul_assoc]
  exact ⟨moves first firstExponent _ (min_le_left _ _),
    moves second secondExponent _ (min_le_right _ _)⟩

/-- Finite numbers compare as the rational numbers that they stand for. -/
theorem less_iff {first second : Binary64} (firstFinite : first.isFinite = true)
    (secondFinite : second.isFinite = true) :
    first.less second = true ↔ first.value < second.value := by
  cases first with
  | infinite | nan => cases firstFinite
  | finite one significand exponent _ =>
    cases second with
    | infinite | nan => cases secondFinite
    | finite other otherSignificand otherExponent _ =>
      obtain ⟨left, right⟩ := align_ratio (signed one significand) exponent
        (signed other otherSignificand) otherExponent
      have positive : (0 : ℚ) < 2 ^ (align (signed one significand) exponent
          (signed other otherSignificand) otherExponent).2.2 := zpow_pos two_pos _
      simp only [less, value, left, right, decide_eq_true_eq]
      rw [mul_lt_mul_iff_left₀ positive, Int.cast_lt]

/-- The sum of finite numbers is zero, or is rounded from a whole number over the smaller of their
    exponents. -/
theorem add_cases {first second : Binary64} (firstFinite : first.isFinite = true)
    (secondFinite : second.isFinite = true) :
    (first.value + second.value = 0 ∧ ∃ negative, first + second = zero negative) ∨
      ∃ (sum exponent : Int), sum ≠ 0 ∧ first.value + second.value = (sum : ℚ) * 2 ^ exponent ∧
        first + second = ofDyadic (sum < 0) sum.natAbs exponent := by
  cases first with
  | infinite | nan => cases firstFinite
  | finite one significand exponent canonical =>
    cases second with
    | infinite | nan => cases secondFinite
    | finite other otherSignificand otherExponent otherCanonical =>
      let aligned := align (signed one significand) exponent (signed other otherSignificand)
        otherExponent
      obtain ⟨left, right⟩ := align_ratio (signed one significand) exponent
        (signed other otherSignificand) otherExponent
      have added : finite one significand exponent canonical +
          finite other otherSignificand otherExponent otherCanonical =
            if aligned.1 + aligned.2.1 = 0 then zero (one && other)
            else ofDyadic (aligned.1 + aligned.2.1 < 0) (aligned.1 + aligned.2.1).natAbs
              aligned.2.2 := rfl
      rw [value, value, left, right, ← add_mul, ← Int.cast_add]
      by_cases none : aligned.1 + aligned.2.1 = 0
      · refine Or.inl ⟨?_, _, added.trans (if_pos none)⟩
        rw [none, Int.cast_zero, zero_mul]
      · exact Or.inr ⟨_, _, none, rfl, added.trans (if_neg none)⟩

/-- The sum of finite numbers is finite unless it is too large. -/
theorem isFinite_add {first second : Binary64} (firstFinite : first.isFinite = true)
    (secondFinite : second.isFinite = true)
    (bounded : |first.value + second.value| < limit) : (first + second).isFinite = true := by
  rcases add_cases firstFinite secondFinite with ⟨_, _, isZero⟩ | ⟨sum, exponent, _, valued, made⟩
  · rw [isZero]
    rfl
  · rw [made]
    apply (isFinite_ofFraction_iff _ _ (powerOfTwo_ratio _).1).mpr
    rwa [valued, abs_mul, abs_of_pos (zpow_pos two_pos _ : (0 : ℚ) < _), ← Int.cast_abs,
      Int.abs_eq_natAbs, Int.cast_natCast, dyadic_ratio] at bounded

/-- A number with the other sign. -/
theorem value_neg (number : Binary64) : (neg number).value = -number.value := by
  cases number with
  | finite negative => cases negative <;> simp [neg, value, signed]
  | infinite | nan => simp [neg, value]

/-- A number with the other sign is as finite as the number. -/
theorem isFinite_neg (number : Binary64) : (neg number).isFinite = number.isFinite := by
  cases number <;> rfl

/-- A fraction with the other sign is rounded to the number with the other sign. -/
theorem neg_ofFraction (negative : Bool) (dividend divisor : Nat) :
    (ofFraction negative dividend divisor).neg = ofFraction (!negative) dividend divisor := by
  have parts : ∀ significand exponent,
      (ofParts negative significand exponent).neg = ofParts (!negative) significand exponent := by
    intro significand exponent
    unfold ofParts
    split <;> rfl
  by_cases zero : dividend = 0
  · simp [ofFraction, zero, Binary64.zero, neg]
  · rw [ofFraction_of_ne_zero negative zero, ofFraction_of_ne_zero (!negative) zero]
    split
    · exact parts _ _
    · exact parts _ _

/-- The difference of finite numbers is finite unless it is too large. -/
theorem isFinite_sub {first second : Binary64} (firstFinite : first.isFinite = true)
    (secondFinite : second.isFinite = true)
    (bounded : |first.value - second.value| < limit) : (first - second).isFinite = true := by
  apply isFinite_add firstFinite
  · exact (isFinite_neg second).trans secondFinite
  · rwa [value_neg, ← sub_eq_add_neg]

end SqlGateway.Binary64
