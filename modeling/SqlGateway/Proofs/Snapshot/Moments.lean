import Mathlib.Order.WithBot
import SqlGateway.Proofs.Snapshot.Years
import SqlGateway.Snapshot

/-!
# The moments of snapshots

Moments are compared exactly, whatever they are counted in and although some of them are
infinite. A snapshot keeps its two moments as floating-point numbers; as long as both fall
into the years that the calendar has, nothing is lost by that, and the age of a snapshot
that has not expired has a text.
-/

namespace SqlGateway

/-- The line on which moments lie, with its two ends. -/
abbrev TimeLine : Type := WithBot (WithTop ℚ)

/-- Where a number lies on the line. -/
abbrev TimeLine.of (number : ℚ) : TimeLine := ((number : WithTop ℚ) : WithBot (WithTop ℚ))

/-- Where a floating-point number lies on the line. A nan lies nowhere. -/
def Binary64.position : Binary64 → Option TimeLine
  | infinite negative => some (if negative then ⊥ else (⊤ : WithTop ℚ))
  | nan => none
  | number => some (.of number.value)

/-- Where a moment lies on the line. -/
def Seconds.position : Seconds → Option TimeLine
  | whole count => some (.of count)
  | real count => count.position

/-- Whether a moment is not later than another one. -/
def Seconds.AtMost (first second : Seconds) : Prop :=
  ∃ one ∈ first.position, ∃ other ∈ second.position, one ≤ other

/-- A finite number lies where its value does. -/
theorem Binary64.position_of_isFinite {number : Binary64} (finite : number.isFinite = true) :
    number.position = some (.of number.value) := by
  cases number with
  | finite => rfl
  | infinite | nan => cases finite

/-- A moment lies before now exactly if it is less. -/
theorem Seconds.isAfter_iff {now : Seconds} {moment : Binary64} (finite : moment.isFinite = true) :
    now.isAfter moment = true ↔
      ∃ place ∈ now.position, TimeLine.of moment.value < place := by
  cases now with
  | whole count =>
    cases moment with
    | infinite | nan => cases finite
    | finite negative significand exponent _ =>
      obtain ⟨left, right⟩ := Binary64.align_ratio (Binary64.signed negative significand) exponent
        count 0
      have positive : (0 : ℚ) < 2 ^ (Binary64.align (Binary64.signed negative significand) exponent
          count 0).2.2 := zpow_pos two_pos _
      rw [zpow_zero, mul_one] at right
      simp only [isAfter, position, Option.mem_def, Option.some.injEq, exists_eq_left',
        WithBot.coe_lt_coe, WithTop.coe_lt_coe, Binary64.value, decide_eq_true_eq]
      rw [left, right, mul_lt_mul_iff_left₀ positive, Int.cast_lt]
  | real count =>
    cases count with
    | nan => cases moment <;> simp [isAfter, Binary64.less, position, Binary64.position]
    | infinite negative =>
      cases moment with
      | infinite | nan => cases finite
      | finite =>
        cases negative with
        | true => simp [isAfter, Binary64.less, position, Binary64.position]
        | false =>
          exact iff_of_true rfl ⟨_, rfl, WithBot.coe_lt_coe.mpr (WithTop.coe_lt_top _)⟩
    | finite =>
      simp only [isAfter, position, Binary64.position, Option.mem_def, Option.some.injEq,
        exists_eq_left', WithBot.coe_lt_coe, WithTop.coe_lt_coe]
      exact Binary64.less_iff finite rfl

/-- Whole seconds have a nearest number if it is finite. -/
theorem Seconds.nearest_whole_iff {count : Int} {number : Binary64} :
    (whole count).nearest = .ok number ↔
      (Binary64.ofInt count).isFinite = true ∧ number = .ofInt count := by
  unfold nearest
  dsimp only
  split
  · next finite => exact ⟨fun near => ⟨finite, (Except.ok.inj near).symm⟩, fun both => both.2 ▸ rfl⟩
  · next overflows => exact iff_of_false nofun fun both => overflows both.1

/-- A snapshot keeps the number nearest to a moment, if there is one. -/
theorem Snapshot.checkedMoment_eq_valid_iff {moment : Seconds} {number : Binary64} :
    checkedMoment moment = .valid number ↔ moment.nearest = .ok number := by
  cases moment with
  | real count =>
    exact ⟨fun keeps => congrArg _ (Checked.valid.inj keeps),
      fun near => congrArg _ (Except.ok.inj near)⟩
  | whole count =>
    rw [Seconds.nearest_whole_iff]
    change ((Validation.floatOfInt? count).map Checked.valid).getD _ = _ ↔ _
    unfold Validation.floatOfInt?
    by_cases finite : (Binary64.ofInt count).isFinite = true
    · simp only [Option.filter_some, finite, if_true, Option.map_some, Option.getD_some, true_and,
        Checked.valid.injEq]
      exact eq_comm
    · refine iff_of_false ?_ fun both => finite both.1
      intro keeps
      simp only [Option.filter_some, finite] at keeps
      cases keeps

/-- A snapshot keeps a moment that has a text as it is. -/
theorem Snapshot.position_checkedMoment {moment : Seconds} {kept : Binary64}
    (keeps : Snapshot.checkedMoment moment = .valid kept) (dated : kept.Dated) :
    moment.position = some (.of kept.value) := by
  obtain ⟨finite, bounded⟩ := dated.bounds
  rw [checkedMoment_eq_valid_iff] at keeps
  cases moment with
  | real count =>
    cases keeps
    exact Binary64.position_of_isFinite finite
  | whole count =>
    obtain ⟨_, rfl⟩ := Seconds.nearest_whole_iff.mp keeps
    have small : count.natAbs < 2 ^ 53 := by
      by_contra large
      have least := Binary64.ofInt_large (Nat.le_of_not_lt large) finite
      have most := least.trans bounded
      norm_num at most
    rw [(Binary64.ofInt_exact small).2]
    rfl

/-- A moment of a few thousand years lies where the floating-point number nearest to it does. -/
theorem Seconds.nearest_of_position {moment : Seconds} {place : ℚ}
    (lies : moment.position = some (.of place))
    (bounded : |place| ≤ 2 ^ 40) :
    ∃ number, moment.nearest = .ok number ∧ number.isFinite = true ∧ number.value = place := by
  cases moment with
  | whole count =>
    have same : (count : ℚ) = place :=
      WithTop.coe_injective (WithBot.coe_injective (Option.some.inj lies))
    have small : count.natAbs < 2 ^ 53 := by
      rw [← same, ← Int.cast_abs, Int.abs_eq_natAbs] at bounded
      have size : count.natAbs ≤ 2 ^ 40 := by exact_mod_cast bounded
      omega
    obtain ⟨finite, exact⟩ := Binary64.ofInt_exact small
    refine ⟨.ofInt count, ?_, finite, exact.trans same⟩
    rw [nearest, if_pos finite]
  | real count =>
    cases count with
    | infinite negative => cases negative <;> cases lies
    | nan => cases lies
    | finite =>
      exact ⟨_, rfl, rfl, WithTop.coe_injective (WithBot.coe_injective (Option.some.inj lies))⟩

/-- A snapshot that has not expired has an age. -/
theorem Snapshot.exists_age {snapshot : Snapshot} {now : Seconds}
    (taken : (Seconds.real snapshot.takenAt).AtMost now)
    (takenDated : snapshot.takenAt.Dated) (expiresDated : snapshot.expiresAt.Dated)
    (fresh : snapshot.isExpired now = false) : ∃ age, snapshot.age now = .ok age := by
  obtain ⟨takenFinite, takenBounded⟩ := takenDated.bounds
  obtain ⟨expiresFinite, expiresBounded⟩ := expiresDated.bounds
  obtain ⟨start, starts, place, lies, ordered⟩ := taken
  have unexpired : place ≤ .of snapshot.expiresAt.value := by
    by_contra later
    have after := (Seconds.isAfter_iff expiresFinite).mpr ⟨place, lies, lt_of_not_ge later⟩
    rw [isExpired, after] at fresh
    cases fresh
  cases (Binary64.position_of_isFinite takenFinite).symm.trans starts
  -- now lies between two finite moments, so it is finite as well
  obtain ⟨below, rfl, above⟩ := WithBot.coe_le_iff.mp ordered
  obtain ⟨place, rfl, most⟩ := WithTop.le_coe_iff.mp (WithBot.coe_le_coe.mp unexpired)
  have least := WithTop.coe_le_coe.mp above
  have bounds := abs_le.mp takenBounded
  have limits := abs_le.mp expiresBounded
  obtain ⟨number, near, finite, exact⟩ := Seconds.nearest_of_position lies
    (abs_le.mpr ⟨bounds.1.trans least, most.trans limits.2⟩)
  have difference : (number - snapshot.takenAt).isFinite = true := by
    apply Binary64.isFinite_sub finite takenFinite
    apply Binary64.lt_limit
    rw [exact, abs_le]
    constructor <;> linarith
  rw [age, Seconds.since, near]
  show ∃ age, Age.ofSeconds (number - snapshot.takenAt) = .ok age
  cases elapsed : number - snapshot.takenAt with
  | infinite | nan => rw [elapsed] at difference; cases difference
  | finite => exact ⟨_, rfl⟩

end SqlGateway
