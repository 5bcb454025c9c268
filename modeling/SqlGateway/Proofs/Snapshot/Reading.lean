import SqlGateway.Proofs.Fault.Outcomes
import SqlGateway.Proofs.Snapshot.Moments
import SqlGateway.Snapshot.Store

/-!
# Reading what is at the place of a snapshot

Whatever text is at the place of a snapshot, it is a snapshot, or none, or nested too deep to be
read at all. What is no snapshot counts as absent. A snapshot is another matter: its moments may
be any numbers, and what is said about them has to have a text. It has none if a moment lies
outside the calendar, or if no finite number of seconds has passed since.
-/

namespace SqlGateway

/-- A finite number of seconds lies between now and a moment. -/
def Seconds.IsApart (now : Seconds) (moment : Binary64) : Prop :=
  ∃ elapsed, now.since moment = .ok elapsed ∧ elapsed.isFinite = true

/-- While the clock reads a number of at most 53 bits, a finite number of seconds lies between now
    and exactly the finite moments, however large they are. -/
theorem Seconds.isApart_iff {now : Seconds} {reading : Binary64} (read : now.nearest = .ok reading)
    (finite : reading.isFinite = true) (moderate : |reading.value| ≤ 2 ^ 53) (moment : Binary64) :
    now.IsApart moment ↔ moment.isFinite = true := by
  have difference : now.IsApart moment ↔ (reading - moment).isFinite = true := by
    rw [IsApart, since, read]
    constructor
    · rintro ⟨_, ⟨⟩, apart⟩
      exact apart
    · exact fun apart => ⟨_, rfl, apart⟩
  rw [difference]
  cases moment with
  | infinite | nan =>
    cases reading with
    | finite => exact iff_of_false Bool.false_ne_true Bool.false_ne_true
    | infinite | nan => cases finite
  | finite negative significand exponent canonical =>
    refine iff_of_true (Binary64.isFinite_sub finite rfl ?_) rfl
    have small : (2 : ℚ) ^ (53 : Int) < 2 ^ (970 : Int) :=
      zpow_lt_zpow_right₀ one_lt_two (by decide)
    rw [zpow_ofNat] at small
    calc |reading.value - (Binary64.finite negative significand exponent canonical).value|
        ≤ |reading.value| + significand * 2 ^ exponent := by
          rw [← Binary64.abs_signed negative]
          exact abs_sub _ _
      _ < 2 ^ (970 : Int) + significand * 2 ^ exponent := by
          gcongr
          exact lt_of_le_of_lt moderate small
      _ ≤ Binary64.limit := by
          rw [add_comm]
          exact canonical.add_le_limit

/-- A number has a whole part exactly if it is finite. -/
theorem Binary64.exists_whole_iff (number : Binary64) :
    (∃ count, number.whole = .ok count) ↔ number.isFinite = true := by
  cases number with
  | finite => exact iff_of_true ⟨_, rfl⟩ rfl
  | infinite | nan => exact iff_of_false nofun nofun

namespace Snapshot

variable (snapshot : Snapshot) (now : Seconds)

/-- A snapshot has an age exactly if a finite number of seconds lies between now and the moment at
    which it was taken. -/
theorem exists_age_iff : (∃ age, snapshot.age now = .ok age) ↔ now.IsApart snapshot.takenAt := by
  simp only [age, Age.ofSeconds, exists_bind_ok_iff, exists_map_ok_iff, Binary64.exists_whole_iff,
    Seconds.IsApart]

/-- The map of a snapshot is found, or found to have expired, exactly if what is noted about it
    has a text. -/
theorem exists_current_iff :
    (∃ found, snapshot.current now = .ok found) ↔
      if snapshot.isExpired now then snapshot.takenAt.InCalendar
      else now.IsApart snapshot.takenAt := by
  unfold current
  cases snapshot.isExpired now with
  | true =>
    rw [if_pos rfl, if_pos rfl, exists_bind_ok_iff, ← Binary64.dated_iff]
    exact ⟨fun ⟨text, told, _⟩ => ⟨text, told⟩, fun ⟨text, told⟩ => ⟨text, told, none, rfl⟩⟩
  | false =>
    rw [if_neg nofun, if_neg nofun, exists_bind_ok_iff, ← exists_age_iff]
    exact ⟨fun ⟨age, told, _⟩ => ⟨age, told⟩, fun ⟨age, told⟩ => ⟨age, told, _, rfl⟩⟩

/-- A snapshot is told about exactly if both of its moments have texts and it has an age. -/
theorem exists_info_iff :
    (∃ info, snapshot.info now = .ok info) ↔
      snapshot.takenAt.InCalendar ∧ snapshot.expiresAt.InCalendar ∧
        now.IsApart snapshot.takenAt := by
  rw [← Binary64.dated_iff, ← Binary64.dated_iff, ← exists_age_iff]
  unfold info
  simp only [exists_bind_ok_iff]
  constructor
  · rintro ⟨takenAt, taken, expiresAt, expires, age, aged, _⟩
    exact ⟨⟨takenAt, taken⟩, ⟨expiresAt, expires⟩, ⟨age, aged⟩⟩
  · rintro ⟨⟨takenAt, taken⟩, ⟨expiresAt, expires⟩, ⟨age, aged⟩⟩
    exact ⟨takenAt, taken, expiresAt, expires, age, aged, _, rfl⟩

end Snapshot

/-- A text is nested too deep to be read. -/
def Json.IsTooDeep (text : String) : Prop :=
  ∃ error, read text.toList = .error error ∧ error.problem.isDepth = true

/-- A text is looked through for a snapshot unless it is nested too deep. -/
theorem Snapshot.exists_ofText?_iff (text : String) :
    (∃ found, ofText? text = .ok found) ↔ ¬Json.IsTooDeep text := by
  unfold ofText? Json.IsTooDeep
  cases Json.read text.toList with
  | ok document =>
    refine iff_of_true ?_ fun ⟨_, fails, _⟩ => nomatch fails
    dsimp only
    cases ofDocument document with
    | valid snapshot => exact ⟨some snapshot, rfl⟩
    | invalid problems => exact ⟨none, rfl⟩
  | error error =>
    dsimp only
    cases deep : error.problem.isDepth with
    | true =>
      exact iff_of_false (fun ⟨_, found⟩ => nomatch found) (not_not_intro ⟨error, rfl, deep⟩)
    | false =>
      refine iff_of_true ⟨none, rfl⟩ ?_
      rintro ⟨_, ⟨⟩, other⟩
      rw [deep] at other
      cases other

/-- A text stands for a snapshot exactly if its document does. -/
theorem Snapshot.ofText?_eq_some_iff (text : String) (snapshot : Snapshot) :
    ofText? text = .ok (some snapshot) ↔
      ∃ document, Json.read text.toList = .ok document ∧ ofDocument document = .valid snapshot := by
  unfold ofText?
  cases Json.read text.toList with
  | ok document =>
    simp only [Except.ok.injEq, exists_eq_left']
    cases ofDocument document with
    | valid found => simp
    | invalid problems => simp
  | error error =>
    dsimp only
    refine iff_of_false ?_ fun ⟨_, found, _⟩ => nomatch found
    split
    · exact fun found => nomatch found
    · exact fun found => nomatch found

namespace SnapshotStore

variable (store : SnapshotStore) (backend : Backend)

/-- The file of a backend is nested too deep to be read. -/
def IsTooDeep : Prop :=
  ∃ text ∈ store.text? backend, Json.IsTooDeep text

/-- The file of a backend holds a snapshot. -/
def HoldsSnapshot (snapshot : Snapshot) : Prop :=
  ∃ text ∈ store.text? backend, ∃ document, Json.read text.toList = .ok document ∧
    Snapshot.ofDocument document = .valid snapshot

/-- Exactly a file that is nested too deep is not read. -/
theorem exists_snapshot?_iff :
    (∃ found, store.snapshot? backend = .ok found) ↔ ¬store.IsTooDeep backend := by
  unfold snapshot? IsTooDeep
  cases store.text? backend with
  | none => exact iff_of_true ⟨none, rfl⟩ nofun
  | some text => simp [Snapshot.exists_ofText?_iff]

/-- A snapshot is read exactly if the file holds it. -/
theorem snapshot?_eq_some_iff (snapshot : Snapshot) :
    store.snapshot? backend = .ok (some snapshot) ↔ store.HoldsSnapshot backend snapshot := by
  unfold snapshot? HoldsSnapshot
  cases store.text? backend with
  | none => simp
  | some text => simp [Snapshot.ofText?_eq_some_iff]

/-- What is asked of a snapshot is answered exactly if the file is not nested too deep, and the
    snapshot answers if there is one. -/
theorem exists_asked_iff {α : Type} (ask : Snapshot → Outcome (Option α)) :
    (∃ found, (do match ← store.snapshot? backend with
                  | none => return none
                  | some snapshot => ask snapshot) = .ok found) ↔
      ¬store.IsTooDeep backend ∧
        ∀ snapshot, store.HoldsSnapshot backend snapshot → ∃ found, ask snapshot = .ok found := by
  simp only [← exists_snapshot?_iff, ← snapshot?_eq_some_iff]
  cases store.snapshot? backend with
  | error failure =>
    refine iff_of_false ?_ ?_
    · rintro ⟨_, ⟨⟩⟩
    · rintro ⟨⟨_, ⟨⟩⟩, _⟩
  | ok found =>
    cases found with
    | none =>
      refine iff_of_true ⟨none, rfl⟩ ⟨⟨none, rfl⟩, ?_⟩
      rintro _ ⟨⟩
    | some snapshot =>
      constructor
      · intro answers
        refine ⟨⟨_, rfl⟩, ?_⟩
        rintro _ ⟨⟩
        exact answers
      · exact fun ⟨_, answers⟩ => answers snapshot rfl

/-- What is no snapshot counts as absent. -/
theorem snapshot?_of_no_snapshot (shallow : ¬store.IsTooDeep backend)
    (noSnapshot : ∀ snapshot, ¬store.HoldsSnapshot backend snapshot) :
    store.snapshot? backend = .ok none := by
  obtain ⟨found, read⟩ := (store.exists_snapshot?_iff backend).mpr shallow
  cases found with
  | none => exact read
  | some snapshot =>
    exact absurd ((store.snapshot?_eq_some_iff backend snapshot).mp read) (noSnapshot snapshot)

/-- Whatever is at the place of a snapshot, and whatever the clock reads: the map of the snapshot
    is found or found missing exactly if the file is not nested too deep and, if it holds a
    snapshot, the moment at which an expired one was taken falls into the calendar, and a finite
    number of seconds lies between now and the moment at which another one was taken. The snapshot
    is told about exactly if both of its moments fall into the calendar and the second holds, which
    it does of every finite moment while the clock reads a number of at most 53 bits. What is no
    snapshot, and not nested too deep, is missing for both. -/
theorem lookups_answer_iff (now : Seconds) :
    ((∃ found, store.current backend now = .ok found) ↔
      ¬store.IsTooDeep backend ∧ ∀ snapshot, store.HoldsSnapshot backend snapshot →
        if snapshot.isExpired now then snapshot.takenAt.InCalendar
        else now.IsApart snapshot.takenAt) ∧
    ((∃ told, store.info backend now = .ok told) ↔
      ¬store.IsTooDeep backend ∧ ∀ snapshot, store.HoldsSnapshot backend snapshot →
        snapshot.takenAt.InCalendar ∧ snapshot.expiresAt.InCalendar ∧
          now.IsApart snapshot.takenAt) ∧
    (∀ reading, now.nearest = .ok reading → reading.isFinite = true → |reading.value| ≤ 2 ^ 53 →
      ∀ moment, now.IsApart moment ↔ moment.isFinite = true) ∧
    (¬store.IsTooDeep backend → (∀ snapshot, ¬store.HoldsSnapshot backend snapshot) →
      store.current backend now = .ok none ∧ store.info backend now = .ok none) := by
  refine ⟨?_, ?_, fun _ read finite moderate => Seconds.isApart_iff read finite moderate, ?_⟩
  · refine (store.exists_asked_iff backend fun snapshot => snapshot.current now).trans ?_
    simp only [Snapshot.exists_current_iff]
  · refine (store.exists_asked_iff backend fun snapshot => some <$> snapshot.info now).trans ?_
    simp only [exists_map_ok_iff, Snapshot.exists_info_iff]
  · intro shallow noSnapshot
    have missing := store.snapshot?_of_no_snapshot backend shallow noSnapshot
    rw [current, info, missing]
    exact ⟨rfl, rfl⟩

/-- The store with one file, of the warehouse. -/
def ofText (text : String) : SnapshotStore :=
  empty.put .warehouse (.file text)

/-- A file that is no document is missing for both lookups. -/
theorem missing_of_nonsense :
    let store := ofText "nonsense"
    let now : Seconds := .whole 1700000000
    ¬store.IsTooDeep .warehouse ∧ (∀ snapshot, ¬store.HoldsSnapshot .warehouse snapshot) ∧
      store.current .warehouse now = .ok none ∧ store.info .warehouse now = .ok none := by
  intro store now
  have read : store.snapshot? .warehouse = .ok none := eq_ok_of_toOption (by decide +kernel)
  have shallow := (store.exists_snapshot?_iff .warehouse).mp ⟨none, read⟩
  have noSnapshot : ∀ snapshot, ¬store.HoldsSnapshot .warehouse snapshot := by
    intro snapshot holds
    rw [← snapshot?_eq_some_iff, read] at holds
    cases holds
  exact ⟨shallow, noSnapshot, (store.lookups_answer_iff .warehouse now).2.2.2 shallow noSnapshot⟩

/-- A file whose moment of taking is no number is a snapshot, but neither its map is found or found
    missing, nor is anything told about it. -/
theorem unanswered_of_nan :
    let store := ofText
      "\x7b\"data\": \x7b\x7d, \"cached_at\": NaN, \"expires_at\": 4102444800\x7d"
    let now : Seconds := .whole 1700000000
    (∃ snapshot, store.HoldsSnapshot .warehouse snapshot) ∧
      (¬∃ found, store.current .warehouse now = .ok found) ∧
      ¬∃ told, store.info .warehouse now = .ok told := by
  intro store now
  refine ⟨⟨{ tables := .empty, takenAt := .nan, expiresAt := .ofInt 4102444800 }, ?_⟩, ?_, ?_⟩
  · rw [← snapshot?_eq_some_iff]
    exact eq_ok_of_toOption (by decide +kernel)
  · exact not_ok_of_toOption (by decide +kernel)
  · exact not_ok_of_toOption (by decide +kernel)

end SnapshotStore

end SqlGateway
