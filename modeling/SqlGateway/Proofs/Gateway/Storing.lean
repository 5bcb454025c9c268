import SqlGateway.Proofs.Gateway.Browsing
import SqlGateway.Proofs.Snapshot.Expiry

/-!
# Answers to fetches that have succeeded

Tables that have been fetched are kept before they are answered. A place that cannot be written is
no obstacle to that, but the moment at which the tables expire is: it has to be a number and, where
a file has been written for them, one that the calendar can tell. So a lifetime that ends beyond
the year 9999 takes the answer away, although the tables have been fetched and the file is there
to be read.
-/

namespace SqlGateway

/-- The expiry of what is taken now can be dated: it is a number and, where a file is written, a
    moment of the calendar. -/
def SnapshotStore.Dates (store : SnapshotStore) (backend : Backend) (now lifetime : Seconds) :
    Prop :=
  ∃ expiresAt, now.Expires lifetime expiresAt ∧
    (store.isWritable backend = true → expiresAt.InCalendar)

namespace SnapshotStore

variable {store : SnapshotStore} {backend : Backend} {listing : SchemaListing}
  {tables : SchemaMap} {now : Seconds} {place : ℚ} {lifetime : Int}

/-- Tables of a moment of the calendar can be kept exactly if their expiry can be dated. -/
theorem keeps_iff_dates (named : listing.checked = .valid tables) (falls : now.FallsOn place)
    (good : Seconds) : store.Keeps backend listing now good ↔ store.Dates backend now good := by
  constructor
  · rintro ⟨_, expiry, _, expiresAt, added, _, kept, told⟩
    exact ⟨expiresAt, ⟨expiry, added, kept⟩,
      fun writable => (Binary64.dated_iff expiresAt).mp (told writable)⟩
  · rintro ⟨expiresAt, ⟨expiry, added, kept⟩, within⟩
    obtain ⟨takenAt, near, _⟩ := falls.exists_nearest
    exact ⟨⟨tables, named⟩, expiry, takenAt, expiresAt, added,
      Snapshot.checkedMoment_eq_valid_iff.mpr near, kept,
      fun writable => (Binary64.dated_iff expiresAt).mpr (within writable)⟩

/-- An expiry within the calendar can be dated. -/
theorem dates_of_within (falls : now.FallsOn place)
    (least : Timestamp.firstCounted ≤ place + lifetime)
    (most : place + lifetime + 1 ≤ Timestamp.firstUncounted) :
    store.Dates backend now (.whole lifetime) := by
  obtain ⟨expiresAt, expires, within⟩ := falls.expires_within least most
  exact ⟨expiresAt, expires, fun _ => within⟩

/-- An expiry outside it cannot where a file is written. -/
theorem not_dates_of_outside (writable : store.isWritable backend = true)
    (falls : now.FallsOn place)
    (outside : place + lifetime + 1 ≤ Timestamp.firstCounted ∨
      Timestamp.firstUncounted ≤ place + lifetime) :
    ¬store.Dates backend now (.whole lifetime) :=
  fun ⟨_, expires, within⟩ => falls.expires_outside outside expires (within writable)

/-- Where none is written, the expiry only has to be a number. -/
theorem dates_iff_of_unwritable (unwritable : store.isWritable backend = false) (now : Seconds)
    (lifetime : Int) :
    store.Dates backend now (.whole lifetime) ↔
      |(now.rounded lifetime : ℚ)| < Binary64.limit := by
  rw [← Seconds.exists_expires_iff]
  refine exists_congr fun expiresAt => and_iff_left ?_
  rw [unwritable]
  exact nofun

/-- Where a file can be written it is, whether or not the expiry can be told after that. -/
theorem startIn_keep_of_expires (writable : store.isWritable backend = true)
    (named : listing.checked = .valid tables) {good : Seconds} {takenAt expiresAt : Binary64}
    (near : now.nearest = .ok takenAt) (expires : now.Expires good expiresAt) :
    (keep backend listing now good).startIn store =
      ((Timestamp.text expiresAt).map fun _ => (),
        store.put backend (.file (Snapshot.text { tables, takenAt, expiresAt }))) := by
  obtain ⟨expiry, added, kept⟩ := expires
  have taken : Snapshot.take listing now good = .ok { tables, takenAt, expiresAt } :=
    Snapshot.take_of_checked named added (Snapshot.checkedMoment_eq_valid_iff.mpr near) kept
  rw [startIn_keep, taken]
  dsimp only
  rw [if_pos writable]

end SnapshotStore

namespace Gateway

variable {α β : Type}

/-- How tables are answered that have been fetched, and what is left of them. -/
structure AnswersFetched (gateway : Gateway α β) (state : State α β) (backend : Backend)
    (refresh : Bool) (listing : SchemaListing) (tables : SchemaMap) : Prop where
  /-- They are answered as they are, and not as cached ones, exactly if their expiry can be dated.
      There is no other answer. -/
  answered : ∀ answer, ((gateway.schema (.backend backend) refresh).startIn state).1 = .ok answer ↔
    state.snapshots.Dates backend state.clock gateway.snapshotSeconds ∧
      answer = { tables := listing, cached := false }
  /-- They are kept exactly if it can. -/
  kept : ((SnapshotStore.keep backend listing state.clock gateway.snapshotSeconds).startIn
      state.snapshots).1 = .ok () ↔
    state.snapshots.Dates backend state.clock gateway.snapshotSeconds
  /-- Where a file can be written, it is there even if the text of the expiry is missing, which
      decides about the answer. -/
  written : state.snapshots.isWritable backend = true →
    ∀ takenAt expiresAt, state.clock.nearest = .ok takenAt →
      state.clock.Expires gateway.snapshotSeconds expiresAt →
        ((gateway.schema (.backend backend) refresh).startIn state).1 =
            ((Timestamp.text expiresAt).map fun _ => { tables := listing, cached := false }) ∧
          ((gateway.schema (.backend backend) refresh).startIn state).2.snapshots =
            state.snapshots.put backend (.file (Snapshot.text { tables, takenAt, expiresAt }))

variable {gateway : Gateway α β} {state : State α β} {backend : Backend} {refresh : Bool}
  {listing : SchemaListing} {tables : SchemaMap} {place : ℚ}

/-- Fetched tables are answered as they should be. -/
theorem State.Fetches.answersFetched (fetches : state.Fetches backend refresh)
    (lists : gateway.fetched state backend = .ok listing)
    (named : listing.checked = .valid tables) (falls : state.clock.FallsOn place) :
    gateway.AnswersFetched state backend refresh listing tables where
  answered answer := by
    rw [fetches.answers_listing lists, SnapshotStore.keeps_iff_dates named falls]
  kept := by
    rw [SnapshotStore.keeps_iff, SnapshotStore.keeps_iff_dates named falls]
  written writable takenAt expiresAt near expires := by
    have kept := SnapshotStore.startIn_keep_of_expires writable named near expires
    rw [fetches.startIn_schema, startIn_fetchSchema]
    rw [fetched] at lists
    dsimp only
    rw [lists]
    dsimp only
    rw [kept]
    refine ⟨?_, rfl⟩
    cases Timestamp.text expiresAt with
    | ok text => rfl
    | error failure => rfl

/-- How tables are answered that have been fetched at a moment of the calendar and are good for a
    whole number of seconds: they are answered, and kept, exactly if their expiry can be dated. It
    can be dated if it falls into the calendar, before its last second. Where a file can be
    written it cannot if it lies behind the calendar, or a second before it; where none can, it
    only must not be too large for a number. -/
theorem fetched_tables_answered (gateway : Gateway α β) (state : State α β) (backend : Backend)
    (refresh : Bool) {lifetime : Int} {place : ℚ} {listing : SchemaListing} {tables : SchemaMap}
    (good : gateway.snapshotSeconds = .whole lifetime) (falls : state.clock.FallsOn place)
    (fetches : state.Fetches backend refresh)
    (lists : gateway.fetched state backend = .ok listing)
    (named : listing.checked = .valid tables) :
    gateway.AnswersFetched state backend refresh listing tables ∧
      (Timestamp.firstCounted ≤ place + lifetime →
        place + lifetime + 1 ≤ Timestamp.firstUncounted →
          state.snapshots.Dates backend state.clock gateway.snapshotSeconds) ∧
      (state.snapshots.isWritable backend = true →
        place + lifetime + 1 ≤ Timestamp.firstCounted ∨
          Timestamp.firstUncounted ≤ place + lifetime →
            ¬state.snapshots.Dates backend state.clock gateway.snapshotSeconds) ∧
      (state.snapshots.isWritable backend = false →
        (state.snapshots.Dates backend state.clock gateway.snapshotSeconds ↔
          |(state.clock.rounded lifetime : ℚ)| < Binary64.limit)) := by
  refine ⟨fetches.answersFetched lists named falls, ?_⟩
  rw [good]
  refine ⟨SnapshotStore.dates_of_within falls, ?_, ?_⟩
  · exact fun writable => SnapshotStore.not_dates_of_outside writable falls
  · exact fun unwritable => SnapshotStore.dates_iff_of_unwritable unwritable _ _

/-- The moment at 22:13:20 on 14 November 2023. -/
theorem fallsOn_sample : (Seconds.whole 1700000000).FallsOn 1700000000 where
  lies := rfl
  begun := by norm_num [Timestamp.firstCounted]
  unfinished := by norm_num [Timestamp.firstUncounted]

/-- One table that is good for an hour is answered. -/
theorem fetched_tables_answered_oneTable :
    let gateway := oneTableGateway (.whole 3600)
    let state : State Unit Unit := .opened ((), ()) (.whole 1700000000)
    gateway.snapshotSeconds = .whole 3600 ∧ state.clock.FallsOn 1700000000 ∧
      state.Fetches .warehouse false ∧
      gateway.fetched state .warehouse = .ok (.ofMap oneTable) ∧
      (SchemaListing.ofMap oneTable).checked = .valid oneTable ∧
      ((gateway.schema (.backend .warehouse)).startIn state).1 =
        .ok { tables := .ofMap oneTable, cached := false } := by
  intro gateway state
  have named := SchemaListing.checked_ofMap oneTable
  obtain ⟨answers, within, _⟩ := fetched_tables_answered gateway state .warehouse false rfl
    fallsOn_sample (Or.inr rfl) rfl named
  have dates := within (by norm_num [Timestamp.firstCounted])
    (by norm_num [Timestamp.firstUncounted])
  exact ⟨rfl, fallsOn_sample, Or.inr rfl, rfl, named, (answers.answered _).mpr ⟨dates, rfl⟩⟩

/-- One table that is good for a trillion seconds is fetched, but neither kept nor answered. Yet it
    is there: the next request is answered from the file. -/
theorem fetched_table_lost :
    let gateway := oneTableGateway (.whole 1000000000000)
    let state : State Unit Unit := .opened ((), ()) (.whole 1700000000)
    let run := (gateway.schema (.backend .warehouse)).startIn state
    gateway.fetched state .warehouse = .ok (.ofMap oneTable) ∧
      (¬∃ answer, run.1 = .ok answer) ∧
      (¬∃ kept, ((SnapshotStore.keep .warehouse (.ofMap oneTable) state.clock
        gateway.snapshotSeconds).startIn state.snapshots).1 = .ok kept) ∧
      ((gateway.schema (.backend .warehouse)).startIn run.2).1 =
        .ok { tables := .ofMap oneTable, cached := true } := by
  intro gateway state run
  refine ⟨rfl, not_ok_of_toOption (by decide +kernel), not_ok_of_toOption (by decide +kernel), ?_⟩
  have current : run.2.snapshots.current .warehouse run.2.clock = .ok (some oneTable) :=
    eq_ok_of_toOption (by decide +kernel)
  rw [startIn_schema, current]
  rfl

end Gateway

end SqlGateway
