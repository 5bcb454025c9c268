import SqlGateway.Proofs.Snapshot.Moments
import SqlGateway.Snapshot.Store

/-!
# Kept fetches

What a backend has listed at a moment is kept as the text of a snapshot. As long as this
text is read back as the snapshot and both of its moments have texts, the file of a backend
stands for the fetch: while the fetch is fresh its tables are found, later they are not, and
what is told about the file says which of the two is the case.

A fetch is fresh until the moment that the clock makes of its own moment and the lifetime.
This sum is exact for whole seconds, and rounded once for floating-point ones.
-/

namespace SqlGateway

/-- Tables that a backend has listed, and the moment at which it has. -/
structure Fetch where
  /-- The tables by schema. -/
  listing : SchemaListing
  /-- The moment of the fetch. -/
  moment : Seconds

/-- The listing as it is kept: with its names as texts, and a repeated schema only once. -/
def SchemaListing.asKept (listing : SchemaListing) : SchemaListing :=
  match listing.checked with
  | .valid tables => .ofMap tables
  | .invalid _ => listing

instance (first second : Seconds) : Decidable (first.AtMost second) :=
  inferInstanceAs (Decidable (∃ one ∈ first.position, ∃ other ∈ second.position, one ≤ other))

/-- What is not later than a moment is not later than a later one. -/
theorem Seconds.AtMost.trans {first second third : Seconds} (one : first.AtMost second)
    (other : second.AtMost third) : first.AtMost third := by
  obtain ⟨place, lies, middle, between, least⟩ := one
  obtain ⟨same, again, last, ends, most⟩ := other
  cases Option.mem_unique between again
  exact ⟨place, lies, last, ends, least.trans most⟩

/-- Whether a fetch is still used: until its moment and the lifetime together have passed. -/
def Fetch.Fresh (fetch : Fetch) (lifetime now : Seconds) : Prop :=
  ∃ expiry ∈ (fetch.moment.add lifetime).toOption, now.AtMost expiry

instance (fetch : Fetch) (lifetime now : Seconds) : Decidable (fetch.Fresh lifetime now) :=
  inferInstanceAs (Decidable (∃ expiry ∈ (fetch.moment.add lifetime).toOption, now.AtMost expiry))

/-- A fetch can be kept as a snapshot: its names are texts, both moments have texts, and the
    text of the snapshot is read back as the snapshot. -/
structure Fetch.KeptAs (fetch : Fetch) (lifetime : Seconds) (snapshot : Snapshot) : Prop where
  taken : Snapshot.take fetch.listing fetch.moment lifetime = .ok snapshot
  takenDated : snapshot.takenAt.Dated
  expiresDated : snapshot.expiresAt.Dated
  readBack :
    Snapshot.ofText? (.ofList (Text.unifyLineEnds snapshot.text.toList)) = .ok (some snapshot)

/-- A schema map passes the check of a listing as it is. -/
theorem SchemaListing.checked_ofMap (tables : SchemaMap) :
    (SchemaListing.ofMap tables).checked = .valid tables := by
  have passes : ∀ given : List (String × List String),
      Validation.entries.go (Checked.all Validation.text)
        (given.map fun entry => (Value.string entry.1, entry.2.map Value.string)) =
          .valid given := by
    intro given
    induction given with
    | nil => rfl
    | cons entry rest inductionHypothesis =>
      simp only [List.map_cons, Validation.entries.go, inductionHypothesis, Validation.entry,
        Validation.text_string, Checked.all_map Validation.text Value.string Validation.text_string]
      rfl
  rw [checked, ofMap, Validation.entries, passes]
  exact congrArg Checked.valid tables.ofList_toList

/-- A snapshot is taken of the checked tables and of both moments as they are kept. -/
theorem Snapshot.take_eq_ok {listing : SchemaListing} {now lifetime : Seconds} {snapshot : Snapshot}
    (taken : take listing now lifetime = .ok snapshot) :
    listing.checked = .valid snapshot.tables ∧ checkedMoment now = .valid snapshot.takenAt ∧
      ∃ expiry, now.add lifetime = .ok expiry ∧
        checkedMoment expiry = .valid snapshot.expiresAt := by
  cases added : now.add lifetime with
  | error failure =>
    rw [take, added] at taken
    cases taken
  | ok expiry =>
    rw [take, added] at taken
    change Checked.outcome (Snapshot.mk <$> listing.checked.under "data"
      <*> (checkedMoment now).under "cached_at"
      <*> (checkedMoment expiry).under "expires_at") = .ok snapshot at taken
    cases tables : listing.checked <;> cases start : checkedMoment now <;>
      cases last : checkedMoment expiry <;> rw [tables, start, last] at taken <;> cases taken
    exact ⟨rfl, rfl, expiry, rfl, last⟩

namespace Fetch.KeptAs

variable {fetch : Fetch} {lifetime now : Seconds} {snapshot : Snapshot}

/-- The tables of the snapshot are those of the fetch. -/
theorem asKept_eq (kept : fetch.KeptAs lifetime snapshot) :
    fetch.listing.asKept = .ofMap snapshot.tables := by
  rw [SchemaListing.asKept, (Snapshot.take_eq_ok kept.taken).1]

/-- The moment of a kept fetch lies where its snapshot has it. -/
theorem position_moment (kept : fetch.KeptAs lifetime snapshot) :
    fetch.moment.position = (Seconds.real snapshot.takenAt).position :=
  (Snapshot.position_checkedMoment (Snapshot.take_eq_ok kept.taken).2.1 kept.takenDated).trans
    (Binary64.position_of_isFinite kept.takenDated.bounds.1).symm

/-- The moment of a kept fetch is not later than itself. -/
theorem atMost_self (kept : fetch.KeptAs lifetime snapshot) : fetch.moment.AtMost fetch.moment := by
  obtain ⟨_, taken, _⟩ := Snapshot.take_eq_ok kept.taken
  have lies := Snapshot.position_checkedMoment taken kept.takenDated
  exact ⟨_, lies, _, lies, le_refl _⟩

/-- A snapshot is expired exactly if its fetch is no longer fresh. -/
theorem isExpired_iff (kept : fetch.KeptAs lifetime snapshot) (since : fetch.moment.AtMost now) :
    snapshot.isExpired now = true ↔ ¬ fetch.Fresh lifetime now := by
  obtain ⟨_, _, expiry, added, expires⟩ := Snapshot.take_eq_ok kept.taken
  have lies := Snapshot.position_checkedMoment expires kept.expiresDated
  obtain ⟨_, _, place, nowLies, _⟩ := since
  rw [Snapshot.isExpired, Seconds.isAfter_iff kept.expiresDated.bounds.1, Fetch.Fresh, added]
  simp only [Except.toOption, Seconds.AtMost, Option.mem_def, lies, Option.some.injEq,
    exists_eq_left', Option.mem_def.mp nowLies, not_le]

/-- The snapshot of a fresh fetch is not expired, and it has an age. -/
theorem of_fresh (kept : fetch.KeptAs lifetime snapshot) (since : fetch.moment.AtMost now)
    (fresh : fetch.Fresh lifetime now) :
    snapshot.isExpired now = false ∧ ∃ age, snapshot.age now = .ok age := by
  have unexpired : snapshot.isExpired now = false := by
    simpa only [fresh, not_true, iff_false, Bool.not_eq_true] using kept.isExpired_iff since
  have taken : (Seconds.real snapshot.takenAt).AtMost now := by
    rwa [Seconds.AtMost, ← kept.position_moment]
  exact ⟨unexpired, Snapshot.exists_age taken kept.takenDated kept.expiresDated unexpired⟩

/-- What is found in the snapshot of a fetch: its tables while it is fresh, and then nothing. -/
theorem current_eq (kept : fetch.KeptAs lifetime snapshot) (since : fetch.moment.AtMost now) :
    snapshot.current now =
      .ok (if fetch.Fresh lifetime now then some snapshot.tables else none) := by
  by_cases fresh : fetch.Fresh lifetime now
  · obtain ⟨unexpired, age, told⟩ := kept.of_fresh since fresh
    rw [Snapshot.current, unexpired, if_pos fresh, if_neg Bool.false_ne_true, told]
    rfl
  · obtain ⟨text, told⟩ := kept.takenDated
    rw [Snapshot.current, (kept.isExpired_iff since).mpr fresh, if_neg fresh, if_pos rfl, told]
    rfl

end Fetch.KeptAs

/-- The fetch that is used of the latest ones, if it still is. -/
def Fetch.used? (latest : Option Fetch) (lifetime now : Seconds) : Option Fetch :=
  latest.filter fun fetch => fetch.Fresh lifetime now

namespace SnapshotStore

/-- What is at the place of a backend: nothing if there is no fetch, or the file of one. -/
inductive PlaceOf (lifetime now : Seconds) : Option Fetch → SnapshotPlace → Prop
  | absent : PlaceOf lifetime now none .absent
  | file {fetch : Fetch} {snapshot : Snapshot} (kept : fetch.KeptAs lifetime snapshot)
      (since : fetch.moment.AtMost now) :
      PlaceOf lifetime now (some fetch) (.file snapshot.text)

/-- A store holds the latest fetches, and nothing else. -/
structure Holds (store : SnapshotStore) (latest : Backend → Option Fetch)
    (lifetime now : Seconds) : Prop where
  unblocked : store.blocked = false
  places : ∀ backend, PlaceOf lifetime now (latest backend) (store.place backend)

/-- The store without the file of a backend. -/
def cleared (store : SnapshotStore) (backend : Backend) : SnapshotStore :=
  if (store.text? backend).isSome then store.put backend .absent else store

/-- Clearing removes the file of a backend, and tells whether there was one. -/
theorem startIn_clear (store : SnapshotStore) (backend : Backend) :
    (clear backend).startIn store = (.ok (store.text? backend).isSome, store.cleared backend) := by
  have read : (get : Run SnapshotStore SnapshotStore).startIn store = (.ok store, store) := rfl
  rw [clear, Run.startIn_bind_of_ok read, cleared]
  cases store.text? backend <;> rfl

/-- Keeping tables takes a snapshot and, where a file can be written, writes it. -/
theorem startIn_keep (store : SnapshotStore) (backend : Backend) (listing : SchemaListing)
    (now lifetime : Seconds) :
    (keep backend listing now lifetime).startIn store =
      match Snapshot.take listing now lifetime with
      | .error failure => (.error failure, store)
      | .ok snapshot =>
          if store.isWritable backend then
            ((Timestamp.text snapshot.expiresAt).map fun _ => (),
              store.put backend (.file snapshot.text))
          else (.ok (), store) := by
  have taken : (Run.ofOutcome (Snapshot.take listing now lifetime)).startIn store =
      (Snapshot.take listing now lifetime, store) := rfl
  have read : (get : Run SnapshotStore SnapshotStore).startIn store = (.ok store, store) := rfl
  cases outcome : Snapshot.take listing now lifetime with
  | error failure =>
    rw [outcome] at taken
    rw [keep, outcome, Run.startIn_bind_of_error taken]
  | ok snapshot =>
    rw [outcome] at taken
    rw [keep, outcome, Run.startIn_bind_of_ok taken, Run.startIn_bind_of_ok read]
    dsimp only
    split
    · cases Timestamp.text snapshot.expiresAt <;> rfl
    · rfl

namespace Holds

variable {store : SnapshotStore} {latest : Backend → Option Fetch} {lifetime now : Seconds}

/-- A file can be written for every backend. -/
theorem isWritable (holds : store.Holds latest lifetime now) (backend : Backend) :
    store.isWritable backend = true := by
  rw [SnapshotStore.isWritable, holds.unblocked]
  cases place : store.place backend with
  | absent | file => rfl
  | taken =>
    have impossible := holds.places backend
    rw [place] at impossible
    generalize latest backend = fetched at impossible
    cases impossible

/-- A backend has a file exactly if it has a fetch. -/
theorem isSome_text? (holds : store.Holds latest lifetime now) (backend : Backend) :
    (store.text? backend).isSome = (latest backend).isSome := by
  rw [text?, visible, holds.unblocked, if_neg Bool.false_ne_true]
  have there := holds.places backend
  generalize latest backend = fetched, store.place backend = place at there
  cases there <;> rfl

/-- The snapshot of a backend without a fetch is not found. -/
theorem snapshot?_of_none (holds : store.Holds latest lifetime now) {backend : Backend}
    (nothing : latest backend = none) : store.snapshot? backend = .ok none := by
  have absent := holds.isSome_text? backend
  rw [nothing, Option.isSome_none, Option.isSome_eq_false_iff, Option.isNone_iff_eq_none] at absent
  rw [snapshot?, absent]

/-- The snapshot of a backend with a fetch is found. -/
theorem snapshot?_of_some (holds : store.Holds latest lifetime now) {backend : Backend}
    {fetch : Fetch} (fetched : latest backend = some fetch) :
    ∃ snapshot, fetch.KeptAs lifetime snapshot ∧ fetch.moment.AtMost now ∧
      store.snapshot? backend = .ok (some snapshot) := by
  have there := holds.places backend
  rw [fetched] at there
  generalize place : store.place backend = found at there
  cases there with
  | file kept since =>
    refine ⟨_, kept, since, ?_⟩
    rw [snapshot?, text?, visible, holds.unblocked, if_neg Bool.false_ne_true, place]
    exact kept.readBack

/-- The tables of a backend are found while it has a fetch that is used. -/
theorem current_cases (holds : store.Holds latest lifetime now) (backend : Backend) :
    (∃ fetch tables, Fetch.used? (latest backend) lifetime now = some fetch ∧
        store.current backend now = .ok (some tables) ∧ fetch.listing.asKept = .ofMap tables) ∨
      (Fetch.used? (latest backend) lifetime now = none ∧
        store.current backend now = .ok none) := by
  cases fetched : latest backend with
  | none =>
    refine Or.inr ⟨rfl, ?_⟩
    rw [current, holds.snapshot?_of_none fetched]
    rfl
  | some fetch =>
    obtain ⟨snapshot, kept, since, found⟩ := holds.snapshot?_of_some fetched
    have read : store.current backend now = snapshot.current now := by
      rw [current, found]
      rfl
    rw [read, kept.current_eq since, Fetch.used?]
    by_cases fresh : fetch.Fresh lifetime now
    · exact Or.inl ⟨fetch, snapshot.tables, by simp [fresh], by rw [if_pos fresh], kept.asKept_eq⟩
    · exact Or.inr ⟨by simp [fresh], by rw [if_neg fresh]⟩

/-- Time that passes leaves the files as they are. -/
theorem later (holds : store.Holds latest lifetime now) {next : Seconds}
    (advances : now.AtMost next) : store.Holds latest lifetime next := by
  refine ⟨holds.unblocked, fun backend => ?_⟩
  have there := holds.places backend
  generalize latest backend = fetched, store.place backend = place at there ⊢
  cases there with
  | absent => exact .absent
  | file kept since => exact .file kept (since.trans advances)

/-- A file that is written holds the fetch of its backend. -/
theorem put (holds : store.Holds latest lifetime now) (backend : Backend) {fetched : Option Fetch}
    {place : SnapshotPlace} (there : PlaceOf lifetime now fetched place) :
    (store.put backend place).Holds (Function.update latest backend fetched) lifetime now := by
  refine ⟨holds.unblocked, fun other => ?_⟩
  by_cases same : other = backend
  · subst same
    simpa [SnapshotStore.put] using there
  · simpa [SnapshotStore.put, same] using holds.places other

/-- Keeping a fetch of now writes its file. -/
theorem startIn_keep (holds : store.Holds latest lifetime now) (backend : Backend)
    {listing : SchemaListing} {snapshot : Snapshot}
    (kept : Fetch.KeptAs { listing, moment := now } lifetime snapshot) :
    (keep backend listing now lifetime).startIn store =
      (.ok (), store.put backend (.file snapshot.text)) := by
  obtain ⟨text, told⟩ := kept.expiresDated
  rw [SnapshotStore.startIn_keep, kept.taken]
  dsimp only
  rw [if_pos (holds.isWritable backend), told]
  rfl

/-- Without the file of a backend nothing of its fetch is left. -/
theorem cleared (holds : store.Holds latest lifetime now) (backend : Backend) :
    (store.cleared backend).Holds (Function.update latest backend none) lifetime now := by
  have there := holds.isSome_text? backend
  cases fetched : latest backend with
  | none =>
    rw [fetched, Option.isSome_none] at there
    rwa [SnapshotStore.cleared, there, if_neg Bool.false_ne_true, ← fetched,
      Function.update_eq_self]
  | some fetch =>
    rw [fetched, Option.isSome_some] at there
    rw [SnapshotStore.cleared, there, if_pos rfl]
    exact holds.put backend .absent

end Holds

end SnapshotStore

end SqlGateway
