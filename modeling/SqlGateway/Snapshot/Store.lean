import SqlGateway.Run
import SqlGateway.Snapshot
import SqlGateway.Source

/-!
# The store of snapshots

One snapshot is kept for each backend, as a file of its name in one directory. A file
that is no snapshot counts as absent, and a place that cannot be written is left alone.
-/

namespace SqlGateway

/-- What is at the place of a snapshot. -/
inductive SnapshotPlace where
  | absent
  /-- A file with a text. -/
  | file (text : String)
  /-- Something else, which is neither read nor replaced. -/
  | taken
  deriving DecidableEq, Repr

/-- The places of the snapshots. -/
structure SnapshotStore where
  /-- Whether there is no directory for files, nor room for one. -/
  blocked : Bool
  /-- What is at the place of a backend's snapshot. -/
  place : Backend → SnapshotPlace

namespace SnapshotStore

/-- The store without files. -/
def empty : SnapshotStore := { blocked := false, place := fun _ => .absent }

instance : Inhabited SnapshotStore := ⟨empty⟩

/-- What can be read at the place of a backend's snapshot. -/
def visible (store : SnapshotStore) (backend : Backend) : SnapshotPlace :=
  if store.blocked then .absent else store.place backend

/-- The store with another thing at one place. -/
def put (store : SnapshotStore) (backend : Backend) (place : SnapshotPlace) : SnapshotStore :=
  { store with place := fun other => if other = backend then place else store.place other }

/-- The text of the file of a backend as it is read, if there is one. -/
def text? (store : SnapshotStore) (backend : Backend) : Option String :=
  match store.visible backend with
  | .file text => some (.ofList (Text.unifyLineEnds text.toList))
  | .absent | .taken => none

/-- The kept snapshot of a backend. -/
def snapshot? (store : SnapshotStore) (backend : Backend) : Outcome (Option Snapshot) :=
  match store.text? backend with
  | none => .ok none
  | some text => Snapshot.ofText? text

/-- Whether a file can be written at the place of a backend's snapshot. -/
def isWritable (store : SnapshotStore) (backend : Backend) : Bool :=
  !store.blocked && store.place backend != .taken

/-- The schema map of a backend that is kept and has not expired. -/
def current (store : SnapshotStore) (backend : Backend) (now : Seconds) :
    Outcome (Option SchemaMap) := do
  match ← store.snapshot? backend with
  | none => return none
  | some snapshot => snapshot.current now

/-- What is told about the kept snapshot of a backend, if there is one. -/
def info (store : SnapshotStore) (backend : Backend) (now : Seconds) :
    Outcome (Option SnapshotInfo) := do
  match ← store.snapshot? backend with
  | none => return none
  | some snapshot => some <$> snapshot.info now

/-- Keeps the tables of a backend for some seconds from now on, if a file can be written.
    When the snapshot expires is noted after the file was written, so it has to have a
    text. -/
def keep (backend : Backend) (listing : SchemaListing) (now lifetime : Seconds) :
    Run SnapshotStore Unit := do
  let snapshot ← Run.ofOutcome (Snapshot.take listing now lifetime)
  if (← get).isWritable backend then
    modify fun store => store.put backend (.file snapshot.text)
    let _ ← Run.ofOutcome (Timestamp.text snapshot.expiresAt)

/-- Removes the file of a backend, and tells whether there was one. -/
def clear (backend : Backend) : Run SnapshotStore Bool := do
  let store ← get
  match store.text? backend with
  | none => return false
  | some _ =>
      set (store.put backend .absent)
      return true

/-- Writing at one place leaves the other ones as they are. -/
theorem visible_put_of_ne (store : SnapshotStore) (backend other : Backend)
    (place : SnapshotPlace) (different : other ≠ backend) :
    (store.put backend place).visible other = store.visible other := by
  simp [visible, put, different]

end SnapshotStore

end SqlGateway
