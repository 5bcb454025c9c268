import SqlGateway.Proofs.Gateway.Calls
import SqlGateway.Proofs.Snapshot.Keeping

/-!
# The ledger of fetches

A gateway that is asked for schema maps, and told to clear its snapshots, again and again
while its clock goes on, answers as a ledger does that knows of each backend the latest
fetch which succeeded and was not cleared since.

The gateway starts without snapshots. What is fetched has to be such that it can be kept,
and the clock must not go back; the backends are any computations on states of their own.
-/

namespace SqlGateway

/-- What a gateway is asked about schema maps, or that happens meanwhile. -/
inductive SchemaRequest where
  /-- The tables of a source, fresh ones if wanted. -/
  | tables (source : Source) (refresh : Bool)
  /-- The snapshots of a source, or of both backends, are to be removed. -/
  | clear (source : Option Source)
  /-- The clock goes on to a moment. -/
  | advance (now : Seconds)

/-- What a request is answered. -/
inductive SchemaReply where
  | tables (outcome : Outcome SchemaAnswer)
  | cleared (outcome : Outcome (List (Source × Bool)))
  | advanced

namespace Gateway

variable {α β : Type}

/-- The reply to a request, and the state after it. -/
def serve (gateway : Gateway α β) (state : State α β) :
    SchemaRequest → SchemaReply × State α β
  | .tables source refresh =>
      let served := (gateway.schema source refresh).startIn state
      (.tables served.1, served.2)
  | .clear source =>
      let served := (clearSnapshots source).startIn state
      (.cleared served.1, served.2)
  | .advance now => (.advanced, { state with clock := now })

/-- The replies to requests one after another, and the state after them. -/
def serveAll (gateway : Gateway α β) (state : State α β) :
    List SchemaRequest → List (SchemaRequest × SchemaReply) × State α β
  | [] => ([], state)
  | request :: rest =>
      let served := gateway.serve state request
      let others := gateway.serveAll served.2 rest
      ((request, served.1) :: others.1, others.2)

end Gateway

/-- What is known of the schema maps. -/
structure Ledger (α β : Type) where
  /-- The backends. -/
  backends : α × β
  /-- The moment that the clock shows. -/
  clock : Seconds
  /-- The latest fetch of each backend that succeeded and was not cleared since. -/
  latest : Backend → Option Fetch

namespace Ledger

variable {α β : Type}

/-- The fetch from which a backend's tables are answered, if there is one. -/
def used? (ledger : Ledger α β) (gateway : Gateway α β) (backend : Backend) : Option Fetch :=
  Fetch.used? (ledger.latest backend) gateway.snapshotSeconds ledger.clock

/-- What a backend lists now, and the backends after that. -/
def listed (ledger : Ledger α β) (gateway : Gateway α β) (backend : Backend) :
    Outcome SchemaListing × (α × β) :=
  (gateway.federation.onBackend (fun connector => connector.schemaMap) backend).startIn
    ledger.backends

/-- The tables of a backend as it lists them now. A fetch that succeeds is the latest one;
    one that fails for reasons of the backend shows no tables. -/
def fetch (ledger : Ledger α β) (gateway : Gateway α β) (backend : Backend) :
    Outcome SchemaAnswer × Ledger α β :=
  let listed := ledger.listed gateway backend
  match listed.1 with
  | .ok listing =>
      (.ok { tables := listing, cached := false },
        { ledger with
          backends := listed.2
          latest :=
            Function.update ledger.latest backend (some { listing, moment := ledger.clock }) })
  | .error failure =>
      (if failure.isA .connector then .ok { tables := [], cached := false } else .error failure,
        { ledger with backends := listed.2 })

/-- The tables of a backend: those of the fetch that is used, unless fresh ones are wanted. -/
def tables (ledger : Ledger α β) (gateway : Gateway α β) (backend : Backend) (refresh : Bool) :
    Outcome SchemaAnswer × Ledger α β :=
  match if refresh then none else ledger.used? gateway backend with
  | some fetch => (.ok { tables := fetch.listing.asKept, cached := true }, ledger)
  | none => ledger.fetch gateway backend

/-- The reply to a request, and the ledger after it. -/
def serve (ledger : Ledger α β) (gateway : Gateway α β) :
    SchemaRequest → SchemaReply × Ledger α β
  | .tables source refresh =>
      match if refresh then Gateway.backendOf source else Gateway.snapshotOf source with
      | .ok backend =>
          let served := ledger.tables gateway backend refresh
          (.tables served.1, served.2)
      | .error failure => (.tables (.error failure), ledger)
  | .clear none =>
      (.cleared (.ok (Backend.all.map fun backend =>
          (.backend backend, (ledger.latest backend).isSome))),
        { ledger with latest := fun _ => none })
  | .clear (some source) =>
      match Gateway.snapshotOf source with
      | .ok backend =>
          (.cleared (.ok [(source, (ledger.latest backend).isSome)]),
            { ledger with latest := Function.update ledger.latest backend none })
      | .error failure => (.cleared (.error failure), ledger)
  | .advance now => (.advanced, { ledger with clock := now })

/-- The replies to requests one after another, and the ledger after them. -/
def serveAll (ledger : Ledger α β) (gateway : Gateway α β) :
    List SchemaRequest → List (SchemaRequest × SchemaReply) × Ledger α β
  | [] => ([], ledger)
  | request :: rest =>
      let served := ledger.serve gateway request
      let others := served.2.serveAll gateway rest
      ((request, served.1) :: others.1, others.2)

/-- What a request needs: the clock does not go back, and what is fetched can be kept. -/
def Permits (ledger : Ledger α β) (gateway : Gateway α β) : SchemaRequest → Prop
  | .tables source refresh =>
      ∀ backend, source = .backend backend →
        (refresh = true ∨ ledger.used? gateway backend = none) →
        ∀ listing, (ledger.listed gateway backend).1 = .ok listing →
          ∃ snapshot, Fetch.KeptAs { listing, moment := ledger.clock } gateway.snapshotSeconds
            snapshot
  | .clear _ => True
  | .advance now => ledger.clock.AtMost now

/-- Whether each of the requests in a row has what it needs. -/
def PermitsAll (ledger : Ledger α β) (gateway : Gateway α β) : List SchemaRequest → Prop
  | [] => True
  | request :: rest =>
      ledger.Permits gateway request ∧ (ledger.serve gateway request).2.PermitsAll gateway rest

end Ledger

namespace Gateway

variable {α β : Type}

/-- A gateway's state agrees with a ledger. -/
structure State.Agrees (state : State α β) (gateway : Gateway α β) (ledger : Ledger α β) :
    Prop where
  backends : state.backends = ledger.backends
  clock : state.clock = ledger.clock
  holds : state.snapshots.Holds ledger.latest gateway.snapshotSeconds ledger.clock

/-- What a gateway does with one source's tables. -/
theorem startIn_schema (gateway : Gateway α β) (backend : Backend) (refresh : Bool)
    (state : State α β) :
    (gateway.schema (.backend backend) refresh).startIn state =
      match if refresh then .ok none else state.snapshots.current backend state.clock with
      | .ok (some tables) => (.ok { tables := .ofMap tables, cached := true }, state)
      | .ok none => (gateway.fetchSchema backend).startIn state
      | .error failure => (.error failure, state) := by
  cases refresh with
  | true => rfl
  | false =>
    have meant : (Run.ofOutcome (snapshotOf (.backend backend)) : Run (State α β) _).startIn state =
        (.ok backend, state) := rfl
    have read : (get : Run (State α β) _).startIn state = (.ok state, state) := rfl
    have looked : (Run.ofOutcome (state.snapshots.current backend state.clock) :
        Run (State α β) _).startIn state =
          (state.snapshots.current backend state.clock, state) := rfl
    rw [if_neg Bool.false_ne_true, schema, if_neg Bool.false_ne_true,
      Run.startIn_bind_of_ok meant, Run.startIn_bind_of_ok read]
    cases found : state.snapshots.current backend state.clock with
    | error failure =>
      rw [found] at looked
      exact Run.startIn_bind_of_error looked
    | ok kept =>
      rw [found] at looked
      rw [Run.startIn_bind_of_ok looked]
      cases kept with
      | none => rfl
      | some tables => rfl

/-- What a gateway does to fetch one backend's tables. -/
theorem startIn_fetchSchema (gateway : Gateway α β) (backend : Backend) (state : State α β) :
    (gateway.fetchSchema backend).startIn state =
      let listed := (gateway.federation.onBackend (fun connector => connector.schemaMap)
        backend).startIn state.backends
      match listed.1 with
      | .ok listing =>
          let kept := (SnapshotStore.keep backend listing state.clock
            gateway.snapshotSeconds).startIn state.snapshots
          (kept.1.map fun _ => { tables := listing, cached := false },
            { state with backends := listed.2, snapshots := kept.2 })
      | .error failure =>
          (if failure.isA .connector then .ok { tables := [], cached := false } else .error failure,
            { state with backends := listed.2 }) := by
  have asked : (onBackends (gateway.federation.onBackend (fun connector => connector.schemaMap)
      backend)).attempt.startIn state =
        (.ok ((gateway.federation.onBackend (fun connector => connector.schemaMap)
          backend).startIn state.backends).1,
        { state with backends := ((gateway.federation.onBackend
          (fun connector => connector.schemaMap) backend).startIn state.backends).2 }) := rfl
  rw [fetchSchema, Run.startIn_bind_of_ok asked]
  dsimp only
  generalize (gateway.federation.onBackend (fun connector => connector.schemaMap)
    backend).startIn state.backends = listed
  cases listed.1 with
  | error failure =>
    dsimp only
    split <;> rfl
  | ok listing =>
    dsimp only
    have read : (get : Run (State α β) _).startIn { state with backends := listed.2 } =
      (.ok { state with backends := listed.2 }, { state with backends := listed.2 }) := rfl
    have keeps : (onSnapshots (SnapshotStore.keep backend listing state.clock
        gateway.snapshotSeconds)).startIn { state with backends := listed.2 } =
          (((SnapshotStore.keep backend listing state.clock gateway.snapshotSeconds).startIn
            state.snapshots).1,
          { state with
            backends := listed.2
            snapshots := ((SnapshotStore.keep backend listing state.clock
              gateway.snapshotSeconds).startIn state.snapshots).2 }) := rfl
    rw [Run.startIn_bind_of_ok read]
    dsimp only
    generalize (SnapshotStore.keep backend listing state.clock gateway.snapshotSeconds).startIn
      state.snapshots = kept at keeps ⊢
    obtain ⟨outcome, store⟩ := kept
    cases outcome with
    | error failure => exact Run.startIn_bind_of_error keeps
    | ok _ => rw [Run.startIn_bind_of_ok keeps]; rfl

/-- The state without the snapshot of a backend. -/
def State.cleared (state : State α β) (backend : Backend) : State α β :=
  { state with snapshots := state.snapshots.cleared backend }

/-- Whether there is a snapshot of a backend. -/
def State.hasSnapshot (state : State α β) (backend : Backend) : Bool :=
  (state.snapshots.text? backend).isSome

/-- Clearing the snapshot of one source among others. -/
theorem startIn_clearOne (backend : Backend) (state : State α β) :
    (do
      let found ← Run.ofOutcome (snapshotOf (.backend backend))
      return (Source.backend backend, ← onSnapshots (SnapshotStore.clear found)) :
        Run (State α β) _).startIn state =
      (.ok (.backend backend, state.hasSnapshot backend), state.cleared backend) := by
  have meant : (Run.ofOutcome (snapshotOf (.backend backend)) : Run (State α β) _).startIn state =
      (.ok backend, state) := rfl
  have clears : (onSnapshots (SnapshotStore.clear backend)).startIn state =
      (.ok (state.hasSnapshot backend), state.cleared backend) := by
    show (((SnapshotStore.clear backend).startIn state.snapshots).1,
      { state with snapshots := ((SnapshotStore.clear backend).startIn state.snapshots).2 }) = _
    rw [SnapshotStore.startIn_clear]
    rfl
  rw [Run.startIn_bind_of_ok meant, Run.startIn_bind_of_ok clears]
  rfl

/-- Clearing the snapshot of one source removes the file of its backend. -/
theorem startIn_clearSnapshots_some (backend : Backend) (state : State α β) :
    (clearSnapshots (some (.backend backend))).startIn state =
      (.ok [(.backend backend, state.hasSnapshot backend)], state.cleared backend) := by
  rw [clearSnapshots, meant, List.mapM_cons,
    Run.startIn_bind_of_ok (startIn_clearOne backend state)]
  rfl

/-- Clearing all snapshots removes the files of both backends one after the other. -/
theorem startIn_clearSnapshots_none (state : State α β) :
    (clearSnapshots none).startIn state =
      (.ok [(.backend .warehouse, state.hasSnapshot .warehouse),
          (.backend .transactional, (state.cleared .warehouse).hasSnapshot .transactional)],
        (state.cleared .warehouse).cleared .transactional) := by
  have second := startIn_clearSnapshots_some .transactional (state.cleared .warehouse)
  rw [clearSnapshots, meant] at second
  rw [clearSnapshots, meant, Backend.all, List.map_cons, List.map_cons, List.map_nil,
    List.mapM_cons, Run.startIn_bind_of_ok (startIn_clearOne .warehouse state),
    Run.startIn_bind_of_ok second]
  rfl

namespace State.Agrees

variable {gateway : Gateway α β} {state : State α β} {ledger : Ledger α β}

/-- A fetch that can be kept is answered and kept as the ledger has it. -/
theorem fetchSchema (agrees : state.Agrees gateway ledger) (backend : Backend)
    (keepable : ∀ listing, (ledger.listed gateway backend).1 = .ok listing →
      ∃ snapshot, Fetch.KeptAs { listing, moment := ledger.clock } gateway.snapshotSeconds
        snapshot) :
    ((gateway.fetchSchema backend).startIn state).1 = (ledger.fetch gateway backend).1 ∧
      ((gateway.fetchSchema backend).startIn state).2.Agrees gateway
        (ledger.fetch gateway backend).2 := by
  obtain ⟨sameBackends, sameClock, holds⟩ := agrees
  rw [startIn_fetchSchema, Ledger.fetch, sameBackends, sameClock]
  change ∀ listing, (ledger.listed gateway backend).1 = .ok listing → _ at keepable
  rw [Ledger.listed] at keepable ⊢
  generalize (gateway.federation.onBackend (fun connector => connector.schemaMap)
    backend).startIn ledger.backends = listed at keepable ⊢
  obtain ⟨outcome, after⟩ := listed
  cases outcome with
  | error failure => exact ⟨rfl, rfl, rfl, holds⟩
  | ok listing =>
    obtain ⟨snapshot, kept⟩ := keepable listing rfl
    dsimp only
    rw [holds.startIn_keep backend kept]
    exact ⟨rfl, rfl, rfl, holds.put backend (.file kept kept.atMost_self)⟩

/-- The tables of a backend are answered as the ledger has them. -/
theorem tables (agrees : state.Agrees gateway ledger) (backend : Backend) (refresh : Bool)
    (permitted : ledger.Permits gateway (.tables (.backend backend) refresh)) :
    ((gateway.schema (.backend backend) refresh).startIn state).1 =
        (ledger.tables gateway backend refresh).1 ∧
      ((gateway.schema (.backend backend) refresh).startIn state).2.Agrees gateway
        (ledger.tables gateway backend refresh).2 := by
  have keepable := permitted backend rfl
  rw [startIn_schema, Ledger.tables]
  cases refresh with
  | true => exact agrees.fetchSchema backend (keepable (Or.inl rfl))
  | false =>
    rw [if_neg Bool.false_ne_true, if_neg Bool.false_ne_true]
    obtain ⟨fetch, tables, used, found, same⟩ | ⟨unused, found⟩ :=
      agrees.holds.current_cases backend
    · rw [← agrees.clock] at found
      rw [Ledger.used?, used, found]
      dsimp only
      exact ⟨by rw [same], agrees⟩
    · rw [← agrees.clock] at found
      rw [Ledger.used?, unused, found]
      exact agrees.fetchSchema backend (keepable (Or.inr unused))

/-- A snapshot that is cleared is no longer in the ledger. -/
theorem cleared (agrees : state.Agrees gateway ledger) (backend : Backend) :
    (state.cleared backend).Agrees gateway
      { ledger with latest := Function.update ledger.latest backend none } :=
  ⟨agrees.backends, agrees.clock, agrees.holds.cleared backend⟩

/-- There is a snapshot of a backend exactly if there is a fetch. -/
theorem hasSnapshot (agrees : state.Agrees gateway ledger) (backend : Backend) :
    state.hasSnapshot backend = (ledger.latest backend).isSome :=
  agrees.holds.isSome_text? backend

/-- One step: a request is replied to as the ledger has it, and the state agrees with the
    ledger after it. -/
theorem serve (agrees : state.Agrees gateway ledger) (request : SchemaRequest)
    (permitted : ledger.Permits gateway request) :
    (gateway.serve state request).1 = (ledger.serve gateway request).1 ∧
      (gateway.serve state request).2.Agrees gateway (ledger.serve gateway request).2 := by
  cases request with
  | tables source refresh =>
    cases source with
    | backend backend =>
      obtain ⟨reply, after⟩ := agrees.tables backend refresh permitted
      have served : ledger.serve gateway (.tables (.backend backend) refresh) =
          (.tables (ledger.tables gateway backend refresh).1,
            (ledger.tables gateway backend refresh).2) := by
        cases refresh <;> rfl
      rw [served]
      exact ⟨congrArg SchemaReply.tables reply, after⟩
    | cross =>
      cases refresh with
      | false => exact ⟨rfl, agrees⟩
      | true => exact ⟨rfl, agrees⟩
  | clear source =>
    cases source with
    | none =>
      have warehouse := agrees.cleared .warehouse
      have both := warehouse.cleared .transactional
      have nothing : Function.update (Function.update ledger.latest .warehouse none)
          .transactional none = fun _ => none := by
        funext backend
        cases backend <;> rfl
      have holds := both.holds
      dsimp only at holds
      rw [nothing] at holds
      rw [Gateway.serve, startIn_clearSnapshots_none, agrees.hasSnapshot, warehouse.hasSnapshot]
      exact ⟨rfl, both.backends, both.clock, holds⟩
    | some source =>
      cases source with
      | backend backend =>
        rw [Gateway.serve, startIn_clearSnapshots_some, agrees.hasSnapshot]
        exact ⟨rfl, agrees.cleared backend⟩
      | cross => exact ⟨rfl, agrees⟩
  | advance now => exact ⟨rfl, agrees.backends, rfl, agrees.holds.later permitted⟩

/-- A run: requests one after another are replied to as the ledger has it, and the state
    agrees with the ledger after them. -/
theorem serveAll (agrees : state.Agrees gateway ledger) (requests : List SchemaRequest)
    (permitted : ledger.PermitsAll gateway requests) :
    (gateway.serveAll state requests).1 = (ledger.serveAll gateway requests).1 ∧
      (gateway.serveAll state requests).2.Agrees gateway (ledger.serveAll gateway requests).2 := by
  induction requests generalizing state ledger with
  | nil => exact ⟨rfl, agrees⟩
  | cons request rest inductionHypothesis =>
    obtain ⟨permitted, others⟩ := permitted
    obtain ⟨reply, after⟩ := agrees.serve request permitted
    obtain ⟨replies, last⟩ := inductionHypothesis after others
    rw [Gateway.serveAll, Ledger.serveAll]
    exact ⟨by rw [reply, replies], last⟩

end State.Agrees

end Gateway

end SqlGateway
