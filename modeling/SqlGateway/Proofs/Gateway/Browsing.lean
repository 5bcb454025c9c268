import SqlGateway.Proofs.Gateway.Schemas
import SqlGateway.Proofs.Transactional.Listing
import SqlGateway.Proofs.Warehouse.Conduct
import SqlGateway.Proofs.Warehouse.Listing

/-!
# Browsing the schema maps of both backends

A gateway answers for tables that it has fetched and can keep, and shows no tables of a backend
whose fetch has failed in the connectors' family. Nothing else is answered: any other failure
of a fetch reaches the caller, and so does a failure to keep what was fetched. Since the maps
of both backends are answered together or not at all, such a failure takes the map of the
other backend away as well.

Which failures are of the family is decided by the connectors. Answers that come from a
snapshot are not looked at here; they ask no backend.
-/

namespace SqlGateway

/-- Tables can be kept at the place of a backend's snapshot for some seconds from now on. -/
structure SnapshotStore.Keeps (store : SnapshotStore) (backend : Backend) (listing : SchemaListing)
    (now lifetime : Seconds) : Prop where
  /-- Every name is a text. -/
  named : ∃ tables, listing.checked = .valid tables
  /-- Both moments are numbers, and the latter has a text where a file is written. -/
  timed : ∃ expiry takenAt expiresAt, now.add lifetime = .ok expiry ∧
    Snapshot.checkedMoment now = .valid takenAt ∧
    Snapshot.checkedMoment expiry = .valid expiresAt ∧
    (store.isWritable backend = true → ∃ text, Timestamp.text expiresAt = .ok text)

/-- A snapshot can be taken of checked tables at checked moments. -/
theorem Snapshot.take_of_checked {listing : SchemaListing} {now lifetime expiry : Seconds}
    {snapshot : Snapshot} (named : listing.checked = .valid snapshot.tables)
    (added : now.add lifetime = .ok expiry)
    (starts : checkedMoment now = .valid snapshot.takenAt)
    (ends : checkedMoment expiry = .valid snapshot.expiresAt) :
    take listing now lifetime = .ok snapshot := by
  rw [take, added]
  change Checked.outcome (Snapshot.mk <$> listing.checked.under "data"
    <*> (checkedMoment now).under "cached_at"
    <*> (checkedMoment expiry).under "expires_at") = .ok snapshot
  rw [named, starts, ends]
  rfl

/-- Keeping tables succeeds exactly if they can be kept. -/
theorem SnapshotStore.keeps_iff (store : SnapshotStore) (backend : Backend)
    (listing : SchemaListing) (now lifetime : Seconds) :
    ((keep backend listing now lifetime).startIn store).1 = .ok () ↔
      store.Keeps backend listing now lifetime := by
  rw [startIn_keep]
  constructor
  · intro keeps
    cases taken : Snapshot.take listing now lifetime with
    | error failure =>
      rw [taken] at keeps
      cases keeps
    | ok snapshot =>
      rw [taken] at keeps
      obtain ⟨named, starts, expiry, added, ends⟩ := Snapshot.take_eq_ok taken
      refine ⟨⟨_, named⟩, expiry, _, _, added, starts, ends, ?_⟩
      intro writable
      dsimp only at keeps
      rw [if_pos writable] at keeps
      cases told : Timestamp.text snapshot.expiresAt with
      | error failure =>
        rw [told] at keeps
        cases keeps
      | ok text => exact ⟨text, rfl⟩
  · rintro ⟨⟨tables, named⟩, expiry, takenAt, expiresAt, added, starts, ends, told⟩
    have taken : Snapshot.take listing now lifetime = .ok { tables, takenAt, expiresAt } :=
      Snapshot.take_of_checked named added starts ends
    rw [taken]
    dsimp only
    split
    · next writable =>
      obtain ⟨text, isText⟩ := told writable
      rw [isText]
      rfl
    · rfl

/-- The schema map of one backend among those of both. -/
def UnifiedSchema.of (unified : UnifiedSchema) : Backend → SourceSchema
  | .warehouse => unified.warehouse
  | .transactional => unified.transactional

namespace Gateway

variable {α β : Type}

/-- What the connector of a backend lists. -/
def fetched (gateway : Gateway α β) (state : State α β) (backend : Backend) :
    Outcome SchemaListing :=
  ((gateway.federation.onBackend (fun connector => connector.schemaMap) backend).startIn
    state.backends).1

/-- The tables of a backend are fetched: fresh ones are wanted, or none are kept. -/
def State.Fetches (state : State α β) (backend : Backend) (refresh : Bool) : Prop :=
  refresh = true ∨ state.snapshots.current backend state.clock = .ok none

/-- How the tables of a backend are answered that are fetched. -/
structure Browses (gateway : Gateway α β) (state : State α β) (backend : Backend)
    (refresh : Bool) : Prop where
  /-- An answer has the fetched tables, which are kept, or no tables, if the fetch fails with
      a fault of the connectors' family. There is no other answer. -/
  answered : ∀ answer, ((gateway.schema (.backend backend) refresh).startIn state).1 = .ok answer ↔
    (∃ listing, gateway.fetched state backend = .ok listing ∧
      state.snapshots.Keeps backend listing state.clock gateway.snapshotSeconds ∧
      answer = { tables := listing, cached := false }) ∨
    (∃ failure, gateway.fetched state backend = .error failure ∧
      failure.isA .connector = true ∧ answer = { tables := [], cached := false })
  /-- Nothing is kept of a fetch that fails. -/
  unkept : ∀ failure, gateway.fetched state backend = .error failure →
    ((gateway.schema (.backend backend) refresh).startIn state).2.snapshots = state.snapshots
  /-- Any other failure of the fetch reaches the caller. -/
  escaped : ∀ failure, gateway.fetched state backend = .error failure →
    failure.isA .connector = false →
      ((gateway.schema (.backend backend) refresh).startIn state).1 = .error failure

variable {gateway : Gateway α β} {state : State α β} {backend : Backend} {refresh : Bool}

/-- Tables that are fetched are answered as the fetch decides. -/
theorem State.Fetches.startIn_schema (fetches : state.Fetches backend refresh) :
    (gateway.schema (.backend backend) refresh).startIn state =
      (gateway.fetchSchema backend).startIn state := by
  rw [Gateway.startIn_schema]
  rcases fetches with rfl | none
  · rfl
  · rw [none]
    cases refresh with
    | true => rfl
    | false => rfl

/-- Fetched tables are answered if they can be kept. -/
theorem State.Fetches.answers_listing (fetches : state.Fetches backend refresh)
    {listing : SchemaListing} (lists : gateway.fetched state backend = .ok listing)
    (answer : SchemaAnswer) :
    ((gateway.schema (.backend backend) refresh).startIn state).1 = .ok answer ↔
      state.snapshots.Keeps backend listing state.clock gateway.snapshotSeconds ∧
        answer = { tables := listing, cached := false } := by
  rw [fetches.startIn_schema, startIn_fetchSchema, ← SnapshotStore.keeps_iff]
  rw [fetched] at lists
  dsimp only
  rw [lists]
  dsimp only
  cases ((SnapshotStore.keep backend listing state.clock gateway.snapshotSeconds).startIn
      state.snapshots).1 with
  | ok _ => exact ⟨fun same => ⟨rfl, (Except.ok.inj same).symm⟩, fun both => both.2 ▸ rfl⟩
  | error failure => exact iff_of_false nofun fun both => nomatch both.1

/-- A fetch that fails is answered without tables, if its failure belongs to the connectors'
    family, and is the failure of the answer otherwise. Nothing is kept. -/
theorem State.Fetches.of_failure (fetches : state.Fetches backend refresh)
    {failure : Failure} (fails : gateway.fetched state backend = .error failure) :
    ((gateway.schema (.backend backend) refresh).startIn state).1 =
        (if failure.isA .connector then .ok { tables := [], cached := false }
          else .error failure) ∧
      ((gateway.schema (.backend backend) refresh).startIn state).2.snapshots =
        state.snapshots := by
  rw [fetches.startIn_schema, startIn_fetchSchema]
  rw [fetched] at fails
  dsimp only
  rw [fails]
  exact ⟨rfl, rfl⟩

/-- The tables that are fetched are answered as they should be. -/
theorem State.Fetches.browses (fetches : state.Fetches backend refresh) :
    gateway.Browses state backend refresh := by
  constructor
  · intro answer
    cases told : gateway.fetched state backend with
    | ok listing =>
      rw [fetches.answers_listing told]
      constructor
      · exact fun both => Or.inl ⟨listing, rfl, both⟩
      · rintro (⟨_, ⟨⟩, both⟩ | ⟨_, ⟨⟩, _⟩)
        exact both
    | error failure =>
      rw [(fetches.of_failure told).1]
      constructor
      · intro given
        split at given
        · next member => exact Or.inr ⟨failure, rfl, member, (Except.ok.inj given).symm⟩
        · cases given
      · rintro (⟨_, ⟨⟩, _⟩ | ⟨_, ⟨⟩, member, rfl⟩)
        rw [if_pos member]
  · exact fun failure fails => (fetches.of_failure fails).2
  · intro failure fails outside
    rw [(fetches.of_failure fails).1, outside]
    rfl

/-- How the schema maps of both backends are answered. -/
structure Unifies (gateway : Gateway α β) (state : State α β) (refresh : Bool) : Prop where
  /-- The maps of both are answered if and only if those of each are. -/
  together : (∃ unified, ((gateway.unifiedSchema refresh).startIn state).1 = .ok unified) ↔
    ∀ backend, ∃ answer,
      ((gateway.schema (.backend backend) refresh).startIn state).1 = .ok answer
  /-- The map of each is the one that is answered for it alone. -/
  sides : ∀ unified, ((gateway.unifiedSchema refresh).startIn state).1 = .ok unified →
    ∀ backend, ∃ answer,
      ((gateway.schema (.backend backend) refresh).startIn state).1 = .ok answer ∧
      answer.checked = .valid (unified.of backend)

/-- Every answer has texts for names: it was kept, or could be. -/
theorem exists_tables_of_schema {answer : SchemaAnswer}
    (answers : ((gateway.schema (.backend backend) refresh).startIn state).1 = .ok answer) :
    ∃ tables, answer.tables.checked = .valid tables := by
  by_cases fetches : state.Fetches backend refresh
  · rcases (fetches.browses.answered answer).mp answers with
      ⟨listing, _, keeps, rfl⟩ | ⟨failure, _, _, rfl⟩
    · exact keeps.named
    · exact ⟨_, rfl⟩
  · rw [State.Fetches, not_or, Bool.not_eq_true] at fetches
    obtain ⟨rfl, found⟩ := fetches
    rw [startIn_schema, if_neg Bool.false_ne_true] at answers
    cases current : state.snapshots.current backend state.clock with
    | error failure =>
      rw [current] at answers
      cases answers
    | ok kept =>
      cases kept with
      | none => exact absurd current found
      | some tables =>
        rw [current] at answers
        cases answers
        exact ⟨tables, SchemaListing.checked_ofMap tables⟩

/-- So it has a schema map. -/
theorem exists_checked_of_schema {answer : SchemaAnswer}
    (answers : ((gateway.schema (.backend backend) refresh).startIn state).1 = .ok answer) :
    ∃ map, answer.checked = .valid map := by
  obtain ⟨tables, named⟩ := exists_tables_of_schema answers
  refine ⟨{ tables, cached := answer.cached }, ?_⟩
  rw [SchemaAnswer.checked, named]
  rfl

/-- What comes of the maps of both backends is put together of what comes of each alone. -/
theorem startIn_unifiedSchema (gateway : Gateway α β) (refresh : Bool) (state : State α β) :
    ((gateway.unifiedSchema refresh).startIn state).1 = (do
      let one ← ((gateway.schema (.backend .warehouse) refresh).startIn state).1
      let other ← ((gateway.schema (.backend .transactional) refresh).startIn state).1
      Checked.outcome (UnifiedSchema.mk <$> one.checked.under Backend.warehouse.name
        <*> other.checked.under Backend.transactional.name)) := by
  have same : state.SameFor .transactional
      ((gateway.schema (.backend .warehouse) refresh).startIn state).2 :=
    State.SameFor.schema_of_ne gateway (by decide) refresh state
  rw [unifiedSchema, Run.startIn_both]
  dsimp only
  rw [(same.symm.schema gateway refresh).1]

/-- The maps of both backends are answered if and only if each is answered alone. -/
theorem unifies (gateway : Gateway α β) (state : State α β) (refresh : Bool) :
    gateway.Unifies state refresh := by
  have unified := startIn_unifiedSchema gateway refresh state
  have sides : ∀ maps, ((gateway.unifiedSchema refresh).startIn state).1 = .ok maps →
      ∀ backend, ∃ answer,
        ((gateway.schema (.backend backend) refresh).startIn state).1 = .ok answer ∧
        answer.checked = .valid (maps.of backend) := by
    intro maps given backend
    obtain ⟨one, warehouse, given⟩ := exists_of_bind_ok (unified.symm.trans given)
    obtain ⟨other, transactional, given⟩ := exists_of_bind_ok given
    obtain ⟨oneMap, oneNamed⟩ := exists_checked_of_schema warehouse
    obtain ⟨otherMap, otherNamed⟩ := exists_checked_of_schema transactional
    rw [oneNamed, otherNamed] at given
    cases given
    cases backend with
    | warehouse => exact ⟨one, warehouse, oneNamed⟩
    | transactional => exact ⟨other, transactional, otherNamed⟩
  refine ⟨⟨?_, ?_⟩, sides⟩
  · rintro ⟨maps, given⟩ backend
    obtain ⟨answer, answers, _⟩ := sides maps given backend
    exact ⟨answer, answers⟩
  · intro both
    obtain ⟨one, warehouse⟩ := both .warehouse
    obtain ⟨other, transactional⟩ := both .transactional
    obtain ⟨oneMap, oneNamed⟩ := exists_checked_of_schema warehouse
    obtain ⟨otherMap, otherNamed⟩ := exists_checked_of_schema transactional
    refine ⟨{ warehouse := oneMap, transactional := otherMap }, ?_⟩
    rw [unified, warehouse, transactional]
    dsimp only [bind, Except.bind]
    rw [oneNamed, otherNamed]
    rfl

/-- A backend that fails in the connectors' family does not take the other one's map away. -/
theorem State.Fetches.exists_unified (fetches : state.Fetches backend refresh)
    {failure : Failure} (fails : gateway.fetched state backend = .error failure)
    (member : failure.isA .connector = true) {healthy : Backend} (different : healthy ≠ backend)
    {answer : SchemaAnswer}
    (answers : ((gateway.schema (.backend healthy) refresh).startIn state).1 = .ok answer) :
    ∃ unified, ((gateway.unifiedSchema refresh).startIn state).1 = .ok unified ∧
      answer.checked = .valid (unified.of healthy) ∧
      unified.of backend = { tables := .empty, cached := false } := by
  have shown : ((gateway.schema (.backend backend) refresh).startIn state).1 =
      .ok { tables := [], cached := false } := by
    rw [(fetches.of_failure fails).1, if_pos member]
  have both : ∀ one, ∃ answer,
      ((gateway.schema (.backend one) refresh).startIn state).1 = .ok answer := by
    intro one
    rcases List.mem_pair.mp (Backend.mem_pair different one) with rfl | rfl
    · exact ⟨answer, answers⟩
    · exact ⟨_, shown⟩
  obtain ⟨together, sides⟩ := gateway.unifies state refresh
  obtain ⟨unified, given⟩ := together.mpr both
  obtain ⟨one, also, named⟩ := sides unified given healthy
  obtain ⟨other, empty, nameless⟩ := sides unified given backend
  cases answers.symm.trans also
  cases shown.symm.trans empty
  exact ⟨unified, given, named, (Checked.valid.inj nameless).symm⟩

/-- How schema maps are browsed, whatever the service and the engine do, if the engine raises
    ordinary faults alone. The tables of a backend that are fetched are answered as they were
    fetched, if they can be kept. No tables are answered if the fetch fails in the connectors'
    family, and any other failure reaches the caller. Of the family are, with the warehouse, that
    there is no target and that the service fails with a translated fault, but not that an
    answer cannot be read; with the transactional server, that the query for the tables fails,
    but not that its result cannot be read. The maps of both are answered if and only if each
    is answered alone, and then as each is, so a map is answered beside the empty one of a
    backend that fails in the family. -/
theorem schemas_browsed {σ τ : Type} (client : Warehouse.Client σ)
    (engine : Transactional.Engine τ)
    (gateway : Gateway (Warehouse.Session σ) (Transactional.Session τ))
    (isWarehouse : gateway.federation.warehouse = client.connector)
    (isTransactional : gateway.federation.transactional = engine.connector)
    (state : State (Warehouse.Session σ) (Transactional.Session τ)) (refresh : Bool)
    (ordinary : ∀ fault, (engine.transact Transactional.schemaQuery
      state.backends.2.state).1.fault? = some fault → fault.isA .ordinary = true) :
    (∃ events after,
      Warehouse.Takes client.service client.schemaMap state.backends.1 events
        (gateway.fetched state .warehouse) after ∧
      Warehouse.Listed client.config client.patience events (gateway.fetched state .warehouse)) ∧
    Transactional.Listed
      (engine.transact Transactional.schemaQuery state.backends.2.state).1
      (gateway.fetched state .transactional) ∧
    (∀ backend, state.Fetches backend refresh → gateway.Browses state backend refresh) ∧
    gateway.Unifies state refresh ∧
    ∀ healthy failing answer, healthy ≠ failing →
      ((gateway.schema (.backend healthy) refresh).startIn state).1 = .ok answer →
      state.Fetches failing refresh →
      (∃ failure, gateway.fetched state failing = .error failure ∧
        failure.isA .connector = true) →
      ∃ unified, ((gateway.unifiedSchema refresh).startIn state).1 = .ok unified ∧
        answer.checked = .valid (unified.of healthy) ∧
        unified.of failing = { tables := .empty, cached := false } := by
  have warehouse : gateway.fetched state .warehouse =
      (client.schemaMap.startIn state.backends.1).1 :=
    congrArg (fun connector => (connector.schemaMap.startIn state.backends.1).1) isWarehouse
  have transactional : gateway.fetched state .transactional =
      (engine.schemaMap.startIn state.backends.2).1 :=
    congrArg (fun connector => (connector.schemaMap.startIn state.backends.2).1) isTransactional
  refine ⟨?_, ?_, fun backend fetches => fetches.browses, gateway.unifies state refresh, ?_⟩
  · obtain ⟨events, outcome, after, takes, listed⟩ :=
      client.listed_of_schemaMap state.backends.1
    rw [takes.runs] at warehouse
    rw [warehouse]
    exact ⟨events, after, takes, listed⟩
  · rw [transactional]
    exact engine.listed_of_schemaMap state.backends.2 ordinary
  · rintro healthy failing answer different answers fetches ⟨failure, fails, member⟩
    exact fetches.exists_unified fails member different answers

/-- An engine that lists one table, whatever it is asked. -/
def ordersEngine : Transactional.Engine Unit where
  transact _ state :=
    (.selected [.string "schema_name", .string "table_name"]
      [[.string "dbo", .string "orders"]], state)

/-- A gateway to a warehouse and to this engine. -/
def besideOrders {σ : Type} (client : Warehouse.Client σ) :
    Gateway (Warehouse.Session σ) (Transactional.Session Unit) where
  federation := { warehouse := client.connector, transactional := ordersEngine.connector }
  snapshotSeconds := .whole 3600

/-- The state of such a gateway at its start. -/
def started {σ : Type} (start : σ) : State (Warehouse.Session σ) (Transactional.Session Unit) :=
  .opened ({ state := start }, { state := () }) (.whole 0)

/-- The tables of the engine. -/
def ordersMap : SchemaMap := ⟨[("dbo", ["orders"])], by decide⟩

/-- The engine lists its tables. -/
theorem fetched_orders {σ : Type} (client : Warehouse.Client σ) (start : σ) :
    (besideOrders client).fetched (started start) .transactional = .ok (.ofMap ordersMap) := by
  have ordered : SchemaListing.ofTables [(.string "dbo", .string "orders")] =
      .ok (.ofMap ordersMap) := by
    simp [SchemaListing.ofTables, Value.grouped, Value.sorted, Value.sortedOn, Value.isText,
      SchemaListing.ofMap, ordersMap, bind, Except.bind, pure, Except.pure]
  exact ordered

/-- They can be kept for an hour, and are answered beside any warehouse. -/
theorem schema_orders {σ : Type} (client : Warehouse.Client σ) (start : σ) :
    (((besideOrders client).schema (.backend .transactional)).startIn (started start)).1 =
      .ok { tables := .ofMap ordersMap, cached := false } := by
  have fetches : (started start).Fetches .transactional false := Or.inr rfl
  have keeps : (started start).snapshots.Keeps .transactional (.ofMap ordersMap)
      (started start).clock (besideOrders client).snapshotSeconds := by
    refine ⟨⟨_, SchemaListing.checked_ofMap ordersMap⟩, _, _, _, rfl, rfl, rfl, fun _ => ?_⟩
    exact ⟨_, rfl⟩
  exact (fetches.answers_listing (fetched_orders client start) _).mpr ⟨keeps, rfl⟩

/-- What the statement says if the warehouse cannot be reached: its map is empty, and that of the
    other backend is given. -/
theorem schemas_browsed_unreachable :
    (∀ fault, (ordersEngine.transact Transactional.schemaQuery ()).1.fault? = some fault →
      fault.isA .ordinary = true) ∧
    (started 0).Fetches .warehouse false ∧
    (∃ failure, (besideOrders Warehouse.sampleClient).fetched (started 0) .warehouse =
      .error failure ∧ failure.isA .connector = true) ∧
    ∃ unified, (((besideOrders Warehouse.sampleClient).unifiedSchema).startIn (started 0)).1 =
        .ok unified ∧
      unified.warehouse = { tables := .empty, cached := false } ∧
      unified.transactional = { tables := ordersMap, cached := false } := by
  have ordinary : ∀ fault,
      (ordersEngine.transact Transactional.schemaQuery ()).1.fault? = some fault →
        fault.isA .ordinary = true := by
    rintro _ ⟨⟩
  have fetches : (started 0).Fetches .warehouse false := Or.inr rfl
  have fails : ∃ failure, (besideOrders Warehouse.sampleClient).fetched (started 0) .warehouse =
      .error failure ∧ failure.isA .connector = true := ⟨_, rfl, rfl⟩
  obtain ⟨_, _, _, _, beside⟩ := schemas_browsed Warehouse.sampleClient ordersEngine
    (besideOrders Warehouse.sampleClient) rfl rfl (started 0) false ordinary
  obtain ⟨unified, given, named, empty⟩ := beside .transactional .warehouse _ (by decide)
    (schema_orders Warehouse.sampleClient 0) fetches fails
  refine ⟨ordinary, fetches, fails, unified, given, empty, ?_⟩
  have checked : (⟨.ofMap ordersMap, false⟩ : SchemaAnswer).checked =
      .valid ⟨ordersMap, false⟩ := by
    rw [SchemaAnswer.checked, SchemaListing.checked_ofMap]
    rfl
  exact Checked.valid.inj (named.symm.trans checked)

/-- A client of a warehouse that answers everything, but lists a table without a name. -/
def namelessClient : Warehouse.Client Unit where
  config := Warehouse.sampleClient.config
  service := {
    answer := fun _ state =>
      (.ok (.map [("Tables", .list [.map [("schema", .string "public")]])]), state)
    clock := fun _ => .ofInt 0
    rest := fun _ state => state }

/-- Browsing can be broken off: an entry without a name is a failure of the warehouse that reaches
    the caller, and with it the map of the other backend is lost. -/
theorem browsing_broken_off :
    (((besideOrders namelessClient).schema (.backend .warehouse)).startIn (started ())).1 =
      .error { fault := .missingKey (some "name") } ∧
    (((besideOrders namelessClient).schema (.backend .transactional)).startIn (started ())).1 =
      .ok { tables := .ofMap ordersMap, cached := false } ∧
    (((besideOrders namelessClient).unifiedSchema).startIn (started ())).1 =
      .error { fault := .missingKey (some "name") } :=
  ⟨rfl, schema_orders namelessClient (), rfl⟩

end Gateway

end SqlGateway
