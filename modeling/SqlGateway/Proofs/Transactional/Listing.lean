import SqlGateway.Proofs.Connector.Listings
import SqlGateway.Proofs.Transactional.Causes

/-!
# How the transactional server lists its tables

The tables are the rows of one query. The query itself is run as every other one, so all its
failures reach the caller in the connectors' family. Behind it nothing stands between the rows
and the caller: what cannot be read in them, and what cannot be put in order, reaches the
caller as it is.

The engine may raise any ordinary fault here, also one of the connectors' family.
-/

namespace SqlGateway.Transactional

/-- Not every row has to tell a table. -/
theorem foreign_readTables (rows : List BackendRow) : Foreign (readTables rows) := by
  have entries : ∀ column row, Foreign (entryIn column row) := by
    intro column row
    unfold entryIn
    split
    · exact .ok _
    · exact .raise rfl
  apply Foreign.mapM
  intro row
  apply Foreign.bind (entries "schema_name" row)
  intro name
  apply Foreign.bind (Value.foreign_asName name)
  intro schema
  apply Foreign.bind (entries "table_name" row)
  exact fun table => .ok _

/-- A reply whose fault, if it has one, is an ordinary one has no other failure. -/
theorem Reply.ordinary_of_failure {reply : Reply}
    (ordinary : ∀ fault, reply.fault? = some fault → fault.isA .ordinary = true) {sql : String}
    {failure : Failure} (fails : reply.result sql = .error failure) :
    failure.isA .ordinary = true := by
  cases told : reply.fault? with
  | none => exact (Fault.outside_of_reading (foreign_result told sql failure fails)).1
  | some fault =>
    cases reply with
    | selected => cases told
    | changed => cases told
    | failed | refused =>
      cases fails
      exact ordinary _ rfl

/-- An ordinary failure of a transaction stays one. -/
theorem ordinary_ofTransaction {failure : Failure} (ordinary : failure.isA .ordinary = true) :
    (ofTransaction failure).isA .ordinary = true := by
  obtain ⟨fault, cause⟩ := failure
  cases fault with
  | poolTimeout | engine => rfl
  | engineDriver message invalidated => cases invalidated <;> rfl
  | _ => exact ordinary

/-- How a list of the tables comes out for its caller. -/
structure Listed (reply : Reply) (outcome : Outcome SchemaListing) : Prop where
  /-- All tables of the result are listed. -/
  complete : ∀ result, reply.result schemaQuery = .ok result →
    outcome = readTables result.rows >>= SchemaListing.ofTables
  /-- A failure is told in the connectors' family exactly if the query has no result. -/
  contained : (∃ failure, outcome = .error failure ∧ failure.isA .connector = true) ↔
    ∀ result, reply.result schemaQuery ≠ .ok result
  /-- Any other failure is a fault of reading the result. -/
  escaped : ∀ failure, outcome = .error failure → failure.isA .connector = false →
    failure.fault.isOfReading = true

/-- Where the query has a result, the tables are read from its rows. -/
theorem Engine.startIn_schemaMap_of_result {τ : Type} (engine : Engine τ) {before : Session τ}
    {result : QueryResult}
    (replied : (engine.transact schemaQuery before.state).1.result schemaQuery = .ok result) :
    (engine.schemaMap.startIn before).1 = readTables result.rows >>= SchemaListing.ofTables := by
  have executed : ((engine.execute schemaQuery).startIn before).1 =
      (((engine.transact schemaQuery before.state).1.result schemaQuery).mapError
        ofTransaction).mapError Failure.ofExecution := rfl
  rw [replied] at executed
  have ran : (engine.execute schemaQuery).startIn before =
      (.ok result, ((engine.execute schemaQuery).startIn before).2) := Prod.ext executed rfl
  exact congrArg Prod.fst (Run.startIn_bind_of_ok ran)

/-- Whatever the engine replies, a list of the tables comes out as it should, if the engine
    raises ordinary faults alone. -/
theorem Engine.listed_of_schemaMap {τ : Type} (engine : Engine τ) (before : Session τ)
    (ordinary : ∀ fault, (engine.transact schemaQuery before.state).1.fault? = some fault →
      fault.isA .ordinary = true) :
    Listed (engine.transact schemaQuery before.state).1 (engine.schemaMap.startIn before).1 := by
  have executed : ((engine.execute schemaQuery).startIn before).1 =
      (((engine.transact schemaQuery before.state).1.result schemaQuery).mapError
        ofTransaction).mapError Failure.ofExecution := rfl
  have ran : (engine.execute schemaQuery).startIn before =
      (((engine.execute schemaQuery).startIn before).1,
        ((engine.execute schemaQuery).startIn before).2) := rfl
  rw [executed] at ran
  cases replied : (engine.transact schemaQuery before.state).1.result schemaQuery with
  | error failure =>
    rw [replied] at ran
    have lists : (engine.schemaMap.startIn before).1 =
        .error (ofTransaction failure).ofExecution :=
      congrArg Prod.fst (Run.startIn_bind_of_error ran)
    have member : (ofTransaction failure).ofExecution.isA .connector = true :=
      Connector.isA_connector_ofExecution _
        (ordinary_ofTransaction (Reply.ordinary_of_failure ordinary replied))
    rw [lists]
    refine ⟨?_, iff_of_true ⟨_, rfl, member⟩ ?_, ?_⟩
    · intro result gives
      rw [replied] at gives
      cases gives
    · intro result gives
      rw [replied] at gives
      cases gives
    · rintro _ ⟨⟩ outside
      rw [member] at outside
      cases outside
  | ok result =>
    have lists := engine.startIn_schemaMap_of_result replied
    have foreign : Foreign (readTables result.rows >>= SchemaListing.ofTables) :=
      (foreign_readTables result.rows).bind SchemaListing.foreign_ofTables
    rw [lists]
    refine ⟨?_, iff_of_false ?_ ?_, fun failure fails _ => foreign failure fails⟩
    · intro other gives
      rw [replied] at gives
      cases gives
      rfl
    · rintro ⟨failure, fails, member⟩
      rw [Failure.isA, (Fault.outside_of_reading (foreign failure fails)).2] at member
      cases member
    · exact fun never => never result replied

end SqlGateway.Transactional
