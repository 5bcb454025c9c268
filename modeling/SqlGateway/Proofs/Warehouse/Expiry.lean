import SqlGateway.Proofs.Connector.Faults
import SqlGateway.Proofs.Warehouse.Listing
import SqlGateway.Proofs.Warehouse.Rounds

/-!
# Giving a statement up

A wait that has taken too long is meant to end with a time-out. Before that the statement is
cancelled, if this is wanted, and a cancellation that fails should not matter. It does not
matter if the client translates the fault into one of the connectors' family. Any other fault
takes the place of the time-out, and the caller cannot tell that the wait was over.
-/

namespace SqlGateway

/-- A time-out belongs to the connectors' family. -/
theorem Kind.connector_of_timedOut {kind : Kind} (member : kind.isA .statementTimedOut = true) :
    kind.isA .connector = true := by
  revert member
  cases kind <;> decide

/-- A failure outside the connectors' family is not passed on as a time-out. -/
theorem Failure.not_timedOut_ofExecution {failure : Failure}
    (outside : failure.isA .connector = false) :
    failure.ofExecution.isA .statementTimedOut = false := by
  unfold ofExecution
  split
  · rw [← Bool.not_eq_true]
    intro late
    rw [isA, Fault.isA, Kind.connector_of_timedOut late] at outside
    cases outside
  · rfl

namespace Warehouse

variable {σ : Type}

/-- What tells that a wait is over. -/
def lateness : Failure := { fault := .statementTimedOut "Query timeout" }

/-- A cancellation that fails does not matter exactly if the fault is translated. -/
theorem cancelled_fault {α : Type} (fault : Fault) :
    (cancelled (.error fault) : Outcome α) =
      if fault.isTranslated then timedOut else .error (ofRequest { fault }) := by
  rw [← isA_connector_ofRequest]
  rfl

namespace Client

/-- The cancellation in a state does not hide a time-out: none is wanted, it succeeds, or its
    fault is translated. -/
def Harmless (client : Client σ) (id : Value) (state : σ) : Prop :=
  client.config.cancelOnTimeout = true → ∀ fault,
    (client.service.answer (cancellation id) state).1 = .error fault → fault.isTranslated = true

/-- What comes of the submission of a query, and the state after it. -/
def sent (client : Client σ) (sql : String) (target : List (String × Value)) (state : σ) :
    Except Fault Value × σ :=
  client.service.answer (submission sql target) state

end Client

/-- The wait for the statement of a query takes too long. The service names the statement, and
    the statement is running in every round that is made until the longest wait is over. -/
structure Expires (client : Client σ) (sql : String) (before : σ)
    (target : List (String × Value)) (id : Value) (rounds : Nat) (last : σ) : Prop where
  /-- There is a target for the query. -/
  configured : client.config.target = .ok target
  /-- The service names the statement. -/
  named : submitted (client.sent sql target before).1 = .ok id
  /-- The statement is running. -/
  running : Rounds client id (client.service.clock (client.sent sql target before).2)
    client.config.maxWait rounds (client.service.tick (client.sent sql target before).2) last
  /-- The longest wait is over. -/
  passed : (client.service.clock last -
    client.service.clock (client.sent sql target before).2).less client.config.maxWait = false
  /-- The client follows the wait to its end. -/
  followed : rounds < client.patience

namespace Client

/-- A harmless cancellation leaves the time-out as it is. -/
theorem givenUp_of_harmless {client : Client σ} {id : Value} {state : σ}
    (harmless : client.Harmless id state) : client.givenUp id state = .error lateness := by
  unfold givenUp
  split
  · next wanted =>
    cases answers : (client.service.answer (cancellation id) state).1 with
    | ok value => rfl
    | error fault =>
      rw [cancelled_fault, harmless wanted fault answers]
      rfl
  · rfl

/-- Any other fault of the cancellation takes the place of the time-out. -/
theorem givenUp_of_untranslated {client : Client σ} {id : Value} {state : σ}
    (wanted : client.config.cancelOnTimeout = true) {fault : Fault}
    (answers : (client.service.answer (cancellation id) state).1 = .error fault)
    (untranslated : fault.isTranslated = false) :
    client.givenUp id state = .error (ofRequest { fault }) := by
  rw [givenUp, if_pos wanted, answers, cancelled_fault, untranslated]
  rfl

/-- A cancellation is harmless, or it fails with a fault that is not translated. -/
theorem harmless_or_untranslated (client : Client σ) (id : Value) (state : σ) :
    client.Harmless id state ∨
      client.config.cancelOnTimeout = true ∧ ∃ fault,
        (client.service.answer (cancellation id) state).1 = .error fault ∧
          fault.isTranslated = false := by
  by_cases harmless : client.Harmless id state
  · exact Or.inl harmless
  · simp only [Harmless, not_forall, Bool.not_eq_true] at harmless
    obtain ⟨wanted, fault, answers, untranslated⟩ := harmless
    exact Or.inr ⟨wanted, fault, answers, untranslated⟩

/-- A query is submitted at a target, and the answer names the statement or not. -/
theorem startIn_submit (client : Client σ) (sql : String) {target : List (String × Value)}
    (configured : client.config.target = .ok target) (session : Session σ) :
    (client.submit sql).startIn session =
      ((fun id => { id, sql }) <$> submitted (client.sent sql target session.state).1,
        { state := (client.sent sql target session.state).2
          requests := session.requests.push (submission sql target) }) := by
  obtain ⟨answer, after, submits⟩ := client.takes_submit sql session configured
  obtain ⟨rfl, rfl⟩ := submits.of_asked
  exact submits.runs

/-- If the wait for the statement takes too long, the caller is told what the statement is given
    up with. -/
theorem startIn_execute_of_expires {client : Client σ} {sql : String} (before : Session σ)
    {target : List (String × Value)} {id : Value} {rounds : Nat} {last : σ}
    (expires : Expires client sql before.state target id rounds last) {failure : Failure}
    (fails : client.givenUp id (client.service.tick last) = .error failure) :
    ∃ after, (client.execute sql).startIn before =
      (.error failure.ofExecution,
        { state := after
          requests := before.requests ++ (submission sql target ::
            (List.replicate rounds (inquiry id) ++ client.closing id)).toArray }) := by
  have submits := client.startIn_submit sql expires.configured before
  rw [expires.named] at submits
  have ends : Ends client id (client.service.clock (client.sent sql target before.state).2)
      client.config.maxWait last 0 (.error failure) (client.closing id) :=
    fails ▸ .expired expires.passed
  obtain ⟨after, waitsFrom⟩ := client.startIn_waitFrom { id, sql } expires.running ends
    expires.followed (before.requests.push (submission sql target))
  have waits := client.startIn_wait { id, sql } none
    { state := (client.sent sql target before.state).2
      requests := before.requests.push (submission sql target) }
  rw [Option.getD_none, waitsFrom] at waits
  have runs : (client.run sql).startIn before = _ :=
    (Run.startIn_bind_of_ok submits).trans (Run.startIn_bind_of_error waits)
  refine ⟨after, ?_⟩
  rw [← push_append]
  have executes : (client.execute sql).startIn before =
      (((client.run sql).startIn before).1.mapError Failure.ofExecution,
        ((client.run sql).startIn before).2) := rfl
  rw [executes, runs]
  rfl

end Client

/-- A fault that is not translated stays an ordinary one if it is one. -/
theorem ordinary_ofRequest {fault : Fault} (untranslated : fault.isTranslated = false)
    (ordinary : fault.isA .ordinary = true) : (ofRequest { fault }).isA .ordinary = true := by
  rcases ofRequest_untranslated untranslated with passed | reading
  · rw [passed]
    exact ordinary
  · exact (Fault.outside_of_reading reading).1

/-- If the wait for the statement of a query takes too long, the statement is asked about in
    every round and cancelled if this is wanted. The caller is told a time-out exactly if the
    cancellation is harmless; otherwise the fault of the cancellation is told in its place, an
    ordinary one as any fault of the connectors. -/
theorem execute_expired {client : Client σ} {sql : String} (before : Session σ)
    {target : List (String × Value)} {id : Value} {rounds : Nat} {last : σ}
    (expires : Expires client sql before.state target id rounds last) :
    let ended := client.service.tick last
    ∃ told after,
      (client.execute sql).startIn before =
        (.error told,
          { state := after
            requests := before.requests ++ (submission sql target ::
              (List.replicate rounds (inquiry id) ++ client.closing id)).toArray }) ∧
      (told.isA .statementTimedOut = true ↔ client.Harmless id ended) ∧
      (client.Harmless id ended → told = lateness) ∧
      ∀ fault, client.config.cancelOnTimeout = true →
        (client.service.answer (cancellation id) ended).1 = .error fault →
        fault.isTranslated = false →
        told = (ofRequest { fault }).ofExecution ∧
          (fault.isA .ordinary = true → told.isA .connector = true) := by
  intro ended
  rcases client.harmless_or_untranslated id ended with harmless | obstructed
  · obtain ⟨after, executes⟩ :=
      client.startIn_execute_of_expires before expires (client.givenUp_of_harmless harmless)
    refine ⟨lateness, after, executes, iff_of_true rfl harmless, fun _ => rfl, ?_⟩
    intro fault wanted answers untranslated
    rw [harmless wanted fault answers] at untranslated
    cases untranslated
  · obtain ⟨wanted, fault, answers, untranslated⟩ := obstructed
    obtain ⟨after, executes⟩ := client.startIn_execute_of_expires before expires
      (client.givenUp_of_untranslated wanted answers untranslated)
    have outside : (ofRequest { fault }).isA .connector = false := by
      rw [isA_connector_ofRequest, untranslated]
    have harmful : ¬ client.Harmless id ended := by
      intro harmless
      rw [harmless wanted fault answers] at untranslated
      cases untranslated
    refine ⟨_, after, executes, iff_of_false ?_ harmful, fun harmless => absurd harmless harmful, ?_⟩
    · rw [Failure.not_timedOut_ofExecution outside]
      exact Bool.false_ne_true
    · intro other _ also _
      obtain rfl := Except.error.inj (answers.symm.trans also)
      refine ⟨rfl, fun ordinary => ?_⟩
      exact Connector.isA_connector_ofExecution _ (ordinary_ofRequest untranslated ordinary)

/-- The target of a client whose statements stay running. -/
def stalledTarget : List (String × Value) :=
  [("Database", .string "dev"), ("WorkgroupName", .string "analytics")]

/-- Every wait of this client takes too long, and it is over after one round. -/
theorem expires_stalled (refusal : Fault) :
    Expires (stalledClient refusal) "SELECT 1" 0 stalledTarget (.string "s-1") 1 1 where
  configured := rfl
  named := rfl
  running := rounds_stalled_iff.mpr ⟨rfl, Nat.le_refl 1⟩
  passed := stalled_passed
  followed := by
    show 1 < 1000000
    decide

/-- If the service refuses the cancellation, the caller is told a time-out. -/
theorem execute_expired_refused :
    Expires (stalledClient .credentials) "SELECT 1" 0 stalledTarget (.string "s-1") 1 1 ∧
      ∃ after, ((stalledClient .credentials).execute "SELECT 1").startIn { state := 0 } =
        (.error lateness,
          { state := after
            requests := #[submission "SELECT 1" stalledTarget, inquiry (.string "s-1"),
              cancellation (.string "s-1")] }) := by
  have expires := expires_stalled .credentials
  obtain ⟨told, after, executes, _, late, _⟩ :=
    execute_expired { state := 0 } expires
  have harmless : (stalledClient .credentials).Harmless (.string "s-1") 1 := by
    rintro _ _ ⟨⟩
    rfl
  rw [late harmless] at executes
  exact ⟨expires, after, executes⟩

/-- If the connection is reset during the cancellation, the caller is told no time-out. -/
theorem reset_hides_lateness :
    (Fault.system "reset").isA .ordinary = true ∧
      Expires (stalledClient (.system "reset")) "SELECT 1" 0 stalledTarget (.string "s-1") 1 1 ∧
      ¬ ∃ failure after,
        ((stalledClient (.system "reset")).execute "SELECT 1").startIn { state := 0 } =
          (.error failure, after) ∧ failure.isA .statementTimedOut = true := by
  have expires := expires_stalled (.system "reset")
  refine ⟨rfl, expires, ?_⟩
  rintro ⟨failure, after, executes, late⟩
  obtain ⟨ended, told⟩ := Client.startIn_execute_of_expires { state := 0 } expires
    (Client.givenUp_of_untranslated rfl rfl rfl)
  rw [told] at executes
  obtain ⟨same, -⟩ := Prod.mk.inj executes
  obtain rfl := Except.error.inj same
  cases late

end Warehouse

end SqlGateway
