import SqlGateway.Proofs.Warehouse.Lifecycle

/-!
# What the caller is told about a statement

The caller is told that a statement has failed or was aborted only if the service has said
so, with the name of the statement and the error of the service. Every other failure of the
client tells nothing about the end of a statement.

This needs that the service itself raises no fault of the connectors' family. The family
belongs to the client, so such a fault of the service would be passed on as if the client
had told it.
-/

namespace SqlGateway

/-- Whether a fault tells how a statement ended. -/
def Fault.endsStatement : Fault → Bool
  | .statementFailed .. | .statementAborted _ | .statementTimedOut _ => true
  | _ => false

/-- Such faults belong to the connectors' family. -/
theorem Fault.endsStatement_of_foreign {fault : Fault} (foreign : fault.isA .connector = false) :
    fault.endsStatement = false := by
  cases fault with
  | statementFailed => cases foreign
  | statementAborted => cases foreign
  | statementTimedOut => cases foreign
  | _ => rfl

/-- What is told about the end of a statement is passed on as it is. -/
theorem Failure.ofExecution_eq_self {failure : Failure}
    (ends : failure.ofExecution.fault.endsStatement = true) : failure.ofExecution = failure := by
  unfold ofExecution at ends ⊢
  split at ends
  · next kept => rw [if_pos kept]
  · cases ends

namespace Warehouse

/-- An outcome whose failure, if it is one, does not tell how a statement ended. -/
def Incidental {α : Type} (outcome : Outcome α) : Prop :=
  ∀ failure, outcome = .error failure → failure.fault.endsStatement = false

/-- A result is no failure. -/
theorem Incidental.ok {α : Type} (value : α) : Incidental (.ok value : Outcome α) :=
  fun _ fails => nomatch fails

/-- Failures from outside the connectors' family tell nothing about statements. -/
theorem incidental_of_foreign {α : Type} {outcome : Outcome α} (foreign : Foreign outcome) :
    Incidental outcome := by
  intro failure fails
  exact Fault.endsStatement_of_foreign (Fault.outside_of_reading (foreign failure fails)).2

/-- Neither a step nor what goes on with its value tells how a statement ended. -/
theorem Incidental.bind {α β : Type} {outcome : Outcome α} {next : α → Outcome β}
    (first : Incidental outcome) (second : ∀ value, Incidental (next value)) :
    Incidental (outcome >>= next) := by
  cases outcome with
  | error failure =>
    rintro _ ⟨⟩
    exact first failure rfl
  | ok value => exact second value

/-- A failure that tells nothing does so in place of any result. -/
theorem Incidental.of_error {α β : Type} {outcome : Outcome α} {failure : Failure}
    (incidental : Incidental outcome) (fails : outcome = .error failure) :
    Incidental (.error failure : Outcome β) := by
  intro other same
  obtain rfl := Except.error.inj same
  exact incidental failure fails

/-- An answer that is no fault of the connectors. -/
def Quiet (answer : Except Fault Value) : Prop :=
  ∀ fault, answer = .error fault → fault.isA .connector = false

/-- What a client makes of a fault of the service tells nothing about a statement. -/
theorem incidental_answered {answer : Except Fault Value} (quiet : Quiet answer) :
    Incidental (answered answer) := by
  intro failure fails
  cases answer with
  | ok value => cases fails
  | error fault =>
    have foreign := quiet fault rfl
    cases fails
    unfold ofRequest
    split
    · rfl
    · rfl
    · dsimp only
      split
      · next nameless unnamed =>
        exact incidental_of_foreign (Value.foreign_asName _) nameless unnamed
      · split
        · rfl
        · rfl
    · rfl
    · exact Fault.endsStatement_of_foreign foreign

/-- An answer without the name of a statement tells nothing about one. -/
theorem incidental_submitted {answer : Except Fault Value} (quiet : Quiet answer) :
    Incidental (submitted answer) :=
  (incidental_answered quiet).bind fun _ => incidental_of_foreign (Value.foreign_entry _ _)

/-- An answer that describes no statement tells nothing about one. -/
theorem incidental_described {answer : Except Fault Value} (quiet : Quiet answer) :
    Incidental (described answer) :=
  (incidental_answered quiet).bind fun _ => incidental_of_foreign (foreign_description _)

/-- An answer that is no page tells nothing about a statement. -/
theorem incidental_paged {columns : List Value} {answer : Except Fault Value}
    (quiet : Quiet answer) : Incidental (paged columns answer) :=
  (incidental_answered quiet).bind fun _ => incidental_of_foreign (foreign_page _ _)

/-- A configuration without a target tells nothing about a statement. -/
theorem incidental_target (config : Config) : Incidental config.target := by
  unfold Config.target
  dsimp only
  split
  · exact .ok _
  · split
    · exact .ok _
    · rintro _ ⟨⟩
      rfl

/-- The service has said in a history that a statement is in some state. -/
def Says (events : List Event) (id : Value) (description : Description) : Prop :=
  ∃ answer, .asked (inquiry id) answer ∈ events ∧ described answer = .ok description

/-- What was said is said in every longer history. -/
theorem Says.mono {events more : List Event} {id : Value} {description : Description}
    (said : Says events id description) (inside : events ⊆ more) : Says more id description := by
  obtain ⟨answer, member, told⟩ := said
  exact ⟨answer, inside member, told⟩

/-- In a last round with an inquiry the service said what it answers. -/
theorem said_inquired {id : Value} {now : Binary64} {answer : Except Fault Value}
    {description : Description} (told : described answer = .ok description) :
    Says [.seen now, .asked (inquiry id) answer] id description :=
  ⟨answer, by simp, told⟩

/-- The caller is told how a statement ended if the service has said so. -/
structure Truthful {α : Type} (events : List Event) (outcome : Outcome α) : Prop where
  /-- A failed statement is told with its name and the error of the service. -/
  failed : ∀ failure message id error, outcome = .error failure →
    failure.fault = .statementFailed message id error →
      ∃ description, Says events id description ∧ description.status = .failed ∧
        error = description.error
  /-- An aborted statement is told if the service has said so. -/
  aborted : ∀ failure message, outcome = .error failure →
    failure.fault = .statementAborted message →
      ∃ id description, Says events id description ∧ description.status = .aborted

/-- What tells nothing about a statement is truthful. -/
theorem Incidental.truthful {α : Type} {outcome : Outcome α} (incidental : Incidental outcome)
    (events : List Event) : Truthful events outcome where
  failed failure message id error fails told := by
    have nothing := incidental failure fails
    rw [told] at nothing
    cases nothing
  aborted failure message fails told := by
    have nothing := incidental failure fails
    rw [told] at nothing
    cases nothing

namespace Truthful

variable {α β : Type} {events more : List Event} {outcome : Outcome α}

/-- What is given tells nothing about how the statement ended. -/
theorem ofValue (events : List Event) (value : α) : Truthful events (.ok value) where
  failed _ _ _ _ fails := nomatch fails
  aborted _ _ fails := nomatch fails

/-- A failed statement is told as such. -/
theorem ofFailed {id : Value} {description : Description} (said : Says events id description)
    (fails : description.status = .failed) (message : String) :
    Truthful events
      ((Fault.statementFailed message id description.error).raise : Outcome α) where
  failed failure message id error same told := by
    obtain rfl := Except.error.inj same
    obtain ⟨-, rfl, rfl⟩ := Fault.statementFailed.inj told
    exact ⟨description, said, fails, rfl⟩
  aborted failure message same told := by
    obtain rfl := Except.error.inj same
    exact Fault.noConfusion told

/-- An aborted statement is told as such. -/
theorem ofAborted {id : Value} {description : Description} (said : Says events id description)
    (aborts : description.status = .aborted) (message : String) :
    Truthful events ((Fault.statementAborted message).raise : Outcome α) where
  failed failure message id error same told := by
    obtain rfl := Except.error.inj same
    exact Fault.noConfusion told
  aborted failure message same told := ⟨id, description, said, aborts⟩

/-- The end of a wait that took too long tells nothing about how the statement ended. -/
theorem ofTimedOut (events : List Event) : Truthful events (timedOut : Outcome α) where
  failed failure message id error same told := by
    obtain rfl := Except.error.inj same
    exact Fault.noConfusion told
  aborted failure message same told := by
    obtain rfl := Except.error.inj same
    exact Fault.noConfusion told

/-- So it is after a cancellation, whose faults tell nothing about the statement. -/
theorem ofCancelled {answer : Except Fault Value} (quiet : Quiet answer) (events : List Event) :
    Truthful events (cancelled answer : Outcome α) := by
  have incidental := incidental_answered quiet
  unfold cancelled
  cases told : answered answer with
  | ok value => exact ofTimedOut events
  | error failure =>
    dsimp only
    split
    · exact ofTimedOut events
    · exact (incidental.of_error told).truthful events

/-- What a description decides is told as it is decided. -/
theorem ofDecided {id : Value} {description : Description} {outcome : Outcome Description}
    (said : Says events id description) (decides : decided? id description = some outcome) :
    Truthful events outcome := by
  unfold decided? at decides
  split at decides
  case h_1 => cases decides
  case h_2 =>
    obtain rfl := Option.some.inj decides
    exact ofValue events description
  case h_3 fails =>
    obtain rfl := Option.some.inj decides
    exact ofFailed said fails _
  case h_4 aborts =>
    obtain rfl := Option.some.inj decides
    exact ofAborted said aborts _

/-- What is truthful stays so in a longer history. -/
theorem mono (truthful : Truthful events outcome) (inside : events ⊆ more) :
    Truthful more outcome where
  failed failure message id error fails told := by
    obtain ⟨description, said, status, same⟩ :=
      truthful.failed failure message id error fails told
    exact ⟨description, said.mono inside, status, same⟩
  aborted failure message fails told := by
    obtain ⟨id, description, said, status⟩ := truthful.aborted failure message fails told
    exact ⟨id, description, said.mono inside, status⟩

/-- What goes wrong is told in place of any result. -/
theorem of_error {failure : Failure} (truthful : Truthful events outcome)
    (fails : outcome = .error failure) : Truthful events (.error failure : Outcome β) where
  failed other message id error same told := by
    obtain rfl := Except.error.inj same
    exact truthful.failed failure message id error fails told
  aborted other message same told := by
    obtain rfl := Except.error.inj same
    exact truthful.aborted failure message fails told

/-- A result that is changed stays one, and a failure stays as it is. -/
theorem map (change : α → β) (truthful : Truthful events outcome) :
    Truthful events (change <$> outcome) := by
  cases outcome with
  | ok value => exact ofValue events (change value)
  | error failure => exact truthful.of_error rfl

/-- What is truthful stays so for the caller of the connector. -/
theorem ofExecution (truthful : Truthful events outcome) :
    Truthful events (outcome.mapError Failure.ofExecution) := by
  cases outcome with
  | ok value => exact ofValue events value
  | error failure =>
    have kept : ∀ fault, failure.ofExecution.fault = fault → fault.endsStatement = true →
        failure.fault = fault := by
      intro fault told ends
      rw [← told] at ends
      rw [← Failure.ofExecution_eq_self ends]
      exact told
    constructor
    · intro other message id error same told
      obtain rfl := Except.error.inj same
      exact truthful.failed failure message id error rfl (kept _ told rfl)
    · intro other message same told
      obtain rfl := Except.error.inj same
      exact truthful.aborted failure message rfl (kept _ told rfl)

end Truthful

end Warehouse

end SqlGateway
