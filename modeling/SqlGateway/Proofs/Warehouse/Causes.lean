import SqlGateway.Proofs.Connector.Faults
import SqlGateway.Proofs.Result.Columns
import SqlGateway.Proofs.Warehouse.Lifecycle

/-!
# What a query of the warehouse fails of

A query can fail because the service answers a request with a fault, because an answer cannot
be read, because of what the service tells about the statement, or because the wait is over.
The caller is told that the warehouse cannot be reached, or that it refuses the caller, only
in the first case: the fault that breaks the query off decides it, and the one that a
cancellation is answered with breaks nothing off.

The service may fail with any ordinary fault that is not of the connectors' own family. A
query that is followed for a given number of rounds may also be left without an end, but not
before the service was asked that often.
-/

namespace SqlGateway

namespace Fault

/-- Whether a fault tells that the warehouse cannot be reached. -/
def isUnreachable : Fault → Bool
  | .endpoint _ | .credentials => true
  | _ => false

/-- Whether the warehouse refuses the caller with a fault. -/
def isRefusal : Fault → Bool
  | .service response _ => Warehouse.isRefusal ((serviceError response).field "Code")
  | _ => false

end Fault

namespace Warehouse

/-- No value that cannot be a name is the code of a refusal. -/
theorem isRefusal_of_nameless {code : Value} {failure : Failure}
    (nameless : code.asName = .error failure) : isRefusal code = false := by
  cases code with
  | string => cases nameless
  | _ => rfl

/-- A fault of the service whose code cannot be looked up is not passed on: that it cannot be
    looked up is. -/
theorem ofRequest_of_nameless {response : Value} {nameless : Failure}
    (named : ((Fault.serviceError response).field "Code").asName = .error nameless)
    (operation : String) : ofRequest { fault := .service response operation } = nameless := by
  simp only [ofRequest, named]

/-- What a client makes of a fault from outside: the warehouse is told to be unavailable if it
    cannot be reached, a refusal is told as one, and everything else is told plainly. -/
theorem ofRequest_cases {fault : Fault} (external : fault.isExternal = true) :
    ((ofRequest { fault }).isA .backendUnavailable = true ∧ fault.isUnreachable = true ∧
        fault.isRefusal = false) ∨
      ((ofRequest { fault }).isA .auth = true ∧ fault.isRefusal = true ∧
        fault.isUnreachable = false) ∨
      ((ofRequest { fault }).fault.isPlain = true ∧ fault.isUnreachable = false ∧
        fault.isRefusal = false) := by
  cases fault with
  | endpoint | credentials => exact Or.inl ⟨rfl, rfl, rfl⟩
  | service response operation =>
    cases named : ((Fault.serviceError response).field "Code").asName with
    | error nameless =>
      rw [ofRequest_of_nameless named]
      refine Or.inr (Or.inr ⟨?_, rfl, isRefusal_of_nameless named⟩)
      exact Fault.isPlain_of_reading (Value.foreign_asName _ nameless named)
    | ok code =>
      obtain rfl := Value.eq_of_asName named
      cases refused : isRefusal ((Fault.serviceError response).field "Code") with
      | true =>
        refine Or.inr (Or.inl ⟨?_, refused, rfl⟩)
        simp only [ofRequest, named, refused]
        rfl
      | false =>
        refine Or.inr (Or.inr ⟨?_, rfl, refused⟩)
        simp only [ofRequest, named, refused]
        rfl
  | serviceClient => exact Or.inr (Or.inr ⟨rfl, rfl, rfl⟩)
  | _ => exact Or.inr (Or.inr ⟨Fault.isPlain_of_external external, rfl, rfl⟩)

/-- A history is broken off by a fault if it ends with a request that is answered with this
    fault. The fault of a cancellation does not count. -/
def BrokenOff (events : List Event) (fault : Fault) : Prop :=
  ∃ request, events.getLast? = some (.asked request (.error fault)) ∧
    request.operation ≠ .cancelStatement

/-- What comes last decides whether a history is broken off. -/
theorem brokenOff_append (events : List Event) {more : List Event} (goesOn : more ≠ [])
    (fault : Fault) : BrokenOff (events ++ more) fault ↔ BrokenOff more fault := by
  rw [BrokenOff, BrokenOff, List.getLast?_append_of_ne_nil _ goesOn]

/-- Nothing is broken off that has not begun. -/
theorem not_brokenOff_nil (fault : Fault) : ¬ BrokenOff [] fault := by
  rintro ⟨request, last, _⟩
  cases last

/-- A look at the clock breaks nothing off. -/
theorem not_brokenOff_seen (now : Binary64) (fault : Fault) : ¬ BrokenOff [.seen now] fault := by
  rintro ⟨request, last, _⟩
  cases last

/-- A history is not broken off if the answer to its last request can be read. -/
theorem not_brokenOff_of_read {α : Type} (events : List Event) {request : Request}
    {answer : Except Fault Value} {read : Value → Outcome α} {found : α}
    (told : answered answer >>= read = .ok found) (fault : Fault) :
    ¬ BrokenOff (events ++ [.asked request answer]) fault := by
  rintro ⟨other, last, _⟩
  rw [List.getLast?_append_of_ne_nil _ (by simp)] at last
  cases last
  cases told

/-- What a failure comes of: of the fault that breaks its history off or, if there is none, of
    a fault of a certain kind. Apart from that a history has no end that was followed for as
    many rounds as it may be. -/
structure Accounts {α : Type} (certain : Fault → Bool) (patience : Nat) (events : List Event)
    (outcome : Outcome α) : Prop where
  /-- A fault that breaks the history off decides. -/
  broken : ∀ fault, BrokenOff events fault → outcome = .error (ofRequest { fault })
  /-- Without such a fault, a failure is of the kind, or the history has no end. -/
  unbroken : (∀ fault, ¬ BrokenOff events fault) → ∀ failure, outcome = .error failure →
    certain failure.fault = true ∨
      failure.fault = .unfinished ∧ patience ≤ (requestsOf events).length

namespace Accounts

variable {α β : Type} {certain : Fault → Bool} {patience : Nat} {events more : List Event}
  {outcome : Outcome α}

/-- A failure of the kind, or none, behind a history that is not broken off. -/
theorem ofWhole (whole : ∀ fault, ¬ BrokenOff events fault)
    (told : ∀ failure, outcome = .error failure → certain failure.fault = true) :
    Accounts certain patience events outcome where
  broken fault breaks := absurd breaks (whole fault)
  unbroken _ failure fails := Or.inl (told failure fails)

/-- No round is left, so the history has no end. -/
theorem unfinished : Accounts certain 0 [] (Fault.unfinished.raise : Outcome α) := by
  refine ⟨fun fault breaks => absurd breaks (not_brokenOff_nil fault), ?_⟩
  rintro _ _ ⟨⟩
  exact Or.inr ⟨rfl, Nat.zero_le _⟩

/-- The answer to the last request is looked through. -/
theorem ofAnswer (reads : ∀ fault, fault.isOfReading = true → certain fault = true)
    (events : List Event) {request : Request} (lasting : request.operation ≠ .cancelStatement)
    (answer : Except Fault Value) {read : Value → Outcome α}
    (foreign : ∀ value, Foreign (read value)) :
    Accounts certain patience (events ++ [.asked request answer]) (answered answer >>= read) := by
  constructor
  · rintro fault ⟨other, last, _⟩
    rw [List.getLast?_append_of_ne_nil _ (by simp)] at last
    cases last
    rfl
  · intro whole failure fails
    cases answer with
    | error fault =>
      refine absurd ⟨request, ?_, lasting⟩ (whole fault)
      rw [List.getLast?_append_of_ne_nil _ (by simp)]
      rfl
    | ok value => exact Or.inl (reads _ (foreign value failure fails))

/-- What goes wrong is told in place of any result. -/
theorem of_error {failure : Failure} (accounts : Accounts certain patience events outcome)
    (fails : outcome = .error failure) :
    Accounts certain patience events (.error failure : Outcome β) := by
  subst fails
  constructor
  · intro fault breaks
    rw [Except.error.inj (accounts.broken fault breaks)]
  · intro whole other same
    obtain rfl := Except.error.inj same
    exact accounts.unbroken whole failure rfl

/-- A result that is changed stays one, and a failure stays as it is. -/
theorem map (change : α → β) (accounts : Accounts certain patience events outcome) :
    Accounts certain patience events (change <$> outcome) := by
  cases outcome with
  | error failure => exact accounts.of_error rfl
  | ok value =>
    constructor
    · intro fault breaks
      cases accounts.broken fault breaks
    · intro _ failure fails
      cases fails

/-- A history that comes to a result is not broken off. -/
theorem whole_of_ok {value : α} (accounts : Accounts certain patience events (.ok value))
    (fault : Fault) : ¬ BrokenOff events fault := by
  intro breaks
  cases accounts.broken fault breaks

/-- What comes to a result is looked through. -/
theorem bind {read : α → Outcome β} (accounts : Accounts Fault.isOfReading patience events outcome)
    (foreign : ∀ value, Foreign (read value)) :
    Accounts Fault.isOfReading patience events (outcome >>= read) := by
  cases outcome with
  | error failure => exact accounts.of_error rfl
  | ok value => exact .ofWhole accounts.whole_of_ok (foreign value)

/-- A history may come behind one that is not broken off, and has its rounds before it. -/
theorem behind {rounds : Nat} (accounts : Accounts certain patience more outcome)
    (whole : ∀ fault, ¬ BrokenOff events fault)
    (rounds_le : rounds ≤ (requestsOf events).length + patience) :
    Accounts certain rounds (events ++ more) outcome := by
  have same : ∀ fault, BrokenOff (events ++ more) fault ↔ BrokenOff more fault := by
    intro fault
    by_cases ends : more = []
    · subst ends
      rw [List.append_nil]
      exact ⟨fun breaks => absurd breaks (whole fault),
        fun breaks => absurd breaks (not_brokenOff_nil fault)⟩
    · exact brokenOff_append events ends fault
  constructor
  · intro fault breaks
    exact accounts.broken fault ((same fault).mp breaks)
  · intro unbroken failure fails
    have alone : ∀ fault, ¬ BrokenOff more fault :=
      fun fault breaks => unbroken fault ((same fault).mpr breaks)
    refine (accounts.unbroken alone failure fails).imp id ?_
    rintro ⟨unfinished, asked⟩
    refine ⟨unfinished, ?_⟩
    rw [requestsOf_append, List.length_append]
    omega

/-- A round with one request may come before a history. -/
theorem behind_round (accounts : Accounts certain patience more outcome)
    (whole : ∀ fault, ¬ BrokenOff events fault) (asks : (requestsOf events).length = 1) :
    Accounts certain (patience + 1) (events ++ more) outcome := by
  apply accounts.behind whole
  omega

end Accounts

/-- A history in which the service fails with faults from outside alone. -/
def ExternalThroughout (events : List Event) : Prop :=
  ∀ request fault, .asked request (.error fault) ∈ events → fault.isExternal = true

/-- So it is with a part of the history. -/
theorem ExternalThroughout.mono {events more : List Event} (external : ExternalThroughout more)
    (inside : events ⊆ more) : ExternalThroughout events :=
  fun request fault member => external request fault (inside member)

/-- What is decided about a statement is told plainly. -/
theorem isPlain_of_decided {id : Value} {description : Description} {outcome : Outcome Description}
    (decides : decided? id description = some outcome) :
    ∀ failure, outcome = .error failure → failure.fault.isPlain = true := by
  rintro failure rfl
  unfold decided? at decides
  split at decides
  · cases decides
  · cases decides
  · cases decides
    rfl
  · cases decides
    rfl

/-- The end of a wait that took too long is told plainly, whatever becomes of the
    cancellation. -/
theorem isPlain_of_cancelled {α : Type} {answer : Except Fault Value}
    (external : ∀ fault, answer = .error fault → fault.isExternal = true) :
    ∀ failure, (cancelled answer : Outcome α) = .error failure → failure.fault.isPlain = true := by
  intro failure fails
  cases answer with
  | ok value =>
    cases fails
    rfl
  | error fault =>
    have told : answered (.error fault) = .error (ofRequest { fault }) := rfl
    rw [cancelled, told] at fails
    dsimp only at fails
    split at fails
    · cases fails
      rfl
    · next outside =>
      cases fails
      rcases ofRequest_cases (external fault rfl) with ⟨unavailable, _⟩ | ⟨refused, _⟩ | ⟨plain, _⟩
      · exact absurd (Kind.connector_of_unavailable (Or.inl unavailable)) outside
      · exact absurd (Kind.connector_of_unavailable (Or.inr refused)) outside
      · exact plain

/-- Every listed wait accounts for its failure. The induction is on the rounds of the wait: a
    round in which the statement is still running breaks nothing off. -/
theorem Waits.accounts {config : Config} {id : Value} {start longest : Binary64} {patience : Nat}
    {events : List Event} {outcome : Outcome Description}
    (waits : Waits config id start longest patience events outcome)
    (external : ExternalThroughout events) : Accounts Fault.isPlain patience events outcome := by
  induction waits with
  | unfinished => exact .unfinished
  | @running patience now answer description events outcome _ _ _ _ inductionHypothesis =>
    have later := inductionHypothesis (external.mono fun event member => by simp [member])
    have whole : ∀ fault, ¬ BrokenOff
        [.seen now, .asked (inquiry id) answer, .rested config.pollInterval] fault := by
      rintro fault ⟨request, last, _⟩
      cases last
    exact later.behind_round whole rfl
  | @settled _ now answer description outcome _ told decides =>
    exact .ofWhole (not_brokenOff_of_read [.seen now] told) (isPlain_of_decided decides)
  | @unclear patience now answer failure _ told =>
    have asked : Accounts Fault.isPlain (patience + 1) [.seen now, .asked (inquiry id) answer]
        (described answer) :=
      .ofAnswer (fun _ => Fault.isPlain_of_reading) [.seen now] (by nofun) answer
        foreign_description
    exact asked.of_error told
  | expired =>
    refine .ofWhole (not_brokenOff_seen _) ?_
    rintro _ ⟨⟩
    rfl
  | @cancelled _ now answer _ _ =>
    refine .ofWhole ?_ (isPlain_of_cancelled fun fault fails => ?_)
    · rintro fault ⟨request, last, lasting⟩
      cases last
      exact lasting rfl
    · subst fails
      exact external (cancellation id) fault (by simp)

/-- Every listed way to fetch the pages of a result accounts for its failure. -/
theorem Pages.accounts {id token : Value} {patience : Nat} {columns : List Value}
    {rows : Array BackendRow} {events : List Event}
    {outcome : Outcome (List Value × List BackendRow)}
    (pages : Pages id patience token columns rows events outcome) :
    Accounts Fault.isPlain patience events outcome := by
  induction pages with
  | unfinished => exact .unfinished
  | last told _ =>
    refine .ofWhole (not_brokenOff_of_read [] told) ?_
    rintro _ ⟨⟩
  | more told _ _ inductionHypothesis =>
    exact inductionHypothesis.behind_round (not_brokenOff_of_read [] told) rfl
  | @broken patience token columns rows answer failure told =>
    have asked : Accounts Fault.isPlain (patience + 1) [.asked (pageRequest id token) answer]
        (paged columns answer) :=
      .ofAnswer (fun _ => Fault.isPlain_of_reading) [] (by nofun) answer (foreign_page columns)
    exact asked.of_error told

/-- Without a target there is a plain failure of the connectors' family. -/
theorem failure_of_target {config : Config} {failure : Failure}
    (nowhere : config.target = .error failure) :
    failure.fault.isPlain = true ∧ failure.isA .connector = true := by
  unfold Config.target at nowhere
  dsimp only at nowhere
  split at nowhere
  · cases nowhere
  · split at nowhere
    · cases nowhere
    · cases nowhere
      exact ⟨rfl, rfl⟩

/-- Every listed history of a query accounts for its failure. -/
theorem Lifecycle.accounts {config : Config} {patience : Nat} {sql : String} {events : List Event}
    {outcome : Outcome QueryResult} (lifecycle : Lifecycle config patience sql events outcome)
    (external : ExternalThroughout events) : Accounts Fault.isPlain patience events outcome := by
  have begun : ∀ {target answer id start}, submitted answer = .ok id → ∀ fault,
      ¬ BrokenOff [.asked (submission sql target) answer, .seen start] fault := by
    intro target answer id start named fault
    rw [← List.singleton_append, brokenOff_append _ (by simp)]
    exact not_brokenOff_seen start fault
  cases lifecycle with
  | unconfigured nowhere =>
    refine .ofWhole not_brokenOff_nil ?_
    rintro _ ⟨⟩
    exact (failure_of_target nowhere).1
  | @refused target answer failure _ unnamed =>
    have asked : Accounts Fault.isPlain patience [.asked (submission sql target) answer]
        (submitted answer) :=
      .ofAnswer (fun _ => Fault.isPlain_of_reading) [] (by nofun) answer (Value.foreign_entry "Id")
    exact asked.of_error unnamed
  | @unended target answer id start waiting failure _ named waits =>
    have waited := waits.accounts (external.mono fun event member => by simp [member])
    exact (waited.of_error rfl).behind (begun named) (Nat.le_add_left _ _)
  | @counted target answer id start waiting description _ named waits _ =>
    have waited := waits.accounts (external.mono fun event member => by simp [member])
    have counted := waited.map fun description =>
      ({ columns := [], rows := [], rowCount := .int description.resultRows, sql } : QueryResult)
    exact counted.behind (begun named) (Nat.le_add_left _ _)
  | @fetched target answer id start waiting paging description outcome _ named waits _ pages =>
    have waited := waits.accounts (external.mono fun event member => by simp [member])
    have fetched := pages.accounts.behind waited.whole_of_ok (Nat.le_add_left patience _)
    exact (fetched.behind (begun named) (Nat.le_add_left _ _)).map _

/-- How a query of the warehouse comes out for its caller. -/
structure Told (patience : Nat) (events : List Event) (outcome : Outcome QueryResult) : Prop where
  /-- A failure is told by a fault of the connectors' family. Otherwise the query has no end,
      although it was followed for as many rounds as it may be. -/
  contained : ∀ failure, outcome = .error failure → failure.isA .connector = true ∨
    failure.fault = .unfinished ∧ patience ≤ (requestsOf events).length
  /-- The warehouse is told to be unavailable exactly if the service could not be reached. -/
  unavailable : (∃ failure, outcome = .error failure ∧ failure.isA .backendUnavailable = true) ↔
    ∃ fault, BrokenOff events fault ∧ fault.isUnreachable = true
  /-- The caller is told to be refused exactly if the service has refused it. -/
  refused : (∃ failure, outcome = .error failure ∧ failure.isA .auth = true) ↔
    ∃ fault, BrokenOff events fault ∧ fault.isRefusal = true

/-- One fault at most breaks a history off. -/
theorem BrokenOff.unique {events : List Event} {fault other : Fault}
    (breaks : BrokenOff events fault) (also : BrokenOff events other) : other = fault := by
  obtain ⟨_, last, _⟩ := breaks
  obtain ⟨_, same, _⟩ := also
  rw [last] at same
  cases same
  rfl

end Warehouse

end SqlGateway
