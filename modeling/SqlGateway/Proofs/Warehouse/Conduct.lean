import SqlGateway.Proofs.Warehouse.Truthful

/-!
# What a client owes the service

From the list of histories it is read off what holds of each of them. Nothing is asked
about a statement whose final state is known. Pages are fetched from a finished statement
with a result alone, a statement is cancelled at most once, after the wait for it was over
and only if this is wanted, and never if anything of it was fetched.

Which requests are in order is a relation between two events of a history, so a history is
in order if its events are so two by two.
-/

namespace SqlGateway.Warehouse

namespace Event

/-- The service was asked for the state of a statement, and has not answered that the
    statement is running: its state is final, or the answer is a fault or cannot be read. -/
def IsFinal : Event → Prop
  | .asked request answer => request.operation = .describeStatement ∧
      ∀ description, described answer = .ok description → description.status ≠ .running
  | _ => False

/-- An event is a request of some kind. -/
def Requests (operation : Operation) : Event → Prop
  | .asked request _ => request.operation = operation
  | _ => False

/-- An event is no request, or one that names a statement. -/
def Concerns (id : Value) : Event → Prop
  | .asked request _ =>
      request = inquiry id ∨ request = cancellation id ∨ ∃ token, request = pageRequest id token
  | _ => True

/-- Two events are in order: behind a final state nothing more is asked for it, behind a
    cancellation nothing is asked at all, and behind a page only pages are. -/
structure InOrder (earlier later : Event) : Prop where
  /-- A final state is not asked for again. -/
  settled : earlier.IsFinal → ¬ later.Requests .describeStatement
  /-- A cancellation is the last request. -/
  closed : earlier.Requests .cancelStatement → ∀ operation, ¬ later.Requests operation
  /-- Fetching goes on to the end. -/
  fetching : earlier.Requests .getStatementResult → ∀ operation, later.Requests operation →
    operation = .getStatementResult

/-- A request is of one kind. -/
theorem Requests.unique {event : Event} {operation other : Operation}
    (one : event.Requests operation) (second : event.Requests other) : operation = other := by
  cases event with
  | asked => exact one.symm.trans second
  | seen => cases one
  | rested => cases one

/-- A final state was asked for. -/
theorem IsFinal.requests {event : Event} (final : event.IsFinal) :
    event.Requests .describeStatement := by
  cases event with
  | asked => exact final.1
  | seen => cases final
  | rested => cases final

/-- An event behind which anything may come: nothing is settled, cancelled or fetched. -/
structure Passing (event : Event) : Prop where
  /-- No final state is told. -/
  unsettled : ¬ event.IsFinal
  /-- Nothing is cancelled. -/
  uncancelled : ¬ event.Requests .cancelStatement
  /-- Nothing is fetched. -/
  unfetched : ¬ event.Requests .getStatementResult

/-- What is no request is passing. -/
theorem passing_of_quiet {event : Event} (quiet : ∀ operation, ¬ event.Requests operation) :
    event.Passing where
  unsettled final := quiet _ final.requests
  uncancelled := quiet _
  unfetched := quiet _

/-- A look at the clock is no request. -/
theorem not_requests_seen (now : Binary64) (operation : Operation) :
    ¬ (seen now).Requests operation :=
  fun requests => requests

/-- A rest is no request. -/
theorem not_requests_rested (seconds : Binary64) (operation : Operation) :
    ¬ (rested seconds).Requests operation :=
  fun requests => requests

/-- An inquiry is passing if the statement is still running. -/
theorem passing_inquiry {id : Value} {answer : Except Fault Value} {description : Description}
    (told : described answer = .ok description) (goesOn : description.status = .running) :
    (asked (inquiry id) answer).Passing where
  unsettled := by
    rintro ⟨-, final⟩
    exact final description told goesOn
  uncancelled requests := Operation.noConfusion requests
  unfetched requests := Operation.noConfusion requests

/-- Behind a passing event everything is in order. -/
theorem Passing.inOrder {event : Event} (passing : event.Passing) (later : Event) :
    event.InOrder later where
  settled final := absurd final passing.unsettled
  closed cancels := absurd cancels passing.uncancelled
  fetching fetches := absurd fetches passing.unfetched

/-- A page comes behind everything but a cancellation. -/
theorem inOrder_of_page {event page : Event} (uncancelled : ¬ event.Requests .cancelStatement)
    (fetches : page.Requests .getStatementResult) : event.InOrder page where
  settled _ asks := nomatch fetches.unique asks
  closed cancels := absurd cancels uncancelled
  fetching _ _ asks := asks.unique fetches

end Event

/-- What holds of every wait for a statement. -/
structure WaitConduct (config : Config) (id : Value) (start longest : Binary64)
    (events : List Event) (outcome : Outcome Description) : Prop where
  /-- Only this statement is asked about. -/
  concerned : ∀ event ∈ events, event.Concerns id
  /-- The requests are in order. -/
  ordered : events.Pairwise Event.InOrder
  /-- Nothing is fetched. -/
  unfetched : ∀ event ∈ events, ¬ event.Requests .getStatementResult
  /-- A statement is cancelled if this is wanted and the last look at the clock has shown
      that the wait is over. -/
  cancels : ∀ event ∈ events, event.Requests .cancelStatement →
    config.cancelOnTimeout = true ∧
      ∃ waited now, events = waited ++ [.seen now, event] ∧ (now - start).less longest = false
  /-- A description that is given is that of a finished statement, which was not
      cancelled. -/
  finished : ∀ description, outcome = .ok description →
    Says events id description ∧ description.status = .finished ∧
      ∀ event ∈ events, ¬ event.Requests .cancelStatement
  /-- The end of the statement is told as the service has told it. -/
  truthful : Truthful events outcome

namespace WaitConduct

variable {config : Config} {id : Value} {start longest now : Binary64}
  {answer : Except Fault Value} {event : Event} {events : List Event}
  {outcome : Outcome Description}

/-- A wait without a request. -/
theorem unasked (quiet : ∀ event ∈ events, ∀ operation, ¬ event.Requests operation)
    (concerned : ∀ event ∈ events, event.Concerns id)
    (unfinished : ∀ description, outcome ≠ .ok description) (truthful : Truthful events outcome) :
    WaitConduct config id start longest events outcome where
  concerned := concerned
  ordered := by
    refine List.pairwise_of_forall_mem_list ?_
    intro earlier member later _
    exact (Event.passing_of_quiet (quiet earlier member)).inOrder later
  unfetched event member := quiet event member _
  cancels event member requests := absurd requests (quiet event member _)
  finished description gives := absurd gives (unfinished description)
  truthful := truthful

/-- A last round with one inquiry, whose answer decides about the outcome. -/
theorem inquired
    (finished : ∀ description, outcome = .ok description →
      described answer = .ok description ∧ description.status = .finished)
    (truthful : Truthful [.seen now, .asked (inquiry id) answer] outcome) :
    WaitConduct config id start longest [.seen now, .asked (inquiry id) answer] outcome where
  concerned := by simp [Event.Concerns]
  ordered := by
    refine List.pairwise_pair.mpr ?_
    exact (Event.passing_of_quiet (Event.not_requests_seen now)).inOrder _
  unfetched := by simp [Event.Requests, inquiry]
  cancels := by simp [Event.Requests, inquiry]
  finished description gives := by
    obtain ⟨told, status⟩ := finished description gives
    refine ⟨⟨answer, by simp, told⟩, status, ?_⟩
    simp [Event.Requests, inquiry]
  truthful := truthful

/-- A last round with a cancellation. -/
theorem cancelled (passed : (now - start).less longest = false)
    (wanted : config.cancelOnTimeout = true) (unfinished : ∀ description, outcome ≠ .ok description)
    (truthful : Truthful [.seen now, .asked (cancellation id) answer] outcome) :
    WaitConduct config id start longest [.seen now, .asked (cancellation id) answer] outcome where
  concerned := by simp [Event.Concerns]
  ordered := by
    refine List.pairwise_pair.mpr ?_
    exact (Event.passing_of_quiet (Event.not_requests_seen now)).inOrder _
  unfetched := by simp [Event.Requests, cancellation]
  cancels event member cancels := by
    simp only [List.mem_cons, List.not_mem_nil, or_false] at member
    rcases member with rfl | rfl
    · cases cancels
    · exact ⟨wanted, [], now, rfl, passed⟩
  finished description gives := absurd gives (unfinished description)
  truthful := truthful

/-- A passing event may come before a wait. -/
theorem cons (concerns : event.Concerns id) (passing : event.Passing)
    (later : WaitConduct config id start longest events outcome) :
    WaitConduct config id start longest (event :: events) outcome where
  concerned := List.forall_mem_cons.mpr ⟨concerns, later.concerned⟩
  ordered := List.pairwise_cons.mpr ⟨fun other _ => passing.inOrder other, later.ordered⟩
  unfetched := List.forall_mem_cons.mpr ⟨passing.unfetched, later.unfetched⟩
  cancels other member cancels := by
    rcases List.mem_cons.mp member with rfl | member
    · exact absurd cancels passing.uncancelled
    · obtain ⟨wanted, waited, now, rfl, passed⟩ := later.cancels other member cancels
      exact ⟨wanted, event :: waited, now, rfl, passed⟩
  finished description gives := by
    obtain ⟨said, status, kept⟩ := later.finished description gives
    have longer : Says (event :: events) id description := said.mono (List.subset_cons_self ..)
    exact ⟨longer, status, List.forall_mem_cons.mpr ⟨passing.uncancelled, kept⟩⟩
  truthful := later.truthful.mono (List.subset_cons_self ..)

end WaitConduct

/-- The answers of a history are no faults of the connectors. -/
def QuietThroughout (events : List Event) : Prop :=
  ∀ request answer, .asked request answer ∈ events → Quiet answer

/-- What holds of the answers of a history holds of a part of it. -/
theorem QuietThroughout.mono {events more : List Event} (quiet : QuietThroughout more)
    (inside : events ⊆ more) : QuietThroughout events :=
  fun request answer member => quiet request answer (inside member)

/-- Every wait is conducted well. The induction is on the rounds of the wait: a round in
    which the statement is still running settles nothing, and every other one is the last. -/
theorem Waits.conduct {config : Config} {id : Value} {start longest : Binary64} {patience : Nat}
    {events : List Event} {outcome : Outcome Description}
    (waits : Waits config id start longest patience events outcome) (quiet : QuietThroughout events) :
    WaitConduct config id start longest events outcome := by
  induction waits with
  | unfinished =>
    have incidental : Incidental (Fault.unfinished.raise : Outcome Description) := by
      rintro _ ⟨⟩
      rfl
    refine .unasked ?_ ?_ (fun _ gives => nomatch gives) (incidental.truthful [])
    · simp
    · simp
  | @running _ now answer description events outcome _ told undecided _ inductionHypothesis =>
    have later := inductionHypothesis (quiet.mono fun event member => by simp [member])
    have rests : WaitConduct config id start longest (.rested config.pollInterval :: events) _ :=
      later.cons trivial (Event.passing_of_quiet (Event.not_requests_rested _))
    have asks : WaitConduct config id start longest (.asked (inquiry id) answer :: _) _ :=
      rests.cons (.inl rfl) (Event.passing_inquiry told (status_of_undecided undecided))
    exact asks.cons trivial (Event.passing_of_quiet (Event.not_requests_seen now))
  | settled _ told decides =>
    refine .inquired ?_ (.ofDecided (said_inquired told) decides)
    intro other gives
    rw [gives] at decides
    obtain ⟨rfl, status⟩ := finished_of_decided decides
    exact ⟨told, status⟩
  | @unclear _ now answer failure _ told =>
    have incidental := incidental_described (quiet (inquiry id) answer (by simp))
    exact .inquired (fun _ gives => nomatch gives) ((incidental.of_error told).truthful _)
  | expired =>
    refine .unasked ?_ ?_ (fun _ gives => nomatch gives) (.ofTimedOut _)
    · simp [Event.Requests]
    · simp [Event.Concerns]
  | @cancelled _ now answer passed wanted =>
    have told : Quiet answer := quiet (cancellation id) answer (by simp)
    exact .cancelled passed wanted cancelled_ne_ok (.ofCancelled told _)

namespace Pages

variable {id token : Value} {patience : Nat} {columns : List Value} {rows : Array BackendRow}
  {events : List Event} {outcome : Outcome (List Value × List BackendRow)}

/-- Fetching asks for pages of the one statement alone. -/
theorem eq_pageRequest (pages : Pages id patience token columns rows events outcome) :
    ∀ event ∈ events, ∃ token answer, event = .asked (pageRequest id token) answer := by
  induction pages with
  | unfinished => exact fun _ member => nomatch member
  | last => exact List.forall_mem_singleton.mpr ⟨_, _, rfl⟩
  | more _ _ _ inductionHypothesis =>
    exact List.forall_mem_cons.mpr ⟨⟨_, _, rfl⟩, inductionHypothesis⟩
  | broken => exact List.forall_mem_singleton.mpr ⟨_, _, rfl⟩

/-- A result that cannot be fetched tells nothing about the end of the statement. -/
theorem incidental (pages : Pages id patience token columns rows events outcome)
    (quiet : QuietThroughout events) : Incidental outcome := by
  induction pages with
  | unfinished =>
    rintro _ ⟨⟩
    rfl
  | last => exact .ok _
  | more _ _ _ inductionHypothesis =>
    exact inductionHypothesis (quiet.mono (List.subset_cons_self ..))
  | @broken _ token _ _ answer _ told =>
    exact (incidental_paged (quiet (pageRequest id token) answer List.mem_cons_self)).of_error told

end Pages

/-- What holds of all that happens behind the submission of a statement. -/
structure StatementConduct (config : Config) (id : Value) (events : List Event) : Prop where
  /-- Only this statement is asked about. -/
  concerned : ∀ event ∈ events, event.Concerns id
  /-- The requests are in order. In particular there is one cancellation at most. -/
  ordered : events.Pairwise Event.InOrder
  /-- Pages are fetched if the service has said that the statement has finished with a
      result. -/
  fetches : ∀ event ∈ events, event.Requests .getStatementResult →
    ∃ description, Says events id description ∧ description.status = .finished ∧
      description.hasResult = true
  /-- The statement is cancelled if this is wanted and the last look at the clock has shown
      that the longest wait since the first one is over. -/
  cancels : ∀ event ∈ events, event.Requests .cancelStatement →
    config.cancelOnTimeout = true ∧
      ∃ start waited now, events = .seen start :: (waited ++ [.seen now, event]) ∧
        (now - start).less config.maxWait = false
  /-- A statement of which something is fetched is not cancelled. -/
  apart : ∀ event ∈ events, ∀ other ∈ events, event.Requests .getStatementResult →
    ¬ other.Requests .cancelStatement

section Paging

variable {start : Binary64} {event : Event} {events paging : List Event}

/-- Behind a wait in which nothing is fetched, whatever is fetched is a page. -/
theorem mem_paging_of_fetches (unfetched : ∀ event ∈ events, ¬ event.Requests .getStatementResult)
    (member : event ∈ Event.seen start :: (events ++ paging))
    (fetches : event.Requests .getStatementResult) : event ∈ paging := by
  rcases List.mem_cons.mp member with rfl | member
  · cases fetches
  · rcases List.mem_append.mp member with early | late
    · exact absurd fetches (unfetched event early)
    · exact late

/-- Before pages alone, whatever is cancelled is cancelled in the wait. -/
theorem mem_waiting_of_cancels (fetching : ∀ event ∈ paging, event.Requests .getStatementResult)
    (member : event ∈ Event.seen start :: (events ++ paging))
    (cancels : event.Requests .cancelStatement) : event ∈ events := by
  rcases List.mem_cons.mp member with rfl | member
  · cases cancels
  · rcases List.mem_append.mp member with early | late
    · exact early
    · cases (fetching event late).unique cancels

/-- A wait and the pages behind it are in order if a wait with a cancellation has none. -/
theorem ordered_paging (ordered : events.Pairwise Event.InOrder)
    (fetching : ∀ event ∈ paging, event.Requests .getStatementResult)
    (kept : paging ≠ [] → ∀ event ∈ events, ¬ event.Requests .cancelStatement) :
    (Event.seen start :: (events ++ paging)).Pairwise Event.InOrder := by
  refine List.pairwise_cons.mpr ⟨?_, List.pairwise_append.mpr ⟨ordered, ?_, ?_⟩⟩
  · intro other _
    exact (Event.passing_of_quiet (Event.not_requests_seen start)).inOrder other
  · refine List.pairwise_of_forall_mem_list ?_
    intro earlier first later second
    refine Event.inOrder_of_page ?_ (fetching later second)
    intro cancels
    cases (fetching earlier first).unique cancels
  · intro earlier first later second
    have uncancelled := kept (List.ne_nil_of_mem second) earlier first
    exact Event.inOrder_of_page uncancelled (fetching later second)

end Paging

/-- A wait is followed by pages if it has earned them: the statement has finished with a
    result. -/
theorem WaitConduct.statement {config : Config} {id : Value} {start : Binary64}
    {events paging : List Event} {outcome : Outcome Description}
    (waited : WaitConduct config id start config.maxWait events outcome)
    (pages : ∀ event ∈ paging, ∃ token answer, event = .asked (pageRequest id token) answer)
    (earned : paging ≠ [] → ∃ description, outcome = .ok description ∧
      description.hasResult = true) :
    StatementConduct config id (.seen start :: (events ++ paging)) := by
  have fetching : ∀ event ∈ paging, event.Requests .getStatementResult := by
    intro event member
    obtain ⟨token, answer, rfl⟩ := pages event member
    rfl
  have kept : paging ≠ [] → ∀ event ∈ events, ¬ event.Requests .cancelStatement := by
    intro paged
    obtain ⟨description, gives, _⟩ := earned paged
    exact (waited.finished description gives).2.2
  constructor
  case concerned =>
    refine List.forall_mem_cons.mpr ⟨trivial, List.forall_mem_append.mpr ⟨waited.concerned, ?_⟩⟩
    intro event member
    obtain ⟨token, answer, rfl⟩ := pages event member
    exact .inr (.inr ⟨token, rfl⟩)
  case ordered => exact ordered_paging waited.ordered fetching kept
  case fetches =>
    intro event member fetches
    have page := mem_paging_of_fetches waited.unfetched member fetches
    obtain ⟨description, gives, full⟩ := earned (List.ne_nil_of_mem page)
    obtain ⟨said, status, _⟩ := waited.finished description gives
    have inside : events ⊆ .seen start :: (events ++ paging) :=
      fun other early => List.mem_cons_of_mem _ (List.mem_append_left paging early)
    exact ⟨description, said.mono inside, status, full⟩
  case cancels =>
    intro event member cancels
    have early := mem_waiting_of_cancels fetching member cancels
    obtain ⟨wanted, rounds, now, same, passed⟩ := waited.cancels event early cancels
    have unpaged : paging = [] :=
      Classical.byContradiction fun paged => kept paged event early cancels
    refine ⟨wanted, start, rounds, now, ?_, passed⟩
    rw [unpaged, List.append_nil, ← same]
  case apart =>
    intro event member other otherMember fetches cancels
    have page := mem_paging_of_fetches waited.unfetched member fetches
    have early := mem_waiting_of_cancels fetching otherMember cancels
    exact kept (List.ne_nil_of_mem page) other early cancels

/-- What holds of every query: of the requests, and of what the caller is told. -/
structure Conduct (config : Config) (sql : String) (events : List Event)
    (outcome : Outcome QueryResult) : Prop where
  /-- Without a target nothing happens. -/
  unconfigured : ∀ failure, config.target = .error failure → events = []
  /-- With a target the query is submitted once, and no more happens unless the service
      names the statement. -/
  configured : ∀ target, config.target = .ok target →
    ∃ answer later, events = .asked (submission sql target) answer :: later ∧
      (∀ failure, submitted answer = .error failure → later = []) ∧
      ∀ id, submitted answer = .ok id → StatementConduct config id later
  /-- A result is given if the service has said that the statement has finished. -/
  results : ∀ result, outcome = .ok result →
    ∃ id description, Says events id description ∧ description.status = .finished
  /-- The end of the statement is told as the service has told it. -/
  truthful : Truthful events outcome

namespace Conduct

variable {config : Config} {sql : String} {events : List Event} {outcome : Outcome QueryResult}
  {target : List (String × Value)} {answer : Except Fault Value} {id : Value}

/-- A query without a target. -/
theorem ofNowhere {failure : Failure} (nowhere : config.target = .error failure) :
    Conduct config sql [] (.error failure) where
  unconfigured _ _ := rfl
  configured target configured := by
    rw [nowhere] at configured
    cases configured
  results _ gives := nomatch gives
  truthful := ((incidental_target config).of_error nowhere).truthful []

/-- A query that is submitted, but not named by the service. -/
theorem ofUnnamed {failure : Failure} (configured : config.target = .ok target)
    (unnamed : submitted answer = .error failure) (quiet : Quiet answer) :
    Conduct config sql [.asked (submission sql target) answer] (.error failure) where
  unconfigured failure nowhere := by
    rw [configured] at nowhere
    cases nowhere
  configured other same := by
    obtain rfl := Except.ok.inj (configured.symm.trans same)
    refine ⟨answer, [], rfl, fun _ _ => rfl, ?_⟩
    intro id named
    rw [unnamed] at named
    cases named
  results _ gives := nomatch gives
  truthful := ((incidental_submitted quiet).of_error unnamed).truthful _

/-- A query that is submitted as a statement with a name. -/
theorem ofStatement (configured : config.target = .ok target) (named : submitted answer = .ok id)
    (statement : StatementConduct config id events)
    (results : ∀ result, outcome = .ok result →
      ∃ description, Says events id description ∧ description.status = .finished)
    (truthful : Truthful events outcome) :
    Conduct config sql (.asked (submission sql target) answer :: events) outcome where
  unconfigured failure nowhere := by
    rw [configured] at nowhere
    cases nowhere
  configured other same := by
    obtain rfl := Except.ok.inj (configured.symm.trans same)
    refine ⟨answer, events, rfl, ?_, ?_⟩
    · intro failure unnamed
      rw [named] at unnamed
      cases unnamed
    · intro other same
      obtain rfl := Except.ok.inj (named.symm.trans same)
      exact statement
  results result gives := by
    obtain ⟨description, said, status⟩ := results result gives
    exact ⟨id, description, said.mono (List.subset_cons_self ..), status⟩
  truthful := truthful.mono (List.subset_cons_self ..)

/-- The outcome may be changed for the caller of the connector. -/
theorem ofExecution (conduct : Conduct config sql events outcome) :
    Conduct config sql events (outcome.mapError Failure.ofExecution) where
  unconfigured := conduct.unconfigured
  configured := conduct.configured
  results result gives := by
    cases outcome with
    | ok value => exact conduct.results value rfl
    | error failure => cases gives
  truthful := conduct.truthful.ofExecution

end Conduct

/-- Every listed history is conducted well if its answers are no faults of the
    connectors. -/
theorem Lifecycle.conduct {config : Config} {patience : Nat} {sql : String} {events : List Event}
    {outcome : Outcome QueryResult} (lifecycle : Lifecycle config patience sql events outcome)
    (quiet : QuietThroughout events) : Conduct config sql events outcome := by
  cases lifecycle with
  | unconfigured nowhere => exact .ofNowhere nowhere
  | @refused target answer _ configured unnamed =>
    exact .ofUnnamed configured unnamed (quiet (submission sql target) answer List.mem_cons_self)
  | @unended target answer id start waiting failure configured named waits =>
    have waited := waits.conduct (quiet.mono fun event member => by simp [member])
    have statement := waited.statement (by simp) (by simp : [] ≠ [] → _)
    rw [List.append_nil] at statement
    refine .ofStatement configured named statement (fun _ gives => nomatch gives) ?_
    exact (waited.truthful.of_error rfl).mono (List.subset_cons_self ..)
  | @counted target answer id start waiting description configured named waits =>
    have waited := waits.conduct (quiet.mono fun event member => by simp [member])
    have statement := waited.statement (by simp) (by simp : [] ≠ [] → _)
    rw [List.append_nil] at statement
    refine .ofStatement configured named statement ?_ (.ofValue _ _)
    intro result _
    obtain ⟨said, status, _⟩ := waited.finished description rfl
    exact ⟨description, said.mono (List.subset_cons_self ..), status⟩
  | @fetched target answer id start waiting paging description fetched configured named waits full
      pages =>
    have waited := waits.conduct (quiet.mono fun event member => by simp [member])
    have statement := waited.statement pages.eq_pageRequest fun _ => ⟨description, rfl, full⟩
    refine .ofStatement configured named statement ?_ ?_
    · intro result _
      obtain ⟨said, status, _⟩ := waited.finished description rfl
      exact ⟨description, said.mono fun event member => by simp [member], status⟩
    · have incidental := pages.incidental (quiet.mono fun event member => by simp [member])
      exact (incidental.truthful _).map _

/-- However the service answers and whatever the clock shows, a query has a history, and
    this is conducted well. The service itself raises no fault of the connectors' family,
    which belongs to the client. -/
theorem Client.execute_conduct {σ : Type} (client : Client σ)
    (foreign : ∀ request state, Quiet (client.service.answer request state).1) (sql : String)
    (before : Session σ) :
    ∃ events outcome after,
      Takes client.service (client.execute sql) before events outcome after ∧
      Conduct client.config sql events outcome := by
  obtain ⟨events, outcome, after, takes, lifecycle⟩ := client.takes_run sql before
  have quiet : QuietThroughout events := by
    intro request answer member
    obtain ⟨state, same⟩ := takes.path.exists_state member
    rw [← same]
    exact foreign request state
  exact ⟨events, _, after, takes.mapFailure Failure.ofExecution, (lifecycle.conduct quiet).ofExecution⟩

/-- A service that counts its requests and rests. It names every statement alike, finishes
    it after three of them, and refuses cancellations and lists of tables. -/
def sampleService : Service Nat where
  answer request round :=
    let answer : Except Fault Value :=
      match request.operation with
      | .executeStatement => .ok (.map [("Id", .string "s-1")])
      | .describeStatement =>
          .ok (.map [("Status", .string (if round < 3 then "STARTED" else "FINISHED"))])
      | .getStatementResult =>
          .ok (.map [("ColumnMetadata", .list [.map [("name", .string "id")]]),
            ("Records", .list [.list [.map [("longValue", .int 7)]]])])
      | .cancelStatement | .listTables => .error .credentials
    (answer, round + 1)
  clock round := .ofInt round
  rest _ round := round + 1

/-- A client that gives up after four seconds and cancels what it gives up. -/
def sampleClient : Client Nat where
  config :=
    { pollInterval := .ofInt 1, maxWait := .ofInt 4, cancelOnTimeout := true, database := "dev"
      workgroup := some "analytics", cluster := none, user := none, secret := none, region := none
      accessKey := none, secretKey := none }
  service := sampleService

/-- A query of this client is conducted well. -/
theorem execute_conduct_sample :
    (∀ request state, Quiet (sampleClient.service.answer request state).1) ∧
      ∃ events outcome after,
        Takes sampleService (sampleClient.execute "SELECT 1") { state := 0 } events outcome after ∧
        Conduct sampleClient.config "SELECT 1" events outcome := by
  have foreign : ∀ request state, Quiet (sampleClient.service.answer request state).1 := by
    rintro ⟨operation, arguments⟩ state fault fails
    cases operation <;> cases fails <;> rfl
  exact ⟨foreign, sampleClient.execute_conduct foreign "SELECT 1" { state := 0 }⟩

/-- The statement is still running at the first inquiry and has finished at the second. -/
example :
    ((sampleClient.execute "SELECT 1").startIn { state := 0 }).2.requests.toList.map
      (·.operation) =
        [.executeStatement, .describeStatement, .describeStatement, .getStatementResult] := by
  decide +kernel

end SqlGateway.Warehouse
