import SqlGateway.Proofs.Warehouse.Foreign
import SqlGateway.Proofs.Warehouse.History

/-!
# The life of a statement

A query is submitted once. If the service names the statement, its state is asked for, with
this name and no other, until it is final, until an answer cannot be read, or until the
longest wait is over. After that the result is fetched if the statement has finished with
one, the statement is cancelled if the wait is over and this is wanted, and otherwise
nothing more is asked.

The histories that end in these ways are listed without the loops of the client. The
answers and the looks at the clock in them are arbitrary, so a listed history may be any
mixture of answers, faults and times. The client follows a wait and a list of pages for a
given number of rounds only; a history therefore breaks off when there were as many.
-/

namespace SqlGateway.Warehouse

/-- What a client makes of the answer to a request. -/
def answered (answer : Except Fault Value) : Outcome Value :=
  (answer.mapError fun fault => ({ fault } : Failure)).mapError ofRequest

/-- The request that submits a query. -/
def submission (sql : String) (target : List (String × Value)) : Request :=
  { operation := .executeStatement, arguments := ("Sql", .string sql) :: target }

/-- The name of a statement in the answer to its submission. -/
def submitted (answer : Except Fault Value) : Outcome Value :=
  answered answer >>= fun answer => answer.entry "Id"

/-- The request for the state of a statement. -/
def inquiry (id : Value) : Request :=
  { operation := .describeStatement, arguments := [("Id", id)] }

/-- The description in the answer to an inquiry. -/
def described (answer : Except Fault Value) : Outcome Description :=
  answered answer >>= Description.ofAnswer

/-- What a description decides about a wait for its statement: nothing while the statement
    is running. -/
def decided? (id : Value) (description : Description) : Option (Outcome Description) :=
  match description.status with
  | .running => none
  | .finished => some (.ok description)
  | .failed =>
      some (Fault.statementFailed ("Query failed: " ++ description.error.text) id
        description.error).raise
  | .aborted => some (Fault.statementAborted "Query was aborted").raise

/-- Only about a running statement nothing is decided. -/
theorem status_of_undecided {id : Value} {description : Description}
    (undecided : decided? id description = none) : description.status = .running := by
  unfold decided? at undecided
  split at undecided
  · assumption
  all_goals cases undecided

/-- Only the description of a finished statement is given. -/
theorem finished_of_decided {id : Value} {description given : Description}
    (decides : decided? id description = some (.ok given)) :
    given = description ∧ description.status = .finished := by
  unfold decided? at decides
  split at decides
  case h_2 finishes =>
    cases decides
    exact ⟨rfl, finishes⟩
  all_goals cases decides

/-- The request that cancels a statement. -/
def cancellation (id : Value) : Request :=
  { operation := .cancelStatement, arguments := [("Id", id)] }

/-- The end of a wait that took too long. -/
def timedOut {α : Type} : Outcome α :=
  (Fault.statementTimedOut "Query timeout").raise

/-- The end of such a wait after the answer to the cancellation. -/
def cancelled {α : Type} (answer : Except Fault Value) : Outcome α :=
  match answered answer with
  | .ok _ => timedOut
  | .error failure => if failure.isA .connector then timedOut else .error failure

/-- A wait that took too long gives no value. -/
theorem cancelled_ne_ok {α : Type} {answer : Except Fault Value} (value : α) :
    cancelled answer ≠ .ok value := by
  unfold cancelled
  split
  · exact nofun
  · split
    · exact nofun
    · exact nofun

/-- The request for the page of a result behind a token. -/
def pageRequest (id token : Value) : Request :=
  { operation := .getStatementResult, arguments := ("Id", id) :: pageArgument token }

/-- The page in the answer to such a request. -/
def paged (columns : List Value) (answer : Except Fault Value) : Outcome Page :=
  answered answer >>= Page.ofAnswer columns

/-- How a wait for a statement may go on from a look at the clock, if it is followed for a
    number of rounds. -/
inductive Waits (config : Config) (id : Value) (start longest : Binary64) :
    Nat → List Event → Outcome Description → Prop
  | unfinished : Waits config id start longest 0 [] (Fault.unfinished.raise)
  | running {patience : Nat} {now : Binary64} {answer : Except Fault Value}
      {description : Description} {events : List Event} {outcome : Outcome Description}
      (within : (now - start).less longest = true) (told : described answer = .ok description)
      (undecided : decided? id description = none)
      (later : Waits config id start longest patience events outcome) :
      Waits config id start longest (patience + 1)
        (.seen now :: .asked (inquiry id) answer :: .rested config.pollInterval :: events) outcome
  | settled {patience : Nat} {now : Binary64} {answer : Except Fault Value}
      {description : Description} {outcome : Outcome Description}
      (within : (now - start).less longest = true) (told : described answer = .ok description)
      (decides : decided? id description = some outcome) :
      Waits config id start longest (patience + 1) [.seen now, .asked (inquiry id) answer] outcome
  | unclear {patience : Nat} {now : Binary64} {answer : Except Fault Value} {failure : Failure}
      (within : (now - start).less longest = true) (told : described answer = .error failure) :
      Waits config id start longest (patience + 1) [.seen now, .asked (inquiry id) answer]
        (.error failure)
  | expired {patience : Nat} {now : Binary64} (passed : (now - start).less longest = false)
      (kept : config.cancelOnTimeout = false) :
      Waits config id start longest (patience + 1) [.seen now] timedOut
  | cancelled {patience : Nat} {now : Binary64} {answer : Except Fault Value}
      (passed : (now - start).less longest = false) (wanted : config.cancelOnTimeout = true) :
      Waits config id start longest (patience + 1)
        [.seen now, .asked (cancellation id) answer] (cancelled answer)

/-- How the pages of a result may be fetched from a token on, behind the columns and rows so
    far, if they are followed for a number of rounds. -/
inductive Pages (id : Value) : Nat → Value → List Value → Array BackendRow → List Event →
    Outcome (List Value × List BackendRow) → Prop
  | unfinished {token : Value} {columns : List Value} {rows : Array BackendRow} :
      Pages id 0 token columns rows [] (Fault.unfinished.raise)
  | last {patience : Nat} {token : Value} {columns : List Value} {rows : Array BackendRow}
      {answer : Except Fault Value} {page : Page} (told : paged columns answer = .ok page)
      (final : page.next.isPresent = false) :
      Pages id (patience + 1) token columns rows [.asked (pageRequest id token) answer]
        (.ok (page.columns, (rows ++ page.rows).toList))
  | more {patience : Nat} {token : Value} {columns : List Value} {rows : Array BackendRow}
      {answer : Except Fault Value} {page : Page} {events : List Event}
      {outcome : Outcome (List Value × List BackendRow)}
      (told : paged columns answer = .ok page) (continued : page.next.isPresent = true)
      (later : Pages id patience page.next page.columns (rows ++ page.rows) events outcome) :
      Pages id (patience + 1) token columns rows (.asked (pageRequest id token) answer :: events)
        outcome
  | broken {patience : Nat} {token : Value} {columns : List Value} {rows : Array BackendRow}
      {answer : Except Fault Value} {failure : Failure}
      (told : paged columns answer = .error failure) :
      Pages id (patience + 1) token columns rows [.asked (pageRequest id token) answer]
        (.error failure)

/-- The histories of a query, with what comes of them before it is told to the caller. The
    wait and the pages are followed for a number of rounds each. -/
inductive Lifecycle (config : Config) (patience : Nat) (sql : String) :
    List Event → Outcome QueryResult → Prop
  | unconfigured {failure : Failure} (nowhere : config.target = .error failure) :
      Lifecycle config patience sql [] (.error failure)
  | refused {target : List (String × Value)} {answer : Except Fault Value} {failure : Failure}
      (configured : config.target = .ok target) (unnamed : submitted answer = .error failure) :
      Lifecycle config patience sql [.asked (submission sql target) answer] (.error failure)
  | unended {target : List (String × Value)} {answer : Except Fault Value} {id : Value}
      {start : Binary64} {waiting : List Event} {failure : Failure}
      (configured : config.target = .ok target) (named : submitted answer = .ok id)
      (waits : Waits config id start config.maxWait patience waiting (.error failure)) :
      Lifecycle config patience sql (.asked (submission sql target) answer :: .seen start :: waiting)
        (.error failure)
  | counted {target : List (String × Value)} {answer : Except Fault Value} {id : Value}
      {start : Binary64} {waiting : List Event} {description : Description}
      (configured : config.target = .ok target) (named : submitted answer = .ok id)
      (waits : Waits config id start config.maxWait patience waiting (.ok description))
      (empty : description.hasResult = false) :
      Lifecycle config patience sql (.asked (submission sql target) answer :: .seen start :: waiting)
        (.ok { columns := [], rows := [], rowCount := .int description.resultRows, sql })
  | fetched {target : List (String × Value)} {answer : Except Fault Value} {id : Value}
      {start : Binary64} {waiting paging : List Event} {description : Description}
      {outcome : Outcome (List Value × List BackendRow)}
      (configured : config.target = .ok target) (named : submitted answer = .ok id)
      (waits : Waits config id start config.maxWait patience waiting (.ok description))
      (full : description.hasResult = true) (pages : Pages id patience .null [] #[] paging outcome) :
      Lifecycle config patience sql
        (.asked (submission sql target) answer :: .seen start :: (waiting ++ paging))
        ((fun result => { columns := result.1, rows := result.2, rowCount := .int result.2.length
                          sql }) <$> outcome)

namespace Client

variable {σ : Type}

/-- A request is answered by the service, and remembered. -/
theorem startIn_request (client : Client σ) (operation : Operation)
    (arguments : List (String × Value)) (session : Session σ) :
    (client.request operation arguments).startIn session =
      let given := client.service.answer { operation, arguments } session.state
      (answered given.1,
        { state := given.2, requests := session.requests.push { operation, arguments } }) :=
  rfl

/-- A request is one event. -/
theorem takes_request (client : Client σ) (operation : Operation)
    (arguments : List (String × Value)) (before : Session σ) :
    ∃ answer after, Takes client.service (client.request operation arguments) before
      [.asked { operation, arguments } answer] (answered answer) after := by
  obtain ⟨answer, after, asks⟩ := Takes.ask client.service { operation, arguments } before
  exact ⟨answer, after, asks.mapFailure ofRequest⟩

/-- An inquiry is one event. -/
theorem takes_poll (client : Client σ) (handle : Handle) (before : Session σ) :
    ∃ answer after, Takes client.service (client.poll handle) before
      [.asked (inquiry handle.id) answer] (described answer) after := by
  obtain ⟨answer, after, asks⟩ :=
    client.takes_request .describeStatement [("Id", handle.id)] before
  exact ⟨answer, after, asks.bind_ofOutcome⟩

/-- A wait that took too long ends without a request if no cancellation is wanted. -/
theorem takes_giveUp_keeping (client : Client σ) (handle : Handle) (before : Session σ)
    (kept : client.config.cancelOnTimeout = false) {α : Type} :
    Takes client.service (client.giveUp handle : Run (Session σ) α) before [] timedOut before := by
  unfold giveUp
  rw [kept]
  exact Takes.ofOutcome client.service timedOut before

/-- A wait that took too long ends with a cancellation if one is wanted. -/
theorem takes_giveUp_cancelling (client : Client σ) (handle : Handle) (before : Session σ)
    (wanted : client.config.cancelOnTimeout = true) {α : Type} :
    ∃ answer after, Takes client.service (client.giveUp handle : Run (Session σ) α) before
      [.asked (cancellation handle.id) answer] (cancelled answer) after := by
  obtain ⟨answer, after, asks⟩ :=
    client.takes_request .cancelStatement [("Id", handle.id)] before
  refine ⟨answer, after, ?_⟩
  have cancels : Takes client.service (client.cancel handle) before
      [.asked (cancellation handle.id) answer] (answered answer >>= fun _ => .ok ()) after :=
    asks.bind_ofOutcome
  have ends : Takes client.service (Run.fail (.statementTimedOut "Query timeout")) after []
      (timedOut : Outcome α) after := Takes.ofOutcome client.service timedOut after
  unfold giveUp cancelled
  rw [wanted]
  cases told : answered answer with
  | ok value =>
    rw [told] at cancels
    have done : Takes client.service (client.cancel handle) before
        [.asked (cancellation handle.id) answer] (.ok ()) after := cancels
    exact done.attempt.bind ends
  | error failure =>
    rw [told] at cancels
    have fails : Takes client.service (client.cancel handle) before
        [.asked (cancellation handle.id) answer] (.error failure) after := cancels
    refine fails.attempt.bind_cons ?_
    cases member : failure.isA .connector with
    | true =>
      simp only [member]
      exact ends
    | false =>
      simp only [member]
      exact (Takes.ofOutcome client.service (.error failure) after).bind_error

/-- A wait goes on in one of the ways listed. The induction is on the rounds that are left;
    a round either ends the wait or goes on with one round less. -/
theorem takes_waitFrom (client : Client σ) (handle : Handle) (start longest : Binary64)
    (patience : Nat) (before : Session σ) :
    ∃ events outcome after,
      Takes client.service (client.waitFrom handle start longest patience) before events outcome
        after ∧
      Waits client.config handle.id start longest patience events outcome := by
  induction patience generalizing before with
  | zero => exact ⟨[], _, before, Takes.ofOutcome client.service _ before, .unfinished⟩
  | succ patience inductionHypothesis =>
    obtain ⟨now, looked, looks⟩ := Takes.now client.service before
    unfold waitFrom
    cases within : (now - start).less longest with
    | false =>
      cases wanted : client.config.cancelOnTimeout with
      | false =>
        refine ⟨[.seen now], timedOut, looked, looks.bind_cons ?_, .expired within wanted⟩
        simp only [within]
        exact client.takes_giveUp_keeping handle looked wanted
      | true =>
        obtain ⟨answer, after, givesUp⟩ := client.takes_giveUp_cancelling handle looked wanted
        have waits : Waits client.config handle.id start longest (patience + 1)
            [.seen now, .asked (cancellation handle.id) answer] (cancelled answer) :=
          .cancelled within wanted
        refine ⟨_, _, after, looks.bind_cons ?_, waits⟩
        simp only [within]
        exact givesUp
    | true =>
      obtain ⟨answer, asked, polls⟩ := client.takes_poll handle looked
      cases told : described answer with
      | error failure =>
        rw [told] at polls
        have waits : Waits client.config handle.id start longest (patience + 1) _ _ :=
          .unclear within told
        refine ⟨_, _, asked, looks.bind_cons ?_, waits⟩
        simp only [within]
        exact polls.bind_error
      | ok description =>
        rw [told] at polls
        cases decides : decided? handle.id description with
        | some outcome =>
          refine ⟨_, outcome, asked, looks.bind_cons ?_, .settled within told decides⟩
          simp only [within]
          refine polls.bind_cons ?_
          cases status : description.status with
          | running =>
            rw [decided?, status] at decides
            cases decides
          | finished | failed | aborted =>
            rw [decided?, status] at decides
            obtain rfl := Option.some.inj decides
            exact Takes.ofOutcome client.service _ asked
        | none =>
          obtain ⟨rested, rests⟩ := Takes.pause client.service client.config.pollInterval asked
          obtain ⟨events, outcome, after, takes, later⟩ := inductionHypothesis rested
          refine ⟨_, outcome, after, looks.bind_cons ?_, .running within told decides later⟩
          simp only [within]
          refine polls.bind_cons ?_
          simp only [status_of_undecided decides]
          exact rests.bind_cons takes

/-- The pages of a result are fetched in one of the ways listed. -/
theorem takes_pagesFrom (client : Client σ) (handle : Handle) (token : Value)
    (columns : List Value) (rows : Array BackendRow) (patience : Nat) (before : Session σ) :
    ∃ events outcome after,
      Takes client.service (client.pagesFrom handle token columns rows patience) before events
        outcome after ∧
      Pages handle.id patience token columns rows events outcome := by
  induction patience generalizing token columns rows before with
  | zero => exact ⟨[], _, before, Takes.ofOutcome client.service _ before, .unfinished⟩
  | succ patience inductionHypothesis =>
    obtain ⟨answer, asked, asks⟩ := client.takes_request .getStatementResult
      (("Id", handle.id) :: pageArgument token) before
    unfold pagesFrom
    cases told : paged columns answer with
    | error failure => exact ⟨_, _, asked, asks.bind_unfound told, .broken told⟩
    | ok page =>
      cases continued : page.next.isPresent with
      | false =>
        refine ⟨_, _, asked, asks.bind_found told ?_, .last told continued⟩
        simp only [continued]
        exact Takes.ofOutcome client.service _ asked
      | true =>
        obtain ⟨events, outcome, after, takes, pages⟩ :=
          inductionHypothesis page.next page.columns (rows ++ page.rows) asked
        refine ⟨_, outcome, after, asks.bind_found told ?_, .more told continued pages⟩
        simp only [continued]
        exact takes

/-- The result of a statement is the table of all its pages, and counts as taken from the
    first page on. -/
theorem startIn_fetch_of_fresh (client : Client σ) {handle : Handle}
    (fresh : handle.consumed = false) (before : Session σ) :
    let taken := { handle with consumed := true }
    let paged := (client.pagesFrom taken .null [] #[] client.patience).startIn before
    client.fetch.startIn (before, handle) =
      ((fun result => { columns := result.1, rows := result.2, rowCount := .int result.2.length
                        sql := handle.sql }) <$> paged.1, (paged.2, taken)) := by
  intro taken paged
  have consumes : (consume.onSecond : Run (Session σ × Handle) Unit).startIn (before, handle) =
      (.ok (), (before, taken)) := by
    cases handle
    cases fresh
    rfl
  have looks : (get : Run (Session σ × Handle) _).startIn (before, taken) =
      (.ok (before, taken), (before, taken)) := rfl
  have pagesRun : ((client.pagesFrom taken .null [] #[] client.patience).onFirst :
      Run (Session σ × Handle) _).startIn (before, taken) = (paged.1, (paged.2, taken)) := rfl
  rw [fetch, Run.startIn_bind_of_ok consumes, Run.startIn_bind_of_ok looks]
  cases outcome : paged.1 with
  | error failure =>
    rw [outcome] at pagesRun
    rw [Run.startIn_bind_of_error pagesRun]
    rfl
  | ok result =>
    rw [outcome] at pagesRun
    rw [Run.startIn_bind_of_ok pagesRun]
    rfl

/-- Fetching the result of a statement of which nothing was fetched yet is fetching its
    pages. -/
theorem takes_fetch (client : Client σ) (handle : Handle) (fresh : handle.consumed = false)
    (before : Session σ) :
    ∃ events outcome after,
      Takes client.service (Run.alongside handle client.fetch) before events
        ((fun result => { columns := result.1, rows := result.2, rowCount := .int result.2.length
                          sql := handle.sql }) <$> outcome) after ∧
      Pages handle.id client.patience .null [] #[] events outcome := by
  let taken : Handle := { handle with consumed := true }
  obtain ⟨events, outcome, after, takes, pages⟩ :=
    client.takes_pagesFrom taken .null [] #[] client.patience before
  refine ⟨events, outcome, after, ⟨?_, takes.path, takes.requests⟩, pages⟩
  have alongside : (Run.alongside handle client.fetch).startIn before =
      let ran := client.fetch.startIn (before, handle)
      (ran.1, ran.2.1) := rfl
  rw [alongside, client.startIn_fetch_of_fresh fresh, takes.runs]

/-- A query is submitted at a target, and the answer names the statement or not. -/
theorem takes_submit (client : Client σ) (sql : String) (before : Session σ)
    {target : List (String × Value)} (configured : client.config.target = .ok target) :
    ∃ answer after, Takes client.service (client.submit sql) before
      [.asked (submission sql target) answer]
      ((fun id => ({ id, sql } : Handle)) <$> submitted answer) after := by
  obtain ⟨answer, after, asks⟩ :=
    client.takes_request .executeStatement (("Sql", .string sql) :: target) before
  refine ⟨answer, after, ?_⟩
  unfold submit
  rw [configured]
  refine (Takes.ofOutcome client.service (.ok target) before).bind ?_
  cases named : submitted answer with
  | error failure => exact asks.bind_unfound named
  | ok id =>
    have gives : Takes client.service (Run.ofOutcome (.ok ({ id, sql } : Handle))) after []
        (.ok { id, sql }) after := Takes.ofOutcome client.service _ after
    exact asks.bind_found named gives

/-- A query without a target is not submitted. -/
theorem takes_submit_unconfigured (client : Client σ) (sql : String) (before : Session σ)
    {failure : Failure} (nowhere : client.config.target = .error failure) :
    Takes client.service (client.submit sql) before [] (.error failure) before := by
  unfold submit
  rw [nowhere]
  exact (Takes.ofOutcome client.service (.error failure) before).bind_error

/-- A statement without a result to fetch counts as taken, and nothing happens. -/
theorem takes_consume (client : Client σ) (handle : Handle) (fresh : handle.consumed = false)
    (session : Session σ) :
    Takes client.service (Run.alongside handle consume.onSecond) session [] (.ok ()) session := by
  cases handle
  cases fresh
  exact Takes.ofOutcome client.service (.ok ()) session

/-- Every query has one of the histories listed. -/
theorem takes_run (client : Client σ) (sql : String) (before : Session σ) :
    ∃ events outcome after, Takes client.service (client.run sql) before events outcome after ∧
      Lifecycle client.config client.patience sql events outcome := by
  unfold run
  cases configured : client.config.target with
  | error failure =>
    have submits := client.takes_submit_unconfigured sql before configured
    exact ⟨_, _, before, submits.bind_error, .unconfigured configured⟩
  | ok target =>
    obtain ⟨answer, sent, submits⟩ := client.takes_submit sql before configured
    cases named : submitted answer with
    | error failure =>
      rw [named] at submits
      exact ⟨_, _, sent, submits.bind_error, .refused configured named⟩
    | ok id =>
      rw [named] at submits
      have sends : Takes client.service (client.submit sql) before
          [.asked (submission sql target) answer] (.ok { id, sql }) sent := submits
      obtain ⟨start, begun, looks⟩ := Takes.now client.service sent
      obtain ⟨waiting, ended, waited, waits, ways⟩ :=
        client.takes_waitFrom { id, sql } start client.config.maxWait client.patience begun
      have waitsFromStart : Takes client.service (client.wait { id, sql }) sent
          (.seen start :: waiting) ended waited := looks.bind_cons waits
      cases ended with
      | error failure =>
        have lifecycle : Lifecycle client.config client.patience sql _ _ := .unended configured named ways
        exact ⟨_, _, waited, sends.bind_cons waitsFromStart.bind_error, lifecycle⟩
      | ok description =>
        cases full : description.hasResult with
        | false =>
          have lifecycle : Lifecycle client.config client.patience sql _ _ := .counted configured named ways full
          refine ⟨_, _, waited, sends.bind_cons ?_, lifecycle⟩
          rw [← List.append_nil (.seen start :: waiting)]
          refine waitsFromStart.bind ?_
          simp only [full]
          refine (client.takes_consume { id, sql } rfl waited).bind ?_
          exact Takes.ofOutcome client.service (.ok _) waited
        | true =>
          obtain ⟨paging, outcome, after, fetches, pages⟩ :=
            client.takes_fetch { id, sql } rfl waited
          have lifecycle : Lifecycle client.config client.patience sql _ _ :=
            .fetched configured named ways full pages
          refine ⟨_, _, after, sends.bind_cons ?_, lifecycle⟩
          rw [← List.cons_append]
          refine waitsFromStart.bind ?_
          simp only [full]
          exact fetches

end Client

end SqlGateway.Warehouse
