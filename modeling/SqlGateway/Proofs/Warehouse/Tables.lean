import SqlGateway.Proofs.Result.Columns
import SqlGateway.Proofs.Warehouse.Conduct

/-!
# Tables of the warehouse

The result of a statement is told in pages. The first page with columns names them for all
pages behind it, so if the first page of all has columns, every record of every page comes
under the same ones. What is told about such a result is that it tabulates the records of
all pages in their order; records need to be as wide as the columns for that.

A statement that has finished without a result to fetch is not asked for pages. Its result
has no columns and no rows, and the number of changed rows is never below zero.
-/

namespace SqlGateway.Warehouse

/-- The columns that an answer describes, as far as there are any. -/
def describedColumns (answer : Value) : Outcome (List Value) := do
  (Value.Entries.get (← answer.entries) "ColumnMetadata").listed

/-- The records in an answer, each as the values of its fields. -/
def records (answer : Value) : Outcome (List (List Value)) := do
  (← (Value.Entries.get (← answer.entries) "Records").listed).mapM recordValues

/-- The answers to the requests for pages in a history, in order. Faults are no answers. -/
def pageAnswers (events : List Event) : List Value :=
  events.filterMap fun
    | .asked request answer =>
        if request.operation = .getStatementResult then (answered answer).toOption else none
    | _ => none

/-- Each of some answers is read as the records beside it. -/
def Recorded : List Value → List (List (List Value)) → Prop :=
  List.Forall₂ fun answer found => records answer = .ok found

/-- What a history decides about a result that came of it. -/
inductive Yields (events : List Event) (result : QueryResult) : Prop where
  /-- The statement has finished without a result to fetch. -/
  | counted {id : Value} {description : Description} (said : Says events id description)
      (finished : description.status = .finished) (empty : description.hasResult = false)
      (unfetched : pageAnswers events = [])
      (rowCount : result.rowCount = .int description.resultRows) (counts : result.Counts) :
      Yields events result
  /-- The statement has finished with a result, whose pages were fetched. -/
  | fetched {id : Value} {description : Description} {first : Value} {later : List Value}
      {found : List (List (List Value))} (said : Says events id description)
      (finished : description.status = .finished) (full : description.hasResult = true)
      (fetched : pageAnswers events = first :: later)
      (recorded : Recorded (first :: later) found)
      (table : (∃ column others, describedColumns first = .ok (column :: others)) →
        (∀ record ∈ found.flatten, record.length = result.columns.length) →
        result.Tabulates found.flatten) :
      Yields events result

/-- As many columns are named as are described. -/
theorem length_columnNames (position : Nat) (described : List Value.Entries) :
    (columnNames position described).length = described.length := by
  induction described generalizing position with
  | nil => rfl
  | cons column rest inductionHypothesis => simp [columnNames, inductionHypothesis]

/-- The columns that an answer names are distinct, and there are as many as it
    describes. -/
theorem readColumns_distinct {entries : Value.Entries} {columns : List Value}
    (named : readColumns entries = .ok columns) :
    columns.Pairwise Column.Differ ∧
      ∃ described, (entries.get "ColumnMetadata").listed = .ok described ∧
        columns.length = described.length := by
  obtain ⟨described, told, named⟩ := exists_of_bind_ok named
  obtain ⟨metadata, read, named⟩ := exists_of_bind_ok named
  obtain ⟨distinct, count⟩ := Column.pairwise_ofNames named
  refine ⟨distinct, described, told, ?_⟩
  rw [count, length_columnNames, (forall₂_of_mapM read).length_eq]

/-- What a page is made of: its columns are those of its answer if none are known yet, and
    its rows have the records of its answer under them. -/
theorem page_of_answer {columns : List Value} {answer : Value} {page : Page}
    (told : Page.ofAnswer columns answer = .ok page) :
    ∃ entries, answer.entries = .ok entries ∧
      (if columns.isEmpty then readColumns entries else .ok columns) = .ok page.columns ∧
      ∃ found, records answer = .ok found ∧
        page.rows = found.map (BackendRow.ofRecord page.columns) := by
  obtain ⟨entries, isMap, told⟩ := exists_of_bind_ok told
  have rest : ∃ pageColumns, (if columns.isEmpty then readColumns entries else .ok columns) =
      .ok pageColumns ∧ ((entries.get "Records").listed >>= fun listed =>
        listed.mapM recordValues >>= fun found =>
          (.ok { columns := pageColumns, rows := found.map (BackendRow.ofRecord pageColumns)
                 next := entries.get "NextToken" } : Outcome Page)) = .ok page := by
    cases columns with
    | nil => exact exists_of_bind_ok told
    | cons column others => exact exists_of_bind_ok told
  obtain ⟨pageColumns, named, told⟩ := rest
  obtain ⟨listed, isListed, told⟩ := exists_of_bind_ok told
  obtain ⟨found, read, told⟩ := exists_of_bind_ok told
  cases told
  refine ⟨entries, isMap, named, found, ?_, rfl⟩
  simp only [records, isMap, bind, Except.bind, isListed, read]

/-- A page does not change columns that are known. -/
theorem page_columns_of_known {columns : List Value} (known : columns ≠ []) {answer : Value}
    {page : Page} (told : Page.ofAnswer columns answer = .ok page) : page.columns = columns := by
  obtain ⟨entries, _, named, _⟩ := page_of_answer told
  rw [if_neg (by simpa using known)] at named
  exact (Except.ok.inj named).symm

/-- A page before which no columns are known has distinct columns, as many as its answer
    describes. -/
theorem page_columns_first {answer : Value} {page : Page}
    (told : Page.ofAnswer [] answer = .ok page) :
    page.columns.Pairwise Column.Differ ∧
      ∃ described, describedColumns answer = .ok described ∧
        page.columns.length = described.length := by
  obtain ⟨entries, isMap, named, _⟩ := page_of_answer told
  obtain ⟨distinct, described, isDescribed, count⟩ := readColumns_distinct named
  refine ⟨distinct, described, ?_, count⟩
  simp only [describedColumns, isMap, bind, Except.bind, isDescribed]

/-- The answer behind a page comes first among the answers of a history that begins with
    its request. -/
theorem pageAnswers_cons {columns : List Value} {answer : Except Fault Value} {page : Page}
    (told : paged columns answer = .ok page) (id token : Value) (events : List Event) :
    ∃ given, Page.ofAnswer columns given = .ok page ∧
      pageAnswers (.asked (pageRequest id token) answer :: events) =
        given :: pageAnswers events := by
  obtain ⟨given, isGiven, read⟩ := exists_of_bind_ok told
  refine ⟨given, read, ?_⟩
  simp [pageAnswers, pageRequest, isGiven, Except.toOption]

/-- All pages that a result was fetched from were read. Once the columns are known, all of
    them come under these: the result has the rows so far and behind them the records of the
    pages. The induction is on the pages. -/
theorem Pages.recorded {id token : Value} {patience : Nat} {columns : List Value}
    {rows : Array BackendRow} {events : List Event}
    {outcome : Outcome (List Value × List BackendRow)}
    (pages : Pages id patience token columns rows events outcome)
    {result : List Value × List BackendRow} (gives : outcome = .ok result) :
    ∃ found, Recorded (pageAnswers events) found ∧
      (columns ≠ [] → result.1 = columns ∧
        result.2 = rows.toList ++ found.flatten.map (BackendRow.ofRecord columns)) := by
  induction pages with
  | unfinished => cases gives
  | broken => cases gives
  | @last _ token columns rows answer page told final =>
    obtain ⟨given, read, answers⟩ := pageAnswers_cons told id token []
    obtain ⟨_, _, _, found, isFound, pageRows⟩ := page_of_answer read
    cases gives
    refine ⟨[found], ?_, ?_⟩
    · rw [answers]
      exact .cons isFound .nil
    · intro known
      have sameColumns := page_columns_of_known known read
      exact ⟨sameColumns, by simp [pageRows, sameColumns]⟩
  | @more _ token columns rows answer page events outcome told continued later
      inductionHypothesis =>
    obtain ⟨given, read, answers⟩ := pageAnswers_cons told id token events
    obtain ⟨_, _, _, found, isFound, pageRows⟩ := page_of_answer read
    obtain ⟨others, recorded, following⟩ := inductionHypothesis gives
    refine ⟨found :: others, ?_, ?_⟩
    · rw [answers]
      exact .cons isFound recorded
    · intro known
      have sameColumns := page_columns_of_known known read
      obtain ⟨laterColumns, laterRows⟩ := following (sameColumns ▸ known)
      refine ⟨laterColumns.trans sameColumns, ?_⟩
      rw [laterRows, sameColumns]
      simp [pageRows, sameColumns]

/-- The first page of all is followed by the others under its columns. If it describes any,
    the result tabulates the records of all pages, given that they are as wide as the
    columns. -/
theorem Pages.tabulates {id token : Value} {patience : Nat} {events : List Event}
    {result : List Value × List BackendRow}
    (pages : Pages id patience token [] #[] events (.ok result)) (sql : String) :
    ∃ first later found, pageAnswers events = first :: later ∧ Recorded (first :: later) found ∧
      ((∃ column others, describedColumns first = .ok (column :: others)) →
        (∀ record ∈ found.flatten, record.length = result.1.length) →
        QueryResult.Tabulates
          { columns := result.1, rows := result.2, rowCount := .int result.2.length, sql }
          found.flatten) := by
  cases pages with
  | @last _ _ _ _ answer page told final =>
    obtain ⟨first, read, answers⟩ := pageAnswers_cons told id token []
    obtain ⟨_, _, _, found, isFound, pageRows⟩ := page_of_answer read
    refine ⟨first, [], [found], answers, .cons isFound .nil, ?_⟩
    intro _ wide
    rw [List.flatten_singleton] at wide ⊢
    have table := QueryResult.tabulates_ofRecords (page_columns_first read).1 wide sql
    rw [← pageRows] at table
    simpa using table
  | @more _ _ _ _ answer page events _ told continued following =>
    obtain ⟨first, read, answers⟩ := pageAnswers_cons told id token events
    obtain ⟨_, _, _, found, isFound, pageRows⟩ := page_of_answer read
    obtain ⟨others, recorded, under⟩ := following.recorded rfl
    refine ⟨first, pageAnswers events, found :: others, answers, .cons isFound recorded, ?_⟩
    rintro ⟨column, more, describes⟩ wide
    obtain ⟨distinct, described, isDescribed, count⟩ := page_columns_first read
    obtain rfl := Except.ok.inj (isDescribed.symm.trans describes)
    have known : page.columns ≠ [] := by
      intro none
      rw [none] at count
      cases count
    obtain ⟨sameColumns, allRows⟩ := under known
    rw [sameColumns] at wide ⊢
    have table := QueryResult.tabulates_ofRecords distinct wide sql
    have rows : result.2 = (found :: others).flatten.map (BackendRow.ofRecord page.columns) := by
      rw [allRows, pageRows, List.flatten_cons, List.map_append]
      simp
    rw [← rows] at table
    exact table

/-- Events that fetch nothing bring no answers to requests for pages. -/
theorem pageAnswers_of_unfetched {event : Event}
    (unfetched : ¬ event.Requests .getStatementResult) (events : List Event) :
    pageAnswers (event :: events) = pageAnswers events := by
  cases event with
  | asked request answer => exact List.filterMap_cons_none (if_neg unfetched)
  | seen => rfl
  | rested => rfl

/-- The answers in one history and in another one behind it. -/
theorem pageAnswers_append (events more : List Event) :
    pageAnswers (events ++ more) = pageAnswers events ++ pageAnswers more :=
  List.filterMap_append

/-- An inquiry fetches nothing. -/
theorem not_requests_inquiry (id : Value) (answer : Except Fault Value) :
    ¬ (Event.asked (inquiry id) answer).Requests .getStatementResult :=
  fun requests => Operation.noConfusion requests

/-- A submission fetches nothing. -/
theorem not_requests_submission (sql : String) (target : List (String × Value))
    (answer : Except Fault Value) :
    ¬ (Event.asked (submission sql target) answer).Requests .getStatementResult :=
  fun requests => Operation.noConfusion requests

/-- A wait fetches nothing, and a description that it gives was told by the service about a
    statement that has finished. The induction is on the rounds of the wait. -/
theorem Waits.gives {config : Config} {id : Value} {start longest : Binary64} {patience : Nat}
    {events : List Event} {outcome : Outcome Description}
    (waits : Waits config id start longest patience events outcome) :
    pageAnswers events = [] ∧ ∀ description, outcome = .ok description →
      Says events id description ∧ description.status = .finished := by
  induction waits with
  | unfinished => exact ⟨rfl, fun _ gives => nomatch gives⟩
  | @running _ now answer _ events _ _ _ _ _ inductionHypothesis =>
    obtain ⟨unfetched, later⟩ := inductionHypothesis
    constructor
    · rw [pageAnswers_of_unfetched (Event.not_requests_seen _ _),
        pageAnswers_of_unfetched (not_requests_inquiry id answer),
        pageAnswers_of_unfetched (Event.not_requests_rested _ _), unfetched]
    · intro description gives
      obtain ⟨said, finished⟩ := later description gives
      exact ⟨said.mono fun event member => by simp [member], finished⟩
  | @settled _ now answer description outcome _ told decides =>
    constructor
    · rw [pageAnswers_of_unfetched (Event.not_requests_seen _ _),
        pageAnswers_of_unfetched (not_requests_inquiry id answer)]
      rfl
    · intro given gives
      rw [gives] at decides
      obtain ⟨rfl, finished⟩ := finished_of_decided decides
      exact ⟨said_inquired told, finished⟩
  | @unclear _ now answer =>
    refine ⟨?_, fun _ gives => nomatch gives⟩
    rw [pageAnswers_of_unfetched (Event.not_requests_seen _ _),
      pageAnswers_of_unfetched (not_requests_inquiry id answer)]
    rfl
  | expired => exact ⟨rfl, fun _ gives => nomatch gives⟩
  | cancelled =>
    exact ⟨rfl, fun _ gives => absurd gives (cancelled_ne_ok _)⟩

/-- A description never counts fewer than no rows. -/
theorem resultRows_nonneg {answer : Except Fault Value} {description : Description}
    (told : described answer = .ok description) : 0 ≤ description.resultRows := by
  obtain ⟨given, _, told⟩ := exists_of_bind_ok told
  obtain ⟨entries, _, told⟩ := exists_of_bind_ok told
  obtain ⟨status, _, told⟩ := exists_of_bind_ok told
  have counted : ∃ count, description.resultRows = max count 0 := by
    dsimp only at told
    split at told
    · obtain ⟨count, _, told⟩ := exists_of_bind_ok told
      cases told
      exact ⟨count, rfl⟩
    · obtain ⟨count, _, told⟩ := exists_of_bind_ok told
      cases told
      exact ⟨count, rfl⟩
  obtain ⟨count, counts⟩ := counted
  rw [counts]
  omega

/-- Every listed history yields what it decides about a result. -/
theorem Lifecycle.yields {config : Config} {patience : Nat} {sql : String} {events : List Event}
    {outcome : Outcome QueryResult} (lifecycle : Lifecycle config patience sql events outcome)
    {result : QueryResult} (gives : outcome = .ok result) : Yields events result := by
  cases lifecycle with
  | unconfigured => cases gives
  | refused => cases gives
  | unended => cases gives
  | @counted target answer id start waiting description _ _ waits empty =>
    cases gives
    obtain ⟨unfetched, given⟩ := waits.gives
    obtain ⟨said, finished⟩ := given description rfl
    have longer : Says (.asked (submission sql target) answer :: .seen start :: waiting) id
        description := said.mono fun event member => by simp [member]
    obtain ⟨_, _, told⟩ := said
    refine .counted longer finished empty ?_ rfl ⟨rfl, rfl, .whole description.resultRows, rfl, ?_⟩
    · rw [pageAnswers_of_unfetched (not_requests_submission sql target answer),
        pageAnswers_of_unfetched (Event.not_requests_seen _ _), unfetched]
    · have counts := resultRows_nonneg told
      simpa [Number.isLess, Number.whole] using counts
  | @fetched target answer id start waiting paging description fetched _ _ waits full pages =>
    cases fetched with
    | error failure => cases gives
    | ok pair =>
      cases gives
      obtain ⟨unfetched, given⟩ := waits.gives
      obtain ⟨said, finished⟩ := given description rfl
      have longer : Says (.asked (submission sql target) answer :: .seen start ::
          (waiting ++ paging)) id description := said.mono fun event member => by simp [member]
      obtain ⟨first, later, found, answers, recorded, table⟩ := pages.tabulates sql
      refine .fetched longer finished full ?_ recorded table
      rw [pageAnswers_of_unfetched (not_requests_submission sql target answer),
        pageAnswers_of_unfetched (Event.not_requests_seen _ _), pageAnswers_append, unfetched,
        List.nil_append, answers]

/-- A result that a client gives comes of a history that the service goes through, and this
    decides about its columns and rows. -/
theorem Client.yields_of_execute {σ : Type} (client : Client σ) (sql : String)
    {before after : Session σ} {result : QueryResult}
    (gives : (client.execute sql).startIn before = (.ok result, after)) :
    ∃ events, client.service.Path before.state events after.state ∧ Yields events result := by
  obtain ⟨events, outcome, ended, takes, lifecycle⟩ := client.takes_run sql before
  have executes := (takes.mapFailure Failure.ofExecution).runs
  have same : (outcome.mapError Failure.ofExecution, ended) = (.ok result, after) :=
    executes.symm.trans gives
  obtain ⟨given, rfl⟩ := Prod.mk.inj same
  refine ⟨events, takes.path, lifecycle.yields ?_⟩
  cases outcome with
  | error failure => cases given
  | ok value => exact given

end SqlGateway.Warehouse
