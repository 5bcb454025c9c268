import SqlGateway.Proofs.Warehouse.Conduct
import SqlGateway.Proofs.Warehouse.Tables

/-!
# Fetching a result page by page

A service keeps a result in a chain of pages: each page is given for the token that the page
before it has told, and the last page tells none. Such a chain is fetched from its first page
to its last one, each page once, and the result has one row for every record of the chain. It
depends on the records in their order, and not on how they are spread over pages.

A result can be fetched once. The statement counts as taken before its first page is asked
for, so whatever becomes of the first call, every later one fails without asking anything.
-/

namespace SqlGateway

/-- Names stay as they are where names are needed. -/
theorem Column.ofNames_of_names {names : List Value} (areNames : ∀ name ∈ names, name.IsName) :
    ofNames names = .ok (distinct names) := by
  have named : names.mapM Value.asName = .ok names := by
    simpa using mapM_of_forall id areNames
  rw [ofNames, named]
  rfl

namespace Warehouse

/-- A page as the service keeps it. -/
structure Sheet where
  /-- What is told about the columns. It counts on the first page alone. -/
  metadata : Value
  /-- The fields of the records. -/
  records : List (List Value.Entries)
  /-- What asks for the page after it, if there is one. -/
  next : Value

/-- An answer tells a page. It may tell more than that, and leave out what is empty. -/
structure Sheet.ToldBy (sheet : Sheet) (entries : Value.Entries) : Prop where
  /-- The columns, as far as they are described. -/
  metadata : entries.get "ColumnMetadata" = sheet.metadata
  /-- The records with all their fields. -/
  records : (entries.get "Records").listed =
    .ok (sheet.records.map fun record => .list (record.map Value.map))
  /-- The token of the page after it. -/
  next : entries.get "NextToken" = sheet.next

/-- The pages that a service gives for the result of a statement from a token on. Each of them
    tells the token of the one behind it, and the last one tells none. -/
inductive Serves {σ : Type} (service : Service σ) (id : Value) :
    Value → σ → List Sheet → σ → Prop
  | last {token : Value} {before after : σ} {sheet : Sheet} {entries : Value.Entries}
      (answers : service.answer (pageRequest id token) before = (.ok (.map entries), after))
      (tells : sheet.ToldBy entries) (final : sheet.next.isPresent = false) :
      Serves service id token before [sheet] after
  | more {token : Value} {before middle after : σ} {sheet : Sheet} {entries : Value.Entries}
      {later : List Sheet}
      (answers : service.answer (pageRequest id token) before = (.ok (.map entries), middle))
      (tells : sheet.ToldBy entries) (continued : sheet.next.isPresent = true)
      (serves : Serves service id sheet.next middle later after) :
      Serves service id token before (sheet :: later) after

/-- The requests for the pages of a chain: the first token, and the one that each page but the
    last tells. -/
def chainRequests (id token : Value) (sheets : List Sheet) : List Request :=
  (token :: sheets.map Sheet.next).dropLast.map (pageRequest id)

/-- The result with some records under columns. -/
def tableOf (columns : List Value.Entries) (records : List (List Value.Entries)) (sql : String) :
    QueryResult :=
  let names := Column.distinct (columnNames 0 columns)
  let rows := records.map fun record => BackendRow.ofRecord names (record.map fieldValue)
  { columns := names, rows, rowCount := .int rows.length, sql }

/-- A result is there to be fetched in a chain of pages that the service gives one after
    another. The first one describes at least one column, whatever names a column can be a
    name, and every record is as wide as the columns. -/
structure Chain {σ : Type} (client : Client σ) (handle : Handle) (before : Session σ)
    (columns : List Value.Entries) (sheets : List Sheet) (after : σ) : Prop where
  /-- Nothing of the result was fetched yet. -/
  fresh : handle.consumed = false
  /-- The pages are given one after another. -/
  serves : Serves client.service handle.id .null before.state sheets after
  /-- The client follows the chain to its end. -/
  followed : sheets.length ≤ client.patience
  /-- The first page describes the columns. -/
  described : ∃ first, sheets.head? = some first ∧
    first.metadata.listed = .ok (columns.map Value.map)
  /-- There is a column. -/
  nonempty : columns ≠ []
  /-- What names a column can be a name. -/
  named : ∀ name ∈ columnNames 0 columns, name.IsName
  /-- The records are as wide as the columns. -/
  wide : ∀ sheet ∈ sheets, ∀ record ∈ sheet.records, record.length = columns.length

/-- A record is read field by field. -/
theorem recordValues_of_fields (fields : List Value.Entries) :
    recordValues (.list (fields.map Value.map)) = .ok (fields.map fieldValue) := by
  have each : ((fields.map Value.map).mapM fun field => fieldValue <$> field.entries) =
      .ok (fields.map fieldValue) := by
    rw [List.mapM_map]
    exact mapM_of_forall _ fun field _ => rfl
  exact each

/-- An answer that tells a page is read as this page, under columns that are known or that it
    describes itself. -/
theorem Sheet.ToldBy.page {sheet : Sheet} {entries : Value.Entries} (tells : sheet.ToldBy entries)
    {columns names : List Value}
    (named : (if columns.isEmpty then readColumns entries else .ok columns) = .ok names) :
    Page.ofAnswer columns (.map entries) =
      .ok { columns := names
            rows := sheet.records.map fun record =>
              BackendRow.ofRecord names (record.map fieldValue)
            next := sheet.next } := by
  have read : (sheet.records.map fun record => Value.list (record.map Value.map)).mapM
      recordValues = .ok (sheet.records.map fun record => record.map fieldValue) := by
    rw [List.mapM_map]
    exact mapM_of_forall _ fun record _ => recordValues_of_fields record
  have rows : ((entries.get "Records").listed >>= fun listed =>
      listed.mapM recordValues >>= fun found =>
        (.ok { columns := names, rows := found.map (BackendRow.ofRecord names)
               next := entries.get "NextToken" } : Outcome Page)) =
      .ok { columns := names
            rows := sheet.records.map fun record =>
              BackendRow.ofRecord names (record.map fieldValue)
            next := sheet.next } := by
    rw [tells.records, tells.next]
    simp only [bind, Except.bind, read, List.map_map]
    rfl
  cases columns with
  | nil =>
    have describes : readColumns entries = .ok names := named
    have whole : Page.ofAnswer [] (.map entries) = readColumns entries >>= fun names => _ := rfl
    rw [whole, describes]
    exact rows
  | cons column others =>
    cases named
    exact rows

/-- The columns that a page describes get distinct names. -/
theorem Sheet.ToldBy.readColumns_eq {sheet : Sheet} {entries : Value.Entries}
    (tells : sheet.ToldBy entries) {columns : List Value.Entries}
    (described : sheet.metadata.listed = .ok (columns.map Value.map))
    (named : ∀ name ∈ columnNames 0 columns, name.IsName) :
    readColumns entries = .ok (Column.distinct (columnNames 0 columns)) := by
  have read : (columns.map Value.map).mapM Value.entries = .ok columns := by
    have each : columns.mapM (Value.entries ∘ Value.map) = .ok (columns.map id) :=
      mapM_of_forall id fun _ _ => rfl
    rw [List.mapM_map, each, List.map_id]
  unfold readColumns
  rw [tells.metadata, described]
  simp only [bind, Except.bind, read]
  exact Column.ofNames_of_names named

namespace Client

variable {σ : Type}

/-- One round of fetching: a page is asked for and read, and its token decides whether another
    round follows. -/
theorem startIn_pagesFrom_succ (client : Client σ) {handle : Handle} {token : Value}
    {before after : σ} {answer : Value} {columns : List Value} {page : Page}
    (answers : client.service.answer (pageRequest handle.id token) before = (.ok answer, after))
    (read : Page.ofAnswer columns answer = .ok page) (rows : Array BackendRow) (patience : Nat)
    (requests : Array Request) :
    let session := { state := after, requests := requests.push (pageRequest handle.id token) }
    (client.pagesFrom handle token columns rows (patience + 1)).startIn
        { state := before, requests } =
      if page.next.isPresent then
        (client.pagesFrom handle page.next page.columns (rows ++ page.rows) patience).startIn session
      else (.ok (page.columns, (rows ++ page.rows).toList), session) := by
  intro session
  have asks : (client.request .getStatementResult (("Id", handle.id) :: pageArgument token)).startIn
      { state := before, requests } = (.ok answer, session) := by
    rw [startIn_request, ← pageRequest, answers]
    rfl
  have reads : (Run.ofOutcome (Page.ofAnswer columns answer)).startIn session =
      (.ok page, session) := by
    rw [read]
    rfl
  rw [pagesFrom, Run.startIn_bind_of_ok asks, Run.startIn_bind_of_ok reads]
  split
  · rfl
  · rfl

/-- A chain of pages is fetched from a token on: its requests are asked for in order, and its
    records come behind the rows so far, under columns that are known or that the first page
    describes. The induction is on the chain. -/
theorem startIn_pagesFrom (client : Client σ) (handle : Handle) {token : Value} {before after : σ}
    {sheets : List Sheet} (serves : Serves client.service handle.id token before sheets after)
    {columns names : List Value} (nonempty : names ≠ [])
    (named : ∀ sheet entries, sheets.head? = some sheet → sheet.ToldBy entries →
      (if columns.isEmpty then readColumns entries else .ok columns) = .ok names)
    (rows : Array BackendRow) {patience : Nat} (followed : sheets.length ≤ patience)
    (requests : Array Request) :
    (client.pagesFrom handle token columns rows patience).startIn { state := before, requests } =
      (.ok (names, rows.toList ++ (sheets.flatMap Sheet.records).map fun record =>
          BackendRow.ofRecord names (record.map fieldValue)),
        { state := after
          requests := requests ++ (chainRequests handle.id token sheets).toArray }) := by
  induction serves generalizing columns rows patience requests with
  | @last token before after sheet entries answers tells final =>
    have page := tells.page (named sheet entries rfl tells)
    cases patience with
    | zero => cases followed
    | succ rounds =>
      rw [client.startIn_pagesFrom_succ answers page]
      simp [final, chainRequests]
  | @more token before middle after sheet entries later answers tells continued serves
      inductionHypothesis =>
    have page := tells.page (named sheet entries rfl tells)
    have known : ∀ other fields, later.head? = some other → other.ToldBy fields →
        (if names.isEmpty then readColumns fields else .ok names) = .ok names := by
      intro other fields _ _
      rw [if_neg (by simpa using nonempty)]
    have asked : chainRequests handle.id token (sheet :: later) =
        pageRequest handle.id token :: chainRequests handle.id sheet.next later := rfl
    cases patience with
    | zero => cases followed
    | succ rounds =>
      rw [client.startIn_pagesFrom_succ answers page]
      dsimp only
      rw [if_pos continued, inductionHypothesis known _ (Nat.le_of_succ_le_succ followed), asked]
      simp

/-- A chain of pages is fetched as a whole, and its records become the rows of a table. -/
theorem startIn_fetch_of_chain (client : Client σ) {handle : Handle} {before : Session σ}
    {columns : List Value.Entries} {sheets : List Sheet} {after : σ}
    (chain : Chain client handle before columns sheets after) :
    client.fetch.startIn (before, handle) =
      (.ok (tableOf columns (sheets.flatMap Sheet.records) handle.sql),
        ({ state := after
           requests := before.requests ++ (chainRequests handle.id .null sheets).toArray },
          { handle with consumed := true })) := by
  have nonempty : Column.distinct (columnNames 0 columns) ≠ [] := by
    rw [← List.length_pos_iff, Column.distinct, Column.length_distinctFrom, length_columnNames]
    exact List.length_pos_iff.mpr chain.nonempty
  have named : ∀ sheet entries, sheets.head? = some sheet → sheet.ToldBy entries →
      (if ([] : List Value).isEmpty then readColumns entries else .ok []) =
        .ok (Column.distinct (columnNames 0 columns)) := by
    intro sheet entries isFirst tells
    obtain ⟨first, found, described⟩ := chain.described
    obtain rfl := Option.some.inj (found.symm.trans isFirst)
    exact tells.readColumns_eq described chain.named
  have pages := client.startIn_pagesFrom { handle with consumed := true }
    chain.serves nonempty named #[] chain.followed before.requests
  rw [client.startIn_fetch_of_fresh chain.fresh, pages]
  rfl

/-- A result that was taken is not fetched again, and nothing is asked. -/
theorem startIn_fetch_of_taken (client : Client σ) {handle : Handle} (taken : handle.consumed = true)
    (before : Session σ) :
    client.fetch.startIn (before, handle) =
      ((Fault.connector ("Result for statement " ++ handle.id.text
        ++ " has already been fetched.")).raise, (before, handle)) := by
  cases handle
  cases taken
  rfl

/-- Whatever comes of a call, the result counts as taken after it. -/
theorem consumed_of_startIn_fetch (client : Client σ) (handle : Handle) (before : Session σ) :
    (client.fetch.startIn (before, handle)).2.2.consumed = true := by
  cases taken : handle.consumed with
  | false => rw [client.startIn_fetch_of_fresh taken]
  | true =>
    rw [client.startIn_fetch_of_taken taken]
    exact taken

end Client

/-- The records of a chain are tabulated under its columns. -/
theorem tabulates_tableOf {columns : List Value.Entries} {records : List (List Value.Entries)}
    (named : ∀ name ∈ columnNames 0 columns, name.IsName)
    (wide : ∀ record ∈ records, record.length = columns.length) (sql : String) :
    (tableOf columns records sql).Tabulates (records.map (List.map fieldValue)) := by
  obtain ⟨distinct, count⟩ := Column.pairwise_ofNames (Column.ofNames_of_names named)
  rw [length_columnNames] at count
  have fits : ∀ values ∈ records.map (List.map fieldValue),
      values.length = (Column.distinct (columnNames 0 columns)).length := by
    intro values member
    obtain ⟨record, isRecord, rfl⟩ := List.mem_map.mp member
    rw [List.length_map, wide record isRecord, count]
  have table := QueryResult.tabulates_ofRecords distinct fits sql
  rw [List.map_map] at table
  exact table

/-- A call for the result of a statement. -/
structure Call (σ : Type) where
  /-- The session before it. -/
  before : Session σ
  /-- What comes of it. -/
  outcome : Outcome QueryResult
  /-- The session after it. -/
  after : Session σ

/-- Calls for the result of one statement, one after another. Between them the session may go
    on in any way. -/
inductive Calls {σ : Type} (client : Client σ) : Handle → List (Call σ) → Handle → Prop
  | nil (handle : Handle) : Calls client handle [] handle
  | cons {handle between last : Handle} {call : Call σ} {later : List (Call σ)}
      (fetches : client.fetch.startIn (call.before, handle) =
        (call.outcome, (call.after, between)))
      (goesOn : Calls client between later last) : Calls client handle (call :: later) last

/-- A call that comes too late: it fails by a fault of the connectors, and nothing is asked. -/
def Call.IsIdle {σ : Type} (call : Call σ) : Prop :=
  call.after = call.before ∧
    ∃ failure, call.outcome = .error failure ∧ failure.isA .connector = true

/-- If a result was taken, every call for it comes too late. -/
theorem Calls.idle_of_taken {σ : Type} {client : Client σ} {handle last : Handle}
    {calls : List (Call σ)} (called : Calls client handle calls last)
    (taken : handle.consumed = true) : ∀ call ∈ calls, call.IsIdle := by
  induction called with
  | nil => exact fun _ member => nomatch member
  | cons fetches _ inductionHypothesis =>
    rw [client.startIn_fetch_of_taken taken] at fetches
    obtain ⟨fails, same⟩ := Prod.mk.inj fetches
    obtain ⟨unasked, rfl⟩ := Prod.mk.inj same
    refine List.forall_mem_cons.mpr ⟨⟨unasked.symm, _, fails.symm, rfl⟩, ?_⟩
    exact inductionHypothesis taken

/-- Every call but the first one comes too late. -/
theorem Calls.idle_of_tail {σ : Type} {client : Client σ} {handle last : Handle}
    {calls : List (Call σ)} (called : Calls client handle calls last) :
    ∀ call ∈ calls.tail, call.IsIdle := by
  cases called with
  | nil => exact fun _ member => nomatch member
  | @cons _ between _ call later fetches goesOn =>
    have taken := client.consumed_of_startIn_fetch handle call.before
    rw [fetches] at taken
    exact goesOn.idle_of_taken taken

/-- A result that is kept in a chain of pages is fetched as a whole: the service is asked for
    every page once and in order, and the result tabulates the values of all records in their
    order. It is the same however another service spreads the records over pages. Of several
    calls for the result of one statement only the first one asks the service, whatever comes
    of it. -/
theorem fetched_whole_and_once {σ : Type} (client : Client σ) :
    (∀ {handle : Handle} {before : Session σ} {columns : List Value.Entries}
        {sheets : List Sheet} {after : σ}, Chain client handle before columns sheets after →
      let records := sheets.flatMap Sheet.records
      let table := tableOf columns records handle.sql
      client.fetch.startIn (before, handle) = (.ok table,
        ({ state := after
           requests := before.requests ++ (chainRequests handle.id .null sheets).toArray },
          { handle with consumed := true })) ∧
      table.Tabulates (records.map (List.map fieldValue)) ∧
      ∀ {τ : Type} {other : Client τ} {otherHandle : Handle} {otherBefore : Session τ}
        {otherSheets : List Sheet} {otherAfter : τ},
        Chain other otherHandle otherBefore columns otherSheets otherAfter →
        otherSheets.flatMap Sheet.records = records → otherHandle.sql = handle.sql →
        (other.fetch.startIn (otherBefore, otherHandle)).1 = .ok table) ∧
    ∀ {handle last : Handle} {calls : List (Call σ)}, Calls client handle calls last →
      ∀ call ∈ calls.tail, call.IsIdle := by
  refine ⟨?_, fun called => called.idle_of_tail⟩
  intro handle before columns sheets after chain records table
  have wide : ∀ record ∈ records, record.length = columns.length := by
    intro record member
    obtain ⟨sheet, isSheet, isRecord⟩ := List.mem_flatMap.mp member
    exact chain.wide sheet isSheet record isRecord
  refine ⟨client.startIn_fetch_of_chain chain, tabulates_tableOf chain.named wide _, ?_⟩
  intro τ other otherHandle otherBefore otherSheets otherAfter otherChain same sameQuery
  rw [other.startIn_fetch_of_chain otherChain, same, sameQuery]

/-- A client of a service that answers its requests with some values, one after another. -/
def clientOfAnswers (answers : List Value) : Client Nat where
  config := sampleClient.config
  service :=
    { answer := fun _ round =>
        (match answers[round]? with
          | some answer => .ok answer
          | none => .error .credentials, round + 1)
      clock := fun _ => .ofInt 0
      rest := fun _ round => round }

/-- A column that is described by its name. -/
def sampleColumn : Value.Entries := [("name", .string "id")]

/-- A record of one number. -/
def sampleRecord (number : Int) : List Value.Entries := [[("longValue", .int number)]]

/-- Two pages of a result, of which the second one describes no columns. -/
def samplePages : List Value :=
  [.map [("ColumnMetadata", .list [.map sampleColumn]), ("NextToken", .string "1"),
      ("Records", .list [.list ((sampleRecord 7).map .map)])],
    .map [("Records", .list [.list ((sampleRecord 8).map .map)])]]

/-- The records of both pages on one page. -/
def samplePage : Value :=
  .map [("ColumnMetadata", .list [.map sampleColumn]),
    ("Records", .list [.list ((sampleRecord 7).map .map), .list ((sampleRecord 8).map .map)])]

/-- A statement whose result nobody has asked for yet. -/
def sampleHandle : Handle := { id := .string "s-1", sql := "SELECT 1" }

/-- The name of the column is a name. -/
theorem isName_sampleColumn : ∀ name ∈ columnNames 0 [sampleColumn], name.IsName := by
  have names : columnNames 0 [sampleColumn] = [.string "id"] := rfl
  rw [names]
  exact List.forall_mem_singleton.mpr (Value.asName_string "id")

/-- The two pages are a chain. -/
theorem chain_samplePages : Chain (clientOfAnswers samplePages) sampleHandle { state := 0 }
    [sampleColumn]
    [{ metadata := .list [.map sampleColumn], records := [sampleRecord 7], next := .string "1" },
      { metadata := .null, records := [sampleRecord 8], next := .null }] 2 where
  fresh := rfl
  serves := .more rfl ⟨rfl, rfl, rfl⟩ rfl (.last rfl ⟨rfl, rfl, rfl⟩ rfl)
  followed := by decide
  described := ⟨_, rfl, rfl⟩
  nonempty := by simp
  named := isName_sampleColumn
  wide := by simp [sampleRecord]

/-- So is the one page. -/
theorem chain_samplePage : Chain (clientOfAnswers [samplePage]) sampleHandle { state := 0 }
    [sampleColumn]
    [{ metadata := .list [.map sampleColumn], records := [sampleRecord 7, sampleRecord 8]
       next := .null }] 1 where
  fresh := rfl
  serves := .last rfl ⟨rfl, rfl, rfl⟩ rfl
  followed := by decide
  described := ⟨_, rfl, rfl⟩
  nonempty := by simp
  named := isName_sampleColumn
  wide := by simp [sampleRecord]

/-- Both records are fetched from two pages and from one page alike, and a second call comes
    too late. -/
theorem fetched_whole_and_once_sample :
    let table := tableOf [sampleColumn] [sampleRecord 7, sampleRecord 8] "SELECT 1"
    let taken : Session Nat × Handle :=
      ({ state := 2
         requests := #[pageRequest (.string "s-1") .null, pageRequest (.string "s-1") (.string "1")] },
        { sampleHandle with consumed := true })
    (clientOfAnswers samplePages).fetch.startIn ({ state := 0 }, sampleHandle) = (.ok table, taken) ∧
      table.Tabulates [[.int 7], [.int 8]] ∧
      ((clientOfAnswers [samplePage]).fetch.startIn ({ state := 0 }, sampleHandle)).1 = .ok table ∧
      let again := (clientOfAnswers samplePages).fetch.startIn taken
      Call.IsIdle { before := taken.1, outcome := again.1, after := again.2.1 } := by
  intro table taken
  obtain ⟨whole, once⟩ := fetched_whole_and_once (clientOfAnswers samplePages)
  obtain ⟨fetches, tabulates, alike⟩ := whole chain_samplePages
  refine ⟨fetches, tabulates, alike chain_samplePage rfl rfl, ?_⟩
  intro again
  let first : Call Nat := { before := { state := 0 }, outcome := .ok table, after := taken.1 }
  have called : Calls (clientOfAnswers samplePages) sampleHandle
      [first, { before := taken.1, outcome := again.1, after := again.2.1 }] again.2.2 :=
    .cons fetches (.cons rfl (.nil _))
  exact once called _ (by simp)

end Warehouse

end SqlGateway
