import SqlGateway.Proofs.SchemaMap.Order
import SqlGateway.Proofs.Transactional.Listing
import SqlGateway.Proofs.Warehouse.Listing
import SqlGateway.Proofs.Warehouse.Paging

/-!
# Schema maps of a backend

The warehouse tells its tables page by page, the transactional server in the rows of a query.
Either way the map of them is in order, and it shows every table as often as it is told. It
depends neither on the order in which the tables are told nor on the pages over which they are
spread.
-/

namespace SqlGateway

namespace Warehouse

/-- An entry tells a table: its name is a text, and so is its schema, if it has one. -/
structure TellsTable (table : Value.Entries) : Prop where
  /-- The name. -/
  named : ∃ name, table.lookup "name" = some (.string name)
  /-- The schema, which is missing if it is null or empty. -/
  schema : (table.get "schema").isPresent = true → ∃ schema, table.get "schema" = .string schema

/-- Whether an entry is left out: it has no schema, or it belongs to the system by its schema or
    by its type. -/
def isLeftOut (table : Value.Entries) : Bool :=
  !(table.get "schema").isPresent || isSystem (table.get "schema") || isSystemTable table

/-- The schema and the name that an entry tells. -/
def toldTable (table : Value.Entries) : String × String :=
  ((table.get "schema").text, (table.get "name").text)

/-- The tables of the users among some entries. -/
def shownTables (entries : List Value.Entries) : List (String × String) :=
  (entries.filter fun table => !isLeftOut table).map toldTable

/-- An entry that tells a table is read as this table, unless it is left out. -/
theorem TellsTable.read {table : Value.Entries} (tells : TellsTable table) :
    readTable? (.map table) =
      .ok (if isLeftOut table then none else some (SchemaListing.named (toldTable table))) := by
  obtain ⟨name, named⟩ := tells.named
  cases present : (table.get "schema").isPresent with
  | false =>
    simp only [readTable?, isLeftOut, Value.entries, present, bind, Except.bind]
    rfl
  | true =>
    obtain ⟨schema, isText⟩ := tells.schema present
    have told : toldTable table = (schema, name) := by
      rw [toldTable, isText, Value.Entries.get, named]
      rfl
    have entry : (Value.map table).entry "name" = .ok (.string name) := by
      rw [Value.entry, named]
    rw [isText] at present
    simp only [readTable?, isLeftOut, Value.entries, isText, present, Value.asName_string, entry,
      told, bind, Except.bind, Bool.not_true, Bool.false_or]
    cases isSystem (.string schema) || isSystemTable table with
    | true => rfl
    | false => rfl

/-- A page of a list of tables as the service keeps it. -/
structure TableSheet where
  /-- The entries. -/
  tables : List Value.Entries
  /-- What asks for the page after it, if there is one. -/
  next : Value

/-- An answer tells a page of a list of tables. It may leave out what is empty. -/
structure TableSheet.ToldBy (sheet : TableSheet) (entries : Value.Entries) : Prop where
  /-- The entries for tables. -/
  tables : (entries.get "Tables").listed = .ok (sheet.tables.map Value.map)
  /-- The token of the page after it. -/
  next : entries.get "NextToken" = sheet.next

/-- The pages that a service gives for the tables of a target from a token on. Each of them tells
    the token of the one behind it, and the last one tells none. -/
inductive ServesTables {σ : Type} (service : Service σ) (target : List (String × Value)) :
    Value → σ → List TableSheet → σ → Prop
  | last {token : Value} {before after : σ} {sheet : TableSheet} {entries : Value.Entries}
      (answers : service.answer (tableRequest target token) before = (.ok (.map entries), after))
      (tells : sheet.ToldBy entries) (final : sheet.next.isPresent = false) :
      ServesTables service target token before [sheet] after
  | more {token : Value} {before middle after : σ} {sheet : TableSheet} {entries : Value.Entries}
      {later : List TableSheet}
      (answers : service.answer (tableRequest target token) before = (.ok (.map entries), middle))
      (tells : sheet.ToldBy entries) (continued : sheet.next.isPresent = true)
      (serves : ServesTables service target sheet.next middle later after) :
      ServesTables service target token before (sheet :: later) after

/-- The entries of a chain of pages. -/
def entriesOf (sheets : List TableSheet) : List Value.Entries :=
  sheets.flatMap TableSheet.tables

/-- The tables of a client's target are told in a chain of pages, which the client follows to its
    end. Every entry tells a table. -/
structure TableChain {σ : Type} (client : Client σ) (before : Session σ)
    (sheets : List TableSheet) : Prop where
  /-- The pages are given one after another. -/
  serves : ∃ target after, client.config.target = .ok target ∧
    ServesTables client.service target .null before.state sheets after
  /-- The client follows the chain to its end. -/
  followed : sheets.length ≤ client.patience
  /-- Every entry tells a table. -/
  told : ∀ table ∈ entriesOf sheets, TellsTable table

/-- An answer that tells a page of tables is read as the tables of the users on it. -/
theorem TableSheet.ToldBy.page {sheet : TableSheet} {entries : Value.Entries}
    (tells : sheet.ToldBy entries) (told : ∀ table ∈ sheet.tables, TellsTable table) :
    TablePage.ofAnswer (.map entries) =
      .ok { tables := (shownTables sheet.tables).map SchemaListing.named, next := sheet.next } := by
  have read : (sheet.tables.map Value.map).mapM readTable? =
      .ok (sheet.tables.map fun table =>
        if isLeftOut table then none else some (SchemaListing.named (toldTable table))) := by
    rw [List.mapM_map]
    exact mapM_of_forall _ fun table member => (told table member).read
  have shown : (sheet.tables.map fun table =>
      if isLeftOut table then none else some (SchemaListing.named (toldTable table))).filterMap id =
        (shownTables sheet.tables).map SchemaListing.named := by
    rw [shownTables, List.map_map, List.filterMap_map, ← List.filterMap_eq_map,
      List.filterMap_filter]
    refine List.filterMap_congr fun table _ => ?_
    cases leftOut : isLeftOut table with
    | true => simp [leftOut]
    | false => simp [leftOut]
  have whole : TablePage.ofAnswer (.map entries) =
      (entries.get "Tables").listed >>= fun listed => listed.mapM readTable? >>= fun tables =>
        .ok { tables := tables.filterMap id, next := entries.get "NextToken" } := rfl
  rw [whole, tells.tables, tells.next]
  simp only [bind, Except.bind, read, shown]

namespace Client

variable {σ : Type}

/-- One round of listing the tables: a page is asked for and read, and its token decides whether
    another round follows. -/
theorem startIn_tablesFrom_succ (client : Client σ) {target : List (String × Value)}
    (configured : client.config.target = .ok target) {token : Value} {before after : σ}
    {answer : Value} {page : TablePage}
    (answers : client.service.answer (tableRequest target token) before = (.ok answer, after))
    (read : TablePage.ofAnswer answer = .ok page) (tables : List (Value × Value)) (patience : Nat)
    (requests : Array Request) :
    let session := { state := after, requests := requests.push (tableRequest target token) }
    (client.tablesFrom token tables (patience + 1)).startIn { state := before, requests } =
      if page.next.isPresent then
        (client.tablesFrom page.next (tables ++ page.tables) patience).startIn session
      else (.ok (tables ++ page.tables), session) := by
  intro session
  let asking : Session σ := { state := before, requests }
  have aims : (Run.ofOutcome client.config.target).startIn asking = (.ok target, asking) := by
    rw [configured]
    rfl
  have asks : (client.request .listTables (target ++ pageArgument token)).startIn
      { state := before, requests } = (.ok answer, session) := by
    rw [startIn_request, ← tableRequest, answers]
    rfl
  have reads : (Run.ofOutcome (TablePage.ofAnswer answer)).startIn session =
      (.ok page, session) := by
    rw [read]
    rfl
  rw [tablesFrom, Run.startIn_bind_of_ok aims, Run.startIn_bind_of_ok asks,
    Run.startIn_bind_of_ok reads]
  split
  · rfl
  · rfl

/-- The tables of the users on a chain of pages are listed in their order, behind those so far.
    The induction is on the chain. -/
theorem startIn_tablesFrom (client : Client σ) {target : List (String × Value)}
    (configured : client.config.target = .ok target) {token : Value} {before after : σ}
    {sheets : List TableSheet}
    (serves : ServesTables client.service target token before sheets after)
    (told : ∀ table ∈ entriesOf sheets, TellsTable table) (tables : List (Value × Value))
    {patience : Nat} (followed : sheets.length ≤ patience) (requests : Array Request) :
    ((client.tablesFrom token tables patience).startIn { state := before, requests }).1 =
      .ok (tables ++ (shownTables (entriesOf sheets)).map SchemaListing.named) := by
  induction serves generalizing tables patience requests with
  | @last token before after sheet entries answers tells final =>
    have whole : entriesOf [sheet] = sheet.tables := by simp [entriesOf]
    rw [whole] at told ⊢
    cases patience with
    | zero => cases followed
    | succ rounds =>
      rw [client.startIn_tablesFrom_succ configured answers (tells.page told)]
      simp [final]
  | @more token before middle after sheet entries later answers tells continued serves
      inductionHypothesis =>
    have parts : entriesOf (sheet :: later) = sheet.tables ++ entriesOf later := rfl
    rw [parts, List.forall_mem_append] at told
    have shown : shownTables (entriesOf (sheet :: later)) =
        shownTables sheet.tables ++ shownTables (entriesOf later) := by
      rw [parts, shownTables, List.filter_append, List.map_append]
      rfl
    cases patience with
    | zero => cases followed
    | succ rounds =>
      rw [client.startIn_tablesFrom_succ configured answers (tells.page told.1)]
      dsimp only
      rw [if_pos continued, inductionHypothesis told.2 _ (Nat.le_of_succ_le_succ followed), shown,
        List.map_append, List.append_assoc]

/-- The map of the tables on a chain of pages is made of the tables of the users. -/
theorem startIn_schemaMap_of_chain (client : Client σ) {before : Session σ}
    {sheets : List TableSheet} (chain : TableChain client before sheets) :
    (client.schemaMap.startIn before).1 =
      SchemaListing.ofTables ((shownTables (entriesOf sheets)).map SchemaListing.named) := by
  obtain ⟨target, after, configured, serves⟩ := chain.serves
  have lists := client.startIn_tablesFrom configured serves chain.told [] chain.followed
    before.requests
  have ran : (client.tablesFrom .null [] client.patience).startIn before =
      (.ok ((shownTables (entriesOf sheets)).map SchemaListing.named),
        ((client.tablesFrom .null [] client.patience).startIn before).2) :=
    Prod.ext lists rfl
  exact congrArg Prod.fst (Run.startIn_bind_of_ok ran)

end Client

/-- Entries say the same about their tables, in whatever order they and their fields are given. -/
def SayTheSame (others entries : List Value.Entries) : Prop :=
  ∃ reordered, others.Perm reordered ∧
    List.Forall₂ (fun other entry : Value.Entries => ∀ key, other.get key = entry.get key)
      reordered entries

/-- Such entries show the same tables, each as often. -/
theorem SayTheSame.shownTables_perm {others entries : List Value.Entries}
    (same : SayTheSame others entries) : (shownTables others).Perm (shownTables entries) := by
  obtain ⟨reordered, perm, alike⟩ := same
  have equal : shownTables reordered = shownTables entries := by
    clear perm
    induction alike with
    | nil => rfl
    | @cons other entry rest later fields _ inductionHypothesis =>
      have leftOut : isLeftOut other = isLeftOut entry := by
        simp only [isLeftOut, isSystemTable, fields]
      have told : toldTable other = toldTable entry := by
        simp only [toldTable, fields]
      unfold shownTables at inductionHypothesis ⊢
      rw [List.filter_cons, List.filter_cons, leftOut]
      cases isLeftOut entry with
      | true => exact inductionHypothesis
      | false => exact congrArg₂ List.cons told inductionHypothesis
  rw [← equal]
  exact (perm.filter _).map _

end Warehouse

namespace Transactional

/-- A row tells a table by two texts. -/
structure TellsTable (row : BackendRow) (table : String × String) : Prop where
  /-- Its schema. -/
  schema : row.get? "schema_name" = some (.string table.1)
  /-- Its name. -/
  name : row.get? "table_name" = some (.string table.2)

/-- The query for tables has a result, and its rows tell these tables in order. -/
def ListsTables {σ : Type} (engine : Engine σ) (before : Session σ)
    (tables : List (String × String)) : Prop :=
  ∃ result, (engine.transact schemaQuery before.state).1.result schemaQuery = .ok result ∧
    List.Forall₂ TellsTable result.rows tables

/-- Rows that tell tables are read as these tables. -/
theorem readTables_of_told {rows : List BackendRow} {tables : List (String × String)}
    (told : List.Forall₂ TellsTable rows tables) :
    readTables rows = .ok (tables.map SchemaListing.named) := by
  induction told with
  | nil => rfl
  | @cons row table rest later tells _ inductionHypothesis =>
    have schema : entryIn "schema_name" row = .ok (.string table.1) := by
      rw [entryIn, tells.schema]
    have name : entryIn "table_name" row = .ok (.string table.2) := by
      rw [entryIn, tells.name]
    have read : readTables (row :: rest) =
        (do let schema ← (← entryIn "schema_name" row).asName
            return (schema, ← entryIn "table_name" row)) >>= fun first =>
          readTables rest >>= fun others => .ok (first :: others) := List.mapM_cons
    rw [read, schema, name, inductionHypothesis]
    rfl

/-- The map of the tables that an engine lists is made of them. -/
theorem Engine.startIn_schemaMap_of_listed {σ : Type} (engine : Engine σ) {before : Session σ}
    {tables : List (String × String)} (lists : ListsTables engine before tables) :
    (engine.schemaMap.startIn before).1 =
      SchemaListing.ofTables (tables.map SchemaListing.named) := by
  obtain ⟨result, replied, told⟩ := lists
  rw [engine.startIn_schemaMap_of_result replied, readTables_of_told told]
  rfl

end Transactional

namespace Connector

/-- The schema map of a backend is in order: the schemas are in strict order, so are the tables
    of each, and every table is in it as often as the backend tells it. The warehouse may spread
    the tables over pages as it likes. Entries without a schema and entries of the system are
    left out, and nothing else is. The map does not depend on the order of the tables or on the
    pages over which they are spread. -/
theorem schemaMaps_arranged_and_orderless :
    (∀ {σ : Type} {client : Warehouse.Client σ} {before : Warehouse.Session σ}
        {sheets : List Warehouse.TableSheet}, Warehouse.TableChain client before sheets →
      let entries := Warehouse.entriesOf sheets
      ∃ map : SchemaMap, (client.schemaMap.startIn before).1 = .ok (.ofMap map) ∧
        map.Arranges (Warehouse.shownTables entries) ∧
        ∀ {τ : Type} {other : Warehouse.Client τ} {otherBefore : Warehouse.Session τ}
          {otherSheets : List Warehouse.TableSheet},
          Warehouse.TableChain other otherBefore otherSheets →
          Warehouse.SayTheSame (Warehouse.entriesOf otherSheets) entries →
          (other.schemaMap.startIn otherBefore).1 = .ok (.ofMap map)) ∧
    ∀ {σ : Type} {engine : Transactional.Engine σ} {before : Transactional.Session σ}
      {tables : List (String × String)}, Transactional.ListsTables engine before tables →
      ∃ map : SchemaMap, (engine.schemaMap.startIn before).1 = .ok (.ofMap map) ∧
        map.Arranges tables ∧
        ∀ {τ : Type} {other : Transactional.Engine τ} {otherBefore : Transactional.Session τ}
          {otherTables : List (String × String)},
          Transactional.ListsTables other otherBefore otherTables → otherTables.Perm tables →
          (other.schemaMap.startIn otherBefore).1 = .ok (.ofMap map) := by
  constructor
  · intro σ client before sheets chain entries
    obtain ⟨map, made, arranges, orderless⟩ :=
      SchemaListing.exists_ofTables_reordered (Warehouse.shownTables entries)
    refine ⟨map, (client.startIn_schemaMap_of_chain chain).trans made, arranges, ?_⟩
    intro τ other otherBefore otherSheets otherChain same
    exact (other.startIn_schemaMap_of_chain otherChain).trans (orderless _ same.shownTables_perm)
  · intro σ engine before tables lists
    obtain ⟨map, made, arranges, orderless⟩ := SchemaListing.exists_ofTables_reordered tables
    refine ⟨map, (engine.startIn_schemaMap_of_listed lists).trans made, arranges, ?_⟩
    intro τ other otherBefore otherTables otherLists reordered
    exact (other.startIn_schemaMap_of_listed otherLists).trans (orderless _ reordered)

/-- An entry for a table of a schema. -/
def sampleEntry (table : String × String) : Value.Entries :=
  [("name", .string table.2), ("schema", .string table.1), ("type", .string "TABLE")]

/-- An entry without a schema. -/
def looseEntry : Value.Entries :=
  [("name", .string "loose")]

/-- An answer that tells a page of tables. -/
def pageOfTables (sheet : Warehouse.TableSheet) : Value :=
  .map [("Tables", .list (sheet.tables.map .map)), ("NextToken", sheet.next)]

/-- Two pages of tables, among them one of the system and one without a schema. -/
def sampleSheets : List Warehouse.TableSheet :=
  [{ tables := [sampleEntry ("sales", "orders"), sampleEntry ("pg_catalog", "pg_class")]
     next := .string "1" },
    { tables := [looseEntry, sampleEntry ("public", "users"), sampleEntry ("sales", "accounts")]
      next := .null }]

/-- The same entries in reverse order on one page. -/
def sampleSheet : Warehouse.TableSheet :=
  { tables := (Warehouse.entriesOf sampleSheets).reverse, next := .null }

/-- Each of these entries tells a table. -/
theorem tellsTable_samples :
    (∀ table, Warehouse.TellsTable (sampleEntry table)) ∧ Warehouse.TellsTable looseEntry :=
  ⟨fun table => ⟨⟨table.2, rfl⟩, fun _ => ⟨table.1, rfl⟩⟩, ⟨⟨"loose", rfl⟩, nofun⟩⟩

/-- An engine that lists tables. -/
def engineOfTables (tables : List (String × String)) : Transactional.Engine Unit where
  transact _ state :=
    (.selected [.string "schema_name", .string "table_name"]
      (tables.map fun table => [.string table.1, .string table.2]), state)

/-- It lists them in their order. -/
theorem listsTables_engineOfTables (tables : List (String × String)) :
    Transactional.ListsTables (engineOfTables tables) { state := () } tables := by
  refine ⟨_, rfl, ?_⟩
  rw [List.map_map, List.forall₂_map_left_iff, List.forall₂_same]
  exact fun table _ => ⟨rfl, rfl⟩

/-- Three tables of the users on two pages, or in reverse order on one page, make one map, and so
    do two rows in either order. -/
theorem schemaMaps_arranged_and_orderless_sample :
    let session : Warehouse.Session Nat := { state := 0 }
    (∃ map : SchemaMap,
      map.Arranges [("sales", "orders"), ("public", "users"), ("sales", "accounts")] ∧
      ((Warehouse.clientOfAnswers (sampleSheets.map pageOfTables)).schemaMap.startIn session).1 =
        .ok (.ofMap map) ∧
      ((Warehouse.clientOfAnswers [pageOfTables sampleSheet]).schemaMap.startIn session).1 =
        .ok (.ofMap map)) ∧
    ∃ map : SchemaMap, map.Arranges [("dbo", "users"), ("dbo", "roles")] ∧
      ((engineOfTables [("dbo", "users"), ("dbo", "roles")]).schemaMap.startIn { state := () }).1 =
        .ok (.ofMap map) ∧
      ((engineOfTables [("dbo", "roles"), ("dbo", "users")]).schemaMap.startIn { state := () }).1 =
        .ok (.ofMap map) := by
  intro session
  have pages : Warehouse.TableChain (Warehouse.clientOfAnswers (sampleSheets.map pageOfTables))
      session sampleSheets := by
    refine ⟨⟨_, 2, rfl, .more rfl ⟨rfl, rfl⟩ rfl (.last rfl ⟨rfl, rfl⟩ rfl)⟩, by decide, ?_⟩
    simp [Warehouse.entriesOf, sampleSheets, tellsTable_samples]
  have page : Warehouse.TableChain (Warehouse.clientOfAnswers [pageOfTables sampleSheet])
      session [sampleSheet] := by
    refine ⟨⟨_, 1, rfl, .last rfl ⟨rfl, rfl⟩ rfl⟩, by decide, ?_⟩
    simp [Warehouse.entriesOf, sampleSheet, sampleSheets, tellsTable_samples]
  obtain ⟨map, lists, arranges, orderless⟩ := schemaMaps_arranged_and_orderless.1 pages
  obtain ⟨other, otherLists, otherArranges, otherOrderless⟩ :=
    schemaMaps_arranged_and_orderless.2
      (listsTables_engineOfTables [("dbo", "users"), ("dbo", "roles")])
  have same : Warehouse.SayTheSame (Warehouse.entriesOf [sampleSheet])
      (Warehouse.entriesOf sampleSheets) := by
    refine ⟨_, ?_, List.forall₂_same.mpr fun entry _ key => rfl⟩
    have whole : Warehouse.entriesOf [sampleSheet] = (Warehouse.entriesOf sampleSheets).reverse :=
      List.append_nil _
    rw [whole]
    exact List.reverse_perm _
  refine ⟨⟨map, arranges, lists, orderless page same⟩, other, otherArranges, otherLists, ?_⟩
  exact otherOrderless (listsTables_engineOfTables _) (List.Perm.swap _ _ _)

end Connector

end SqlGateway
