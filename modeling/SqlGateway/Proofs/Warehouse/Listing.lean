import SqlGateway.Proofs.Connector.Listings
import SqlGateway.Proofs.Warehouse.Causes

/-!
# How the warehouse lists its tables

The tables are asked for page by page, each behind the token of the page before it, until a
page has none. Nothing stands between the client and a caller who lists tables: what cannot
be read in an answer, and what cannot be put in order, reaches the caller as it is. Of the
service's faults only those that the client translates reach the caller in the connectors'
family.

The service may raise any fault here, also one of the connectors' family.
-/

namespace SqlGateway

/-- Whether a client of the warehouse tells a fault of its service in the connectors' family.
    Of a fault that the service reports the code has to be one that can be looked up. -/
def Fault.isTranslated : Fault → Bool
  | .endpoint _ | .credentials | .serviceClient => true
  | .service response _ => ((serviceError response).field "Code").asName.toBool
  | fault => fault.isA .connector

namespace Warehouse

/-- A fault that is not translated passes as it is, unless its code cannot be looked up. -/
theorem ofRequest_untranslated {fault : Fault} (untranslated : fault.isTranslated = false) :
    ofRequest { fault } = { fault } ∨ (ofRequest { fault }).fault.isOfReading = true := by
  cases fault with
  | endpoint | credentials | serviceClient => cases untranslated
  | service response operation =>
    cases named : ((Fault.serviceError response).field "Code").asName with
    | ok code =>
      rw [Fault.isTranslated, named] at untranslated
      cases untranslated
    | error nameless =>
      rw [ofRequest_of_nameless named]
      exact Or.inr (Value.foreign_asName _ nameless named)
  | _ => exact Or.inl rfl

/-- Exactly the translated faults are told in the connectors' family. -/
theorem isA_connector_ofRequest (fault : Fault) :
    (ofRequest { fault }).isA .connector = fault.isTranslated := by
  cases translated : fault.isTranslated with
  | true =>
    cases fault with
    | endpoint | credentials | serviceClient => rfl
    | service response operation =>
      cases named : ((Fault.serviceError response).field "Code").asName with
      | error nameless =>
        rw [Fault.isTranslated, named] at translated
        cases translated
      | ok code =>
        simp only [ofRequest, named]
        split
        · rfl
        · rfl
    | _ => exact translated
  | false =>
    rcases ofRequest_untranslated translated with passed | reading
    · rw [passed]
      cases fault with
      | endpoint | credentials | serviceClient => cases translated
      | service => rfl
      | _ => exact translated
    · exact (Fault.outside_of_reading reading).2

/-- Not every entry tells a table. -/
theorem foreign_readTable? (table : Value) : Foreign (readTable? table) := by
  apply Foreign.bind (Value.foreign_entries table)
  intro entries
  apply Foreign.ite (.ok none)
  apply Foreign.bind (Value.foreign_asName _)
  intro schema
  apply Foreign.ite (.ok none)
  apply Foreign.bind (Value.foreign_entry "name" table)
  exact fun name => .ok _

/-- Not every answer is a page of a list of tables. -/
theorem foreign_tablePage (answer : Value) : Foreign (TablePage.ofAnswer answer) := by
  apply Foreign.bind (Value.foreign_entries answer)
  intro entries
  apply Foreign.bind (Value.foreign_listed _)
  intro listed
  apply Foreign.bind (Foreign.mapM foreign_readTable? listed)
  exact fun tables => .ok _

/-- The request for the page of the tables of a target behind a token. -/
def tableRequest (target : List (String × Value)) (token : Value) : Request :=
  { operation := .listTables, arguments := target ++ pageArgument token }

/-- The page in the answer to such a request. -/
def tabled (answer : Except Fault Value) : Outcome TablePage :=
  answered answer >>= TablePage.ofAnswer

/-- How the tables of a target may be listed from a token on, behind those so far, if the list
    is followed for a number of rounds. -/
inductive Lists (target : List (String × Value)) : Nat → Value → List (Value × Value) →
    List Event → Outcome (List (Value × Value)) → Prop
  | unfinished {token : Value} {tables : List (Value × Value)} :
      Lists target 0 token tables [] (Fault.unfinished.raise)
  | last {patience : Nat} {token : Value} {tables : List (Value × Value)}
      {answer : Except Fault Value} {page : TablePage} (told : tabled answer = .ok page)
      (final : page.next.isPresent = false) :
      Lists target (patience + 1) token tables [.asked (tableRequest target token) answer]
        (.ok (tables ++ page.tables))
  | more {patience : Nat} {token : Value} {tables : List (Value × Value)}
      {answer : Except Fault Value} {page : TablePage} {events : List Event}
      {outcome : Outcome (List (Value × Value))} (told : tabled answer = .ok page)
      (continued : page.next.isPresent = true)
      (later : Lists target patience page.next (tables ++ page.tables) events outcome) :
      Lists target (patience + 1) token tables
        (.asked (tableRequest target token) answer :: events) outcome
  | broken {patience : Nat} {token : Value} {tables : List (Value × Value)}
      {answer : Except Fault Value} {failure : Failure} (told : tabled answer = .error failure) :
      Lists target (patience + 1) token tables [.asked (tableRequest target token) answer]
        (.error failure)

/-- Where a target is known, the tables are listed in one of the ways given. The induction is
    on the rounds that are left. -/
theorem Client.takes_tablesFrom {σ : Type} (client : Client σ) {target : List (String × Value)}
    (configured : client.config.target = .ok target) (token : Value)
    (tables : List (Value × Value)) (patience : Nat) (before : Session σ) :
    ∃ events outcome after,
      Takes client.service (client.tablesFrom token tables patience) before events outcome after ∧
      Lists target patience token tables events outcome := by
  induction patience generalizing token tables before with
  | zero => exact ⟨[], _, before, Takes.ofOutcome client.service _ before, .unfinished⟩
  | succ patience inductionHypothesis =>
    obtain ⟨answer, asked, asks⟩ :=
      client.takes_request .listTables (target ++ pageArgument token) before
    have aims : Takes client.service (Run.ofOutcome client.config.target) before [] (.ok target)
        before := configured ▸ Takes.ofOutcome client.service client.config.target before
    unfold tablesFrom
    cases told : tabled answer with
    | error failure => exact ⟨_, _, asked, aims.bind (asks.bind_unfound told), .broken told⟩
    | ok page =>
      cases continued : page.next.isPresent with
      | false =>
        refine ⟨_, _, asked, aims.bind (asks.bind_found told ?_), .last told continued⟩
        simp only [continued]
        exact Takes.ofOutcome client.service _ asked
      | true =>
        obtain ⟨events, outcome, after, takes, lists⟩ :=
          inductionHypothesis page.next (tables ++ page.tables) asked
        refine ⟨_, outcome, after, aims.bind (asks.bind_found told ?_), .more told continued lists⟩
        simp only [continued]
        exact takes

/-- Every way to list the tables accounts for its failure: behind a whole history it is a fault
    of reading. -/
theorem Lists.accounts {target : List (String × Value)} {patience : Nat} {token : Value}
    {tables : List (Value × Value)} {events : List Event}
    {outcome : Outcome (List (Value × Value))}
    (lists : Lists target patience token tables events outcome) :
    Accounts Fault.isOfReading patience events outcome := by
  induction lists with
  | unfinished => exact .unfinished
  | last told _ =>
    refine .ofWhole (not_brokenOff_of_read [] told) ?_
    rintro _ ⟨⟩
  | more told _ _ inductionHypothesis =>
    exact inductionHypothesis.behind_round (not_brokenOff_of_read [] told) rfl
  | @broken patience token tables answer failure told =>
    have asked : Accounts Fault.isOfReading (patience + 1)
        [.asked (tableRequest target token) answer] (tabled answer) :=
      .ofAnswer (fun _ => id) [] (by nofun) answer foreign_tablePage
    exact asked.of_error told

/-- A request is answered with a page. -/
def Event.Shows (event : Event) (page : TablePage) : Prop :=
  ∃ request answer, event = .asked request answer ∧ tabled answer = .ok page

/-- What was listed is on the pages that were shown, in their order, and the last of these
    pages tells of no other one. -/
theorem Lists.shows {target : List (String × Value)} {patience : Nat} {token : Value}
    {tables : List (Value × Value)} {events : List Event}
    {outcome : Outcome (List (Value × Value))}
    (lists : Lists target patience token tables events outcome) {all : List (Value × Value)}
    (gives : outcome = .ok all) :
    ∃ pages, List.Forall₂ Event.Shows events pages ∧
      pages.getLast?.map (fun page => page.next.isPresent) = some false ∧
      all = tables ++ pages.flatMap TablePage.tables := by
  induction lists with
  | unfinished => cases gives
  | broken => cases gives
  | @last _ _ _ answer page told final =>
    cases gives
    exact ⟨[page], .cons ⟨_, answer, rfl, told⟩ .nil, by simp [final], by simp⟩
  | @more _ _ _ answer page _ _ told _ _ inductionHypothesis =>
    obtain ⟨pages, shown, final, collected⟩ := inductionHypothesis gives
    refine ⟨page :: pages, .cons ⟨_, answer, rfl, told⟩ shown, ?_, ?_⟩
    · cases pages with
      | nil => cases final
      | cons next others => exact final
    · rw [collected, List.flatMap_cons, List.append_assoc]

/-- How a list of the tables comes out for its caller. -/
structure Listed (config : Config) (patience : Nat) (events : List Event)
    (outcome : Outcome SchemaListing) : Prop where
  /-- All tables of all pages are listed. -/
  complete : ∀ listing, outcome = .ok listing → ∃ pages,
    List.Forall₂ Event.Shows events pages ∧
    pages.getLast?.map (fun page => page.next.isPresent) = some false ∧
    SchemaListing.ofTables (pages.flatMap TablePage.tables) = .ok listing
  /-- A failure is told in the connectors' family exactly if there is no target to ask, or if
      the service fails with a fault that is translated. -/
  contained : (∃ failure, outcome = .error failure ∧ failure.isA .connector = true) ↔
    (0 < patience ∧ ∃ failure, config.target = .error failure) ∨
      ∃ fault, BrokenOff events fault ∧ fault.isTranslated = true
  /-- Any other failure is a fault of the service as it is, a fault of reading the answers, or
      there is no end. -/
  escaped : ∀ failure, outcome = .error failure → failure.isA .connector = false →
    (∃ fault, BrokenOff events fault ∧ failure = { fault }) ∨
      failure.fault.isOfReading = true ∨
      failure.fault = .unfinished ∧ patience ≤ (requestsOf events).length

/-- A list of the tables fails in the connectors' family exactly if a translated fault breaks
    its history off. -/
theorem Accounts.connector_iff {α : Type} {patience : Nat} {events : List Event}
    {outcome : Outcome α} (accounts : Accounts Fault.isOfReading patience events outcome)
    {failure : Failure} (fails : outcome = .error failure) :
    failure.isA .connector = true ↔
      ∃ fault, BrokenOff events fault ∧ fault.isTranslated = true := by
  by_cases broken : ∃ fault, BrokenOff events fault
  · obtain ⟨fault, breaks⟩ := broken
    obtain rfl := Except.error.inj ((accounts.broken fault breaks).symm.trans fails)
    rw [isA_connector_ofRequest]
    constructor
    · exact fun translated => ⟨fault, breaks, translated⟩
    · rintro ⟨other, also, translated⟩
      rwa [← breaks.unique also]
  · refine iff_of_false ?_ fun ⟨fault, breaks, _⟩ => broken ⟨fault, breaks⟩
    rw [Bool.not_eq_true]
    rcases accounts.unbroken (not_exists.mp broken) failure fails with reading | ⟨unfinished, _⟩
    · exact (Fault.outside_of_reading reading).2
    · rw [Failure.isA, unfinished]
      rfl

/-- Outside the family it fails of an untranslated fault or of reading, or it has no end. -/
theorem Accounts.cause_of_outside {α : Type} {patience : Nat} {events : List Event}
    {outcome : Outcome α} (accounts : Accounts Fault.isOfReading patience events outcome)
    {failure : Failure} (fails : outcome = .error failure)
    (outside : failure.isA .connector = false) :
    (∃ fault, BrokenOff events fault ∧ failure = { fault }) ∨
      failure.fault.isOfReading = true ∨
      failure.fault = .unfinished ∧ patience ≤ (requestsOf events).length := by
  by_cases broken : ∃ fault, BrokenOff events fault
  · obtain ⟨fault, breaks⟩ := broken
    obtain rfl := Except.error.inj ((accounts.broken fault breaks).symm.trans fails)
    rw [isA_connector_ofRequest] at outside
    rcases ofRequest_untranslated outside with passed | reading
    · exact Or.inl ⟨fault, breaks, passed⟩
    · exact Or.inr (Or.inl reading)
  · exact Or.inr (accounts.unbroken (not_exists.mp broken) failure fails)

/-- What is listed from a target comes out as it should. -/
theorem Lists.listed {config : Config} {target : List (String × Value)}
    (configured : config.target = .ok target) {patience : Nat} {events : List Event}
    {outcome : Outcome (List (Value × Value))}
    (lists : Lists target patience .null [] events outcome) :
    Listed config patience events (outcome >>= SchemaListing.ofTables) := by
  have accounts := lists.accounts.bind SchemaListing.foreign_ofTables
  refine ⟨?_, ⟨?_, ?_⟩, fun failure => accounts.cause_of_outside⟩
  · intro listing gives
    obtain ⟨tables, listed, ordered⟩ := exists_of_bind_ok gives
    obtain ⟨pages, shown, final, rfl⟩ := lists.shows listed
    exact ⟨pages, shown, final, ordered⟩
  · rintro ⟨failure, fails, member⟩
    exact Or.inr ((accounts.connector_iff fails).mp member)
  · rintro (⟨_, failure, nowhere⟩ | ⟨fault, breaks, translated⟩)
    · rw [configured] at nowhere
      cases nowhere
    · have fails := accounts.broken fault breaks
      exact ⟨_, fails, (accounts.connector_iff fails).mpr ⟨fault, breaks, translated⟩⟩

/-- However the service answers, a list of the tables has a history, and comes out as it
    should. -/
theorem Client.listed_of_schemaMap {σ : Type} (client : Client σ) (before : Session σ) :
    ∃ events outcome after, Takes client.service client.schemaMap before events outcome after ∧
      Listed client.config client.patience events outcome := by
  cases configured : client.config.target with
  | ok target =>
    obtain ⟨events, outcome, after, takes, lists⟩ :=
      client.takes_tablesFrom configured .null [] client.patience before
    exact ⟨events, _, after, takes.bind_ofOutcome, lists.listed configured⟩
  | error failure =>
    cases patience : client.patience with
    | zero =>
      have stops : Takes client.service (client.tablesFrom .null [] client.patience) before []
          (Fault.unfinished.raise) before := by
        rw [patience]
        exact Takes.ofOutcome client.service _ before
      refine ⟨[], _, before, stops.bind_ofOutcome, nofun, iff_of_false ?_ ?_, ?_⟩
      · rintro ⟨_, ⟨⟩, member⟩
        cases member
      · rintro (⟨some, _⟩ | ⟨fault, breaks, _⟩)
        · cases some
        · exact not_brokenOff_nil fault breaks
      · rintro _ ⟨⟩ _
        exact Or.inr (Or.inr ⟨rfl, Nat.zero_le _⟩)
    | succ rounds =>
      have aims : Takes client.service (Run.ofOutcome client.config.target) before []
          (.error failure) before :=
        configured ▸ Takes.ofOutcome client.service client.config.target before
      have stops : Takes client.service (client.tablesFrom .null [] client.patience) before []
          (.error failure) before := by
        rw [patience]
        exact aims.bind_error
      have member := (failure_of_target configured).2
      refine ⟨[], _, before, stops.bind_ofOutcome, nofun, iff_of_true ?_ ?_, ?_⟩
      · exact ⟨failure, rfl, member⟩
      · exact Or.inl ⟨Nat.succ_pos rounds, failure, configured⟩
      · rintro _ ⟨⟩ outside
        rw [member] at outside
        cases outside

end Warehouse

end SqlGateway
