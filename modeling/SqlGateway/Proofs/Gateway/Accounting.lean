import Mathlib.Algebra.GroupWithZero.Nat
import Mathlib.Data.List.Forall2
import SqlGateway.Proofs.Gateway.Calls

/-!
# The account of queries

Queries are counted by the source to which they are routed and by how they end. Whatever the
backends do, every query that is answered or fails for an ordinary reason is counted once, and
one that is stopped from outside is not counted. A query that names tables of both backends is
counted as one for both, also if it is refused because it is no join that is understood.

The queries are executed one after another. What else the gateway is asked meanwhile does not
count queries.
-/

namespace SqlGateway

/-- The number of everything that was counted. -/
def Counter.total {κ : Type} (counter : Counter κ) : Nat :=
  counter.values.sum

/-- Counting adds one to the whole number, whatever is counted. -/
theorem Counter.total_increment {κ : Type} [DecidableEq κ] (counter : Counter κ) (labels : κ) :
    (counter.increment labels).total = counter.total + 1 := by
  have walked : ∀ pairs : List (κ × Nat),
      ((insertPair labels ((pairs.lookup labels).getD 0 + 1) pairs).map Prod.snd).sum =
        (pairs.map Prod.snd).sum + 1 := by
    intro pairs
    induction pairs with
    | nil => rfl
    | cons pair rest inductionHypothesis =>
      obtain ⟨key, number⟩ := pair
      by_cases same : key = labels
      · subst same
        simp only [insertPair, List.lookup_cons_self, Option.getD_some, if_true, List.map_cons,
          List.sum_cons]
        omega
      · have other : (labels == key) = false := beq_eq_false_iff_ne.mpr (Ne.symm same)
        simp only [insertPair, same, if_false, List.lookup_cons, other, List.map_cons,
          List.sum_cons, inductionHypothesis]
        omega
  exact walked counter.toList

/-- Where a query is sent: to both backends if it names tables of both, and otherwise to the
    one that runs it alone. -/
inductive Routes (sql : String) : Source → Prop
  | cross (crosses : Classification.ofText sql.toList = .cross) : Routes sql .cross
  | single {backend : Backend} {query : String} (routed : RoutedTo sql backend query) :
      Routes sql (.backend backend)

/-- How an executed query has to be counted: with its source and a success if it is answered,
    with its source and an error if it fails for an ordinary reason, and else not at all. -/
inductive Ends (sql : String) : Outcome Answer → Option (Source × Verdict) → Prop
  | returned {source : Source} (routes : Routes sql source) (answer : Answer) :
      Ends sql (.ok answer) (some (source, .success))
  | failed {source : Source} {failure : Failure} (routes : Routes sql source)
      (ordinary : failure.isA .ordinary = true) :
      Ends sql (.error failure) (some (source, .error))
  | stopped {failure : Failure} (outside : failure.isA .ordinary = false) :
      Ends sql (.error failure) none

/-- The source of a query is where it is sent, and there is no other one. -/
theorem routes_iff (sql : String) (source : Source) :
    Routes sql source ↔ source = Source.ofText sql.toList := by
  constructor
  · rintro (crosses | routed)
    · rw [Source.ofText, crosses]
    · cases routed with
      | warehouse named => rw [Source.ofText, named]
      | transactional named => rw [Source.ofText, named]
      | unprefixed unnamed => rw [Source.ofText, unnamed]
  · rintro rfl
    unfold Source.ofText
    cases classified : Classification.ofText sql.toList with
    | cross => exact .cross classified
    | warehouse => exact .single (.warehouse classified)
    | transactional => exact .single (.transactional classified)
    | unprefixed => exact .single (.unprefixed classified)

/-- A query is counted in one way. -/
theorem Ends.unique {sql : String} {outcome : Outcome Answer}
    {label other : Option (Source × Verdict)} (one : Ends sql outcome label)
    (another : Ends sql outcome other) : label = other := by
  cases one with
  | returned routes answer =>
    cases another with
    | returned otherRoutes _ =>
      rw [(routes_iff _ _).mp routes, (routes_iff _ _).mp otherRoutes]
  | failed routes ordinary =>
    cases another with
    | failed otherRoutes _ => rw [(routes_iff _ _).mp routes, (routes_iff _ _).mp otherRoutes]
    | stopped outside => cases ordinary.symm.trans outside
  | stopped outside =>
    cases another with
    | failed _ ordinary => cases ordinary.symm.trans outside
    | stopped _ => rfl

namespace Gateway

variable {α β : Type}

/-- The outcomes of queries that are executed one after another, and the state after them. -/
def executeAll (gateway : Gateway α β) (state : State α β) :
    List String → List (String × Outcome Answer) × State α β
  | [] => ([], state)
  | sql :: rest =>
      let ran := (gateway.execute sql).startIn state
      let others := gateway.executeAll ran.2 rest
      ((sql, ran.1) :: others.1, others.2)

/-- One executed query is counted as it ends. -/
theorem execute_counted (gateway : Gateway α β) (sql : String) (before : State α β) :
    let ran := (gateway.execute sql).startIn before
    ∃ label, Ends sql ran.1 label ∧
      (∀ wanted, ran.2.queries.count wanted =
        before.queries.count wanted + if label = some wanted then 1 else 0) ∧
      ran.2.queries.total = before.queries.total + if label.isSome then 1 else 0 := by
  have routes := (routes_iff sql _).mpr rfl
  rw [startIn_execute]
  dsimp only
  generalize gateway.runPlanned sql before.backends = ran
  obtain ⟨outcome, backends⟩ := ran
  cases outcome with
  | ok answer =>
    refine ⟨_, .returned routes answer, fun wanted => ?_, Counter.total_increment _ _⟩
    rw [State.counted, Counter.count_increment]
    simp only [Option.some.injEq, eq_comm]
  | error failure =>
    cases ordinary : failure.isA .ordinary with
    | true =>
      refine ⟨_, .failed routes ordinary, fun wanted => ?_, ?_⟩
      · rw [State.counted, if_pos ordinary, Counter.count_increment]
        simp only [Option.some.injEq, eq_comm]
      · rw [State.counted, if_pos ordinary]
        exact Counter.total_increment _ _
    | false =>
      have kept : ({ before with backends } : State α β).counted (Source.ofText sql.toList)
          (.error failure) = { before with backends } := by
        rw [State.counted, ordinary]
        rfl
      refine ⟨none, .stopped ordinary, fun wanted => ?_, ?_⟩
      · rw [kept]
        rfl
      · rw [kept]
        rfl

/-- A query that names tables of both backends and is no join that is understood fails for an
    ordinary reason, and is counted as one for both. -/
theorem ends_of_refused (gateway : Gateway α β) {sql : String} {rejection : JoinQuery.Rejection}
    (crosses : Classification.ofText sql.toList = .cross)
    (rejected : JoinQuery.parse gateway.strict sql.toList = .error rejection)
    (before : State α β) :
    Ends sql ((gateway.execute sql).startIn before).1 (some (.cross, .error)) := by
  have refused : Plan.ofText gateway.strict sql = (Fault.ofRejection rejection).raise := by
    simp [Plan.ofText, crosses, rejected]
  rw [startIn_execute]
  simp only [runPlanned, refused, Fault.raise]
  refine .failed (.cross crosses) ?_
  cases rejection with
  | outsideGrammar departure => rfl
  | limitTooLong digits => rfl
  | unroutable conjunct => rfl

/-- Over all queries that are executed one after another, in every state and whatever the
    backends do, each number grows by the number of queries that have to be counted with its
    labels, and all numbers together by the number of queries that are answered or fail for an
    ordinary reason. The induction is on the queries: how a query is counted does not depend on
    what was counted before. -/
theorem executeAll_accounted (gateway : Gateway α β) (before : State α β)
    (queries : List String) :
    let ran := gateway.executeAll before queries
    ran.1.map Prod.fst = queries ∧
      (∃ labels : List (Option (Source × Verdict)),
        (∀ others, List.Forall₂ (fun executed => Ends executed.1 executed.2) ran.1 others ↔
          others = labels) ∧
        (∀ wanted, ran.2.queries.count wanted =
          before.queries.count wanted + labels.count (some wanted)) ∧
        ran.2.queries.total = before.queries.total + labels.countP Option.isSome) ∧
      ∀ executed ∈ ran.1, ∀ rejection, Classification.ofText executed.1.toList = .cross →
        JoinQuery.parse gateway.strict executed.1.toList = .error rejection →
        Ends executed.1 executed.2 (some (.cross, .error)) := by
  induction queries generalizing before with
  | nil =>
    refine ⟨rfl, ⟨[], fun others => List.forall₂_nil_left_iff, fun wanted => rfl, rfl⟩, ?_⟩
    intro executed member
    exact absurd member List.not_mem_nil
  | cons sql rest inductionHypothesis =>
    obtain ⟨label, ends, counted, total⟩ := gateway.execute_counted sql before
    obtain ⟨asked, ⟨labels, only, countedLater, totalLater⟩, refused⟩ :=
      inductionHypothesis ((gateway.execute sql).startIn before).2
    refine ⟨congrArg (sql :: ·) asked, ⟨label :: labels, ?_, fun wanted => ?_, ?_⟩, ?_⟩
    · intro others
      rw [executeAll, List.forall₂_cons_left_iff]
      constructor
      · rintro ⟨other, behind, endsSo, follow, rfl⟩
        rw [endsSo.unique ends, (only behind).mp follow]
      · rintro rfl
        exact ⟨label, labels, ends, (only labels).mpr rfl, rfl⟩
    · rw [executeAll, countedLater, counted, List.count_cons]
      simp only [beq_iff_eq]
      omega
    · rw [executeAll, totalLater, total, List.countP_cons]
      omega
    · intro executed member rejection crosses rejected
      rcases List.mem_cons.mp member with rfl | later
      · exact gateway.ends_of_refused crosses rejected before
      · exact refused executed later rejection crosses rejected

end Gateway

end SqlGateway
