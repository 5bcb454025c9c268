import Mathlib.Data.List.Forall2
import SqlGateway.Proofs.JoinQuery.Lenient
import SqlGateway.Proofs.Token.Spacing

/-!
# Joins of tokens that are alike

The grammar of joins looks at the kinds of tokens and at the texts of words, numbers and
operators. Whatever stands between delimiters is taken over unseen. So of two rows of tokens
that differ between their delimiters alone either both are a join or none is, and what they
stand for differs in nothing but bodies and schemas in brackets.

The relation between the tokens is a parameter. Each phrase carries it from its tokens to what
is read from them.
-/

namespace SqlGateway

namespace Token

/-- Two tokens that differ between their delimiters, if at all. -/
structure Alike (one other : Token) : Prop where
  /-- They have one kind. -/
  kind : other.kind = one.kind
  /-- Without delimiters they have one text. -/
  text : one.kind.isDelimited = false → other.text = one.text

/-- Being alike does not depend on the order. -/
theorem Alike.symm {one other : Token} (alike : Alike one other) : Alike other one where
  kind := alike.kind.symm
  text plain := (alike.text (alike.kind ▸ plain)).symm

/-- Tokens that are alike are the same keywords. -/
theorem Alike.isKeyword_eq {one other : Token} (alike : Alike one other) (keyword : String) :
    other.isKeyword keyword = one.isKeyword keyword := by
  by_cases word : one.kind = .word
  · have same := alike.text (by rw [word]; rfl)
    simp [isKeyword, capitals, alike.kind, same]
  · have none : (one.kind == .word) = false := beq_eq_false_iff_ne.mpr word
    simp [isKeyword, alike.kind, none]

/-- Tokens that are alike are the same operators. -/
theorem Alike.isOperator_eq {one other : Token} (alike : Alike one other) (operator : String) :
    other.isOperator operator = one.isOperator operator := by
  by_cases mark : one.kind = .operator
  · have same := alike.text (by rw [mark]; rfl)
    simp [isOperator, alike.kind, same]
  · have none : (one.kind == .operator) = false := beq_eq_false_iff_ne.mpr mark
    simp [isOperator, alike.kind, none]

/-- A token is a keyword or is none if one that is like it is. -/
theorem Alike.keyword {one other : Token} {keyword : String} {isOne : Bool}
    (alike : Alike one other) (asked : one.isKeyword keyword = isOne) :
    other.isKeyword keyword = isOne :=
  (alike.isKeyword_eq keyword).trans asked

/-- A token is an operator or is none if one that is like it is. -/
theorem Alike.operator {one other : Token} {operator : String} {isOne : Bool}
    (alike : Alike one other) (asked : one.isOperator operator = isOne) :
    other.isOperator operator = isOne :=
  (alike.isOperator_eq operator).trans asked

/-- Words that are alike have one text. -/
theorem Alike.text_of_word {one other : Token} (alike : Alike one other)
    (word : one.kind = .word) : other.text = one.text :=
  alike.text (by rw [word]; rfl)

/-- A token is like itself with its blanks unified. -/
theorem Unified.alike {raw token : Token} (unified : Unified raw token) : Alike raw token :=
  ⟨unified.kind, unified.text_eq⟩

end Token

/-- What is related to a row in two parts has two related parts. -/
theorem exists_append_of_forall₂ {α β : Type} {R : α → β → Prop} {front back : List α}
    {others : List β} (related : List.Forall₂ R (front ++ back) others) :
    ∃ otherFront otherBack, others = otherFront ++ otherBack ∧
      List.Forall₂ R front otherFront ∧ List.Forall₂ R back otherBack := by
  induction front generalizing others with
  | nil => exact ⟨[], others, rfl, .nil, related⟩
  | cons first rest inductionHypothesis =>
    cases related with
    | cons pair later =>
      obtain ⟨otherFront, otherBack, rfl, relatedFront, relatedBack⟩ := inductionHypothesis later
      exact ⟨_ :: otherFront, otherBack, rfl, .cons pair relatedFront, relatedBack⟩

/-- What a row in two parts is related to has two parts. -/
theorem exists_append_of_forall₂_right {α β : Type} {R : α → β → Prop} {front back : List β}
    {others : List α} (related : List.Forall₂ R others (front ++ back)) :
    ∃ otherFront otherBack, others = otherFront ++ otherBack ∧
      List.Forall₂ R otherFront front ∧ List.Forall₂ R otherBack back := by
  obtain ⟨otherFront, otherBack, same, relatedFront, relatedBack⟩ :=
    exists_append_of_forall₂ related.flip
  exact ⟨otherFront, otherBack, same, relatedFront.flip, relatedBack.flip⟩

namespace JoinQuery

open Text

/-- Two names of schemas that related tokens stand for. -/
inductive SchemaNames (R : Token → Token → Prop) : List Char → List Char → Prop where
  | plain {one other : Token} (pair : R one other) : SchemaNames R one.text other.text
  | bracketed {one other : Token} (pair : R one other) (bracket : one.kind = .bracket) :
      SchemaNames R (one.text.drop 1).dropLast (other.text.drop 1).dropLast

/-- Two tables that related tokens stand for. -/
structure RelatedTables (R : Token → Token → Prop) (one other : Table) : Prop where
  /-- They have one name. -/
  name : other.name = one.name
  /-- They have one alias. -/
  label : other.label = one.label
  /-- Their schemas are related. -/
  schema : SchemaNames R one.schema.toList other.schema.toList

section Alike

variable {R : Token → Token → Prop} (similar : ∀ one other, R one other → one.Alike other)
variable {text otherText : List Char} {tokens others body otherBody following : List Token}
  {otherFollowing : List Token}

include similar

/-- Rows that are alike have the same parentheses. -/
theorem depthBehind_eq (related : List.Forall₂ R tokens others) (depth : Nat) :
    depthBehind depth others = depthBehind depth tokens := by
  induction related generalizing depth with
  | nil => rfl
  | @cons one other _ _ pair _ inductionHypothesis =>
    have same : deepen depth other = deepen depth one := by
      simp only [deepen, (similar one other pair).isOperator_eq]
    simp only [depthBehind, List.foldl_cons, same]
    exact inductionHypothesis _

/-- Rows that are alike avoid the same keywords. -/
theorem Avoids.of_alike {keyword : String} (avoids : Avoids keyword body)
    (related : List.Forall₂ R body otherBody) : Avoids keyword otherBody := by
  rintro before token after rfl outside
  obtain ⟨front, back, rfl, frontRelated, backRelated⟩ := exists_append_of_forall₂_right related
  cases backRelated with
  | @cons one _ rest _ pair _ =>
    rw [(similar one token pair).isKeyword_eq]
    exact avoids front one rest rfl (depthBehind_eq similar frontRelated 0 ▸ outside)

/-- Rows that are alike avoid ORDER BY or do not. -/
theorem AvoidsOrderBy.of_alike (avoids : AvoidsOrderBy body)
    (related : List.Forall₂ R body otherBody) : AvoidsOrderBy otherBody := by
  rintro before first second after rfl outside orders
  obtain ⟨front, back, rfl, frontRelated, backRelated⟩ := exists_append_of_forall₂_right related
  cases backRelated with
  | @cons one _ _ _ pair later =>
    cases later with
    | @cons two _ rest _ next _ =>
      rw [(similar one first pair).isKeyword_eq] at orders
      rw [(similar two second next).isKeyword_eq]
      exact avoids front one two rest rfl (depthBehind_eq similar frontRelated 0 ▸ outside) orders

/-- What is like a body is one. -/
theorem Body.of_alike (shape : Body body following) (related : List.Forall₂ R body otherBody)
    (behind : List.Forall₂ R following otherFollowing) : Body otherBody otherFollowing where
  nonempty := by
    rintro rfl
    exact shape.nonempty (List.forall₂_nil_right_iff.mp related)
  closed := (depthBehind_eq similar related 0).trans shape.closed
  unfinished := by
    rintro rfl last ends
    obtain ⟨front, rfl⟩ := List.getLast?_eq_some_iff.mp ends
    obtain ⟨before, back, rfl, _, backRelated⟩ := exists_append_of_forall₂_right related
    cases backRelated with
    | @cons one _ _ _ pair nothing =>
      cases nothing
      rw [(similar one last pair).isOperator_eq]
      exact shape.unfinished (List.forall₂_nil_right_iff.mp behind) one (by simp)

/-- What is like a stretch is one. -/
theorem Stretch.of_alike (shape : Stretch body following) (related : List.Forall₂ R body otherBody)
    (behind : List.Forall₂ R following otherFollowing) : Stretch otherBody otherFollowing where
  closed more := by
    rw [depthBehind_eq similar related]
    refine shape.closed ?_
    rintro rfl
    exact more (List.forall₂_nil_left_iff.mp behind)
  unfinished := by
    rintro rfl before last rfl outside
    obtain ⟨front, back, rfl, frontRelated, backRelated⟩ := exists_append_of_forall₂_right related
    cases backRelated with
    | @cons one _ _ _ pair nothing =>
      cases nothing
      rw [(similar one last pair).isOperator_eq]
      exact shape.unfinished (List.forall₂_nil_right_iff.mp behind) front one rfl
        (depthBehind_eq similar frontRelated 0 ▸ outside)

/-- Tokens that are alike give a table one alias. -/
theorem LabelPhrase.of_alike {name label : List Char} (labels : LabelPhrase name tokens label)
    (related : List.Forall₂ R tokens others) : LabelPhrase name others label := by
  cases labels with
  | omitted =>
    cases related
    exact .omitted
  | @bare one word noIntroduction noClause =>
    obtain _ | @⟨_, other, _, _, pair, nothing⟩ := related
    cases nothing
    have like := similar one other pair
    rw [← like.text_of_word word]
    exact .bare (like.kind.trans word) (like.keyword noIntroduction)
      fun clause member => like.keyword (noClause clause member)
  | @introduced introduction one introduces word =>
    obtain _ | @⟨_, first, _, _, opening, later⟩ := related
    obtain _ | @⟨_, other, _, _, pair, nothing⟩ := later
    cases nothing
    have like := similar one other pair
    rw [← like.text_of_word word]
    exact .introduced ((similar _ first opening).keyword introduces)
      (like.kind.trans word)

/-- Tokens that are alike are schemas of the same backends, with related names. -/
theorem SchemaPhrase.of_alike {backend : Backend} {one other : Token} {name : List Char}
    (schema : SchemaPhrase backend one name) (pair : R one other) :
    ∃ otherName, SchemaPhrase backend other otherName ∧ SchemaNames R name otherName := by
  have like := similar one other pair
  cases schema with
  | plain word => exact ⟨other.text, .plain (like.kind.trans word), .plain pair⟩
  | bracketed bracket =>
    exact ⟨_, .bracketed (like.kind.trans bracket), .bracketed pair bracket⟩

/-- Tokens that are alike name tables of the same backends. -/
theorem TablePhrase.of_alike {backend : Backend} {table : Table}
    (phrase : TablePhrase backend tokens table) (related : List.Forall₂ R tokens others) :
    ∃ otherTable, TablePhrase backend others otherTable ∧ RelatedTables R table otherTable := by
  cases phrase with
  | @mk naming schema label labelTokens names labels =>
    obtain ⟨front, labelOthers, rfl, frontRelated, labelRelated⟩ :=
      exists_append_of_forall₂ related
    obtain _ | @⟨_, marker, _, _, marks, frontRelated⟩ := frontRelated
    obtain _ | @⟨_, firstPoint, _, _, first, frontRelated⟩ := frontRelated
    obtain _ | @⟨_, schemaToken, _, _, schemas, frontRelated⟩ := frontRelated
    obtain _ | @⟨_, secondPoint, _, _, second, frontRelated⟩ := frontRelated
    obtain _ | @⟨_, name, _, _, nameds, frontRelated⟩ := frontRelated
    cases frontRelated
    obtain ⟨otherSchema, schemaPhrase, related⟩ :=
      names.schema.of_alike similar schemas
    have like := similar _ name nameds
    have sameName := like.text_of_word names.word
    let other : Naming := ⟨marker, firstPoint, schemaToken, secondPoint, name⟩
    have otherNames : other.Names backend otherSchema :=
      { marks := (similar _ _ marks).keyword names.marks
        first := (similar _ _ first).operator names.first
        schema := schemaPhrase
        second := (similar _ _ second).operator names.second
        word := like.kind.trans names.word }
    refine ⟨_, .mk otherNames (sameName ▸ labels.of_alike similar labelRelated), ?_⟩
    exact ⟨congrArg String.ofList sameName, rfl, by simpa using related⟩

/-- Tokens that are alike join in the same way. -/
theorem JoinTypePhrase.of_alike {type : JoinType} (joins : JoinTypePhrase tokens type)
    (related : List.Forall₂ R tokens others) : JoinTypePhrase others type := by
  cases joins with
  | plain joins =>
    obtain _ | ⟨last, nothing⟩ := related
    cases nothing
    exact .plain ((similar _ _ last).keyword joins)
  | named named joins =>
    obtain _ | ⟨first, _ | ⟨last, nothing⟩⟩ := related
    cases nothing
    exact .named ((similar _ _ first).keyword named)
      ((similar _ _ last).keyword joins)
  | outer sided named outward joins =>
    obtain _ | ⟨first, _ | ⟨second, _ | ⟨last, nothing⟩⟩⟩ := related
    cases nothing
    exact .outer sided ((similar _ _ first).keyword named)
      ((similar _ _ second).keyword outward)
      ((similar _ _ last).keyword joins)

/-- Tokens that are alike are one column. -/
theorem ColumnPhrase.of_alike {column : List Char × List Char}
    (phrase : ColumnPhrase tokens column) (related : List.Forall₂ R tokens others) :
    ColumnPhrase others column := by
  cases phrase with
  | mk qualifies separates word =>
    obtain _ | ⟨first, _ | ⟨second, _ | ⟨last, nothing⟩⟩⟩ := related
    cases nothing
    have qualifier := similar _ _ first
    have name := similar _ _ last
    rw [← qualifier.text_of_word qualifies, ← name.text_of_word word]
    exact .mk (qualifier.kind.trans qualifies)
      ((similar _ _ second).operator separates) (name.kind.trans word)

/-- Tokens that are alike compare the same columns of tables with the same aliases. -/
theorem ColumnsPhrase.of_alike {left right otherLeft otherRight : Table} {columns : String × String}
    (phrase : ColumnsPhrase left right tokens columns) (related : List.Forall₂ R tokens others)
    (leftLabel : otherLeft.label = left.label) (rightLabel : otherRight.label = right.label) :
    ColumnsPhrase otherLeft otherRight others columns := by
  cases phrase with
  | inOrder one compares other ofLeft ofRight =>
    obtain ⟨front, back, rfl, oneRelated, behind⟩ := exists_append_of_forall₂ related
    obtain _ | ⟨middle, otherRelated⟩ := behind
    exact .inOrder (one.of_alike similar oneRelated)
      ((similar _ _ middle).operator compares)
      (other.of_alike similar otherRelated) (leftLabel ▸ ofLeft) (rightLabel ▸ ofRight)
  | swapped one compares other ofRight ofLeft =>
    obtain ⟨front, back, rfl, oneRelated, behind⟩ := exists_append_of_forall₂ related
    obtain _ | ⟨middle, otherRelated⟩ := behind
    exact .swapped (one.of_alike similar oneRelated)
      ((similar _ _ middle).operator compares)
      (other.of_alike similar otherRelated) (rightLabel ▸ ofRight) (leftLabel ▸ ofLeft)

/-- Tokens that are alike are conditions with related bodies. -/
theorem LenientWhere.of_alike {conditions : Option (List Token)}
    (phrase : LenientWhere following tokens conditions) (related : List.Forall₂ R tokens others)
    (behind : List.Forall₂ R following otherFollowing) :
    ∃ otherConditions, LenientWhere otherFollowing others otherConditions ∧
      Option.Rel (List.Forall₂ R) conditions otherConditions := by
  cases phrase with
  | omitted =>
    cases related
    exact ⟨none, .omitted, .none⟩
  | written restricts nonempty shape noLimit noOrder =>
    obtain _ | @⟨_, _, _, otherBody, keyword, bodyRelated⟩ := related
    have someBody : otherBody ≠ [] := by
      rintro rfl
      exact nonempty (List.forall₂_nil_right_iff.mp bodyRelated)
    exact ⟨some otherBody, .written ((similar _ _ keyword).keyword restricts)
      someBody (shape.of_alike similar bodyRelated behind) (noLimit.of_alike similar bodyRelated)
      (noOrder.of_alike similar bodyRelated), .some bodyRelated⟩

/-- Tokens that are alike are an order with related bodies. -/
theorem LenientOrder.of_alike {order : Option (List Token)}
    (phrase : LenientOrder following tokens order) (related : List.Forall₂ R tokens others)
    (behind : List.Forall₂ R following otherFollowing) :
    ∃ otherOrder, LenientOrder otherFollowing others otherOrder := by
  cases phrase with
  | omitted =>
    cases related
    exact ⟨none, .omitted⟩
  | written orders sorts shape noLimit =>
    obtain _ | ⟨first, _ | ⟨second, bodyRelated⟩⟩ := related
    exact ⟨_, .written ((similar _ _ first).keyword orders)
      ((similar _ _ second).keyword sorts)
      (shape.of_alike similar bodyRelated behind) (noLimit.of_alike similar bodyRelated)⟩

/-- Tokens that are alike are one limit. -/
theorem LimitPhrase.of_alike {limit : Option Nat} (phrase : LimitPhrase tokens limit)
    (related : List.Forall₂ R tokens others) : LimitPhrase others limit := by
  cases phrase with
  | omitted =>
    cases related
    exact .omitted
  | written limits counts whole short =>
    obtain _ | ⟨first, _ | ⟨last, nothing⟩⟩ := related
    cases nothing
    have number := similar _ _ last
    have same := number.text (by rw [counts]; rfl)
    rw [← same] at whole short ⊢
    exact .written ((similar _ _ first).keyword limits) (number.kind.trans counts)
      whole short

/-- Tokens that are alike end a query. -/
theorem EndPhrase.of_alike (ending : EndPhrase tokens) (related : List.Forall₂ R tokens others) :
    EndPhrase others := by
  cases ending with
  | omitted =>
    cases related
    exact .omitted
  | written ends =>
    obtain _ | ⟨last, nothing⟩ := related
    cases nothing
    exact .written ((similar _ _ last).operator ends)

/-- Tokens that are alike are a join with related conditions and a related right table. -/
theorem ReadAs.of_alike {bodies : Bodies} {query : JoinQuery}
    (readAs : ReadAs text tokens bodies query) (related : List.Forall₂ R tokens others) :
    ∃ otherBodies otherQuery, ReadAs otherText others otherBodies otherQuery ∧
      Option.Rel (List.Forall₂ R) bodies.conditions otherBodies.conditions ∧
      RelatedTables R query.right otherQuery.right := by
  cases readAs with
  | mk selects shape free sources leftTable joins rightTable apart compares compared restricts
      orders limits ending =>
    obtain ⟨opening, _, rfl, openingRelated, behindSelect⟩ := exists_append_of_forall₂ related
    obtain _ | ⟨select, openingRelated⟩ := openingRelated
    obtain ⟨selected, _, rfl, selectedRelated, sourceRelated⟩ :=
      exists_append_of_forall₂ openingRelated
    obtain _ | ⟨source, nothing⟩ := sourceRelated
    cases nothing
    obtain ⟨leftTokens, _, rfl, leftRelated, behindLeft⟩ := exists_append_of_forall₂ behindSelect
    obtain ⟨typeTokens, _, rfl, typeRelated, behindType⟩ := exists_append_of_forall₂ behindLeft
    obtain ⟨rightTokens, _, rfl, rightRelated, behindRight⟩ := exists_append_of_forall₂ behindType
    obtain _ | ⟨compare, behindCompare⟩ := behindRight
    obtain ⟨columnTokens, _, rfl, columnRelated, behindColumns⟩ :=
      exists_append_of_forall₂ behindCompare
    obtain ⟨whereTokens, _, rfl, whereRelated, behindWhere⟩ :=
      exists_append_of_forall₂ behindColumns
    obtain ⟨orderTokens, _, rfl, orderRelated, behindOrder⟩ := exists_append_of_forall₂ behindWhere
    obtain ⟨limitTokens, endTokens, rfl, limitRelated, endRelated⟩ :=
      exists_append_of_forall₂ behindOrder
    obtain ⟨left, leftPhrase, sameLeft⟩ := leftTable.of_alike similar leftRelated
    obtain ⟨right, rightPhrase, sameRight⟩ := rightTable.of_alike similar rightRelated
    obtain ⟨conditions, wherePhrase, conditionsRelated⟩ :=
      restricts.of_alike similar whereRelated behindWhere
    obtain ⟨order, orderPhrase⟩ := orders.of_alike similar orderRelated behindOrder
    have fromRelated : List.Forall₂ R [_] [_] := .cons source .nil
    refine ⟨_, _, .mk ((similar _ _ select).keyword selects)
      (shape.of_alike similar selectedRelated fromRelated) (free.of_alike similar selectedRelated)
      ((similar _ _ source).keyword sources) leftPhrase
      (joins.of_alike similar typeRelated) rightPhrase ?_
      ((similar _ _ compare).keyword compares)
      (compared.of_alike similar columnRelated sameLeft.label sameRight.label)
      wherePhrase orderPhrase (limits.of_alike similar limitRelated)
      (ending.of_alike similar endRelated), conditionsRelated, sameRight⟩
    rw [sameLeft.label, sameRight.label]
    exact apart

end Alike

end JoinQuery

end SqlGateway
