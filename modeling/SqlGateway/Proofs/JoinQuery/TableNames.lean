import SqlGateway.Proofs.JoinQuery.Grammar
import SqlGateway.Proofs.Reference.Paths
import SqlGateway.Proofs.Reference.Places

/-!
# Table names and references

The reader of joins takes a table name for five tokens, whatever blanks are between them.
The search for references reads characters. Here the two are compared at the place of a
table name: it is found as a reference if its tokens are next to each other, the schema is
made of the characters that references have, and the name starts with one of them.
-/

namespace SqlGateway

open Text

namespace Token

/-- What does not depend on the case of ASCII letters does not change in capitals. -/
theorem toUpper_congr {α : Type} {view : Char → α}
    (ascii : ∀ code < 128, view (Char.ofNat code).toUpper = view (Char.ofNat code)) (c : Char) :
    view c.toUpper = view c := by
  by_cases bound : c.toNat < 128
  · simpa using ascii c.toNat bound
  · have outside : ¬ ('a'.val ≤ c.val ∧ c.val ≤ 'z'.val) := by
      rintro ⟨_, last⟩
      have small : c.toNat ≤ 122 := last
      omega
    have unchanged : c.toUpper = c := dif_neg outside
    rw [unchanged]

/-- A keyword is spelled with its letters, in any case. -/
theorem map_of_isKeyword {α : Type} {view : Char → α} {token : Token} {word : String}
    (ascii : ∀ code < 128, view (Char.ofNat code).toUpper = view (Char.ofNat code))
    (matched : token.isKeyword word = true) : token.text.map view = word.toList.map view := by
  simp only [isKeyword, capitals, Bool.and_eq_true, beq_iff_eq] at matched
  rw [← matched.2, List.map_map]
  exact List.map_congr_left fun c _ => (toUpper_congr ascii c).symm

/-- What a word is made of. -/
theorem Kind.Spells.of_word {unit : List Char} (spells : Kind.word.Spells unit) :
    unit ≠ [] ∧ ∀ c ∈ unit, isDigit c = true ∨ isWordPart c = true := by
  obtain ⟨digits, c, tail, rfl, inside, starts, parts⟩ := spells
  refine ⟨by simp, fun d member => ?_⟩
  rcases List.mem_append.mp member with digit | rest
  · exact Or.inl (inside d digit)
  · rcases List.mem_cons.mp rest with rfl | part
    · exact Or.inr (isWordPart_of_isWordStart starts)
    · exact Or.inr (parts d part)

end Token

namespace Reference

/-- A point behind a gap is only found without the gap. -/
theorem point?_append {gap : List Char} (blank : ∀ c ∈ gap, isBlank c = true) (rest : List Char) :
    point? (gap ++ '.' :: rest) = if gap = [] then some rest else none := by
  cases gap with
  | nil => rfl
  | cons c gap =>
    rw [if_neg (List.cons_ne_nil c gap)]
    refine point?_of_atBlank ?_
    rintro _ ⟨⟩
    exact blank c List.mem_cons_self

/-- A plain name is read as far as its characters go. -/
theorem dropWhile_of_name? {text name rest : List Char} (read : name? text = some (name, rest)) :
    text.dropWhile isNameChar = rest := by
  unfold name? at read
  split at read <;> cases read
  rfl

/-- A plain schema before a gap and a point is passed if all of it is allowed and there is
    no gap. -/
theorem passes_name_iff (form : Form) (plain : form.schema? = name?) {schema gap : List Char}
    (nonempty : schema ≠ []) (noPoint : '.' ∉ schema) (blank : ∀ c ∈ gap, isBlank c = true)
    (behind rest : List Char) :
    form.Passes (schema ++ (gap ++ '.' :: behind)) rest ↔
      (∀ c ∈ schema, isNameChar c = true) ∧ gap = [] ∧ rest = behind := by
  unfold Form.Passes
  rw [plain]
  constructor
  · rintro ⟨name, after, read, point⟩
    obtain ⟨run, tail, rfl, _, _, allowed, stops⟩ := Token.span_eq isNameChar schema
    have dropped := dropWhile_of_name? read
    rw [List.append_assoc, List.dropWhile_append_of_pos allowed] at dropped
    cases tail with
    | nil =>
      have ended : (gap ++ '.' :: behind).dropWhile isNameChar = gap ++ '.' :: behind := by
        cases gap with
        | nil => rfl
        | cons c gap => simp [isNameChar_of_isBlank (blank c List.mem_cons_self)]
      rw [List.nil_append, ended] at dropped
      rw [← dropped, point?_append blank] at point
      split at point
      · next adjacent =>
        cases point
        exact ⟨by simpa using allowed, adjacent, rfl⟩
      · cases point
    | cons d tail =>
      rw [List.cons_append, List.dropWhile_cons_of_neg (by simp [stops d rfl])] at dropped
      have other : d ≠ '.' := by
        rintro rfl
        exact noPoint (by simp)
      simp [← dropped, point?, other] at point
  · rintro ⟨allowed, rfl, rfl⟩
    have taken : (schema ++ '.' :: rest).takeWhile isNameChar = schema := by
      rw [List.takeWhile_append_of_pos allowed]
      exact List.append_nil schema
    have dropped : (schema ++ '.' :: rest).dropWhile isNameChar = '.' :: rest := by
      rw [List.dropWhile_append_of_pos allowed]
      rfl
    refine ⟨schema, '.' :: rest, ?_, rfl⟩
    cases schema with
    | nil => exact absurd rfl nonempty
    | cons c schema => simp only [List.nil_append, name?, taken, dropped]

/-- A bracketed schema before a gap and a point is passed if there is something in it and
    there is no gap. -/
theorem passes_bracket_iff (form : Form) (bracketed : form.schema? = bracket?)
    {body gap : List Char} (closed : ']' ∉ body) (blank : ∀ c ∈ gap, isBlank c = true)
    (behind rest : List Char) :
    form.Passes ('[' :: (body ++ ']' :: (gap ++ '.' :: behind))) rest ↔
      body ≠ [] ∧ gap = [] ∧ rest = behind := by
  unfold Form.Passes
  rw [bracketed, bracket?_of_closed closed]
  constructor
  · rintro ⟨schema, after, read, point⟩
    split at read
    · cases read
    · next nonempty =>
      cases read
      rw [point?_append blank] at point
      split at point
      · next adjacent =>
        cases point
        exact ⟨nonempty, adjacent, rfl⟩
      · cases point
  · rintro ⟨nonempty, rfl, rfl⟩
    exact ⟨body, '.' :: rest, if_neg nonempty, rfl⟩

/-- No plain schema is passed where none of its characters comes next. -/
theorem not_passes_name (form : Form) (plain : form.schema? = name?) {c : Char}
    (refused : isNameChar c = false) (text rest : List Char) : ¬ form.Passes (c :: text) rest := by
  rintro ⟨schema, behind, read, _⟩
  rw [plain] at read
  simp [name?, refused] at read

/-- No bracketed schema is passed where no bracket comes next. -/
theorem not_passes_bracket (form : Form) (bracketed : form.schema? = bracket?) {c : Char}
    (other : c ≠ '[') (text rest : List Char) : ¬ form.Passes (c :: text) rest := by
  rintro ⟨schema, behind, read, _⟩
  rw [bracketed] at read
  simp [bracket?, other] at read

/-- Nothing is passed at a blank. -/
theorem not_passes_of_atBlank {form : Form} {text : List Char} (blank : AtBlank text)
    (rest : List Char) : ¬ form.Passes text rest := by
  rintro ⟨schema, behind, read, _⟩
  cases form with
  | bracketed => simp [Form.schema?, bracket?_of_atBlank blank] at read
  | warehouse => simp [Form.schema?, name?, span_of_atBlank blank] at read
  | plain => simp [Form.schema?, name?, span_of_atBlank blank] at read

end Reference

namespace JoinQuery

open Reference

/-- The schema of a table name is written as in a reference. -/
inductive RefersToSchema (schema : Token) : Prop where
  | plain (word : schema.kind = .word) (allowed : ∀ c ∈ schema.text, isNameChar c = true)
  | bracketed (bracket : schema.kind = .bracket) (nonempty : schema.text ≠ ['[', ']'])

/-- A table name is written as a reference. -/
structure Naming.Refers (naming : Naming) : Prop where
  /-- There is no gap before the first point. -/
  markerStops : naming.marker.stop = naming.firstPoint.start
  /-- There is no gap before the schema. -/
  firstStops : naming.firstPoint.stop = naming.schema.start
  /-- The schema is plain, without characters that references do not have, or there is
      something between its brackets. -/
  schema : RefersToSchema naming.schema
  /-- There is no gap behind the schema. -/
  schemaStops : naming.schema.stop = naming.secondPoint.start
  /-- There is no gap before the name. -/
  secondStops : naming.secondPoint.stop = naming.name.start
  /-- The name starts with a character that references have. -/
  named : naming.name.text.head?.any isNameChar = true

/-- The schema of a table name, with the gap behind it, is passed by the search for
    references of some form if it is written as in one. -/
theorem passes_schema_iff {backend : Backend} {token : Token} {schema : List Char}
    (phrase : SchemaPhrase backend token schema) (spells : token.kind.Spells token.text)
    {gap : List Char} (blank : ∀ c ∈ gap, isBlank c = true) (behind rest : List Char) :
    (∃ form ∈ backend.forms, form.Passes (token.text ++ (gap ++ '.' :: behind)) rest) ↔
      RefersToSchema token ∧ gap = [] ∧ rest = behind := by
  cases phrase with
  | plain word =>
    rw [word] at spells
    obtain ⟨nonempty, made⟩ := spells.of_word
    have lacks : ∀ c, isDigit c = false → Token.isWordPart c = false → c ∉ token.text := by
      intro c noDigit noPart member
      rcases made c member with digit | part
      · exact absurd digit (by simp [noDigit])
      · exact absurd part (by simp [noPart])
    have noPoint : '.' ∉ token.text := lacks '.' (by decide) (by decide)
    have refers : RefersToSchema token ↔ ∀ c ∈ token.text, isNameChar c = true := by
      constructor
      · rintro (⟨_, allowed⟩ | ⟨bracket, _⟩)
        · exact allowed
        · exact absurd (word.symm.trans bracket) (by decide)
      · exact .plain word
    cases backend with
    | warehouse =>
      simp only [Backend.forms, List.mem_singleton, exists_eq_left, refers,
        passes_name_iff .warehouse rfl nonempty noPoint blank]
    | transactional =>
      have noBracket : ¬ Form.bracketed.Passes (token.text ++ (gap ++ '.' :: behind)) rest := by
        obtain ⟨c, tail, text⟩ := List.exists_cons_of_ne_nil nonempty
        have other : c ≠ '[' := by
          rintro rfl
          exact lacks '[' (by decide) (by decide) (text ▸ List.mem_cons_self)
        rw [text]
        exact not_passes_bracket .bracketed rfl other _ rest
      simp only [Backend.forms, List.mem_cons, List.not_mem_nil, or_false, exists_eq_or_imp,
        exists_eq_left, noBracket, false_or, refers,
        passes_name_iff .plain rfl nonempty noPoint blank]
  | bracketed bracket =>
    rw [bracket] at spells
    obtain ⟨body, text, closed⟩ := spells
    have refers : RefersToSchema token ↔ body ≠ [] := by
      constructor
      · rintro (⟨word, _⟩ | ⟨_, nonempty⟩)
        · exact absurd (bracket.symm.trans word) (by decide)
        · rintro rfl
          exact nonempty text
      · intro nonempty
        refine .bracketed bracket fun empty => nonempty ?_
        simpa [text] using empty
    have whole : token.text ++ (gap ++ '.' :: behind) =
        '[' :: (body ++ ']' :: (gap ++ '.' :: behind)) := by simp [text]
    have noName : ¬ Form.plain.Passes (token.text ++ (gap ++ '.' :: behind)) rest := by
      rw [whole]
      exact not_passes_name .plain rfl (by decide) _ rest
    simp only [Backend.forms, List.mem_cons, List.not_mem_nil, or_false, exists_eq_or_imp,
      exists_eq_left, noName, or_false, refers]
    rw [whole]
    exact passes_bracket_iff .bracketed rfl closed blank behind rest

/-- The first letter of the prefix of a backend. -/
def markerLetter : Backend → Char
  | .warehouse => 'r'
  | .transactional => 's'

/-- The prefix of a backend comes first in any form of its references. -/
theorem read?_eq_bind {backend : Backend} {form : Form} (member : form ∈ backend.forms)
    (text : List Char) :
    form.read? text = letter? (markerLetter backend) text >>= fun behind => letter? 's' behind >>=
      fun behind => point? behind >>= path? form.schema? := by
  have letter : form.letter = markerLetter backend := by
    cases backend with
    | warehouse =>
      obtain rfl := List.mem_singleton.mp member
      rfl
    | transactional =>
      simp only [Backend.forms, List.mem_cons, List.not_mem_nil, or_false] at member
      rcases member with rfl | rfl
      · rfl
      · rfl
  rw [form.read?_eq_bind, letter]

/-- The prefix of a table name has two letters. -/
theorem Naming.Names.letters {naming : Naming} {backend : Backend} {schema : List Char}
    (names : naming.Names backend schema) :
    ∃ a b, naming.marker.text = [a, b] ∧ fold a = markerLetter backend ∧ fold b = 's' ∧
      Token.isWordPart a = true := by
  have spelled : naming.marker.text.map (fun c => (fold c, Token.isWordPart c)) =
      backend.marker.upperCase.toList.map fun c => (fold c, Token.isWordPart c) :=
    Token.map_of_isKeyword (by decide +kernel) names.marks
  have prefixed : backend.marker.upperCase.toList.map (fun c => (fold c, Token.isWordPart c)) =
      [(markerLetter backend, true), ('s', true)] := by
    cases backend <;> decide
  rw [prefixed] at spelled
  obtain ⟨a, rest, text, first, others⟩ := List.map_eq_cons_iff.mp spelled
  obtain ⟨b, rest, rfl, second, none⟩ := List.map_eq_cons_iff.mp others
  rw [List.map_eq_nil_iff.mp none] at text
  exact ⟨a, b, text, (Prod.ext_iff.mp first).1, (Prod.ext_iff.mp second).1,
    (Prod.ext_iff.mp first).2⟩

/-- Where a table name stands in a text, with the gaps between its tokens. -/
structure Site (text : List Char) (naming : Naming) where
  /-- What is before the name. -/
  before : List Char
  /-- The gap before the first point. -/
  first : List Char
  /-- The gap before the schema. -/
  second : List Char
  /-- The gap behind the schema. -/
  third : List Char
  /-- The gap before the name. -/
  fourth : List Char
  /-- What is behind the name. -/
  after : List Char
  /-- The pieces make up the text. -/
  whole : text = before ++ (naming.marker.text ++ (first ++ '.' :: (second ++
    (naming.schema.text ++ (third ++ '.' :: (fourth ++ (naming.name.text ++ after)))))))
  /-- The name starts behind what is before it. -/
  place : naming.marker.start = before.length
  /-- No word ends right before the name. -/
  boundary : before.getLast?.any isWord = false
  /-- All gaps are blank. -/
  blank : ∀ c ∈ first ++ (second ++ (third ++ fourth)), isBlank c = true
  /-- The schema is spelled as its kind demands. -/
  schema : naming.schema.kind.Spells naming.schema.text
  /-- The name is a word. -/
  name : Token.Kind.word.Spells naming.name.text
  /-- The gaps tell how far the tokens are apart. -/
  apart : naming.firstPoint.start = naming.marker.stop + first.length ∧
    naming.schema.start = naming.firstPoint.stop + second.length ∧
    naming.secondPoint.start = naming.schema.stop + third.length ∧
    naming.name.start = naming.secondPoint.stop + fourth.length

/-- An operator of one character is this character. -/
theorem text_of_isOperator {token : Token} {mark : String}
    (matched : token.isOperator mark = true) : token.text = mark.toList := by
  simp only [Token.isOperator, Bool.and_eq_true, beq_iff_eq] at matched
  exact matched.2

/-- The tokens of a table name behind a word have a site. The word goes on as far as it
    can, so there is a blank between it and the prefix. -/
theorem exists_site {text : List Char} {front later : List Token} {prior : Token}
    {naming : Naming} {backend : Backend} {schema : List Char}
    (layout : Token.Layout 0 text (front ++ prior :: (naming.tokens ++ later)))
    (word : prior.kind = .word) (names : naming.Names backend schema) :
    Nonempty (Site text naming) := by
  obtain ⟨start, _, rfl, atPrior⟩ := layout.append
  obtain ⟨gap, _, rfl, _, priorPlace, priorReads, atMarker⟩ := atPrior.uncons
  obtain ⟨boundary, _, rfl, blankBoundary, place, _, atFirst⟩ := Token.Layout.uncons atMarker
  obtain ⟨first, _, rfl, blankFirst, firstPlace, _, atSchema⟩ := atFirst.uncons
  obtain ⟨second, _, rfl, blankSecond, schemaPlace, schemaReads, atSecond⟩ := atSchema.uncons
  obtain ⟨third, _, rfl, blankThird, secondPlace, _, atName⟩ := atSecond.uncons
  obtain ⟨fourth, after, rfl, blankFourth, namePlace, nameReads, _⟩ := atName.uncons
  have nonempty : boundary ≠ [] := by
    rintro rfl
    obtain ⟨a, b, text, _, _, part⟩ := names.letters
    have ended := priorReads.longest word a (by simp [text])
    rw [part] at ended
    cases ended
  refine ⟨{
    before := start ++ (gap ++ (prior.text ++ boundary)), first, second, third, fourth, after
    whole := by
      simp [text_of_isOperator names.first, text_of_isOperator names.second]
    place := by
      rw [place, Token.stop, priorPlace]
      simp only [List.length_append]
      omega
    boundary := ?_
    blank := by
      simp only [List.forall_mem_append]
      exact ⟨blankFirst, blankSecond, blankThird, blankFourth⟩
    schema := schemaReads.spells
    name := names.word ▸ nameReads.spells
    apart := ⟨firstPlace, schemaPlace, secondPlace, namePlace⟩ }⟩
  have last := List.getLast?_eq_some_getLast nonempty
  simp [List.getLast?_append, last,
    isWord_of_isBlank (blankBoundary _ (List.getLast_mem nonempty))]

/-- A table name is written as a reference if it has no gaps, a schema that references
    have and a name that starts as theirs do. -/
theorem Site.refers_iff {text : List Char} {naming : Naming} (site : Site text naming) :
    naming.Refers ↔ site.first = [] ∧ site.second = [] ∧ RefersToSchema naming.schema ∧
      site.third = [] ∧ site.fourth = [] ∧ naming.name.text.head?.any isNameChar = true := by
  obtain ⟨first, second, third, fourth⟩ := site.apart
  have adjacent : ∀ (gap : List Char) (stop start : Nat), start = stop + gap.length →
      (stop = start ↔ gap = []) := by
    intro gap stop start apart
    rw [← List.length_eq_zero_iff]
    omega
  have first := adjacent _ _ _ first
  have second := adjacent _ _ _ second
  have third := adjacent _ _ _ third
  have fourth := adjacent _ _ _ fourth
  constructor
  · intro refers
    exact ⟨first.mp refers.markerStops, second.mp refers.firstStops, refers.schema,
      third.mp refers.schemaStops, fourth.mp refers.secondStops, refers.named⟩
  · rintro ⟨noFirst, noSecond, schema, noThird, noFourth, named⟩
    exact ⟨first.mpr noFirst, second.mpr noSecond, schema, third.mpr noThird,
      fourth.mpr noFourth, named⟩

/-- A table name is found by the search for references if it is written as one. -/
theorem startsAt_iff_refers {text : List Char} {naming : Naming} {backend : Backend}
    {schema : List Char} (site : Site text naming) (names : naming.Names backend schema) :
    backend.StartsAt text naming.marker.start ↔ naming.Refers := by
  obtain ⟨a, b, letters, firstLetter, secondLetter, _⟩ := names.letters
  let behindSchema := site.fourth ++ (naming.name.text ++ site.after)
  let behindPoint := site.second ++ (naming.schema.text ++ (site.third ++ '.' :: behindSchema))
  let here := naming.marker.text ++ (site.first ++ '.' :: behindPoint)
  have blank := site.blank
  simp only [List.forall_mem_append] at blank
  obtain ⟨blankFirst, blankSecond, blankThird, blankFourth⟩ := blank
  have starts : backend.StartsAt text naming.marker.start ↔
      ∃ form ∈ backend.forms, (form.read? here).isSome = true := by
    constructor
    · rintro ⟨form, member, before, after, whole, place, _, found⟩
      have same := List.append_inj (site.whole.symm.trans whole) (site.place.symm.trans place.symm)
      rw [← same.2] at found
      exact ⟨form, member, found⟩
    · rintro ⟨form, member, found⟩
      exact ⟨form, member, site.before, here, site.whole, site.place.symm, site.boundary, found⟩
  have read : ∀ form ∈ backend.forms, (form.read? here).isSome = true ↔
      site.first = [] ∧ ∃ rest, form.Passes behindPoint rest ∧
        rest.head?.any isNameChar = true := by
    intro form member
    have prefixed : form.read? here =
        point? (site.first ++ '.' :: behindPoint) >>= path? form.schema? := by
      rw [read?_eq_bind member]
      simp [here, letters, letter?, firstLetter, secondLetter]
    rw [prefixed, point?_append blankFirst, ← path?_isSome_iff]
    by_cases adjacent : site.first = [] <;> simp [adjacent]
  have passes : ∀ rest, (∃ form ∈ backend.forms, form.Passes behindPoint rest) ↔
      site.second = [] ∧ RefersToSchema naming.schema ∧ site.third = [] ∧
        rest = behindSchema := by
    intro rest
    by_cases adjacent : site.second = []
    · have schema := passes_schema_iff names.schema site.schema blankThird behindSchema rest
      simpa [behindPoint, adjacent] using schema
    · obtain ⟨c, gap, second⟩ := List.exists_cons_of_ne_nil adjacent
      have atBlank : AtBlank behindPoint := by
        simp only [behindPoint, second]
        rintro _ ⟨⟩
        exact blankSecond c (second ▸ List.mem_cons_self)
      simp [adjacent, not_passes_of_atBlank atBlank]
  have named : behindSchema.head?.any isNameChar = true ↔
      site.fourth = [] ∧ naming.name.text.head?.any isNameChar = true := by
    obtain ⟨d, tail, name⟩ := List.exists_cons_of_ne_nil site.name.of_word.1
    cases fourth : site.fourth with
    | nil => simp [behindSchema, fourth, name]
    | cons c gap =>
      have refused := isNameChar_of_isBlank (blankFourth c (fourth ▸ List.mem_cons_self))
      simp [behindSchema, fourth, refused]
  rw [starts, site.refers_iff]
  constructor
  · rintro ⟨form, member, found⟩
    obtain ⟨noFirst, rest, passed, start⟩ := (read form member).mp found
    obtain ⟨noSecond, schema, noThird, rfl⟩ := (passes rest).mp ⟨form, member, passed⟩
    obtain ⟨noFourth, name⟩ := named.mp start
    exact ⟨noFirst, noSecond, schema, noThird, noFourth, name⟩
  · rintro ⟨noFirst, noSecond, schema, noThird, noFourth, name⟩
    obtain ⟨form, member, passed⟩ := (passes behindSchema).mpr ⟨noSecond, schema, noThird, rfl⟩
    exact ⟨form, member, (read form member).mpr
      ⟨noFirst, behindSchema, passed, named.mpr ⟨noFourth, name⟩⟩⟩

end JoinQuery

end SqlGateway
