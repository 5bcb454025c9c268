import SqlGateway.Proofs.Text.Blank
import SqlGateway.Reference

/-!
# References and blanks

No reference has a blank outside of brackets, and none starts or ends with one. Whether a
text holds a reference is therefore the same before and after its blanks are unified.

Two rewritings of a text are seen here as one: writing every run of blanks as one space,
and putting blanks behind the text. Both copy what is no blank, both leave a blank or the
end of the text where one was, and both leave a schema in brackets one. That is all that
the reader of references can tell, so it reads the same from the rewritten text.
-/

namespace SqlGateway.Reference

open Text

/-- No blank is part of a plain name. -/
theorem isNameChar_of_isBlank {c : Char} (blank : isBlank c = true) : isNameChar c = false := by
  simpa using @of_isBlank (fun c => !isNameChar c) (by decide +kernel) c blank

/-- No blank folds to a letter of a prefix. -/
theorem fold_of_isBlank {c : Char} (blank : isBlank c = true) : fold c ≠ 'r' ∧ fold c ≠ 's' := by
  simpa using @of_isBlank (fun c => fold c ≠ 'r' && fold c ≠ 's') (by decide +kernel) c blank

/-- A text comes to a blank or to its end. -/
def AtBlank (text : List Char) : Prop :=
  ∀ c, text.head? = some c → isBlank c = true

/-- A letter of a prefix at the start of a text is passed over. -/
def letter? (letter : Char) : List Char → Option (List Char)
  | c :: rest => if fold c = letter then some rest else none
  | [] => none

/-- A prefix is two letters and a point. -/
theorem marker?_eq_bind (first second : Char) (text : List Char) :
    marker? first second text = letter? first text >>= letter? second >>= point? := by
  rcases text with _ | ⟨a, _ | ⟨b, _ | ⟨c, rest⟩⟩⟩
  · rfl
  · by_cases one : fold a = first <;> simp [marker?, letter?, one]
  · by_cases one : fold a = first <;> by_cases other : fold b = second <;>
      simp [marker?, letter?, point?, one, other]
  · by_cases one : fold a = first <;> by_cases other : fold b = second <;>
      by_cases point : c = '.' <;> simp [marker?, letter?, point?, one, other, point]

/-- There is no point at a blank. -/
theorem point?_of_atBlank {text : List Char} (blank : AtBlank text) : point? text = none := by
  cases text with
  | nil => rfl
  | cons c rest =>
    have other : c ≠ '.' := by
      rintro rfl
      exact absurd (blank '.' rfl) (by decide)
    simp [point?, other]

/-- There is no letter of a prefix at a blank. -/
theorem letter?_of_atBlank {letter : Char} {text : List Char} (blank : AtBlank text)
    (prefixed : letter = 'r' ∨ letter = 's') : letter? letter text = none := by
  cases text with
  | nil => rfl
  | cons c rest =>
    have other := fold_of_isBlank (blank c rfl)
    rcases prefixed with rfl | rfl
    · simp [letter?, other.1]
    · simp [letter?, other.2]

/-- There is no plain name at a blank. -/
theorem span_of_atBlank {text : List Char} (blank : AtBlank text) :
    text.takeWhile isNameChar = [] ∧ text.dropWhile isNameChar = text := by
  cases text with
  | nil => exact ⟨rfl, rfl⟩
  | cons c rest => simp [isNameChar_of_isBlank (blank c rfl)]

/-- There is no bracket at a blank. -/
theorem bracket?_of_atBlank {text : List Char} (blank : AtBlank text) : bracket? text = none := by
  cases text with
  | nil => rfl
  | cons c rest =>
    have other : c ≠ '[' := by
      rintro rfl
      exact absurd (blank '[' rfl) (by decide)
    simp [bracket?, other]

/-- A rewriting of texts that changes nothing but blanks. What is in brackets is rewritten
    in its own way. -/
structure OnBlanks (inside rewritten : List Char → List Char) : Prop where
  /-- What is no blank is copied. -/
  copies : ∀ c rest, isBlank c = false → rewritten (c :: rest) = c :: rewritten rest
  /-- Where there is a blank or the end of the text, there still is. -/
  stays : ∀ text, AtBlank text → AtBlank (rewritten text)
  /-- A schema in brackets stays one. -/
  bracket : ∀ rest, bracket? ('[' :: rewritten rest) =
    (bracket? ('[' :: rest)).map (Prod.map inside rewritten)

/-- A text comes to a blank, or there is something else. -/
theorem atBlank_or_cons (text : List Char) :
    AtBlank text ∨ ∃ c rest, text = c :: rest ∧ isBlank c = false := by
  cases text with
  | nil => exact Or.inl nofun
  | cons c rest =>
    cases blank : isBlank c with
    | true =>
      refine Or.inl ?_
      rintro _ ⟨⟩
      exact blank
    | false => exact Or.inr ⟨c, rest, rfl, blank⟩

namespace OnBlanks

variable {inside rewritten : List Char → List Char} (change : OnBlanks inside rewritten)

include change

/-- A point is passed over in the rewritten text as well. -/
theorem point?_eq (text : List Char) : point? (rewritten text) = (point? text).map rewritten := by
  rcases atBlank_or_cons text with blank | ⟨c, rest, rfl, visible⟩
  · rw [point?_of_atBlank blank, point?_of_atBlank (change.stays text blank)]
    rfl
  · rw [change.copies c rest visible]
    by_cases point : c = '.'
    · subst point
      rfl
    · simp [point?, point]

/-- A letter of a prefix is passed over in the rewritten text as well. -/
theorem letter?_eq {letter : Char} (prefixed : letter = 'r' ∨ letter = 's') (text : List Char) :
    letter? letter (rewritten text) = (letter? letter text).map rewritten := by
  rcases atBlank_or_cons text with blank | ⟨c, rest, rfl, visible⟩
  · rw [letter?_of_atBlank blank prefixed, letter?_of_atBlank (change.stays text blank) prefixed]
    rfl
  · rw [change.copies c rest visible]
    by_cases same : fold c = letter
    · simp [letter?, same]
    · simp [letter?, same]

/-- A prefix is passed over in the rewritten text as well. -/
theorem marker?_eq {first second : Char} (one : first = 'r' ∨ first = 's')
    (other : second = 'r' ∨ second = 's') (text : List Char) :
    marker? first second (rewritten text) = (marker? first second text).map rewritten := by
  rw [marker?_eq_bind, marker?_eq_bind, change.letter?_eq one]
  cases letter? first text with
  | none => rfl
  | some behind =>
    have second := change.letter?_eq other behind
    simp only [Option.map_some, Option.bind_eq_bind, Option.bind_some, second]
    cases letter? _ behind with
    | none => rfl
    | some last => exact change.point?_eq last

/-- The characters of a plain name are the same in the rewritten text. -/
theorem span_eq (text : List Char) :
    (rewritten text).takeWhile isNameChar = text.takeWhile isNameChar ∧
      (rewritten text).dropWhile isNameChar = rewritten (text.dropWhile isNameChar) := by
  induction text with
  | nil =>
    have ended := span_of_atBlank (change.stays [] nofun)
    exact ⟨ended.1, ended.2⟩
  | cons c rest inductionHypothesis =>
    rcases atBlank_or_cons (c :: rest) with blank | ⟨_, _, ⟨⟩, visible⟩
    · have ended := span_of_atBlank (change.stays _ blank)
      rw [(span_of_atBlank blank).1, (span_of_atBlank blank).2]
      exact ended
    · rw [change.copies c rest visible]
      by_cases named : isNameChar c = true
      · simp [named, inductionHypothesis]
      · simp [named, change.copies c rest visible]

/-- A plain name is read from the rewritten text as well. -/
theorem name?_eq (text : List Char) :
    name? (rewritten text) = (name? text).map (Prod.map id rewritten) := by
  simp only [name?, change.span_eq text]
  split
  · rfl
  · rfl

/-- A bracketed schema is read from the rewritten text as well. -/
theorem bracket?_eq (text : List Char) :
    bracket? (rewritten text) = (bracket? text).map (Prod.map inside rewritten) := by
  rcases atBlank_or_cons text with blank | ⟨c, rest, rfl, visible⟩
  · rw [bracket?_of_atBlank blank, bracket?_of_atBlank (change.stays text blank)]
    rfl
  · rw [change.copies c rest visible]
    by_cases opens : c = '['
    · subst opens
      exact change.bracket rest
    · simp [bracket?, opens]

/-- A path is found in the rewritten text if there was one. -/
theorem path?_isSome {schema? : List Char → Option (List Char × List Char)}
    {schemaRewritten : List Char → List Char}
    (schema : ∀ text, schema? (rewritten text) =
      (schema? text).map (Prod.map schemaRewritten rewritten)) (text : List Char) :
    (path? schema? (rewritten text)).isSome = (path? schema? text).isSome := by
  simp only [path?, schema]
  cases schema? text with
  | none => rfl
  | some found =>
    simp only [Option.map_some, Option.bind_eq_bind, Option.bind_some, Prod.map_snd,
      change.point?_eq]
    cases point? found.2 with
    | none => rfl
    | some behind =>
      simp only [Option.map_some, Option.bind_some, change.name?_eq]
      cases name? behind <;> rfl

/-- A reference is found at the start of the rewritten text if there was one. -/
theorem read?_isSome (form : Form) (text : List Char) :
    (form.read? (rewritten text)).isSome = (form.read? text).isSome := by
  cases form with
  | warehouse =>
    simp only [Form.read?, change.marker?_eq (Or.inl rfl) (Or.inr rfl)]
    cases marker? 'r' 's' text with
    | none => rfl
    | some behind => exact change.path?_isSome change.name?_eq behind
  | bracketed =>
    simp only [Form.read?, change.marker?_eq (Or.inr rfl) (Or.inr rfl)]
    cases marker? 's' 's' text with
    | none => rfl
    | some behind => exact change.path?_isSome change.bracket?_eq behind
  | plain =>
    simp only [Form.read?, change.marker?_eq (Or.inr rfl) (Or.inr rfl)]
    cases marker? 's' 's' text with
    | none => rfl
    | some behind => exact change.path?_isSome change.name?_eq behind

end OnBlanks

/-- A bracket is not closed where there is no closing one. -/
theorem ne_of_absent {text : List Char} (absent : ']' ∉ text) :
    ∀ c ∈ text, (c != ']') = true := by
  intro c member
  rw [bne_iff_ne]
  rintro rfl
  exact absent member

/-- What a bracket encloses up to the first closing one is a schema, if it is anything. -/
theorem bracket?_of_closed {schema : List Char} (absent : ']' ∉ schema) (rest : List Char) :
    bracket? ('[' :: (schema ++ ']' :: rest)) =
      if schema = [] then none else some (schema, rest) := by
  have taken : (schema ++ ']' :: rest).takeWhile (· != ']') = schema := by
    rw [List.takeWhile_append_of_pos (ne_of_absent absent)]
    simp
  have dropped : (schema ++ ']' :: rest).dropWhile (· != ']') = ']' :: rest := by
    rw [List.dropWhile_append_of_pos (ne_of_absent absent)]
    simp
  cases schema with
  | nil => rfl
  | cons c schema => simp only [bracket?, taken, dropped, List.cons_ne_nil, if_false]

/-- A bracket that is not closed encloses no schema. -/
theorem bracket?_of_unclosed {text : List Char} (absent : ']' ∉ text) :
    bracket? ('[' :: text) = none := by
  have dropped : text.dropWhile (· != ']') = [] := by
    simpa using @List.dropWhile_append_of_pos _ _ text [] (ne_of_absent absent)
  simp only [bracket?, dropped]
  split
  · next closed => cases closed
  · rfl

/-- A schema stays one if its bracket stays closed where it was and it does not vanish. -/
theorem bracket?_rewritten {inside rewritten : List Char → List Char}
    (closes : ∀ schema rest, ']' ∉ schema →
      rewritten (schema ++ ']' :: rest) = inside schema ++ ']' :: rewritten rest)
    (keeps : ∀ schema, ']' ∉ schema → ']' ∉ inside schema ∧ (inside schema = [] ↔ schema = []))
    (opened : ∀ text, ']' ∉ text → ']' ∉ rewritten text) (text : List Char) :
    bracket? ('[' :: rewritten text) =
      (bracket? ('[' :: text)).map (Prod.map inside rewritten) := by
  by_cases closed : ']' ∈ text
  · obtain ⟨schema, rest, rfl, absent⟩ := List.eq_append_cons_of_mem closed
    obtain ⟨stillAbsent, empty⟩ := keeps schema absent
    rw [closes schema rest absent, bracket?_of_closed stillAbsent, bracket?_of_closed absent]
    by_cases nothing : schema = []
    · rw [if_pos nothing, if_pos (empty.mpr nothing)]
      rfl
    · rw [if_neg nothing, if_neg (mt empty.mp nothing)]
      rfl
  · rw [bracket?_of_unclosed (opened text closed), bracket?_of_unclosed closed]
    rfl

/-- Putting blanks behind a text changes only blanks. -/
theorem append_onBlanks {gap : List Char} (blank : ∀ c ∈ gap, isBlank c = true) :
    OnBlanks id (· ++ gap) where
  copies _ _ _ := rfl
  stays text atBlank c first := by
    cases text with
    | nil => exact blank c (List.mem_of_head? first)
    | cons d rest => exact atBlank c first
  bracket := by
    have absent : ']' ∉ gap := fun member => absurd (blank ']' member) (by decide)
    refine bracket?_rewritten ?_ ?_ ?_
    · intro schema rest _
      simp
    · intro schema unclosed
      exact ⟨unclosed, Iff.rfl⟩
    · intro text unclosed
      simp [unclosed, absent]

/-- Unifying blanks adds no characters but spaces. -/
theorem mem_squeezeFrom {c : Char} {inRun : Bool} {text : List Char}
    (member : c ∈ squeezeFrom inRun text) : c = ' ' ∨ c ∈ text := by
  induction text generalizing inRun with
  | nil => exact Or.inr member
  | cons d rest inductionHypothesis =>
    have later : ∀ {run : Bool}, c ∈ squeezeFrom run rest → c = ' ' ∨ c ∈ d :: rest := by
      intro run inRest
      exact (inductionHypothesis inRest).imp_right (List.mem_cons_of_mem d)
    simp only [squeezeFrom] at member
    split at member
    · split at member
      · exact later member
      · exact (List.mem_cons.mp member).elim Or.inl later
    · rcases List.mem_cons.mp member with rfl | member
      · exact Or.inr List.mem_cons_self
      · exact later member

/-- A character that is no blank ends a run of blanks. -/
theorem squeezeFrom_append {c : Char} (visible : isBlank c = false) (inRun : Bool)
    (before after : List Char) :
    squeezeFrom inRun (before ++ c :: after) =
      squeezeFrom inRun before ++ c :: squeezeFrom false after := by
  induction before generalizing inRun with
  | nil => simp [squeezeFrom, visible]
  | cons d rest inductionHypothesis =>
    simp only [List.cons_append, squeezeFrom, inductionHypothesis]
    split
    · split <;> rfl
    · rfl

/-- Unifying blanks changes only blanks. -/
theorem squeezeFrom_onBlanks : OnBlanks (squeezeFrom false) (squeezeFrom false) where
  copies c rest visible := by simp [squeezeFrom, visible]
  stays text atBlank := by
    cases text with
    | nil => exact atBlank
    | cons c rest =>
      simp only [squeezeFrom, atBlank c rfl, if_true]
      rintro _ ⟨⟩
      decide
  bracket := by
    have stays : ∀ text, ']' ∉ text → ']' ∉ squeezeFrom false text := by
      intro text absent member
      rcases mem_squeezeFrom member with space | member
      · exact absurd space (by decide)
      · exact absent member
    refine bracket?_rewritten ?_ ?_ stays
    · intro schema rest _
      exact squeezeFrom_append (by decide) false schema rest
    · intro schema absent
      refine ⟨stays schema absent, ?_⟩
      cases schema with
      | nil => exact Iff.rfl
      | cons c rest =>
        rw [squeezeFrom]
        split <;> simp

/-- A reference is found at a place if the character before does not forbid it. -/
theorem Form.at?_isSome (form : Form) (before : Option Char) (text : List Char) :
    (form.at? before text).isSome = (!before.any isWord && (form.read? text).isSome) := by
  cases word : before.any isWord <;> simp [Form.at?, word]

/-- No reference starts with a blank. -/
theorem Form.read?_of_atBlank (form : Form) {text : List Char} (blank : AtBlank text) :
    form.read? text = none := by
  cases form <;> simp [Form.read?, marker?_eq_bind, letter?_of_atBlank blank]

/-- Of the character before a place only matters whether it is part of a word. -/
theorem Form.occursFrom_congr (form : Form) {before other : Option Char}
    (same : before.any isWord = other.any isWord) (text : List Char) :
    form.occursFrom before text = form.occursFrom other text := by
  cases text with
  | nil => rfl
  | cons c rest => rw [Form.occursFrom, Form.occursFrom, Form.at?_isSome, Form.at?_isSome, same]

/-- A search passes over a blank, and behind it a reference may start. -/
theorem Form.occursFrom_cons_blank (form : Form) {before : Option Char} {c : Char}
    (blank : isBlank c = true) (rest : List Char) :
    form.occursFrom before (c :: rest) = form.occursFrom none rest := by
  have here : form.read? (c :: rest) = none := by
    refine form.read?_of_atBlank ?_
    rintro _ ⟨⟩
    exact blank
  have noWord : (some c).any isWord = (none : Option Char).any isWord := by
    simp [isWord_of_isBlank blank]
  rw [Form.occursFrom, Form.at?_isSome, here, form.occursFrom_congr noWord]
  simp

/-- Blanks before a text neither add nor remove a reference. -/
theorem Form.occursFrom_blank_append (form : Form) {gap : List Char}
    (blank : ∀ c ∈ gap, isBlank c = true) (text : List Char) :
    form.occursFrom none (gap ++ text) = form.occursFrom none text := by
  induction gap with
  | nil => rfl
  | cons c rest inductionHypothesis =>
    rw [List.cons_append, form.occursFrom_cons_blank (blank c List.mem_cons_self),
      inductionHypothesis fun d member => blank d (List.mem_cons_of_mem c member)]

/-- Blanks behind a text neither add nor remove a reference. -/
theorem Form.occursFrom_append (form : Form) {before : Option Char} {gap : List Char}
    (blank : ∀ c ∈ gap, isBlank c = true) (text : List Char) :
    form.occursFrom before (text ++ gap) = form.occursFrom before text := by
  induction text generalizing before with
  | nil =>
    cases gap with
    | nil => rfl
    | cons c rest =>
      have later := form.occursFrom_blank_append
        (fun d member => blank d (List.mem_cons_of_mem c member)) []
      rw [List.append_nil] at later
      rw [List.nil_append, form.occursFrom_cons_blank (blank c List.mem_cons_self), later]
      rfl
  | cons c rest inductionHypothesis =>
    have here := (append_onBlanks blank).read?_isSome form (c :: rest)
    rw [List.cons_append] at here
    rw [List.cons_append, Form.occursFrom, Form.occursFrom, Form.at?_isSome, Form.at?_isSome, here,
      inductionHypothesis]

/-- Unifying blanks neither adds nor removes a reference. The induction is on the text; of
    the character before, the two sides only agree on whether it is part of a word, and
    within a run of blanks it is none. -/
theorem Form.occursFrom_squeezeFrom (form : Form) {inRun : Bool} {before other : Option Char}
    (same : before.any isWord = other.any isWord) (gap : inRun = true → other.any isWord = false)
    (text : List Char) :
    form.occursFrom before (squeezeFrom inRun text) = form.occursFrom other text := by
  induction text generalizing inRun before other with
  | nil => rfl
  | cons c rest inductionHypothesis =>
    cases blank : isBlank c with
    | true =>
      rw [form.occursFrom_cons_blank blank]
      cases inRun with
      | true =>
        rw [squeezeFrom, blank]
        exact inductionHypothesis (same.trans (gap rfl)) fun _ => rfl
      | false =>
        have written : squeezeFrom false (c :: rest) = ' ' :: squeezeFrom true rest := by
          simp [squeezeFrom, blank]
        rw [written, form.occursFrom_cons_blank (by decide)]
        exact inductionHypothesis rfl fun _ => rfl
    | false =>
      have copied : ∀ run, squeezeFrom run (c :: rest) = c :: squeezeFrom false rest := by
        intro run
        simp [squeezeFrom, blank]
      have here := squeezeFrom_onBlanks.read?_isSome form (c :: rest)
      rw [copied] at here ⊢
      rw [Form.occursFrom, Form.occursFrom, Form.at?_isSome, Form.at?_isSome, same, here]
      rw [@inductionHypothesis false (some c) (some c) rfl nofun]

/-- A text holds a reference before its blanks are unified if it does afterwards. -/
theorem Form.occurs_squeeze (form : Form) (text : List Char) :
    form.occurs (squeeze text) = form.occurs text := by
  obtain ⟨before, after, whole, blankBefore, blankAfter⟩ := exists_trim (squeezeFrom false text)
  have squeezed : form.occursFrom none (squeezeFrom false text) = form.occurs text :=
    @Form.occursFrom_squeezeFrom form false none none rfl nofun text
  rw [whole, form.occursFrom_blank_append blankBefore,
    form.occursFrom_append blankAfter] at squeezed
  exact squeezed

end SqlGateway.Reference
