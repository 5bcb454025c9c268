import Mathlib.Data.List.Pairwise
import Mathlib.Tactic.Push
import SqlGateway.Proofs.Token.Layout

/-!
# The places of tokens

The tokens of a text divide it up. Their places follow one another without overlap, each one
holds exactly the characters of its token, and whatever lies outside of all of them is blank.
So every character that is no blank belongs to exactly one token.

Which characters a token can have depends on its kind. Only the kinds with delimiters have
blanks in them, and of the others only names, numbers and some operators are longer than one
character.
-/

namespace SqlGateway.Token

open Text

/-- Whether a place of the text belongs to the token. -/
def Covers (token : Token) (place : Nat) : Prop :=
  token.start ≤ place ∧ place < token.stop

/-- What the kind of a token tells about its characters. -/
structure WellSpelled (token : Token) : Prop where
  /-- A quoted text stands between single quotes, and in it they are doubled. -/
  string : token.kind = .string →
    ∃ body, token.text = '\'' :: (body ++ ['\'']) ∧ QuotesDoubled body
  /-- A bracketed name stands between brackets. -/
  bracket : token.kind = .bracket → ∃ body, token.text = '[' :: (body ++ [']'])
  /-- A quoted name stands between double quotes. -/
  quoted : token.kind = .quoted → ∃ body, token.text = '"' :: (body ++ ['"'])
  /-- A token without delimiters has no blanks. -/
  solid : token.kind.isDelimited = false → ∀ c ∈ token.text, isBlank c = false
  /-- It is one character, unless it is a name, a number or an operator of two characters. -/
  single : token.kind.isDelimited = false → token.text.length = 1 ∨ token.kind = .word ∨
    token.kind = .number ∨ (token.kind = .operator ∧ token.text.length = 2)

/-- Some tokens divide up a text. -/
structure Divides (tokens : List Token) (text : List Char) : Prop where
  /-- No token is empty, and none goes beyond the text. -/
  inside : ∀ token ∈ tokens, token.start < token.stop ∧ token.stop ≤ text.length
  /-- Each token begins behind the begin, and also behind the end, of every one before it. -/
  ordered : tokens.Pairwise fun token later =>
    token.start < later.start ∧ token.stop ≤ later.start
  /-- The characters of a token are those at its places. -/
  verbatim : ∀ token ∈ tokens, (text.drop token.start).take (token.stop - token.start) = token.text
  /-- Before, between and behind the tokens there are only blanks. -/
  outside : ∀ place c, text[place]? = some c → (∀ token ∈ tokens, ¬ token.Covers place) →
    isBlank c = true
  /-- Every character that is no blank belongs to exactly one token. -/
  once : ∀ place c, text[place]? = some c → isBlank c = false →
    ∃! token, token ∈ tokens ∧ token.Covers place
  /-- Each token is spelled as its kind demands. -/
  spelled : ∀ token ∈ tokens, token.WellSpelled

/-- The spelling of a kind has the characters that the kind allows. -/
theorem Kind.Spells.wellSpelled {token : Token} (spells : token.kind.Spells token.text) :
    token.WellSpelled where
  string same := by rwa [same] at spells
  bracket same := by
    rw [same] at spells
    obtain ⟨body, whole, _⟩ := spells
    exact ⟨body, whole⟩
  quoted same := by
    rw [same] at spells
    obtain ⟨body, whole, _⟩ := spells
    exact ⟨body, whole⟩
  solid plain := (spells.solid plain).2
  single plain := by
    cases same : token.kind with
    | string | bracket | quoted => rw [same] at plain; cases plain
    | word => exact Or.inr (Or.inl rfl)
    | number => exact Or.inr (Or.inr (Or.inl rfl))
    | operator =>
      rw [same] at spells
      rcases spells with listed | ⟨mark, _, one⟩
      · have two : ∀ unit ∈ longOperators, unit.length = 2 := by decide
        exact Or.inr (Or.inr (Or.inr ⟨rfl, two _ listed⟩))
      · exact Or.inl (by rw [one, List.length_singleton])
    | other =>
      rw [same] at spells
      obtain ⟨c, _, one⟩ := spells
      exact Or.inl (by rw [one, List.length_singleton])

namespace Layout

variable {start : Nat} {text : List Char} {tokens : List Token} (layout : Layout start text tokens)

include layout

/-- A token lies behind the begin of the text and before its end, and is not empty. -/
theorem bounds : ∀ token ∈ tokens,
    start ≤ token.start ∧ token.start < token.stop ∧ token.stop ≤ start + text.length := by
  induction layout with
  | blank => exact List.forall_mem_nil _
  | @token start gap after token later _ place reads _ inductionHypothesis =>
    have many := List.length_pos_iff.mpr reads.spells.visible.nonempty
    refine List.forall_mem_cons.mpr ⟨?_, fun other member => ?_⟩
    · rw [stop, place]
      simp only [List.length_append]
      omega
    · have behind := inductionHypothesis other member
      rw [stop, place] at behind
      simp only [List.length_append]
      omega

/-- The tokens follow one another. The induction is on the layout; the later tokens lie in the
    text behind the first one. -/
theorem pairwise : tokens.Pairwise fun token later =>
    token.start < later.start ∧ token.stop ≤ later.start := by
  induction layout with
  | blank => exact List.Pairwise.nil
  | @token start gap after token later _ place reads rest inductionHypothesis =>
    refine List.pairwise_cons.mpr ⟨fun other member => ?_, inductionHypothesis⟩
    have many := List.length_pos_iff.mpr reads.spells.visible.nonempty
    have behind := (rest.bounds other member).1
    rw [stop] at behind ⊢
    omega

/-- Where no token lies there is a blank. The induction is on the layout: a place is in the gap
    before the first token, in the token, or behind it. -/
theorem isBlank_of_not_covers {place : Nat} {c : Char} (found : text[place]? = some c)
    (uncovered : ∀ token ∈ tokens, ¬ token.Covers (start + place)) : isBlank c = true := by
  induction layout generalizing place with
  | blank blank => exact blank c (List.mem_of_getElem? found)
  | @token start gap after token later blank begins reads rest inductionHypothesis =>
    obtain ⟨here, others⟩ := List.forall_mem_cons.mp uncovered
    by_cases before : place < gap.length
    · rw [List.getElem?_append_left before] at found
      exact blank c (List.mem_of_getElem? found)
    · have behind : gap.length + token.text.length ≤ place := by
        simp only [Covers, stop, begins] at here
        omega
      rw [List.getElem?_append_right (by omega), List.getElem?_append_right (by omega)] at found
      refine inductionHypothesis found fun other member => ?_
      have same : token.stop + (place - gap.length - token.text.length) = start + place := by
        rw [stop, begins]
        omega
      rw [same]
      exact others other member

/-- Each token has the characters at its places. -/
theorem verbatim : ∀ token ∈ tokens,
    (text.drop (token.start - start)).take (token.stop - token.start) = token.text := by
  intro token member
  obtain ⟨front, later, rfl⟩ := List.append_of_mem member
  obtain ⟨before, after, rfl, place, _⟩ := layout.at
  have skipped : token.start - start = before.length := by omega
  have many : token.stop - token.start = token.text.length := by
    rw [stop]
    omega
  rw [skipped, many, List.drop_left, List.take_left]

end Layout

/-- No place belongs to two of some tokens that follow one another. -/
theorem eq_of_covers {tokens : List Token}
    (ordered : tokens.Pairwise fun token later =>
      token.start < later.start ∧ token.stop ≤ later.start)
    {place : Nat} {token other : Token} (member : token ∈ tokens) (covers : token.Covers place)
    (memberToo : other ∈ tokens) (coversToo : other.Covers place) : token = other := by
  have apart : tokens.Pairwise fun token later => ¬ (token.Covers place ∧ later.Covers place) := by
    refine ordered.imp ?_
    rintro token later ⟨_, follows⟩ ⟨⟨_, ends⟩, begins, _⟩
    omega
  by_contra different
  have symmetric : Std.Symm fun token later : Token =>
      ¬ (token.Covers place ∧ later.Covers place) :=
    ⟨fun token later never both => never both.symm⟩
  exact apart.forall member memberToo different ⟨covers, coversToo⟩

/-- The tokens of a text divide it up. -/
theorem scan_divides (text : List Char) : Divides (scan text) text := by
  have layout := scan_layout text
  have ordered := layout.pairwise
  have blank : ∀ place c, text[place]? = some c → (∀ token ∈ scan text, ¬ token.Covers place) →
      isBlank c = true := by
    intro place c found uncovered
    exact layout.isBlank_of_not_covers found (by simpa using uncovered)
  refine ⟨?_, ordered, ?_, blank, ?_, fun token member => (layout.spells token member).wellSpelled⟩
  · intro token member
    obtain ⟨_, nonempty, ends⟩ := layout.bounds token member
    exact ⟨nonempty, by omega⟩
  · intro token member
    exact layout.verbatim token member
  · intro place c found visible
    have covered : ∃ token ∈ scan text, token.Covers place := by
      by_contra none
      push Not at none
      have blankHere := blank place c found none
      rw [visible] at blankHere
      cases blankHere
    obtain ⟨token, member, covers⟩ := covered
    refine ⟨token, ⟨member, covers⟩, ?_⟩
    rintro other ⟨memberToo, coversToo⟩
    exact eq_of_covers ordered memberToo coversToo member covers

end SqlGateway.Token
