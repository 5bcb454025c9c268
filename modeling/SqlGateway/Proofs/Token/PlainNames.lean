import SqlGateway.Proofs.Reference.Paths
import SqlGateway.Proofs.Token.Spacing

/-!
# Plain names

A name of letters, digits and underscores of ASCII needs no quotes. All of its characters may stand
in the names of references. The scanner looks closer: a name that has a letter or an underscore is
one word, also if digits come first, but a run of digits is a number, and with a point and more
digits behind it they are one.
-/

namespace SqlGateway.Token

open Text

/-- The letters and digits of ASCII and the underscore. -/
def isPlain (c : Char) : Bool :=
  ('A' ≤ c && c ≤ 'Z') || ('a' ≤ c && c ≤ 'z') || ('0' ≤ c && c ≤ '9') || c == '_'

/-- A name that needs no quotes. -/
structure PlainName where
  /-- The characters of the name. -/
  text : String
  /-- There is at least one. -/
  nonempty : text.toList ≠ []
  /-- All of them are plain. -/
  plain : ∀ c ∈ text.toList, isPlain c = true

/-- A name of digits alone is spelled like a number. -/
def PlainName.isNumber (name : PlainName) : Bool :=
  name.text.toList.all Char.isDigit

/-- What holds of all plain characters that are listed holds of every plain character. -/
theorem of_isPlain {holds : Char → Bool}
    (listed : ∀ code < 128, isPlain (Char.ofNat code) = true → holds (Char.ofNat code) = true)
    {c : Char} (plain : isPlain c = true) : holds c = true := by
  have ascii : c.toNat < 128 := by
    simp only [isPlain, Bool.or_eq_true, Bool.and_eq_true, decide_eq_true_eq, beq_iff_eq,
      Char.le_def, UInt32.le_iff_toNat_le] at plain
    rcases plain with ((⟨_, last⟩ | ⟨_, last⟩) | ⟨_, last⟩) | rfl
    · exact Nat.lt_of_le_of_lt last (by decide)
    · exact Nat.lt_of_le_of_lt last (by decide)
    · exact Nat.lt_of_le_of_lt last (by decide)
    · decide
  have known := listed c.toNat ascii
  rw [Char.ofNat_toNat] at known
  exact known plain

/-- Plain characters may stand in the names of references. -/
theorem isNameChar_of_isPlain {c : Char} (plain : isPlain c = true) :
    Reference.isNameChar c = true :=
  of_isPlain (by decide +kernel) plain

/-- Plain characters continue words. -/
theorem isWordPart_of_isPlain {c : Char} (plain : isPlain c = true) : isWordPart c = true :=
  of_isPlain (by decide +kernel) plain

/-- Plain characters are no blanks. -/
theorem isBlank_of_isPlain {c : Char} (plain : isPlain c = true) : isBlank c = false :=
  isBlank_of_isWordPart (isWordPart_of_isPlain plain)

/-- A plain character starts a word, unless it is a digit of ASCII. -/
theorem isDigit_of_isPlain {c : Char} (plain : isPlain c = true) :
    isDigit c = c.isDigit ∧ isWordStart c = !c.isDigit := by
  have both := @of_isPlain (fun c => isDigit c == c.isDigit && isWordStart c == !c.isDigit)
    (by decide +kernel) c plain
  simpa using both

/-- No unit between delimiters starts with a plain character. -/
theorem delimited_of_isPlain {c : Char} (plain : isPlain c = true) (rest : List Char) :
    lexeme.delimited c rest = none := by
  unfold lexeme.delimited
  split
  · cases plain
  · cases plain
  · cases plain
  · rfl

/-- A unit that starts with a plain character is a word if it can be one. -/
theorem lexeme_word {c : Char} {rest : List Char} {extent : Nat} (plain : isPlain c = true)
    (word : wordExtent? (c :: rest) = some extent) : lexeme c rest = (some .word, extent) := by
  simp only [lexeme, isBlank_of_isPlain plain, Bool.false_eq_true, if_false,
    delimited_of_isPlain plain, word]

/-- A unit that starts with a plain character and can be no word is a number if it can be one. -/
theorem lexeme_number {c : Char} {rest : List Char} {extent : Nat} (plain : isPlain c = true)
    (noWord : wordExtent? (c :: rest) = none) (number : numberExtent? (c :: rest) = some extent) :
    lexeme c rest = (some .number, extent) := by
  simp only [lexeme, isBlank_of_isPlain plain, Bool.false_eq_true, if_false,
    delimited_of_isPlain plain, noWord, number]

/-- A mark behind a name that ends it. -/
structure EndsName (mark : Char) : Prop where
  /-- No word goes on. -/
  word : isWordPart mark = false
  /-- No digit of any script comes next. -/
  digit : isDigit mark = false

/-- A name ends before a point. -/
theorem ends_point : EndsName '.' := ⟨by decide, by decide⟩

/-- A name ends before a space. -/
theorem ends_space : EndsName ' ' := ⟨by decide, by decide⟩

namespace PlainName

variable (name : PlainName)

/-- A plain name is a name of references. -/
theorem isName : Reference.IsName name.text.toList :=
  ⟨name.nonempty, fun c member => isNameChar_of_isPlain (name.plain c member)⟩

/-- There is no blank in a plain name. -/
theorem solid : ∀ c ∈ name.text.toList, isBlank c = false :=
  fun c member => isBlank_of_isPlain (name.plain c member)

/-- A name with a letter or an underscore is a word up to its end. The digits before the first of
    them belong to it. -/
theorem wordExtent?_text (letter : name.isNumber = false) {mark : Char} (ends : EndsName mark)
    (rest : List Char) :
    wordExtent? (name.text.toList ++ mark :: rest) = some name.text.toList.length := by
  obtain ⟨digits, behind, whole, _, _, inside, stops⟩ := span_eq isDigit name.text.toList
  have plain := name.plain
  rw [whole] at plain ⊢
  cases behind with
  | nil =>
    have number : name.isNumber = true := by
      rw [isNumber, whole, List.all_eq_true]
      intro c member
      rw [← (isDigit_of_isPlain (plain c member)).1]
      exact inside c (by simpa using member)
    cases number.symm.trans letter
  | cons c tail =>
    have other : isDigit c = false := stops c rfl
    obtain ⟨digit, starts⟩ := isDigit_of_isPlain (plain c (by simp))
    rw [← digit, other] at starts
    have taken : (digits ++ c :: tail ++ mark :: rest).takeWhile isDigit = digits := by
      simp [List.takeWhile_append_of_pos inside, other]
    have dropped : (digits ++ c :: tail ++ mark :: rest).dropWhile isDigit =
        c :: (tail ++ mark :: rest) := by
      simp [List.dropWhile_append_of_pos inside, other]
    have parts : ∀ d ∈ tail, isWordPart d = true :=
      fun d member => isWordPart_of_isPlain (plain d (by simp [member]))
    have goesOn : (tail ++ mark :: rest).takeWhile isWordPart = tail := by
      simp [List.takeWhile_append_of_pos parts, ends.word]
    simp only [wordExtent?, taken, dropped, starts, goesOn, Bool.not_false, if_true,
      List.length_append, List.length_cons, Option.some.injEq]
    omega

/-- A name of digits alone is no word but a number, and perhaps not the whole of it. -/
theorem extents_of_isNumber (number : name.isNumber = true) {mark : Char} (ends : EndsName mark)
    (rest : List Char) :
    wordExtent? (name.text.toList ++ mark :: rest) = none ∧
      ∃ extent, numberExtent? (name.text.toList ++ mark :: rest) = some extent := by
  have inside : ∀ c ∈ name.text.toList, isDigit c = true := by
    intro c member
    rw [(isDigit_of_isPlain (name.plain c member)).1]
    exact List.all_eq_true.mp number c member
  have taken : (name.text.toList ++ mark :: rest).takeWhile isDigit = name.text.toList := by
    simp [List.takeWhile_append_of_pos inside, ends.digit]
  have dropped : (name.text.toList ++ mark :: rest).dropWhile isDigit = mark :: rest := by
    simp [List.dropWhile_append_of_pos inside, ends.digit]
  have noStart : isWordStart mark = false := by
    rw [Bool.eq_false_iff]
    intro starts
    cases ends.word.symm.trans (isWordPart_of_isWordStart starts)
  have digits : name.text.toList.length ≠ 0 := by simpa using name.nonempty
  constructor
  · simp only [wordExtent?, dropped, noStart, Bool.false_eq_true, if_false]
  · simp only [numberExtent?, taken, dropped, digits, if_false]
    split
    · exact ⟨_, rfl⟩
    · exact ⟨_, rfl⟩

/-- A plain name is scanned as a number if it has nothing but digits, and otherwise as one word
    behind which the scanner goes on. -/
theorem scanFrom_text {mark : Char} (ends : EndsName mark) (start : Nat) (rest : List Char) :
    ∃ token later, scanFrom start (name.text.toList ++ mark :: rest) = token :: later ∧
      token.kind = (if name.isNumber then .number else .word) ∧
      (name.isNumber = false → token.text = name.text.toList ∧
        later = scanFrom (start + name.text.toList.length) (mark :: rest)) := by
  obtain ⟨c, tail, whole⟩ := List.exists_cons_of_ne_nil name.nonempty
  have plain : isPlain c = true := name.plain c (by simp [whole])
  cases number : name.isNumber with
  | true =>
    obtain ⟨noWord, extent, digits⟩ := name.extents_of_isNumber number ends rest
    rw [whole] at noWord digits ⊢
    exact ⟨_, _, scanFrom_of_some start (lexeme_number plain noWord digits), rfl, nofun⟩
  | false =>
    have word := name.wordExtent?_text number ends rest
    rw [whole] at word ⊢
    have scanned := scanFrom_of_some start (lexeme_word plain word)
    exact ⟨_, _, scanned, rfl, fun _ => ⟨List.take_left, congrArg (scanFrom _) List.drop_left⟩⟩

end PlainName

/-- The tokens at the start of a text can be computed, however many units follow. -/
theorem scanFrom_of_computed {start stop used : Nat} {front rest : List Char}
    {tokens : List Token}
    (computed : ∀ units : Nat,
      scanWithin (units + used) start (front ++ rest) = tokens ++ scanWithin units stop rest) :
    scanFrom start (front ++ rest) = tokens ++ scanFrom stop rest := by
  have enough : (front ++ rest).length ≤ front.length + rest.length + used := by
    rw [List.length_append]
    omega
  rw [scanFrom_eq_scanWithin start enough, computed,
    ← scanFrom_eq_scanWithin stop (Nat.le_add_left rest.length front.length)]

end SqlGateway.Token
