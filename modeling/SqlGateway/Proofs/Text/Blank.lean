import SqlGateway.Text.Blank
import SqlGateway.Text.Digit
import SqlGateway.Text.Word

/-!
# What is no blank

Blanks are few, so a property of all of them is settled by listing them. No blank is a
digit of any script or part of a word. A text that begins and ends with other characters
is what trimming leaves of it between blanks.
-/

namespace SqlGateway.Text

/-- The code points of all blanks. -/
def blankCodes : List Nat :=
  List.range' 9 5 ++ List.range' 28 5 ++ [0x85, 0xa0, 0x1680] ++ List.range' 0x2000 11
    ++ [0x2028, 0x2029, 0x202f, 0x205f, 0x3000]

/-- What holds of all listed characters holds of every blank. -/
theorem of_isBlank {holds : Char → Bool}
    (listed : blankCodes.all (fun code => holds (Char.ofNat code)) = true) {c : Char}
    (blank : isBlank c = true) : holds c = true := by
  have member : c.toNat ∈ blankCodes := by
    simp only [isBlank, Bool.or_eq_true, Bool.and_eq_true, decide_eq_true_eq, beq_iff_eq] at blank
    simp only [blankCodes, List.mem_append, List.mem_range'_1, List.mem_cons, List.not_mem_nil,
      or_false]
    omega
  simpa using List.all_eq_true.mp listed c.toNat member

/-- A character of a class without blanks is no blank. -/
theorem isBlank_eq_false {belongs : Char → Bool}
    (listed : blankCodes.all (fun code => !belongs (Char.ofNat code)) = true) {c : Char}
    (member : belongs c = true) : isBlank c = false := by
  cases blank : isBlank c with
  | false => rfl
  | true =>
    have outside := @of_isBlank (fun c => !belongs c) listed c blank
    simp [member] at outside

/-- No digit is a blank. -/
theorem isBlank_of_isDigit {c : Char} (digit : isDigit c = true) : isBlank c = false :=
  isBlank_eq_false (by decide +kernel) digit

/-- No blank is part of a word. -/
theorem isWord_of_isBlank {c : Char} (blank : isBlank c = true) : isWord c = false := by
  simpa using @of_isBlank (fun c => !isWord c) (by decide +kernel) c blank

/-- A text that starts with no blank is left alone at its start. -/
theorem trimStart_of_head {text : List Char}
    (visible : ∀ c, text.head? = some c → isBlank c = false) : trimStart text = text := by
  cases text with
  | nil => rfl
  | cons c rest => simp [trimStart, visible c rfl]

/-- Blanks at the start are passed over. -/
theorem trimStart_append {gap text : List Char} (blank : ∀ c ∈ gap, isBlank c = true) :
    trimStart (gap ++ text) = trimStart text :=
  List.dropWhile_append_of_pos blank

/-- A text that ends with no blank is left alone at its end. -/
theorem trimEnd_of_last {text : List Char}
    (visible : ∀ c, text.getLast? = some c → isBlank c = false) : trimEnd text = text := by
  have reversed : trimStart text.reverse = text.reverse :=
    trimStart_of_head fun c first => visible c (by simpa using first)
  have unchanged : text.reverse.dropWhile isBlank = text.reverse := reversed
  rw [trimEnd, unchanged, List.reverse_reverse]

/-- Blanks at the end are passed over. -/
theorem trimEnd_append {gap text : List Char} (blank : ∀ c ∈ gap, isBlank c = true) :
    trimEnd (text ++ gap) = trimEnd text := by
  rw [trimEnd, List.reverse_append, List.dropWhile_append_of_pos (by simpa using blank)]
  rfl

/-- Trimming leaves nothing of blanks. -/
theorem trim_of_blank {gap : List Char} (blank : ∀ c ∈ gap, isBlank c = true) : trim gap = [] := by
  have start : trimStart gap = trimStart [] := by
    simpa using @trimStart_append gap [] blank
  rw [trim, start]
  rfl

/-- Between blanks, trimming leaves a text that begins and ends with something else. -/
theorem trim_append {before text after : List Char} (blankBefore : ∀ c ∈ before, isBlank c = true)
    (blankAfter : ∀ c ∈ after, isBlank c = true) (nonempty : text ≠ [])
    (first : ∀ c, text.head? = some c → isBlank c = false)
    (last : ∀ c, text.getLast? = some c → isBlank c = false) :
    trim (before ++ (text ++ after)) = text := by
  have start : trimStart (before ++ (text ++ after)) = text ++ after := by
    rw [trimStart_append blankBefore]
    obtain ⟨c, rest, rfl⟩ := List.exists_cons_of_ne_nil nonempty
    exact trimStart_of_head first
  rw [trim, start, trimEnd_append blankAfter, trimEnd_of_last last]

/-- Trimming takes blanks away from the two ends of a text. -/
theorem exists_trim (text : List Char) :
    ∃ before after, text = before ++ (trim text ++ after) ∧ (∀ c ∈ before, isBlank c = true) ∧
      ∀ c ∈ after, isBlank c = true := by
  have ends : ∀ other : List Char, ∀ c ∈ other.takeWhile isBlank, isBlank c = true :=
    fun _ => List.all_eq_true.mp List.all_takeWhile
  let middle := trimStart text
  have behind : middle = trimEnd middle ++ (middle.reverse.takeWhile isBlank).reverse := by
    rw [trimEnd, ← List.reverse_append, List.takeWhile_append_dropWhile, List.reverse_reverse]
  refine ⟨text.takeWhile isBlank, (middle.reverse.takeWhile isBlank).reverse, ?_, ends text, ?_⟩
  · rw [trim, ← behind]
    exact List.takeWhile_append_dropWhile.symm
  · intro c member
    exact ends _ c (List.mem_reverse.mp member)

/-- Blanks before a text that begins with none are trimmed by themselves. -/
theorem trimStart_append_of_head (before : List Char) {text : List Char}
    (first : ∀ c, text.head? = some c → isBlank c = false) :
    trimStart (before ++ text) = trimStart before ++ text := by
  rw [trimStart, trimStart, List.dropWhile_append]
  split
  · next empty =>
    have unchanged : text.dropWhile isBlank = text := trimStart_of_head first
    rw [unchanged, List.isEmpty_iff.mp empty, List.nil_append]
  · rfl

/-- Blanks behind a text that ends with none are trimmed by themselves. -/
theorem trimEnd_append_of_last (after : List Char) {text : List Char}
    (last : ∀ c, text.getLast? = some c → isBlank c = false) :
    trimEnd (text ++ after) = text ++ trimEnd after := by
  have reversed : trimStart (after.reverse ++ text.reverse) =
      trimStart after.reverse ++ text.reverse :=
    trimStart_append_of_head after.reverse fun c first => last c (by simpa using first)
  rw [trimStart, trimStart] at reversed
  rw [trimEnd, List.reverse_append, reversed, List.reverse_append, List.reverse_reverse]
  rfl

/-- Around a text that begins and ends with no blank, only the blanks at the two ends are
    trimmed. -/
theorem trim_around (before after : List Char) {text : List Char} (nonempty : text ≠ [])
    (first : ∀ c, text.head? = some c → isBlank c = false)
    (last : ∀ c, text.getLast? = some c → isBlank c = false) :
    trim (before ++ (text ++ after)) = trimStart before ++ (text ++ trimEnd after) := by
  have starts : ∀ c, (text ++ after).head? = some c → isBlank c = false := by
    obtain ⟨d, rest, rfl⟩ := List.exists_cons_of_ne_nil nonempty
    exact first
  have ends : ∀ c, (trimStart before ++ text).getLast? = some c → isBlank c = false := by
    intro c closing
    rw [List.getLast?_append, List.getLast?_eq_some_getLast nonempty, Option.some_or] at closing
    exact last c ((List.getLast?_eq_some_getLast nonempty).trans closing)
  rw [trim, trimStart_append_of_head before starts, ← List.append_assoc,
    trimEnd_append_of_last after ends, List.append_assoc]

/-- What is left of a text by trimming begins and ends with no blank. -/
theorem trim_visible (text : List Char) :
    (∀ c, (trim text).head? = some c → isBlank c = false) ∧
      ∀ c, (trim text).getLast? = some c → isBlank c = false := by
  have stops : ∀ other : List Char, ∀ c, (trimStart other).head? = some c → isBlank c = false := by
    intro other c first
    have stop := List.head?_dropWhile_not isBlank other
    rw [trimStart] at first
    rw [first] at stop
    exact stop
  constructor
  · intro c first
    have behind : trim text ++ ((trimStart text).reverse.takeWhile isBlank).reverse =
        trimStart text := by
      rw [trim, trimEnd, ← List.reverse_append, List.takeWhile_append_dropWhile,
        List.reverse_reverse]
    refine stops text c ?_
    rw [← behind, List.head?_append, first, Option.some_or]
  · intro c last
    rw [trim, trimEnd, List.getLast?_reverse] at last
    exact stops _ c last

end SqlGateway.Text
