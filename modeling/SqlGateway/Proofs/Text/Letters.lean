import Mathlib.Algebra.Group.Nat.Defs
import SqlGateway.Text.CaseFold
import SqlGateway.Text.Word

/-!
# Letters as parts of words

Two characters that are the same letter are both part of a word or both not, with one exception:
an iota that is written below another letter counts as an iota, but is no part of a word.

The tables of folds and of word characters are compared code point by code point. For this the
ranges of the second one become the bits of a number.
-/

namespace SqlGateway.Text

/-- The code points of some ranges as the bits of a number. -/
def bitsOf : List (Nat × Nat) → Nat
  | [] => 0
  | range :: others => (2 ^ (range.2 + 1 - range.1) - 1) <<< range.1 ||| bitsOf others

/-- A bit tells whether its code point lies in one of the ranges. -/
theorem testBit_bitsOf (ranges : List (Nat × Nat)) (code : Nat) :
    (bitsOf ranges).testBit code =
      ranges.any fun range => range.1 ≤ code && code ≤ range.2 := by
  induction ranges with
  | nil => exact Nat.zero_testBit code
  | cons range others inductionHypothesis =>
    rw [bitsOf, Nat.testBit_or, inductionHypothesis, List.any_cons, Nat.testBit_shiftLeft,
      Nat.testBit_two_pow_sub_one]
    congr 1
    rw [Bool.eq_iff_iff]
    simp only [Bool.and_eq_true, decide_eq_true_eq]
    omega

/-- Whether a code point is that of a word character. -/
def isWordCode (code : Nat) : Bool :=
  if code < 128 then isWord (Char.ofNat code) else (bitsOf wordRanges).testBit code

/-- A character is part of a word if its code point tells so. -/
theorem isWord_eq_isWordCode (c : Char) : isWord c = isWordCode c.toNat := by
  by_cases ascii : c.toNat < 128
  · rw [isWordCode, if_pos ascii, Char.ofNat_toNat]
  · rw [isWordCode, if_neg ascii, testBit_bitsOf, isWord, if_neg ascii]
    rfl

/-- What holds of all letters in the table and their folds holds of every other character that is
    not its own fold. -/
theorem of_foldRuns (holds : Nat → Nat → Bool)
    (listed : foldRuns.all (fun run => (List.range (run.last - run.first + 1)).all fun step =>
      step % run.stride != 0 || holds (step + run.first) (step + run.image)) = true)
    {c : Char} (beyond : ¬ c.toNat < 128) :
    fold c = c ∨ ∃ image, fold c = Char.ofNat image ∧ holds c.toNat image = true := by
  rw [fold, if_neg beyond, mapRuns]
  split
  · next run found =>
    have covers := List.find?_some found
    simp only [CaseRun.covers, Bool.and_eq_true, decide_eq_true_eq, beq_iff_eq] at covers
    obtain ⟨⟨first, last⟩, step⟩ := covers
    have place : c.toNat - run.first ∈ List.range (run.last - run.first + 1) := by
      rw [List.mem_range]
      omega
    have known := List.all_eq_true.mp listed run (List.mem_of_find?_eq_some found)
    have here := List.all_eq_true.mp known _ place
    rw [step, bne_self_eq_false, Bool.false_or, Nat.sub_add_cancel first] at here
    exact Or.inr ⟨_, rfl, here⟩
  · exact Or.inl rfl

/-- The code point of a character that is made of a valid one. -/
theorem toNat_ofNat_of_valid {code : Nat} (valid : code.isValidChar) :
    (Char.ofNat code).toNat = code := by
  rw [Char.ofNat, dif_pos valid]
  rfl

/-- All forms of the letter iota fold to the one that is written below other letters. -/
theorem fold_iota : fold 'ι' = Char.ofNat 0x345 := by
  decide +kernel

/-- The fold of a letter is part of a word exactly if the letter is, unless it is an iota. In the
    table of folds only the letters of iota lead to a character that is no part of a word. -/
theorem isWord_fold {c : Char} (other : fold c ≠ fold 'ι') : isWord (fold c) = isWord c := by
  by_cases ascii : c.toNat < 128
  · have small : ∀ code < 128, isWord (fold (Char.ofNat code)) = isWord (Char.ofNat code) := by
      decide +kernel
    have here := small c.toNat ascii
    rwa [Char.ofNat_toNat] at here
  · have listed := of_foldRuns (fun code image =>
      image == 0x345 || decide image.isValidChar && isWordCode image == isWordCode code)
      (by decide +kernel) ascii
    rcases listed with same | ⟨image, folded, known⟩
    · rw [same]
    · rcases Bool.or_eq_true_iff.mp known with iota | kept
      · rw [beq_iff_eq.mp iota, ← fold_iota] at folded
        exact absurd folded other
      · simp only [Bool.and_eq_true, decide_eq_true_eq, beq_iff_eq] at kept
        rw [folded, isWord_eq_isWordCode, isWord_eq_isWordCode c, toNat_ofNat_of_valid kept.1,
          kept.2]

/-- The code points of all forms of the letter iota. -/
def iotaCodes : List Nat := [0x345, 0x399, 0x3B9, 0x1FBE]

/-- There is no other form of the letter iota. -/
theorem toNat_mem_iotaCodes {c : Char} (iota : sameLetter c 'ι' = true) :
    c.toNat ∈ iotaCodes := by
  have folded : fold c = Char.ofNat 0x345 := (beq_iff_eq.mp iota).trans fold_iota
  by_cases ascii : c.toNat < 128
  · have small : ∀ code < 128, fold (Char.ofNat code) ≠ Char.ofNat 0x345 := by decide +kernel
    have here := small c.toNat ascii
    rw [Char.ofNat_toNat] at here
    exact absurd folded here
  · have listed := of_foldRuns (fun code image =>
      decide image.isValidChar && (image != 0x345 || iotaCodes.contains code))
      (by decide +kernel) ascii
    rcases listed with same | ⟨image, leads, known⟩
    · rw [← same, folded]
      decide
    · simp only [Bool.and_eq_true, decide_eq_true_eq, Bool.or_eq_true, bne_iff_ne,
        List.contains_iff_mem] at known
      obtain ⟨valid, other | listed⟩ := known
      · have code := congrArg Char.toNat (leads.symm.trans folded)
        rw [toNat_ofNat_of_valid valid] at code
        exact absurd code other
      · exact listed

/-- What is the same letter as a part of a word, and no iota, is part of a word. -/
theorem isWord_of_sameLetter {c d : Char} (word : isWord c = true)
    (other : sameLetter c 'ι' = false) (same : sameLetter c d = true) : isWord d = true := by
  have letter : fold c = fold d := beq_iff_eq.mp same
  have different : fold c ≠ fold 'ι' := beq_eq_false_iff_ne.mp other
  have differentToo : fold d ≠ fold 'ι' := by rwa [← letter]
  rw [← isWord_fold differentToo, ← letter, isWord_fold different]
  exact word

/-- The exception is one: it is the same letter as an iota, and no part of a word. -/
theorem not_isWord_of_sameLetter :
    isWord 'ι' = true ∧ sameLetter 'ι' '\u0345' = true ∧ isWord '\u0345' = false := by
  have iota : isWord 'ι' = true := by decide +kernel
  have below : isWord '\u0345' = false := by decide +kernel
  have same : sameLetter 'ι' '\u0345' = true := by decide +kernel
  exact ⟨iota, same, below⟩

end SqlGateway.Text
