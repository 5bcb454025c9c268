import SqlGateway.Proofs.Reference.Paths
import SqlGateway.Proofs.Reference.Places

/-!
# What a replacement leaves

A replacement goes through a text from left to right, puts something else in the place of
every reference of its form, and copies all other characters. What comes out may hold
references again. Here it is shown where they come from: a reference in the outcome starts
within what was put in the place of a reference, or it was in the text before.

The second case needs that replacing references makes no path of a schema and a table name
that was not there before. This holds for plain schemas whatever is replaced, and for schemas
in brackets if what is put in their place has brackets itself.
-/

namespace SqlGateway.Reference

open Text

/-- A reference is replaced when a text is gone through, given the character before it. -/
inductive Form.Replaces (form : Form) : Option Char → List Char → Found → Prop where
  | here {before : Option Char} {text : List Char} {found : Found}
      (read : form.at? before text = some found) : Replaces form before text found
  | later {before : Option Char} {text : List Char} {found other : Found}
      (read : form.at? before text = some found)
      (behind : Replaces form found.table.getLast? found.rest other) :
      Replaces form before text other
  | copied {before : Option Char} {c : Char} {rest : List Char} {other : Found}
      (unread : form.at? before (c :: rest) = none)
      (behind : Replaces form (some c) rest other) : Replaces form before (c :: rest) other

namespace Form

variable (form : Form)

/-- A reference is at a place if it is written there and no word goes on. -/
theorem at?_eq_some_iff {before : Option Char} {text : List Char} {found : Found} :
    form.at? before text = some found ↔
      before.any isWord = false ∧ form.read? text = some found := by
  cases word : before.any isWord <;> simp [at?, word]

/-- What is replaced is a reference that is written somewhere. -/
theorem Replaces.writes {form : Form} {before : Option Char} {text : List Char} {found : Found}
    (replaces : form.Replaces before text found) : ∃ reference, form.Writes found reference := by
  induction replaces with
  | here read => exact ⟨_, form.read?_eq_some_iff.mp (form.at?_eq_some_iff.mp read).2⟩
  | later read behind inductionHypothesis => exact inductionHypothesis
  | copied unread behind inductionHypothesis => exact inductionHypothesis

/-- There is no reference within a word. -/
theorem at?_of_isWord {c : Char} (word : isWord c = true) (text : List Char) :
    form.at? (some c) text = none :=
  if_pos word

/-- There is no reference where no letter of a name is. -/
theorem at?_of_head {before : Option Char} {text : List Char}
    (other : text.head?.any isNameChar = false) : form.at? before text = none := by
  rw [Option.eq_none_iff_forall_not_mem]
  intro found read
  have present := Option.isSome_of_eq_some ((form.at?_eq_some_iff.mp read).2)
  rw [form.head?_of_read? present] at other
  cases other

/-- A reference gives way to what its backend understands. -/
theorem replaceFrom_of_some {before : Option Char} {text : List Char} {found : Found}
    (read : form.at? before text = some found) :
    form.replaceFrom before text =
      form.render found.schema found.table ++
        form.replaceFrom found.table.getLast? found.rest := by
  cases text with
  | nil => cases (form.at?_of_head rfl).symm.trans read
  | cons c rest =>
    rw [replaceFrom]
    split
    · next other same =>
      cases same.symm.trans read
      rfl
    · next unread => cases unread.symm.trans read

/-- A character that starts no reference is copied. -/
theorem replaceFrom_of_none {before : Option Char} {c : Char} {rest : List Char}
    (unread : form.at? before (c :: rest) = none) :
    form.replaceFrom before (c :: rest) = c :: form.replaceFrom (some c) rest := by
  rw [replaceFrom]
  split
  · next same => cases unread.symm.trans same
  · rfl

/-- A text without references is copied as a whole. -/
theorem replaceFrom_of_not_occurs {before : Option Char} {text : List Char}
    (absent : form.occursFrom before text = false) : form.replaceFrom before text = text := by
  induction text generalizing before with
  | nil => rw [replaceFrom]
  | cons c rest inductionHypothesis =>
    simp only [occursFrom, Bool.or_eq_false_iff, Option.isSome_eq_false_iff,
      Option.isNone_iff_eq_none] at absent
    rw [form.replaceFrom_of_none absent.1, inductionHypothesis absent.2]

/-- A text without references is left as it is. -/
theorem replace_of_not_occurs {text : List Char} (absent : form.occurs text = false) :
    form.replace text = text :=
  form.replaceFrom_of_not_occurs absent

/-- A letter of a name that comes out first was the first one before. -/
theorem head?_of_replaceFrom {before : Option Char} {text : List Char}
    (named : (form.replaceFrom before text).head?.any isNameChar = true) :
    text.head?.any isNameChar = true := by
  cases text with
  | nil =>
    rw [replaceFrom] at named
    cases named
  | cons c rest =>
    cases read : form.at? before (c :: rest) with
    | some found =>
      exact form.head?_of_read? (Option.isSome_of_eq_some (form.at?_eq_some_iff.mp read).2)
    | none =>
      rw [form.replaceFrom_of_none read] at named
      exact named

/-- Where no reference starts, the character that comes out first was there before. -/
theorem cons_of_replaceFrom {before : Option Char} {text : List Char} {c : Char} {out : List Char}
    (unread : form.at? before text = none) (given : form.replaceFrom before text = c :: out) :
    ∃ rest, text = c :: rest ∧ form.replaceFrom (some c) rest = out := by
  cases text with
  | nil =>
    rw [replaceFrom] at given
    cases given
  | cons d rest =>
    rw [form.replaceFrom_of_none unread] at given
    cases given
    exact ⟨rest, rfl, rfl⟩

/-- Where no reference starts, characters of a word with a point behind them that come out were
    there before. The induction is on the word: behind its first character no reference can
    start until the point. -/
theorem run_of_replaceFrom {before : Option Char} {text run out : List Char}
    (unread : form.at? before text = none) (word : ∀ c ∈ run, isWord c = true)
    (given : form.replaceFrom before text = run ++ '.' :: out) :
    ∃ rest, text = run ++ '.' :: rest ∧ form.replaceFrom (some '.') rest = out := by
  induction run generalizing before text with
  | nil => exact form.cons_of_replaceFrom unread given
  | cons d run inductionHypothesis =>
    obtain ⟨rest, rfl, tail⟩ := form.cons_of_replaceFrom unread given
    obtain ⟨behind, rfl, same⟩ := inductionHypothesis
      (form.at?_of_isWord (word d List.mem_cons_self) rest)
      (fun e member => word e (List.mem_cons_of_mem d member)) tail
    exact ⟨behind, rfl, same⟩

/-- Characters of a word are copied if no reference starts with them. -/
theorem replaceFrom_run {before : Option Char} {run : List Char}
    (word : ∀ c ∈ run, isWord c = true) (rest : List Char)
    (unread : form.at? before (run ++ rest) = none) :
    form.replaceFrom before (run ++ rest) =
      run ++ form.replaceFrom (run.getLast?.or before) rest := by
  induction run generalizing before with
  | nil => rfl
  | cons c run inductionHypothesis =>
    have within : form.at? (some c) (run ++ rest) = none :=
      form.at?_of_isWord (word c List.mem_cons_self) _
    have copied := inductionHypothesis (fun d member => word d (List.mem_cons_of_mem c member))
      within
    rw [List.cons_append] at unread ⊢
    rw [form.replaceFrom_of_none unread, copied, getLast?_cons_or]
    rfl

/-- A reference behind another one is in the whole text. -/
theorem Writes.occursFrom {form : Form} {found : Found} {text : List Char}
    (writes : form.Writes found text) (other : Form) (before : Option Char)
    (occurs : other.occursFrom found.table.getLast? found.rest = true) :
    other.occursFrom before text = true := by
  obtain ⟨passed, start, behind, boundary, starts⟩ := (other.occursFrom_iff _ _).mp occurs
  have named := writes.table.nonempty
  cases writes with
  | @intro a b written first second schema table ends =>
    refine (other.occursFrom_iff _ _).mpr
      ⟨(a :: b :: '.' :: (written ++ ['.'])) ++ found.table ++ passed, start, by simp [behind], ?_,
        starts⟩
    rw [List.getLast?_eq_some_getLast named] at boundary
    rw [List.getLast?_append, List.getLast?_append, List.getLast?_eq_some_getLast named,
      Option.some_or, Option.or_assoc, Option.some_or]
    exact boundary

/-- Replacing references of a form makes no path for another form. -/
def MakesNoPath (other : Form) : Prop :=
  ∀ before text, (path? other.schema? (form.replaceFrom before text)).isSome = true →
    (path? other.schema? text).isSome = true

/-- A reference that comes out behind a copied character was there before. -/
theorem MakesNoPath.read? {form other : Form} (noPath : form.MakesNoPath other) {c : Char}
    {rest : List Char} (read : (other.read? (c :: form.replaceFrom (some c) rest)).isSome = true) :
    (other.read? (c :: rest)).isSome = true := by
  obtain ⟨a, b, path, first, second, whole, found⟩ := (other.read?_isSome_iff _).mp read
  obtain ⟨rfl, behind⟩ := List.cons.inj whole
  have wordA : isWord c = true := isWord_of_isNameChar (other.isNameChar_of_letter first)
  have wordB : isWord b = true := isWord_of_isNameChar (isNameChar_of_fold (Or.inr second))
  have within : form.at? (some c) rest = none := form.at?_of_isWord wordA rest
  have written : form.replaceFrom (some c) rest = [b] ++ '.' :: path := behind
  obtain ⟨later, rfl, rfl⟩ := form.run_of_replaceFrom within (by simpa using wordB) written
  exact (other.read?_isSome_iff _).mpr ⟨c, b, later, first, second, rfl, noPath _ _ found⟩

/-- Replacing the references of a text uncovers one: it starts within what was put in the place
    of a reference. -/
def Uncovers (form other : Form) (before : Option Char) (text : List Char) : Prop :=
  ∃ found passed rest, form.Replaces before text found ∧
    form.render found.schema found.table = passed ++ rest ∧ rest ≠ [] ∧
    passed.getLast?.any isWord = false ∧
    (other.read? (rest ++ form.replaceFrom found.table.getLast? found.rest)).isSome = true

/-- What is uncovered behind a reference is uncovered in the whole text. -/
theorem Uncovers.later {form other : Form} {before : Option Char} {text : List Char} {found : Found}
    (uncovers : form.Uncovers other found.table.getLast? found.rest)
    (read : form.at? before text = some found) : form.Uncovers other before text := by
  obtain ⟨put, passed, rest, replaced, parts⟩ := uncovers
  exact ⟨put, passed, rest, .later read replaced, parts⟩

/-- What is uncovered behind a copied character is uncovered in the whole text. -/
theorem Uncovers.copied {form other : Form} {before : Option Char} {c : Char} {rest : List Char}
    (uncovers : form.Uncovers other (some c) rest) (unread : form.at? before (c :: rest) = none) :
    form.Uncovers other before (c :: rest) := by
  obtain ⟨put, passed, behind, replaced, parts⟩ := uncovers
  exact ⟨put, passed, behind, .copied unread replaced, parts⟩

/-- A reference in what comes out was uncovered, or it was in the text before and is of another
    form. The induction follows the replacement. Of the characters before the text and before
    what comes out, it is only needed that they agree on whether a word goes on, or that no
    reference can start here. -/
theorem MakesNoPath.occursFrom_replaceFrom {form other : Form} (noPath : form.MakesNoPath other)
    {before prior : Option Char} {text : List Char}
    (agree : prior.any isWord = before.any isWord ∨ text.head?.any isNameChar = false)
    (occurs : other.occursFrom prior (form.replaceFrom before text) = true) :
    form.Uncovers other before text ∨ (other ≠ form ∧ other.occursFrom before text = true) := by
  induction before, text using Form.replaceFrom.induct form generalizing prior with
  | case1 before =>
    rw [replaceFrom] at occurs
    cases occurs
  | case2 before c tail found read inductionHypothesis =>
    have writes := form.read?_eq_some_iff.mp (form.at?_eq_some_iff.mp read).2
    rw [form.replaceFrom_of_some read, other.occursFrom_iff] at occurs
    obtain ⟨passed, start, whole, boundary, starts⟩ := occurs
    -- A reference that starts behind what was put in is found by the induction.
    have behind (gone : List Char) (outside : passed = form.render found.schema found.table ++ gone)
        (same : form.replaceFrom found.table.getLast? found.rest = gone ++ start) :
        form.Uncovers other before (c :: tail) ∨
          (other ≠ form ∧ other.occursFrom before (c :: tail) = true) := by
      rw [outside, List.getLast?_append, Option.or_assoc] at boundary
      have later : other.occursFrom ((form.render found.schema found.table).getLast?.or prior)
          (form.replaceFrom found.table.getLast? found.rest) = true :=
        (other.occursFrom_iff _ _).mpr ⟨gone, start, same, boundary, starts⟩
      rcases inductionHypothesis (Or.inr writes.ends) later with uncovers | ⟨differ, occurs⟩
      · exact Or.inl (uncovers.later read)
      · exact Or.inr ⟨differ, writes.occursFrom other before occurs⟩
    rcases List.append_eq_append_iff.mp whole with ⟨gone, outside, same⟩ | ⟨part, rendered, rfl⟩
    · exact behind gone outside same
    · by_cases nothing : part = []
      · subst nothing
        exact behind [] (by simpa using rendered.symm) rfl
      · refine Or.inl ⟨found, passed, part, .here read, rendered, nothing, ?_, starts⟩
        cases last : passed.getLast? with
        | none => rfl
        | some c =>
          rw [last] at boundary
          exact boundary
  | case3 before c rest unread inductionHypothesis =>
    rw [form.replaceFrom_of_none unread, occursFrom, Bool.or_eq_true] at occurs
    rcases occurs with here | behind
    · obtain ⟨found, read⟩ := Option.isSome_iff_exists.mp here
      obtain ⟨boundary, starts⟩ := other.at?_eq_some_iff.mp read
      have present := noPath.read? (Option.isSome_of_eq_some starts)
      have started : before.any isWord = false := by
        rcases agree with same | refused
        · rw [← same, boundary]
        · cases refused.symm.trans (other.head?_of_read? present)
      have occurs : (other.at? before (c :: rest)).isSome = true := by
        rw [other.at?_isSome, started, present]
        rfl
      refine Or.inr ⟨?_, ?_⟩
      · rintro rfl
        rw [unread] at occurs
        cases occurs
      · rw [occursFrom, occurs, Bool.true_or]
    · rcases inductionHypothesis (Or.inl rfl) behind with uncovers | ⟨differ, occurs⟩
      · exact Or.inl (uncovers.copied unread)
      · exact Or.inr ⟨differ, by rw [occursFrom, occurs, Bool.or_true]⟩

/-- What is uncovered is a reference in what comes out. The induction is on where the reference
    is that gives way to it. -/
theorem Uncovers.occursFrom_replaceFrom {form other : Form} {before prior : Option Char}
    {text : List Char} (uncovers : form.Uncovers other before text)
    (agree : prior.any isWord = before.any isWord ∨ text.head?.any isNameChar = false) :
    other.occursFrom prior (form.replaceFrom before text) = true := by
  obtain ⟨found, passed, rest, replaced, rendered, _, boundary, starts⟩ := uncovers
  induction replaced generalizing prior with
  | @here before text found read =>
    obtain ⟨started, reads⟩ := form.at?_eq_some_iff.mp read
    have unbroken : prior.any isWord = false := by
      rcases agree with same | refused
      · rw [same, started]
      · cases refused.symm.trans (form.head?_of_read? (Option.isSome_of_eq_some reads))
    rw [form.replaceFrom_of_some read, rendered, List.append_assoc]
    refine (other.occursFrom_iff _ _).mpr ⟨passed, _, rfl, ?_, starts⟩
    cases last : passed.getLast? with
    | none => exact unbroken
    | some c =>
      rw [last] at boundary
      exact boundary
  | @later before text found other read behind inductionHypothesis =>
    have writes := form.read?_eq_some_iff.mp (form.at?_eq_some_iff.mp read).2
    have occurs : Form.occursFrom _ ((form.render found.schema found.table).getLast?.or prior)
        (form.replaceFrom found.table.getLast? found.rest) = true :=
      inductionHypothesis (Or.inr writes.ends) rendered starts
    obtain ⟨gone, start, same, boundary, starts⟩ := (Form.occursFrom_iff _ _ _).mp occurs
    rw [form.replaceFrom_of_some read]
    refine (Form.occursFrom_iff _ _ _).mpr
      ⟨form.render found.schema found.table ++ gone, start, by rw [same, List.append_assoc], ?_,
        starts⟩
    rw [List.getLast?_append, Option.or_assoc]
    exact boundary
  | @copied before c tail other unread behind inductionHypothesis =>
    rw [form.replaceFrom_of_none unread, occursFrom,
      inductionHypothesis (Or.inl rfl) rendered starts, Bool.or_true]

/-- Plain paths come out only where there was one. A reference that is replaced at the start
    begins with a path itself: its two letters and its schema. -/
theorem makesNoPath_of_plain {other : Form} (plain : other.schema? = name?) :
    form.MakesNoPath other := by
  intro before text given
  rw [plain, path?_name?_isSome_iff] at given ⊢
  obtain ⟨name, out, named, whole, goes⟩ := given
  cases read : form.at? before text with
  | none =>
    obtain ⟨rest, rfl, rfl⟩ := form.run_of_replaceFrom read
      (fun c member => isWord_of_isNameChar (named.allowed c member)) whole
    exact ⟨name, rest, named, rfl, form.head?_of_replaceFrom goes⟩
  | some found =>
    have starts : (form.replaceFrom before text).head?.any isNameChar = true := by
      rw [whole]
      exact named.head?_any _
    have writes := form.read?_eq_some_iff.mp (form.at?_eq_some_iff.mp read).2
    rw [form.replaceFrom_of_some read] at starts
    cases writes with
    | @intro a b written first second schema table ends =>
      have letters : IsName [a, b] :=
        ⟨nofun, by simp [form.isNameChar_of_letter first, isNameChar_of_fold (Or.inr second)]⟩
      refine ⟨[a, b], _, letters, rfl, ?_⟩
      cases form with
      | warehouse =>
        obtain ⟨named, rfl⟩ := schema
        exact named.head?_any _
      | bracketed => cases starts
      | plain => cases starts

end Form

end SqlGateway.Reference
