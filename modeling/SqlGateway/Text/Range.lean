/-!
# Tables of characters

Character classes and letter mappings outside ASCII are given by tables of code
point ranges. Looking a character up is a search through the table.
-/

namespace SqlGateway.Text

/-- Whether a character lies in one of the inclusive ranges. -/
def inRanges (ranges : List (Nat × Nat)) (c : Char) : Bool :=
  ranges.any fun range => range.1 ≤ c.toNat && c.toNat ≤ range.2

/-- A run of letters that are mapped with a common distance: `first` goes to
    `image`, and each further letter, `stride` code points on, follows at the same
    distance. -/
structure CaseRun where
  /-- Code point of the first letter of the run. -/
  first : Nat
  /-- Code point of the last letter of the run. -/
  last : Nat
  /-- Distance from one letter of the run to the next. -/
  stride : Nat
  /-- Code point to which the first letter is mapped. -/
  image : Nat

/-- Whether a code point belongs to the run. -/
def CaseRun.covers (run : CaseRun) (code : Nat) : Bool :=
  run.first ≤ code && code ≤ run.last && (code - run.first) % run.stride == 0

/-- The image of a character under a table of runs; a character outside every run
    stays as it is. -/
def mapRuns (runs : List CaseRun) (c : Char) : Char :=
  match runs.find? (·.covers c.toNat) with
  | some run => Char.ofNat (c.toNat - run.first + run.image)
  | none => c

/-- A character outside every range is not found. -/
theorem inRanges_nil (c : Char) : inRanges [] c = false := rfl

end SqlGateway.Text
