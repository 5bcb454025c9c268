import SqlGateway.Text.Quoted

/-!
# Characters outside ASCII

Some texts are sent as ASCII. One with other characters is refused; the refusal shows the
first of them, together with those that follow it in a row.
-/

namespace SqlGateway.Text

/-- Whether a character belongs to ASCII. -/
def isAscii (c : Char) : Bool :=
  c.toNat < 128

/-- Characters outside ASCII in a row. -/
structure OutsideAscii where
  /-- Number of characters before them. -/
  position : Nat
  /-- The characters. -/
  characters : List Char
  deriving DecidableEq, Repr

/-- The first characters of a text outside ASCII. -/
def outsideAscii? (text : List Char) : Option OutsideAscii :=
  let before := text.takeWhile isAscii
  match (text.drop before.length).takeWhile (!isAscii ·) with
  | [] => none
  | characters => some { position := before.length, characters }

/-- The wording of a refusal. -/
def OutsideAscii.describe (outside : OutsideAscii) : String :=
  let first := outside.position
  let place := match outside.characters with
    | [c] => "character '" ++ String.ofList (escapedCode c) ++ "' in position " ++ toString first
    | characters =>
        "characters in position " ++ toString first ++ "-"
          ++ toString (first + characters.length - 1)
  "'ascii' codec can't encode " ++ place ++ ": ordinal not in range(128)"

/-- A text of ASCII alone is not refused. -/
theorem outsideAscii?_ascii (text : List Char) (ascii : text.all isAscii = true) :
    outsideAscii? text = none := by
  have whole : text.takeWhile isAscii = text := by
    induction text with
    | nil => rfl
    | cons c rest ih => simp_all
  simp [outsideAscii?, whole]

end SqlGateway.Text
