import Mathlib.Logic.Function.Basic
import SqlStatements.Text.Letters

/-! Texts between quotes, and texts cut at a mark. A reader of quoted text finds the quote that
closes it if quotes inside are written twice, and the parts of a text that was cut tell the
text. -/
namespace SqlStatements.Text

/-- Reads a text from behind the quote that opens it up to the one that closes
it. Two closing quotes in a row stand for one of the text. Yields the text and
what follows it. -/
def readDelimited (closing : Char) : List Char → Option (List Char × List Char)
  | [] => none
  | [c] => if c = closing then some ([], []) else none
  | c :: d :: rest =>
    if c = closing then
      if d = closing then (readDelimited closing rest).map (Prod.map (closing :: ·) id)
      else some ([], d :: rest)
    else (readDelimited closing (d :: rest)).map (Prod.map (c :: ·) id)

variable {closing : Char} {rest : List Char}

/-- A closing quote that is not followed by another one ends the text. -/
theorem readDelimited_closing (h : rest.head? ≠ some closing) :
    readDelimited closing (closing :: rest) = some ([], rest) := by
  cases rest with
  | nil => simp [readDelimited]
  | cons d rest =>
      have hOther : d ≠ closing := by simpa using h
      simp [readDelimited, hOther]

/-- Two closing quotes in a row are one of the text. -/
theorem readDelimited_twice :
    readDelimited closing (closing :: closing :: rest) =
      (readDelimited closing rest).map (Prod.map (closing :: ·) id) := by
  simp [readDelimited]

theorem readDelimited_other {c : Char} (h : c ≠ closing) :
    readDelimited closing (c :: rest) =
      (readDelimited closing rest).map (Prod.map (c :: ·) id) := by
  cases rest <;> simp [readDelimited, h]

/-- A text whose closing quotes are written twice is read back, up to the quote
that closes it. -/
theorem readDelimited_double (cs : List Char) (h : rest.head? ≠ some closing) :
    readDelimited closing (double closing cs ++ closing :: rest) = some (cs, rest) := by
  induction cs with
  | nil => exact readDelimited_closing h
  | cons c cs ih =>
      rw [double]
      split
      · rename_i hQuote
        rw [List.cons_append, List.cons_append, readDelimited_twice, ih, hQuote]
        rfl
      · rename_i hOther
        rw [List.cons_append, readDelimited_other hOther, ih]
        rfl

/-- A text is its parts with the mark between them. -/
theorem intercalate_split (mark : Char) (cs : List Char) :
    [mark].intercalate (split mark cs) = cs := by
  induction cs with
  | nil => rfl
  | cons c cs ih =>
      rw [split]
      split
      · rename_i hNone
        exact absurd hNone (split_ne_nil mark cs)
      · rename_i part parts hParts
        rw [hParts] at ih
        split
        · rename_i hMark
          rw [List.intercalate_cons_cons, ih, hMark]
          rfl
        · cases parts with
          | nil => simpa using ih
          | cons next parts =>
              rw [List.intercalate_cons_cons] at ih ⊢
              rw [List.cons_append, List.cons_append, ih]

/-- A text can be put together again from its parts. -/
theorem split_injective (mark : Char) : Function.Injective (split mark) :=
  Function.LeftInverse.injective (intercalate_split mark)

/-- A part at the end is joined like the others. -/
theorem join_concat (separator : String) {parts : List String} (h : parts ≠ []) (last : String) :
    join separator (parts ++ [last]) = join separator parts ++ separator ++ last := by
  induction parts with
  | nil => exact absurd rfl h
  | cons first parts ih =>
      cases parts with
      | nil => rfl
      | cons next parts =>
          rw [List.cons_append, List.cons_append, join, ← List.cons_append,
            ih (List.cons_ne_nil _ _), join]
          simp only [String.append_assoc]

end SqlStatements.Text
