import SqlStatements.Proofs.Dialect.LiteralValues
import SqlStatements.Proofs.Dialect.Words
import SqlStatements.Proofs.Ledger.Step
import SqlStatements.Proofs.Text.Parted

/-! The texts of literals. A literal begins with a minus sign exactly if it is a negative
number, and what follows a sign is a digit. Minus signs further on stand apart. -/
namespace SqlStatements

open Text

/-- Whether the value is a negative number; zero may be one. -/
def Value.isNegative : Value → Bool
  | .int n => n < 0
  | .float x => x.isNegative
  | .decimal d => d.unscaled < 0
  | _ => false

/-- The characters that a literal may begin with, a sign apart. -/
def Text.opensLiteral (c : Char) : Bool := c.isDigit || ['\'', 'X', 'N', 'T', 'F'].contains c

/-- The text begins like a literal, with a sign or without. -/
def Text.Opening (negative : Bool) (x : String) : Prop :=
  ∃ first rest, x.toList = (minus negative).toList ++ first :: rest ∧ opensLiteral first = true

/-- A number begins with its sign, if it is negative, and then with a digit. -/
theorem Text.Numeral.opening {negative : Bool} {x : String} (h : Numeral negative x) :
    Opening negative x := by
  obtain ⟨magnitude, rfl, -, digit, rest, hList, hDigit⟩ := h
  refine ⟨digit, rest, by rw [String.toList_append, hList], ?_⟩
  rw [opensLiteral, hDigit, Bool.true_or]

theorem Text.Opening.leads {negative : Bool} {x : String} (h : Opening negative x) :
    leads x = some negative := by
  obtain ⟨first, rest, hList, hFirst⟩ := h
  rw [Text.leads, hList]
  cases negative with
  | true => rfl
  | false =>
      have hOther : first ≠ '-' := by
        rintro rfl
        cases hFirst
      simpa [minus] using hOther

theorem Text.opening_quoteString (x : String) : Opening false (quoteString x) :=
  ⟨'\'', _, String.toList_ofList .., by decide⟩

theorem Text.opening_quoted (x : String) : Opening false ("'" ++ x ++ "'") := by
  refine ⟨'\'', x.toList ++ ['\''], ?_, by decide⟩
  rw [String.toList_append, String.toList_append]
  rfl

section Values

variable {v : Value} {x : String}

/-- A value written into the text begins with a minus sign exactly if it is a
negative number. -/
theorem Value.opening_inline (h : v.inline = .ok x) : Opening v.isNegative x := by
  cases v with
  | null =>
      cases h
      exact ⟨'N', _, rfl, by decide⟩
  | bool b =>
      cases h
      cases b with
      | false => exact ⟨'F', _, rfl, by decide⟩
      | true => exact ⟨'T', _, rfl, by decide⟩
  | int n =>
      cases h
      exact (numeral_int n).opening
  | float f =>
      rw [inline] at h
      split at h
      · rename_i hFinite
        cases h
        exact (Double.numeral_literalText hFinite).opening
      · cases h
  | decimal d =>
      cases h
      exact d.numeral_plainText.opening
  | text s =>
      cases h
      exact opening_quoteString s
  | blob bytes =>
      cases h
      refine ⟨'X', '\'' :: (Text.hex true bytes ++ ['\'']), ?_, by decide⟩
      simp [minus, isNegative]
  | date | dateTime | time =>
      cases h
      exact opening_quoted _

/-- The minus signs of a written value stand apart if those of its strings do.
Numbers have one at most in front of a digit. -/
theorem Value.parted_inline (h : v.inline = .ok x) (hv : ∀ y ∈ v.strings, Parted y) :
    Parted x := by
  have hQuoted : ∀ {y : String}, Parted y → Parted ("'" ++ y ++ "'") := fun hy =>
    (Parted.append (by decide) hy).append (by decide)
  cases v with
  | null =>
      cases h
      decide
  | bool b =>
      cases h
      cases b <;> decide
  | int n =>
      cases h
      exact (numeral_int n).parted
  | float f =>
      rw [inline] at h
      split at h
      · rename_i hFinite
        cases h
        exact (Double.numeral_literalText hFinite).parted
      · cases h
  | decimal d =>
      cases h
      exact d.numeral_plainText.parted
  | text s =>
      cases h
      exact parted_quoteString (hv s (List.mem_singleton_self _))
  | blob bytes =>
      cases h
      exact (Parted.append (by decide) (parted_ofList.mpr (parted_of_not_mem
        (not_mem_hexDigits (by decide) true bytes)))).append (by decide)
  | date d =>
      cases h
      exact hQuoted (parted_date d)
  | dateTime t =>
      cases h
      exact hQuoted (parted_dateTime t)
  | time t =>
      cases h
      exact hQuoted (parted_time t)

/-- What becomes text is no number, and dates become text with minus signs
apart. -/
theorem Conversion.dateTimeToText_text {w : Value} (h : dateTimeToText.apply v = .ok w) :
    v.isNegative = false ∧ w.isNegative = false ∧
      ((∀ y ∈ v.strings, Parted y) → ∀ y ∈ w.strings, Parted y) := by
  cases v with
  | dateTime t =>
      cases h
      exact ⟨rfl, rfl, fun _ => List.forall_mem_singleton.mpr (parted_dateTimeClock t)⟩
  | date d =>
      cases h
      exact ⟨rfl, rfl, fun _ => List.forall_mem_singleton.mpr (parted_dateTimeClock _)⟩
  | null | text =>
      cases h
      exact ⟨rfl, rfl, id⟩
  | bool | int | float | decimal | blob | time => cases h

/-- Days are converted to texts and no number is converted with them, so no
negative number comes in or out. The text of a day has hyphens, but no two in a
row. -/
theorem Conversion.dateToText_text {w : Value} (h : dateToText.apply v = .ok w) :
    v.isNegative = false ∧ w.isNegative = false ∧
      ((∀ y ∈ v.strings, Parted y) → ∀ y ∈ w.strings, Parted y) := by
  cases v with
  | dateTime t =>
      cases h
      exact ⟨rfl, rfl, fun _ => List.forall_mem_singleton.mpr (parted_date t.date)⟩
  | date d =>
      cases h
      exact ⟨rfl, rfl, fun _ => List.forall_mem_singleton.mpr (parted_date d)⟩
  | null | text =>
      cases h
      exact ⟨rfl, rfl, id⟩
  | bool | int | float | decimal | blob | time => cases h

/-- A literal is the standard form of a value that is negative if the given one
is. -/
theorem LiteralStyle.exists_inline {style : LiteralStyle} (h : style.render v = .ok x) :
    ∃ w : Value, w.inline = .ok x ∧ w.isNegative = v.isNegative ∧
      ((∀ y ∈ v.strings, Parted y) → ∀ y ∈ w.strings, Parted y) := by
  cases style with
  | standard => exact ⟨v, h, rfl, id⟩
  | bits =>
      cases v with
      | bool b =>
          cases h
          cases b with
          | false => exact ⟨.int 0, rfl, rfl, id⟩
          | true => exact ⟨.int 1, rfl, rfl, id⟩
      | null | int | float | decimal | text | blob | date | dateTime | time =>
          rw [render] at h
          · exact ⟨_, h, rfl, id⟩
          · simp
  | dateTimes =>
      obtain ⟨w, hConvert, h⟩ := exists_ok_of_bind_ok h
      obtain ⟨hv, hw, hStrings⟩ := Conversion.dateTimeToText_text hConvert
      rw [inlineText_eq_inline] at h
      exact ⟨w, h, hw.trans hv.symm, hStrings⟩
  | dates =>
      obtain ⟨w, hConvert, h⟩ := exists_ok_of_bind_ok h
      obtain ⟨hv, hw, hStrings⟩ := Conversion.dateToText_text hConvert
      rw [inlineText_eq_inline] at h
      exact ⟨w, h, hw.trans hv.symm, hStrings⟩

/-- Whatever the style, the literal is the standard form of some value, which is
negative exactly if the given one is. -/
theorem Profile.exists_inline {p : Profile} {caps : Capabilities} {type : SqlType}
    (h : p.literalText caps type v = .ok x) :
    ∃ w : Value, w.inline = .ok x ∧ w.isNegative = v.isNegative ∧
      ((∀ y ∈ v.strings, Parted y) → ∀ y ∈ w.strings, Parted y) := by
  rw [literalText] at h
  split at h
  · cases h
    cases v with
    | null => exact ⟨.null, rfl, rfl, id⟩
    | _ => contradiction
  · exact LiteralStyle.exists_inline h

/-- A literal begins with a minus sign exactly if its value is negative, for
every type and every dialect. -/
theorem Profile.opening_literalText {p : Profile} {caps : Capabilities} {type : SqlType}
    (h : p.literalText caps type v = .ok x) : Opening v.isNegative x := by
  obtain ⟨w, hInline, hSign, -⟩ := exists_inline h
  rw [← hSign]
  exact Value.opening_inline hInline

/-- Minus signs of a literal stand apart in every dialect and for every type, if
those of its strings do. -/
theorem Profile.parted_literalText {p : Profile} {caps : Capabilities} {type : SqlType}
    (h : p.literalText caps type v = .ok x) (hv : ∀ y ∈ v.strings, Parted y) : Parted x := by
  obtain ⟨w, hInline, -, hStrings⟩ := exists_inline h
  exact Value.parted_inline hInline (hStrings hv)

end Values

/-- Texts with minus signs apart may be put one after the other. Operators are
set apart by blanks. -/
theorem law_parted : Law '-' Parted where
  sign := sign_minus
  append := Parted.append
  lacks := Lacks.parted
  int := fun n => (numeral_int n).parted
  literal := fun h hv => Profile.parted_literalText h fun y hy => (hv y hy).parted

end SqlStatements
