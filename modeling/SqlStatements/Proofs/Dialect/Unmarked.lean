import SqlStatements.Proofs.Dialect.Words
import SqlStatements.Proofs.Text.Unmarked

/-! The words of a dialect, and the values and types it spells, have no question
marks but those of the strings they are made from. -/
namespace SqlStatements

open Text

/-- No word of the dialect has a question mark. -/
structure Profile.Unmarked (p : Profile) : Prop where
  opening : p.opening ≠ '?'
  closing : p.closing ≠ '?'
  operator : ∀ op, Lacks '?' (p.operator op)
  function : ∀ entry ∈ p.functions, Lacks '?' entry.2.word
  type : ∀ s ∈ p.types, ∀ type caps, Lacks '?' (s.render type caps)

section Words

variable {p : Profile} {caps : Capabilities}

/-- A value written into the text has a question mark only if one of its strings
has. -/
theorem Value.unmarked_inline {v : Value} {x : String} (h : v.inline = .ok x)
    (hv : LackAll '?' v.strings) : Lacks '?' x := by
  cases v with
  | null =>
      cases h
      decide
  | bool b =>
      cases h
      cases b <;> decide
  | int n =>
      cases h
      exact unmarked_int n
  | float f =>
      rw [inline] at h
      split at h
      · cases h
        exact unmarked_double f
      · cases h
  | decimal d =>
      cases h
      exact unmarked_decimal d
  | text s =>
      cases h
      exact lacks_quoteString sign_questionMark (hv s (by simp [strings]))
  | blob bytes =>
      cases h
      simp +decide
  | date d =>
      cases h
      simp +decide
  | dateTime t =>
      cases h
      simp +decide
  | time t =>
      cases h
      simp +decide

theorem unmarked_inlineText {v : Value} {x : String} (h : inlineText v = .ok x)
    (hv : LackAll '?' v.strings) : Lacks '?' x := by
  unfold inlineText at h
  split at h
  · cases h
    exact lacks_quoteString sign_questionMark (hv _ (by simp [Value.strings]))
  · exact Value.unmarked_inline h hv

/-- Dates as text have no question marks, and other text stays as it is. -/
theorem Conversion.lackAll_dateTimeToText {v w : Value} (h : dateTimeToText.apply v = .ok w)
    (hv : LackAll '?' v.strings) : LackAll '?' w.strings := by
  cases v <;> simp only [apply, reduceCtorEq, Except.ok.injEq] at h <;> subst w <;>
    simp_all [Value.strings]

theorem Conversion.lackAll_dateToText {v w : Value} (h : dateToText.apply v = .ok w)
    (hv : LackAll '?' v.strings) : LackAll '?' w.strings := by
  cases v <;> simp only [apply, reduceCtorEq, Except.ok.injEq] at h <;> subst w <;>
    simp_all [Value.strings]

theorem LiteralStyle.unmarked_render {style : LiteralStyle} {v : Value} {x : String}
    (h : style.render v = .ok x) (hv : LackAll '?' v.strings) : Lacks '?' x := by
  cases style with
  | standard => exact Value.unmarked_inline h hv
  | bits =>
      cases v with
      | bool b =>
          cases h
          cases b <;> decide
      | null | int | float | decimal | text | blob | date | dateTime | time =>
          rw [render] at h
          · exact Value.unmarked_inline h hv
          · simp
  | dateTimes =>
      obtain ⟨w, hConvert, h⟩ := exists_ok_of_bind_ok h
      exact unmarked_inlineText h (Conversion.lackAll_dateTimeToText hConvert hv)
  | dates =>
      obtain ⟨w, hConvert, h⟩ := exists_ok_of_bind_ok h
      exact unmarked_inlineText h (Conversion.lackAll_dateToText hConvert hv)

/-- A literal has a question mark only if one of its strings has, in every style
that a dialect may use. -/
theorem Profile.unmarked_literalText {type : SqlType} {v : Value} {x : String}
    (h : p.literalText caps type v = .ok x) (hv : LackAll '?' v.strings) : Lacks '?' x := by
  rw [literalText] at h
  split at h
  · cases h
    decide
  · exact LiteralStyle.unmarked_render h hv

/-- Texts without question marks may be put one after the other. -/
theorem law_unmarked : Law '?' (Lacks '?') where
  sign := sign_questionMark
  append := fun hx hy => lacks_append.mpr ⟨hx, hy⟩
  lacks := id
  int := unmarked_int
  literal := Profile.unmarked_literalText

/-- Dialects without question marks keep to the words. The operators are not set
apart here, as none of them has one either. -/
theorem Profile.Unmarked.worded (hp : p.Unmarked) : p.Worded '?' (Lacks '?') where
  opening := hp.opening.symm
  closing := hp.closing.symm
  operator := fun op => by simp +decide [hp.operator op]
  function := hp.function
  type := hp.type

end Words

/-- Standard SQL has no words with question marks: neither types nor operators
nor functions. -/
theorem Profile.standard_unmarked : Profile.standard.Unmarked where
  opening := by decide
  closing := by decide
  operator := fun op => by cases op <;> decide
  function := fun _ h => by cases h
  type := fun _ h => by cases h

/-- Nor has the language of the server, whatever the driver. -/
theorem SqlServer.profile_unmarked (driver : Driver) (textAsVarchar : Bool) :
    (profile driver textAsVarchar).Unmarked where
  opening := show '[' ≠ '?' by decide
  closing := show ']' ≠ '?' by decide
  operator := by
    intro op
    show Lacks '?' (([(.concat, "+")] : List (BinaryOp × String)).lookup op |>.getD op.token)
    cases op <;> decide
  function := by
    intro entry h
    simp only [profile, List.mem_cons, List.not_mem_nil, or_false] at h
    rcases h with rfl | rfl | rfl <;> decide
  type := fun s hs type caps => (plain_types s hs type caps).lacks sign_questionMark

end SqlStatements
