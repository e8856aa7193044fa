import SqlStatements.Proofs.Dialect.Identity
import SqlStatements.Proofs.Text.Lacks

/-! Values written into the text next to the values sent to the driver. A type has two
ways out, a style to write its values and a conversion of its parameters. The two ways lead
to one text where the converted value is written in the standard form. Bytes for a driver
that takes none are the exception: they are sent as text and written as bytes. -/
namespace SqlStatements

namespace LiteralStyle

variable {v w : Value}

/-- A conversion to text is written as the text, so both ways to put a converted
value into a statement agree. -/
theorem inlineText_eq_inline (v : Value) : inlineText v = v.inline := by
  cases v <;> rfl

theorem render_dateTimes (h : Conversion.dateTimeToText.apply v = .ok w) :
    dateTimes.render v = w.inline := by
  rw [render, h]
  exact inlineText_eq_inline w

theorem render_dates (h : Conversion.dateToText.apply v = .ok w) : dates.render v = w.inline := by
  rw [render, h]
  exact inlineText_eq_inline w

/-- Truth values, one and zero are written as they are sent. Any other integer
is sent as one, but written as it is. -/
theorem render_bits (h : Conversion.boolToInt.apply v = .ok w)
    (hBit : ∀ n, v = .int n → n = 0 ∨ n = 1) : bits.render v = w.inline := by
  cases v with
  | bool b =>
      cases h
      cases b <;> rfl
  | int n =>
      cases h
      rcases hBit n rfl with rfl | rfl <;> rfl
  | null =>
      cases h
      rfl
  | float | decimal | text | blob | date | dateTime | time => cases h

end LiteralStyle

namespace Profile

variable {identity : String} {p : Profile}

/-- Only one driver has its bytes converted; all other dialects send them as
they are. -/
theorem Identified.bytes_cases (h : Identified identity p) :
    p.bytes = none ∨
      p.bytes = some .blobToHex ∧ ∃ textAsVarchar, p = SqlServer.profile .tds textAsVarchar := by
  cases h with
  | standard | postgres => exact .inl rfl
  | sqlServer driver textAsVarchar rest =>
      cases driver with
      | odbc => exact .inl rfl
      | tds => exact .inr ⟨rfl, textAsVarchar, rfl⟩

/-- The pairs of a style and a conversion that a type can have. What is written
and what is sent differ only where the two do not go together. -/
theorem literalStyle_cases {caps : Capabilities} {type : SqlType} {style : LiteralStyle}
    (h : p.literalStyle caps type = some style) :
    style = .standard ∧ p.bindConversion caps type = none ∧ type.kind ≠ .binary ∨
    style = .dateTimes ∧ p.bindConversion caps type = some .dateTimeToText ∧ type.kind ≠ .binary ∨
    style = .dates ∧ p.bindConversion caps type = some .dateToText ∧ type.kind ≠ .binary ∨
    style = .bits ∧ p.bindConversion caps type = some .boolToInt ∧ type.kind = .boolean ∧
      caps.nativeBoolean = false ∨
    style = .standard ∧ p.bindConversion caps type = p.bytes ∧ type.kind = .binary := by
  unfold literalStyle at h
  unfold bindConversion
  cases hKind : type.kind with
  | dateTime | date => cases hText : p.datesAsText <;> simp_all
  | boolean => cases hNative : caps.nativeBoolean <;> simp_all
  | _ => simp_all

/-- Where the conversion leaves bytes alone and the value is none of the
integers that it takes for truth, the style of a type writes what its conversion
sends. -/
theorem render_eq_inline {caps : Capabilities} {type : SqlType} {style : LiteralStyle}
    {v w : Value} (hStyle : p.literalStyle caps type = some style)
    (hSent : convert (p.bindConversion caps type) v = .ok w)
    (hBytes : type.kind = .binary → convert p.bytes v = .ok v)
    (hBit : type.kind = .boolean → caps.nativeBoolean = false →
      ∀ n, v = .int n → n = 0 ∨ n = 1) :
    style.render v = w.inline := by
  rcases literalStyle_cases hStyle with ⟨rfl, hConversion, -⟩ | ⟨rfl, hConversion, -⟩ |
    ⟨rfl, hConversion, -⟩ | ⟨rfl, hConversion, hKind, hNative⟩ | ⟨rfl, hConversion, hKind⟩
  all_goals rw [hConversion] at hSent
  · cases hSent
    rfl
  · exact LiteralStyle.render_dateTimes hSent
  · exact LiteralStyle.render_dates hSent
  · exact LiteralStyle.render_bits hSent (hBit hKind hNative)
  · rw [hBytes hKind] at hSent
    cases hSent
    rfl

/-- The conversion of bytes leaves everything but bytes alone. -/
theorem convert_blobToHex {v : Value} (h : ∀ bytes, v ≠ .blob bytes) :
    convert (some .blobToHex) v = .ok v := by
  cases v with
  | blob bytes => exact absurd rfl (h bytes)
  | null | bool | int | float | decimal | text | date | dateTime | time => rfl

/-- Digits of bytes need no second quotes, so the text of converted bytes is
just the digits between quotes. -/
theorem inline_hex (bytes : List UInt8) :
    (Value.text (String.ofList (Text.hex true bytes))).inline =
      .ok ("'" ++ String.ofList (Text.hex true bytes) ++ "'") := by
  have hDigits : '\'' ∉ Text.hex true bytes := Text.not_mem_hexDigits (by decide) true bytes
  rw [Value.inline, quoteString, String.toList_ofList, Text.double_of_not_mem hDigits]
  congr 1
  rw [← String.toList_inj]
  simp

/-- Bytes and text are never written alike, since bytes have a letter in front
of the quote. -/
theorem inline_blob_ne (bytes : List UInt8) (s : String) :
    (Value.blob bytes).inline ≠ (Value.text s).inline := by
  intro h
  have hText := congrArg String.toList (Except.ok.inj h)
  simp [quoteString] at hText

/-- What is written and what is sent, for all dialects, drivers and servers. A
value that its type can send is written as the sent value would be, also if both
have no such form. The exception are bytes for the driver that takes none: it
gets their digits as text, while they are written as bytes. Nothing is said
about integers in the place of truth values, other than one and zero, where the
server has no truth values. -/
theorem render_eq_inline_iff (h : Identified identity p) (caps : Capabilities) (type : SqlType)
    (style : LiteralStyle) (v w : Value) (hStyle : p.literalStyle caps type = some style)
    (hSent : convert (p.bindConversion caps type) v = .ok w)
    (hBit : type.kind = .boolean → caps.nativeBoolean = false →
      ∀ n, v = .int n → n = 0 ∨ n = 1) :
    (style.render v = w.inline ↔
      ¬((∃ textAsVarchar, p = SqlServer.profile .tds textAsVarchar) ∧ type.kind = .binary ∧
        ∃ bytes, v = .blob bytes)) ∧
    ∀ textAsVarchar bytes, p = SqlServer.profile .tds textAsVarchar → type.kind = .binary →
      v = .blob bytes →
        w = .text (String.ofList (Text.hex true bytes)) ∧
        style.render v = .ok ("X'" ++ String.ofList (Text.hex true bytes) ++ "'") ∧
        w.inline = .ok ("'" ++ String.ofList (Text.hex true bytes) ++ "'") := by
  have hHex : ∀ textAsVarchar bytes, p = SqlServer.profile .tds textAsVarchar →
      type.kind = .binary → v = .blob bytes →
        w = .text (String.ofList (Text.hex true bytes)) ∧
        style.render v = .ok ("X'" ++ String.ofList (Text.hex true bytes) ++ "'") := by
    rintro textAsVarchar bytes rfl hKind rfl
    simp only [literalStyle, bindConversion, hKind] at hStyle hSent
    cases hStyle
    cases hSent
    exact ⟨rfl, rfl⟩
  refine ⟨⟨?_, fun hOther => ?_⟩, ?_⟩
  · rintro hSame ⟨⟨textAsVarchar, hTds⟩, hKind, bytes, rfl⟩
    obtain ⟨rfl, hRender⟩ := hHex textAsVarchar bytes hTds hKind rfl
    rw [hRender] at hSame
    exact inline_blob_ne bytes _ hSame
  · refine render_eq_inline hStyle hSent (fun hKind => ?_) hBit
    rcases h.bytes_cases with hNone | ⟨hSome, hTds⟩
    · rw [hNone]
      rfl
    · rw [hSome]
      exact convert_blobToHex fun bytes hv => hOther ⟨hTds, hKind, bytes, hv⟩
  · intro textAsVarchar bytes hTds hKind hv
    obtain ⟨rfl, hRender⟩ := hHex textAsVarchar bytes hTds hKind hv
    exact ⟨rfl, hRender, inline_hex bytes⟩

/-- A day among dates and times is written to the second, as it is sent; bytes
are not written as they are sent. -/
theorem render_eq_inline_iff_sqlServer :
    LiteralStyle.dateTimes.render (.date ⟨2024, 2, 29⟩) =
        (Value.text "2024-02-29 00:00:00").inline ∧
      LiteralStyle.standard.render (.blob [0xCA, 0xFE]) ≠ (Value.text "CAFE").inline := by
  have hDays := render_eq_inline_iff (.sqlServer .tds false "dbo") {} (.of .dateTime) .dateTimes
    (.date ⟨2024, 2, 29⟩) (.text "2024-02-29 00:00:00") rfl (by decide) nofun
  have hBytes := render_eq_inline_iff (.sqlServer .tds false "dbo") {} (.of .binary) .standard
    (.blob [0xCA, 0xFE]) (.text "CAFE") rfl (by decide) nofun
  exact ⟨hDays.1.mpr fun h => absurd h.2.1 nofun,
    fun hSame => hBytes.1.mp hSame ⟨⟨false, rfl⟩, rfl, _, rfl⟩⟩

/-- It is not true that every value is written as it is sent. -/
theorem not_forall_render_eq_inline :
    ¬∀ (identity : String) (p : Profile), Identified identity p →
      ∀ (caps : Capabilities) (type : SqlType) (style : LiteralStyle) (v w : Value),
        p.literalStyle caps type = some style → v.isNull = false →
        convert (p.bindConversion caps type) v = .ok w → style.render v = w.inline := by
  intro hAll
  have hSame := hAll _ _ (.sqlServer .tds false "dbo") {} (.of .binary) .standard
    (.blob [0xCA, 0xFE]) (.text "CAFE") rfl rfl (by decide)
  exact inline_blob_ne _ _ hSame

end Profile

end SqlStatements
