import SqlStatements.Proofs.Compiled.Aliases
import SqlStatements.Proofs.Ledger.Spells
import SqlStatements.Proofs.Text.Delimited

/-! Texts written into a statement. Whatever the type of a parameter, a text is written as a
string literal, and a reader of such literals finds the text and the place where it ends: no
text gets out of its quotes. -/
namespace SqlStatements

/-- Reads a string literal at the start of a text: a quote, then everything up
to the quote that closes it, where two quotes in a row stand for one. Yields the
string and what follows the literal. -/
def Text.scanString : List Char → Option (String × List Char)
  | [] => none
  | first :: rest =>
    if first = '\'' then (readDelimited '\'' rest).map (Prod.map String.ofList id) else none

/-- A string literal is read as its string, and no further. Only a quote right
behind it would be taken in. -/
theorem Text.scanString_quoteString (x : String) {rest : List Char}
    (h : rest.head? ≠ some '\'') :
    scanString ((quoteString x).toList ++ rest) = some (x, rest) := by
  rw [quoteString, String.toList_ofList, List.cons_append, List.append_assoc, scanString,
    if_pos rfl]
  show (readDelimited '\'' (double '\'' x.toList ++ '\'' :: rest)).map _ = _
  rw [readDelimited_double x.toList h]
  simp

/-- Every style writes a text in the same way, so the type of a parameter does
not matter for it. -/
theorem LiteralStyle.render_text (style : LiteralStyle) (x : String) :
    style.render (.text x) = .ok (quoteString x) := by
  cases style <;> rfl

namespace Ledger

variable {st : Setting} {b : BindParam} {x : String}

/-- A text is written between quotes, whatever else the style of its type does,
as long as there is a style. -/
theorem literal_text (hText : b.value = some (.text x))
    (hStyle : (st.target.profile.literalStyle st.target.caps b.type).isSome = true) :
    literal st b = .ok (quoteString x) := by
  obtain ⟨style, hStyle⟩ := Option.isSome_iff_exists.mp hStyle
  rw [literal, hText]
  simp only [Value.isNull, hStyle, style.render_text, Bool.false_eq_true, if_false]

/-- A parameter with a text is written out as a literal and decides nothing, so
it reads the same everywhere. -/
theorem spells_text_param (hMode : st.mode = .literals) (hText : b.value = some (.text x))
    (hStyle : (st.target.profile.literalStyle st.target.caps b.type).isSome = true)
    (generated : Bool) : Draft.Spells st [.param b generated] (quoteString x).toList := by
  intro L
  have hPiece : L.writePiece st (.param b generated) = .ok (quoteString x, L) := by
    rw [writePiece, hMode, literal_text hText hStyle]
    rfl
  exact ⟨[quoteString x], write_cons_ok hPiece rfl, by simp [String.join]⟩

/-- A part of a draft that can be written in one way only stands in what is
written, between the texts of what is around it. -/
theorem exists_text_of_spells {L M : Ledger} {before part after : Draft} {texts : List String}
    {cs : List Char} (hPart : Draft.Spells st part cs)
    (h : L.write st (before ++ part ++ after) = .ok (texts, M)) :
    ∃ l r : List Char, (String.join texts).toList = l ++ cs ++ r := by
  obtain ⟨xs, zs, K, hFront, -, rfl⟩ := exists_write_append h
  obtain ⟨ws, ys, N, -, hMiddle, rfl⟩ := exists_write_append hFront
  obtain ⟨vs, hWritten, hText⟩ := hPart N
  rw [hWritten] at hMiddle
  cases hMiddle
  refine ⟨(String.join ws).toList, (String.join zs).toList, ?_⟩
  rw [String.join_append, String.join_append, String.toList_append, String.toList_append, hText]

end Ledger

namespace Sample

/-- A moment given as a text with quotes at both ends. -/
def moment : BindParam := ⟨"since", some (.text "' OR 1=1 --'"), .of .dateTime, true⟩

end Sample

namespace Statement

/-- A text whose type can be written, for any dialect and any server. In literal
mode a parameter with this text is written as one string literal, whatever has
been decided before it, and nothing is decided by it; the literal followed by
anything but a quote is read as this text, up to its end. So in a compiled
statement there is a place for each such parameter where the reader finds the
text, unless a quote follows. -/
theorem compile_text_literals (t : Target) (b : BindParam) (x : String)
    (hText : b.value = some (.text x))
    (hStyle : (t.profile.literalStyle t.caps b.type).isSome = true) :
    ∃ literal : String,
      (∀ (st : Setting) (L : Ledger) (generated : Bool), st.target = t → st.mode = .literals →
        L.writePiece st (.param b generated) = .ok (literal, L)) ∧
      literal.toList.head? = some '\'' ∧ literal.toList.getLast? = some '\'' ∧
      (∀ rest : List Char, rest.head? ≠ some '\'' →
        Text.scanString (literal.toList ++ rest) = some (x, rest)) ∧
      ∀ (s : Statement) (c : Compiled) (before after : Draft) (generated : Bool),
        s.compile t .literals = .ok c → s.draft t = before ++ [.param b generated] ++ after →
        ∃ l r : List Char, c.sql.toList = l ++ literal.toList ++ r ∧
          (r.head? ≠ some '\'' → Text.scanString (c.sql.toList.drop l.length) = some (x, r)) := by
  refine ⟨quoteString x, ?_, ?_, ?_, fun rest => Text.scanString_quoteString x, ?_⟩
  · rintro st L generated rfl hMode
    rw [Ledger.writePiece, hMode, Ledger.literal_text hText hStyle]
    rfl
  · rw [quoteString, String.toList_ofList]
    rfl
  · rw [quoteString, String.toList_ofList, ← List.cons_append, List.getLast?_concat]
  · intro s c before after generated hCompile hDraft
    obtain ⟨texts, L, hWrite, rfl⟩ := exists_ledger_of_compile hCompile
    rw [hDraft] at hWrite
    obtain ⟨l, r, hSql⟩ :=
      Ledger.exists_text_of_spells (Ledger.spells_text_param rfl hText hStyle generated) hWrite
    refine ⟨l, r, hSql, fun hRest => ?_⟩
    rw [hSql, List.append_assoc, List.drop_left]
    exact Text.scanString_quoteString x hRest

/-- A server that takes moments as text: quotes at either end of one change
nothing. -/
theorem compile_text_literals_moment :
    Ledger.writePiece ⟨Sample.server, .literals, [], none⟩ {} (.param Sample.moment false) =
        .ok ("''' OR 1=1 --'''", {}) ∧
      Text.scanString ("''' OR 1=1 --'''".toList ++ " AND x".toList) =
        some ("' OR 1=1 --'", " AND x".toList) := by
  obtain ⟨literal, hPiece, -, -, hScan, -⟩ :=
    compile_text_literals Sample.server Sample.moment "' OR 1=1 --'" rfl rfl
  have hWritten := hPiece ⟨Sample.server, .literals, [], none⟩ {} false rfl rfl
  have hLiteral : Ledger.writePiece ⟨Sample.server, .literals, [], none⟩ {}
      (.param Sample.moment false) = .ok ("''' OR 1=1 --'''", {}) := by decide
  rw [hLiteral] at hWritten
  cases hWritten
  exact ⟨hLiteral, hScan " AND x".toList (by decide)⟩

end Statement

end SqlStatements
