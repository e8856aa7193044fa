import SqlStatements.Proofs.Compiled.BindNames
import SqlStatements.Proofs.Ledger.Modes
import SqlStatements.Proofs.Ledger.Slots

/-! A statement compiled with its values in the text, next to the same statement
compiled with question marks. -/
namespace SqlStatements

/-- What is related to the elements of one list, place by place, is related to
each other. -/
theorem forall₂_of_common {α β γ : Type} {R : α → β → Prop} {S : α → γ → Prop} {as : List α}
    {bs : List β} {cs : List γ} (h : List.Forall₂ R as bs) (h' : List.Forall₂ S as cs) :
    List.Forall₂ (fun b c => ∃ a, R a b ∧ S a c) bs cs := by
  induction h generalizing cs with
  | nil =>
      cases h'
      exact .nil
  | cons hHead _ ih =>
      cases h' with
      | cons hHead' hTail' => exact .cons ⟨_, hHead, hHead'⟩ (ih hTail')

namespace Sample

/-- A shared parameter in two places, a missing value, and a text with a
quote. -/
def search : Statement :=
  .delete
    { table := accounts
      condition := some (.binary .or
        (.binary .eq (.column ⟨some (.table (.plain accounts)), "id", .of .integer⟩)
          (.param ⟨"sought", some (.int 7), .of .integer, false⟩))
        (.inList (.column ⟨some (.table (.plain accounts)), "balance", .of .integer⟩)
          [.param ⟨"sought", some (.int 7), .of .integer, false⟩,
            .param ⟨"balance", some .null, .of .integer, true⟩,
            .param ⟨"balance", some (.text "it's"), .of .string, true⟩] false))
      returning := [] }

end Sample

namespace Statement

/-- The two modes agree on everything but the parameters. Both texts come from
one text with gaps: a question mark stands in each gap in one mode, and in the
other mode the spelling of the value that was captured by the parameter at this
position. With values in the text no parameters are left over, and the result
columns are the same. -/
theorem compile_literals (t : Target) (hStyle : t.profile.placeholders = .questionMark)
    (s : Statement) (c l : Compiled) (h : s.compile t .placeholders = .ok c)
    (h' : s.compile t .literals = .ok l) :
    (∃ (g : GappedText) (xs : List String), g.rest.length = c.positional.length ∧
      c.sql = g.fill (List.replicate c.positional.length "?") ∧
      l.sql = g.fill xs ∧
      List.Forall₂ (fun name x => ∃ b ∈ c.binds, b.name = name ∧
        ∃ v, b.value = some v ∧ t.spelling? b.type v = some x) c.positional xs) ∧
    l.binds = [] ∧ l.positional = [] ∧ l.columns = c.columns := by
  obtain ⟨texts, L, hWrite, rfl⟩ := exists_ledger_of_compile h
  obtain ⟨texts', M, hWrite', rfl⟩ := exists_ledger_of_compile h'
  obtain ⟨hBinds, hNone⟩ := Ledger.write_literals rfl hWrite'
  refine ⟨?_, hBinds, hNone, rfl⟩
  obtain ⟨g, xs, hLength, hMarks, hValues, hEach⟩ :=
    Ledger.write_modes hStyle rfl hWrite hWrite' rfl
  have hRepeats : t.profile.placeholders.repeats = true := by rw [hStyle]; rfl
  obtain ⟨added, hAdded, hParams⟩ := Ledger.write_positions hWrite rfl hRepeats
  have hAll : L.positional = added := by simpa using hAdded
  have hCount : (s.draft t).params.length = L.positional.length := by
    rw [hAll]
    exact hParams.length_eq
  rw [hCount] at hLength hMarks
  refine ⟨g, xs, hLength, hMarks, hValues, ?_⟩
  rw [← hAll] at hParams
  refine (forall₂_of_common hParams hEach).imp ?_
  rintro name x ⟨p, ⟨b, hb, hStands, hName⟩, hLiteral⟩
  obtain ⟨v, hValue, hSpelling⟩ := Ledger.literal_ok hLiteral
  refine ⟨b, hb, hName, v, hStands.value v hValue, ?_⟩
  rw [hStands.type]
  exact hSpelling

/-- The shared value is written out in both places, the missing one by its word,
and the quote in the text twice. -/
theorem compile_literals_search :
    ∃ c l, Sample.search.compile Sample.target .placeholders = .ok c ∧
      Sample.search.compile Sample.target .literals = .ok l ∧
      c.sql = "DELETE FROM accounts WHERE accounts.id = ? OR accounts.balance IN (?, ?, ?)" ∧
      c.positional = ["sought", "sought", "balance", "balance_1"] ∧
      l.sql =
        "DELETE FROM accounts WHERE accounts.id = 7 OR accounts.balance IN (7, NULL, 'it''s')" ∧
      (∃ (g : GappedText) (xs : List String), g.rest.length = c.positional.length ∧
        c.sql = g.fill (List.replicate c.positional.length "?") ∧ l.sql = g.fill xs ∧
        List.Forall₂ (fun name x => ∃ b ∈ c.binds, b.name = name ∧
          ∃ v, b.value = some v ∧ Sample.target.spelling? b.type v = some x) c.positional xs) ∧
      l.binds = [] := by
  obtain ⟨c, h, hFound⟩ := exists_ok_of_toOption
    (x := Sample.search.compile Sample.target .placeholders)
    (f := fun c => (c.sql, c.positional))
    (y := ("DELETE FROM accounts WHERE accounts.id = ? OR accounts.balance IN (?, ?, ?)",
      ["sought", "sought", "balance", "balance_1"])) (by decide +kernel)
  obtain ⟨l, h', hText⟩ := exists_ok_of_toOption
    (x := Sample.search.compile Sample.target .literals) (f := fun l => l.sql)
    (y := "DELETE FROM accounts WHERE accounts.id = 7 OR accounts.balance IN (7, NULL, 'it''s')")
    (by decide +kernel)
  obtain ⟨hGaps, hBinds, _, _⟩ := compile_literals Sample.target rfl Sample.search c l h h'
  exact ⟨c, l, h, h', congrArg Prod.fst hFound, congrArg Prod.snd hFound, hText, hGaps, hBinds⟩

end Statement

end SqlStatements
