import Mathlib.Data.List.Forall2
import SqlStatements.Proofs.Ledger.Step

/-! Drafts that leave nothing open. They are made of texts, names and tables, so they are
written out in one way, whatever has been decided before. -/
namespace SqlStatements.Draft

/-- The draft is written out as the given characters, whatever has been decided
before, and nothing is decided by it. -/
def Spells (st : Setting) (d : Draft) (cs : List Char) : Prop :=
  ∀ L : Ledger, ∃ texts, L.write st d = .ok (texts, L) ∧ (String.join texts).toList = cs

variable {st : Setting} {d e : Draft} {cs ds : List Char}

/-- Texts that do not depend on the ledger follow each other. -/
theorem Spells.append (hd : Spells st d cs) (he : Spells st e ds) :
    Spells st (d ++ e) (cs ++ ds) := by
  intro L
  obtain ⟨xs, hWrite, hText⟩ := hd L
  obtain ⟨ys, hWrite', hText'⟩ := he L
  refine ⟨xs ++ ys, Ledger.write_append hWrite hWrite', ?_⟩
  rw [String.join_append, String.toList_append, hText, hText']

theorem spells_nil : Spells st [] [] := fun _ => ⟨[], rfl, rfl⟩

/-- A text spells itself, with nothing quoted or changed. -/
theorem spells_text (w : String) : Spells st [.text w] w.toList := by
  intro L
  exact ⟨[w], rfl, by simp [String.join]⟩

theorem spells_name (ident : String) :
    Spells st [.name ident] (st.target.rules.quote ident).toList := by
  intro L
  exact ⟨[st.target.rules.quote ident], rfl, by simp [String.join]⟩

theorem spells_table (x : Table) : Spells st [.table x] (st.target.rules.table x true).toList := by
  intro L
  exact ⟨[st.target.rules.table x true], rfl, by simp [String.join]⟩

/-- Drafts in a list are written with the separator between neighbours. -/
theorem spells_join (separator : String) {ds : List Draft} {texts : List String}
    (h : List.Forall₂ (fun d text => Spells st d text.toList) ds texts) :
    Spells st (join separator ds) (Text.join separator texts).toList := by
  induction h with
  | nil => exact spells_nil
  | cons hFirst hRest ih =>
      cases hRest with
      | nil => exact hFirst
      | cons hNext hLater =>
          have hText : Spells st [.text separator] separator.toList := spells_text separator
          simpa only [join, Text.join, String.toList_append, List.append_assoc, List.cons_append,
            List.nil_append] using hFirst.append (hText.append ih)

/-- Names in a list are written with a comma between neighbours. -/
theorem spells_names (idents : List String) :
    Spells st (names idents) (Text.join ", " (idents.map st.target.rules.quote)).toList := by
  apply spells_join
  rw [List.forall₂_map_left_iff, List.forall₂_map_right_iff, List.forall₂_same]
  exact fun ident _ => spells_name ident

end SqlStatements.Draft
