import Mathlib.Data.List.Basic
import SqlStatements.Draft.Statement
import SqlStatements.Proofs.Compiled.BindNames

/-! How the text of a statement starts. The statements of the language start with
words of their own, so none can be mistaken for one that is about the session,
which starts with `SET`. -/
namespace SqlStatements

/-- Whatever follows the text, the two together do not start with `SET`. -/
def Text.Opens (x : String) : Prop := ¬"SET".toList <+: x.toList ∧ ¬x.toList <+: "SET".toList

instance (x : String) : Decidable (Text.Opens x) := inferInstanceAs (Decidable (_ ∧ _))

/-- No continuation makes a text that opens as it should start with `SET`. -/
theorem Text.Opens.not_starts_set {x : String} (h : Text.Opens x) (y : String) :
    ¬"SET".toList <+: (x ++ y).toList := by
  intro hSet
  rw [String.toList_append] at hSet
  rcases List.prefix_or_prefix_of_prefix hSet (List.prefix_append _ _) with hLong | hShort
  · exact h.1 hLong
  · exact h.2 hShort

theorem Text.Opens.append {x : String} (h : Text.Opens x) (y : String) : Text.Opens (x ++ y) := by
  refine ⟨h.not_starts_set y, ?_⟩
  intro hShort
  rw [String.toList_append] at hShort
  exact h.2 ((List.prefix_append _ _).trans hShort)

namespace Draft

variable {d l r : Draft} {ds : List Draft}

/-- The draft, if it is not empty, opens with a text that does not start with
`SET`, or it fails at once. -/
def Opens (d : Draft) : Prop :=
  ∀ piece ∈ d.head?, (∃ x, piece = .text x ∧ Text.Opens x) ∨ ∃ e, piece = .stop e

theorem opens_nil : Opens [] := by simp [Opens]

theorem opens_text {x : String} (h : Text.Opens x) : Opens (.text x :: d) := by
  simpa [Opens] using h

theorem opens_stop {e : Error} : Opens (.stop e :: d) := by simp [Opens]

/-- Where the first draft is empty, the second one takes over, so both have to
open as they should. -/
theorem Opens.append (hl : l.Opens) (hr : r.Opens) : Opens (l ++ r) := by
  cases l with
  | nil => exact hr
  | cons piece l => exact hl

/-- A list of drafts opens with its first one, or with the separator if that one
is empty. -/
theorem opens_join {separator : String} (hSeparator : Text.Opens separator)
    (h : ∀ d ∈ ds, Opens d) : (join separator ds).Opens := by
  cases ds with
  | nil => exact opens_nil
  | cons d ds =>
      have hFirst := h d (List.mem_cons_self ..)
      cases ds with
      | nil => exact hFirst
      | cons other ds => exact hFirst.append (opens_text hSeparator)

theorem opens_order {t : Target} {sc : Scope} {limited : Bool} : (order t sc limited ds).Opens := by
  rw [order, listClause]
  split
  · split
    · exact opens_nil
    · exact opens_text (by decide)
  · exact opens_nil

theorem opens_limits (limit offset : Option UInt64) : (limits limit offset).Opens := by
  have hLimit : ∀ n : Nat, Text.Opens (" LIMIT " ++ toString n) :=
    fun n => Text.Opens.append (by decide) _
  have hOffset : ∀ n : Nat, Text.Opens (" OFFSET " ++ toString n) :=
    fun n => Text.Opens.append (by decide) _
  cases limit with
  | some n => exact opens_text (hLimit _)
  | none =>
      cases offset with
      | some n => exact opens_text (hOffset _)
      | none => exact opens_nil

end Draft

open Draft

/-- Whatever a pager drafts opens as it should. -/
def Pager.Opens (pager : Pager) : Prop := ∀ sc outermost s, (pager sc outermost s).Opens

variable {t : Target} {pager : Pager}

/-- A SELECT opens with a word of its own or with a page, or it fails at once.
None of these starts with `SET`. -/
theorem Select.draft_opens (hPager : pager.Opens) (s : Select) (sc : Scope) (outermost : Bool) :
    (s.draft t pager sc outermost).Opens := by
  obtain ⟨ctes, distinct, columns, sources, condition, groupBy, having, orderBy, limit, offset,
    numbered⟩ := s
  rw [Select.draft]
  split
  · exact opens_stop
  · split
    · split
      · exact hPager _ _ _
      · exact opens_stop
    · split
      · exact opens_stop
      · refine Opens.append ?_ (opens_text ?_)
        · rw [withClause]
          split
          · exact opens_nil
          · refine opens_text ?_
            split <;> decide
        · cases distinct <;> decide

mutual

theorem Query.draft_opens (hPager : pager.Opens) : (q : Query) → (sc : Scope) →
    (outermost : Bool) → (q.draft t pager sc outermost).Opens
  | .select s, sc, outermost => by
      rw [Query.draft]
      exact s.draft_opens hPager sc outermost
  | .compound op members orderBy limit offset, sc, outermost => by
      have hMembers := memberDrafts_opens hPager members sc outermost 1
      have hSeparator : Text.Opens (" " ++ op.sql ++ " ") := by cases op <;> decide
      rw [Query.draft]
      split
      · exact opens_stop
      · have hLimits := opens_limits limit offset
        exact ((opens_join hSeparator hMembers).append opens_order).append hLimits

theorem memberDrafts_opens (hPager : pager.Opens) : (qs : List Query) → (sc : Scope) →
    (outermost : Bool) → (number : Nat) →
    ∀ d ∈ memberDrafts t pager sc outermost number qs, d.Opens
  | [], sc, outermost, number => by simp [memberDrafts]
  | q :: qs, sc, outermost, number => by
      rw [memberDrafts]
      refine List.forall_mem_cons.mpr ⟨?_, memberDrafts_opens hPager qs sc false (number + 1)⟩
      split
      · exact opens_text (by decide)
      · cases q.isCompound with
        | true => exact opens_text (by decide)
        | false => exact q.draft_opens hPager sc outermost

end

/-- Pages at any depth open as they should, by induction on the depth. -/
theorem pager_opens (t : Target) (depth : Nat) : (SqlStatements.pager t depth).Opens := by
  induction depth with
  | zero => exact fun _ _ _ => opens_stop
  | succ depth ih => exact fun sc outermost s => s.draft_opens ih sc outermost

namespace Statement

/-- Every statement opens with a text that does not start with `SET`, or it
fails at once. The word may well follow later. -/
theorem draft_opens (t : Target) (s : Statement) : (s.draft t).Opens := by
  cases s with
  | query q => exact q.draft_opens (pager_opens _ _) .outermost true
  | insert s => exact opens_text (by decide)
  | update s => exact opens_text (by decide)
  | delete s => exact opens_text (by decide)
  | createTable table ifNotExists => cases ifNotExists <;> exact opens_text (by decide)
  | dropTable table ifExists => cases ifExists <;> exact opens_text (by decide)
  | createIndex index =>
      refine opens_text ?_
      split <;> decide
  | dropIndex index => exact opens_text (by decide)

/-- A compiled statement is empty, or it does not start with `SET`, whatever is
added to it. -/
theorem compile_opens {t : Target} {mode : ParameterMode} {s : Statement} {c : Compiled}
    (h : s.compile t mode = .ok c) :
    c.sql = "" ∨ ∀ y, ¬"SET".toList <+: (c.sql ++ y).toList := by
  obtain ⟨texts, L, hWrite, rfl⟩ := exists_ledger_of_compile h
  have hOpens := draft_opens t s
  cases hDraft : s.draft t with
  | nil =>
      rw [hDraft] at hWrite
      cases hWrite
      exact .inl String.join_nil
  | cons piece d =>
      rw [hDraft] at hWrite hOpens
      obtain ⟨text, M, rest, hPiece, _, rfl⟩ := Ledger.write_cons hWrite
      refine .inr ?_
      intro y
      rcases hOpens piece rfl with ⟨x, rfl, hx⟩ | ⟨e, rfl⟩
      · cases hPiece
        rw [String.join_cons, String.append_assoc]
        exact hx.not_starts_set _
      · cases hPiece

end Statement

end SqlStatements
