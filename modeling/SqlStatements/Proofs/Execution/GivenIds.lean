import Mathlib.Data.List.NodupEquivFin
import SqlStatements.Proofs.Compiled.Positions
import SqlStatements.Proofs.Draft.Select
import SqlStatements.Proofs.Execution.Permission
import SqlStatements.Proofs.Ledger.Marks
import SqlStatements.Statement.Assignment

/-! Ids that an insertion gives itself. They are known from the names that the ledger
keeps for the generated column, and these names stand for the values that are sent
for its cells. -/
namespace SqlStatements

open IdentitySession

namespace Sample

/-- A server of version 10, which takes several rows at once. -/
def modern : Dialect :=
  { SqlServer.build .odbc {} with
    cell := ⟨SqlServer.defaults .odbc {},
      some (SqlServer.derive {} (SqlServer.defaults .odbc {}) ⟨10, 0, 0⟩)⟩ }

end Sample

namespace Insert

variable {t : Target} {s : Insert} {columns : List String} {cells : List (List Expr)} {i : Nat}
  {A : Column} {c : Compiled}

/-- The marks of the draft of an insertion say which placeholders stand in the
generated column. -/
theorem marks_draft (hSource : s.source = .rows columns cells)
    (hGenerated : generatedAt s.table columns = some i)
    (hCells : ∀ row ∈ cells, ∀ e, row[i]? = some e → Open e) (hReturning : s.returning = [])
    (hRows : ¬(1 < cells.length ∧ t.caps.multiRow = false)) :
    ((Statement.insert s).draft t).marks = (s.placeholderColumns t).map (· == i) := by
  rw [placeholderColumns, hSource]
  simp only [Statement.draft, draft, Draft.marks_text, Draft.marks_table, Draft.marks_append,
    hSource, marks_sourceDraft hGenerated hCells hRows, Draft.returning, hReturning]
  simp

end Insert

/-- A list made by hand that repeats the column: both values are sent under its
name, and the one at the first place is reported. -/
example :
    ((Statement.insert ⟨Sample.accounts, .rows ["id", "id"]
      [[.param ⟨"first", some (.int 7), .of .integer, false⟩,
        .param ⟨"second", some (.int 8), .of .integer, false⟩]], []⟩).compile
          (SqlServer.build .odbc {}).target .placeholders).toOption.map (fun c =>
      let run := (c.execute (SqlServer.build .odbc {}) {}).run ⟨[], []⟩
      (run.1.toOption.map (·.ids), run.2.log[2]?)) =
    some (some (some [.int 7]),
      some (.execute "INSERT INTO accounts (id, id) VALUES (?, ?)" [.int 7, .int 8])) := by
  decide

end SqlStatements
