import SqlStatements.Proofs.Draft.Marks
import SqlStatements.Proofs.Ledger.Step

/-! The names of marked parameters. Where every placeholder takes a value of its own,
the ledger lists under the generated column the names at the marked positions. -/
namespace SqlStatements

namespace Ledger

variable {s : Setting} {L L' : Ledger} {d : Draft} {texts : List String}

end Ledger

end SqlStatements
