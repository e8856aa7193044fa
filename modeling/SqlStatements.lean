import SqlStatements.Proofs.Cache.Transparency
import SqlStatements.Proofs.Compiled.AliasClashes
import SqlStatements.Proofs.Compiled.EmptyRows
import SqlStatements.Proofs.Compiled.Independence
import SqlStatements.Proofs.Compiled.IndexNames
import SqlStatements.Proofs.Compiled.InsertedRows
import SqlStatements.Proofs.Compiled.LateralTables
import SqlStatements.Proofs.Compiled.Literals
import SqlStatements.Proofs.Compiled.MinusSigns
import SqlStatements.Proofs.Compiled.OrderClauses
import SqlStatements.Proofs.Compiled.PageNames
import SqlStatements.Proofs.Compiled.ReturnedColumns
import SqlStatements.Proofs.Compiled.SelectedColumns
import SqlStatements.Proofs.Compiled.SharedBinds
import SqlStatements.Proofs.Compiled.TextLiterals
import SqlStatements.Proofs.Compiled.WalkOrder
import SqlStatements.Proofs.Dialect.NameLimits
import SqlStatements.Proofs.Draft.PageBounds
import SqlStatements.Proofs.Draft.PageLayers
import SqlStatements.Proofs.Execution.Cycles
import SqlStatements.Proofs.Execution.GivenIds
import SqlStatements.Proofs.Identifier.Scanner
import SqlStatements.Proofs.Identifier.Search
import SqlStatements.Proofs.Number.Positional
import SqlStatements.Proofs.OnePass.Termination
import SqlStatements.Proofs.Operators.Rendering
import SqlStatements.Proofs.Schema.CreationOrder
