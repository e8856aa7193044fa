import SqlStatements.Digest.Sha256
import SqlStatements.Identifier.ReservedWords
import SqlStatements.Schema.Table
import SqlStatements.Text.Digits

/-! The rules of one dialect for names: when they are quoted, how they are
qualified, and how long they may be. -/
namespace SqlStatements

/-- How a dialect writes names. -/
structure IdentifierRules where
  opening : Char
  closing : Char
  reserved : List String
  /-- Unquoted names are read in lower case. -/
  foldsCase : Bool
  maxLength : Nat

namespace IdentifierRules

/-- The characters that may follow the first one of an unquoted name. -/
def isNameChar (c : Char) : Bool :=
  Text.isLetter c || Text.isDigit c || c == '_' || c == '$'

/-- Whether a name has to be quoted to stay what it is. -/
def requiresQuotes (rules : IdentifierRules) (ident : String) : Bool :=
  match ident.toList with
  | [] => true
  | first :: rest =>
    rules.reserved.contains (Text.lower ident) ||
      !(Text.isLetter first || first == '_') ||
      !((first :: rest).all isNameChar) ||
      (rules.foldsCase && Text.lower ident != ident)

/-- The name between quotes; a closing quote inside it is written twice. -/
def quoted (rules : IdentifierRules) (ident : String) : String :=
  String.ofList (rules.opening :: (Text.double rules.closing ident.toList ++ [rules.closing]))

/-- The name, quoted if it has to be. -/
def quote (rules : IdentifierRules) (ident : String) : String :=
  if rules.requiresQuotes ident then rules.quoted ident else ident

/-- A dotted name, with each of its parts quoted if it has to be. -/
def dotted (rules : IdentifierRules) (path : String) : String :=
  Text.join "." ((Text.split '.' path.toList).map fun part => rules.quote (String.ofList part))

/-- The name of a table, behind its schema if asked for. -/
def table (rules : IdentifierRules) (t : Table) (qualified : Bool) : String :=
  match t.schema with
  | some schema =>
    if qualified then rules.dotted schema ++ "." ++ rules.quote t.name else rules.quote t.name
  | none => rules.quote t.name

/-- The name of a column, behind its table if one is given. -/
def column (rules : IdentifierRules) (c : Column) : Option Table → String
  | some t => rules.table t true ++ "." ++ rules.quote c.name
  | none => rules.quote c.name

/-- Eight hexadecimal digits that depend on the whole name. -/
def fingerprint (name : String) : List Char :=
  Text.hex false ((Sha256.digest name.toUTF8.data.toList).take 4)

/-- A name within the limit. One that is too long keeps its first characters and
ends in its fingerprint; where there is room for nothing else, it is the
fingerprint alone. -/
def truncate (rules : IdentifierRules) (name : String) : String :=
  if name.length ≤ rules.maxLength then name
  else
    let kept := rules.maxLength - 9
    if kept = 0 then String.ofList ((fingerprint name).take rules.maxLength)
    else String.ofList (name.toList.take kept ++ '_' :: fingerprint name)

end IdentifierRules

end SqlStatements
