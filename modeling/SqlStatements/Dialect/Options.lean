import SqlStatements.Error
import SqlStatements.Json

/-! Options of a dialect, given one by one, in the query part of a connection
address, or in a JSON document. -/
namespace SqlStatements

structure Options where
  /-- Permit values for a generated column when an insertion has one. -/
  autoIdentityInsert : Bool := true
  /-- Seconds after which a statement is given up. -/
  queryTimeout : Option Nat := none
  /-- Unbounded text becomes a variable string. -/
  textAsVarchar : Bool := false
  /-- Fetch generated ids in the batch of the insertion. -/
  useScopeIdentity : Bool := false
  /-- Assume window functions before the server has been asked. -/
  hasWindowFunctions : Bool := false
  maxIdentifierLength : Nat := 128
  schemaName : Option String := none
deriving DecidableEq

namespace Options

def readSwitch (option value : String) : Except Error Bool :=
  match Text.lower value with
  | "1" | "true" | "yes" | "on" => .ok true
  | "0" | "false" | "no" | "off" => .ok false
  | _ => .error (.invalidOption option value)

/-- Reads a number of at most sixty-four bits. -/
def readNumber (option value : String) : Except Error Nat :=
  match Text.readUnsigned? value.toList with
  | some n => if n < UInt64.size then .ok n else .error (.invalidOption option value)
  | none => .error (.invalidOption option value)

/-- Sets one option from its text. Unknown options are passed over. -/
def set (o : Options) (key value : String) : Except Error Options :=
  match key with
  | "auto_identity_insert" => (readSwitch key value).map fun b => { o with autoIdentityInsert := b }
  | "query_timeout" => (readNumber key value).map fun n => { o with queryTimeout := some n }
  | "text_as_varchar" => (readSwitch key value).map fun b => { o with textAsVarchar := b }
  | "use_scope_identity" => (readSwitch key value).map fun b => { o with useScopeIdentity := b }
  | "has_window_funcs" => (readSwitch key value).map fun b => { o with hasWindowFunctions := b }
  | "max_identifier_length" =>
    (readNumber key value).map fun n => { o with maxIdentifierLength := n }
  | "schema_name" => .ok { o with schemaName := some value }
  | _ => .ok o

def ofPairs (pairs : List (String × String)) : Except Error Options :=
  pairs.foldlM (fun o (key, value) => o.set key value) {}

/-- Cuts a text at the first `://`. -/
def splitScheme : List Char → Option (List Char × List Char)
  | [] => none
  | ':' :: '/' :: '/' :: rest => some ([], rest)
  | c :: rest => (splitScheme rest).map fun (scheme, after) => (c :: scheme, after)

def queryPairs (rest : List Char) : List (String × String) :=
  let query := ((Text.splitOnce '?' rest).map (·.2)).getD []
  ((Text.split '&' query).filter fun p => !p.isEmpty).map fun p =>
    let (key, value) := (Text.splitOnce '=' p).getD (p, [])
    (String.ofList key, String.ofList value)

/-- The scheme and the options of a connection address. -/
def ofUrl (url : String) : Except Error (String × Options) :=
  match splitScheme url.toList with
  | some (c :: scheme, rest) => do
    let options ← ofPairs (queryPairs rest)
    return (String.ofList (c :: scheme), options)
  | _ => .error (.invalidOption "url" url)

def wholeNumber? : Json → Option Nat
  | .num text =>
    match Text.readDigits? text.toList with
    | some n => if n < UInt64.size then some n else none
    | none => none
  | _ => none

def switch? : Json → Option Bool
  | .bool b => some b
  | _ => none

/-- Sets one option from a member of a document, which must have the type of the
option. Unknown options are passed over. -/
def setMember (o : Options) (key : String) (v : Json) : Option Options :=
  match key with
  | "auto_identity_insert" => (switch? v).map fun b => { o with autoIdentityInsert := b }
  | "query_timeout" =>
    match v with
    | .null => some { o with queryTimeout := none }
    | v => (wholeNumber? v).map fun n => { o with queryTimeout := some n }
  | "text_as_varchar" => (switch? v).map fun b => { o with textAsVarchar := b }
  | "use_scope_identity" => (switch? v).map fun b => { o with useScopeIdentity := b }
  | "has_window_funcs" => (switch? v).map fun b => { o with hasWindowFunctions := b }
  | "max_identifier_length" =>
    (wholeNumber? v).map fun n => { o with maxIdentifierLength := n }
  | "schema_name" =>
    match v with
    | .null => some { o with schemaName := none }
    | .str s => some { o with schemaName := some s }
    | _ => none
  | _ => some o

/-- The options of a document, if it is an object and every member has the type
of its option. -/
def ofJson? : Json → Option Options
  | .obj members => members.foldlM (fun o (key, v) => o.setMember key v) {}
  | _ => none

end Options

end SqlStatements
