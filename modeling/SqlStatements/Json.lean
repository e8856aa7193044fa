import SqlStatements.Text.Digits

/-! Documents in JSON, in which options are kept. A number stays as it is
written, so that whole numbers can be told from others. -/
namespace SqlStatements

inductive Json where
  | null
  | bool (b : Bool)
  /-- A number as written. -/
  | num (text : String)
  | str (s : String)
  | arr (items : List Json)
  /-- Members in the order in which they are written. -/
  | obj (members : List (String × Json))
deriving Inhabited

namespace Json

/-- The rest behind blanks. -/
def skip (cs : List Char) : List Char :=
  cs.dropWhile fun c => c == ' ' || c == '\n' || c == '\r' || c == '\t'

/-- The value of four hexadecimal digits. -/
def unit? (digits : List Char) : Option Nat :=
  digits.foldlM (fun n c => (Text.hexValue? c).map (n * 16 + ·)) 0

/-- The character behind a backslash. -/
def escaped (c : Char) : Char :=
  match c with
  | 'n' => '\n'
  | 't' => '\t'
  | 'r' => '\r'
  | 'b' => Char.ofNat 8
  | 'f' => Char.ofNat 12
  | c => c

/-- Whether a unit is the first half of a surrogate pair. -/
def isHighHalf (unit : Nat) : Bool := 0xD800 ≤ unit && unit < 0xDC00

/-- The character of a surrogate pair. -/
def ofHalves (high low : Nat) : Char :=
  Char.ofNat (0x10000 + (high - 0xD800) * 0x400 + (low - 0xDC00))

/-- The characters up to the closing quote, behind those read before, and the
rest. The first half of a surrogate pair waits for the second. -/
def readString (before : List Char) (half : Option Nat) :
    List Char → Option (String × List Char)
  | [] => none
  | '"' :: r => some (String.ofList before.reverse, r)
  | '\\' :: 'u' :: a :: b :: c :: d :: r =>
    match unit? [a, b, c, d], half with
    | none, _ => none
    | some low, some high => readString (ofHalves high low :: before) none r
    | some unit, none =>
      if isHighHalf unit then readString before (some unit) r
      else readString (Char.ofNat unit :: before) none r
  | '\\' :: c :: r => readString (escaped c :: before) none r
  | c :: r => readString (c :: before) none r

def isNumeral (c : Char) : Bool := Text.isDigit c || "+-.eE".toList.contains c

mutual

/-- A value and what follows it. Every call takes a character, so the number of
characters bounds the calls. -/
def readValue : (fuel : Nat) → List Char → Option (Json × List Char)
  | 0, _ => none
  | fuel + 1, cs =>
    match skip cs with
    | '{' :: r =>
      match skip r with
      | '}' :: r => some (.obj [], r)
      | r => readMembers fuel [] r
    | '[' :: r =>
      match skip r with
      | ']' :: r => some (.arr [], r)
      | r => readItems fuel [] r
    | '"' :: r => (readString [] none r).map fun (s, r) => (.str s, r)
    | 't' :: 'r' :: 'u' :: 'e' :: r => some (.bool true, r)
    | 'f' :: 'a' :: 'l' :: 's' :: 'e' :: r => some (.bool false, r)
    | 'n' :: 'u' :: 'l' :: 'l' :: r => some (.null, r)
    | cs =>
      if (cs.takeWhile isNumeral).isEmpty then none
      else some (.num (String.ofList (cs.takeWhile isNumeral)), cs.dropWhile isNumeral)

def readItems : (fuel : Nat) → List Json → List Char → Option (Json × List Char)
  | 0, _, _ => none
  | fuel + 1, before, cs => do
    let (v, r) ← readValue fuel cs
    match skip r with
    | ',' :: r => readItems fuel (v :: before) r
    | ']' :: r => some (.arr (v :: before).reverse, r)
    | _ => none

def readMembers : (fuel : Nat) → List (String × Json) → List Char → Option (Json × List Char)
  | 0, _, _ => none
  | fuel + 1, before, cs => do
    let '"' :: r := skip cs | none
    let (key, r) ← readString [] none r
    let ':' :: r := skip r | none
    let (v, r) ← readValue fuel r
    match skip r with
    | ',' :: r => readMembers fuel ((key, v) :: before) r
    | '}' :: r => some (.obj ((key, v) :: before).reverse, r)
    | _ => none

end

/-- The document that a text holds, if it holds nothing else. -/
def parse? (s : String) : Option Json :=
  match readValue (s.length + 1) s.toList with
  | some (j, rest) => if (skip rest).isEmpty then some j else none
  | none => none

/-- A character inside quotes. -/
def escape (c : Char) : List Char :=
  match c with
  | '"' => ['\\', '"']
  | '\\' => ['\\', '\\']
  | '\n' => ['\\', 'n']
  | '\r' => ['\\', 'r']
  | '\t' => ['\\', 't']
  | c =>
    if c.toNat = 8 then ['\\', 'b']
    else if c.toNat = 12 then ['\\', 'f']
    else if c.toNat < 32 then '\\' :: 'u' :: '0' :: '0' :: Text.hex false [UInt8.ofNat c.toNat]
    else [c]

def quoted (s : String) : String := String.ofList ('"' :: (s.toList.flatMap escape ++ ['"']))

mutual

/-- The document as text, without blanks. -/
def render : Json → String
  | .null => "null"
  | .bool b => if b then "true" else "false"
  | .num text => text
  | .str s => quoted s
  | .arr items => "[" ++ String.intercalate "," (renderItems items) ++ "]"
  | .obj members => "\x7b" ++ String.intercalate "," (renderMembers members) ++ "\x7d"

def renderItems : List Json → List String
  | [] => []
  | j :: rest => j.render :: renderItems rest

def renderMembers : List (String × Json) → List String
  | [] => []
  | (key, v) :: rest => (quoted key ++ ":" ++ v.render) :: renderMembers rest

end

/-- A member; absent ones are null. -/
def get (j : Json) (key : String) : Json :=
  match j with
  | .obj members => (members.lookup key).getD .null
  | _ => .null

end Json

end SqlStatements
