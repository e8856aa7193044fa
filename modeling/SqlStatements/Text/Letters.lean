/-! Letters and joins of text. Case is that of ASCII only: a letter outside
ASCII is its own lower case. -/
namespace SqlStatements.Text

/-- The text with its ASCII letters in lower case. -/
def lower (s : String) : String :=
  String.ofList (s.toList.map Char.toLower)

def isLetter (c : Char) : Bool :=
  ('a' ≤ c && c ≤ 'z') || ('A' ≤ c && c ≤ 'Z')

def isDigit (c : Char) : Bool :=
  '0' ≤ c && c ≤ '9'

/-- Cuts a text at every occurrence of a character. There is always at least one
part. -/
def split (mark : Char) : List Char → List (List Char)
  | [] => [[]]
  | c :: r =>
    match split mark r with
    | [] => [[c]]
    | part :: parts => if c = mark then [] :: part :: parts else (c :: part) :: parts

/-- Cuts a text at the first occurrence of a character, which is dropped. -/
def splitOnce (mark : Char) : List Char → Option (List Char × List Char)
  | [] => none
  | c :: r =>
    if c = mark then some ([], r)
    else (splitOnce mark r).map fun (before, after) => (c :: before, after)

/-- Writes a character twice wherever it occurs. -/
def double (mark : Char) : List Char → List Char
  | [] => []
  | c :: r => if c = mark then mark :: mark :: double mark r else c :: double mark r

/-- The parts one after the other, with a separator between two of them. -/
def join (separator : String) : List String → String
  | [] => ""
  | [s] => s
  | s :: t :: rest => s ++ separator ++ join separator (t :: rest)

/-- A number in at least `width` decimal digits. -/
def padded (width n : Nat) : String :=
  let digits := Nat.toDigits 10 n
  String.ofList (List.replicate (width - digits.length) '0' ++ digits)

/-- There is always a first part. -/
theorem split_ne_nil (mark : Char) (cs : List Char) : split mark cs ≠ [] := by
  cases cs with
  | nil => simp [split]
  | cons c r =>
    rw [split]
    split
    · simp
    · split <;> simp

end SqlStatements.Text
