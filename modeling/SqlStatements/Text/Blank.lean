/-! White space in the sense of the Unicode property `White_Space`, and
trimming. The property covers twenty-five code points; the ASCII blanks are
among them. -/
namespace SqlStatements.Text

/-- The characters with the Unicode property `White_Space`. -/
def isBlank (c : Char) : Bool :=
  let n := c.toNat
  (0x9 ≤ n && n ≤ 0xD) || n == 0x20 || n == 0x85 || n == 0xA0 || n == 0x1680 ||
  (0x2000 ≤ n && n ≤ 0x200A) || n == 0x2028 || n == 0x2029 || n == 0x202F ||
  n == 0x205F || n == 0x3000

/-- Removes the blanks on both sides. -/
def trim (cs : List Char) : List Char :=
  ((cs.dropWhile isBlank).reverse.dropWhile isBlank).reverse

/-- A text that starts and ends without a blank is left as it is. -/
theorem trim_of_ends {cs : List Char} (hFirst : ∀ c, cs.head? = some c → isBlank c = false)
    (hLast : ∀ c, cs.getLast? = some c → isBlank c = false) : trim cs = cs := by
  have hDrop : ∀ l : List Char, (∀ c, l.head? = some c → isBlank c = false) →
      l.dropWhile isBlank = l := by
    intro l hl
    cases l with
    | nil => rfl
    | cons c r => simp [List.dropWhile, hl c rfl]
  rw [trim, hDrop cs hFirst, hDrop cs.reverse (by simpa using hLast), List.reverse_reverse]

end SqlStatements.Text
