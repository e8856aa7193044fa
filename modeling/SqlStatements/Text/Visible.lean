import SqlStatements.Text.Marks
import SqlStatements.Text.Unassigned

/-! Characters that a reader can see and tell from their neighbours, by the
classes of Unicode 17. -/
namespace SqlStatements.Text

def controls : List (Nat × Nat) :=
  [(0x0, 0x1F), (0x7F, 0x9F)]

/-- Characters that direct the layout and have no shape. -/
def formats : List (Nat × Nat) :=
  [(0xAD, 0xAD), (0x600, 0x605), (0x61C, 0x61C), (0x6DD, 0x6DD), (0x70F, 0x70F),
   (0x890, 0x891), (0x8E2, 0x8E2), (0x180E, 0x180E), (0x200B, 0x200F), (0x202A, 0x202E),
   (0x2060, 0x2064), (0x2066, 0x206F), (0xFEFF, 0xFEFF), (0xFFF9, 0xFFFB),
   (0x110BD, 0x110BD), (0x110CD, 0x110CD), (0x13430, 0x1343F), (0x1BCA0, 0x1BCA3),
   (0x1D173, 0x1D17A), (0xE0001, 0xE0001), (0xE0020, 0xE007F)]

/-- Separators of words, lines and paragraphs, apart from the plain space. -/
def separators : List (Nat × Nat) :=
  [(0xA0, 0xA0), (0x1680, 0x1680), (0x2000, 0x200A), (0x2028, 0x2029), (0x202F, 0x202F),
   (0x205F, 0x205F), (0x3000, 0x3000)]

def privateUse : List (Nat × Nat) :=
  [(0xE000, 0xF8FF), (0xF0000, 0xFFFFD), (0x100000, 0x10FFFD)]

/-- Letters of Hangul that fill a place and have no shape. -/
def fillers : List (Nat × Nat) :=
  [(0x115F, 0x1160), (0x3164, 0x3164), (0xFFA0, 0xFFA0)]

/-- Whether a code point is in one of the ranges. Both ends belong to a
range. -/
def covers (ranges : List (Nat × Nat)) (n : Nat) : Bool :=
  ranges.any fun (first, last) => first ≤ n && n ≤ last

/-- All that cannot be seen, or is seen only on the character before it. -/
def unseen : List (Nat × Nat) :=
  controls ++ formats ++ separators ++ privateUse ++ fillers ++ joiningMarks ++ unassigned

/-- Whether a character stands for itself on a page. The plain space does. -/
def isVisible (c : Char) : Bool := !covers unseen c.toNat

end SqlStatements.Text
