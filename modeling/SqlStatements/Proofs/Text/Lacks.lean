import SqlStatements.Dialect.Conversion
import SqlStatements.Proofs.Identifier.Fresh

/-! Texts without a given character. Names and string literals bring no character
but those of the text they are made from, letters, digits and a few signs; so they
lack any other character that this text lacks. -/
namespace SqlStatements

namespace Text

variable {c : Char}

def Lacks (c : Char) (s : String) : Prop := c ∉ s.toList

instance (c : Char) (s : String) : Decidable (Lacks c s) :=
  inferInstanceAs (Decidable (c ∉ s.toList))

/-- No text of the list has the character. -/
def LackAll (c : Char) (xs : List String) : Prop := ∀ x ∈ xs, Lacks c x

/-- The characters that words, names and literals bring by themselves. -/
def isPlain (c : Char) : Bool :=
  c.isAlphanum || ['_', '.', ',', '\'', ' ', '\n', '\t', '(', ')', '*', '=', '~'].contains c

def Plain (s : String) : Prop := s.toList.all isPlain = true

instance (s : String) : Decidable (Plain s) := inferInstanceAs (Decidable (_ = true))

/-- A character that words, names and literals do not bring by themselves. -/
def Sign (c : Char) : Prop := isPlain c = false

instance (c : Char) : Decidable (Sign c) := inferInstanceAs (Decidable (_ = false))

theorem Sign.ne (hc : Sign c) {d : Char} (hd : isPlain d = true) : c ≠ d := by
  rintro rfl
  rw [Sign, hd] at hc
  cases hc

theorem Sign.alphanum (hc : Sign c) : c.isAlphanum = false := by
  rw [Sign, isPlain, Bool.or_eq_false_iff] at hc
  exact hc.1

/-- A text of plain characters has no sign. -/
theorem Plain.lacks {s : String} (h : Plain s) (hc : Sign c) : Lacks c s :=
  fun hMem => hc.ne (List.all_eq_true.mp h c hMem) rfl

@[simp] theorem plain_append {s t : String} : Plain (s ++ t) ↔ Plain s ∧ Plain t := by
  simp only [Plain, String.toList_append, List.all_append, Bool.and_eq_true]

@[simp] theorem plain_nat (n : Nat) : Plain n.repr := by
  rw [Plain, Nat.toList_repr, List.all_eq_true]
  intro c hc
  have hDigit := Nat.isDigit_of_mem_toDigits (by decide) (by decide) hc
  rw [isPlain, Char.isAlphanum, hDigit, Bool.or_true, Bool.true_or]

@[simp] theorem lackAll_nil : LackAll c [] := List.forall_mem_nil _

@[simp] theorem lackAll_cons {x : String} {xs : List String} :
    LackAll c (x :: xs) ↔ Lacks c x ∧ LackAll c xs := List.forall_mem_cons

@[simp] theorem lackAll_append {xs ys : List String} :
    LackAll c (xs ++ ys) ↔ LackAll c xs ∧ LackAll c ys := List.forall_mem_append

@[simp] theorem lackAll_flatMap {α : Type} {xs : List α} {f : α → List String} :
    LackAll c (xs.flatMap f) ↔ ∀ x ∈ xs, LackAll c (f x) := by
  simp only [LackAll, List.mem_flatMap]
  exact ⟨fun h x hx y hy => h y ⟨x, hx, hy⟩, fun h y ⟨x, hx, hy⟩ => h x hx y hy⟩

@[simp] theorem lacks_append {s t : String} : Lacks c (s ++ t) ↔ Lacks c s ∧ Lacks c t := by
  simp only [Lacks, String.toList_append, List.mem_append, not_or]

@[simp] theorem lacks_ofList {cs : List Char} : Lacks c (String.ofList cs) ↔ c ∉ cs := by
  rw [Lacks, String.toList_ofList]

/-- The digits of a number are letters or digits, so nothing else occurs in
them. -/
theorem not_mem_toDigits (hc : c.isAlphanum = false) (n : Nat) : c ∉ Nat.toDigits 10 n := by
  intro h
  have hDigit := Nat.isDigit_of_mem_toDigits (by decide) (by decide) h
  rw [Char.isAlphanum, hDigit, Bool.or_true] at hc
  cases hc

theorem lacks_nat (hc : c.isAlphanum = false) (n : Nat) : Lacks c n.repr := by
  rw [Lacks, Nat.toList_repr]
  exact not_mem_toDigits hc n

theorem isAlphanum_hexDigit (capitals : Bool) :
    ∀ n < 16, (hexDigit capitals n).isAlphanum = true := by
  cases capitals <;> decide

theorem not_mem_hexDigits (hc : c.isAlphanum = false) (capitals : Bool) (bytes : List UInt8) :
    c ∉ hex capitals bytes := by
  have hDigit : ∀ n < 16, c ≠ hexDigit capitals n := by
    rintro n hn rfl
    rw [isAlphanum_hexDigit capitals n hn] at hc
    cases hc
  intro h
  obtain ⟨b, _, h⟩ := List.mem_flatMap.mp h
  have hByte := b.toNat_lt
  rcases List.mem_cons.mp h with h | h
  · exact hDigit _ (by omega) h
  · exact hDigit _ (by omega) (List.mem_singleton.mp h)

/-- Doubling brings no new characters. -/
theorem mem_of_mem_double {mark : Char} {cs : List Char} (h : c ∈ double mark cs) : c ∈ cs := by
  induction cs with
  | nil => exact h
  | cons first cs ih =>
      rw [double] at h
      split at h
      · rename_i hFirst
        subst hFirst
        simp only [List.mem_cons] at h ⊢
        rcases h with h | h | h
        · exact .inl h
        · exact .inl h
        · exact .inr (ih h)
      · exact List.mem_cons.mpr ((List.mem_cons.mp h).imp_right ih)

theorem double_of_not_mem {mark : Char} {cs : List Char} (h : mark ∉ cs) : double mark cs = cs := by
  induction cs with
  | nil => rfl
  | cons first cs ih =>
      rw [List.mem_cons, not_or] at h
      rw [double, if_neg (Ne.symm h.1), ih h.2]

theorem isAlphanum_of_letter (h : 97 ≤ c.val.toNat) (h' : c.val.toNat ≤ 122) :
    c.isAlphanum = true := by
  have hLow : 97 ≤ c.val := UInt32.le_iff_toNat_le.mpr h
  have hHigh : c.val ≤ 122 := UInt32.le_iff_toNat_le.mpr h'
  have hLower : c.isLower = true := Bool.and_eq_true_iff.mpr ⟨decide_eq_true hLow,
    decide_eq_true hHigh⟩
  have hAlpha : c.isAlpha = true := Bool.or_eq_true_iff.mpr (.inr hLower)
  exact Bool.or_eq_true_iff.mpr (.inl hAlpha)

/-- Lower case brings letters only. -/
theorem lacks_lower (hc : c.isAlphanum = false) {s : String} (h : Lacks c s) :
    Lacks c (lower s) := by
  rw [lower, lacks_ofList, List.mem_map]
  rintro ⟨first, hFirst, he⟩
  delta Char.toLower at he
  split at he
  · rename_i hLetter
    have hLow : 65 ≤ first.val.toNat := hLetter.1
    have hHigh : first.val.toNat ≤ 90 := hLetter.2
    have hSum : (first.val + ('a'.val - 'A'.val)).toNat = first.val.toNat + 32 := by
      rw [UInt32.toNat_add]
      show (first.val.toNat + 32) % 4294967296 = first.val.toNat + 32
      omega
    have hVal : first.val.toNat + 32 = c.val.toNat := by rw [← he, ← hSum]
    rw [isAlphanum_of_letter (by omega) (by omega)] at hc
    cases hc
  · exact h (he ▸ hFirst)

/-- Cutting a text brings no new characters into its parts. -/
theorem mem_of_mem_split {mark : Char} {cs part : List Char} (hPart : part ∈ split mark cs)
    (h : c ∈ part) : c ∈ cs := by
  induction cs generalizing part with
  | nil =>
      rw [split, List.mem_singleton] at hPart
      rwa [hPart] at h
  | cons first cs ih =>
      rw [split] at hPart
      split at hPart
      · rw [List.mem_singleton.mp hPart, List.mem_singleton] at h
        exact h ▸ List.mem_cons_self ..
      · rename_i other rest hRest
        rw [hRest] at ih
        split at hPart
        · rcases List.mem_cons.mp hPart with rfl | hPart
          · cases h
          · exact List.mem_cons_of_mem _ (ih hPart h)
        · rcases List.mem_cons.mp hPart with rfl | hPart
          · exact List.mem_cons.mpr ((List.mem_cons.mp h).imp_right (ih (List.mem_cons_self ..)))
          · exact List.mem_cons_of_mem _ (ih (List.mem_cons_of_mem _ hPart) h)

theorem lacks_join {separator : String} {parts : List String} (h : Lacks c separator)
    (hParts : ∀ part ∈ parts, Lacks c part) : Lacks c (join separator parts) := by
  induction parts with
  | nil => simp [join, Lacks]
  | cons s parts ih =>
      obtain ⟨hs, hRest⟩ := List.forall_mem_cons.mp hParts
      cases parts with
      | nil => exact hs
      | cons t rest => simpa [join, h] using ⟨hs, ih hRest⟩

end Text

open Text

variable {c : Char} {rules : IdentifierRules}

/-- A string literal has the sign only if its text has. The quotes bring
none. -/
theorem lacks_quoteString (hc : Sign c) {s : String} (h : Lacks c s) : Lacks c (quoteString s) := by
  rw [quoteString, lacks_ofList]
  simpa [hc.ne (d := '\'') (by decide)] using fun hMem => h (mem_of_mem_double hMem)

theorem lacks_numbered (hc : Sign c) {base : String} (h : Lacks c base) (n : Nat) :
    Lacks c (numbered base n) := by
  cases n with
  | zero => exact h
  | succ n =>
      have hMark : Plain "_" := by decide
      exact lacks_append.mpr ⟨lacks_append.mpr ⟨h, hMark.lacks hc⟩, lacks_nat hc.alphanum _⟩

/-- A free name has the sign only if its base has. -/
theorem lacks_freshName (hc : Sign c) {base : String} (h : Lacks c base) (taken : List String) :
    Lacks c (freshName base taken) := by
  rw [freshName]
  cases hFound : firstFree? (numbered base) taken (taken.length + 1) 0 with
  | none => exact h
  | some name =>
      obtain ⟨i, rfl, _⟩ := exists_of_firstFree? hFound
      exact lacks_numbered hc h _

namespace IdentifierRules

/-- A quoted name has the sign only if the name has, or if the sign is one of
the quotes. -/
theorem lacks_quote (hOpening : c ≠ rules.opening) (hClosing : c ≠ rules.closing) {ident : String}
    (h : Lacks c ident) : Lacks c (rules.quote ident) := by
  rw [quote]
  split
  · rw [quoted, lacks_ofList]
    simpa [hOpening, hClosing] using fun hMem => h (mem_of_mem_double hMem)
  · exact h

theorem lacks_dotted (hOpening : c ≠ rules.opening) (hClosing : c ≠ rules.closing) (hc : Sign c)
    {path : String} (h : Lacks c path) : Lacks c (rules.dotted path) := by
  have hPoint : Plain "." := by decide
  refine lacks_join (hPoint.lacks hc) ?_
  intro x hx
  obtain ⟨part, hPart, rfl⟩ := List.mem_map.mp hx
  exact lacks_quote hOpening hClosing (lacks_ofList.mpr fun hMem => h (mem_of_mem_split hPart hMem))

/-- A name that was cut has the sign only if the name has; its fingerprint
brings none. -/
theorem lacks_truncate (hc : Sign c) {name : String} (h : Lacks c name) :
    Lacks c (rules.truncate name) := by
  have hPrint : c ∉ fingerprint name := not_mem_hexDigits hc.alphanum _ _
  rw [truncate]
  split
  · exact h
  · simp only
    split
    · exact lacks_ofList.mpr fun hMem => hPrint (List.mem_of_mem_take hMem)
    · have hKept : c ∉ name.toList.take (rules.maxLength - 9) := fun hMem =>
        h (List.mem_of_mem_take hMem)
      rw [lacks_ofList]
      simp [hKept, hPrint, hc.ne (d := '_') (by decide)]

theorem lacks_fresh (hc : Sign c) {base : String} {taken : List String} {start : Nat}
    {name : String} (h : rules.fresh base taken start = .ok name) (hBase : Lacks c base) :
    Lacks c name := by
  obtain ⟨i, rfl, _⟩ := exists_of_fresh h
  exact lacks_truncate hc (lacks_numbered hc hBase _)

end IdentifierRules

end SqlStatements
