import Mathlib.Algebra.Order.Field.Basic
import Mathlib.Algebra.Field.Rat
import Mathlib.Data.List.TakeWhile
import SqlStatements.Number.Decimal
import SqlStatements.Proofs.Text.Parted

/-! Decimal numbers in positional notation. The text of a number has a digit for every place,
and it is read back digit by digit, so nothing is lost but a power of ten that is written out
as zeros. -/
namespace SqlStatements

namespace Text

/-- All characters are decimal digits. -/
def Digits (cs : List Char) : Prop := ∀ c ∈ cs, c.isDigit = true

variable {cs ds : List Char}

theorem Digits.append (hcs : Digits cs) (hds : Digits ds) : Digits (cs ++ ds) :=
  List.forall_mem_append.mpr ⟨hcs, hds⟩

theorem Digits.not_mem (h : Digits cs) {c : Char} (hc : c.isDigit = false) : c ∉ cs := by
  intro hMem
  rw [h c hMem] at hc
  cases hc

/-- There are no separators among digits. -/
theorem Digits.filter_eq_self (h : Digits cs) : cs.filter (· != '_') = cs := by
  refine List.filter_eq_self.mpr fun c hc => ?_
  rw [bne_iff_ne]
  rintro rfl
  cases h _ hc

/-- A number other than zero does not start with a zero. -/
theorem head?_toDigits {n : Nat} (h : 0 < n) : (Nat.toDigits 10 n).head? ≠ some '0' := by
  induction n using Nat.strongRecOn with
  | _ n ih =>
      rw [Nat.toDigits_eq_if (by decide)]
      split
      · rename_i hSmall
        have hDigit : ∀ n < 10, 0 < n → n.digitChar ≠ '0' := by decide
        rw [List.head?_cons]
        exact fun hZero => hDigit n hSmall h (Option.some.inj hZero)
      · rw [List.head?_append_of_ne_nil _ Nat.toDigits_ne_nil]
        exact ih (n / 10) (by omega) (by omega)

theorem isBlank_of_isDigit {c : Char} (h : c.isDigit = true) : isBlank c = false := by
  have hRange : 48 ≤ c.toNat ∧ c.toNat ≤ 57 := Char.isDigit_iff_toNat.mp h
  simp only [isBlank, Bool.or_eq_false_iff, Bool.and_eq_false_iff, decide_eq_false_iff_not,
    beq_eq_false_iff_ne]
  omega

/-- A run of digits is read as the number that it denotes, after what has been
read before. -/
theorem digitsFrom_eq (h : Digits cs) (value : Nat) :
    digitsFrom value cs = some (Nat.ofDigitChars 10 cs value) := by
  induction cs generalizing value with
  | nil => rfl
  | cons c cs ih =>
      obtain ⟨hc, hcs⟩ := List.forall_mem_cons.mp h
      have hDigit : isDigit c = true := hc
      rw [digitsFrom, if_pos hDigit, ih hcs, Nat.ofDigitChars_cons, Nat.mul_comm]

theorem readDigits?_eq (h : Digits cs) (hSome : cs ≠ []) :
    readDigits? cs = some (Nat.ofDigitChars 10 cs 0) := by
  cases cs with
  | nil => exact absurd rfl hSome
  | cons c cs => exact digitsFrom_eq h 0

theorem splitOnce_of_not_mem {mark : Char} (h : mark ∉ cs) : splitOnce mark cs = none := by
  induction cs with
  | nil => rfl
  | cons c cs ih =>
      rw [List.mem_cons, not_or] at h
      rw [splitOnce, if_neg (Ne.symm h.1), ih h.2]
      rfl

/-- A text is cut at the first mark, so there must be none in the first part. -/
theorem splitOnce_append {mark : Char} (h : mark ∉ cs) :
    splitOnce mark (cs ++ mark :: ds) = some (cs, ds) := by
  induction cs with
  | nil => rw [List.nil_append, splitOnce, if_pos rfl]
  | cons c cs ih =>
      rw [List.mem_cons, not_or] at h
      rw [List.cons_append, splitOnce, if_neg (Ne.symm h.1), ih h.2]
      rfl

end Text

/-- A number in positional notation: a sign, the digits before the point and
those behind it. A zero that leads stands alone. -/
structure Positional where
  negative : Bool
  whole : List Char
  fraction : List Char
  whole_ne_nil : whole ≠ []
  whole_digits : Text.Digits whole
  fraction_digits : Text.Digits fraction
  lead : whole.head? = some '0' → whole = ['0']

namespace Positional

open Text

def sign (p : Positional) : List Char := if p.negative then ['-'] else []

def body (p : Positional) : List Char :=
  p.whole ++ if p.fraction = [] then [] else '.' :: p.fraction

def text (p : Positional) : String := String.ofList (p.sign ++ p.body)

/-- The digits as an integer, without the point. -/
def magnitude (p : Positional) : Nat := Nat.ofDigitChars 10 (p.whole ++ p.fraction) 0

/-- The digits and the sign as an integer, without the point. -/
def unscaled (p : Positional) : Int := if p.negative then -(p.magnitude : Int) else p.magnitude

variable (p : Positional)

theorem digits : Digits (p.whole ++ p.fraction) := p.whole_digits.append p.fraction_digits

theorem not_mem_sign {c : Char} (h : c ≠ '-') : c ∉ p.sign := by
  rw [sign]
  split
  · simpa using h
  · exact List.not_mem_nil

/-- Nothing else stands in the text: no blanks and no exponent. -/
theorem mem_chars_cases {c : Char} (hc : c ∈ p.sign ++ p.body) :
    c = '-' ∨ c = '.' ∨ c.isDigit = true := by
  rcases List.mem_append.mp hc with hc | hc
  · exact .inl (Decidable.byContradiction fun hOther => p.not_mem_sign hOther hc)
  rcases List.mem_append.mp hc with hc | hc
  · exact .inr (.inr (p.whole_digits c hc))
  split at hc
  · cases hc
  · rcases List.mem_cons.mp hc with rfl | hc
    · exact .inr (.inl rfl)
    · exact .inr (.inr (p.fraction_digits c hc))

/-- A number in positional notation has no blanks at its ends. -/
theorem trim_chars : trim (p.sign ++ p.body) = p.sign ++ p.body := by
  have hBlank : ∀ c ∈ p.sign ++ p.body, isBlank c = false := by
    intro c hc
    rcases p.mem_chars_cases hc with rfl | rfl | hDigit
    · rfl
    · rfl
    · exact isBlank_of_isDigit hDigit
  exact trim_of_ends (fun c hc => hBlank c (List.mem_of_head? hc))
    fun c hc => hBlank c (List.mem_of_getLast? hc)

/-- It has no mark of an exponent either, so all of it is read as the
significand. -/
theorem not_mark {c : Char} (hc : c ∈ p.sign ++ p.body) :
    (!(c == 'e' || c == 'E')) = true := by
  rcases p.mem_chars_cases hc with rfl | rfl | hDigit
  · rfl
  · rfl
  · have hLetter : ∀ d : Char, d.isDigit = false → (c == d) = false := by
      intro d hd
      rw [beq_eq_false_iff_ne]
      rintro rfl
      rw [hDigit] at hd
      cases hd
    rw [hLetter 'e' rfl, hLetter 'E' rfl]
    rfl

/-- The point is taken out, and the places behind it are counted. A number
without a point has none. -/
theorem withoutPoint_chars :
    Decimal.withoutPoint (p.sign ++ p.body) =
      (p.sign ++ (p.whole ++ p.fraction), p.fraction.length) := by
  have hBefore : '.' ∉ p.sign ++ p.whole := by
    rw [List.mem_append, not_or]
    exact ⟨p.not_mem_sign (by decide), p.whole_digits.not_mem rfl⟩
  rw [Decimal.withoutPoint, body, ← List.append_assoc]
  split_ifs with hNone
  · rw [List.append_nil, splitOnce_of_not_mem hBefore, hNone, List.append_nil]
    rfl
  · rw [splitOnce_append hBefore]
    obtain ⟨c, rest, hFraction⟩ := List.exists_cons_of_ne_nil hNone
    have hPlaces := p.fraction_digits.filter_eq_self
    rw [hFraction] at hPlaces ⊢
    simp only [hPlaces, List.append_assoc]

/-- Digits without separators are read like any other digits. -/
theorem readGrouped?_of_digits {cs : List Char} (h : Digits cs) (hSome : cs ≠ []) :
    Decimal.readGrouped? cs = some (Nat.ofDigitChars 10 cs 0) := by
  unfold Decimal.readGrouped?
  split
  · exact absurd rfl hSome
  · cases h '_' (List.mem_cons_self ..)
  · rw [h.filter_eq_self, readDigits?_eq h hSome]

/-- The digits behind the sign are read as a number of that sign. -/
theorem readInteger?_digits :
    Decimal.readInteger? (p.sign ++ (p.whole ++ p.fraction)) = some p.unscaled := by
  have hRead := readGrouped?_of_digits p.digits
    (List.append_ne_nil_of_left_ne_nil p.whole_ne_nil p.fraction)
  rw [sign, unscaled, magnitude]
  split
  · rw [List.singleton_append, Decimal.readInteger?, hRead]
    rfl
  · have hDigits := p.digits
    rw [List.nil_append]
    generalize p.whole ++ p.fraction = cs at hRead hDigits
    unfold Decimal.readInteger?
    split
    · cases hDigits '-' (List.mem_cons_self ..)
    · cases hDigits '+' (List.mem_cons_self ..)
    · rw [hRead]
      rfl

theorem guard_bind {α : Type} {c : Prop} [Decidable c] (h : c) (f : Unit → Option α) :
    (guard c >>= f) = f () := by
  rw [guard, if_pos h]
  rfl

/-- Without an exponent, the places of a number are those behind its point, as
long as they fit sixty-four bits. -/
theorem readScaled?_of_withoutPoint {cs digits : List Char} {places : Nat} {unscaled : Int}
    (hMarks : ∀ c ∈ cs, (!(c == 'e' || c == 'E')) = true)
    (hPoint : Decimal.withoutPoint cs = (digits, places))
    (hRead : Decimal.readInteger? digits = some unscaled) (hPlaces : places < Nat.pow 2 63) :
    Decimal.readScaled? cs = some (unscaled, (places : Int)) := by
  -- The bound is a variable here, so that nothing evaluates the power.
  have hScale : ∀ bound : Nat, places < bound →
      -(bound : Int) ≤ (places : Int) - 0 ∧ (places : Int) - 0 < bound := by
    intro bound hBound
    omega
  rw [Decimal.readScaled?, List.takeWhile_eq_self_iff.mpr hMarks,
    List.dropWhile_eq_nil_iff.mpr hMarks, hPoint]
  refine (Option.bind_some 0 _).trans ?_
  dsimp only
  rw [guard_bind (hScale _ hPlaces), hRead, Int.sub_zero]
  rfl

/-- A number in positional notation is read with its digits and its places.
Zeros at its end count as places. -/
theorem parse_text (h : p.fraction.length ≤ maxExponent) :
    Decimal.parse p.text = .ok ⟨p.unscaled, p.fraction.length, h⟩ := by
  have hPlaces : p.fraction.length < Nat.pow 2 63 := Nat.lt_of_le_of_lt h (by decide)
  have hRead := readScaled?_of_withoutPoint (fun c => p.not_mark) p.withoutPoint_chars
    p.readInteger?_digits hPlaces
  rw [Decimal.parse, text, String.toList_ofList, p.trim_chars, hRead]
  simp only [Decimal.ofScaled?, Int.natAbs_natCast, h, dite_true]

end Positional

namespace Decimal

open Text

/-- The rational number that a value denotes. -/
def number (d : Decimal) : ℚ := d.unscaled * 10 ^ (-d.scale)

/-- At any number of places that is not smaller than its own, a decimal is an
integer with zeros behind it. -/
theorem number_mul_pow (d : Decimal) {places : Int} (h : d.scale ≤ places) :
    d.number * 10 ^ places = (d.unscaled * Nat.pow 10 (places - d.scale).toNat : Int) := by
  have hSplit : (-d.scale + places : Int) = ((places - d.scale).toNat : Int) := by omega
  rw [number, mul_assoc, ← zpow_add₀ (by decide), hSplit, zpow_natCast, Nat.pow_eq]
  push_cast
  rfl

/-- Values are compared as the numbers they denote, so the number of places does
not matter. -/
theorem sameNumber_iff (d e : Decimal) : d.sameNumber e = true ↔ d.number = e.number := by
  have hLeft := d.number_mul_pow (Int.le_max_left d.scale e.scale)
  have hRight := e.number_mul_pow (Int.le_max_right d.scale e.scale)
  have hFirst : (max d.scale e.scale - d.scale).toNat = (e.scale - d.scale).toNat := by omega
  have hSecond : (max d.scale e.scale - e.scale).toNat = (d.scale - e.scale).toNat := by omega
  rw [hFirst] at hLeft
  rw [hSecond] at hRight
  have hPower : (10 : ℚ) ^ max d.scale e.scale ≠ 0 := zpow_ne_zero _ (by decide)
  rw [sameNumber, beq_iff_eq, ← Rat.intCast_inj, ← hLeft, ← hRight, mul_left_inj' hPower]

/-- Only zero is written with a leading zero. -/
theorem toDigits_of_lead {n : Nat} (h : (Nat.toDigits 10 n).head? = some '0') :
    Nat.toDigits 10 n = ['0'] := by
  rcases Nat.eq_zero_or_pos n with rfl | hPos
  · exact Nat.toDigits_zero 10
  · exact absurd h (head?_toDigits hPos)

section Body

variable (negative : Bool) (n : Nat)

/-- An integer with a power of ten written out. No zeros follow a zero. -/
theorem exists_body_whole (zeros : Nat) :
    ∃ p : Positional, p.negative = negative ∧
      p.body = (if Nat.toDigits 10 n = ['0'] then Nat.toDigits 10 n
        else Nat.toDigits 10 n ++ List.replicate zeros '0') ∧
      p.fraction.length = 0 ∧ p.magnitude = n * 10 ^ zeros := by
  have hSome : Nat.toDigits 10 n ≠ [] := Nat.toDigits_ne_nil
  have hValue : Nat.ofDigitChars 10 (Nat.toDigits 10 n) 0 = n := Nat.ofDigitChars_ten_toDigits
  split_ifs with hZero
  · refine ⟨⟨negative, Nat.toDigits 10 n, [], hSome, isDigit_toDigits n, by simp [Digits],
      fun _ => hZero⟩, rfl, by simp [Positional.body], rfl, ?_⟩
    have hn : n = 0 := by rw [← hValue, hZero]; rfl
    rw [Positional.magnitude, List.append_nil, hValue, hn, Nat.zero_mul]
  · refine ⟨⟨negative, Nat.toDigits 10 n ++ List.replicate zeros '0', [], by simp [hSome],
      Digits.append (isDigit_toDigits n) (isDigit_zeros _), by simp [Digits], ?_⟩, rfl,
      by simp [Positional.body], rfl, ?_⟩
    · rw [List.head?_append_of_ne_nil _ hSome]
      exact fun hHead => absurd (toDigits_of_lead hHead) hZero
    · rw [Positional.magnitude, List.append_nil, Nat.ofDigitChars_append, hValue,
        Nat.ofDigitChars_replicate_zero, Nat.mul_comm]

/-- A number with more digits than places is cut in front of its places. The
part before the point has no leading zero. -/
theorem exists_body_cut {places : Nat} (hPlaces : 0 < places)
    (hMore : places < (Nat.toDigits 10 n).length) :
    ∃ p : Positional, p.negative = negative ∧
      p.body = (Nat.toDigits 10 n).take ((Nat.toDigits 10 n).length - places) ++
        '.' :: (Nat.toDigits 10 n).drop ((Nat.toDigits 10 n).length - places) ∧
      p.fraction.length = places ∧ p.magnitude = n := by
  have hValue : Nat.ofDigitChars 10 (Nat.toDigits 10 n) 0 = n := Nat.ofDigitChars_ten_toDigits
  have hDigits : Digits (Nat.toDigits 10 n) := isDigit_toDigits n
  have hLead := toDigits_of_lead (n := n)
  generalize Nat.toDigits 10 n = digits at *
  have hCut : (digits.drop (digits.length - places)).length = places := by
    rw [List.length_drop]
    omega
  have hSome : digits.drop (digits.length - places) ≠ [] := by
    rw [← List.length_pos_iff]
    omega
  refine ⟨⟨negative, digits.take (digits.length - places), digits.drop (digits.length - places),
    ?_, fun c hc => hDigits c (List.mem_of_mem_take hc),
    fun c hc => hDigits c (List.mem_of_mem_drop hc), ?_⟩, rfl, ?_, hCut, ?_⟩
  · rw [← List.length_pos_iff, List.length_take]
    omega
  · -- The only digits that a zero leads are too few for a place to be cut off.
    rw [List.head?_take, if_neg (by omega)]
    intro hHead
    rw [hLead hHead, List.length_singleton] at hMore
    omega
  · simp only [Positional.body, if_neg hSome]
  · rw [Positional.magnitude, List.take_append_drop, hValue]

/-- A number with no more digits than places stands behind a zero and its
point. -/
theorem exists_body_fraction {places : Nat} (hFew : (Nat.toDigits 10 n).length ≤ places) :
    ∃ p : Positional, p.negative = negative ∧
      p.body = '0' :: '.' :: (List.replicate (places - (Nat.toDigits 10 n).length) '0' ++
        Nat.toDigits 10 n) ∧
      p.fraction.length = places ∧ p.magnitude = n := by
  have hValue : Nat.ofDigitChars 10 (Nat.toDigits 10 n) 0 = n := Nat.ofDigitChars_ten_toDigits
  have hDigits : Digits (Nat.toDigits 10 n) := isDigit_toDigits n
  have hSome : ∀ zeros, List.replicate zeros '0' ++ Nat.toDigits 10 n ≠ [] :=
    fun zeros => List.append_ne_nil_of_right_ne_nil _ Nat.toDigits_ne_nil
  generalize Nat.toDigits 10 n = digits at *
  refine ⟨⟨negative, ['0'], List.replicate (places - digits.length) '0' ++ digits,
    List.cons_ne_nil _ _, isDigit_zeros 1, Digits.append (isDigit_zeros _) hDigits,
    fun _ => rfl⟩, rfl, ?_, ?_, ?_⟩
  · simp only [Positional.body, if_neg (hSome _), List.singleton_append]
  · rw [List.length_append, List.length_replicate]
    omega
  · show Nat.ofDigitChars 10 (List.replicate (places - digits.length + 1) '0' ++ digits) 0 = n
    rw [Nat.ofDigitChars_append, Nat.ofDigitChars_replicate_zero, Nat.mul_zero, hValue]

/-- The digits of a magnitude are in positional notation with the given places.
The zeros that are written out are a power of ten. -/
theorem exists_body (scale : Int) :
    ∃ p : Positional, p.negative = negative ∧ p.body = plainDigits (Nat.toDigits 10 n) scale ∧
      p.fraction.length = scale.toNat ∧ p.magnitude = n * 10 ^ (-scale).toNat := by
  rw [plainDigits]
  by_cases hScale : scale ≤ 0
  · rw [if_pos hScale, Int.toNat_of_nonpos hScale]
    exact exists_body_whole negative n _
  · have hPower : n * 10 ^ (-scale).toNat = n := by
      rw [Int.toNat_of_nonpos (by omega), Nat.pow_zero, Nat.mul_one]
    rw [if_neg hScale, hPower]
    by_cases hMore : scale.toNat < (Nat.toDigits 10 n).length
    · simpa only [if_pos hMore] using exists_body_cut negative n (by omega) hMore
    · simpa only [if_neg hMore] using exists_body_fraction negative n (Nat.not_lt.mp hMore)

end Body

/-- The sign can be put back after the magnitude was scaled. -/
theorem signed_natAbs (u : Int) (power : Nat) :
    (if u < 0 then -((u.natAbs * power : Nat) : Int) else (u.natAbs * power : Nat)) =
      u * power := by
  rw [Int.natCast_mul]
  split
  · rw [Int.ofNat_natAbs_of_nonpos (by omega), Int.neg_mul, Int.neg_neg]
  · rw [Int.natAbs_of_nonneg (by omega)]

/-- The text of a value is in positional notation with the places of the value.
Its digits are those of the integer that the value stores, with a power of ten
written out. -/
theorem exists_positional (d : Decimal) :
    ∃ p : Positional, d.plainText = p.text ∧ p.negative = decide (d.unscaled < 0) ∧
      p.fraction.length = d.scale.toNat ∧
      p.unscaled = d.unscaled * ((10 ^ (-d.scale).toNat : Nat) : Int) := by
  obtain ⟨p, hSign, hBody, hPlaces, hMagnitude⟩ :=
    exists_body (decide (d.unscaled < 0)) d.unscaled.natAbs d.scale
  refine ⟨p, ?_, hSign, hPlaces, ?_⟩
  · rw [Positional.text, Positional.sign, hBody, hSign, plainText, signDigits]
    simp only [decide_eq_true_eq]
  · rw [Positional.unscaled, hMagnitude, hSign, ← signed_natAbs]
    simp only [decide_eq_true_eq]

/-- The text of a decimal value has an integer part without redundant zeros and
a digit for each place, and the text is read back as the same number. The value
itself comes back unless it stands for a multiple of a power of ten, of which
the zeros are digits of the text. -/
theorem parse_plainText (d : Decimal) :
    (∃ p : Positional, d.plainText = p.text ∧ (p.negative = true ↔ d.unscaled < 0) ∧
      p.fraction.length = d.scale.toNat) ∧
    ∃ e, parse d.plainText = .ok e ∧ e.number = d.number ∧ e.sameNumber d = true ∧
      (0 ≤ d.scale → e = d) ∧
      (d.scale < 0 → e.unscaled = d.unscaled * 10 ^ (-d.scale).toNat ∧ e.scale = 0) := by
  obtain ⟨p, hText, hSign, hPlaces, hUnscaled⟩ := exists_positional d
  have hBound : p.fraction.length ≤ maxExponent := by
    have hScale := d.bounded
    omega
  have hParse := p.parse_text hBound
  rw [← hText] at hParse
  refine ⟨⟨p, hText, by rw [hSign, decide_eq_true_eq], hPlaces⟩, _, hParse, ?_⟩
  rw [← sameNumber_iff]
  have hSame : sameNumber ⟨p.unscaled, p.fraction.length, hBound⟩ d = true := by
    have hLess : (d.scale - d.scale.toNat).toNat = 0 := by omega
    have hMore : ((d.scale.toNat : Int) - d.scale).toNat = (-d.scale).toNat := by omega
    simp only [sameNumber, hUnscaled, hPlaces, hLess, hMore, beq_iff_eq, Nat.pow_eq, Nat.pow_zero,
      Nat.cast_one, mul_one]
  refine ⟨hSame, hSame, fun hScale => ?_, fun hScale => ?_⟩
  · have hPower : (-d.scale).toNat = 0 := by omega
    have hStored : (p.fraction.length : Int) = d.scale := by omega
    rw [hPower, Nat.pow_zero, Int.natCast_one, Int.mul_one] at hUnscaled
    simp only [hUnscaled, hStored]
  · have hNone : (p.fraction.length : Int) = 0 := by omega
    refine ⟨?_, hNone⟩
    rw [hUnscaled]
    push_cast
    rfl

end Decimal

end SqlStatements
