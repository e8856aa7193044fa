import SqlStatements.Proofs.Ledger.Step
import SqlStatements.Proofs.Text.Lacks

/-! Texts without question marks. Numbers and dates have none, and names and
string literals have none but those of the text they are made from. So in a
statement whose own texts have none, every question mark is a placeholder. -/
namespace SqlStatements

namespace Text

/-- A question mark is no part of names and literals by themselves. -/
theorem sign_questionMark : Sign '?' := by decide

@[simp] theorem not_mem_digits (n : Nat) : '?' ∉ Nat.toDigits 10 n :=
  not_mem_toDigits sign_questionMark.alphanum n

@[simp] theorem unmarked_nat (n : Nat) : Lacks '?' n.repr := lacks_nat sign_questionMark.alphanum n

@[simp] theorem unmarked_int (n : Int) : Lacks '?' n.repr := by
  cases n with
  | ofNat n => exact unmarked_nat n
  | negSucc n => exact lacks_append.mpr ⟨by decide, unmarked_nat n.succ⟩

@[simp] theorem unmarked_padded (width n : Nat) : Lacks '?' (padded width n) := by
  simp [padded]

@[simp] theorem not_mem_hex (capitals : Bool) (bytes : List UInt8) : '?' ∉ hex capitals bytes :=
  not_mem_hexDigits sign_questionMark.alphanum capitals bytes

end Text

open Text

section Numbers

@[simp] theorem unmarked_date (d : Date) : Lacks '?' d.text := by
  have hYear : Lacks '?' (yearText d.year) := by
    rw [yearText]
    split
    · simp +decide
    · split <;> simp +decide
  simp +decide [Date.text, hYear]

@[simp] theorem unmarked_clock (t : TimeOfDay) : Lacks '?' t.clockText := by
  simp +decide [TimeOfDay.clockText]

@[simp] theorem unmarked_time (t : TimeOfDay) : Lacks '?' t.text := by
  have hFraction : Lacks '?' t.fractionText := by
    simp only [TimeOfDay.fractionText]
    split
    · decide
    · split
      · simp +decide
      · split <;> simp +decide
  simp [TimeOfDay.text, hFraction]

@[simp] theorem unmarked_dateTime (t : DateTime) : Lacks '?' t.text := by
  simp +decide [DateTime.text]

@[simp] theorem unmarked_dateTimeClock (t : DateTime) : Lacks '?' t.clockText := by
  simp +decide [DateTime.clockText]

theorem Decimal.not_mem_plainDigits {digits : List Char} (scale : Int) (h : '?' ∉ digits) :
    '?' ∉ plainDigits digits scale := by
  have hTake : ∀ n, '?' ∉ digits.take n := fun n hMem => h (List.mem_of_mem_take hMem)
  have hDrop : ∀ n, '?' ∉ digits.drop n := fun n hMem => h (List.mem_of_mem_drop hMem)
  rw [plainDigits]
  split
  · split
    · exact h
    · simp [h]
  · simp only
    split <;> simp [h, hTake, hDrop]

@[simp] theorem unmarked_decimal (d : Decimal) : Lacks '?' d.plainText := by
  have hSign : '?' ∉ Decimal.signDigits d.unscaled := by
    rw [Decimal.signDigits]
    split <;> decide
  simp [Decimal.plainText, hSign, Decimal.not_mem_plainDigits]

@[simp] theorem unmarked_double (x : Double) : Lacks '?' x.literalText := by
  have hTake : ∀ n k, '?' ∉ (Nat.toDigits 10 n).take k := fun n k hMem =>
    not_mem_digits n (List.mem_of_mem_take hMem)
  have hDrop : ∀ n k, '?' ∉ (Nat.toDigits 10 n).drop k := fun n k hMem =>
    not_mem_digits n (List.mem_of_mem_drop hMem)
  have hSign : Lacks '?' x.signText := by
    rw [Double.signText]
    split <;> decide
  have hPositional : ∀ s, Lacks '?' (Double.positional ".0" s) := by
    intro s
    simp only [Double.positional]
    split
    · simp +decide
    · split <;> simp +decide [hTake, hDrop]
  have hExponential : ∀ s, Lacks '?' (Double.exponential s) := by
    intro s
    simp only [Double.exponential]
    split
    · simp +decide [hTake]
    · simp +decide only [lacks_append, lacks_ofList, hTake, hDrop, not_false_eq_true,
        true_and]
      exact unmarked_int _
  have hSpecial : Lacks '?' x.specialText := by
    rw [Double.specialText]
    split
    · decide
    · simp +decide [hSign]
  rw [Double.literalText]
  split
  · split
    · simp +decide [hSign]
    · simp only
      split
      · simp [hSign, hPositional]
      · simp [hSign, hExponential]
  · exact hSpecial

end Numbers

end SqlStatements
