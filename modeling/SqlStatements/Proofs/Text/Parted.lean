import SqlStatements.Proofs.Text.Lacks

/-! Texts in which minus signs stand apart. Two of them in a row begin a comment, so a text
is safe to be followed by any other if each minus sign in it is followed by something else.
Numbers begin with a digit behind their sign, if they have one. -/
namespace SqlStatements.Text

/-- Each minus sign is followed by another character. -/
def parted : List Char → Bool
  | [] => true
  | c :: cs => (c != '-' || cs.head?.any (· != '-')) && parted cs

/-- Each minus sign of the text is followed by another character. -/
def Parted (x : String) : Prop := parted x.toList = true

instance (x : String) : Decidable (Parted x) := inferInstanceAs (Decidable (_ = true))

/-- Whether the text begins with a minus sign; nothing is said about the empty
text. -/
def leads (x : String) : Option Bool := x.toList.head?.map (· == '-')

/-- The text begins with a digit, and minus signs in it stand apart. -/
def Unsigned (x : String) : Prop :=
  Parted x ∧ ∃ digit rest, x.toList = digit :: rest ∧ digit.isDigit = true

def minus (negative : Bool) : String := if negative then "-" else ""

section Lists

variable {c : Char} {cs ds : List Char}

/-- Texts whose minus signs stand apart keep them apart when one follows the
other. -/
theorem parted_append (hcs : parted cs = true) (hds : parted ds = true) :
    parted (cs ++ ds) = true := by
  induction cs with
  | nil => exact hds
  | cons c cs ih =>
      rw [parted, Bool.and_eq_true] at hcs
      rw [List.cons_append, parted, Bool.and_eq_true]
      refine ⟨?_, ih hcs.2⟩
      -- A minus sign is not the last of its text, so what follows it does not change.
      cases cs with
      | nil =>
          have hLast : c ≠ '-' := by simpa using hcs.1
          simp [hLast]
      | cons d cs => exact hcs.1

theorem parted_of_not_mem (h : '-' ∉ cs) : parted cs = true := by
  induction cs with
  | nil => rfl
  | cons c cs ih =>
      rw [List.mem_cons, not_or] at h
      simp [parted, ih h.2, Ne.symm h.1]

theorem parted_minus (h : parted (c :: cs) = true) (hc : c ≠ '-') :
    parted ('-' :: c :: cs) = true := by
  rw [parted, h]
  simpa using hc

/-- Doubling another character leaves minus signs apart. -/
theorem parted_double {mark : Char} (hMark : mark ≠ '-') (h : parted cs = true) :
    parted (double mark cs) = true := by
  induction cs with
  | nil => rfl
  | cons c cs ih =>
      rw [parted, Bool.and_eq_true] at h
      rw [double]
      split
      · simp [parted, hMark, ih h.2]
      · rw [parted, ih h.2, Bool.and_true]
        cases cs with
        | nil => exact h.1
        | cons d cs =>
            rw [double]
            split
            · simp [hMark]
            · exact h.1

/-- Two minus signs in a row do not stand apart. So a text whose minus signs do
has no comment in it. -/
theorem not_infix_of_parted (h : parted cs = true) : ¬['-', '-'] <:+: cs := by
  rintro ⟨front, back, rfl⟩
  induction front with
  | nil => simp [parted] at h
  | cons c front ih =>
      rw [List.cons_append, List.cons_append, parted, Bool.and_eq_true] at h
      exact ih h.2

end Lists

variable {x y : String}

theorem Parted.append (hx : Parted x) (hy : Parted y) : Parted (x ++ y) := by
  rw [Parted, String.toList_append]
  exact parted_append hx hy

theorem Lacks.parted (h : Lacks '-' x) : Parted x := parted_of_not_mem h

theorem parted_ofList {cs : List Char} : Parted (String.ofList cs) ↔ parted cs = true := by
  rw [Parted, String.toList_ofList]

theorem sign_minus : Sign '-' := by decide

/-- What a text begins with is not changed by what follows, unless the text is
empty. -/
theorem leads_append {b : Bool} (h : leads x = some b) : leads (x ++ y) = some b := by
  rw [leads] at h ⊢
  rw [String.toList_append]
  cases hList : x.toList with
  | nil => simp [hList] at h
  | cons c cs => simpa [hList] using h

/-- A text without minus signs begins with something else, unless it is
empty. -/
theorem Lacks.leads (h : Lacks '-' x) (hx : x ≠ "") : leads x = some false := by
  rw [Text.leads]
  cases hList : x.toList with
  | nil => exact absurd (String.toList_eq_nil_iff.mp hList) hx
  | cons c cs =>
      rw [Lacks, hList, List.mem_cons, not_or] at h
      simpa using Ne.symm h.1

/-- A minus sign may stand in front of what begins with another character. -/
theorem Parted.behind (h : Parted x) (hLeads : leads x = some false) : Parted ("-" ++ x) := by
  rw [leads] at hLeads
  rw [Parted] at h ⊢
  rw [String.toList_append]
  cases hList : x.toList with
  | nil => simp [hList] at hLeads
  | cons c cs =>
      rw [hList] at h hLeads
      exact parted_minus h (by simpa using hLeads)

/-- In front of another minus sign it makes a pair. -/
theorem infix_minus (h : leads x = some true) : ['-', '-'] <:+: ("-" ++ x).toList := by
  rw [leads] at h
  rw [String.toList_append]
  cases hList : x.toList with
  | nil => simp [hList] at h
  | cons c cs =>
      rw [hList] at h
      obtain rfl : c = '-' := by simpa using h
      exact (List.prefix_append ['-', '-'] cs).isInfix

theorem parted_quoteString (h : Parted x) : Parted (quoteString x) := by
  rw [quoteString, parted_ofList]
  have hMark : '\'' ≠ '-' := by decide
  have hBody := parted_append (parted_double hMark h) (show parted ['\''] = true by decide)
  rw [parted, hBody]
  rfl

namespace Unsigned

/-- A digit stays in front, whatever is put behind it. -/
theorem append (hx : Unsigned x) (hy : Parted y) : Unsigned (x ++ y) := by
  obtain ⟨hParted, digit, rest, hList, hDigit⟩ := hx
  refine ⟨hParted.append hy, digit, rest ++ y.toList, ?_, hDigit⟩
  rw [String.toList_append, hList, List.cons_append]

/-- A number with its sign. -/
theorem signed (hx : Unsigned x) (negative : Bool) : Parted (minus negative ++ x) := by
  obtain ⟨hParted, digit, rest, hList, hDigit⟩ := hx
  cases negative with
  | false => exact hParted
  | true =>
      rw [Parted, hList] at hParted
      rw [Parted, String.toList_append, hList]
      refine parted_minus hParted ?_
      rintro rfl
      cases hDigit

end Unsigned

theorem unsigned_ofList {cs : List Char} (h : cs ≠ []) (hDigits : ∀ c ∈ cs, c.isDigit = true) :
    Unsigned (String.ofList cs) := by
  refine ⟨parted_ofList.mpr (parted_of_not_mem fun hMem => ?_), ?_⟩
  · cases hDigits _ hMem
  · obtain ⟨digit, rest, rfl⟩ := List.exists_cons_of_ne_nil h
    exact ⟨digit, rest, String.toList_ofList .., hDigits _ (List.mem_cons_self ..)⟩

theorem isDigit_toDigits (n : Nat) : ∀ c ∈ Nat.toDigits 10 n, c.isDigit = true :=
  fun _ hc => Nat.isDigit_of_mem_toDigits (by decide) (by decide) hc

theorem unsigned_nat (n : Nat) : Unsigned n.repr := by
  rw [← String.ofList_toList (s := n.repr), Nat.toList_repr]
  exact unsigned_ofList Nat.toDigits_ne_nil (isDigit_toDigits n)

theorem unsigned_padded (width n : Nat) : Unsigned (padded width n) := by
  refine unsigned_ofList (List.append_ne_nil_of_right_ne_nil _ Nat.toDigits_ne_nil) ?_
  refine List.forall_mem_append.mpr ⟨fun c hc => ?_, isDigit_toDigits n⟩
  rw [List.eq_of_mem_replicate hc]
  rfl

end SqlStatements.Text

namespace SqlStatements

open Text

/-- A number as written: its sign and the text of its magnitude. -/
def Text.Numeral (negative : Bool) (x : String) : Prop :=
  ∃ magnitude, x = minus negative ++ magnitude ∧ Unsigned magnitude

/-- The sign of a number is followed by a digit. -/
theorem Text.Numeral.parted {negative : Bool} {x : String} (h : Numeral negative x) :
    Parted x := by
  obtain ⟨magnitude, rfl, hMagnitude⟩ := h
  exact hMagnitude.signed negative

/-- An integer is written with a sign exactly if it is negative. -/
theorem numeral_int (n : Int) : Numeral (n < 0) (toString n) := by
  cases n with
  | ofNat n => exact ⟨n.repr, rfl, unsigned_nat n⟩
  | negSucc n =>
      rw [decide_eq_true (Int.negSucc_lt_zero n)]
      exact ⟨n.succ.repr, rfl, unsigned_nat n.succ⟩

theorem parted_digits {cs : List Char} (h : ∀ c ∈ cs, c.isDigit = true) :
    Parted (String.ofList cs) :=
  parted_ofList.mpr (parted_of_not_mem fun hMem => by cases h _ hMem)

theorem unsigned_zeroPoint : Unsigned "0." := ⟨by decide, '0', ['.'], rfl, rfl⟩

theorem isDigit_zeros (n : Nat) : ∀ c ∈ List.replicate n '0', c.isDigit = true := by
  intro c hc
  rw [List.eq_of_mem_replicate hc]
  rfl

namespace Double

/-- The magnitude of a double in positional notation begins with a digit, also
below one. -/
theorem unsigned_positional (s : Shortest.Scientific) : Unsigned (positional ".0" s) := by
  have hDigits := isDigit_toDigits s.digits
  simp only [positional]
  split
  · exact (unsigned_ofList (List.append_ne_nil_of_left_ne_nil Nat.toDigits_ne_nil _)
      (List.forall_mem_append.mpr ⟨hDigits, isDigit_zeros _⟩)).append (by decide)
  · split
    · rename_i hPoint
      refine ((unsigned_ofList ?_ fun c hc => hDigits c (List.mem_of_mem_take hc)).append
        (by decide)).append (parted_digits fun c hc => hDigits c (List.mem_of_mem_drop hc))
      rw [Ne, List.take_eq_nil_iff]
      have hSome := Nat.toDigits_ne_nil (n := s.digits) (b := 10)
      rintro (hNone | hNone)
      · omega
      · exact hSome hNone
    · exact unsigned_zeroPoint.append
        (parted_digits (List.forall_mem_append.mpr ⟨isDigit_zeros _, hDigits⟩))

/-- With an exponent it does too. A minus sign in the exponent is followed by
its digits. -/
theorem unsigned_exponential (s : Shortest.Scientific) : Unsigned (exponential s) := by
  have hDigits := isDigit_toDigits s.digits
  have hFirst : Unsigned (String.ofList ((Nat.toDigits 10 s.digits).take 1)) := by
    refine unsigned_ofList ?_ fun c hc => hDigits c (List.mem_of_mem_take hc)
    rw [Ne, List.take_eq_nil_iff]
    rintro (hNone | hNone)
    · cases hNone
    · exact Nat.toDigits_ne_nil hNone
  have hFraction : Parted (if (Nat.toDigits 10 s.digits).length ≤ 1 then ""
      else "." ++ String.ofList ((Nat.toDigits 10 s.digits).drop 1)) := by
    split
    · decide
    · exact Parted.append (by decide)
        (parted_digits fun c hc => hDigits c (List.mem_of_mem_drop hc))
  exact ((hFirst.append hFraction).append (by decide)).append (numeral_int _).parted

/-- A finite number is written as a numeral, whose sign is that of the number,
negative zero included. -/
theorem numeral_literalText {x : Double} (h : x.isFinite = true) :
    Numeral x.isNegative x.literalText := by
  rw [literalText, if_pos h]
  split
  · exact ⟨"0.0", rfl, by decide, '0', ['.', '0'], rfl, rfl⟩
  · simp only
    split
    · exact ⟨_, rfl, unsigned_positional _⟩
    · exact ⟨_, rfl, unsigned_exponential _⟩

end Double

namespace Decimal

theorem unsigned_plainDigits (n : Nat) (scale : Int) :
    Unsigned (String.ofList (plainDigits (Nat.toDigits 10 n) scale)) := by
  have hDigits := isDigit_toDigits n
  rw [plainDigits]
  split
  · split
    · exact unsigned_ofList Nat.toDigits_ne_nil hDigits
    · exact unsigned_ofList (List.append_ne_nil_of_left_ne_nil Nat.toDigits_ne_nil _)
        (List.forall_mem_append.mpr ⟨hDigits, isDigit_zeros _⟩)
  · simp only
    split
    · rw [String.ofList_append]
      refine (unsigned_ofList ?_ fun c hc => hDigits c (List.mem_of_mem_take hc)).append ?_
      · rw [Ne, List.take_eq_nil_iff]
        rintro (hNone | hNone)
        · omega
        · exact Nat.toDigits_ne_nil hNone
      · rw [parted_ofList]
        exact parted_append (show parted ['.'] = true by decide)
          (parted_of_not_mem fun hMem => by cases hDigits _ (List.mem_of_mem_drop hMem))
    · rw [show ∀ cs : List Char, '0' :: '.' :: cs = ['0', '.'] ++ cs from fun _ => rfl,
        String.ofList_append]
      exact unsigned_zeroPoint.append
        (parted_digits (List.forall_mem_append.mpr ⟨isDigit_zeros _, hDigits⟩))

/-- A decimal is written with a sign exactly if its digits are negative, so a
zero has none. -/
theorem numeral_plainText (d : Decimal) : Numeral (d.unscaled < 0) d.plainText := by
  refine ⟨_, ?_, unsigned_plainDigits d.unscaled.natAbs d.scale⟩
  rw [plainText, String.ofList_append, signDigits]
  by_cases hSign : d.unscaled < 0
  · rw [if_pos hSign, decide_eq_true hSign]
    rfl
  · rw [if_neg hSign, decide_eq_false hSign]
    rfl

end Decimal

section Dates

/-- The hyphens of a day stand between digits, and a sign of its year in front
of them. -/
theorem parted_date (d : Date) : Parted d.text := by
  have hYear : Unsigned (Text.padded 4 d.year.natAbs) := unsigned_padded ..
  have hMonth : Parted ("-" ++ Text.padded 2 d.month) := (unsigned_padded 2 d.month).signed true
  have hDay : Parted ("-" ++ Text.padded 2 d.day) := (unsigned_padded 2 d.day).signed true
  have hText : d.text = yearText d.year ++ ("-" ++ Text.padded 2 d.month) ++
      ("-" ++ Text.padded 2 d.day) := by
    simp only [Date.text, String.append_assoc]
  rw [hText, yearText]
  refine Parted.append (Parted.append ?_ hMonth) hDay
  split
  · exact hYear.signed true
  · split
    · exact Parted.append (by decide) (numeral_int _).parted
    · exact hYear.1

theorem parted_clock (t : TimeOfDay) : Parted t.clockText :=
  (((((unsigned_padded 2 t.hour).append (by decide)).append (unsigned_padded 2 t.minute).1).append
    (by decide)).append (unsigned_padded 2 _).1).1

theorem parted_time (t : TimeOfDay) : Parted t.text := by
  refine (parted_clock t).append ?_
  have hDigits : ∀ width n, Parted ("." ++ Text.padded width n) := fun width n =>
    Parted.append (by decide) (unsigned_padded width n).1
  simp only [TimeOfDay.fractionText]
  split
  · decide
  · split
    · exact hDigits _ _
    · split <;> exact hDigits _ _

theorem parted_dateTime (t : DateTime) : Parted t.text :=
  ((parted_date t.date).append (by decide)).append (parted_time t.time)

theorem parted_dateTimeClock (t : DateTime) : Parted t.clockText :=
  ((parted_date t.date).append (by decide)).append (parted_clock t.time)

end Dates

end SqlStatements
