import SqlStatements.Proofs.Operators.Grammar

/-! A reader for the grammar of operators. It reads an operand one level up and
then extends it for as long as tokens of its own level follow. Since the reader
finds every formula that the grammar allows, the tokens of one formula are the
tokens of no other. -/
namespace SqlStatements

/-- With enough fuel, a run ends with a result and does so from then on. -/
def Settles {α : Type} (run : Nat → Option α) (a : α) : Prop :=
  ∃ k, ∀ fuel, k ≤ fuel → run fuel = some a

namespace Settles

variable {α β : Type} {run : Nat → Option α} {a b : α}

/-- A run settles on one result only. -/
theorem unique (h : Settles run a) (h' : Settles run b) : a = b := by
  obtain ⟨k, hk⟩ := h
  obtain ⟨k', hk'⟩ := h'
  have hSame := (hk (max k k') (by omega)).symm.trans (hk' (max k k') (by omega))
  exact Option.some.inj hSame

theorem const : Settles (fun _ => some a) a := ⟨0, fun _ _ => rfl⟩

theorem of_succ (h : Settles (fun fuel => run (fuel + 1)) a) : Settles run a := by
  obtain ⟨k, hk⟩ := h
  refine ⟨k + 1, ?_⟩
  intro fuel hFuel
  obtain ⟨fuel, rfl⟩ := Nat.exists_eq_add_of_le' (show 1 ≤ fuel by omega)
  exact hk fuel (by omega)

/-- Runs one after the other settle if each of them does; the larger amount of
fuel is enough for both. -/
theorem bind {continuation : Nat → α → Option β} {b : β} (h : Settles run a)
    (hNext : Settles (fun fuel => continuation fuel a) b) :
    Settles (fun fuel => (run fuel).bind (continuation fuel)) b := by
  obtain ⟨k, hk⟩ := h
  obtain ⟨k', hk'⟩ := hNext
  refine ⟨max k k', ?_⟩
  intro fuel hFuel
  have hRun := hk fuel (by omega)
  simp only [hRun, Option.bind_some]
  exact hk' fuel (by omega)

theorem map {continuation : α → β} (h : Settles run a) :
    Settles (fun fuel => (run fuel).map continuation) (continuation a) := by
  obtain ⟨k, hk⟩ := h
  refine ⟨k, ?_⟩
  intro fuel hFuel
  exact congrArg (Option.map continuation) (hk fuel hFuel)

end Settles

namespace Reader

def operator? (tok : Token) : Option BinaryOp :=
  BinaryOp.all.find? fun op => op.tokens = [tok]

/-- Takes off what may follow an operand. -/
def suffix? : List Token → Option (Suffix × List Token)
  | .keyword "IS" :: .keyword "NULL" :: ts => some (.isNull false, ts)
  | .keyword "IS" :: .keyword "NOT" :: .keyword "NULL" :: ts => some (.isNull true, ts)
  | .keyword "IN" :: .sign "(" :: ts => some (.inList false, ts)
  | .keyword "NOT" :: .keyword "IN" :: .sign "(" :: ts => some (.inList true, ts)
  | .keyword "BETWEEN" :: ts => some (.between false, ts)
  | .keyword "NOT" :: .keyword "BETWEEN" :: ts => some (.between true, ts)
  | .keyword "NOT" :: .keyword "LIKE" :: ts => some (.operator .notLike, ts)
  | tok :: ts => (operator? tok).map fun op => (.operator op, ts)
  | [] => none

/-- Takes off an operator in front of an operand. -/
def unary? : List Token → Option (UnaryOp × List Token)
  | .keyword "NOT" :: ts => some (.not, ts)
  | .sign "-" :: ts => some (.neg, ts)
  | .sign "~" :: ts => some (.bitNot, ts)
  | _ => none

def expect (tok : Token) : List Token → Option (List Token)
  | first :: ts => if first = tok then some ts else none
  | [] => none

mutual

/-- Reads a formula of a level: an operand, and then what extends it. -/
def read : (fuel : Nat) → Nat → List Token → Option (Formula String × List Token)
  | 0, _, _ => none
  | fuel + 1, n, ts =>
    (operand fuel n ts).bind fun r => extend fuel n r.1 r.2

/-- Reads an operand for a level. Where no operator of the level stands in front
of it, it is a formula of the next level. -/
def operand : (fuel : Nat) → Nat → List Token → Option (Formula String × List Token)
  | 0, _, _ => none
  | fuel + 1, n, ts =>
    match (unary? ts).filter fun r => r.1.level = n with
    | some (op, ts) => (read fuel n ts).map fun r => (.unary op r.1, r.2)
    | none => if n < 11 then read fuel (n + 1) ts else atom fuel ts

/-- Reads a name or a formula in parentheses. -/
def atom : (fuel : Nat) → List Token → Option (Formula String × List Token)
  | 0, _ => none
  | fuel + 1, ts =>
    match ts with
    | .name x :: ts => some (.leaf x, ts)
    | .sign "(" :: ts =>
      (read fuel 1 ts).bind fun r => (expect (.sign ")") r.2).map fun ts => (r.1, ts)
    | _ => none

/-- Extends a formula by what follows it on the same level. -/
def extend : (fuel : Nat) → Nat → Formula String → List Token →
    Option (Formula String × List Token)
  | 0, _, _, _ => none
  | fuel + 1, n, f, ts =>
    match (suffix? ts).filter fun r => r.1.level = n with
    | none => some (f, ts)
    | some (.operator op, ts) =>
      (read fuel (n + 1) ts).bind fun r => extend fuel n (.binary op f r.1) r.2
    | some (.isNull negated, ts) => extend fuel n (.isNull f negated) ts
    | some (.between negated, ts) =>
      (read fuel 5 ts).bind fun low => (expect (.keyword "AND") low.2).bind fun ts =>
        (read fuel 5 ts).bind fun high => extend fuel n (.between f low.1 high.1 negated) high.2
    | some (.inList negated, ts) =>
      (read fuel 1 ts).bind fun first => (others fuel first.2).bind fun rest =>
        extend fuel n (.inList f first.1 rest.1 negated) rest.2

/-- Reads the further members of a list up to its end. -/
def others : (fuel : Nat) → List Token → Option (List (Formula String) × List Token)
  | 0, _ => none
  | fuel + 1, ts =>
    match ts with
    | .sign ")" :: ts => some ([], ts)
    | .sign "," :: ts =>
      (read fuel 1 ts).bind fun f => (others fuel f.2).map fun rest => (f.1 :: rest.1, rest.2)
    | _ => none

end

variable {n : Nat} {ts rest : List Token} {f g : Formula String}
  {res : Formula String × List Token}

/-- What may follow an operand is recognised by its tokens, whatever comes
next. -/
theorem suffix?_tokens (i : Suffix) (ts : List Token) :
    suffix? (i.tokens ++ ts) = some (i, ts) := by
  cases i with
  | operator op => cases op <;> rfl
  | isNull negated => cases negated <;> rfl
  | inList negated => cases negated <;> rfl
  | between negated => cases negated <;> rfl

theorem unary?_sign (op : UnaryOp) (ts : List Token) : unary? (op.sign :: ts) = some (op, ts) := by
  cases op <;> rfl

/-- Nothing that follows belongs to a level above the given one. -/
def Stops (n : Nat) (ts : List Token) : Prop :=
  ∀ i rest, suffix? ts = some (i, rest) → i.level ≤ n

/-- What stops a level stops every tighter one. -/
theorem Stops.mono {m : Nat} (h : Stops m ts) (hLevel : m ≤ n) : Stops n ts :=
  fun i rest hRest => Nat.le_trans (h i rest hRest) hLevel

theorem stops_tokens (i : Suffix) (ts : List Token) : Stops i.level (i.tokens ++ ts) := by
  intro j rest h
  rw [suffix?_tokens] at h
  cases h
  exact Nat.le_refl _

theorem stops_of_none (h : suffix? ts = none) : Stops n ts := by
  intro i rest hRest
  rw [h] at hRest
  cases hRest

/-- A formula is not extended where the tokens belong to lower levels. -/
theorem extend_stop (h : ∀ i rest, suffix? ts = some (i, rest) → i.level ≠ n) :
    Settles (extend · n f ts) (f, ts) := by
  have hNone : (suffix? ts).filter (fun r => r.1.level = n) = none := by
    rw [Option.filter_eq_none_iff]
    intro r hr
    simpa using h r.1 r.2 hr
  apply Settles.of_succ
  simp only [extend, hNone]
  exact .const

theorem suffix?_filter (i : Suffix) (ts : List Token) :
    (suffix? (i.tokens ++ ts)).filter (fun r => r.1.level = i.level) = some (i, ts) := by
  rw [suffix?_tokens]
  simp

/-- An operator of the level extends the formula by an operand of the next
level, and reading goes on from there. -/
theorem extend_operator {op : BinaryOp} (hRight : Settles (read · (op.level + 1) ts) (g, rest))
    (h : Settles (extend · op.level (.binary op f g) rest) res) :
    Settles (extend · op.level f (op.tokens ++ ts)) res := by
  have hSuffix : (suffix? (op.tokens ++ ts)).filter (fun r => r.1.level = op.level) =
      some (.operator op, ts) := suffix?_filter (.operator op) ts
  apply Settles.of_succ
  simp only [extend, hSuffix]
  exact hRight.bind h

theorem extend_isNull {negated : Bool} (h : Settles (extend · 4 (.isNull f negated) ts) res) :
    Settles (extend · 4 f ((Suffix.isNull negated).tokens ++ ts)) res := by
  have hSuffix : (suffix? ((Suffix.isNull negated).tokens ++ ts)).filter (fun r => r.1.level = 4) =
      some (.isNull negated, ts) := suffix?_filter (.isNull negated) ts
  apply Settles.of_succ
  simp only [extend, hSuffix]
  exact h

theorem settles_expect {tok : Token} : Settles (fun _ => expect tok (tok :: ts)) ts :=
  ⟨0, fun _ _ => if_pos rfl⟩

theorem extend_between {negated : Bool} {low high : Formula String} {ls hs : List Token}
    (hLow : Settles (read · 5 ls) (low, .keyword "AND" :: hs))
    (hHigh : Settles (read · 5 hs) (high, ts))
    (h : Settles (extend · 4 (.between f low high negated) ts) res) :
    Settles (extend · 4 f ((Suffix.between negated).tokens ++ ls)) res := by
  have hSuffix : (suffix? ((Suffix.between negated).tokens ++ ls)).filter (fun r => r.1.level = 4) =
      some (.between negated, ls) := suffix?_filter (.between negated) ls
  apply Settles.of_succ
  simp only [extend, hSuffix]
  exact hLow.bind (settles_expect.bind (hHigh.bind h))

/-- A list extends the formula by all of its members up to the closing
parenthesis. -/
theorem extend_inList {negated : Bool} {first : Formula String} {more : List (Formula String)}
    {ms : List Token} (hFirst : Settles (read · 1 ts) (first, ms))
    (hMore : Settles (others · ms) (more, rest))
    (h : Settles (extend · 4 (.inList f first more negated) rest) res) :
    Settles (extend · 4 f ((Suffix.inList negated).tokens ++ ts)) res := by
  have hSuffix : (suffix? ((Suffix.inList negated).tokens ++ ts)).filter (fun r => r.1.level = 4) =
      some (.inList negated, ts) := suffix?_filter (.inList negated) ts
  apply Settles.of_succ
  simp only [extend, hSuffix]
  exact hFirst.bind (hMore.bind h)

theorem others_end : Settles (others · (.sign ")" :: ts)) ([], ts) := by
  apply Settles.of_succ
  simp only [others]
  exact .const

theorem others_cons {more : List (Formula String)} (hFirst : Settles (read · 1 ts) (f, rest))
    {rest' : List Token} (hMore : Settles (others · rest) (more, rest')) :
    Settles (others · (.sign "," :: ts)) (f :: more, rest') := by
  apply Settles.of_succ
  simp only [others]
  exact hFirst.bind hMore.map

/-- A formula is an operand and what extends it. -/
theorem read_extend (hOperand : Settles (operand · n ts) (f, rest))
    (h : Settles (extend · n f rest) res) : Settles (read · n ts) res := by
  apply Settles.of_succ
  simp only [read]
  exact hOperand.bind h

theorem operand_unary {op : UnaryOp} (h : Settles (read · op.level ts) (f, rest)) :
    Settles (operand · op.level (op.sign :: ts)) (.unary op f, rest) := by
  apply Settles.of_succ
  simp only [operand, unary?_sign, Option.filter_some, decide_true, if_true]
  exact h.map

/-- Where no operator of the level stands in front, the operand is a formula of
the next level. -/
theorem operand_tighter (hLevel : n < 11) (hUnary : ∀ op rest, unary? ts = some (op, rest) →
    op.level ≠ n) (h : Settles (read · (n + 1) ts) res) : Settles (operand · n ts) res := by
  have hNone : (unary? ts).filter (fun r => r.1.level = n) = none := by
    rw [Option.filter_eq_none_iff]
    intro r hr
    simpa using hUnary r.1 r.2 hr
  apply Settles.of_succ
  simp only [operand, hNone, hLevel, if_true]
  exact h

theorem operand_atom (hUnary : unary? ts = none) (h : Settles (atom · ts) res) :
    Settles (operand · 11 ts) res := by
  apply Settles.of_succ
  simp only [operand, hUnary, Option.filter_none, Nat.lt_irrefl, if_false]
  exact h

theorem atom_name (x : String) : Settles (atom · (.name x :: ts)) (.leaf x, ts) := by
  apply Settles.of_succ
  simp only [atom]
  exact .const

/-- Between parentheses stands a formula of the loosest level. -/
theorem atom_parens (h : Settles (read · 1 ts) (f, .sign ")" :: rest)) :
    Settles (atom · (.sign "(" :: ts)) (f, rest) := by
  apply Settles.of_succ
  simp only [atom]
  exact h.bind settles_expect.map

/-- An operator in front of a formula is of its level or of a higher one. -/
theorem level_of_unary? (h : Derives n ts f) (rest : List Token) {op : UnaryOp}
    {more : List Token} (hUnary : unary? (ts ++ rest) = some (op, more)) : n ≤ op.level := by
  induction h generalizing rest with
  | name x => cases hUnary
  | parens inner ih => cases hUnary
  | tighter _ inner ih => exact Nat.le_of_succ_le (ih rest hUnary)
  | @unary first ts f operand ih =>
      rw [List.cons_append, unary?_sign] at hUnary
      cases hUnary
      exact Nat.le_refl _
  | binary left right ihLeft ihRight =>
      rw [List.append_assoc] at hUnary
      exact ihLeft _ hUnary
  | isNull operand ih =>
      rw [List.append_assoc] at hUnary
      exact ih _ hUnary
  | inList operand first others ih ihFirst ihOthers =>
      rw [List.append_assoc] at hUnary
      exact ih _ hUnary
  | between operand low high ih ihLow ihHigh =>
      rw [List.append_assoc] at hUnary
      exact ih _ hUnary

/-- The reader goes past the tokens and continues with the formula. -/
def Passes (n : Nat) (ts : List Token) (f : Formula String) : Prop :=
  ∀ rest res, Stops n rest → Settles (extend · n f rest) res → Settles (read · n (ts ++ rest)) res

/-- A formula is read to its end where nothing follows that belongs to its level
or to a higher one. -/
theorem Passes.read (h : Passes n ts f) (hStops : Stops n rest)
    (hOther : ∀ i more, suffix? rest = some (i, more) → i.level ≠ n) :
    Settles (read · n (ts ++ rest)) (f, rest) :=
  h rest (f, rest) hStops (extend_stop hOther)

/-- A formula of the next level is read up to an operator of this one. -/
theorem Passes.read_tighter (h : Passes (n + 1) ts f) (hStops : Stops n rest) :
    Settles (Reader.read · (n + 1) (ts ++ rest)) (f, rest) := by
  refine h.read (hStops.mono (Nat.le_succ n)) ?_
  intro i more hMore
  have hLevel := hStops i more hMore
  omega

/-- A formula is read to its end where nothing can extend it. -/
theorem Passes.read_closed (h : Passes n ts f) (hNone : suffix? rest = none) :
    Settles (Reader.read · n (ts ++ rest)) (f, rest) := by
  refine h.read (stops_of_none hNone) ?_
  intro i more hMore
  rw [hNone] at hMore
  cases hMore

/-- The further members of a list, up to its end. -/
theorem others_items {items : List (List Token × Formula String)} (ts : List Token)
    (h : ∀ item ∈ items, Passes 1 item.1 item.2) :
    Settles (others · (items.flatMap (fun item => .sign "," :: item.1) ++ .sign ")" :: ts))
      (items.map (·.2), ts) := by
  induction items with
  | nil => exact others_end
  | cons item items ih =>
      have hMore := ih fun other hOther => h other (List.mem_cons_of_mem _ hOther)
      have hNone : suffix? (items.flatMap (fun item => .sign "," :: item.1) ++
          .sign ")" :: ts) = none := by
        cases items <;> rfl
      rw [List.flatMap_cons, List.cons_append, List.cons_append, List.append_assoc]
      exact others_cons ((h item (List.mem_cons_self ..)).read_closed hNone) hMore

/-- No level has operators in front of an operand and others behind it. -/
theorem level_ne_unary (i : Suffix) (op : UnaryOp) : i.level ≠ op.level := by
  cases i with
  | operator other => cases other <;> cases op <;> decide
  | _ => cases op <;> simp [Suffix.level, UnaryOp.level]

/-- The reader goes past any tokens that the grammar derives, and yields their
formula. So the grammar is unambiguous. -/
theorem passes (h : Derives n ts f) : Passes n ts f := by
  induction h with
  | name x =>
      intro rest res hStops hExtend
      exact read_extend (operand_atom rfl (atom_name x)) hExtend
  | parens inner ih =>
      intro rest res hStops hExtend
      rw [List.cons_append, List.append_assoc]
      exact read_extend (operand_atom rfl (atom_parens (ih.read_closed rfl))) hExtend
  | tighter hLevel inner ih =>
      intro rest res hStops hExtend
      refine read_extend (operand_tighter hLevel ?_ (ih.read_tighter hStops)) hExtend
      intro op more hUnary
      have hAbove := level_of_unary? inner rest hUnary
      omega
  | unary operand ih =>
      intro rest res hStops hExtend
      exact read_extend (operand_unary (ih.read hStops fun i _ _ => level_ne_unary i _)) hExtend
  | @binary op ls rs f g left right ihLeft ihRight =>
      intro rest res hStops hExtend
      rw [List.append_assoc, List.append_assoc]
      exact ihLeft _ res (stops_tokens (.operator op) _)
        (extend_operator (ihRight.read_tighter hStops) hExtend)
  | @isNull ts f negated operand ih =>
      intro rest res hStops hExtend
      rw [List.append_assoc]
      exact ih _ res (stops_tokens (.isNull negated) _) (extend_isNull hExtend)
  | @inList ts fs f g negated items operand first others ih ihFirst ihOthers =>
      intro rest res hStops hExtend
      have hMore := others_items rest ihOthers
      have hNone : suffix? (items.flatMap (fun item => .sign "," :: item.1) ++
          .sign ")" :: rest) = none := by
        cases items <;> rfl
      simp only [List.append_assoc, List.singleton_append]
      exact ih _ res (stops_tokens (.inList negated) _)
        (extend_inList (ihFirst.read_closed hNone) hMore hExtend)
  | @between ts ls hs f g h negated operand low high ih ihLow ihHigh =>
      intro rest res hStops hExtend
      have hAnd : ∀ i more, suffix? (.keyword "AND" :: (hs ++ rest)) = some (i, more) →
          i.level = 2 := by
        intro i more hMore
        cases hMore
        rfl
      have hLow : Settles (read · 5 (ls ++ .keyword "AND" :: (hs ++ rest)))
          (g, .keyword "AND" :: (hs ++ rest)) := by
        refine ihLow.read_tighter ?_
        intro i more hMore
        have hLevel := hAnd i more hMore
        omega
      simp only [List.append_assoc, List.cons_append]
      exact ih _ res (stops_tokens (.between negated) _)
        (extend_between hLow (ihHigh.read_tighter hStops) hExtend)

end Reader

/-- The grammar is unambiguous: tokens are those of one formula at most, at any
level. -/
theorem Derives.unique {n : Nat} {ts : List Token} {f g : Formula String} (hf : Derives n ts f)
    (hg : Derives n ts g) : f = g := by
  have hReadF : Settles (Reader.read · n (ts ++ [])) (f, []) :=
    (Reader.passes hf).read_closed rfl
  have hReadG : Settles (Reader.read · n (ts ++ [])) (g, []) :=
    (Reader.passes hg).read_closed rfl
  exact congrArg Prod.fst (hReadF.unique hReadG)

end SqlStatements
