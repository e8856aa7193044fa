import Mathlib.Algebra.Ring.Int.Defs
import Mathlib.Algebra.Ring.Nat
import Mathlib.Tactic.SplitIfs
import SqlStatements.Proofs.OnePass.Renderer

/-! Counting what rendering does. A meter puts a weight on each entry of the trace; an entry for
something rewritten may lower the reading, by what the rewriting allows for. However renderers are
put together, each of them is run once at most; so what the whole adds to the reading is at most
the sum of what its parts add, also if rendering fails. -/
namespace SqlStatements

/-- What is counted, and with which weight. -/
structure Meter where
  met : TreePart → Nat
  rewritten : Select → Int
  wrapped : Query × Nat → Int
  implied : TableRef → Int

/-- The weight of all that has happened. -/
def Meter.reading (M : Meter) (T : Trace) : Int :=
  (T.met.map M.met).sum + (T.rewritten.map M.rewritten).sum + (T.wrapped.map M.wrapped).sum +
    (T.implied.map M.implied).sum

/-- A meter reads what happened first and what happened afterwards as a sum. -/
theorem Meter.reading_append (M : Meter) (T U : Trace) :
    M.reading (T ++ U) = M.reading T + M.reading U := by
  show M.reading (T.append U) = _
  simp only [reading, Trace.append, List.map_append, List.sum_append]
  omega

/-- The reading goes up by the given number at most. -/
def Renderer.Adds (M : Meter) (n : Nat) (x : Renderer) : Prop :=
  ∀ S, M.reading (x.after S).trace ≤ M.reading S.trace + n

namespace Renderer

variable {M : Meter} {x y : Renderer} {n m : Nat}

theorem Adds.mono (h : x.Adds M n) (hLe : n ≤ m) : x.Adds M m := by
  intro S
  have := h S
  omega

/-- What leaves the trace alone adds nothing, so it stays below any bound. -/
theorem adds_of_trace (h : ∀ S, (x.after S).trace = S.trace) (n : Nat) : x.Adds M n := by
  intro S
  rw [h]
  omega

theorem adds_fail (e : Error) (n : Nat) : (fail e).Adds M n := adds_of_trace (fun _ => rfl) n

theorem adds_piece (q : Piece) : (piece q).Adds M 0 := by
  refine adds_of_trace (fun S => ?_) 0
  rw [after, piece]
  cases S.ledger.writePiece S.place.setting q <;> rfl

/-- The second one starts where the first one has ended, if it starts at all. It
does not after a failure. -/
theorem after_append (x y : Renderer) (S : Rendering) :
    (x ++ y).after S = x.after S ∨ (x ++ y).after S = y.after (x.after S) := by
  show (Renderer.append x y).after S = _ ∨ (Renderer.append x y).after S = _
  simp only [after, Renderer.append]
  cases x S with
  | error e S' => exact .inl rfl
  | ok a S' =>
      refine .inr ?_
      dsimp only
      cases y S' <;> rfl

/-- What two renderers add is the sum of what each of them adds. If the first
fails, the second adds nothing. -/
theorem Adds.append (hx : x.Adds M n) (hy : y.Adds M m) : (x ++ y).Adds M (n + m) := by
  intro S
  have hFirst := hx S
  have hSecond := hy (x.after S)
  rcases after_append x y S with hEnd | hEnd <;> rw [hEnd] <;> omega

theorem adds_pieces (d : Draft) : (pieces d).Adds M 0 := by
  induction d with
  | nil => exact adds_of_trace (fun _ => rfl) 0
  | cons q d ih => exact (adds_piece q).append ih

theorem adds_text (s : String) : (text s).Adds M 0 := adds_pieces _

/-- Fixed pieces in front of something. -/
theorem Adds.behind (h : x.Adds M n) (d : Draft) : (pieces d ++ x).Adds M n :=
  ((adds_pieces d).append h).mono (by omega)

/-- Fixed pieces after something. -/
theorem Adds.ahead (h : x.Adds M n) (d : Draft) : (x ++ pieces d).Adds M n :=
  h.append (adds_pieces d)

theorem adds_forTarget {f : Target → Renderer} (h : ∀ t, (f t).Adds M n) :
    (forTarget f).Adds M n := fun S => h S.place.target S

theorem adds_forScope {f : Scope → Renderer} (h : ∀ sc, (f sc).Adds M n) :
    (forScope f).Adds M n := fun S => h S.place.scope S

/-- Going to another place adds nothing to the trace. -/
theorem Adds.elsewhere (h : x.Adds M n) (go : Place → Place) (back : Place → Place → Place) :
    (elsewhere go back x).Adds M n := by
  intro S
  have hRun := h { S with place := go S.place }
  rw [after] at hRun ⊢
  rw [Renderer.elsewhere]
  cases hEnd : x { S with place := go S.place } <;> rw [hEnd] at hRun <;> exact hRun

/-- What is added to the trace counts with its weight, which may be negative. -/
theorem Adds.traced (h : x.Adds M n) {entries : Trace} (hLe : n + M.reading entries ≤ m) :
    (traced entries x).Adds M m := by
  intro S
  have hRun := h { S with trace := S.trace ++ entries }
  rw [M.reading_append] at hRun
  exact Int.le_trans hRun (by omega)

/-- What is met adds its own weight and nothing else. -/
theorem Adds.meet (h : x.Adds M n) {parts : List TreePart}
    (hLe : n + (parts.map M.met).sum ≤ m) : (meet parts x).Adds M m := by
  refine h.traced ?_
  simp only [Meter.reading, List.map_nil, List.sum_nil]
  omega

theorem Adds.recording (h : x.Adds M n) (fields : List OutputField) :
    (recording fields x).Adds M n := by
  intro S
  have hRun := h S
  rw [after] at hRun ⊢
  rw [Renderer.recording]
  cases hEnd : x S <;> rw [hEnd] at hRun <;> exact hRun

/-- The readings that renderers in a list add. -/
inductive AddsAll (M : Meter) : Nat → List Renderer → Prop where
  | nil {n : Nat} : AddsAll M n []
  | cons {n m : Nat} {x : Renderer} {xs : List Renderer} (first : x.Adds M n)
      (rest : AddsAll M m xs) : AddsAll M (n + m) (x :: xs)

variable {xs ys : List Renderer} {o : Option Renderer}

/-- Texts between neighbours add nothing. -/
theorem AddsAll.join (h : AddsAll M n xs) (separator : String) : (join separator xs).Adds M n := by
  induction h with
  | nil => exact (adds_pieces []).mono (Nat.zero_le _)
  | cons hFirst hRest ih =>
      cases hRest with
      | nil => exact hFirst.mono (Nat.le_add_right ..)
      | cons _ _ => exact hFirst.append (ih.behind _)

theorem Adds.parens (h : x.Adds M n) (wanted : Bool) : (x.parens wanted).Adds M n := by
  cases wanted with
  | false => exact h
  | true => exact (h.ahead _).behind _

theorem AddsAll.clause (h : AddsAll M n o.toList) (word : String) : (clause word o).Adds M n := by
  cases o with
  | none => exact h.join ""
  | some x => exact (h.join "").behind _

theorem AddsAll.listClause (h : AddsAll M n xs) (word : String) :
    (listClause word xs).Adds M n := by
  rw [Renderer.listClause]
  split
  · exact (adds_pieces []).mono (Nat.zero_le _)
  · exact (h.join _).behind _

theorem Adds.isNull (h : x.Adds M n) (e : Expr) (negated : Bool) :
    (isNull e x negated).Adds M n :=
  (h.parens _).ahead _

/-- Both operands count, although the right one is not rendered where it is the
missing value. -/
theorem Adds.binary (hx : x.Adds M n) (hy : y.Adds M m) (t : Target) (op : BinaryOp)
    (left right : Expr) : (binary t op left right x y).Adds M (n + m) := by
  simp only [Renderer.binary]
  split_ifs
  · exact (hx.isNull left _).mono (Nat.le_add_right ..)
  · exact (hx.parens _).append (hy.behind _)
  · exact ((hy.parens _).append (hx.behind _)).mono (Nat.le_of_eq (Nat.add_comm ..))
  · exact (hx.parens _).append ((hy.parens _).behind _)

theorem Adds.inList (hx : x.Adds M n) (h : AddsAll M m xs) (e : Expr) (negated : Bool) :
    (inList e x xs negated).Adds M (n + m) := by
  rw [Renderer.inList]
  split
  · exact (adds_text _).mono (Nat.zero_le _)
  · exact (hx.parens _).append (((h.join _).ahead _).behind _)

theorem AddsAll.mono (h : AddsAll M n xs) (hLe : n ≤ m) : AddsAll M m xs := by
  induction h generalizing m with
  | nil => exact .nil
  | @cons a b x xs hFirst _ ih =>
      obtain ⟨c, rfl⟩ := Nat.exists_eq_add_of_le hLe
      rw [Nat.add_assoc]
      exact .cons hFirst (ih (Nat.le_add_right ..))

theorem AddsAll.append (hx : AddsAll M n xs) (hy : AddsAll M m ys) :
    AddsAll M (n + m) (xs ++ ys) := by
  induction hx with
  | nil => exact hy.mono (Nat.le_add_left ..)
  | cons hFirst _ ih =>
      rw [Nat.add_assoc]
      exact .cons hFirst ih

theorem AddsAll.window (h : AddsAll M n xs) (hOrder : AddsAll M m ys) :
    (window xs ys).Adds M (n + m) := by
  have hPart : ∀ {zs : List Renderer} {k : Nat} (word : String), AddsAll M k zs →
      AddsAll M k (if zs.isEmpty then [] else [Renderer.listClause word zs]) := by
    intro zs k word hAll
    cases hAll with
    | nil => exact .nil
    | cons hFirst hRest =>
        exact .cons (m := 0) (AddsAll.listClause (.cons hFirst hRest) word) .nil
  exact ((hPart _ h).append (hPart _ hOrder)).join " "

theorem AddsAll.overWindow (h : AddsAll M n o.toList) (t : Target) (name : String) :
    (overWindow t name o).Adds M n := by
  cases o with
  | none => exact h.join ""
  | some x =>
      rw [Renderer.overWindow]
      split
      · exact (((h.join "").ahead _)).behind _
      · exact adds_fail _ _

/-- Arguments and window count, although a function that is a single word
renders neither. -/
theorem AddsAll.call (h : AddsAll M n xs) (hWindow : AddsAll M m o.toList) (t : Target)
    (name : String) (distinct : Bool) : (call t name xs distinct o).Adds M (n + m) := by
  rw [Renderer.call]
  split
  · exact (adds_text _).mono (Nat.zero_le _)
  · exact ((h.join _).append ((hWindow.overWindow t name).behind _)).behind _

theorem AddsAll.order (h : AddsAll M n xs) (t : Target) (limited : Bool) :
    (order t limited xs).Adds M n := by
  refine adds_forScope fun sc => ?_
  split
  · exact h.listClause _
  · exact (adds_pieces []).mono (Nat.zero_le _)

theorem AddsAll.withClause (h : AddsAll M n xs) (t : Target) (ctes : List Cte) :
    (withClause t ctes xs).Adds M n := by
  rw [Renderer.withClause]
  split
  · exact (adds_pieces []).mono (Nat.zero_le _)
  · exact ((h.join _).ahead _).behind _

theorem Adds.derived (h : x.Adds M n) (t : Target) (name : String) (lateral : Bool) :
    (derived t name lateral x).Adds M n := by
  rw [Renderer.derived]
  split
  · exact adds_fail _ _
  · exact (h.ahead _).behind _

theorem AddsAll.sources (h : AddsAll M n xs) (t : Target) (items : List FromItem) :
    (sources t items xs).Adds M n := by
  induction h generalizing items with
  | nil => cases items <;> exact (adds_pieces []).mono (Nat.zero_le _)
  | cons hFirst _ ih =>
      cases items with
      | nil => exact (adds_pieces []).mono (Nat.zero_le _)
      | cons item items =>
          cases items with
          | nil => exact (hFirst.ahead []).append (ih [])
          | cons other items => exact (hFirst.ahead _).append (ih _)

theorem Adds.apply (h : x.Adds M n) (t : Target) (kind : JoinKind) (conditional : Bool) :
    (apply t kind conditional x).Adds M n := by
  cases kind with
  | right | full => exact adds_fail _ _
  | inner | cross | left =>
      cases conditional with
      | true => exact adds_fail _ _
      | false => exact h.behind _

/-- A join adds what its sides and its condition add, whether it is applied or
not. -/
theorem Adds.joined (hx : x.Adds M n) (hy : y.Adds M m) {k : Nat} (h : AddsAll M k o.toList)
    (t : Target) (kind : JoinKind) (right : FromItem) :
    (joined t kind right x y o).Adds M (n + m + k) := by
  rw [Nat.add_assoc]
  refine hx.append ?_
  split
  · exact (hy.apply t kind _).mono (Nat.le_add_right ..)
  · exact ((hy.parens _).append (h.clause _)).behind _

theorem Adds.column (h : x.Adds M n) (outermost : Bool) (heading : Heading) :
    (column outermost heading x).Adds M n := by
  refine Adds.recording ?_ _
  cases heading.label with
  | none => exact h
  | some label => exact h.ahead _

/-- Headings add nothing. A heading too few would leave expressions out, which
only adds less. -/
theorem AddsAll.headed (h : AddsAll M n xs) (outermost : Bool) (headings : List Heading) :
    AddsAll M n (List.zipWith (column outermost) headings xs) := by
  induction h generalizing headings with
  | nil =>
      rw [List.zipWith_nil_right]
      exact .nil
  | cons hFirst _ ih =>
      cases headings with
      | nil => exact .nil
      | cons heading headings => exact .cons (hFirst.column outermost heading) (ih headings)

theorem AddsAll.columns (h : AddsAll M n xs) (hs : Except Error (List Heading))
    (outermost : Bool) : (columns hs outermost xs).Adds M n := by
  cases hs with
  | error e => exact adds_fail _ _
  | ok headings => exact (h.headed outermost headings).join _

/-- The tables that a SELECT implies add nothing together, if none of them does
by itself. -/
theorem addsAll_impliedTables (h : ∀ ref, (impliedTable ref).Adds M 0) (refs : List TableRef) :
    AddsAll M 0 (refs.map impliedTable) := by
  induction refs with
  | nil => exact .nil
  | cons ref refs ih => exact .cons (h ref) ih

/-- A SELECT that is rendered as it stands adds what its clauses add, and
nothing for the tables that it implies. -/
theorem adds_select (t : Target) (sc : Scope) (outermost : Bool) (s : Select)
    {ctes columns items groupBy orderBy : List Renderer} {condition having : Option Renderer}
    {a b c d e g h : Nat} (hCtes : AddsAll M a ctes) (hColumns : AddsAll M b columns)
    (hItems : AddsAll M c items) (hCondition : AddsAll M d condition.toList)
    (hGroups : AddsAll M e groupBy) (hHaving : AddsAll M g having.toList)
    (hOrder : AddsAll M h orderBy) (hImplied : ∀ ref, (impliedTable ref).Adds M 0) :
    (select t sc outermost s ctes columns items condition groupBy having orderBy).Adds M
      (a + b + c + d + e + g + h) := by
  have hHead := (hCtes.withClause t s.ctes).append (((hColumns.columns (s.headings t sc outermost)
    outermost).behind (Draft.top t s.limit)).behind
      [.text (if s.distinct then "SELECT DISTINCT " else "SELECT ")])
  have hFrom : Adds M c (if (sc.sources s).isEmpty then pieces []
      else text " FROM " ++ sources t (sc.sources s) (if s.sources.isEmpty then
        (sc.implied s.columns s.condition).map impliedTable else items)) := by
    split
    · exact (adds_pieces []).mono (Nat.zero_le _)
    · refine Adds.behind ?_ _
      split
      · exact ((addsAll_impliedTables hImplied _).sources t _).mono (Nat.zero_le _)
      · exact hItems.sources t _
  have hTail := (((((hCondition.clause " WHERE ").append (hGroups.listClause " GROUP BY ")).append
    (hHaving.clause " HAVING ")).append
      (hOrder.order t (s.limit.isSome || s.offset.isSome))).ahead
        (if t.strategy = .limitOffset then Draft.limits s.limit s.offset else []))
  exact ((hHead.append hFrom).append hTail).mono (by omega)

end Renderer

end SqlStatements
