import SqlStatements.Dialect.Registry
import SqlStatements.Proofs.Compiled.ChangedTables
import SqlStatements.Proofs.Compiled.Values
import SqlStatements.Proofs.Draft.Walk
import SqlStatements.Proofs.Ledger.Slots

/-! The order of a walk is the order of the text. A walk through a statement meets its
parameters in the order in which the compiled statement asks for their values. -/
namespace SqlStatements

namespace Sample

/-- Accounts of a CTE, compared in three clauses with parameters that share a
key. -/
def balances : Statement :=
  let id := Expr.column ⟨some (.table (.plain accounts)), "id", .of .integer⟩
  let balance := Expr.column ⟨some (.table (.plain accounts)), "balance", .of .integer⟩
  let least : Query := .select
    { Select.ofColumns [id] with
      condition := some (.binary .gt balance (.param ⟨"amount", none, .of .integer, false⟩)) }
  .query (.select
    { Select.ofColumns
        [.binary .add balance (.param ⟨"amount", some (.int 1), .of .integer, true⟩)] with
      ctes := [⟨"least", [], least, false⟩]
      sources := [.join .inner (.table (.plain accounts)) (.cte "least") (some
        (.binary .eq balance (.param ⟨"amount", some (.int 2), .of .integer, false⟩)))]
      orderBy := [⟨.param ⟨"amount", some (.int 3), .of .integer, true⟩, none, none⟩] })

end Sample

/-- The parameter that stands for an occurrence has its key, as far as names go:
two keys that are cut alike are not told apart. -/
theorem BindInfo.Stands.truncate_key {rules : IdentifierRules} {b : BindInfo} {p : BindParam}
    (h : b.Stands rules p) (hNamed : b.unique = false → b.name = rules.truncate b.key) :
    rules.truncate b.key = rules.truncate p.key := by
  cases hUnique : p.unique with
  | true => rw [h.own hUnique]
  | false =>
      calc rules.truncate b.key = b.name := (hNamed (h.unique.trans hUnique)).symm
        _ = rules.truncate p.key := h.shared hUnique

namespace Statement

variable {t : Target} {s : Statement} {c : Compiled}

/-- Where nothing is left out or moved, the positions of a style that repeats
them are those of the walk. -/
theorem forall₂_binds (ht : t.InOrder) (hRepeats : t.profile.placeholders.repeats = true)
    (hFilled : Visit.Filled (s.visits true)) (h : s.compile t .placeholders = .ok c) :
    List.Forall₂ (fun p name => ∃ b ∈ c.binds, b.Stands t.rules p ∧ b.name = name)
      s.binds c.positional := by
  have hParams := s.draft_carries ht hFilled (complete_of_compile h)
  obtain ⟨texts, L, hWrite, rfl⟩ := exists_ledger_of_compile h
  obtain ⟨added, hAdded, hEach⟩ := Ledger.write_positions hWrite rfl hRepeats
  rw [hParams] at hEach
  have hAll : L.positional = added := by simpa using hAdded
  exact hAll ▸ hEach

/-- In standard SQL a walk through a statement meets the parameters that the
placeholders of its text stand for, from left to right: there are as many of
them, and the parameter named at a position is the only one of that name and has
the key, the type and the value of the one met there. A list that is empty is no
part of the text, so none may be. -/
theorem compile_positional_walk (caps : Capabilities) (hComparison : caps.scalarComparison = true)
    (hOrder : caps.subqueryOrder = true) (s : Statement)
    (hFilled : ∀ e negated, .expr (.inList e [] negated) ∉ s.visits true) (c : Compiled)
    (h : s.compile ⟨Profile.standard, caps⟩ .placeholders = .ok c) :
    s.binds.length = c.positional.length ∧
    ∀ (i : Nat) (p : BindParam) (name : String),
      s.binds[i]? = some p → c.positional[i]? = some name →
      ∃ b ∈ c.binds, b.name = name ∧ (∀ other ∈ c.binds, other.name = name → other = b) ∧
        (Profile.standard.rules caps).truncate b.key =
          (Profile.standard.rules caps).truncate p.key ∧
        b.unique = p.unique ∧ b.type = p.type ∧ ∀ v, p.value = some v → b.value = some v := by
  have hEach := forall₂_binds (Target.inOrder_standard hComparison hOrder) rfl hFilled h
  obtain ⟨hNodup, hNamed, _⟩ := compile_sound h
  refine ⟨hEach.length_eq, ?_⟩
  intro i p name hp hName
  obtain ⟨hi, rfl⟩ := List.getElem?_eq_some_iff.mp hp
  obtain ⟨hj, rfl⟩ := List.getElem?_eq_some_iff.mp hName
  obtain ⟨b, hb, hStands, hName⟩ := hEach.get hi hj
  refine ⟨b, hb, hName, ?_, hStands.truncate_key (hNamed b hb), hStands.unique, hStands.type,
    hStands.value⟩
  intro other hOther hSame
  exact List.inj_on_of_nodup_map hNodup hOther hb (hSame.trans hName.symm)

/-- The shared parameter stands around a unique one of the same key. It has the
value that was met with its second occurrence. -/
theorem compile_positional_walk_balances :
    ∃ c, Sample.balances.compile Dialect.standard.target .placeholders = .ok c ∧
      c.positional = ["amount", "amount_1", "amount", "amount_2"] ∧
      Sample.balances.binds.length = c.positional.length ∧
      ∃ b ∈ c.binds, b.name = "amount" ∧ b.type = .of .integer ∧ b.value = some (.int 2) := by
  obtain ⟨c, hCompile, hFound⟩ := exists_ok_of_toOption
    (x := Sample.balances.compile Dialect.standard.target .placeholders)
    (f := fun c => c.positional)
    (y := ["amount", "amount_1", "amount", "amount_2"]) (by decide)
  have hFilled : ∀ e negated, .expr (.inList e [] negated) ∉ Sample.balances.visits true := by
    simp [Sample.balances, visits, Query.visits, Select.visits, Select.ofColumns, Expr.visits,
      exprsVisits, optionVisits, ctesVisits, sourcesVisits, FromItem.visits, ordersVisits,
      ColumnSource.visits]
  obtain ⟨hLength, hEach⟩ :=
    compile_positional_walk {} rfl rfl Sample.balances hFilled c hCompile
  obtain ⟨b, hb, hName, _, _, _, hType, hValue⟩ := hEach 2
    ⟨"amount", some (.int 2), .of .integer, false⟩ "amount" rfl (by rw [hFound]; rfl)
  exact ⟨c, hCompile, hFound, hLength, b, hb, hName, hType, hValue _ rfl⟩

end Statement

end SqlStatements
