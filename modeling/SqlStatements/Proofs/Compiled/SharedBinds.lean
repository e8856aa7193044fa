import SqlStatements.Proofs.Compiled.BindNames
import SqlStatements.Proofs.Ledger.Shared

/-! Occurrences of one parameter. In a compiled statement they agree, and the parameter has the
value that any of them brings, wherever it stands. Compiling fails over parameters only if two
occurrences disagree. -/
namespace SqlStatements

namespace Sample

/-- One shared parameter in two places, with a value of its own in each. -/
def sought (first second : Option Value) : Statement :=
  .query (.select
    { Select.ofColumns [.column ⟨some (.table (.plain accounts)), "id", .of .integer⟩] with
      condition := some (.binary .or
        (.binary .eq (.column ⟨some (.table (.plain accounts)), "id", .of .integer⟩)
          (.param ⟨"sought", first, .of .integer, false⟩))
        (.binary .eq (.column ⟨some (.table (.plain accounts)), "balance", .of .integer⟩)
          (.param ⟨"sought", second, .of .integer, false⟩))) })

end Sample

namespace Statement

variable {t : Target} {s : Statement} {c : Compiled}

/-- A shared parameter of a compiled statement is found under its name, and
there is no other of that name. -/
theorem exists_shared_bind (h : s.compile t .placeholders = .ok c) {p : BindParam}
    (hp : p ∈ (s.draft t).params) {name : String} (hShared : p.SharedAs t.rules name) :
    ∃ b ∈ c.binds, b.name = name ∧ b.Stands t.rules p ∧
      ∀ other ∈ c.binds, other.name = name → other = b := by
  obtain ⟨texts, L, hWrite, rfl⟩ := exists_ledger_of_compile h
  obtain ⟨b, hb, hStands⟩ := Ledger.exists_stands hWrite rfl hp
  have hName : b.name = name := (hStands.shared hShared.unique).trans hShared.name
  refine ⟨b, hb, hName, hStands, ?_⟩
  intro other hOther hSame
  exact List.inj_on_of_nodup_map (ledger_sound hWrite).nodup hOther hb (hSame.trans hName.symm)

/-- In a compiled statement, the occurrences of a shared parameter agree in
their types, and in their values where they bring one. The parameter has the
value that any of them brings, and none if none does. If compiling fails because
of a parameter, two of its occurrences in the statement disagree in just the way
that is reported. -/
theorem compile_shared (t : Target) (s : Statement) :
    (∀ c, s.compile t .placeholders = .ok c →
      ∀ name, ∀ p ∈ (s.draft t).params, p.SharedAs t.rules name →
        (∀ q ∈ (s.draft t).params, q.SharedAs t.rules name →
          q.type = p.type ∧ ∀ v w, p.value = some v → q.value = some w → v = w) ∧
        ∃ b ∈ c.binds, b.name = name ∧ b.unique = false ∧ b.type = p.type ∧
          (∀ other ∈ c.binds, other.name = name → other = b) ∧
          ∀ v, b.value = some v ↔
            ∃ q ∈ (s.draft t).params, q.SharedAs t.rules name ∧ q.value = some v) ∧
    ∀ name cause, s.compile t .placeholders = .error (.bindConflict name cause) →
      ∃ p ∈ s.binds, ∃ q ∈ s.binds,
        p.SharedAs t.rules name ∧ q.SharedAs t.rules name ∧ p.Clash q cause := by
  constructor
  · intro c hCompile name p hp hShared
    obtain ⟨b, hb, hName, hStands, hOnly⟩ := exists_shared_bind hCompile hp hShared
    -- The parameter found for any other occurrence is the same one.
    have hEach : ∀ q ∈ (s.draft t).params, q.SharedAs t.rules name → b.Stands t.rules q := by
      intro q hq hOther
      obtain ⟨a, ha, hSame, hStandsOther, -⟩ := exists_shared_bind hCompile hq hOther
      rwa [hOnly a ha hSame] at hStandsOther
    have hUnique : b.unique = false := hStands.unique.trans hShared.unique
    refine ⟨?_, b, hb, hName, hUnique, hStands.type, hOnly, ?_⟩
    · intro q hq hOther
      refine ⟨(hEach q hq hOther).type.symm.trans hStands.type, ?_⟩
      intro v w hv hw
      have hSame : some v = some w :=
        (hStands.value v hv).symm.trans ((hEach q hq hOther).value w hw)
      exact Option.some.inj hSame
    · intro v
      constructor
      · intro hv
        obtain ⟨texts, L, hWrite, rfl⟩ := exists_ledger_of_compile hCompile
        have hStems := Ledger.write_stems hWrite (List.Subset.refl _) fun _ h => nomatch h
        obtain ⟨q, hq, hOther, -, hValue⟩ := (hStems b hb hUnique).value v hv
        exact ⟨q, hq, hName ▸ hOther, hValue⟩
      · rintro ⟨q, hq, hOther, hValue⟩
        exact (hEach q hq hOther).value v hValue
  · intro name cause hCompile
    rcases error_of_bind_error hCompile with hWrite | ⟨result, _, h⟩
    · rcases Ledger.clash_of_error hWrite rfl fun _ => inDraft_of_stop with
        hDraft | ⟨_, _, hError, p, hp, q, hq, hClash⟩
      · exact hDraft.elim
      · cases hError
        exact ⟨p, s.params_draft_subset t hp, q, s.params_draft_subset t hq, hClash⟩
    · cases h

/-- A value that only the second occurrence brings, and two values that
differ. -/
theorem compile_shared_sought :
    (∃ c, (Sample.sought none (some (.int 5))).compile Sample.target .placeholders = .ok c ∧
      ∃ b ∈ c.binds, b.name = "sought" ∧ b.value = some (.int 5)) ∧
    (Sample.sought (some (.int 4)) (some (.int 5))).compile Sample.target .placeholders =
      .error (.bindConflict "sought" .values) ∧
    ∃ p ∈ (Sample.sought (some (.int 4)) (some (.int 5))).binds,
      ∃ q ∈ (Sample.sought (some (.int 4)) (some (.int 5))).binds, p.Clash q .values := by
  have hShared : ∀ v, BindParam.SharedAs Sample.target.rules "sought"
      ⟨"sought", v, .of .integer, false⟩ :=
    fun _ => ⟨rfl, show Sample.target.rules.truncate "sought" = "sought" by decide⟩
  constructor
  · obtain ⟨c, hCompile, -⟩ : ∃ c,
        (Sample.sought none (some (.int 5))).compile Sample.target .placeholders = .ok c ∧
          c.binds.length = 1 := exists_ok_of_toOption (by decide)
    have hSecond : ⟨"sought", some (.int 5), .of .integer, false⟩ ∈
        ((Sample.sought none (some (.int 5))).draft Sample.target).params := by decide
    obtain ⟨-, b, hb, hName, -, -, -, hValue⟩ :=
      (compile_shared _ _).1 c hCompile "sought" _ hSecond (hShared _)
    exact ⟨c, hCompile, b, hb, hName, (hValue _).2 ⟨_, hSecond, hShared _, rfl⟩⟩
  · have hCompile : (Sample.sought (some (.int 4)) (some (.int 5))).compile Sample.target
        .placeholders = .error (.bindConflict "sought" .values) := by rfl
    obtain ⟨p, hp, q, hq, -, -, hClash⟩ := (compile_shared _ _).2 _ _ hCompile
    exact ⟨hCompile, p, hp, q, hq, hClash⟩

end Statement

end SqlStatements
