import Mathlib.Data.List.Forall2
import SqlStatements.Compiled.Params
import SqlStatements.Proofs.Compiled.BindNames
import SqlStatements.Proofs.Identifier.Truncate

/-! The values that the parameters of a compiled statement take. Names differ,
so a parameter finds under its name the value that was chosen for it. -/
namespace SqlStatements

namespace Sample

/-- Sets a column that the condition compares with a captured value. -/
def update (captured : Value) : Statement :=
  .update
    { table := accounts
      assignments := [("balance", .param ⟨"balance", some (.int 5), .of .integer, false⟩)]
      condition := some (.binary .and
        (.binary .eq (.column ⟨some (.table (.plain accounts)), "balance", .of .integer⟩)
          (.param ⟨"balance", some captured, .of .integer, true⟩))
        (.binary .eq (.column ⟨some (.table (.plain accounts)), "id", .of .integer⟩)
          (.param ⟨"id", some (.int 1), .of .integer, true⟩)))
      returning := [] }

def updated (captured : Value) : Compiled :=
  { sql := "UPDATE accounts SET balance = ? WHERE accounts.balance = ? AND accounts.id = ?"
    binds := [⟨"balance", "balance", .of .integer, some (.int 5), none, false⟩,
      ⟨"balance_1", "balance", .of .integer, some captured, none, true⟩,
      ⟨"id", "id", .of .integer, some (.int 1), none, true⟩]
    positional := ["balance", "balance_1", "id"]
    placeholders := .questionMark
    columns := []
    kind := .update
    insert := none
    returning := false
    dialect := "generic" }

end Sample

namespace BindInfo

variable {b : BindInfo} {params : Params} {pair : String × Value}

/-- A value given under a name reaches another parameter only through its key,
and only if none is given under the name of that parameter. -/
theorem given?_insert (b : BindInfo) (params : Params) (v : Value) {name : String}
    (hOther : b.name ≠ name) :
    b.given? (params.insert name v) =
      if b.key = name ∧ params.find? b.name = none then some v else b.given? params := by
  rw [given?, given?, NameMap.find?_insert, NameMap.find?_insert, if_neg hOther]
  by_cases hKey : b.key = name
  · cases params.find? b.name <;> simp [hKey]
  · simp [hKey]

/-- A parameter that is sent has a value, which has been converted. The value
goes out under the name of the parameter. -/
theorem bind_ok (h : b.bind params = .ok pair) :
    ∃ v w, b.given? params = some v ∧ convert b.conversion v = .ok w ∧ pair = (b.name, w) := by
  rw [bind] at h
  split at h
  · cases h
  · rename_i v hGiven
    obtain ⟨w, hConvert, h⟩ := exists_ok_of_bind_ok h
    cases h
    exact ⟨v, w, hGiven, hConvert, rfl⟩

end BindInfo

namespace Compiled

variable {c : Compiled} {params : Params} {bound : Bound} {b : BindInfo}

/-- A successful traversal relates the two lists element by element. -/
theorem forall₂_of_mapM {bs : List BindInfo} (h : bs.mapM (·.bind params) = .ok bound) :
    List.Forall₂ (fun b pair => b.bind params = .ok pair) bs bound := by
  induction bs generalizing bound with
  | nil =>
      cases h
      exact .nil
  | cons b bs ih =>
      rw [List.mapM_cons] at h
      obtain ⟨pair, hHead, h⟩ := exists_ok_of_bind_ok h
      obtain ⟨rest, hRest, h⟩ := exists_ok_of_bind_ok h
      cases h
      exact .cons hHead (ih hRest)

/-- The values are sent one for one, in the order of the parameters. -/
theorem forall₂_of_bind (h : c.bind params = .ok bound) :
    List.Forall₂ (fun b pair => b.bind params = .ok pair) c.binds bound := by
  rw [bind] at h
  split at h
  · exact forall₂_of_mapM h
  · cases h

/-- With different names, the value under the name of a parameter is its own. -/
theorem lookup_of_forall₂ {bs : List BindInfo}
    (h : List.Forall₂ (fun b pair => b.bind params = .ok pair) bs bound)
    (hNodup : (bs.map (·.name)).Nodup) (hb : b ∈ bs) :
    ∃ v, b.bind params = .ok (b.name, v) ∧ bound.lookup b.name = some v := by
  induction h with
  | nil => cases hb
  | @cons a pair bs rest hHead _ ih =>
      obtain ⟨v, w, _, _, rfl⟩ := BindInfo.bind_ok hHead
      obtain ⟨hFresh, hNodup⟩ := List.nodup_cons.mp hNodup
      rcases List.mem_cons.mp hb with rfl | hb
      · exact ⟨w, hHead, List.lookup_cons_self⟩
      · have hOther : b.name ≠ a.name := by
          intro he
          exact hFresh (List.mem_map.mpr ⟨b, hb, he⟩)
        obtain ⟨u, hBind, hFound⟩ := ih hNodup hb
        refine ⟨u, hBind, ?_⟩
        rw [List.lookup_cons, beq_false_of_ne hOther]
        exact hFound

/-- Under the name of a parameter stands the value it was bound to. Names that
differ are enough for that. -/
theorem lookup_bound (hNodup : (c.binds.map (·.name)).Nodup) (h : c.bind params = .ok bound)
    (hb : b ∈ c.binds) : ∃ v, b.bind params = .ok (b.name, v) ∧ bound.lookup b.name = some v :=
  lookup_of_forall₂ (forall₂_of_bind h) hNodup hb

end Compiled

namespace Statement

variable {t : Target} {mode : ParameterMode} {s : Statement} {c : Compiled}

/-- Parameters of a compiled statement have different names, shared ones go by
their keys, and every placeholder belongs to one of them. -/
theorem compile_sound (h : s.compile t mode = .ok c) :
    (c.binds.map (·.name)).Nodup ∧
      (∀ b ∈ c.binds, b.unique = false → b.name = t.rules.truncate b.key) ∧
      c.positional ⊆ c.binds.map (·.name) := by
  obtain ⟨texts, L, hWrite, rfl⟩ := exists_ledger_of_compile h
  have hSound := ledger_sound hWrite
  exact ⟨hSound.nodup, hSound.named, hSound.positional⟩

/-- A shared parameter has the same name as its key once both are cut to the
limit. So a parameter made with that name as its key, but called otherwise, is a
unique one. -/
theorem unique_of_key_eq (h : s.compile t mode = .ok c) {a b : BindInfo} (ha : a ∈ c.binds)
    (hShared : a.unique = false) (hb : b ∈ c.binds) (hKey : b.key = a.name)
    (hOther : b.name ≠ a.name) : b.unique = true := by
  obtain ⟨_, hNamed, _⟩ := compile_sound h
  by_contra hUnique
  apply hOther
  calc b.name = t.rules.truncate b.key := hNamed b hb (by simpa using hUnique)
    _ = t.rules.truncate (t.rules.truncate a.key) := by rw [hKey, hNamed a ha hShared]
    _ = a.name := by rw [IdentifierRules.truncate_truncate, ← hNamed a ha hShared]

/-- A new value for a shared parameter changes no other parameter, except for
the unique ones that were made with its name as their key and are given no value
under their own names: these take the new value as well. -/
theorem bind_insert_shared (t : Target) (mode : ParameterMode) (s : Statement) (c : Compiled)
    (hCompile : s.compile t mode = .ok c) (a : BindInfo) (ha : a ∈ c.binds)
    (hShared : a.unique = false) (params : Params) (v : Value) (bound bound' : Bound)
    (h : c.bind params = .ok bound) (h' : c.bind (params.insert a.name v) = .ok bound')
    (b : BindInfo) (hb : b ∈ c.binds) (hOther : b.name ≠ a.name) :
    (¬(b.unique = true ∧ b.key = a.name ∧ params.find? b.name = none) →
      ∃ w, bound.lookup b.name = some w ∧ bound'.lookup b.name = some w) ∧
    (b.unique = true ∧ b.key = a.name ∧ params.find? b.name = none →
      ∃ w, convert b.conversion v = .ok w ∧ bound'.lookup b.name = some w) := by
  obtain ⟨hNodup, _⟩ := compile_sound hCompile
  obtain ⟨w, hBind, hFound⟩ := Compiled.lookup_bound hNodup h hb
  obtain ⟨w', hBind', hFound'⟩ := Compiled.lookup_bound hNodup h' hb
  have hGiven := b.given?_insert params v hOther
  -- What is given for `b` differs only if it is reached through its key.
  constructor
  · intro hApart
    have hKept : ¬(b.key = a.name ∧ params.find? b.name = none) := fun hReached =>
      hApart ⟨unique_of_key_eq hCompile ha hShared hb hReached.1 hOther, hReached⟩
    rw [if_neg hKept] at hGiven
    have hSame : b.bind (params.insert a.name v) = b.bind params := by
      rw [BindInfo.bind, BindInfo.bind, hGiven]
    rw [hSame, hBind] at hBind'
    cases hBind'
    exact ⟨w, hFound, hFound'⟩
  · rintro ⟨_, hReached⟩
    rw [if_pos hReached] at hGiven
    obtain ⟨u, w'', hu, hConvert, he⟩ := BindInfo.bind_ok hBind'
    rw [hGiven] at hu
    cases hu
    cases he
    exact ⟨w', hConvert, hFound'⟩

/-- Here the id keeps its captured value, while the other captured value gives
way to the new one. -/
theorem bind_insert_shared_update :
    ∃ c bound bound', (Sample.update (.int 3)).compile Sample.target .placeholders = .ok c ∧
      c.bind {} = .ok bound ∧ c.bind (NameMap.insert {} "balance" (.int 9)) = .ok bound' ∧
      (∃ w, bound.lookup "id" = some w ∧ bound'.lookup "id" = some w) ∧
      (∃ w, convert none (.int 9) = .ok w ∧ bound'.lookup "balance_1" = some w) := by
  have hCompile : (Sample.update (.int 3)).compile Sample.target .placeholders =
      .ok (Sample.updated (.int 3)) := by decide +kernel
  have h : (Sample.updated (.int 3)).bind {} =
      .ok [("balance", .int 5), ("balance_1", .int 3), ("id", .int 1)] := by decide
  have h' : (Sample.updated (.int 3)).bind (NameMap.insert {} "balance" (.int 9)) =
      .ok [("balance", .int 9), ("balance_1", .int 9), ("id", .int 1)] := by decide +kernel
  have hEach := bind_insert_shared _ _ _ _ hCompile
    ⟨"balance", "balance", .of .integer, some (.int 5), none, false⟩ (List.mem_cons_self ..) rfl
    {} (.int 9) _ _ h h'
  refine ⟨_, _, _, hCompile, h, h', ?_, ?_⟩
  · exact (hEach ⟨"id", "id", .of .integer, some (.int 1), none, true⟩ (by simp [Sample.updated])
      (by decide)).1 (by decide)
  · exact (hEach ⟨"balance_1", "balance", .of .integer, some (.int 3), none, true⟩
      (by simp [Sample.updated]) (by decide)).2 (by decide)

/-- It is not true that a new value for a shared parameter leaves all others
alone: a captured value filed under the same key is overwritten. -/
theorem not_forall_bind_insert_shared :
    ¬∀ (t : Target) (mode : ParameterMode) (s : Statement) (c : Compiled),
      s.compile t mode = .ok c → ∀ a ∈ c.binds, a.unique = false →
      ∀ (params : Params) (v : Value) (bound bound' : Bound),
      c.bind params = .ok bound → c.bind (params.insert a.name v) = .ok bound' →
      ∀ b ∈ c.binds, b.name ≠ a.name → bound'.lookup b.name = bound.lookup b.name := by
  intro hAll
  have hSame := hAll Sample.target .placeholders (Sample.update (.int 3))
    (Sample.updated (.int 3)) (by decide)
    ⟨"balance", "balance", .of .integer, some (.int 5), none, false⟩ (List.mem_cons_self ..) rfl
    {} (.int 9) [("balance", .int 5), ("balance_1", .int 3), ("id", .int 1)]
    [("balance", .int 9), ("balance_1", .int 9), ("id", .int 1)] (by decide)
    (by decide) ⟨"balance_1", "balance", .of .integer, some (.int 3), none, true⟩
    (by simp [Sample.updated]) (by decide)
  revert hSame
  decide

end Statement

end SqlStatements
