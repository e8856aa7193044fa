import SqlStatements.Compiled.Compile
import SqlStatements.Proofs.Draft.Params
import SqlStatements.Proofs.Ledger.Names

/-! The names of the parameters of a compiled statement. Names are given while
the draft is written out, but kept away from names collected on a walk through
the tree. The two fit together because a draft has no parameters of its own. -/
namespace SqlStatements

namespace Sample

def accounts : Table :=
  { name := "accounts"
    columns := [{ Column.named "id" (.of .integer) with autoIncrement := .enabled },
      Column.named "balance" (.of .integer)] }

/-- A row with a captured id, in front of a shared parameter of the same key. -/
def insert : Statement :=
  .insert
    { table := accounts
      source := .rows ["id"] [[.param ⟨"id", some (.int 7), .of .integer, true⟩]]
      returning := [.param ⟨"id", some (.int 8), .of .integer, false⟩] }

/-- Standard SQL with changes that hand back values. -/
def target : Target := ⟨Profile.standard, { returning := true }⟩

end Sample

namespace Statement

variable {t : Target} {mode : ParameterMode} {s : Statement} {c : Compiled}

/-- A compiled statement is made of the texts and the ledger of its draft.
Nothing else enters into it but what the statement says itself. -/
theorem exists_ledger_of_compile (h : s.compile t mode = .ok c) :
    ∃ texts L, Ledger.write (s.setting t mode) {} (s.draft t) = .ok (texts, L) ∧
      c = { sql := String.join texts, binds := L.binds, positional := L.positional
            placeholders := t.profile.placeholders, columns := resultColumns t 0 (s.outputs t)
            kind := s.kind, insert := s.insertInfo? t mode L.generated, returning := s.returns
            dialect := t.profile.name } := by
  obtain ⟨⟨texts, L⟩, hWrite, h⟩ := exists_ok_of_bind_ok h
  cases h
  exact ⟨texts, L, hWrite, rfl⟩

/-- The columns of the result rows of a statement are numbered from left to
right, starting with zero and without gaps. -/
theorem positions_of_compile (h : s.compile t mode = .ok c) :
    c.columns.map (·.position) = List.range c.columns.length := by
  obtain ⟨texts, L, -, rfl⟩ := exists_ledger_of_compile h
  rw [positions_resultColumns, length_resultColumns, List.range_eq_range']

/-- Once the front of a draft is written out, the rest of it decides whether the
statement is compiled, from the ledger that the front has left. -/
theorem compile_after_front {front back : Draft} {texts : List String} {L : Ledger}
    (hDraft : s.draft t = front ++ back)
    (hWrite : Ledger.write (s.setting t mode) {} front = .ok (texts, L)) :
    (∀ e, s.compile t mode = .error e → L.write (s.setting t mode) back = .error e) ∧
    ∀ c, s.compile t mode = .ok c → ∃ rest L', L.write (s.setting t mode) back = .ok (rest, L') ∧
      c.sql = String.join texts ++ String.join rest ∧ c.binds = L'.binds ∧
      c.positional = L'.positional := by
  constructor
  · intro e hCompile
    cases hBack : L.write (s.setting t mode) back with
    | ok result =>
        rw [compile, hDraft, Ledger.write_append hWrite hBack] at hCompile
        cases hCompile
    | error e' =>
        rw [compile, hDraft, Ledger.write_append_error hWrite hBack] at hCompile
        cases hCompile
        rfl
  · intro c hCompile
    obtain ⟨all, L', hAll, rfl⟩ := exists_ledger_of_compile hCompile
    rw [hDraft] at hAll
    obtain ⟨xs, ys, M, hFront, hBack, rfl⟩ := Ledger.exists_write_append hAll
    rw [hWrite] at hFront
    cases hFront
    exact ⟨ys, L', hBack, String.join_append, rfl, rfl⟩

/-- The shared names are the keys of parameters that are not unique, as they are
after they were cut to the limit. -/
theorem mem_sharedNames {rules : IdentifierRules} {name : String} :
    name ∈ s.sharedNames rules ↔
      ∃ p ∈ s.binds, p.unique = false ∧ rules.truncate p.key = name := by
  simp [sharedNames, and_assoc]

/-- The names reserved in a statement cover every shared parameter of its draft,
also where the draft repeats or moves one. -/
theorem mem_reserved {p : BindParam} (hp : p ∈ (s.draft t).params) (hUnique : p.unique = false) :
    t.rules.truncate p.key ∈ (s.setting t mode).reserved :=
  mem_sharedNames.mpr ⟨p, s.params_draft_subset t hp, hUnique, rfl⟩

/-- The ledger of a compiled statement keeps what holds of the empty one, since
every piece of the draft does. -/
theorem ledger_sound {texts : List String} {L : Ledger}
    (h : Ledger.write (s.setting t mode) {} (s.draft t) = .ok (texts, L)) :
    L.Sound (s.setting t mode) :=
  Ledger.write_sound h (Ledger.sound_empty _) fun _ => mem_reserved

/-- The parameters that an insertion names as the source of its ids are those
that the ledger has marked. -/
theorem identity_of_insertInfo? {names marked : List String} {info : InsertInfo}
    (h : s.insertInfo? t mode marked = some info) (hBound : info.identity = some (.bound names)) :
    names = marked := by
  cases s with
  | insert s =>
      simp only [insertInfo?, Option.some.injEq] at h
      subst info
      simp only [Insert.info, Insert.identity?] at hBound
      split at hBound
      · cases hBound
      · split at hBound
        · cases hBound
        · split at hBound
          · cases hBound
          · split at hBound
            · cases hBound
            · cases hBound
              rfl
      · split at hBound
        · split at hBound <;> cases hBound
        · cases hBound
  | query | update | delete | createTable | dropTable | createIndex | dropIndex => cases h

/-- In a compiled statement no two parameters share a name. Positions and the
sources of ids go by names that exist, and no unique parameter has the name of a
shared one, wherever in the statement the shared one occurs. -/
theorem compile_names_distinct (t : Target) (s : Statement) (c : Compiled)
    (h : s.compile t .placeholders = .ok c) :
    (c.binds.map (·.name)).Nodup ∧
    (∀ name ∈ c.positional, name ∈ c.binds.map (·.name)) ∧
    (∀ info names, c.insert = some info → info.identity = some (.bound names) →
      ∀ name ∈ names, name ∈ c.binds.map (·.name)) ∧
    (∀ b ∈ c.binds, b.unique = true → ∀ p ∈ s.binds, p.unique = false →
      b.name ≠ t.rules.truncate p.key) := by
  obtain ⟨texts, L, hWrite, rfl⟩ := exists_ledger_of_compile h
  have hSound := ledger_sound hWrite
  refine ⟨hSound.nodup, hSound.positional, ?_, ?_⟩
  · intro info names hInfo hBound name hName
    rw [identity_of_insertInfo? hInfo hBound] at hName
    exact hSound.generated hName
  · intro b hb hUnique p hp hShared hName
    refine hSound.own b hb hUnique ?_
    rw [hName]
    exact mem_sharedNames.mpr ⟨p, hp, hShared, rfl⟩

/-- The captured id gives way to the shared parameter of the same key, which
keeps the name although it comes later. -/
theorem compile_names_distinct_insert :
    ∃ c, Sample.insert.compile Sample.target .placeholders = .ok c ∧
      c.binds.map (·.name) = ["id_1", "id"] ∧
      c.insert.bind (·.identity) = some (.bound ["id_1"]) ∧
      (c.binds.map (·.name)).Nodup ∧
      (∀ b ∈ c.binds, b.unique = true → ∀ p ∈ Sample.insert.binds, p.unique = false →
        b.name ≠ Sample.target.rules.truncate p.key) := by
  obtain ⟨c, hCompile, hFound⟩ := exists_ok_of_toOption
    (x := Sample.insert.compile Sample.target .placeholders)
    (f := fun c => (c.binds.map (·.name), c.insert.bind (·.identity)))
    (y := (["id_1", "id"], some (.bound ["id_1"]))) (by decide)
  obtain ⟨hNodup, _, _, hApart⟩ := compile_names_distinct Sample.target Sample.insert c hCompile
  exact ⟨c, hCompile, congrArg Prod.fst hFound, congrArg Prod.snd hFound, hNodup, hApart⟩

end Statement

end SqlStatements
