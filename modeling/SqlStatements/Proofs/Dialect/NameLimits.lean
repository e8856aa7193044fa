import SqlStatements.Dialect.Registry
import SqlStatements.Proofs.Compiled.ChangedTables
import SqlStatements.Proofs.Draft.HeadingNames
import SqlStatements.Proofs.Identifier.Room

/-! The limits on names of the dialects in the registry, and what they mean for the search
for free names. A limit that leaves room for the numbers needed is enough. No limit is
enough for every search: there are only finitely many names within it. -/
namespace SqlStatements

namespace Sample

def twoColumns : Select :=
  Select.ofColumns [.column ⟨some (.table (.plain accounts)), "id", .of .integer⟩,
    .column ⟨some (.table (.plain accounts)), "balance", .of .integer⟩]

end Sample

/-- Only PostgreSQL can be told that names have no characters at all. No family
takes names of more than 128. -/
theorem Family.limit_of_build {family : Family} {o : Options} {d : Dialect}
    (h : family.build o = .ok d) :
    d.rules.maxLength ≤ 128 ∧
      (d.rules.maxLength = 0 ↔ family = .postgres ∧ o.maxIdentifierLength = 0) := by
  cases family with
  | standard =>
      cases h
      exact ⟨le_rfl, fun hZero => absurd hZero (by decide), nofun⟩
  | postgres =>
      cases h
      show min o.maxIdentifierLength 63 ≤ 128 ∧ (min o.maxIdentifierLength 63 = 0 ↔ _)
      rw [and_iff_right rfl]
      omega
  | sqlServer driver =>
      rw [Family.build, SqlServer.dialect] at h
      split at h
      · cases h
      · rename_i hLimit
        cases h
        rw [not_or, Nat.not_lt] at hLimit
        exact ⟨hLimit.2, fun hZero => absurd hZero hLimit.1, nofun⟩

/-- No dialect of the registry takes names of more than 128 characters, and only
the family of PostgreSQL can be asked for a limit of zero. -/
theorem Registry.limit_of_load {r : Registry} {scheme : String} {o : Options} {d : Dialect}
    (h : r.load scheme o = .ok d) :
    d.rules.maxLength ≤ 128 ∧
      (d.rules.maxLength = 0 ↔ r.get? scheme = some .postgres ∧ o.maxIdentifierLength = 0) := by
  rw [load] at h
  split at h
  · rename_i family hFamily
    rw [hFamily, Option.some.injEq]
    exact Family.limit_of_build h
  · cases h

/-- A SELECT that is written as it stands has no more named columns than there
are names within the limit. -/
theorem Statement.named_le_of_compile {t : Target} {mode : ParameterMode} {s : Select}
    {c : Compiled} (hOffset : s.offset = none)
    (h : (Statement.query (.select s)).compile t mode = .ok c) :
    (s.columns.filterMap Expr.outputName?).length ≤
      {name : String | name.length ≤ t.rules.maxLength}.ncard := by
  have hDirect : s.Direct t := by
    refine Select.direct_of_not_skipsRows ?_
    rw [Select.skipsRows, hOffset]
    rfl
  obtain ⟨hs, hHeadings⟩ := Select.headings_of_complete hDirect (complete_of_compile h)
  calc (s.columns.filterMap Expr.outputName?).length
      ≤ (hs.flatMap Heading.names).length := length_named_le hHeadings
    _ ≤ _ := t.rules.length_le_ncard (nodup_headings hHeadings).1 (length_headings_le hHeadings)

namespace Registry

/-- The search for free names with the dialects of the registry. Their limits
are at most 128, and 0 only for PostgreSQL under that option. Where the limit
has room for the base with a number as high as there are names taken, the search
ends with the first candidate that is free, as it is. But no limit is enough for
all searches: some names, when taken, are all the candidates there are, for
every base, and the search then ends with nothing. So a SELECT with more named
columns than there are names within the limit is never compiled; where the limit
is 0, two of them are too many. -/
theorem load_name_searches (scheme : String) (o : Options) (d : Dialect)
    (h : full.load scheme o = .ok d) :
    d.rules.maxLength ≤ 128 ∧
    (d.rules.maxLength = 0 ↔ full.get? scheme = some .postgres ∧ o.maxIdentifierLength = 0) ∧
    (∀ (base : String) (taken : List String) (start : Nat),
      (numbered base (start + taken.length)).length ≤ d.rules.maxLength →
      ∃ i ≤ taken.length, d.rules.fresh base taken start = .ok (numbered base (start + i)) ∧
        numbered base (start + i) ∉ taken ∧ ∀ j < i, numbered base (start + j) ∈ taken) ∧
    (∃ taken : List String, ∀ base,
      (∀ n, d.rules.truncate (numbered base n) ∈ taken) ∧
      ∀ start, d.rules.fresh base taken start = .error (.noFreeName base)) ∧
    (∀ (mode : ParameterMode) (s : Select), s.offset = none →
      {name : String | name.length ≤ d.rules.maxLength}.ncard <
        (s.columns.filterMap Expr.outputName?).length →
      ∀ c, (Statement.query (.select s)).compile d.target mode ≠ .ok c) ∧
    (d.rules.maxLength = 0 → {name : String | name.length ≤ d.rules.maxLength}.ncard = 1) := by
  obtain ⟨hLimit, hZero⟩ := limit_of_load h
  refine ⟨hLimit, hZero, fun base taken start => d.rules.fresh_of_room, ?_, ?_, ?_⟩
  · obtain ⟨taken, hTaken⟩ := d.rules.exists_all_taken
    exact ⟨taken, fun base => ⟨fun n => hTaken _, d.rules.fresh_eq_error fun n => hTaken _⟩⟩
  · intro mode s hOffset hMany c hCompile
    exact absurd (Statement.named_le_of_compile hOffset hCompile) (Nat.not_le_of_lt hMany)
  · intro hNone
    have hEmpty : {name : String | name.length ≤ d.rules.maxLength} = {""} := by
      ext name
      simp [hNone]
    rw [hEmpty, Set.ncard_singleton]

theorem load_postgres (o : Options) : full.load "postgresql" o = .ok (Postgres.dialect o) := by
  have hGet : full.get? "postgresql" = some .postgres := by decide
  rw [load, hGet]
  rfl

/-- Names of PostgreSQL, by default and without any characters. -/
theorem load_name_searches_postgres :
    (∃ i ≤ 2, (Postgres.dialect {}).rules.fresh "id" ["id", "id_1"] 0 =
      .ok (numbered "id" (0 + i)) ∧ numbered "id" (0 + i) ∉ ["id", "id_1"]) ∧
    ∀ c, (Statement.query (.select Sample.twoColumns)).compile
      (Postgres.dialect { maxIdentifierLength := 0 }).target .placeholders ≠ .ok c := by
  obtain ⟨-, -, hRoom, -⟩ := load_name_searches "postgresql" {} _ (load_postgres _)
  obtain ⟨i, hi, hFresh, hFree, -⟩ := hRoom "id" ["id", "id_1"] 0 (by decide)
  obtain ⟨-, -, -, -, hMany, hZero⟩ :=
    load_name_searches "postgresql" { maxIdentifierLength := 0 } _ (load_postgres _)
  refine ⟨⟨i, hi, hFresh, hFree⟩, hMany .placeholders Sample.twoColumns rfl ?_⟩
  rw [hZero rfl]
  decide

/-- It is not true that a candidate is always free: names without characters are
all one name. -/
theorem not_forall_name_searches :
    ¬∀ (scheme : String) (o : Options) (d : Dialect), full.load scheme o = .ok d →
      ∀ (base : String) (taken : List String), ∃ n, d.rules.truncate (numbered base n) ∉ taken := by
  intro hAll
  obtain ⟨n, hFree⟩ := hAll "postgresql" { maxIdentifierLength := 0 } _ (load_postgres _) "id" [""]
  have hLength := (Postgres.dialect { maxIdentifierLength := 0 }).rules.length_truncate_le
    (numbered "id" n)
  refine hFree (List.mem_singleton.mpr ?_)
  exact String.length_eq_zero_iff.mp (Nat.le_zero.mp hLength)

end Registry

end SqlStatements
