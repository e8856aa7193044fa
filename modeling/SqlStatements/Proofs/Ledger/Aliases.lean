import Mathlib.Data.List.Nodup
import SqlStatements.Proofs.Ledger.Step

/-! The aliases of tables. Which tables get one is settled before a statement is
written out; which ones they get depends on nothing but the order in which these
tables occur. -/
namespace SqlStatements

/-- The aliases given so far. -/
abbrev Aliases := List (TableKey × String)

namespace IdentifierRules

/-- A table in a FROM clause, with its alias if it has one. -/
def source (rules : IdentifierRules) (table : Table) : Option String → String
  | some name => rules.table table true ++ " AS " ++ rules.quote name
  | none => rules.table table true

/-- A table in front of a column, by its alias if it has one. -/
def qualifier (rules : IdentifierRules) (table : Table) : Option String → String
  | some name => rules.quote name
  | none => rules.table table true

/-- Gives a table an alias unless it has one: its name with the first number
that makes it differ from the aliases of other tables. -/
def giveAlias (rules : IdentifierRules) (given : Aliases) (key : TableKey) :
    Except Error Aliases :=
  match given.lookup key with
  | some _ => .ok given
  | none => do
    let name ← rules.fresh key.name (given.map (·.2)) 1
    return given ++ [(key, name)]

def giveAliases (rules : IdentifierRules) (given : Aliases) (keys : List TableKey) :
    Except Error Aliases :=
  keys.foldlM rules.giveAlias given

end IdentifierRules

/-- Whether a table gets an alias. -/
def Setting.aliases (s : Setting) (key : TableKey) : Bool :=
  key.schema.isSome && s.target.caps.aliasQualified && s.changed != some key

/-- The table of a piece that goes by its alias. -/
def Piece.key? : Piece → Option TableKey
  | .source t | .qualifier t => some t.key
  | _ => none

/-- The tables of a draft that get an alias, wherever they occur in it. -/
def Setting.aliasedKeys (s : Setting) (d : Draft) : List TableKey :=
  (d.filterMap Piece.key?).filter s.aliases

theorem mem_of_lookup {given : Aliases} {key : TableKey} {name : String}
    (h : given.lookup key = some name) : (key, name) ∈ given := by
  obtain ⟨before, after, rfl, -⟩ := List.lookup_eq_some_iff.mp h
  exact List.mem_append_right _ (List.mem_cons_self ..)

/-- A new alias is found behind those of other tables. -/
theorem lookup_concat {given : Aliases} {key : TableKey} (name : String)
    (h : given.lookup key = none) : (given ++ [(key, name)]).lookup key = some name := by
  rw [List.lookup_append, h]
  simp

namespace IdentifierRules

variable {rules : IdentifierRules} {given given' : Aliases} {key other : TableKey}
  {keys : List TableKey}

/-- What giving an alias can do: nothing where the table has one, else it adds a
new one that no other table has. -/
theorem giveAlias_cases (h : rules.giveAlias given key = .ok given') :
    (given' = given ∧ ∃ name, given.lookup key = some name) ∨
    (given.lookup key = none ∧ ∃ name, rules.fresh key.name (given.map (·.2)) 1 = .ok name ∧
      given' = given ++ [(key, name)]) := by
  rw [giveAlias] at h
  split at h
  · rename_i name hName
    cases h
    exact .inl ⟨rfl, name, hName⟩
  · rename_i hNone
    obtain ⟨name, hFresh, h⟩ := exists_ok_of_bind_ok h
    cases h
    exact .inr ⟨hNone, name, hFresh, rfl⟩

/-- Aliases stay. -/
theorem giveAlias_lookup (h : rules.giveAlias given key = .ok given') {name : String}
    (hName : given.lookup other = some name) : given'.lookup other = some name := by
  rcases giveAlias_cases h with ⟨rfl, -⟩ | ⟨-, fresh, -, rfl⟩
  · exact hName
  · rw [List.lookup_append, hName]
    rfl

/-- A table has an alias afterwards, its old one if there was one. -/
theorem exists_lookup_giveAlias (h : rules.giveAlias given key = .ok given') :
    ∃ name, given'.lookup key = some name := by
  rcases giveAlias_cases h with ⟨rfl, hName⟩ | ⟨hNone, fresh, -, rfl⟩
  · exact hName
  · exact ⟨fresh, lookup_concat fresh hNone⟩

/-- No other table gets an alias. -/
theorem giveAlias_lookup_other (h : rules.giveAlias given key = .ok given') (hOther : other ≠ key) :
    given'.lookup other = given.lookup other := by
  rcases giveAlias_cases h with ⟨rfl, -⟩ | ⟨-, fresh, -, rfl⟩
  · rfl
  · rw [List.lookup_append]
    have hNone : List.lookup other [(key, fresh)] = none := by
      simpa [List.lookup_eq_none_iff] using hOther
    rw [hNone, Option.or_none]

/-- Aliases are made from the names of their tables, and no two are alike. -/
structure Distinct (rules : IdentifierRules) (given : Aliases) : Prop where
  nodup : (given.map (·.2)).Nodup
  made : ∀ entry ∈ given, ∃ i, entry.2 = rules.truncate (numbered entry.1.name (i + 1))

theorem distinct_nil (rules : IdentifierRules) : rules.Distinct [] where
  nodup := List.nodup_nil
  made := by simp

/-- No two tables share an alias. -/
theorem Distinct.injective (h : rules.Distinct given) {name : String}
    (hKey : given.lookup key = some name) (hOther : given.lookup other = some name) :
    key = other :=
  congrArg Prod.fst
    (List.inj_on_of_nodup_map h.nodup (mem_of_lookup hKey) (mem_of_lookup hOther) rfl)

/-- A further alias differs from the others, since it was searched for among
names that are free. -/
theorem Distinct.giveAlias (h : rules.Distinct given)
    (hGive : rules.giveAlias given key = .ok given') : rules.Distinct given' := by
  rcases giveAlias_cases hGive with ⟨rfl, -⟩ | ⟨-, name, hFresh, rfl⟩
  · exact h
  · refine ⟨?_, ?_⟩
    · rw [List.map_append, List.nodup_append]
      refine ⟨h.nodup, List.nodup_singleton _, ?_⟩
      rintro other hOther name' hName rfl
      rw [List.mem_singleton.mp hName] at hOther
      exact fresh_not_mem hFresh hOther
    · intro entry hEntry
      rcases List.mem_append.mp hEntry with hEntry | hEntry
      · exact h.made entry hEntry
      · obtain rfl := List.mem_singleton.mp hEntry
        obtain ⟨i, hName, -⟩ := exists_of_fresh hFresh
        exact ⟨i, by rw [hName, Nat.add_comm]⟩

theorem exists_giveAlias_of_cons (h : rules.giveAliases given (key :: keys) = .ok given') :
    ∃ middle, rules.giveAlias given key = .ok middle ∧
      rules.giveAliases middle keys = .ok given' := by
  rw [IdentifierRules.giveAliases, List.foldlM_cons] at h
  exact exists_ok_of_bind_ok h

/-- What giving one alias preserves is preserved by giving several. By induction
on the tables. -/
theorem giveAliases_invariant {P : Aliases → Prop} (h : rules.giveAliases given keys = .ok given')
    (hStart : P given)
    (hStep : ∀ key ∈ keys, ∀ as as', rules.giveAlias as key = .ok as' → P as → P as') :
    P given' := by
  induction keys generalizing given with
  | nil =>
      cases h
      exact hStart
  | cons key keys ih =>
      obtain ⟨middle, hGive, hRest⟩ := exists_giveAlias_of_cons h
      refine ih hRest (hStep key (List.mem_cons_self ..) given middle hGive hStart) ?_
      exact fun other hOther => hStep other (List.mem_cons_of_mem _ hOther)

/-- An alias that has been given stays, whatever tables come after it. -/
theorem giveAliases_lookup (h : rules.giveAliases given keys = .ok given') {name : String}
    (hName : given.lookup other = some name) : given'.lookup other = some name :=
  giveAliases_invariant h hName fun _ _ _ _ hGive hKnown => giveAlias_lookup hGive hKnown

/-- Aliases given one after the other are distinct. -/
theorem Distinct.giveAliases (h : rules.Distinct given)
    (hGive : rules.giveAliases given keys = .ok given') : rules.Distinct given' :=
  giveAliases_invariant hGive h fun _ _ _ _ hStep hDistinct => hDistinct.giveAlias hStep

/-- Tables that are not among those given an alias do not gain one. -/
theorem giveAliases_lookup_other (h : rules.giveAliases given keys = .ok given')
    (hOther : other ∉ keys) : given'.lookup other = given.lookup other := by
  refine giveAliases_invariant h (P := fun as => as.lookup other = given.lookup other) rfl ?_
  intro key hKey as as' hGive hSame
  have hNew : other ≠ key := by
    rintro rfl
    exact hOther hKey
  rw [giveAlias_lookup_other hGive hNew, hSame]

/-- All the others have one. -/
theorem exists_lookup_giveAliases (h : rules.giveAliases given keys = .ok given')
    (hKey : key ∈ keys) : ∃ name, given'.lookup key = some name := by
  induction keys generalizing given with
  | nil => cases hKey
  | cons first keys ih =>
      obtain ⟨middle, hGive, hRest⟩ := exists_giveAlias_of_cons h
      rcases List.mem_cons.mp hKey with rfl | hKey
      · obtain ⟨name, hName⟩ := exists_lookup_giveAlias hGive
        exact ⟨name, giveAliases_lookup hRest hName⟩
      · exact ih hRest hKey

end IdentifierRules

namespace Ledger

open IdentifierRules

variable {st : Setting} {L M N : Ledger}

/-- Only tables that are to have an alias have got one. -/
def Aliased (st : Setting) (L : Ledger) : Prop :=
  ∀ key, st.aliases key = false → L.aliases.lookup key = none

theorem aliased_empty (st : Setting) : Aliased st {} := fun _ _ => rfl

/-- The alias of a table in terms of the aliases alone. Parameters and positions
play no part. -/
theorem alias?_eq (h : Aliased st L) (key : TableKey) :
    L.alias? st key =
      if st.aliases key then
        (st.target.rules.giveAlias L.aliases key).map fun given =>
          (given.lookup key, { L with aliases := given })
      else .ok (none, L) := by
  have hChecks : (key.schema.isNone ∨ st.target.caps.aliasQualified = false ∨
      st.changed = some key) ↔ st.aliases key = false := by
    rw [Setting.aliases]
    cases key.schema <;> cases st.target.caps.aliasQualified <;> simp
  rw [alias?, giveAlias]
  cases hAliases : st.aliases key with
  -- The table is looked up before it is checked, but only one that gets an alias is found.
  | false => rw [h key hAliases, if_pos (hChecks.mpr hAliases), if_neg Bool.false_ne_true]
  | true =>
      rw [if_pos rfl]
      cases hKnown : L.aliases.lookup key with
      | some name =>
          dsimp only [Except.map]
          rw [hKnown]
      | none =>
          have hGets : ¬(key.schema.isNone ∨ st.target.caps.aliasQualified = false ∨
              st.changed = some key) := by
            rw [hChecks, hAliases]
            simp
          dsimp only
          rw [if_neg hGets]
          cases hFresh : st.target.rules.fresh key.name (L.aliases.map (·.2)) 1 with
          | error e => rfl
          | ok name =>
              show Except.ok (some name, _) = Except.ok (List.lookup key _, _)
              rw [lookup_concat name hKnown]

/-- Looking for an alias gives one to a table that is to have one, and finds
none for any other. -/
theorem alias?_step (h : Aliased st L) {key : TableKey} {name? : Option String}
    (hAlias : L.alias? st key = .ok (name?, M)) :
    st.target.rules.giveAliases L.aliases ([key].filter st.aliases) = .ok M.aliases ∧
      name? = M.aliases.lookup key := by
  rw [alias?_eq h] at hAlias
  cases hGets : st.aliases key with
  | false =>
      rw [hGets, if_neg Bool.false_ne_true] at hAlias
      cases hAlias
      rw [List.filter_cons_of_neg (by simp [hGets])]
      exact ⟨rfl, (h key hGets).symm⟩
  | true =>
      rw [hGets, if_pos rfl] at hAlias
      rw [List.filter_cons_of_pos hGets, List.filter_nil]
      obtain ⟨given, hGive, hAlias⟩ := exists_ok_of_map_ok hAlias
      cases hAlias
      rw [giveAliases, List.foldlM_cons, hGive]
      exact ⟨rfl, rfl⟩

theorem alias?_written (h : Aliased st L) {key : TableKey} {f : Option String → String}
    {text : String}
    (hText : ((L.alias? st key).map fun r => (f r.1, r.2)) = .ok (text, M)) :
    st.target.rules.giveAliases L.aliases ([key].filter st.aliases) = .ok M.aliases ∧
      text = f (M.aliases.lookup key) := by
  obtain ⟨⟨name?, N⟩, hAlias, hText⟩ := exists_ok_of_map_ok hText
  obtain ⟨hGive, hName⟩ := alias?_step h hAlias
  cases hText
  exact ⟨hGive, by rw [hName]⟩

theorem writePiece_source (table : Table) :
    L.writePiece st (.source table) =
      (L.alias? st table.key).map fun r => (st.target.rules.source table r.1, r.2) := by
  rw [writePiece]
  cases L.alias? st table.key with
  | error e => rfl
  | ok r =>
      obtain ⟨name?, N⟩ := r
      cases name? <;> rfl

theorem writePiece_qualifier (table : Table) :
    L.writePiece st (.qualifier table) =
      (L.alias? st table.key).map fun r => (st.target.rules.qualifier table r.1, r.2) := by
  rw [writePiece]
  cases L.alias? st table.key with
  | error e => rfl
  | ok r =>
      obtain ⟨name?, N⟩ := r
      cases name? <;> rfl

/-- No other piece gives an alias: only tables of a FROM clause and qualifiers
do, and only where aliases are wanted. -/
theorem writePiece_aliases (h : Aliased st L) {piece : Piece} {text : String}
    (hPiece : L.writePiece st piece = .ok (text, M)) :
    st.target.rules.giveAliases L.aliases (st.aliasedKeys [piece]) = .ok M.aliases := by
  cases piece with
  | source table =>
      rw [writePiece_source] at hPiece
      exact (alias?_written h hPiece).1
  | qualifier table =>
      rw [writePiece_qualifier] at hPiece
      exact (alias?_written h hPiece).1
  | text | name | table =>
      cases hPiece
      rfl
  | stop e => cases hPiece
  | param p generated =>
      rcases writePiece_cases hPiece with ⟨q, marked, -, -, hSlot⟩ | ⟨hLiteral, -⟩
      · obtain ⟨i, name, new, N, hStep, -, rfl⟩ := slot_step hSlot
        rw [place, hStep.aliases]
        rfl
      · rw [writePiece, (hLiteral p generated rfl).1] at hPiece
        obtain ⟨x, -, hPiece⟩ := exists_ok_of_bind_ok hPiece
        cases hPiece
        rfl

/-- Giving aliases to such tables only leaves all others without one. -/
theorem Aliased.giveAliases (h : Aliased st L) {keys : List TableKey}
    (hGive : st.target.rules.giveAliases L.aliases (keys.filter st.aliases) = .ok M.aliases) :
    Aliased st M := by
  intro key hKey
  rw [giveAliases_lookup_other hGive ?_, h key hKey]
  intro hMem
  rw [(List.mem_filter.mp hMem).2] at hKey
  cases hKey

/-- The aliases after a draft are those given to its tables, in the order in
which they occur. Nothing else in the draft has a bearing on them. -/
theorem write_aliases (h : Aliased st L) {d : Draft} {texts : List String}
    (hWrite : L.write st d = .ok (texts, M)) :
    st.target.rules.giveAliases L.aliases (st.aliasedKeys d) = .ok M.aliases := by
  induction d generalizing L texts with
  | nil =>
      cases hWrite
      rfl
  | cons piece d ih =>
      obtain ⟨text, N, rest, hPiece, hRest, -⟩ := write_cons hWrite
      have hFirst := writePiece_aliases h hPiece
      have hKeys : st.aliasedKeys (piece :: d) = st.aliasedKeys [piece] ++ st.aliasedKeys d := by
        rw [Setting.aliasedKeys, ← List.singleton_append, List.filterMap_append, List.filter_append]
        rfl
      rw [hKeys, IdentifierRules.giveAliases, List.foldlM_append]
      rw [IdentifierRules.giveAliases] at hFirst
      rw [hFirst]
      exact ih (h.giveAliases hFirst) hRest

end Ledger

end SqlStatements
