import SqlStatements.Proofs.Compiled.Aliases

/-! Aliases next to the other names of a statement. An alias differs from the aliases
of other tables, but it is chosen without regard to the names under which a statement
makes its sources known itself, and may be one of them. -/
namespace SqlStatements

open IdentifierRules

namespace Statement

/-- The names under which a statement makes its sources known, other than the
aliases that tables of a schema are given. -/
inductive Exposes (t : Target) (s : Statement) : String → Prop where
  | aliased {sc : Scope} {table : Table} {name : String}
      (hWrites : s.Writes t (.item sc (.table (.aliased table name)))) : Exposes t s name
  | derived {sc : Scope} {q : Query} {name : String} {lateral : Bool}
      (hWrites : s.Writes t (.item sc (.derived q name lateral))) : Exposes t s name
  | cte {sc : Scope} {outermost : Bool} {sel : Select} {cte : Cte}
      (hWrites : s.Writes t (.query sc outermost (.select sel))) (hDirect : sel.Direct t)
      (hCte : cte ∈ sel.ctes) : Exposes t s cte.name
  | plain {sc : Scope} {table : Table}
      (hWrites : s.Writes t (.item sc (.table (.plain table)))) (hSchema : table.schema = none) :
      Exposes t s table.name
  /-- A member of a compound query that stands in a derived table. -/
  | member {sc : Scope} {outermost : Bool} {op : SetOp} {members : List Query}
      {orderBy : List OrderTerm} {limit offset : Option UInt64} {i : Nat} {q : Query}
      (hWrites : s.Writes t (.query sc outermost (.compound op members orderBy limit offset)))
      (hMember : members[i]? = some q) (hRestricted : q.isRestricted = true) :
      Exposes t s ("anon_" ++ toString (i + 1))

end Statement

/-- The first time that a table occurs, it gets its name with the first number
that no table before it has been given. -/
theorem IdentifierRules.giveAliases_first {rules : IdentifierRules} {given : Aliases}
    {before after : List TableKey} {key : TableKey}
    (h : rules.giveAliases [] (before ++ key :: after) = .ok given) (hFirst : key ∉ before) :
    ∃ earlier i, rules.giveAliases [] before = .ok earlier ∧
      given.lookup key = some (rules.truncate (numbered key.name (i + 1))) ∧
      rules.truncate (numbered key.name (i + 1)) ∉ earlier.map (·.2) ∧
      ∀ j < i, rules.truncate (numbered key.name (j + 1)) ∈ earlier.map (·.2) := by
  rw [giveAliases, List.foldlM_append] at h
  obtain ⟨earlier, hEarlier, h⟩ := exists_ok_of_bind_ok h
  obtain ⟨middle, hGive, hAfter⟩ := exists_giveAlias_of_cons h
  have hNone : earlier.lookup key = none := giveAliases_lookup_other hEarlier hFirst
  rcases giveAlias_cases hGive with ⟨-, name, hName⟩ | ⟨-, name, hFresh, rfl⟩
  · rw [hNone] at hName
    cases hName
  · obtain ⟨i, hName, hTaken⟩ := exists_of_fresh hFresh
    have hNew := fresh_not_mem hFresh
    simp only [Nat.add_comm 1] at hName hTaken
    subst hName
    exact ⟨earlier, i, hEarlier, giveAliases_lookup hAfter (lookup_concat _ hNone), hNew, hTaken⟩

/-- The aliases of a statement depend on nothing but the order in which its
tables of a schema occur: each gets its name with the first number that no table
before it has been given. So no alias is another name that the statement
exposes, as long as none of these is the name of such a table with a number; but
a name that is may be an alias as well, and that of the first such table with
number one always is. -/
theorem Statement.compile_alias_names (t : Target) (mode : ParameterMode) (s : Statement)
    (c : Compiled) (h : s.compile t mode = .ok c) :
    ∃ given : Aliases,
      (∀ sc table, s.Reads t mode c (.item sc (.table (.plain table)))
        (t.rules.source table (given.lookup table.key))) ∧
      (∀ sc table name type,
        s.Reads t mode c (.expr sc (.column ⟨some (.table (.plain table)), name, type⟩))
          (t.rules.qualifier table (given.lookup table.key) ++ "." ++ t.rules.quote name)) ∧
      (∀ before key after,
        (s.setting t mode).aliasedKeys (s.draft t) = before ++ key :: after → key ∉ before →
        ∃ earlier i, t.rules.giveAliases [] before = .ok earlier ∧
          given.lookup key = some (t.rules.truncate (numbered key.name (i + 1))) ∧
          t.rules.truncate (numbered key.name (i + 1)) ∉ earlier.map (·.2) ∧
          ∀ j < i, t.rules.truncate (numbered key.name (j + 1)) ∈ earlier.map (·.2)) ∧
      (∀ name, s.Exposes t name →
        (∀ key ∈ (s.setting t mode).aliasedKeys (s.draft t),
          ∀ i, name ≠ t.rules.truncate (numbered key.name (i + 1))) →
        ∀ key, given.lookup key ≠ some name) ∧
      (∀ key after, (s.setting t mode).aliasedKeys (s.draft t) = key :: after →
        s.Exposes t (t.rules.truncate (numbered key.name 1)) →
        ∃ name, s.Exposes t name ∧ given.lookup key = some name) := by
  obtain ⟨texts, F, hWrite, rfl⟩ := exists_ledger_of_compile h
  have hGive := aliases_of_write hWrite
  refine ⟨F.aliases, reads_source hWrite rfl, reads_column hWrite rfl, ?_, ?_, ?_⟩
  · intro before key after hKeys hFirst
    rw [hKeys] at hGive
    exact giveAliases_first hGive hFirst
  · intro name _ hOther key hName
    have hKey : key ∈ (s.setting t mode).aliasedKeys (s.draft t) := by
      by_contra hNone
      rw [giveAliases_lookup_other hGive hNone] at hName
      cases hName
    have hDistinct := (distinct_nil t.rules).giveAliases hGive
    obtain ⟨i, hMade⟩ := hDistinct.made (key, name) (mem_of_lookup hName)
    exact hOther key hKey i hMade
  · intro key after hKeys hExposes
    rw [hKeys, ← List.nil_append (key :: after)] at hGive
    obtain ⟨earlier, i, hEarlier, hName, -, hTaken⟩ := giveAliases_first hGive List.not_mem_nil
    cases hEarlier
    cases i with
    | zero => exact ⟨_, hExposes, hName⟩
    | succ i => cases hTaken 0 (Nat.succ_pos i)

namespace Sample

def bothOrders : Statement :=
  .query (.select { Select.ofColumns
      [columnOf (.plain { orders with schema := some "depot" }) "id",
        columnOf (.plain (shop orders)) "id"] with
    sources := [.table (.plain (shop orders)),
      .table (.plain { orders with schema := some "depot" })] })

/-- The orders of a shop next to a table under the name that they get as their
alias. -/
def overlap : Select :=
  { Select.ofColumns
      [columnOf (.plain (shop orders)) "id", columnOf (.aliased accounts "orders_1") "balance"] with
    sources := [.table (.plain (shop orders)), .table (.aliased accounts "orders_1")] }

end Sample

/-- The table that comes second in the text gets the second number. -/
theorem Statement.compile_alias_names_orders :
    ∃ c given, Sample.bothOrders.compile Sample.server .placeholders = .ok c ∧
      c.sql = "SELECT orders_1.id, orders_2.id AS id_1 " ++
        "FROM shop.orders AS orders_2, depot.orders AS orders_1" ∧
      (∀ sc, Sample.bothOrders.Reads Sample.server .placeholders c
        (.item sc (.table (.plain (Sample.shop Sample.orders))))
        (Sample.server.rules.source (Sample.shop Sample.orders)
          (List.lookup (Sample.shop Sample.orders).key given))) ∧
      given.lookup ⟨some "depot", "orders"⟩ = some "orders_1" := by
  obtain ⟨c, hCompile, hText⟩ := exists_ok_of_toOption
    (x := Sample.bothOrders.compile Sample.server .placeholders) (f := fun c => c.sql)
    (y := "SELECT orders_1.id, orders_2.id AS id_1 " ++
      "FROM shop.orders AS orders_2, depot.orders AS orders_1")
    (by decide +kernel)
  obtain ⟨given, hReads, -, hRule, -⟩ :=
    compile_alias_names Sample.server .placeholders Sample.bothOrders c hCompile
  have hKeys : (Sample.bothOrders.setting Sample.server .placeholders).aliasedKeys
      (Sample.bothOrders.draft Sample.server) =
        [] ++ ⟨some "depot", "orders"⟩ :: [⟨some "shop", "orders"⟩, ⟨some "shop", "orders"⟩,
          ⟨some "depot", "orders"⟩] := by
    decide
  obtain ⟨earlier, i, hEarlier, hName, -, hTaken⟩ := hRule _ _ _ hKeys List.not_mem_nil
  cases hEarlier
  cases i with
  | zero => exact ⟨c, given, hCompile, hText, fun sc => hReads sc _, hName⟩
  | succ i => cases hTaken 0 (Nat.succ_pos i)

/-- The alias of the orders is the name of the other table, so that both of the
columns seem to belong to one. -/
theorem Statement.compile_alias_clash :
    ∃ c, (Statement.query (.select Sample.overlap)).compile Sample.server .placeholders = .ok c ∧
      c.sql = "SELECT orders_1.id, orders_1.balance " ++
        "FROM shop.orders AS orders_1, accounts AS orders_1" ∧
      (Statement.query (.select Sample.overlap)).Exposes Sample.server "orders_1" ∧
      ∀ sc, (Statement.query (.select Sample.overlap)).Reads Sample.server .placeholders c
        (.item sc (.table (.plain (Sample.shop Sample.orders)))) "shop.orders AS orders_1" := by
  obtain ⟨c, hCompile, hText⟩ := exists_ok_of_toOption
    (x := (Statement.query (.select Sample.overlap)).compile Sample.server .placeholders)
    (f := fun c => c.sql)
    (y := "SELECT orders_1.id, orders_1.balance " ++
      "FROM shop.orders AS orders_1, accounts AS orders_1")
    (by decide)
  refine ⟨c, hCompile, hText, ?_, ?_⟩
  · have hItem : .table (.aliased Sample.accounts "orders_1") ∈
        Scope.outermost.sources Sample.overlap :=
      List.mem_cons_of_mem _ (List.mem_cons_self ..)
    exact .aliased ⟨_, List.mem_cons_self ..,
      .single (.source (Select.direct_of_not_skipsRows rfl) hItem)⟩
  · intro sc
    obtain ⟨texts, F, hWrite, hCompiled⟩ := exists_ledger_of_compile hCompile
    have hReads := reads_source hWrite (congrArg Compiled.sql hCompiled) sc
      (Sample.shop Sample.orders)
    obtain ⟨given, hGive, hAlias⟩ := exists_ok_of_toOption
      (x := Sample.server.rules.giveAliases []
        (((Statement.query (.select Sample.overlap)).setting Sample.server
          .placeholders).aliasedKeys
            ((Statement.query (.select Sample.overlap)).draft Sample.server)))
      (f := fun given => given.lookup (Sample.shop Sample.orders).key) (y := some "orders_1")
      (by decide +kernel)
    rw [aliases_of_write hWrite] at hGive
    cases hGive
    rw [hAlias] at hReads
    exact hReads

end SqlStatements
