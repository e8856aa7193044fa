import SqlStatements.Dialect.SqlServer
import SqlStatements.Proofs.Compiled.ChangedTables
import SqlStatements.Proofs.Ledger.Aliases

/-! The aliases in a compiled statement. A table is known by one alias throughout,
whether it is first met in a FROM clause or in front of a column, and in whichever
query that is. -/
namespace SqlStatements

open IdentifierRules

/-- What is written for a part of a draft that stands behind another one. -/
def Setting.textAfter (st : Setting) (before part : Draft) : Except Error String := do
  let first ← Ledger.write st {} before
  let second ← first.2.write st part
  return String.join second.1

namespace Statement

variable {t : Target} {mode : ParameterMode} {s : Statement} {c : Compiled}

/-- The text of the statement has the given one where the part stands in the
draft between two others. -/
def Puts (t : Target) (mode : ParameterMode) (s : Statement) (c : Compiled)
    (before part after : Draft) (text : String) : Prop :=
  ∃ left right, (s.setting t mode).textAfter [] before = .ok left ∧
    (s.setting t mode).textAfter before part = .ok text ∧
    (s.setting t mode).textAfter (before ++ part) after = .ok right ∧
    c.sql = left ++ text ++ right

/-- Wherever the part of a statement is written out, it reads as the given
text. -/
def Reads (t : Target) (mode : ParameterMode) (s : Statement) (c : Compiled) (n : Node)
    (text : String) : Prop :=
  ∀ depth before after, s.draft t = before ++ n.draft t (pager t depth) ++ after →
    s.Puts t mode c before (n.draft t (pager t depth)) after text

end Statement

namespace Ledger

variable {st : Setting} {L M N : Ledger}

/-- A table that has the alias it is to have keeps it. So does one that is to
have none. -/
theorem lookup_of_write (h : Aliased st L) {d : Draft} {texts : List String}
    (hWrite : L.write st d = .ok (texts, M)) {key : TableKey}
    (hKnown : st.aliases key = true → ∃ name, L.aliases.lookup key = some name) :
    M.aliases.lookup key = L.aliases.lookup key := by
  have hGive := write_aliases h hWrite
  cases hGets : st.aliases key with
  | false => rw [h.giveAliases hGive key hGets, h key hGets]
  | true =>
      obtain ⟨name, hName⟩ := hKnown hGets
      rw [hName, giveAliases_lookup hGive hName]

/-- A piece that goes by the alias of its table is written with the alias that
the table has in the end, whatever follows. -/
theorem write_alias_cons (h : Aliased st L) {piece : Piece} {key : TableKey}
    {f : Option String → String} {rest after : Draft} {ys zs : List String}
    (hPiece : ∀ K : Ledger, K.writePiece st piece =
      (K.alias? st key).map fun r => (f r.1, r.2))
    (hPart : L.write st (piece :: rest) = .ok (ys, M)) (hAfter : M.write st after = .ok (zs, N)) :
    ∃ (K : Ledger) (more : List String), K.write st rest = .ok (more, M) ∧
      ys = f (N.aliases.lookup key) :: more := by
  obtain ⟨text, K, more, hFirst, hRest, rfl⟩ := write_cons hPart
  rw [hPiece] at hFirst
  obtain ⟨hGive, rfl⟩ := alias?_written h hFirst
  refine ⟨K, more, hRest, ?_⟩
  -- Behind the piece the table has its alias, and nothing that follows can change it.
  rw [lookup_of_write (h.giveAliases hGive) (write_append hRest hAfter)]
  intro hGets
  rw [List.filter_cons_of_pos hGets] at hGive
  exact exists_lookup_giveAliases hGive (List.mem_cons_self ..)

end Ledger

namespace Statement

variable {t : Target} {mode : ParameterMode} {s : Statement} {c : Compiled}

/-- The text after a part that was written out before is the text of what
follows, from the ledger that the first part has left. -/
theorem textAfter_eq {st : Setting} {before part : Draft} {xs ys : List String} {L M : Ledger}
    (hBefore : Ledger.write st {} before = .ok (xs, L)) (hPart : L.write st part = .ok (ys, M)) :
    st.textAfter before part = .ok (String.join ys) := by
  rw [Setting.textAfter, hBefore]
  show (L.write st part >>= fun second => pure (String.join second.1)) = _
  rw [hPart]
  rfl

section Texts

variable {texts : List String} {F : Ledger}
  (hWrite : Ledger.write (s.setting t mode) {} (s.draft t) = .ok (texts, F))
  (hText : c.sql = String.join texts)

include hWrite hText

/-- Wherever the draft is cut, its parts are written one after the other. -/
theorem exists_puts {before part after : Draft} (hCut : s.draft t = before ++ part ++ after) :
    ∃ L ys M zs, Ledger.Aliased (s.setting t mode) L ∧
      L.write (s.setting t mode) part = .ok (ys, M) ∧
      M.write (s.setting t mode) after = .ok (zs, F) ∧
      s.Puts t mode c before part after (String.join ys) := by
  rw [hCut] at hWrite
  obtain ⟨front, zs, M, hFront, hAfter, rfl⟩ := Ledger.exists_write_append hWrite
  obtain ⟨xs, ys, L, hBefore, hPart, rfl⟩ := Ledger.exists_write_append hFront
  have hOwn : Ledger.Aliased (s.setting t mode) L :=
    (Ledger.aliased_empty _).giveAliases (Ledger.write_aliases (Ledger.aliased_empty _) hBefore)
  refine ⟨L, ys, M, zs, hOwn, hPart, hAfter, String.join xs, String.join zs,
    textAfter_eq rfl hBefore, textAfter_eq hBefore hPart, textAfter_eq hFront hAfter, ?_⟩
  rw [hText, String.join_append, String.join_append]

/-- A part that begins with a piece that goes by the alias of its table reads
the same wherever it stands, because the alias is that of the finished
ledger. -/
theorem reads_alias {n : Node} {piece : Piece} {key : TableKey} {f : Option String → String}
    {rest : Draft} {more : List String}
    (hDraft : ∀ depth, n.draft t (pager t depth) = piece :: rest)
    (hPiece : ∀ K : Ledger, K.writePiece (s.setting t mode) piece =
      (K.alias? (s.setting t mode) key).map fun r => (f r.1, r.2))
    (hRest : ∀ K : Ledger, K.write (s.setting t mode) rest = .ok (more, K)) :
    s.Reads t mode c n (String.join (f (F.aliases.lookup key) :: more)) := by
  intro depth before after hCut
  obtain ⟨L, ys, M, zs, hOwn, hPart, hAfter, hPuts⟩ := exists_puts hWrite hText hCut
  rw [hDraft] at hPart
  obtain ⟨K, more', hMore, rfl⟩ := Ledger.write_alias_cons hOwn hPiece hPart hAfter
  rw [hRest] at hMore
  cases hMore
  exact hPuts

/-- A table in a FROM clause is written with the alias that the finished ledger
has for it, wherever it stands, so also at the places before the alias was
chosen. -/
theorem reads_source (sc : Scope) (table : Table) :
    s.Reads t mode c (.item sc (.table (.plain table)))
      (t.rules.source table (F.aliases.lookup table.key)) := by
  have hReads := reads_alias hWrite hText (n := .item sc (.table (.plain table)))
    (f := t.rules.source table) (fun _ => rfl) (fun _ => Ledger.writePiece_source table)
    fun _ => rfl
  simpa [String.join] using hReads

/-- A column is qualified by the alias that its table has in the end. A table
without one qualifies by its own name. -/
theorem reads_column (sc : Scope) (table : Table) (name : String) (type : SqlType) :
    s.Reads t mode c (.expr sc (.column ⟨some (.table (.plain table)), name, type⟩))
      (t.rules.qualifier table (F.aliases.lookup table.key) ++ "." ++ t.rules.quote name) := by
  have hReads := reads_alias hWrite hText
    (n := .expr sc (.column ⟨some (.table (.plain table)), name, type⟩))
    (f := t.rules.qualifier table) (fun _ => rfl) (fun _ => Ledger.writePiece_qualifier table)
    fun _ => rfl
  simpa [String.join, setting] using hReads

/-- The star of a table is qualified as its columns are. -/
theorem reads_star (sc : Scope) (table : Table) :
    s.Reads t mode c (.expr sc (.star (some (.table (.plain table)))))
      (t.rules.qualifier table (F.aliases.lookup table.key) ++ ".*") := by
  have hReads := reads_alias hWrite hText (n := .expr sc (.star (some (.table (.plain table)))))
    (f := t.rules.qualifier table) (fun _ => rfl) (fun _ => Ledger.writePiece_qualifier table)
    fun _ => rfl
  simpa [String.join] using hReads

/-- The full name of a table, as it stands where rows are changed. -/
theorem puts_table {before after : Draft} {table : Table}
    (hCut : s.draft t = before ++ [.table table] ++ after) :
    s.Puts t mode c before [.table table] after (t.rules.table table true) := by
  obtain ⟨L, ys, M, zs, -, hPart, -, hPuts⟩ := exists_puts hWrite hText hCut
  cases hPart
  simpa [String.join, setting] using hPuts

end Texts

/-- The aliases at the end of a statement are those of its tables that are to
have one, given in the order of their first occurrence. -/
theorem aliases_of_write {texts : List String} {F : Ledger}
    (hWrite : Ledger.write (s.setting t mode) {} (s.draft t) = .ok (texts, F)) :
    t.rules.giveAliases [] ((s.setting t mode).aliasedKeys (s.draft t)) = .ok F.aliases := by
  have hGive := Ledger.write_aliases (Ledger.aliased_empty _) hWrite
  exact hGive

/-- Where qualified tables get aliases, a table gets one exactly if it has a
schema and is not the one whose rows are changed. -/
theorem aliases_setting {key : TableKey} (hAliases : t.caps.aliasQualified = true) :
    (s.setting t mode).aliases key = true ↔ key.schema.isSome = true ∧ s.changes? ≠ some key := by
  simp [Setting.aliases, setting, hAliases]

/-- Wherever tables of a schema get an alias, a compiled statement knows each of
them by one alias throughout, made from its name, and no two by the same. In a
FROM clause, given or inferred, the table stands with its alias; in front of a
column or a star its alias stands alone, in any clause and at any depth. Tables
without a schema and the table whose rows are changed have no alias and go by
their full names. -/
theorem compile_aliases (t : Target) (hAliases : t.caps.aliasQualified = true)
    (mode : ParameterMode) (s : Statement) (c : Compiled) (h : s.compile t mode = .ok c) :
    ∃ known : TableKey → Option String,
      (∀ key key' name, known key = some name → known key' = some name → key = key') ∧
      (∀ key name, known key = some name → key.schema.isSome = true ∧ s.changes? ≠ some key ∧
        ∃ i, name = t.rules.truncate (numbered key.name (i + 1))) ∧
      (∀ table : Table, .source table ∈ s.draft t ∨ .qualifier table ∈ s.draft t →
        table.schema.isSome = true → s.changes? ≠ some table.key →
        ∃ name, known table.key = some name) ∧
      (∀ n, s.Writes t n → ∃ depth, n.draft t (pager t depth) <:+: s.draft t) ∧
      (∀ sc table, s.Reads t mode c (.item sc (.table (.plain table)))
        (t.rules.source table (known table.key))) ∧
      (∀ sc table name type,
        s.Reads t mode c (.expr sc (.column ⟨some (.table (.plain table)), name, type⟩))
          (t.rules.qualifier table (known table.key) ++ "." ++ t.rules.quote name)) ∧
      (∀ sc table, s.Reads t mode c (.expr sc (.star (some (.table (.plain table)))))
        (t.rules.qualifier table (known table.key) ++ ".*")) ∧
      (∀ before table after, s.draft t = before ++ [.table table] ++ after →
        s.Puts t mode c before [.table table] after (t.rules.table table true)) := by
  obtain ⟨texts, F, hWrite, rfl⟩ := exists_ledger_of_compile h
  have hGive := aliases_of_write hWrite
  have hDistinct := (distinct_nil t.rules).giveAliases hGive
  have hOwn : Ledger.Aliased (s.setting t mode) F := (Ledger.aliased_empty _).giveAliases hGive
  refine ⟨fun key => F.aliases.lookup key, fun _ _ _ => hDistinct.injective, ?_, ?_, ?_,
    reads_source hWrite rfl, reads_column hWrite rfl, reads_star hWrite rfl,
    fun _ _ _ => puts_table hWrite rfl⟩
  · intro key name (hName : F.aliases.lookup key = some name)
    have hGets : (s.setting t mode).aliases key = true := by
      by_contra hNone
      rw [hOwn key (by simpa using hNone)] at hName
      cases hName
    obtain ⟨hSchema, hOther⟩ := (aliases_setting hAliases).mp hGets
    exact ⟨hSchema, hOther, hDistinct.made (key, name) (mem_of_lookup hName)⟩
  · intro table hPiece hSchema hOther
    refine exists_lookup_giveAliases hGive (List.mem_filter.mpr ⟨?_, ?_⟩)
    · rw [List.mem_filterMap]
      rcases hPiece with hPiece | hPiece
      · exact ⟨_, hPiece, rfl⟩
      · exact ⟨_, hPiece, rfl⟩
    · exact (aliases_setting hAliases).mpr ⟨hSchema, hOther⟩
  · intro n hn
    exact hn.within (complete_of_compile h)

end Statement

namespace Sample

def shop (table : Table) : Table := { table with schema := some "shop" }

def server : Target := ⟨SqlServer.profile .odbc false, SqlServer.defaults .odbc {}⟩

/-- The removal of accounts of a shop that have orders. -/
def shopPurge : Statement :=
  .delete ⟨shop accounts, some (.existsIn (.select
    { Select.ofColumns [columnOf (.plain (shop orders)) "id"] with
      condition := some (.binary .eq (columnOf (.plain (shop orders)) "account")
        (columnOf (.plain (shop accounts)) "id"))
      sources := [.table (.plain (shop orders))] }) false), []⟩

end Sample

/-- The orders are known by an alias in front of a column and later in the FROM
clause, the accounts by their name. -/
theorem Statement.compile_aliases_purge :
    ∃ c name, Sample.shopPurge.compile Sample.server .placeholders = .ok c ∧
      c.sql = "DELETE FROM shop.accounts WHERE EXISTS (SELECT orders_1.id " ++
        "FROM shop.orders AS orders_1 WHERE orders_1.account = shop.accounts.id)" ∧
      (∀ sc, Sample.shopPurge.Reads Sample.server .placeholders c
        (.item sc (.table (.plain (Sample.shop Sample.orders))))
        ("shop.orders AS " ++ Sample.server.rules.quote name)) ∧
      (∀ sc, Sample.shopPurge.Reads Sample.server .placeholders c
        (.expr sc (Sample.columnOf (.plain (Sample.shop Sample.orders)) "id"))
        (Sample.server.rules.quote name ++ "." ++ "id")) ∧
      (∀ sc, Sample.shopPurge.Reads Sample.server .placeholders c
        (.expr sc (Sample.columnOf (.plain (Sample.shop Sample.accounts)) "id"))
        "shop.accounts.id") := by
  obtain ⟨c, hCompile, hText⟩ := exists_ok_of_toOption
    (x := Sample.shopPurge.compile Sample.server .placeholders) (f := fun c => c.sql)
    (y := "DELETE FROM shop.accounts WHERE EXISTS (SELECT orders_1.id " ++
      "FROM shop.orders AS orders_1 WHERE orders_1.account = shop.accounts.id)")
    (by decide +kernel)
  obtain ⟨known, -, hOnly, hKnown, -, hSource, hColumn, -⟩ :=
    compile_aliases Sample.server rfl .placeholders Sample.shopPurge c hCompile
  obtain ⟨name, hName⟩ := hKnown (Sample.shop Sample.orders) (.inl (by decide +kernel)) rfl
    (by decide)
  have hNone : known (Sample.shop Sample.accounts).key = none := by
    cases hAccounts : known (Sample.shop Sample.accounts).key with
    | none => rfl
    | some other => exact absurd rfl (hOnly _ _ hAccounts).2.1
  refine ⟨c, name, hCompile, hText, ?_, ?_, ?_⟩
  · intro sc
    have hReads := hSource sc (Sample.shop Sample.orders)
    rw [hName] at hReads
    exact hReads
  · intro sc
    have hReads := hColumn sc (Sample.shop Sample.orders) "id" (.of .integer)
    rw [hName] at hReads
    exact hReads
  · intro sc
    have hReads := hColumn sc (Sample.shop Sample.accounts) "id" (.of .integer)
    rw [hNone] at hReads
    exact hReads

end SqlStatements
