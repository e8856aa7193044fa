import Mathlib.Data.List.Nodup
import Mathlib.Logic.Relation
import SqlStatements.Proofs.Text.SortedNames
import SqlStatements.Schema.Catalog

/-! The order in which tables are created. The tables of a catalog are placed by a
search along their references. It comes to an end on every catalog, places each table
once, and puts a table behind the tables it refers to unless these lead back to it. -/
namespace SqlStatements

/-- Whether a table has a foreign key to a table of the given name, on one of
its columns or as a constraint. -/
def Table.RefersTo (t : Table) (name : String) : Prop :=
  (∃ c ∈ t.columns, ∃ column, c.references = some ⟨name, column⟩) ∨
    ∃ label columns targets onDelete onUpdate,
      .foreignKey label columns name targets onDelete onUpdate ∈ t.constraints

namespace Catalog

/-- The dependencies of a table are all tables that it refers to, by a column or
by a constraint. -/
theorem mem_dependencies {t : Table} {name : String} :
    name ∈ dependencies t ↔ t.RefersTo name := by
  rw [dependencies, mem_sortedNames, List.mem_append, Table.RefersTo]
  refine or_congr ?_ ?_
  · simp only [List.mem_filterMap, Option.map_eq_some_iff]
    constructor
    · rintro ⟨c, hc, ⟨_, column⟩, hReference, rfl⟩
      exact ⟨c, hc, column, hReference⟩
    · rintro ⟨c, hc, column, hReference⟩
      exact ⟨c, hc, _, hReference, rfl⟩
  · rw [List.mem_filterMap]
    constructor
    · rintro ⟨c, hc, hTarget⟩
      cases c with
      | foreignKey label columns target targets onDelete onUpdate =>
          cases hTarget
          exact ⟨label, columns, targets, onDelete, onUpdate, hc⟩
      | primaryKey | unique | check => cases hTarget
    · rintro ⟨label, columns, targets, onDelete, onUpdate, hc⟩
      exact ⟨_, hc, rfl⟩

/-- The catalogs that come from filing tables one after the other. What is
refused changes nothing. -/
inductive Filed : Catalog → Prop where
  | empty : Filed {}
  | add {catalog later : Catalog} {table filed : Table} (prior : Filed catalog)
      (last : catalog.add table = .ok (later, filed)) : Filed later

/-- Whether a table is filed under its name. -/
def Holds (catalog : Catalog) (t : Table) : Prop := catalog.tables.find? t.key.text = some t

/-- Whether two tables of a catalog are linked by a foreign key. -/
def Refers (catalog : Catalog) (u v : Table) : Prop :=
  catalog.Holds u ∧ catalog.Holds v ∧ u.RefersTo v.key.text

/-- Whether foreign keys lead from one table to another, over any number of
tables of the catalog. -/
def Reaches (catalog : Catalog) : Table → Table → Prop := Relation.ReflTransGen catalog.Refers

/-- A catalog has one table under a name. -/
theorem Holds.eq_of_key {catalog : Catalog} {u v : Table} (hu : catalog.Holds u)
    (hv : catalog.Holds v) (hKey : u.key.text = v.key.text) : u = v := by
  rw [Holds, hKey] at hu
  exact Option.some.inj (hu.symm.trans hv)

/-- The names are in order, and every table stands under its own. -/
structure Keyed (catalog : Catalog) : Prop where
  sorted : catalog.tables.Sorted
  holds : ∀ name t, catalog.tables.find? name = some t → name = t.key.text ∧ catalog.Holds t

/-- Filing tables keeps the names in order, with every table under its own
name. -/
theorem Filed.keyed {catalog : Catalog} (h : catalog.Filed) : catalog.Keyed := by
  induction h with
  | empty => exact ⟨List.Pairwise.nil, fun name t hFind => by cases hFind⟩
  | @add catalog later table filed _ last ih =>
      rw [Catalog.add] at last
      split at last
      · split at last
        · cases last
          exact ih
        · cases last
      · cases last
        refine ⟨ih.sorted.insert _ _, ?_⟩
        intro name t hFind
        rw [NameMap.find?_insert] at hFind
        split at hFind
        · rename_i hName
          cases hFind
          refine ⟨hName, ?_⟩
          rw [Holds, NameMap.find?_insert, if_pos rfl]
        · rename_i hOther
          obtain ⟨rfl, hHolds⟩ := ih.holds name t hFind
          refine ⟨rfl, ?_⟩
          rw [Holds, NameMap.find?_insert, if_neg hOther]
          exact hHolds

/-- The order with one more table placed, which is no longer being followed. -/
def Order.place (order : Order) (key : String) (table : Table) : Order :=
  { placed := key :: order.placed, met := order.met.erase key, tables := order.tables ++ [table] }

/-- The order with one more name to be followed. -/
def Order.meet (order : Order) (key : String) : Order := { order with met := key :: order.met }

/-- A search through tables by name, one after the other. It is given by its
rules alone and may go to any depth. -/
inductive Search (catalog : Catalog) : List String → Order → Order → Prop where
  | done (order : Order) : Search catalog [] order order
  | known {key : String} {rest : List String} {order final : Order}
      (hKnown : key ∈ order.placed ∨ key ∈ order.met) (next : Search catalog rest order final) :
      Search catalog (key :: rest) order final
  | missing {key : String} {rest : List String} {order final : Order}
      (hPlaced : key ∉ order.placed) (hMet : key ∉ order.met)
      (hMissing : catalog.tables.find? key = none)
      (next : Search catalog rest (order.meet key) final) :
      Search catalog (key :: rest) order final
  | place {key : String} {rest : List String} {order middle final : Order} {table : Table}
      (hPlaced : key ∉ order.placed) (hMet : key ∉ order.met)
      (hTable : catalog.tables.find? key = some table)
      (inner : Search catalog ((dependencies table).filter (· != key)) (order.meet key) middle)
      (next : Search catalog rest (middle.place key table) final) :
      Search catalog (key :: rest) order final

namespace Search

variable {catalog : Catalog} {keys : List String} {order final : Order}

/-- The rules leave no choice: from one order, a search through the same names
ends in one order only. -/
theorem unique {other : Order} (h : Search catalog keys order final)
    (h' : Search catalog keys order other) : other = final := by
  induction h generalizing other with
  | done => cases h' with | done => rfl
  | known hKnown next ih =>
      cases h' with
      | known _ next' => exact ih next'
      | missing hPlaced hMet => exact absurd hKnown (not_or.mpr ⟨hPlaced, hMet⟩)
      | place hPlaced hMet => exact absurd hKnown (not_or.mpr ⟨hPlaced, hMet⟩)
  | missing hPlaced hMet hMissing next ih =>
      cases h' with
      | known hKnown => exact absurd hKnown (not_or.mpr ⟨hPlaced, hMet⟩)
      | missing _ _ _ next' => exact ih next'
      | place _ _ hTable => cases hMissing.symm.trans hTable
  | place hPlaced hMet hTable inner next ihInner ih =>
      cases h' with
      | known hKnown => exact absurd hKnown (not_or.mpr ⟨hPlaced, hMet⟩)
      | missing _ _ hMissing => cases hMissing.symm.trans hTable
      | place _ _ hTable' inner' next' =>
          cases hTable.symm.trans hTable'
          cases ihInner inner'
          exact ih next'

/-- A search leaves the tables that are being followed as they were. Only names
without a table are kept in mind. -/
theorem met (h : Search catalog keys order final) (hNodup : order.met.Nodup) :
    final.met.Nodup ∧ ∀ name ∈ catalog.tables.names, (name ∈ final.met ↔ name ∈ order.met) := by
  induction h with
  | done => exact ⟨hNodup, fun _ _ => .rfl⟩
  | known _ _ ih => exact ih hNodup
  | @missing key rest order final _ hMet hMissing _ ih =>
      obtain ⟨hFinal, hSame⟩ := ih (List.nodup_cons.mpr ⟨hMet, hNodup⟩)
      refine ⟨hFinal, ?_⟩
      intro name hName
      have hOther : name ≠ key := by
        rintro rfl
        obtain ⟨table, hTable⟩ := NameMap.mem_names_iff.mp hName
        cases hMissing.symm.trans hTable
      rw [hSame name hName, Order.meet, List.mem_cons, or_iff_right hOther]
  | @place key rest order middle final table _ hMet _ _ _ ihInner ih =>
      obtain ⟨hMiddle, hInner⟩ := ihInner (List.nodup_cons.mpr ⟨hMet, hNodup⟩)
      obtain ⟨hFinal, hSame⟩ := ih (hMiddle.erase key)
      refine ⟨hFinal, ?_⟩
      intro name hName
      rw [hSame name hName, Order.place, hMiddle.mem_erase_iff, hInner name hName, Order.meet,
        List.mem_cons]
      constructor
      · rintro ⟨hOther, hSelf | hOld⟩
        · exact absurd hSelf hOther
        · exact hOld
      · intro hOld
        refine ⟨?_, .inr hOld⟩
        rintro rfl
        exact hMet hOld

/-- Tables stay where they are placed. -/
theorem tables_kept (h : Search catalog keys order final) : order.tables <+: final.tables := by
  induction h with
  | done => exact List.prefix_rfl
  | known _ _ ih => exact ih
  | missing _ _ _ _ ih => exact ih
  | place _ _ _ _ _ ihInner ih => exact (ihInner.trans (List.prefix_append _ _)).trans ih

end Search

/-- The number of tables that a search has not met on its way. -/
def unmet (catalog : Catalog) (order : Order) : Nat :=
  (catalog.tables.names.filter fun name => decide (name ∉ order.met)).length

/-- The tables not met depend only on which names of the catalog have been
met. -/
theorem unmet_congr {catalog : Catalog} {order other : Order}
    (h : ∀ name ∈ catalog.tables.names, (name ∈ other.met ↔ name ∈ order.met)) :
    catalog.unmet other = catalog.unmet order := by
  rw [unmet, unmet]
  refine congrArg List.length (List.filter_congr ?_)
  intro name hName
  simp only [h name hName]

/-- Meeting a table leaves one less to be met, which is what the fuel is for.
Names that are no tables do not count. -/
theorem unmet_meet_lt {catalog : Catalog} {order : Order} {key : String}
    (hName : key ∈ catalog.tables.names) (hMet : key ∉ order.met) :
    catalog.unmet (order.meet key) < catalog.unmet order := by
  have hFilter : catalog.tables.names.filter (fun name => decide (name ∉ (order.meet key).met)) =
      (catalog.tables.names.filter fun name => decide (name ∉ order.met)).filter (· != key) := by
    rw [List.filter_filter]
    refine List.filter_congr ?_
    intro name _
    by_cases hSame : name = key <;> simp [Order.meet, hSame]
  rw [unmet, hFilter, unmet, List.length_filter_lt_length_iff_exists]
  exact ⟨key, by simp [hName, hMet], by simp⟩

/-- What one visit does, as far as there is fuel: nothing for a name that was
met, else it follows the name and places its table. -/
theorem visit_cases (catalog : Catalog) (fuel : Nat) (key : String) (order : Order) :
    ((key ∈ order.placed ∨ key ∈ order.met) ∧ catalog.visit (fuel + 1) key order = order) ∨
    key ∉ order.placed ∧ key ∉ order.met ∧
      ((catalog.tables.find? key = none ∧ catalog.visit (fuel + 1) key order = order.meet key) ∨
      ∃ table, catalog.tables.find? key = some table ∧
        catalog.visit (fuel + 1) key order =
          (((dependencies table).filter (· != key)).foldl
            (fun order dependency => catalog.visit fuel dependency order)
            (order.meet key)).place key table) := by
  rw [visit]
  split
  · rename_i hKnown
    exact .inl ⟨by simpa using hKnown, rfl⟩
  · rename_i hNew
    obtain ⟨hPlaced, hMet⟩ : key ∉ order.placed ∧ key ∉ order.met := by simpa using hNew
    refine .inr ⟨hPlaced, hMet, ?_⟩
    dsimp only
    split
    · rename_i hMissing
      exact .inl ⟨hMissing, rfl⟩
    · rename_i table hTable
      exact .inr ⟨table, hTable, rfl⟩

/-- With fuel for every table that is not met yet, visits are a search by the
rules, which know of no fuel. -/
theorem search_visit (catalog : Catalog) (fuel : Nat) (keys : List String) (order : Order)
    (hNodup : order.met.Nodup) (hFuel : catalog.unmet order < fuel) :
    Search catalog keys order
      (keys.foldl (fun order key => catalog.visit fuel key order) order) := by
  induction fuel generalizing keys order with
  | zero => exact absurd hFuel (Nat.not_lt_zero _)
  | succ fuel ihFuel =>
      induction keys generalizing order with
      | nil => exact .done order
      | cons key rest ihKeys =>
          rw [List.foldl_cons]
          rcases catalog.visit_cases fuel key order with ⟨hKnown, hVisit⟩ |
            ⟨hPlaced, hMet, ⟨hMissing, hVisit⟩ | ⟨table, hTable, hVisit⟩⟩
          · rw [hVisit]
            exact .known hKnown (ihKeys order hNodup hFuel)
          · rw [hVisit]
            have hSame : catalog.unmet (order.meet key) = catalog.unmet order := by
              refine unmet_congr fun name hName => ?_
              rw [Order.meet, List.mem_cons, or_iff_right]
              rintro rfl
              obtain ⟨table, hTable⟩ := NameMap.mem_names_iff.mp hName
              cases hMissing.symm.trans hTable
            exact .missing hPlaced hMet hMissing
              (ihKeys _ (List.nodup_cons.mpr ⟨hMet, hNodup⟩) (hSame ▸ hFuel))
          · rw [hVisit]
            have hName : key ∈ catalog.tables.names := NameMap.mem_names_iff.mpr ⟨table, hTable⟩
            have hLess := unmet_meet_lt hName hMet
            have hInner := ihFuel ((dependencies table).filter (· != key)) (order.meet key)
              (List.nodup_cons.mpr ⟨hMet, hNodup⟩) (by omega)
            generalize List.foldl _ (order.meet key) _ = middle at hInner ⊢
            -- After the table is placed, the names met are those met before it.
            obtain ⟨hPlace, hOld⟩ :=
              (Search.place hPlaced hMet hTable hInner (.done _)).met hNodup
            refine .place hPlaced hMet hTable hInner (ihKeys _ hPlace ?_)
            rwa [unmet_congr hOld]

/-- The tables placed so far are those of the catalog that have been left, each
once. Each stands behind the tables it refers to, unless these lead back to
it. -/
structure Order.Sound (catalog : Catalog) (order : Order) : Prop where
  met : order.met.Nodup
  placed : order.placed.reverse = order.tables.map (·.key.text)
  nodup : order.placed.Nodup
  holds : ∀ t ∈ order.tables, catalog.Holds t
  apart : ∀ key ∈ order.met, key ∉ order.placed
  behind : ∀ before u after, order.tables = before ++ u :: after → ∀ v, catalog.Holds v → v ≠ u →
    u.RefersTo v.key.text → ¬catalog.Reaches v u → v ∈ before

namespace Order

variable {catalog : Catalog} {order : Order} {key : String}

theorem sound_empty (catalog : Catalog) : Order.Sound catalog {} where
  met := List.nodup_nil
  placed := rfl
  nodup := List.nodup_nil
  holds := by simp
  apart := by simp
  behind := by simp

/-- The names placed are those of the tables placed. -/
theorem Sound.mem_placed (h : order.Sound catalog) :
    key ∈ order.placed ↔ ∃ t ∈ order.tables, t.key.text = key := by
  rw [← List.mem_reverse, h.placed, List.mem_map]

/-- No table is placed twice. -/
theorem Sound.nodup_tables (h : order.Sound catalog) : order.tables.Nodup := by
  have hNames := List.nodup_reverse.mpr h.nodup
  rw [h.placed] at hNames
  exact hNames.of_map

/-- To follow one more name keeps an order sound, since nothing is placed by
that. -/
theorem Sound.meet (h : order.Sound catalog) (hPlaced : key ∉ order.placed)
    (hMet : key ∉ order.met) : (order.meet key).Sound catalog where
  met := List.nodup_cons.mpr ⟨hMet, h.met⟩
  placed := h.placed
  nodup := h.nodup
  holds := h.holds
  apart := List.forall_mem_cons.mpr ⟨hPlaced, h.apart⟩
  behind := h.behind

/-- A table may be placed once the tables it refers to are, as far as they do
not lead back to it. -/
theorem Sound.place {table : Table} (h : order.Sound catalog) (hTable : catalog.Holds table)
    (hMet : table.key.text ∈ order.met)
    (hBehind : ∀ v, catalog.Holds v → v ≠ table → table.RefersTo v.key.text →
      ¬catalog.Reaches v table → v ∈ order.tables) :
    (order.place table.key.text table).Sound catalog where
  met := h.met.erase _
  placed := by simp [Order.place, h.placed]
  nodup := List.nodup_cons.mpr ⟨h.apart _ hMet, h.nodup⟩
  holds := by
    intro t ht
    rcases List.mem_append.mp ht with ht | ht
    · exact h.holds t ht
    · cases List.mem_singleton.mp ht
      exact hTable
  apart := by
    intro key hKey
    obtain ⟨hOther, hKey⟩ := h.met.mem_erase_iff.mp hKey
    exact List.not_mem_cons_of_ne_of_not_mem hOther (h.apart key hKey)
  behind := by
    intro before u after hTables v hv hOther hRefers hReaches
    rcases List.eq_nil_or_concat after with rfl | ⟨later, last, rfl⟩
    · obtain ⟨rfl, hLast⟩ := List.append_inj' hTables rfl
      cases hLast
      exact hBehind v hv hOther hRefers hReaches
    · rw [List.concat_eq_append, ← List.cons_append, ← List.append_assoc] at hTables
      obtain ⟨hOld, _⟩ := List.append_inj' hTables rfl
      exact h.behind before u later hOld v hv hOther hRefers hReaches

end Order

/-- A search that is entered from tables which lead to where it starts keeps the
order sound, and afterwards the tables it started with are placed, unless they
were being followed from the outset. -/
theorem Search.sound {catalog : Catalog} {keys : List String} {order final : Order}
    (hKeyed : catalog.Keyed) (h : Search catalog keys order final) (hSound : order.Sound catalog)
    (hEntered : ∀ u v, catalog.Holds u → catalog.Holds v → u.key.text ∈ order.met →
      v.key.text ∈ keys → catalog.Reaches u v) :
    final.Sound catalog ∧ ∀ v, catalog.Holds v → v.key.text ∈ keys →
      v ∈ final.tables ∨ v.key.text ∈ order.met := by
  induction h with
  | done => exact ⟨hSound, by simp⟩
  | @known key rest order final hKnown next ih =>
      have hRest := ih hSound fun u v hu hv hMet hKey =>
        hEntered u v hu hv hMet (List.mem_cons_of_mem _ hKey)
      refine ⟨hRest.1, fun v hv hKey => ?_⟩
      rcases List.mem_cons.mp hKey with rfl | hKey
      · rcases hKnown with hPlaced | hMet
        · obtain ⟨t, ht, hSame⟩ := hSound.mem_placed.mp hPlaced
          obtain rfl := (hSound.holds t ht).eq_of_key hv hSame
          exact .inl (next.tables_kept.subset ht)
        · exact .inr hMet
      · exact hRest.2 v hv hKey
  | @missing key rest order final hPlaced hMet hMissing next ih =>
      have hAbsent : ∀ v, catalog.Holds v → v.key.text ≠ key := by
        rintro v hv rfl
        cases hMissing.symm.trans hv
      have hRest := ih (hSound.meet hPlaced hMet) fun u v hu hv hMet hKey =>
        hEntered u v hu hv ((List.mem_cons.mp hMet).resolve_left (hAbsent u hu))
          (List.mem_cons_of_mem _ hKey)
      refine ⟨hRest.1, fun v hv hKey => ?_⟩
      have hKey := (List.mem_cons.mp hKey).resolve_left (hAbsent v hv)
      exact (hRest.2 v hv hKey).imp_right fun hMet =>
        (List.mem_cons.mp hMet).resolve_left (hAbsent v hv)
  | @place key rest order middle final table hPlaced hMet hTable inner next ihInner ih =>
      obtain ⟨rfl, hHolds⟩ := hKeyed.holds key table hTable
      have hInner := ihInner (hSound.meet hPlaced hMet) (by
        intro u v hu hv hMet hKey
        obtain ⟨hDependency, _⟩ := List.mem_filter.mp hKey
        have hStep : catalog.Refers table v := ⟨hHolds, hv, mem_dependencies.mp hDependency⟩
        rcases List.mem_cons.mp hMet with hSelf | hMet
        · rw [hu.eq_of_key hHolds hSelf]
          exact .single hStep
        · exact (hEntered u table hu hHolds hMet (List.mem_cons_self ..)).tail hStep)
      obtain ⟨hNodup, hSame⟩ := inner.met (hSound.meet hPlaced hMet).met
      have hOpen : table.key.text ∈ middle.met :=
        (hSame _ (NameMap.mem_names_iff.mpr ⟨table, hTable⟩)).mpr (List.mem_cons_self ..)
      -- A table referred to is placed by now, or it is being followed and so leads back.
      have hMiddle : (middle.place table.key.text table).Sound catalog := by
        refine hInner.1.place hHolds hOpen ?_
        intro v hv hOther hRefers hReaches
        have hKey : v.key.text ≠ table.key.text := fun hKey => hOther (hv.eq_of_key hHolds hKey)
        have hDependency : v.key.text ∈ (dependencies table).filter (· != table.key.text) :=
          List.mem_filter.mpr ⟨mem_dependencies.mpr hRefers, by simpa using hKey⟩
        refine (hInner.2 v hv hDependency).resolve_right fun hMet => hReaches ?_
        exact hEntered v table hv hHolds ((List.mem_cons.mp hMet).resolve_left hKey)
          (List.mem_cons_self ..)
      have hMetBefore : ∀ v, catalog.Holds v →
          v.key.text ∈ (middle.place table.key.text table).met → v.key.text ∈ order.met := by
        intro v hv hMet
        obtain ⟨hOther, hMet⟩ := hNodup.mem_erase_iff.mp hMet
        have hMet := (hSame _ (NameMap.mem_names_iff.mpr ⟨v, hv⟩)).mp hMet
        exact (List.mem_cons.mp hMet).resolve_left hOther
      have hRest := ih hMiddle fun u v hu hv hMet hKey =>
        hEntered u v hu hv (hMetBefore u hu hMet) (List.mem_cons_of_mem _ hKey)
      refine ⟨hRest.1, fun v hv hKey => ?_⟩
      rcases List.mem_cons.mp hKey with hSelf | hKey
      · rw [hv.eq_of_key hHolds hSelf]
        exact .inl (next.tables_kept.subset (List.mem_append_right _ (List.mem_cons_self ..)))
      · exact (hRest.2 v hv hKey).imp_right (hMetBefore v hv)

/-- What `sorted` does is a search through all names, and nothing is cut off. -/
theorem search_sorted (catalog : Catalog) :
    ∃ order, Search catalog catalog.tables.names {} order ∧ order.tables = catalog.sorted := by
  refine ⟨_, catalog.search_visit (catalog.tables.size + 2) _ _ List.nodup_nil ?_, rfl⟩
  have hNames : catalog.unmet {} ≤ catalog.tables.names.length := List.length_filter_le ..
  have hSize : catalog.tables.names.length = catalog.tables.size := List.length_map _
  omega

/-- The search by which the tables of a catalog are sorted comes to one end. The
tables are listed once each. A table comes before another one that refers to it,
unless it leads back to that one; so without cycles every table comes before
those that refer to it. -/
theorem sorted_order (catalog : Catalog) (h : catalog.Filed) :
    (∃! order, Search catalog catalog.tables.names {} order) ∧
    (∀ order, Search catalog catalog.tables.names {} order → order.tables = catalog.sorted) ∧
    catalog.sorted.Nodup ∧
    (∀ t, t ∈ catalog.sorted ↔ catalog.Holds t) ∧
    (∀ u v, catalog.Holds u → catalog.Holds v → u ≠ v → u.RefersTo v.key.text →
      ¬catalog.Reaches v u → [v, u].Sublist catalog.sorted) ∧
    ((∀ u v, u ≠ v → catalog.Reaches u v → ¬catalog.Reaches v u) →
      ∀ u v, catalog.Holds u → catalog.Holds v → u ≠ v → u.RefersTo v.key.text →
        [v, u].Sublist catalog.sorted) := by
  obtain ⟨order, hSearch, hTables⟩ := catalog.search_sorted
  obtain ⟨hSound, hPlaced⟩ :=
    hSearch.sound h.keyed (Order.sound_empty catalog) (by simp)
  have hMem : ∀ t, t ∈ catalog.sorted ↔ catalog.Holds t := by
    intro t
    rw [← hTables]
    refine ⟨hSound.holds t, fun ht => ?_⟩
    exact (hPlaced t ht (NameMap.mem_names_iff.mpr ⟨t, ht⟩)).resolve_right List.not_mem_nil
  have hBefore : ∀ u v, catalog.Holds u → catalog.Holds v → u ≠ v → u.RefersTo v.key.text →
      ¬catalog.Reaches v u → [v, u].Sublist catalog.sorted := by
    intro u v hu hv hOther hRefers hReaches
    obtain ⟨before, after, hSplit⟩ := List.append_of_mem ((hMem u).mpr hu)
    have hEarlier := hSound.behind before u after (hTables.trans hSplit) v hv hOther.symm hRefers
      hReaches
    rw [hSplit]
    exact (List.singleton_sublist.mpr hEarlier).append
      (List.singleton_sublist.mpr (List.mem_cons_self ..))
  refine ⟨⟨order, hSearch, fun other hOther => hSearch.unique hOther⟩, ?_, ?_, hMem, hBefore, ?_⟩
  · intro other hOther
    rw [hSearch.unique hOther, hTables]
  · rw [← hTables]
    exact hSound.nodup_tables
  · intro hAcyclic u v hu hv hOther hRefers
    exact hBefore u v hu hv hOther hRefers
      (hAcyclic u v hOther (.single ⟨hu, hv, hRefers⟩))

end Catalog

namespace Sample

def branches : Table :=
  { name := "branches"
    columns := [{ Column.named "manager" (.of .integer) with
      references := some ⟨"clerks", "id"⟩ }] }

def clerks : Table :=
  { name := "clerks"
    columns := [Column.named "id" (.of .integer), Column.named "branch" (.of .integer)]
    constraints := [.foreignKey none ["branch"] "branches" ["id"] none none] }

/-- An alarm belongs to a branch, may repeat another alarm, and names a street
that is kept elsewhere. -/
def alarms : Table :=
  { name := "alarms"
    columns := [{ Column.named "street" (.of .integer) with references := some ⟨"streets", "id"⟩ },
      { Column.named "branch" (.of .integer) with references := some ⟨"branches", "id"⟩ },
      { Column.named "repeats" (.of .integer) with references := some ⟨"alarms", "id"⟩ }] }

def bank : Catalog := ⟨⟨[("alarms", alarms), ("branches", branches), ("clerks", clerks)]⟩⟩

/-- Filing asks for different names only: tables may refer to each other, and to
one that is not there. -/
theorem filed_bank : bank.Filed := by
  have hBranches : Catalog.add {} branches = .ok (⟨⟨[("branches", branches)]⟩⟩, branches) := rfl
  have hAlarms : Catalog.add ⟨⟨[("branches", branches)]⟩⟩ alarms =
      .ok (⟨⟨[("alarms", alarms), ("branches", branches)]⟩⟩, alarms) := rfl
  have hClerks : Catalog.add ⟨⟨[("alarms", alarms), ("branches", branches)]⟩⟩ clerks =
      .ok (bank, clerks) := rfl
  exact ((Catalog.Filed.empty.add hBranches).add hAlarms).add hClerks

/-- From branches and clerks no foreign key leads to another table. -/
theorem key_of_reaches {t : Table} (h : bank.Reaches branches t) :
    t.key.text = "branches" ∨ t.key.text = "clerks" := by
  induction h with
  | refl => exact .inl rfl
  | @tail u v _ hStep ih =>
      obtain ⟨hu, _, hRefers⟩ := hStep
      have hDependency := Catalog.mem_dependencies.mpr hRefers
      rw [Catalog.Holds] at hu
      rcases ih with hKey | hKey
      · rw [hKey] at hu
        obtain rfl : branches = u := Option.some.inj hu
        exact .inr (List.mem_singleton.mp hDependency)
      · rw [hKey] at hu
        obtain rfl : clerks = u := Option.some.inj hu
        exact .inl (List.mem_singleton.mp hDependency)

end Sample

/-- Branches and clerks refer to each other, and alarms come after the branches
they refer to. -/
theorem Catalog.sorted_order_bank :
    Sample.bank.Filed ∧ Sample.bank.sorted = [Sample.clerks, Sample.branches, Sample.alarms] ∧
      Sample.bank.Reaches Sample.branches Sample.clerks ∧
      Sample.bank.Reaches Sample.clerks Sample.branches ∧
      Sample.bank.sorted.Nodup ∧ [Sample.branches, Sample.alarms].Sublist Sample.bank.sorted := by
  have hBranches : Sample.bank.Holds Sample.branches := rfl
  have hClerks : Sample.bank.Holds Sample.clerks := rfl
  have hAlarms : Sample.bank.Holds Sample.alarms := rfl
  obtain ⟨_, _, hNodup, _, hBefore, _⟩ := Catalog.sorted_order Sample.bank Sample.filed_bank
  refine ⟨Sample.filed_bank, by decide, .single ⟨hBranches, hClerks, ?_⟩,
    .single ⟨hClerks, hBranches, ?_⟩, hNodup, ?_⟩
  · exact Catalog.mem_dependencies.mp (by decide)
  · exact Catalog.mem_dependencies.mp (by decide)
  · refine hBefore _ _ hAlarms hBranches (by decide) (Catalog.mem_dependencies.mp (by decide)) ?_
    intro hReaches
    have hKey := Sample.key_of_reaches hReaches
    revert hKey
    decide

end SqlStatements
