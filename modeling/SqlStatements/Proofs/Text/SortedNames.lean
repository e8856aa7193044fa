import Mathlib.Data.List.Sort
import SqlStatements.Text.NameMap

/-! Names in alphabetical order. A sorted collection has each of its names once, so
it is known from the names alone, and an entry is found under its name. -/
namespace SqlStatements

/-- A set gains the name and loses none. -/
theorem mem_insertName {name other : String} {set : List String} :
    other ∈ insertName name set ↔ other = name ∨ other ∈ set := by
  fun_induction insertName name set with
  | case1 => simp
  | case2 rest => simp
  | case3 first rest _ _ => simp
  | case4 first rest _ _ ih =>
      simp only [List.mem_cons, ih]
      exact or_left_comm

/-- A name finds its place in a sorted set. -/
theorem pairwise_insertName (name : String) {set : List String} (h : set.Pairwise (· < ·)) :
    (insertName name set).Pairwise (· < ·) := by
  fun_induction insertName name set with
  | case1 => exact List.pairwise_singleton _ _
  | case2 rest => exact h
  | case3 first rest _ hBefore =>
      refine List.pairwise_cons.mpr ⟨?_, h⟩
      intro other hOther
      rcases List.mem_cons.mp hOther with rfl | hOther
      · exact hBefore
      · exact String.lt_trans hBefore ((List.pairwise_cons.mp h).1 other hOther)
  | case4 first rest hOther hAfter ih =>
      obtain ⟨hFirst, hRest⟩ := List.pairwise_cons.mp h
      refine List.pairwise_cons.mpr ⟨?_, ih hRest⟩
      intro n hn
      rcases mem_insertName.mp hn with rfl | hn
      · exact Std.lt_of_le_of_ne (String.not_lt.mp hAfter) (Ne.symm hOther)
      · exact hFirst n hn

theorem mem_foldl_insertName (names : List String) {set : List String} {name : String} :
    name ∈ names.foldl (fun set name => insertName name set) set ↔ name ∈ set ∨ name ∈ names := by
  induction names generalizing set with
  | nil => simp
  | cons first rest ih =>
      rw [List.foldl_cons, ih, mem_insertName, List.mem_cons]
      grind

/-- Sorting keeps all names and adds none. -/
theorem mem_sortedNames {names : List String} {name : String} :
    name ∈ sortedNames names ↔ name ∈ names := by
  simp [sortedNames, mem_foldl_insertName]

/-- Sorted names are in ascending order, so none of them occurs twice. -/
theorem pairwise_sortedNames (names : List String) : (sortedNames names).Pairwise (· < ·) := by
  rw [sortedNames]
  refine List.foldlRecOn names _ .nil ?_
  intro set hSet name _
  exact pairwise_insertName name hSet

namespace NameMap

variable {α : Type}

/-- The entries are in the order of their names. -/
def Sorted (map : NameMap α) : Prop := map.names.Pairwise (· < ·)

/-- To file a value under a name adds the name to the others, unless it is
there. -/
theorem names_insert (map : NameMap α) (name : String) (value : α) :
    (map.insert name value).names = insertName name map.names := by
  obtain ⟨entries⟩ := map
  show (put name value entries).map (·.1) = insertName name (entries.map (·.1))
  induction entries with
  | nil => rfl
  | cons entry rest ih =>
      obtain ⟨n, v⟩ := entry
      simp only [put, List.map_cons, insertName]
      split
      · rename_i hSame
        rw [hSame]
        rfl
      · split
        · rfl
        · rw [List.map_cons, ih]

theorem Sorted.insert {map : NameMap α} (h : map.Sorted) (name : String) (value : α) :
    (map.insert name value).Sorted := by
  rw [Sorted, names_insert]
  exact pairwise_insertName name h

theorem mem_entries_of_find? {map : NameMap α} {name : String} {value : α}
    (h : map.find? name = some value) : (name, value) ∈ map.entries := by
  obtain ⟨before, after, hEntries, _⟩ := List.lookup_eq_some_iff.mp h
  rw [hEntries]
  exact List.mem_append_right _ (List.mem_cons_self ..)

/-- The names are those under which something is found. -/
theorem mem_names_iff {map : NameMap α} {name : String} :
    name ∈ map.names ↔ ∃ value, map.find? name = some value := by
  constructor
  · intro hName
    cases hFind : map.find? name with
    | some value => exact ⟨value, rfl⟩
    | none =>
        obtain ⟨entry, hEntry, rfl⟩ := List.mem_map.mp hName
        simpa using List.lookup_eq_none_iff.mp hFind entry hEntry
  · rintro ⟨value, hFind⟩
    exact List.mem_map.mpr ⟨_, mem_entries_of_find? hFind, rfl⟩

end NameMap

end SqlStatements
