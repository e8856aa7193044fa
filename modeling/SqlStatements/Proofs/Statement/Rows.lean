import Mathlib.Data.List.Forall2
import Mathlib.Data.List.Nodup
import SqlStatements.Proofs.Identifier.Fresh
import SqlStatements.Proofs.Ledger.Step
import SqlStatements.Proofs.Text.SortedNames
import SqlStatements.Statement.Assignment

/-! The rows of an insertion as they were given. Of the values given for a key the last one
counts, so the insertion is known from the last values. Each cell takes its value from a
parameter of its own, because column keys and row numbers can be told apart in its key. -/
namespace SqlStatements

/-- The value of an operand that is a plain one. -/
def Operand.value? : Operand → Option Value
  | .value v => some v
  | .expr _ => none

/-- The last operand given for a key. -/
def lastGiven (row : Assignments) (key : String) : Option Operand :=
  (row.reverse.find? fun given => given.1 == key).map (·.2)

/-- The plain value that counts for a key. -/
def lastValue? (row : Assignments) (key : String) : Option Value :=
  (lastGiven row key).bind Operand.value?

def givenKeys (row : Assignments) : List String := row.map (·.1)

section LastGiven

variable {row other : Assignments} {key : String}

/-- Something is given for a key exactly if the key is among those of the
row. -/
theorem lastGiven_isSome : (lastGiven row key).isSome ↔ key ∈ givenKeys row := by
  simp [lastGiven, givenKeys]

theorem mem_of_lastGiven {given : Operand} (h : lastGiven row key = some given) :
    (key, given) ∈ row := by
  obtain ⟨⟨k, _⟩, hFind, rfl⟩ := Option.map_eq_some_iff.mp h
  obtain rfl : k = key := by simpa using List.find?_some hFind
  exact List.mem_reverse.mp (List.mem_of_find?_eq_some hFind)

/-- Rows with the same last values have the same keys. -/
theorem mem_givenKeys_congr (h : ∀ key, lastGiven row key = lastGiven other key) :
    key ∈ givenKeys row ↔ key ∈ givenKeys other := by
  rw [← lastGiven_isSome, ← lastGiven_isSome, h]

/-- Rows have the same keys if each key of one is a key of the other. How often
and in which order they come does not count. -/
theorem sameKeys_iff :
    sameKeys row other = true ↔ ∀ key, key ∈ givenKeys row ↔ key ∈ givenKeys other := by
  simp only [sameKeys, Bool.and_eq_true, List.all_eq_true, List.any_eq_true, beq_iff_eq, givenKeys,
    List.mem_map]
  constructor
  · rintro ⟨hLeft, hRight⟩ key
    constructor
    · rintro ⟨given, hGiven, rfl⟩
      exact hLeft given hGiven
    · rintro ⟨given, hGiven, rfl⟩
      exact hRight given hGiven
  · intro h
    exact ⟨fun given hGiven => (h given.1).mp ⟨given, hGiven, rfl⟩,
      fun given hGiven => (h given.1).mpr ⟨given, hGiven, rfl⟩⟩

end LastGiven

/-- The columns with one of the keys, in the order of the table. -/
def Table.keyed (t : Table) (keys : List String) : List Column :=
  t.columns.filter fun c => keys.contains c.key

namespace Table

/-- If no key is found twice, the keys differ from each other and from those
seen before. -/
theorem nodup_of_duplicate?_eq_none {seen : List String} {columns : List Column}
    (h : duplicate? seen columns = none) :
    (columns.map (·.key)).Nodup ∧ ∀ c ∈ columns, c.key ∉ seen := by
  induction columns generalizing seen with
  | nil => simp
  | cons c rest ih =>
      rw [duplicate?] at h
      split at h
      · cases h
      · rename_i hNew
        obtain ⟨hNodup, hLater⟩ := ih h
        refine ⟨?_, ?_⟩
        · rw [List.map_cons, List.nodup_cons]
          refine ⟨?_, hNodup⟩
          intro hAgain
          obtain ⟨other, hOther, hKey⟩ := List.mem_map.mp hAgain
          exact hLater other hOther (hKey ▸ List.mem_cons_self ..)
        · rw [List.forall_mem_cons]
          refine ⟨by simpa using hNew, ?_⟩
          intro other hOther hSeen
          exact hLater other hOther (List.mem_cons_of_mem _ hSeen)

/-- A table that is accepted has no key twice. -/
theorem nodup_keys {t : Table} (h : t.checked = .ok t) : (t.columns.map (·.key)).Nodup := by
  rw [checked] at h
  split at h
  · cases h
  · rename_i hNone
    exact (nodup_of_duplicate?_eq_none hNone).1

/-- In a table that was checked, the columns of some keys have different
keys. -/
theorem nodup_keyed {t : Table} (h : t.checked = .ok t) (keys : List String) :
    ((t.keyed keys).map (·.key)).Nodup :=
  (nodup_keys h).sublist (List.filter_sublist.map _)

/-- The columns with a value are those of the keys, in the order of the table
and not in that of the row. -/
theorem assigned_eq {t : Table} {row : Assignments} {keys : List String}
    (h : ∀ key, key ∈ givenKeys row ↔ key ∈ keys) : t.assigned row = t.keyed keys := by
  apply List.filter_congr
  intro c _
  rw [Bool.eq_iff_iff, List.contains_iff_mem, ← h]
  simp [givenKeys]

/-- Keys are refused together, each once and in order, and the error names all
of them. -/
theorem checkKeys_error {t : Table} {keys : List String}
    (h : ∃ key ∈ keys, t.column? key = none) :
    ∃ names, t.checkKeys keys = .error (.unconsumed names) ∧ names.Pairwise (· < ·) ∧
      ∀ key, key ∈ names ↔ key ∈ keys ∧ t.column? key = none := by
  have hNames : ∀ key, key ∈ sortedNames (keys.filter fun key => (t.column? key).isNone) ↔
      key ∈ keys ∧ t.column? key = none := by
    intro key
    rw [mem_sortedNames, List.mem_filter, Option.isNone_iff_eq_none]
  obtain ⟨key, hKey⟩ := h
  refine ⟨_, ?_, pairwise_sortedNames _, hNames⟩
  rw [checkKeys]
  split
  · rename_i hNil
    exact absurd ((hNames key).mpr hKey) (by simp [hNil])
  · rfl

/-- Keys that pass the check name columns. -/
theorem isSome_of_checkKeys {t : Table} {keys : List String} (h : t.checkKeys keys = .ok ()) :
    ∀ key ∈ keys, (t.column? key).isSome := by
  intro key hKey
  by_contra hNone
  obtain ⟨names, hError, _⟩ := checkKeys_error ⟨key, hKey, by simpa using hNone⟩
  rw [h] at hError
  cases hError

/-- A row whose keys name columns leaves out all columns only if it is empty. -/
theorem assigned_eq_nil_iff {t : Table} {row : Assignments}
    (h : ∀ key ∈ givenKeys row, (t.column? key).isSome) : t.assigned row = [] ↔ row = [] := by
  constructor
  · intro hNone
    cases row with
    | nil => rfl
    | cons given rest =>
        obtain ⟨c, hc⟩ := Option.isSome_iff_exists.mp (h given.1 (List.mem_cons_self ..))
        have hKey : c.key = given.1 := by simpa using List.find?_some hc
        have hAssigned : c ∈ t.assigned (given :: rest) := by
          refine List.mem_filter.mpr ⟨List.mem_of_find?_eq_some hc, ?_⟩
          simp [hKey]
        rw [hNone] at hAssigned
        cases hAssigned
  · rintro rfl
    exact List.filter_eq_nil_iff.mpr (by simp)

/-- Keys that name columns of the table are not refused. -/
theorem checkKeys_ok {t : Table} {keys : List String} (h : ∀ key ∈ keys, (t.column? key).isSome) :
    t.checkKeys keys = .ok () := by
  have hNone : (keys.filter fun key => (t.column? key).isNone) = [] := by
    rw [List.filter_eq_nil_iff]
    intro key hKey
    simpa using Option.isSome_iff_ne_none.mp (h key hKey)
  rw [checkKeys, hNone]
  rfl

end Table

namespace Column

/-- A cell holds the last operand given for its column. -/
theorem cell_eq (c : Column) (row : Assignments) (key : String) :
    c.cell row key =
      match lastGiven row c.key with
      | some (.expr e) => e
      | some (.value v) => .param ⟨key, some v, c.type, false⟩
      | none => .param ⟨key, none, c.type, false⟩ := by
  rw [cell, lastGiven]
  cases row.reverse.find? fun given => given.1 == c.key with
  | none => rfl
  | some given =>
      obtain ⟨_, operand⟩ := given
      cases operand <;> rfl

/-- A plain value is taken from a parameter. -/
theorem cell_of_value {c : Column} {row : Assignments} (key : String) {v : Value}
    (h : lastGiven row c.key = some (.value v)) :
    c.cell row key = .param ⟨key, lastValue? row c.key, c.type, false⟩ := by
  rw [cell_eq, lastValue?, h]
  rfl

end Column

namespace Insert

/-- The key of the parameter for a cell. -/
def cellKey (count i : Nat) (key : String) : String :=
  if count = 1 then key else key ++ "_m" ++ toString i

/-- The number of a row can be read off the end of a key, because it has digits
only and comes after a letter. So keys that look numbered themselves do no
harm. -/
theorem numberedKey_injective {key key' : String} {i j : Nat}
    (h : key ++ "_m" ++ toString i = key' ++ "_m" ++ toString j) : key = key' ∧ i = j := by
  have hDigits : ∀ (n : Nat) (c : Char), c ∈ (toString n).toList.reverse → c.isDigit = true := by
    intro n c hc
    rw [List.mem_reverse, Nat.toString_eq_repr, Nat.toList_repr] at hc
    exact Nat.isDigit_of_mem_toDigits (by decide) (by decide) hc
  have hEnd : ∀ (key : String) (n : Nat), (key ++ "_m" ++ toString n).toList.reverse =
      (toString n).toList.reverse ++ 'm' :: '_' :: key.toList.reverse := by
    intro key n
    simp
  have hRead : ∀ (key : String) (n : Nat),
      (key ++ "_m" ++ toString n).toList.reverse.takeWhile Char.isDigit =
        (toString n).toList.reverse := by
    intro key n
    rw [hEnd, List.takeWhile_append_of_pos (hDigits n), List.takeWhile_cons_of_neg (by decide),
      List.append_nil]
  have hNumber : toString i = toString j := by
    apply String.toList_injective
    apply List.reverse_injective
    rw [← hRead key i, ← hRead key' j, h]
  obtain rfl := toString_nat_injective hNumber
  refine ⟨?_, rfl⟩
  rw [String.append_left_inj, String.append_left_inj] at h
  exact h

/-- Key and row can be told from the key of a cell, as long as the row is one of
those there are. -/
theorem cellKey_injective {count i j : Nat} {key key' : String} (hi : i < count) (hj : j < count)
    (h : cellKey count i key = cellKey count j key') : key = key' ∧ i = j := by
  unfold cellKey at h
  split at h
  · exact ⟨h, by omega⟩
  · exact numberedKey_injective h

/-- The parameters of the cells, row by row. -/
def cellParams (columns : List Column) (rows : List Assignments) : List (List BindParam) :=
  rows.mapIdx fun i row => columns.map fun c =>
    ⟨cellKey rows.length i c.key, lastValue? row c.key, c.type, false⟩

/-- Each row has a cell for each column. -/
theorem length_cellParams (columns : List Column) (rows : List Assignments) :
    (cellParams columns rows).flatten.length = rows.length * columns.length := by
  have hRows : (cellParams columns rows).map List.length =
      List.replicate rows.length columns.length := by
    rw [List.eq_replicate_iff]
    refine ⟨by simp [cellParams], ?_⟩
    intro n hn
    obtain ⟨row, hRow, rfl⟩ := List.mem_map.mp hn
    obtain ⟨i, hi, rfl⟩ := List.mem_mapIdx.mp hRow
    exact List.length_map _
  rw [List.length_flatten, hRows, List.sum_replicate_nat]

/-- No two cells share a parameter, although keys of columns may look like keys
of cells. -/
theorem nodup_cellParams {columns : List Column} (hColumns : (columns.map (·.key)).Nodup)
    (rows : List Assignments) : ((cellParams columns rows).flatten.map (·.key)).Nodup := by
  have hKeys : (cellParams columns rows).flatten.map (·.key) =
      (List.range rows.length).flatMap fun i =>
        (columns.map (·.key)).map (cellKey rows.length i) := by
    rw [List.map_flatten, List.flatMap_def]
    congr 1
    apply List.ext_getElem
    · simp [cellParams]
    · intro i _ _
      simp [cellParams, Function.comp_def]
  rw [hKeys, List.nodup_flatMap]
  constructor
  · intro i hi
    rw [List.mem_range] at hi
    refine hColumns.map_on ?_
    intro key _ key' _ h
    exact (cellKey_injective hi hi h).1
  · refine List.nodup_range.imp_of_mem ?_
    intro i j hi hj hOther name hLeft hRight
    obtain ⟨key, _, rfl⟩ := List.mem_map.mp hLeft
    obtain ⟨key', _, h⟩ := List.mem_map.mp hRight
    exact hOther (cellKey_injective (List.mem_range.mp hj) (List.mem_range.mp hi) h).2.symm

/-- An insertion whose cells are parameters. -/
def ofRows (table : Table) (keys : List String) (rows : List Assignments)
    (returning : List Expr) : Insert :=
  ⟨table, .rows ((table.keyed keys).map (·.name))
    ((cellParams (table.keyed keys) rows).map (·.map .param)), returning⟩

/-- Two rows agree on the values that count. -/
def SameLast (row other : Assignments) : Prop := ∀ key, lastGiven row key = lastGiven other key

/-- Only the values that count matter for the parameters; those given before
them for the same key do not. -/
theorem cellParams_congr (columns : List Column) {rows others : List Assignments}
    (h : List.Forall₂ SameLast rows others) :
    cellParams columns rows = cellParams columns others := by
  apply List.ext_getElem
  · simp [cellParams, h.length_eq]
  · intro i hi hi'
    have hRow : i < rows.length := by simpa [cellParams] using hi
    have hOther : i < others.length := by simpa [cellParams] using hi'
    have hSame : SameLast rows[i] others[i] := h.get hRow hOther
    simp only [cellParams, List.getElem_mapIdx, h.length_eq, lastValue?, hSame _]

/-- Rows that give plain values to the same columns, those with the keys. -/
structure PlainRows (table : Table) (keys : List String) (rows : List Assignments) : Prop where
  rows_ne : rows ≠ []
  keys_ne : keys ≠ []
  known : ∀ key ∈ keys, (table.column? key).isSome
  given : ∀ row ∈ rows, ∀ key, key ∈ givenKeys row ↔ key ∈ keys
  /-- Earlier operands for a key do not count. -/
  plain : ∀ row ∈ rows, ∀ key operand, lastGiven row key = some operand → ∃ v, operand = .value v

namespace PlainRows

variable {table : Table} {keys : List String} {rows others : List Assignments}

/-- Rows without expressions are plain, as soon as their keys are those of
columns and the same in each row. -/
theorem of_values (hRows : rows ≠ []) (hKeys : keys ≠ [])
    (hKnown : ∀ key ∈ keys, (table.column? key).isSome)
    (hGiven : ∀ row ∈ rows, ∀ key, key ∈ givenKeys row ↔ key ∈ keys)
    (hValues : ∀ row ∈ rows, ∀ given ∈ row, given.2.value?.isSome) :
    PlainRows table keys rows := by
  refine ⟨hRows, hKeys, hKnown, hGiven, ?_⟩
  intro row hRow key operand hLast
  have hValue := hValues row hRow _ (mem_of_lastGiven hLast)
  cases operand with
  | value v => exact ⟨v, rfl⟩
  | expr e => cases hValue

theorem congr (h : PlainRows table keys rows) (hSame : List.Forall₂ SameLast rows others) :
    PlainRows table keys others := by
  have hBack : ∀ other ∈ others, ∃ row ∈ rows, SameLast row other := by
    intro other hOther
    obtain ⟨i, hi, rfl⟩ := List.getElem_of_mem hOther
    have hi' : i < rows.length := hSame.length_eq ▸ hi
    exact ⟨rows[i], List.getElem_mem hi', hSame.get hi' hi⟩
  refine ⟨?_, h.keys_ne, h.known, ?_, ?_⟩
  · rintro rfl
    exact h.rows_ne (List.forall₂_nil_right_iff.mp hSame)
  · intro other hOther key
    obtain ⟨row, hRow, hLast⟩ := hBack other hOther
    rw [← mem_givenKeys_congr hLast, h.given row hRow]
  · intro other hOther key operand hGiven
    obtain ⟨row, hRow, hLast⟩ := hBack other hOther
    exact h.plain row hRow key operand ((hLast key).trans hGiven)

/-- A cell of plain rows is a parameter with the value that counts. It is
shared, under the key that it is given. -/
theorem cell (h : PlainRows table keys rows) {row : Assignments} (hRow : row ∈ rows) {c : Column}
    (hc : c ∈ table.keyed keys) (key : String) :
    (lastValue? row c.key).isSome ∧
      c.cell row key = .param ⟨key, lastValue? row c.key, c.type, false⟩ := by
  have hKey : c.key ∈ givenKeys row := by
    rw [h.given row hRow]
    simpa [Table.keyed] using (List.mem_filter.mp hc).2
  obtain ⟨operand, hGiven⟩ := Option.isSome_iff_exists.mp (lastGiven_isSome.mpr hKey)
  obtain ⟨v, rfl⟩ := h.plain row hRow _ _ hGiven
  exact ⟨by rw [lastValue?, hGiven]; rfl, Column.cell_of_value key hGiven⟩

/-- Every parameter of plain rows has a value. -/
theorem value_isSome (h : PlainRows table keys rows) :
    ∀ p ∈ (cellParams (table.keyed keys) rows).flatten, p.value.isSome := by
  intro p hp
  obtain ⟨params, hParams, hp⟩ := List.mem_flatten.mp hp
  obtain ⟨i, hi, rfl⟩ := List.mem_mapIdx.mp hParams
  obtain ⟨c, hc, rfl⟩ := List.mem_map.mp hp
  exact (h.cell (List.getElem_mem hi) hc "").1

/-- The rows as they are kept, whether there is one or several: columns in the
order of the table, and a parameter in each cell. -/
theorem rowsSource_eq (h : PlainRows table keys rows) :
    rowsSource table rows = .ok (.rows ((table.keyed keys).map (·.name))
      ((cellParams (table.keyed keys) rows).map (·.map .param))) := by
  have hCells : ∀ name : Nat → String → String,
      (∀ i key, name i key = cellKey rows.length i key) →
      (rows.mapIdx fun i row => (table.keyed keys).map fun c => c.cell row (name i c.key)) =
        (cellParams (table.keyed keys) rows).map (·.map .param) := by
    intro name hName
    apply List.ext_getElem
    · simp [cellParams]
    · intro i hi _
      have hRow : i < rows.length := by simpa using hi
      rw [List.getElem_map, List.getElem_mapIdx]
      simp only [cellParams, List.getElem_mapIdx, List.map_map]
      refine List.map_congr_left ?_
      intro c hc
      rw [(h.cell (List.getElem_mem hRow) hc _).2, hName]
      rfl
  cases rows with
  | nil => exact absurd rfl h.rows_ne
  | cons first rest =>
      have hFirst : table.assigned first = table.keyed keys :=
        Table.assigned_eq (h.given first (List.mem_cons_self ..))
      cases rest with
      | nil =>
          cases first with
          | nil =>
              obtain ⟨key, hKey⟩ := List.exists_mem_of_ne_nil _ h.keys_ne
              cases (h.given [] (List.mem_cons_self ..) key).mpr hKey
          | cons given others =>
              rw [← hCells (fun _ key => key) (fun _ _ => rfl), ← hFirst]
              rfl
      | cons second rest =>
          have hShape : (first :: second :: rest).findIdx? (fun row => !sameKeys row first) =
              none := by
            rw [List.findIdx?_eq_none_iff]
            intro row hRow
            rw [Bool.not_eq_false', sameKeys_iff]
            intro key
            rw [h.given row hRow, h.given first (List.mem_cons_self ..)]
          rw [← hCells (fun i key => key ++ "_m" ++ toString i) (fun _ _ => by simp [cellKey]),
            rowsSource, hShape, hFirst]
          all_goals simp

/-- Plain rows are accepted, in any order of their keys and with values given
twice. -/
theorem build_eq (h : PlainRows table keys rows) (returning : List Expr) :
    Parts.build ⟨table, rows, none, returning⟩ = .ok (ofRows table keys rows returning) := by
  have hKnown : ∀ key ∈ rows.flatMap givenKeys, (table.column? key).isSome := by
    intro key hKey
    obtain ⟨row, hRow, hKey⟩ := List.mem_flatMap.mp hKey
    exact h.known key ((h.given row hRow key).mp hKey)
  show (table.checkKeys (rows.flatMap givenKeys) >>= fun _ => rowsSource table rows >>= _) = _
  rw [Table.checkKeys_ok hKnown, h.rowsSource_eq]
  rfl

end PlainRows

end Insert

end SqlStatements
