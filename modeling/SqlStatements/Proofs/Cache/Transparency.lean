import Mathlib.Data.List.Dedup
import Mathlib.Data.List.Perm.Basic
import Mathlib.Logic.Function.Basic
import SqlStatements.Cache
import SqlStatements.Proofs.Compiled.BindNames
import SqlStatements.Proofs.Dialect.Identity

/-! A cache cannot be told from compiling every time. Calls to a cache and to the
dialects it is used with run side by side with the same calls without a cache; the
two stay in step because a key has all that the result depends on. -/
namespace SqlStatements

namespace Cache

/-- What can be asked of a cache and of the dialects in use, which go by an
index. -/
inductive Call (ι : Type) where
  | compile (s : Statement) (dialect : ι) (mode : ParameterMode)
  | clear
  | probe (dialect : ι) (answer : Probe)

inductive Reply where
  | compiled (result : Except Error Compiled)
  | done
  | failed (e : Error)

def Reply.sql? : Reply → Option String
  | .compiled (.ok c) => some c.sql
  | _ => none

variable {ι : Type}

/-- One of the dialects asks its server. A failure is reported and changes
nothing. -/
def ask [DecidableEq ι] (ds : ι → Dialect) (i : ι) (answer : Probe) : Reply × (ι → Dialect) :=
  match (ds i).probe answer with
  | .ok d => (.done, Function.update ds i d)
  | .error e => (.failed e, ds)

/-- A cache and the dialects it is used with. -/
structure Shop (ι : Type) where
  cache : Cache
  dialects : ι → Dialect

namespace Shop

def call [DecidableEq ι] (shop : Shop ι) : Call ι → Reply × Shop ι
  | .compile s i mode =>
    let answer := shop.cache.getOrCompile s (shop.dialects i) mode
    (.compiled (answer.1.map (·.compiled)), { shop with cache := answer.2 })
  | .clear => (.done, { shop with cache := shop.cache.clear })
  | .probe i answer =>
    let asked := ask shop.dialects i answer
    (asked.1, { shop with dialects := asked.2 })

def calls [DecidableEq ι] (shop : Shop ι) : List (Call ι) → List Reply × Shop ι
  | [] => ([], shop)
  | c :: cs =>
    let first := shop.call c
    let rest := first.2.calls cs
    (first.1 :: rest.1, rest.2)

end Shop

/-- The dialects without a cache, and the keys of all that has been compiled
with success since a cache would have been cleared last. -/
structure Record (ι : Type) where
  dialects : ι → Dialect
  keys : List CacheKey

namespace Record

/-- A single call, for which every statement is compiled. -/
def call [DecidableEq ι] (record : Record ι) : Call ι → Reply × Record ι
  | .compile s i mode =>
    match s.compile (record.dialects i).target mode with
    | .ok c =>
      (.compiled (.ok c),
        { record with keys := keyOf s (record.dialects i) mode :: record.keys })
    | .error e => (.compiled (.error e), record)
  | .clear => (.done, { record with keys := [] })
  | .probe i answer =>
    let asked := ask record.dialects i answer
    (asked.1, { record with dialects := asked.2 })

def calls [DecidableEq ι] (record : Record ι) : List (Call ι) → List Reply × Record ι
  | [] => ([], record)
  | c :: cs =>
    let first := record.call c
    let rest := first.2.calls cs
    (first.1 :: rest.1, rest.2)

end Record

/-- Dialects stay what they are when one of them asks its server. A failed
answer changes nothing, and the others are not involved. -/
theorem ask_stock [DecidableEq ι] {ds : ι → Dialect} (h : ∀ i, (ds i).Stock) (i : ι)
    (answer : Probe) : ∀ j, ((ask ds i answer).2 j).Stock := by
  intro j
  simp only [ask]
  cases hProbe : (ds i).probe answer with
  | error e => exact h j
  | ok d =>
      dsimp only
      by_cases hj : j = i
      · subst j
        rw [Function.update_self]
        exact .probed (h i) answer hProbe
      · rw [Function.update_of_ne hj]
        exact h j

/-- A statement whose key is filed is not compiled again, and the cache stays as
it is. -/
theorem getOrCompile_of_find? {c : Cache} {s : Statement} {d : Dialect} {mode : ParameterMode}
    {e : CacheEntry} (h : c.find? (keyOf s d mode) = some e) :
    c.getOrCompile s d mode = (.ok e, c) := by
  simp only [getOrCompile, h]

/-- A statement whose key is not filed is compiled, and filed in front of the
others under the next number. -/
theorem getOrCompile_of_ok {c : Cache} {s : Statement} {d : Dialect} {mode : ParameterMode}
    {compiled : Compiled} (h : c.find? (keyOf s d mode) = none)
    (hCompile : s.compile d.target mode = .ok compiled) :
    c.getOrCompile s d mode = (.ok ⟨keyOf s d mode, compiled, c.next⟩,
      { entries := ⟨keyOf s d mode, compiled, c.next⟩ :: c.entries, next := c.next + 1 }) := by
  change s.compile ⟨d.profile, (keyOf s d mode).caps⟩ mode = .ok compiled at hCompile
  simp only [getOrCompile, h, hCompile]

/-- A statement that cannot be compiled leaves nothing behind: neither an entry
nor a number that is used up. -/
theorem getOrCompile_of_error {c : Cache} {s : Statement} {d : Dialect} {mode : ParameterMode}
    {e : Error} (h : c.find? (keyOf s d mode) = none)
    (hCompile : s.compile d.target mode = .error e) :
    c.getOrCompile s d mode = (.error e, c) := by
  change s.compile ⟨d.profile, (keyOf s d mode).caps⟩ mode = .error e at hCompile
  simp only [getOrCompile, h, hCompile]

theorem key_not_mem_of_find? {c : Cache} {key : CacheKey} (h : c.find? key = none) :
    key ∉ c.entries.map (·.key) := by
  intro hMem
  obtain ⟨e, he, hKey⟩ := List.mem_map.mp hMem
  have hOther := List.find?_eq_none.mp h e he
  simp [hKey] at hOther

theorem mem_of_find? {c : Cache} {key : CacheKey} {e : CacheEntry} (h : c.find? key = some e) :
    e ∈ c.entries ∧ e.key = key := by
  refine ⟨List.mem_of_find?_eq_some h, ?_⟩
  have hKey := List.find?_some h
  simpa using hKey

/-- A cache in step with what has been compiled without it. An entry has what
compiling under its key gives, for all dialects of the identity in the key. -/
structure InStep (shop : Shop ι) (record : Record ι) : Prop where
  dialects : shop.dialects = record.dialects
  stock : ∀ i, (record.dialects i).Stock
  coherent : ∀ e ∈ shop.cache.entries, ∀ d : Dialect, d.Stock → d.identity = e.key.dialect →
    e.key.statement.compile ⟨d.profile, e.key.caps⟩ e.key.mode = .ok e.compiled
  nodup : (shop.cache.entries.map (·.key)).Nodup
  keys : ∀ key, key ∈ shop.cache.entries.map (·.key) ↔ key ∈ record.keys

namespace InStep

variable {shop : Shop ι} {record : Record ι}

/-- An empty cache is in step with nothing compiled, whatever dialects of the
stock it is used with. -/
theorem start {ds : ι → Dialect} (h : ∀ i, (ds i).Stock) : InStep ⟨{}, ds⟩ ⟨ds, []⟩ where
  dialects := rfl
  stock := h
  coherent := by simp
  nodup := List.nodup_nil
  keys := by simp

/-- What is found in the cache is what compiling gives, for the dialect that
asks and not only for the one that filed it. -/
theorem compile_of_find? (h : InStep shop record) {s : Statement} {i : ι} {mode : ParameterMode}
    {e : CacheEntry} (hFound : shop.cache.find? (keyOf s (shop.dialects i) mode) = some e) :
    s.compile (shop.dialects i).target mode = .ok e.compiled := by
  obtain ⟨he, hKey⟩ := mem_of_find? hFound
  have hStock : (shop.dialects i).Stock := by
    rw [h.dialects]
    exact h.stock i
  have hCoherent := h.coherent e he (shop.dialects i) hStock (by rw [hKey]; rfl)
  rw [hKey] at hCoherent
  exact hCoherent

/-- A new entry keeps the two in step: any other dialect of its identity would
have compiled the same. -/
theorem file (h : InStep shop record) {s : Statement} {i : ι} {mode : ParameterMode}
    {compiled : Compiled} (number next : Nat)
    (hNew : shop.cache.find? (keyOf s (shop.dialects i) mode) = none)
    (hCompile : s.compile (shop.dialects i).target mode = .ok compiled) :
    InStep
      { shop with
        cache := ⟨⟨keyOf s (shop.dialects i) mode, compiled, number⟩ :: shop.cache.entries, next⟩ }
      { record with keys := keyOf s (shop.dialects i) mode :: record.keys } where
  dialects := h.dialects
  stock := h.stock
  coherent := by
    intro e he d hd hIdentity
    rcases List.mem_cons.mp he with rfl | he
    · have hStock : (shop.dialects i).Stock := by
        rw [h.dialects]
        exact h.stock i
      rw [hd.profile_eq hStock hIdentity]
      exact hCompile
    · exact h.coherent e he d hd hIdentity
  nodup := List.nodup_cons.mpr ⟨key_not_mem_of_find? hNew, h.nodup⟩
  keys := by
    intro key
    rw [List.map_cons, List.mem_cons, List.mem_cons, h.keys]

/-- The cache has one entry for each key that was compiled with success since it
was cleared last. -/
theorem size (h : InStep shop record) : shop.cache.size = record.keys.dedup.length := by
  have hSame : (shop.cache.entries.map (·.key)).Perm record.keys.dedup := by
    rw [List.perm_ext_iff_of_nodup h.nodup (List.nodup_dedup _)]
    intro key
    rw [h.keys, List.mem_dedup]
  rw [Cache.size, ← hSame.length_eq, List.length_map]

variable [DecidableEq ι]

/-- A compilation is answered from the cache as it would be without one, and the
two are in step afterwards. This covers a statement that is found and one that
fails. -/
theorem call_compile (h : InStep shop record) (s : Statement) (i : ι) (mode : ParameterMode) :
    (shop.call (.compile s i mode)).1 = (record.call (.compile s i mode)).1 ∧
      InStep (shop.call (.compile s i mode)).2 (record.call (.compile s i mode)).2 := by
  simp only [Shop.call, Record.call, ← h.dialects]
  cases hFound : shop.cache.find? (keyOf s (shop.dialects i) mode) with
  | some e =>
      simp only [getOrCompile_of_find? hFound, h.compile_of_find? hFound]
      -- Without a cache the statement is compiled again, under a key that is on record.
      obtain ⟨he, hKey⟩ := mem_of_find? hFound
      have hOld : keyOf s (shop.dialects i) mode ∈ record.keys := by
        rw [← h.keys, ← hKey]
        exact List.mem_map_of_mem he
      refine ⟨rfl, rfl, ?_, h.coherent, h.nodup, ?_⟩
      · rw [h.dialects]
        exact h.stock
      · intro key
        rw [h.keys, List.mem_cons]
        constructor
        · exact .inr
        · rintro (rfl | hMem)
          · exact hOld
          · exact hMem
  | none =>
      cases hCompile : s.compile (shop.dialects i).target mode with
      | ok compiled =>
          simp only [getOrCompile_of_ok hFound hCompile]
          refine ⟨rfl, ?_⟩
          have hNext := h.file shop.cache.next (shop.cache.next + 1) hFound hCompile
          rw [← h.dialects] at hNext
          exact hNext
      | error e =>
          simp only [getOrCompile_of_error hFound hCompile]
          exact ⟨rfl, h⟩

/-- A statement that does not compile leaves the cache as it was. It is compiled
again whenever it is asked for. -/
theorem call_error (h : InStep shop record) {s : Statement} {i : ι} {mode : ParameterMode}
    {e : Error} (hError : s.compile (shop.dialects i).target mode = .error e) :
    shop.call (.compile s i mode) = (.compiled (.error e), shop) := by
  cases hFound : shop.cache.find? (keyOf s (shop.dialects i) mode) with
  | some entry =>
      rw [h.compile_of_find? hFound] at hError
      cases hError
  | none =>
      simp only [Shop.call, getOrCompile_of_error hFound hError]
      rfl

/-- A call is answered alike with and without the cache, and leaves the two in
step. -/
theorem call (h : InStep shop record) (c : Call ι) :
    (shop.call c).1 = (record.call c).1 ∧ InStep (shop.call c).2 (record.call c).2 := by
  cases c with
  | compile s i mode => exact h.call_compile s i mode
  | clear =>
      refine ⟨rfl, h.dialects, h.stock, ?_, List.nodup_nil, ?_⟩
      · simp [Shop.call, Cache.clear]
      · simp [Shop.call, Record.call, Cache.clear]
  | probe i answer =>
      simp only [Shop.call, Record.call, h.dialects]
      exact ⟨trivial, rfl, ask_stock h.stock i answer, h.coherent, h.nodup, h.keys⟩

/-- So are any calls, one after the other: clearing the cache and probing
servers in between change no answer. -/
theorem calls (h : InStep shop record) (cs : List (Call ι)) :
    (shop.calls cs).1 = (record.calls cs).1 ∧ InStep (shop.calls cs).2 (record.calls cs).2 := by
  induction cs generalizing shop record with
  | nil => exact ⟨rfl, h⟩
  | cons c cs ih =>
      obtain ⟨hReply, hNext⟩ := h.call c
      obtain ⟨hReplies, hLast⟩ := ih hNext
      refine ⟨?_, hLast⟩
      simp only [Shop.calls, Record.calls, hReply, hReplies]

end InStep

/-- Whatever is asked of a cache and of dialects of any families and options,
all answers are those of compiling each statement for its dialect as it then
stands. Failures leave everything as it was. The cache has as many entries as
there are different keys among what has been compiled with success since it was
cleared last. The reason is that dialects of one identity compile every
statement alike for servers of like capabilities. -/
theorem calls_transparent [DecidableEq ι] (ds : ι → Dialect) (hStock : ∀ i, (ds i).Stock)
    (cs : List (Call ι)) :
    (Shop.calls ⟨{}, ds⟩ cs).1 = (Record.calls ⟨ds, []⟩ cs).1 ∧
    (Shop.calls ⟨{}, ds⟩ cs).2.dialects = (Record.calls ⟨ds, []⟩ cs).2.dialects ∧
    (Shop.calls ⟨{}, ds⟩ cs).2.cache.size = (Record.calls ⟨ds, []⟩ cs).2.keys.dedup.length ∧
    (∀ s i mode e,
      s.compile ((Shop.calls ⟨{}, ds⟩ cs).2.dialects i).target mode = .error e →
      (Shop.calls ⟨{}, ds⟩ cs).2.call (.compile s i mode) =
        (.compiled (.error e), (Shop.calls ⟨{}, ds⟩ cs).2)) ∧
    (∀ i answer e, ((Shop.calls ⟨{}, ds⟩ cs).2.dialects i).probe answer = .error e →
      (Shop.calls ⟨{}, ds⟩ cs).2.call (.probe i answer) =
        (.failed e, (Shop.calls ⟨{}, ds⟩ cs).2)) ∧
    (∀ d d' : Dialect, d.Stock → d'.Stock → d.identity = d'.identity →
      ∀ (s : Statement) (caps : Capabilities) (mode : ParameterMode),
        s.compile ⟨d.profile, caps⟩ mode = s.compile ⟨d'.profile, caps⟩ mode) := by
  obtain ⟨hReplies, hInStep⟩ := (InStep.start hStock).calls cs
  refine ⟨hReplies, hInStep.dialects, hInStep.size, ?_, ?_, ?_⟩
  · intro s i mode e hError
    exact hInStep.call_error hError
  · intro i answer e hError
    simp only [Shop.call, ask, hError]
  · intro d d' hd hd' hIdentity s caps mode
    rw [hd.profile_eq hd' hIdentity]

end Cache

namespace Sample

/-- Two dialects of one identity, of which only one takes window functions for
granted. -/
def servers (assured : Bool) : Dialect :=
  SqlServer.build .odbc { hasWindowFunctions := assured, queryTimeout := some 30 }

def laterAccounts : Statement :=
  .query (.select { Select.ofColumns
      [.column ⟨some (.table (.plain accounts)), "id", .of .integer⟩] with
    sources := [.table (.plain accounts)]
    orderBy := [⟨.column ⟨some (.table (.plain accounts)), "id", .of .integer⟩, none, none⟩]
    offset := some 1 })

/-- A page for both dialects, before and after the server of one of them has
answered. -/
def pageCalls : List (Cache.Call Bool) :=
  [.compile laterAccounts false .placeholders, .compile laterAccounts true .placeholders,
    .probe false (.failure "timeout"), .probe false (.version ⟨9, 0, 0⟩),
    .compile laterAccounts false .placeholders]

end Sample

namespace Cache

/-- Once its server has answered, the second dialect is served the entry of the
first. -/
theorem calls_transparent_page :
    (∀ assured, (Sample.servers assured).Stock) ∧
    (Shop.calls ⟨{}, Sample.servers⟩ Sample.pageCalls).1.map Reply.sql? =
      [none, some ("SELECT anon_1.id FROM (SELECT accounts.id AS id, " ++
        "ROW_NUMBER() OVER (ORDER BY accounts.id) AS rn FROM accounts) AS anon_1 WHERE rn > 1"),
        none, none, some ("SELECT anon_1.id FROM (SELECT accounts.id AS id, " ++
        "ROW_NUMBER() OVER (ORDER BY accounts.id) AS rn FROM accounts) AS anon_1 WHERE rn > 1")] ∧
    (Shop.calls ⟨{}, Sample.servers⟩ Sample.pageCalls).2.cache.size = 1 := by
  have hStock : ∀ assured, (Sample.servers assured).Stock := by
    intro assured
    have hBuilt : Family.build (.sqlServer .odbc)
        { hasWindowFunctions := assured, queryTimeout := some 30 } =
          .ok (Sample.servers assured) := rfl
    exact .built hBuilt
  obtain ⟨hReplies, -, hSize, -⟩ := calls_transparent Sample.servers hStock Sample.pageCalls
  rw [hReplies, hSize]
  exact ⟨hStock, by decide +kernel, by decide +kernel⟩

end Cache

end SqlStatements
