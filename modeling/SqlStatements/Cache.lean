import SqlStatements.Compiled.Compile

/-! A cache of compiled statements. The key has all that the text depends on:
the statement, the identity of the dialect, what its server can do, and whether
parameters are written out. -/
namespace SqlStatements

/-- What a compiled statement is filed under. -/
structure CacheKey where
  statement : Statement
  dialect : String
  caps : Capabilities
  mode : ParameterMode
deriving DecidableEq

/-- A compiled statement in the cache, with its number among all ever filed. -/
structure CacheEntry where
  key : CacheKey
  compiled : Compiled
  number : Nat

structure Cache where
  entries : List CacheEntry := []
  /-- The number of the next entry. -/
  next : Nat := 0

namespace Cache

def keyOf (s : Statement) (d : Dialect) (mode : ParameterMode) : CacheKey :=
  ⟨s, d.identity, d.capabilities, mode⟩

def find? (c : Cache) (key : CacheKey) : Option CacheEntry :=
  c.entries.find? fun e => e.key = key

def size (c : Cache) : Nat := c.entries.length

def clear (c : Cache) : Cache := { c with entries := [] }

/-- The entry of a statement, which is compiled if there is none. Failures are
not kept. -/
def getOrCompile (c : Cache) (s : Statement) (d : Dialect) (mode : ParameterMode) :
    Except Error CacheEntry × Cache :=
  let key := keyOf s d mode
  match c.find? key with
  | some entry => (.ok entry, c)
  | none =>
    match s.compile ⟨d.profile, key.caps⟩ mode with
    | .ok compiled =>
      let entry : CacheEntry := ⟨key, compiled, c.next⟩
      (.ok entry, { entries := entry :: c.entries, next := c.next + 1 })
    | .error e => (.error e, c)

end Cache

end SqlStatements
