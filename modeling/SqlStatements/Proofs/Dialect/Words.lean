import SqlStatements.Dialect.SqlServer
import SqlStatements.Proofs.Text.Lacks
import SqlStatements.Proofs.Tree.Strings

/-! The words of a dialect and the types it spells. They bring no sign but those of the
strings they are made from. Numbers and dates may bring one, so what is said about texts
has to hold of those as well. -/
namespace SqlStatements

open Text

def FunctionSpelling.word : FunctionSpelling → String
  | .rename name => name
  | .keyword word => word

/-- A property that texts without the sign and literals have, and that passes to
texts one after the other. -/
structure Text.Law (c : Char) (P : String → Prop) : Prop where
  sign : Sign c
  append : ∀ {x y : String}, P x → P y → P (x ++ y)
  lacks : ∀ {x : String}, Lacks c x → P x
  int : ∀ n : Int, P (toString n)
  literal : ∀ {p : Profile} {caps : Capabilities} {type : SqlType} {v : Value} {x : String},
    p.literalText caps type v = .ok x → LackAll c v.strings → P x

/-- The words of the dialect lack the sign, operators apart, which stand between
blanks. -/
structure Profile.Worded (c : Char) (P : String → Prop) (p : Profile) : Prop where
  opening : c ≠ p.opening
  closing : c ≠ p.closing
  operator : ∀ op, P (" " ++ p.operator op ++ " ")
  function : ∀ entry ∈ p.functions, Lacks c entry.2.word
  type : ∀ s ∈ p.types, ∀ type caps, Lacks c (s.render type caps)

variable {c : Char} {P : String → Prop} {p : Profile} {caps : Capabilities}

/-- Texts made of the characters of words satisfy the law, since the sign is not
among them. -/
theorem Text.Law.plain (law : Law c P) {x : String} (h : Plain x) : P x :=
  law.lacks (h.lacks law.sign)

/-- A text without the sign satisfies the law also between two words. -/
theorem Text.Law.between (law : Law c P) {x y z : String} (hx : Plain x) (hy : Lacks c y)
    (hz : Plain z) : P (x ++ y ++ z) :=
  law.append (law.append (law.plain hx) (law.lacks hy)) (law.plain hz)

/-- Where nothing is asked of texts, only names count. Operators with the sign
are no exception then. -/
theorem Text.law_true (hc : Sign c) : Law c fun _ => True where
  sign := hc
  append := fun _ _ => trivial
  lacks := fun _ => trivial
  int := fun _ => trivial
  literal := fun _ _ => trivial

/-- The words of a dialect lack the sign whatever is asked of its operators. -/
theorem Profile.Worded.names (hp : p.Worded c P) : p.Worded c fun _ => True :=
  { hp with operator := fun _ => trivial }

namespace SqlType

theorem plain_sizedName {name : String} (h : Plain name) (n : Option Nat) :
    Plain (sizedName name n) := by
  cases n <;> simp +decide [sizedName, h]

/-- The column specifications of standard SQL have characters of words only; the
collation is not part of them. -/
theorem plain_standardName (type : SqlType) : Plain type.standardName := by
  cases hKind : type.kind with
  | integer | smallInteger | tinyInteger | bigInteger | text | unicodeText | date | time
  | boolean | null =>
      simp only [standardName, hKind]
      decide
  | float | string | unicode | char | nchar =>
      simp only [standardName, hKind]
      exact plain_sizedName (by decide) _
  | numeric =>
      simp only [standardName, hKind]
      cases type.precision <;> cases type.scale <;> simp +decide [scaledName]
  | dateTime =>
      simp only [standardName, hKind]
      split <;> decide
  | binary =>
      simp only [standardName, hKind]
      cases type.length <;> simp +decide

end SqlType

/-- The types of SQL Server have characters of words only, for either value of
the option that changes their names. -/
theorem SqlServer.plain_types {textAsVarchar : Bool} :
    ∀ s ∈ types textAsVarchar, ∀ type caps, Plain (s.render type caps) := by
  have hSized : ∀ name n, Plain name → Plain (sizedOrMax name n) := by
    intro name n h
    cases n <;> simp +decide [sizedOrMax, h]
  intro s hs type caps
  simp only [types, List.mem_cons, List.not_mem_nil, or_false] at hs
  rcases hs with rfl | rfl | rfl | rfl | rfl | rfl | rfl | rfl | rfl | rfl <;> simp only
  · decide
  · decide
  · split <;> decide
  · split <;> decide
  · exact hSized _ _ (by decide)
  · exact hSized _ _ (by decide)
  · split <;> decide
  · split <;> decide
  · split <;> simp +decide
  · decide

namespace Profile.Worded

variable (law : Law c P) (hp : p.Worded c P)

include hp

theorem lacks_function {name : String} {spelling : FunctionSpelling}
    (h : p.functions.lookup name = some spelling) : Lacks c spelling.word := by
  obtain ⟨before, after, hSplit, _⟩ := List.lookup_eq_some_iff.mp h
  exact hp.function (name, spelling) (by simp [hSplit])

/-- Quotes around a name bring no sign. Which of the two pairs a dialect uses
does not matter. -/
theorem lacks_quote {ident : String} (h : Lacks c ident) : Lacks c ((p.rules caps).quote ident) :=
  IdentifierRules.lacks_quote hp.opening hp.closing h

include law

theorem lacks_dotted {path : String} (h : Lacks c path) : Lacks c ((p.rules caps).dotted path) :=
  IdentifierRules.lacks_dotted hp.opening hp.closing law.sign h

theorem lacks_table {x : Table} (h : LackAll c x.titles) (qualified : Bool) :
    Lacks c ((p.rules caps).table x qualified) := by
  simp only [Table.titles, lackAll_cons] at h
  have hName : Lacks c ((p.rules caps).quote x.name) := hp.lacks_quote h.1
  rw [IdentifierRules.table]
  split
  · rename_i schema hSchema
    have hSchema : Lacks c schema := h.2 schema (by simp [hSchema])
    have hPoint : Plain "." := by decide
    split
    · exact lacks_append.mpr ⟨lacks_append.mpr ⟨hp.lacks_dotted law hSchema,
        hPoint.lacks law.sign⟩, hName⟩
    · exact hName
  · exact hName

/-- The spelling of a type lacks the sign, whether it is one of the dialect or
that of standard SQL. -/
theorem lacks_spelling (type : SqlType) :
    Lacks c (match p.types.find? fun s => s.kind = type.kind with
      | some s => s.render type caps
      | none =>
        if type.kind = .boolean ∧ caps.nativeBoolean = false then "SMALLINT"
        else type.standardName) := by
  split
  · rename_i s hs
    exact hp.type s (List.mem_of_find?_eq_some hs) type caps
  · split
    · exact Plain.lacks (by decide) law.sign
    · exact type.plain_standardName.lacks law.sign

/-- A type name has the sign only if its collation has. -/
theorem lacks_typeName {type : SqlType} (h : LackAll c type.strings) :
    Lacks c (p.typeName caps type) := by
  rw [typeName]
  split
  · rename_i collation hCollation
    have hCollation : Lacks c collation := h collation (by simp [SqlType.strings, hCollation])
    have hWord : Plain " COLLATE " := by decide
    exact lacks_append.mpr ⟨lacks_append.mpr ⟨hp.lacks_spelling law type, hWord.lacks law.sign⟩,
      hCollation⟩
  · exact hp.lacks_spelling law type

end Profile.Worded

end SqlStatements
