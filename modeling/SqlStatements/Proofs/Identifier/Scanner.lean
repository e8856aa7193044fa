import SqlStatements.Proofs.Identifier.Quote
import SqlStatements.Proofs.Text.Delimited

/-! Reading names. A name stands in a text between quotes or as a word; what is written for a
name is read as that name, and as no more than it. So different names are written differently,
and so are tables with different keys. -/
namespace SqlStatements

/-- The characters of words. -/
def isWordChar (c : Char) : Bool := c.isAlphanum || c == '_' || c == '$'

namespace IdentifierRules

/-- Whether the characters make up a word that is read as a name: it does not
start with a digit or a dollar sign, is not reserved, and has no capitals where
words are read in lower case. -/
def isWord (rules : IdentifierRules) : List Char → Bool
  | [] => false
  | first :: rest =>
    !(first.isDigit || first == '$') && (first :: rest).all isWordChar &&
      !rules.reserved.contains (Text.lower (String.ofList (first :: rest))) &&
      !(rules.foldsCase && (first :: rest).any Char.isUpper)

/-- Reads a name at the start of a text. Yields the name and what follows it. -/
def scan (rules : IdentifierRules) : List Char → Option (String × List Char)
  | [] => none
  | first :: rest =>
    if first = rules.opening then
      (Text.readDelimited rules.closing rest).map (Prod.map String.ofList id)
    else
      let word := (first :: rest).takeWhile isWordChar
      if rules.isWord word then some (String.ofList word, (first :: rest).dropWhile isWordChar)
      else none

end IdentifierRules

section Characters

variable {c : Char}

theorem isUpper_iff : c.isUpper = true ↔ 65 ≤ c.val.toNat ∧ c.val.toNat ≤ 90 :=
  decide_eq_true_iff

theorem isLower_iff : c.isLower = true ↔ 97 ≤ c.val.toNat ∧ c.val.toNat ≤ 122 := by
  delta Char.isLower
  rw [Bool.and_eq_true, decide_eq_true_eq, decide_eq_true_eq]
  rfl

theorem isAlpha_iff :
    c.isAlpha = true ↔
      65 ≤ c.val.toNat ∧ c.val.toNat ≤ 90 ∨ 97 ≤ c.val.toNat ∧ c.val.toNat ≤ 122 := by
  rw [← isUpper_iff, ← isLower_iff]
  delta Char.isAlpha
  rw [Bool.or_eq_true]

theorem isLetter_eq (c : Char) : Text.isLetter c = c.isAlpha := by
  rw [Bool.eq_iff_iff, isAlpha_iff, Text.isLetter, Bool.or_eq_true, Bool.and_eq_true,
    Bool.and_eq_true, decide_eq_true_eq, decide_eq_true_eq, decide_eq_true_eq,
    decide_eq_true_eq, or_comm]
  rfl

/-- Names without quotes are made of the characters of words, so a reader takes
in all of them. -/
theorem isNameChar_eq (c : Char) : IdentifierRules.isNameChar c = isWordChar c := by
  rw [IdentifierRules.isNameChar, isLetter_eq]
  rfl

/-- Lower case changes capitals and nothing else. -/
theorem toLower_eq_self_iff : c.toLower = c ↔ c.isUpper = false := by
  rw [← Bool.not_eq_true, isUpper_iff]
  delta Char.toLower
  split
  · rename_i hCapital
    have hLow : 65 ≤ c.val.toNat := hCapital.1
    have hHigh : c.val.toNat ≤ 90 := hCapital.2
    apply iff_of_false
    · intro hSame
      have hSum : (c.val + ('a'.val - 'A'.val)).toNat = c.val.toNat :=
        congrArg (fun d : Char => d.val.toNat) hSame
      rw [UInt32.toNat_add] at hSum
      have hShift : (c.val.toNat + 32) % 4294967296 = c.val.toNat := hSum
      omega
    · exact not_not_intro ⟨hLow, hHigh⟩
  · rename_i hOther
    exact iff_of_true rfl hOther

/-- A name is its own lower case exactly if it has no capital. Only ASCII
letters count. -/
theorem lower_eq_self_iff {ident : String} :
    Text.lower ident = ident ↔ ident.toList.any Char.isUpper = false := by
  have hMap : ∀ cs : List Char, cs.map Char.toLower = cs ↔ cs.any Char.isUpper = false := by
    intro cs
    induction cs with
    | nil => simp
    | cons c cs ih =>
        rw [List.map_cons, List.cons_eq_cons, List.any_cons, Bool.or_eq_false_iff, ih,
          toLower_eq_self_iff]
  rw [← hMap, Text.lower]
  constructor
  · intro h
    have hChars := congrArg String.toList h
    rwa [String.toList_ofList] at hChars
  · intro h
    rw [h, String.ofList_toList]

theorem isDigit_iff : c.isDigit = true ↔ 48 ≤ c.val.toNat ∧ c.val.toNat ≤ 57 := by
  rw [Char.isDigit, Bool.and_eq_true, decide_eq_true_eq, decide_eq_true_eq]
  rfl

/-- A character of words that is no digit and no dollar sign may be the first
one of a name. -/
theorem isNameStart_eq (h : isWordChar c = true) :
    IdentifierRules.isNameStart c = !(c.isDigit || c == '$') := by
  rw [IdentifierRules.isNameStart, isLetter_eq]
  cases hDigit : c.isDigit with
  | true =>
      have hRange := isDigit_iff.1 hDigit
      have hAlpha : ¬c.isAlpha = true := by
        rw [isAlpha_iff]
        omega
      have hLine : c ≠ '_' := by
        intro hLine
        rw [hLine] at hDigit
        cases hDigit
      simp [hAlpha, hLine]
  | false =>
      by_cases hDollar : c = '$'
      · rw [hDollar]
        decide
      · have hStart : (c.isAlpha || c == '_') = true := by
          simpa [isWordChar, Char.isAlphanum, hDigit, hDollar] using h
        rw [hStart]
        simp [hDollar]

end Characters

namespace IdentifierRules

variable {rules : IdentifierRules} {ident : String} {rest : List Char}

/-- A name has to be quoted exactly if it is no word that would be read as that
name. -/
theorem requiresQuotes_eq (rules : IdentifierRules) (ident : String) :
    rules.requiresQuotes ident = !rules.isWord ident.toList := by
  have hChars : isNameChar = isWordChar := funext isNameChar_eq
  have hFold : (Text.lower ident != ident) = ident.toList.any Char.isUpper := by
    cases hAny : ident.toList.any Char.isUpper with
    | false => rw [lower_eq_self_iff.2 hAny, bne_self_eq_false]
    | true =>
        rw [bne_iff_ne]
        intro hSame
        rw [lower_eq_self_iff.1 hSame] at hAny
        cases hAny
  have hSelf : Text.lower (String.ofList ident.toList) = Text.lower ident := by
    rw [String.ofList_toList]
  rw [requiresQuotes, hFold]
  generalize ident.toList = cs at hSelf
  cases cs with
  | nil => rfl
  | cons first cs =>
      rw [isWord, hSelf, hChars]
      show (_ || !isNameStart first || _ || _) = _
      cases hAll : (first :: cs).all isWordChar with
      | false => simp
      | true =>
          rw [isNameStart_eq (List.all_eq_true.1 hAll first List.mem_cons_self)]
          simp only [Bool.not_and, Bool.not_or, Bool.not_not, Bool.not_true, Bool.or_false]
          ac_rfl

/-- The rules use one of the two pairs of quotes: double quotes or square
brackets. -/
def UsualQuotes (rules : IdentifierRules) : Prop :=
  (rules.opening, rules.closing) ∈ [('"', '"'), ('[', ']')]

/-- Neither of the usual opening quotes is a character of words. -/
theorem UsualQuotes.opening (h : rules.UsualQuotes) : isWordChar rules.opening = false := by
  have hPair : ∀ pair ∈ [('"', '"'), ('[', ']')], isWordChar pair.1 = false := by decide
  exact hPair _ h

theorem UsualQuotes.closing (h : rules.UsualQuotes) : rules.closing ≠ '.' := by
  have hPair : ∀ pair ∈ [('"', '"'), ('[', ']')], pair.2 ≠ '.' := by decide
  exact hPair _ h

/-- A word has characters of words only, the first one included. -/
theorem all_isWordChar_of_isWord {cs : List Char} (h : rules.isWord cs = true) :
    ∀ c ∈ cs, isWordChar c = true := by
  cases cs with
  | nil => cases h
  | cons first cs =>
      simp only [isWord, Bool.and_eq_true] at h
      exact List.all_eq_true.1 h.1.1.2

/-- A name between quotes is read up to its closing quote. Two closing quotes in
a row are one of the name. -/
theorem scan_quoted (h : rest.head? ≠ some rules.closing) :
    rules.scan ((rules.quoted ident).toList ++ rest) = some (ident, rest) := by
  rw [quoted, String.toList_ofList, List.cons_append, List.append_assoc, scan,
    if_pos rfl, List.singleton_append, Text.readDelimited_double _ h]
  show some (String.ofList ident.toList, rest) = _
  rw [String.ofList_toList]

/-- A word is read up to the first character that is in no word. -/
theorem scan_word (hQuotes : rules.UsualQuotes) (hWord : rules.isWord ident.toList = true)
    (hRest : ∀ c ∈ rest.head?, isWordChar c = false) :
    rules.scan (ident.toList ++ rest) = some (ident, rest) := by
  have hAll := all_isWordChar_of_isWord hWord
  have hStop : rest.takeWhile isWordChar = [] ∧ rest.dropWhile isWordChar = rest := by
    cases rest with
    | nil => exact ⟨rfl, rfl⟩
    | cons c rest =>
        have hOther : isWordChar c = false := hRest c rfl
        simp [hOther]
  have hTake : (ident.toList ++ rest).takeWhile isWordChar = ident.toList := by
    rw [List.takeWhile_append_of_pos hAll, hStop.1, List.append_nil]
  have hDrop : (ident.toList ++ rest).dropWhile isWordChar = rest := by
    rw [List.dropWhile_append_of_pos hAll, hStop.2]
  cases hChars : ident.toList with
  | nil =>
      rw [hChars] at hWord
      cases hWord
  | cons first cs =>
      rw [hChars] at hAll hWord hTake hDrop
      have hFirst : first ≠ rules.opening := by
        intro hSame
        have hChar := hAll first List.mem_cons_self
        rw [hSame, hQuotes.opening] at hChar
        cases hChar
      rw [List.cons_append] at hTake hDrop ⊢
      rw [scan, if_neg hFirst, hTake, hDrop]
      show (if rules.isWord (first :: cs) = true then _ else _) = _
      rw [if_pos hWord, ← hChars, String.ofList_toList]

/-- A name is left without quotes exactly if a reader takes it for a name as it
stands. -/
theorem quote_eq (rules : IdentifierRules) (ident : String) :
    rules.quote ident = if rules.isWord ident.toList then ident else rules.quoted ident := by
  rw [quote, requiresQuotes_eq]
  cases rules.isWord ident.toList <;> rfl

/-- What ends a name of either kind: the text is over, or goes on with a
character that is in no word and is no closing quote. -/
def Ends (rules : IdentifierRules) (rest : List Char) : Prop :=
  ∀ c ∈ rest.head?, isWordChar c = false ∧ c ≠ rules.closing

/-- Reading a name that was written gives it back, with all that follows it, as
long as that cannot belong to the name. -/
theorem scan_quote_append (hQuotes : rules.UsualQuotes) (ident : String)
    (hRest : rules.Ends rest) :
    rules.scan ((rules.quote ident).toList ++ rest) = some (ident, rest) := by
  rw [quote_eq]
  split
  · rename_i hWord
    exact scan_word hQuotes hWord fun c hc => (hRest c hc).1
  · exact scan_quoted fun hClosing => (hRest _ hClosing).2 rfl

def path (rules : IdentifierRules) (names : List String) : String :=
  Text.join "." (names.map rules.quote)

/-- The first name of a path is read up to the dot that follows it. -/
theorem scan_path (hQuotes : rules.UsualQuotes) (name : String) (names : List String) :
    rules.scan (rules.path (name :: names)).toList =
      some (name, if names = [] then [] else '.' :: (rules.path names).toList) := by
  cases names with
  | nil =>
      have hEnd : rules.Ends [] := fun c hc => nomatch hc
      have hRead := scan_quote_append hQuotes name hEnd
      rw [List.append_nil] at hRead
      exact hRead
  | cons next names =>
      have hEnd : rules.Ends ('.' :: (rules.path (next :: names)).toList) := by
        intro c hc
        obtain rfl : '.' = c := Option.some.inj hc
        exact ⟨rfl, hQuotes.closing.symm⟩
      rw [if_neg (List.cons_ne_nil _ _), ← scan_quote_append hQuotes name hEnd]
      apply congrArg
      show (rules.quote name ++ "." ++ rules.path (next :: names)).toList = _
      rw [String.toList_append, String.toList_append, List.append_assoc]
      rfl

/-- The names of a path are read one after the other, so a path tells them, dots
inside of names included. -/
theorem path_injective (hQuotes : rules.UsualQuotes) : Function.Injective rules.path := by
  intro names others h
  induction names generalizing others with
  | nil =>
      cases others with
      | nil => rfl
      | cons other others =>
          have hRead := scan_path hQuotes other others
          rw [← h] at hRead
          cases hRead
  | cons name names ih =>
      have hRead := scan_path hQuotes name names
      cases others with
      | nil =>
          rw [h] at hRead
          cases hRead
      | cons other others =>
          rw [h, scan_path hQuotes other others] at hRead
          obtain ⟨hName, hRest⟩ := Prod.mk.inj (Option.some.inj hRead)
          rw [hName]
          apply congrArg
          split at hRest <;> split at hRest
          · rename_i hOthers hNames
            rw [hOthers, hNames]
          · cases hRest
          · cases hRest
          · exact ih (String.toList_injective (List.cons.inj hRest).2.symm)

def schemaParts : Option String → List (List Char)
  | some schema => Text.split '.' schema.toList
  | none => []

/-- A schema has at least one part, so the parts also tell whether there is
one. -/
theorem schemaParts_injective : Function.Injective schemaParts := by
  intro schema other h
  cases schema with
  | none =>
      cases other with
      | none => rfl
      | some other => exact absurd h.symm (Text.split_ne_nil _ _)
  | some schema =>
      cases other with
      | none => exact absurd h (Text.split_ne_nil _ _)
      | some other =>
          exact congrArg some (String.toList_injective (Text.split_injective '.' h))

/-- The names that a table is written as: the parts of its schema, then its
own. -/
def tableNames (t : Table) : List String :=
  (schemaParts t.schema).map String.ofList ++ [t.name]

/-- A qualified table is written as a path: the parts of its schema, then its
name. Each part is quoted by itself. -/
theorem table_eq_path (rules : IdentifierRules) (t : Table) :
    rules.table t true = rules.path (tableNames t) := by
  rw [table, tableNames, path]
  cases t.schema with
  | none => rfl
  | some schema =>
      have hParts : (Text.split '.' schema.toList).map (rules.quote ∘ String.ofList) ≠ [] := by
        rw [ne_eq, List.map_eq_nil_iff]
        exact Text.split_ne_nil '.' schema.toList
      show rules.dotted schema ++ "." ++ rules.quote t.name = _
      rw [schemaParts, List.map_append, List.map_map, List.map_singleton,
        Text.join_concat "." hParts]
      rfl

/-- The parts of a path tell the table, since a schema has the same parts only
if it is the same text. -/
theorem key_eq_of_tableNames {t u : Table} (h : tableNames t = tableNames u) :
    t.key = u.key := by
  obtain ⟨hParts, hName⟩ := List.append_inj' h rfl
  have hSchema : t.schema = u.schema := by
    apply schemaParts_injective
    exact (List.map_inj_right fun _ _ => String.ofList_injective).1 hParts
  rw [Table.key, Table.key, hSchema, (List.cons.inj hName).1]

/-- A name is written as itself if it is a word, and between quotes otherwise.
Either way it is read as itself, and a name between quotes ends at its closing
quote, whatever follows but another one. So no two names are written alike, and
no two tables with different keys are behind their schemas. -/
theorem scan_quote (rules : IdentifierRules) (hQuotes : rules.UsualQuotes) :
    (∀ ident, rules.quote ident =
      if rules.isWord ident.toList then ident else rules.quoted ident) ∧
    (∀ ident, rules.scan (rules.quote ident).toList = some (ident, [])) ∧
    (∀ ident rest, rules.isWord ident.toList = false → rest.head? ≠ some rules.closing →
      rules.scan ((rules.quote ident).toList ++ rest) = some (ident, rest)) ∧
    Function.Injective rules.quote ∧
    ∀ t u : Table, rules.table t true = rules.table u true → t.key = u.key := by
  refine ⟨quote_eq rules, ?_, ?_, ?_, ?_⟩
  · intro ident
    exact scan_path hQuotes ident []
  · intro ident rest hWord hRest
    rw [quote_eq, hWord]
    exact scan_quoted hRest
  · intro ident other h
    have hPath : rules.path [ident] = rules.path [other] := h
    exact (List.cons.inj (path_injective hQuotes hPath)).1
  · intro t u h
    rw [table_eq_path, table_eq_path] at h
    exact key_eq_of_tableNames (path_injective hQuotes h)

/-- A name that holds both the closing bracket and a dot, before another dot;
and tables that differ only in where the dots of their names stand. -/
theorem scan_quote_brackets :
    let rules : IdentifierRules := ⟨'[', ']', ["order"], false, 128⟩
    rules.UsualQuotes ∧
      rules.quote "a]b.c" = "[a]]b.c]" ∧
      rules.scan ("[a]]b.c]".toList ++ ['.', 'd']) = some ("a]b.c", ['.', 'd']) ∧
      rules.quote "Order" = "[Order]" ∧ rules.quote "orders" = "orders" ∧
      rules.table { name := "c", schema := some "a.b" } true ≠
        rules.table { name := "b.c", schema := some "a" } true := by
  intro rules
  have hQuotes : rules.UsualQuotes := by
    show ('[', ']') ∈ [('"', '"'), ('[', ']')]
    decide
  obtain ⟨-, -, hDelimited, -, hTables⟩ := scan_quote rules hQuotes
  have hText : rules.quote "a]b.c" = "[a]]b.c]" := by decide
  refine ⟨hQuotes, hText, ?_, by decide, by decide, ?_⟩
  · rw [← hText]
    exact hDelimited _ _ (by decide) (by decide)
  · intro hSame
    have hKey := hTables _ _ hSame
    revert hKey
    decide

end IdentifierRules

end SqlStatements
