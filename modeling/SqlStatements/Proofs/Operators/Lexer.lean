import SqlStatements.Identifier.Rules
import SqlStatements.Proofs.Operators.Grammar
import Mathlib.Data.List.Basic

/-! From characters to tokens. Characters of names that stand together are one
word, a sign is as long as possible, and blanks only separate. Signs of a single
character, `-` and `~` among them, never grow together with what follows. -/
namespace SqlStatements

namespace Lexer

def keywords : List String := ["AND", "OR", "NOT", "LIKE", "IS", "NULL", "IN", "BETWEEN"]

def pairs : List (Char × Char) :=
  [('<', '>'), ('<', '='), ('>', '='), ('|', '|'), ('<', '<'), ('>', '>')]

/-- A whole word. Case does not matter for the words of the grammar. -/
def word (cs : List Char) : Token :=
  match keywords.find? fun k => Text.lower k = Text.lower (String.ofList cs) with
  | some k => .keyword k
  | none => .name (String.ofList cs)

/-- What has been read of a token that may go on. -/
inductive Held where
  | nothing
  | word (cs : List Char)
  | sign (c : Char)

def Held.tokens : Held → List Token
  | .nothing => []
  | .word cs => [Lexer.word cs]
  | .sign c => [.sign (String.ofList [c])]

/-- The token goes on with a character. -/
def Held.grow? : Held → Char → Option (List Token × Held)
  | .word cs, c => if IdentifierRules.isNameChar c then some ([], .word (cs ++ [c])) else none
  | .sign d, c => if (d, c) ∈ pairs then some ([.sign (String.ofList [d, c])], .nothing) else none
  | .nothing, _ => none

/-- A token begins with a character. -/
def start (c : Char) : List Token × Held :=
  if IdentifierRules.isNameChar c then ([], .word [c])
  else if c = ' ' then ([], .nothing)
  else if c ∈ pairs.map (·.1) then ([], .sign c)
  else ([.sign (String.ofList [c])], .nothing)

/-- The tokens of a text, some of which has been read. -/
def lexFrom (held : Held) : List Char → List Token
  | [] => held.tokens
  | c :: cs =>
    match held.grow? c with
    | some (ts, held) => ts ++ lexFrom held cs
    | none => held.tokens ++ ((start c).1 ++ lexFrom (start c).2 cs)

def lex (cs : List Char) : List Token := lexFrom .nothing cs

/-- A character that belongs to no longer token. -/
def separates (c : Char) : Bool :=
  !IdentifierRules.isNameChar c && c ∉ pairs.map (·.1) && c ∉ pairs.map (·.2)

/-- A separating character ends the token that is being read. -/
theorem grow?_of_separates {c : Char} (h : separates c = true) (held : Held) :
    held.grow? c = none := by
  simp only [separates, Bool.and_eq_true, Bool.not_eq_true', decide_eq_true_eq] at h
  obtain ⟨⟨hName, _⟩, hSecond⟩ := h
  cases held with
  | nothing => rfl
  | word cs => simp [Held.grow?, hName]
  | sign d =>
      refine if_neg ?_
      intro hPair
      exact hSecond (List.mem_map.mpr ⟨_, hPair, rfl⟩)

theorem start_of_separates {c : Char} (h : separates c = true) : (start c).2 = .nothing := by
  simp only [separates, Bool.and_eq_true, Bool.not_eq_true', decide_eq_true_eq] at h
  obtain ⟨⟨hName, hFirst⟩, _⟩ := h
  simp only [start, hName, hFirst, Bool.false_eq_true, if_false]
  split <;> rfl

/-- At a separating character a text can be cut: the tokens on both sides do not
depend on each other. -/
theorem lexFrom_separates {c : Char} (h : separates c = true) (held : Held) (cs rest : List Char) :
    lexFrom held (cs ++ c :: rest) = lexFrom held cs ++ ((start c).1 ++ lex rest) := by
  induction cs generalizing held with
  | nil =>
      have hStep : lexFrom held (c :: rest) =
          held.tokens ++ ((start c).1 ++ lexFrom (start c).2 rest) := by
        rw [lexFrom, grow?_of_separates h]
      rw [List.nil_append, hStep, start_of_separates h]
      rfl
  | cons d cs ih =>
      rw [List.cons_append, lexFrom, lexFrom]
      split <;> simp only [ih, List.append_assoc]

/-- A text that begins with a separator does not change the tokens before it. -/
theorem lex_append_of_head {w : List Char} (h : w.head?.any separates = true) (cs : List Char) :
    lex (cs ++ w) = lex cs ++ lex w := by
  cases w with
  | nil => cases h
  | cons c w =>
      have hFront : lex (c :: w) = (start c).1 ++ lex w := lexFrom_separates h .nothing [] w
      rw [hFront]
      exact lexFrom_separates h .nothing cs w

/-- A text that ends with a separator does not change the tokens after it. -/
theorem lex_append_of_last {w : List Char} (h : w.getLast?.any separates = true)
    (cs : List Char) : lex (w ++ cs) = lex w ++ lex cs := by
  obtain rfl | ⟨w, c, rfl⟩ := List.eq_nil_or_concat' w
  · cases h
  · have hLast : separates c = true := by simpa using h
    have hEnd : lex (w ++ [c]) = lex w ++ ((start c).1 ++ []) :=
      lexFrom_separates hLast .nothing w []
    have hAll : lex (w ++ c :: cs) = lex w ++ ((start c).1 ++ lex cs) :=
      lexFrom_separates hLast .nothing w cs
    rw [List.append_assoc, List.singleton_append, hAll, hEnd]
    simp only [List.append_assoc, List.append_nil]

/-- A run of name characters is one word, whatever has been read of it
before. -/
theorem lexFrom_word {cs : List Char} (h : ∀ c ∈ cs, IdentifierRules.isNameChar c = true)
    (w : List Char) : lexFrom (.word w) cs = [word (w ++ cs)] := by
  induction cs generalizing w with
  | nil => simp [lexFrom, Held.tokens]
  | cons c cs ih =>
      have hFirst := h c (List.mem_cons_self ..)
      have hMore := ih (fun d hd => h d (List.mem_cons_of_mem _ hd)) (w ++ [c])
      rw [lexFrom, Held.grow?, if_pos hFirst]
      simpa using hMore

/-- Every word of the grammar is reserved, so no name without quotes can be
taken for one. -/
theorem reserved_of_keyword {k : String} (h : k ∈ keywords) :
    Text.lower k ∈ standardReserved := by
  revert k
  decide

/-- A name that needs no quotes is a single token, and it is the token of that
name. -/
theorem lex_name {x : String} (rules : IdentifierRules)
    (hReserved : rules.reserved = standardReserved) (h : rules.requiresQuotes x = false) :
    lex x.toList = [.name x] := by
  rw [IdentifierRules.requiresQuotes] at h
  split at h
  · cases h
  · rename_i first rest hx
    simp only [Bool.or_eq_false_iff, Bool.not_eq_false', List.all_eq_true] at h
    obtain ⟨⟨⟨hFree, _⟩, hChars⟩, _⟩ := h
    have hFirst := hChars first (List.mem_cons_self ..)
    have hWord : word (first :: rest) = .name x := by
      have hNone : keywords.find? (fun k => Text.lower k = Text.lower x) = none := by
        rw [List.find?_eq_none]
        intro k hk hSame
        have hLower : Text.lower k = Text.lower x := by simpa using hSame
        have hMem := reserved_of_keyword hk
        rw [hLower, ← hReserved] at hMem
        rw [List.contains_iff_mem.mpr hMem] at hFree
        cases hFree
      rw [word, ← hx, String.ofList_toList, hNone]
    have hRest : ∀ c ∈ rest, IdentifierRules.isNameChar c = true :=
      fun c hc => hChars c (List.mem_cons_of_mem _ hc)
    rw [hx, lex, lexFrom, Held.grow?, start, if_pos hFirst]
    simp only [Held.tokens, List.nil_append, lexFrom_word hRest]
    exact congrArg (fun t => [t]) hWord

end Lexer

end SqlStatements
