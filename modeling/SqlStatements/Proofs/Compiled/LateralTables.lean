import SqlStatements.Proofs.Compiled.Aliases

/-! Lateral tables where they are applied to the items before them. Whether a table is
applied depends on its place: as an item of its own, or as the right operand of a join, it
is. At the start of a join it is written like any other derived table, wherever the join
stands. -/
namespace SqlStatements

/-- The place of a leaf in a FROM clause. -/
inductive LeafPlace where
  /-- At the start of the clause. -/
  | opening
  /-- As an item further down the list. -/
  | listed
  /-- At the start of a join further down the list. -/
  | listedStart
  /-- As the right operand of a join, which may have a condition. -/
  | operand (kind : JoinKind) (conditional : Bool)
  /-- At the start of a join that is the right operand of another one. -/
  | operandStart
deriving DecidableEq

namespace LeafPlace

/-- The text right in front of a leaf, where lateral tables are applied. -/
def word : LeafPlace → (lateral : Bool) → String
  | .opening, _ => " FROM "
  | .listed, true => " CROSS APPLY "
  | .listed, false | .listedStart, _ => ", "
  | .operand .left _, true => " OUTER APPLY "
  | .operand _ _, true => " CROSS APPLY "
  | .operand kind _, false => " " ++ kind.sql ++ " "
  | .operandStart, _ => "("

/-- Whether a lateral table can be written here. -/
def Accepts : LeafPlace → Prop
  | .operand kind conditional => conditional = false ∧ kind ≠ .right ∧ kind ≠ .full
  | _ => True

/-- Whether a lateral table is applied here. -/
def Applies : LeafPlace → Prop
  | .listed | .operand _ _ => True
  | _ => False

variable {place : LeafPlace}

/-- Where no lateral table is applied, the word in front of a leaf does not tell
whether it is one. -/
theorem word_of_not_applies (h : ¬place.Applies) (lateral : Bool) :
    place.word lateral = place.word false := by
  cases place with
  | opening | listedStart | operandStart => rfl
  | listed | operand => exact absurd trivial h

/-- Only the right-hand side of a join can refuse a lateral table, and that is a
place where one would be applied. -/
theorem accepts_of_not_applies (h : ¬place.Applies) : place.Accepts := by
  cases place with
  | opening | listedStart | operandStart => exact trivial
  | listed | operand => exact absurd trivial h

/-- A lateral table is applied exactly where its word says so. -/
theorem word_true_iff :
    place.word true = " CROSS APPLY " ∨ place.word true = " OUTER APPLY " ↔ place.Applies := by
  cases place with
  | opening | listed | listedStart | operandStart => simp [word, Applies]
  | operand kind conditional => cases kind <;> simp [word, Applies]

end LeafPlace

/-- The leaves of an item from left to right, with the place of the item if it
is a leaf itself, and the place of its first leaf if it is a join. -/
def FromItem.leaves (own start : LeafPlace) : FromItem → List (LeafPlace × FromItem)
  | .join kind l r condition =>
    l.leaves start start ++ r.leaves (.operand kind condition.isSome) .operandStart
  | leaf => [(own, leaf)]

def fromLeaves : List FromItem → List (LeafPlace × FromItem)
  | [] => []
  | first :: rest => first.leaves .opening .opening ++ rest.flatMap (·.leaves .listed .listedStart)

/-- The texts follow each other in the whole text, each right behind its
word. -/
inductive Text.Follows : List (String × String) → String → Prop where
  | nil (rest : String) : Follows [] rest
  | cons {word x rest : String} {more : List (String × String)} (gap : String)
      (h : Follows more rest) : Follows ((word, x) :: more) (gap ++ word ++ x ++ rest)

/-- The leaves follow each other in the draft, each right behind its word. -/
inductive Draft.Places (write : FromItem → Draft) :
    List (LeafPlace × FromItem) → Draft → Prop where
  | nil (rest : Draft) : Places write [] rest
  | cons {place : LeafPlace} {leaf : FromItem} {more : List (LeafPlace × FromItem)} {rest : Draft}
      (gap : Draft) (hAccepts : leaf.isLateral = true → place.Accepts)
      (h : Places write more rest) :
      Places write ((place, leaf) :: more)
        (gap ++ .text (place.word leaf.isLateral) :: (write leaf ++ rest))

section Drafts

variable {t : Target} {pager : Pager} {sc : Scope}

namespace Draft.Places

variable {write : FromItem → Draft} {leaves : List (LeafPlace × FromItem)} {d : Draft}

/-- Leaves that follow each other in a draft still do so with more in front of
it. -/
theorem prepend (h : Places write leaves d) (front : Draft) : Places write leaves (front ++ d) := by
  cases h with
  | nil => exact .nil _
  | cons gap hAccepts hMore =>
      rw [← List.append_assoc]
      exact .cons (front ++ gap) hAccepts hMore

/-- Lateral tables among the leaves of a draft stand only where one is
accepted. -/
theorem accepts (h : Places write leaves d) :
    ∀ place leaf, (place, leaf) ∈ leaves → leaf.isLateral = true → place.Accepts := by
  induction h with
  | nil => nofun
  | cons gap hAccepts _ ih =>
      intro place leaf hMem
      rcases List.mem_cons.mp hMem with hFirst | hMem
      · cases hFirst
        exact hAccepts
      · exact ih place leaf hMem

end Draft.Places

/-- A join with a lateral table goes to its end only if its kind and its
condition allow it, and then the word for applying takes the place of the
join. -/
theorem Draft.apply_of_complete {kind : JoinKind} {conditional : Bool} {d : Draft}
    (hComplete : (apply t kind conditional d).Complete) :
    (LeafPlace.operand kind conditional).Accepts ∧
      apply t kind conditional d = .text ((LeafPlace.operand kind conditional).word true) :: d := by
  cases conditional with
  | true => exact absurd hComplete (not_complete_apply t kind d)
  | false =>
      cases kind with
      | right | full => exact absurd (List.mem_singleton_self _) (hComplete _)
      | inner | cross | left => exact ⟨⟨rfl, nofun, nofun⟩, rfl⟩

theorem isSome_optionDraft (o : Option Expr) : (optionDraft t pager sc o).isSome = o.isSome := by
  cases o <;> rfl

/-- What stands right in front of the right operand of a join: an opening
parenthesis where the operand is a join itself, else the word of its place. -/
theorem Draft.exists_joined_right (hApply : t.caps.lateral = .apply) {kind : JoinKind}
    {r : FromItem} {l rd : Draft} {condition : Option Draft}
    (hComplete : (joined t kind r l rd condition).Complete) :
    (r.isLateral = true → (LeafPlace.operand kind condition.isSome).Accepts) ∧
      ∃ gap after, joined t kind r l rd condition =
        l ++ (gap ++ .text ((if isJoin r then .operandStart
          else .operand kind condition.isSome : LeafPlace).word r.isLateral) :: (rd ++ after)) := by
  rw [joined] at hComplete ⊢
  cases hLateral : r.isLateral with
  | true =>
      have hLeaf : isJoin r = false := by
        cases r with
        | derived => rfl
        | table | join | cte => cases hLateral
      rw [hLateral, if_pos ⟨rfl, hApply⟩] at hComplete
      obtain ⟨hAccepts, hDraft⟩ := apply_of_complete
        (hComplete.of_part (List.suffix_append _ _).isInfix)
      rw [if_pos ⟨rfl, hApply⟩, hDraft, hLeaf]
      exact ⟨fun _ => hAccepts, [], [], by simp⟩
  | false =>
      rw [if_neg (by simp)]
      refine ⟨fun h => absurd h Bool.false_ne_true, ?_⟩
      cases isJoin r with
      | true => exact ⟨[.text (" " ++ kind.sql ++ " ")], .text ")" :: clause " ON " condition,
          by simp [parens, LeafPlace.word]⟩
      | false => exact ⟨[], clause " ON " condition, by simp [parens, LeafPlace.word]⟩

/-- The leaves of an item follow each other in its draft, each behind the word
of its place. By induction on the item, with what follows it kept general. -/
theorem FromItem.places (hApply : t.caps.lateral = .apply) {item : FromItem}
    (hComplete : (item.draft t pager sc).Complete) (own start : LeafPlace)
    (hOwn : item.isLateral = true → own.Accepts) (hStart : ¬start.Applies)
    {more : List (LeafPlace × FromItem)} {rest : Draft}
    (hMore : Draft.Places (FromItem.draft t pager sc) more rest) :
    Draft.Places (FromItem.draft t pager sc) (item.leaves own start ++ more)
      (.text ((if Draft.isJoin item then start else own).word item.isLateral) ::
        (item.draft t pager sc ++ rest)) := by
  induction item using FromItem.tables.induct generalizing own start more rest with
  | case1 | case3 | case4 => exact .cons [] hOwn hMore
  | case2 kind l r condition ihLeft ihRight =>
      rw [FromItem.draft] at hComplete ⊢
      have hRight := hComplete.of_part (Draft.infix_joined_right hComplete)
      obtain ⟨hAccepts, gap, after, hDraft⟩ := Draft.exists_joined_right hApply hComplete
      rw [hDraft] at hComplete ⊢
      have hLeft := hComplete.of_part (List.prefix_append _ _).isInfix
      rw [isSome_optionDraft] at hAccepts ⊢
      have hTail := (ihRight hRight _ .operandStart hAccepts id (hMore.prepend after)).prepend gap
      have hWhole := ihLeft hLeft start start
        (fun _ => LeafPlace.accepts_of_not_applies hStart) hStart hTail
      rw [ite_self, LeafPlace.word_of_not_applies hStart] at hWhole
      simpa [leaves, Draft.isJoin, isLateral] using hWhole

/-- In a list, an item that is applied itself follows the word for that, and any
other follows a comma. A lateral table further inside of a join does not
count. -/
theorem FromItem.listed_word (hApply : t.caps.lateral = .apply) (item : FromItem) :
    (if Draft.isJoin item then .listedStart else .listed : LeafPlace).word item.isLateral =
      if item.isLateral ∧ t.caps.lateral = .apply then " CROSS APPLY " else ", " := by
  cases item with
  | table | join | cte => simp [Draft.isJoin, isLateral, LeafPlace.word]
  | derived q name lateral =>
      cases lateral <;> simp [Draft.isJoin, isLateral, LeafPlace.word, hApply]

/-- The leaves of the items further down the list, with what stands between the
items. -/
theorem Draft.places_listed (hApply : t.caps.lateral = .apply) {items : List FromItem}
    (hComplete : ∀ item ∈ items, (item.draft t pager sc).Complete) (first : FromItem) (d : Draft) :
    ∃ rest, Draft.sources t (first :: items) (d :: sourceDrafts t pager sc items) = d ++ rest ∧
      Draft.Places (FromItem.draft t pager sc)
        (items.flatMap (·.leaves .listed .listedStart)) rest := by
  induction items generalizing first d with
  | nil => exact ⟨[], by simp [Draft.sources], .nil _⟩
  | cons item items ih =>
      obtain ⟨hItem, hItems⟩ := List.forall_mem_cons.mp hComplete
      obtain ⟨rest, hDraft, hRest⟩ := ih hItems item (item.draft t pager sc)
      have hPlaces := item.places hApply hItem .listed .listedStart (fun _ => trivial) id hRest
      refine ⟨_, ?_, by simpa using hPlaces⟩
      rw [Draft.sources, sourceDrafts, hDraft, item.listed_word hApply]
      simp

/-- The leaves of a FROM clause follow each other in its draft. A clause of
implied tables has them in a list. -/
theorem Select.places (hApply : t.caps.lateral = .apply) {s : Select}
    (hComplete : (s.fromDraft t pager sc).Complete) :
    Draft.Places (FromItem.draft t pager (sc.providing (sc.sources s))) (fromLeaves s.sources)
      (s.fromDraft t pager sc) := by
  cases hSources : s.sources with
  | nil => exact .nil _
  | cons first items =>
      have hGiven : s.sources ≠ [] := by simp [hSources]
      rw [fromDraft_given hGiven, hSources] at hComplete ⊢
      have hEach : ∀ item ∈ first :: items,
          (item.draft t pager (sc.providing (sc.sources s))).Complete := by
        intro item hItem
        exact hComplete.of_part (Draft.infix_cons
          (Draft.infix_sources t (length_sourceDrafts _).symm (mem_sourceDrafts hItem)))
      obtain ⟨hFirst, hItems⟩ := List.forall_mem_cons.mp hEach
      obtain ⟨rest, hDraft, hRest⟩ := Draft.places_listed hApply hItems first
        (first.draft t pager (sc.providing (sc.sources s)))
      rw [sourceDrafts, hDraft]
      have hPlaces := first.places hApply hFirst .opening .opening (fun _ => trivial) id hRest
      rw [ite_self, LeafPlace.word_of_not_applies id] at hPlaces
      exact hPlaces

end Drafts

namespace Text.Follows

variable {xs : List (String × String)} {x : String}

theorem widen (h : Follows xs x) (left right : String) : Follows xs (left ++ x ++ right) := by
  induction h generalizing left with
  | nil => exact .nil _
  | @cons word x rest more gap _ ih =>
      have hMore := ih ""
      rw [String.empty_append] at hMore
      have hWhole : Follows ((word, x) :: more) (left ++ gap ++ word ++ x ++ (rest ++ right)) :=
        .cons _ hMore
      simpa only [String.append_assoc] using hWhole

end Text.Follows

section Texts

variable {st : Setting}

/-- A text after a part is there only if both were written out, the second from
the ledger that the first has left. -/
theorem Setting.exists_of_textAfter {before part : Draft} {x : String}
    (h : st.textAfter before part = .ok x) :
    ∃ xs L ys M, Ledger.write st {} before = .ok (xs, L) ∧ L.write st part = .ok (ys, M) ∧
      x = String.join ys := by
  obtain ⟨⟨xs, L⟩, hBefore, h⟩ := exists_ok_of_bind_ok h
  obtain ⟨⟨ys, M⟩, hPart, h⟩ := exists_ok_of_bind_ok h
  cases h
  exact ⟨xs, L, ys, M, hBefore, hPart, rfl⟩

/-- Leaves that follow each other in the draft do so in the text, each written
with what had been decided before it. -/
theorem Draft.Places.texts {write : FromItem → Draft} {leaves : List (LeafPlace × FromItem)}
    {d before : Draft} (h : Places write leaves d) {ws texts : List String} {L N : Ledger}
    (hBefore : Ledger.write st {} before = .ok (ws, L)) (hWrite : L.write st d = .ok (texts, N)) :
    ∃ xs, List.Forall₂ (fun leaf x => ∃ front, st.textAfter front (write leaf.2) = .ok x)
        leaves xs ∧
      Text.Follows
        (List.zipWith (fun leaf x => (leaf.1.word leaf.2.isLateral, x)) leaves xs)
        (String.join texts) := by
  induction h generalizing before ws texts L with
  | nil => exact ⟨[], .nil, .nil _⟩
  | @cons place leaf more rest gap _ _ ih =>
      obtain ⟨gapTexts, tailTexts, K, hGap, hTail, rfl⟩ := Ledger.exists_write_append hWrite
      obtain ⟨word, K', leafTexts, hWord, hLeaf, rfl⟩ := Ledger.write_cons hTail
      cases hWord
      obtain ⟨own, restTexts, M, hOwn, hRest, rfl⟩ := Ledger.exists_write_append hLeaf
      have hFront : Ledger.write st {} (before ++ gap ++ [.text (place.word leaf.isLateral)]) =
          .ok (ws ++ gapTexts ++ [place.word leaf.isLateral], K) :=
        Ledger.write_append (Ledger.write_append hBefore hGap) rfl
      obtain ⟨xs, hEach, hFollows⟩ := ih (Ledger.write_append hFront hOwn) hRest
      refine ⟨String.join own :: xs, .cons ⟨_, Statement.textAfter_eq hFront hOwn⟩ hEach, ?_⟩
      rw [String.join_append, String.join_cons, String.join_append, ← String.append_assoc,
        ← String.append_assoc]
      exact .cons _ hFollows

/-- A lateral table that is not announced by a word of its own reads like any
other derived table. -/
theorem FromItem.textAfter_lateral {t : Target} {pager : Pager} {sc : Scope} {q : Query}
    {name x : String} {front : Draft} (hTarget : st.target = t) (hApply : t.caps.lateral = .apply)
    (h : st.textAfter front ((FromItem.derived q name true).draft t pager sc) = .ok x) :
    ∃ inner, st.textAfter (front ++ [.text "("]) (q.draft t pager sc.nested false) = .ok inner ∧
      x = "(" ++ inner ++ ") AS " ++ t.rules.quote name := by
  obtain ⟨ws, L, texts, M, hFront, hWrite, rfl⟩ := Setting.exists_of_textAfter h
  have hDraft : (FromItem.derived q name true).draft t pager sc =
      .text "(" :: (q.draft t pager sc.nested false ++ [.text ") AS ", .name name]) := by
    simp [FromItem.draft, Draft.derived, hApply]
  rw [hDraft] at hWrite
  obtain ⟨opening, K, more, hOpening, hMore, rfl⟩ := Ledger.write_cons hWrite
  cases hOpening
  obtain ⟨own, rest, N, hOwn, hRest, rfl⟩ := Ledger.exists_write_append hMore
  cases hRest
  refine ⟨String.join own, Statement.textAfter_eq (Ledger.write_append hFront rfl) hOwn, ?_⟩
  rw [hTarget, String.join_cons, String.join_append]
  simp [String.append_assoc]

end Texts

namespace Statement

/-- The FROM clause of a SELECT that is written as it stands is found in the
draft of the whole statement as one piece. -/
theorem Writes.from_within {t : Target} {s : Statement} {sc : Scope} {outermost : Bool}
    {select : Select} (h : s.Writes t (.query sc outermost (.select select)))
    (hDirect : select.Direct t) (hComplete : (s.draft t).Complete) :
    ∃ depth, select.fromDraft t (pager t depth) sc <:+: s.draft t := by
  obtain ⟨depth, hInfix⟩ := h.within hComplete
  rw [Node.draft_select] at hInfix
  rw [Select.draft_direct hDirect
    (Select.columns_of_complete hDirect (hComplete.of_part hInfix))] at hInfix
  exact ⟨depth, (Draft.infix_append_left (List.suffix_append _ _).isInfix).trans hInfix⟩

/-- Lateral tables of a FROM clause, where they are applied. The leaves of the
clause follow each other in the text, each right behind the word for its place,
and a lateral table reads like any other derived table. So it sees the items
before it exactly if its word is `CROSS APPLY` or `OUTER APPLY`. It has such a
word exactly if it is an item further down the list or the right operand of a
join, which then has no condition and is no right or full join. At the start of
a join it has none, also if the join is not the first item. -/
theorem lateral_tables (t : Target) (hApply : t.caps.lateral = .apply) (mode : ParameterMode)
    (s : Statement) (c : Compiled) (h : s.compile t mode = .ok c) (sc : Scope) (outermost : Bool)
    (select : Select) (hWrites : s.Writes t (.query sc outermost (.select select)))
    (hDirect : select.Direct t) :
    (∃ (depth : Nat) (xs : List String),
      List.Forall₂ (fun leaf x => ∃ front,
        (s.setting t mode).textAfter front
          (leaf.2.draft t (pager t depth) (sc.providing (sc.sources select))) = .ok x ∧
        ∀ q name, leaf.2 = .derived q name true → ∃ inner,
          (s.setting t mode).textAfter (front ++ [.text "("]) (q.draft t (pager t depth)
            (sc.providing (sc.sources select)).nested false) = .ok inner ∧
          x = "(" ++ inner ++ ") AS " ++ t.rules.quote name)
        (fromLeaves select.sources) xs ∧
      Text.Follows (List.zipWith (fun leaf x => (leaf.1.word leaf.2.isLateral, x))
        (fromLeaves select.sources) xs) c.sql) ∧
    ∀ place leaf, (place, leaf) ∈ fromLeaves select.sources → leaf.isLateral = true →
      place.Accepts ∧
      (place.word true = " CROSS APPLY " ∨ place.word true = " OUTER APPLY " ↔ place.Applies) := by
  obtain ⟨texts, F, hWrite, hCompiled⟩ := exists_ledger_of_compile h
  have hText : c.sql = String.join texts := by rw [hCompiled]
  have hComplete : (s.draft t).Complete := Ledger.stop_not_mem hWrite
  obtain ⟨depth, left, right, hCut⟩ := hWrites.from_within hDirect hComplete
  have hPlaces := Select.places hApply (hComplete.of_part ⟨left, right, hCut⟩)
  refine ⟨⟨depth, ?_⟩, fun place leaf hMem hLateral =>
    ⟨hPlaces.accepts place leaf hMem hLateral, LeafPlace.word_true_iff⟩⟩
  rw [← hCut] at hWrite
  obtain ⟨front, after, M, hFront, -, rfl⟩ := Ledger.exists_write_append hWrite
  obtain ⟨before, own, L, hBefore, hOwn, rfl⟩ := Ledger.exists_write_append hFront
  obtain ⟨xs, hEach, hFollows⟩ := hPlaces.texts hBefore hOwn
  refine ⟨xs, hEach.imp ?_, ?_⟩
  · rintro leaf x ⟨place, hRead⟩
    refine ⟨place, hRead, fun q name hLeaf => ?_⟩
    rw [hLeaf] at hRead
    exact FromItem.textAfter_lateral rfl hApply hRead
  · rw [hText, String.join_append, String.join_append]
    exact hFollows.widen _ _

end Statement

namespace Sample

/-- A table that looks at the row of the item before it. -/
def latest : FromItem :=
  .derived (.select (Select.ofColumns [columnOf (.plain accounts) "id"])) "latest" true

/-- The table at the start of a join further down the list. -/
def lateral : Select :=
  { Select.ofColumns [.literal (.int 1)] with
    sources := [.table (.plain accounts),
      .join .cross latest (.table (.aliased accounts "others")) none] }

/-- The lateral table starts a join in the list, so a comma stands before it
where it should have been applied. -/
theorem compile_lateral :
    ∃ c, (Statement.query (.select lateral)).compile server .placeholders = .ok c ∧
      c.sql = "SELECT 1 FROM accounts, " ++
        "(SELECT accounts.id) AS latest CROSS JOIN accounts AS others" :=
  exists_ok_of_toOption (f := Compiled.sql) (by decide +kernel)

end Sample

namespace Statement

/-- The lateral table is accepted at a place where no word for it is written. -/
theorem lateral_tables_start :
    ∃ c, (Statement.query (.select Sample.lateral)).compile Sample.server .placeholders = .ok c ∧
      c.sql = "SELECT 1 FROM accounts, " ++
        "(SELECT accounts.id) AS latest CROSS JOIN accounts AS others" ∧
      (LeafPlace.listedStart, Sample.latest) ∈ fromLeaves Sample.lateral.sources ∧
      ¬(LeafPlace.listedStart.word true = " CROSS APPLY " ∨
        LeafPlace.listedStart.word true = " OUTER APPLY ") ∧
      ∃ xs, Text.Follows (List.zipWith (fun leaf x => (leaf.1.word leaf.2.isLateral, x))
        (fromLeaves Sample.lateral.sources) xs) c.sql := by
  obtain ⟨c, h, hText⟩ := Sample.compile_lateral
  have hLeaf : (LeafPlace.listedStart, Sample.latest) ∈ fromLeaves Sample.lateral.sources :=
    .tail _ (.head _)
  obtain ⟨⟨_, xs, -, hFollows⟩, hPlaces⟩ := lateral_tables Sample.server rfl .placeholders _ c h
    .outermost true Sample.lateral ⟨_, List.mem_singleton_self _, .refl⟩ nofun
  exact ⟨c, h, hText, hLeaf, fun hWord => (hPlaces _ _ hLeaf rfl).2.mp hWord, xs, hFollows⟩

/-- It is not true that only the first leaf of a FROM clause can be a lateral
table that is not applied. -/
theorem not_forall_lateral_applied :
    ¬∀ t : Target, t.caps.lateral = .apply → ∀ (mode : ParameterMode) (s : Statement)
      (c : Compiled), s.compile t mode = .ok c → ∀ (sc : Scope) (outermost : Bool)
      (select : Select), s.Writes t (.query sc outermost (.select select)) → select.Direct t →
      ∀ place leaf, (place, leaf) ∈ fromLeaves select.sources → leaf.isLateral = true →
        place = .opening ∨ place.word true = " CROSS APPLY " ∨
          place.word true = " OUTER APPLY " := by
  intro hAll
  obtain ⟨c, h, -⟩ := Sample.compile_lateral
  have hPlace := hAll Sample.server rfl .placeholders _ c h .outermost true Sample.lateral
    ⟨_, List.mem_singleton_self _, .refl⟩ nofun .listedStart Sample.latest (.tail _ (.head _)) rfl
  rcases hPlace with hPlace | hPlace | hPlace
  · cases hPlace
  · exact absurd hPlace (by decide)
  · exact absurd hPlace (by decide)

end Statement

end SqlStatements
