import SqlStatements.Compiled.Ledger
import SqlStatements.Proofs.Identifier.Fresh

/-! What one step of the ledger can do. Every later fact about parameters is
derived from the three cases of `Ledger.BindStep` and from `Ledger.Extends`,
which says that a ledger only grows. -/
namespace SqlStatements

/-- A successful computation is made of two successful ones. -/
theorem exists_ok_of_bind_ok {ε α β : Type} {x : Except ε α} {f : α → Except ε β} {r : β}
    (h : x >>= f = .ok r) : ∃ a, x = .ok a ∧ f a = .ok r := by
  cases x with
  | error e => cases h
  | ok a => exact ⟨a, rfl, h⟩

/-- A computation of two fails in the first or in the second. -/
theorem error_of_bind_error {ε α β : Type} {x : Except ε α} {f : α → Except ε β} {e : ε}
    (h : x >>= f = .error e) : x = .error e ∨ ∃ a, x = .ok a ∧ f a = .error e := by
  cases x with
  | error fault => exact .inl (congrArg Except.error (Except.error.inj h))
  | ok a => exact .inr ⟨a, rfl, h⟩

/-- A mapped computation succeeds only if the computation did. -/
theorem exists_ok_of_map_ok {ε α β : Type} {x : Except ε α} {f : α → β} {r : β}
    (h : x.map f = .ok r) : ∃ a, x = .ok a ∧ f a = r := by
  cases x with
  | error e => cases h
  | ok a => exact ⟨a, rfl, Except.ok.inj h⟩

/-- What a closed check finds about a result is true of a result that exists. It
lets evaluation settle a fixed input. -/
theorem exists_ok_of_toOption {ε α β : Type} {x : Except ε α} {f : α → β} {y : β}
    (h : x.toOption.map f = some y) : ∃ a, x = .ok a ∧ f a = y := by
  cases x with
  | error e => cases h
  | ok a => exact ⟨a, rfl, Option.some.inj h⟩

/-- The same parameter, except that a missing value may have been filled in. -/
structure BindInfo.Fills (b b' : BindInfo) : Prop where
  name : b'.name = b.name
  key : b'.key = b.key
  type : b'.type = b.type
  conversion : b'.conversion = b.conversion
  unique : b'.unique = b.unique
  value : ∀ v, b.value = some v → b'.value = some v

theorem BindInfo.Fills.refl (b : BindInfo) : b.Fills b :=
  ⟨rfl, rfl, rfl, rfl, rfl, fun _ h => h⟩

theorem BindInfo.Fills.trans {a b c : BindInfo} (hab : a.Fills b) (hbc : b.Fills c) : a.Fills c :=
  { name := hbc.name.trans hab.name
    key := hbc.key.trans hab.key
    type := hbc.type.trans hab.type
    conversion := hbc.conversion.trans hab.conversion
    unique := hbc.unique.trans hab.unique
    value := fun v hv => hbc.value v (hab.value v hv) }

/-- A later occurrence has the type of the first one. Its value, if it has one,
is the one kept. -/
theorem BindInfo.absorb_ok {b b' : BindInfo} {p : BindParam} (h : b.absorb p = .ok b') :
    b.Fills b' ∧ b.type = p.type ∧ ∀ v, p.value = some v → b'.value = some v := by
  rw [absorb] at h
  split at h
  · cases h
  · rename_i hType
    have hType : b.type = p.type := by simpa using hType
    split at h
    · rename_i v w hv hw
      split at h
      · rename_i he
        cases h
        exact ⟨.refl b, hType, fun u hu => by rw [hv, he, ← hw, hu]⟩
      · cases h
    · rename_i w hv hw
      cases h
      refine ⟨⟨rfl, rfl, rfl, rfl, rfl, ?_⟩, hType, ?_⟩
      · intro v h
        rw [hv] at h
        cases h
      · intro v h
        rw [← h, hw]
    · rename_i hw
      cases h
      refine ⟨.refl b, hType, ?_⟩
      intro v h
      rw [hw] at h
      cases h

/-- The parameter that stands for an occurrence: a shared one is known by its
name, a unique one by its key. It keeps the value that the occurrence brings. -/
structure BindInfo.Stands (rules : IdentifierRules) (b : BindInfo) (p : BindParam) : Prop where
  type : b.type = p.type
  unique : b.unique = p.unique
  value : ∀ v, p.value = some v → b.value = some v
  shared : p.unique = false → b.name = rules.truncate p.key
  own : p.unique = true → b.key = p.key

/-- Filling in a value leaves a parameter standing for what it stood for. -/
theorem BindInfo.Stands.fills {rules : IdentifierRules} {b b' : BindInfo} {p : BindParam}
    (h : b.Stands rules p) (hFills : b.Fills b') : b'.Stands rules p where
  type := by rw [hFills.type, h.type]
  unique := by rw [hFills.unique, h.unique]
  value := fun v hv => hFills.value v (h.value v hv)
  shared := fun hUnique => by rw [hFills.name, h.shared hUnique]
  own := fun hUnique => by rw [hFills.key, h.own hUnique]

namespace Ledger

/-- The names given to parameters, in their order. -/
def names (L : Ledger) : List String := L.binds.map (·.name)

/-- If no shared parameter is found, none of the ledger has the name. Unique
ones may have it. -/
theorem share_none {name : String} {p : BindParam} {bs : List BindInfo}
    (h : share name p bs = .ok none) : ∀ b ∈ bs, b.unique = false → b.name ≠ name := by
  induction bs with
  | nil => simp
  | cons b bs ih =>
      rw [share] at h
      split at h
      · obtain ⟨b', _, h⟩ := exists_ok_of_bind_ok h
        cases h
      · rename_i hOther
        obtain ⟨found, hFound, h⟩ := exists_ok_of_bind_ok h
        cases found with
        | some pair => cases h
        | none =>
            intro a ha hUnique hName
            rcases List.mem_cons.mp ha with he | ha
            · subst a
              exact hOther ⟨hUnique, hName⟩
            · exact ih hFound a ha hUnique hName

/-- The parameter that is found absorbs the occurrence in its place, and all
others stay as they are. -/
theorem share_some {name : String} {p : BindParam} {bs bs' : List BindInfo} {i : Nat}
    (h : share name p bs = .ok (some (i, bs'))) :
    ∃ before b b' after, bs = before ++ b :: after ∧ bs' = before ++ b' :: after ∧
      i = before.length ∧ b.unique = false ∧ b.name = name ∧ b.absorb p = .ok b' := by
  induction bs generalizing bs' i with
  | nil => cases h
  | cons a bs ih =>
      rw [share] at h
      split at h
      · rename_i hHere
        obtain ⟨a', hAbsorb, h⟩ := exists_ok_of_bind_ok h
        cases h
        exact ⟨[], a, a', bs, rfl, rfl, rfl, hHere.1, hHere.2, hAbsorb⟩
      · obtain ⟨found, hFound, h⟩ := exists_ok_of_bind_ok h
        cases found with
        | none => cases h
        | some pair =>
            obtain ⟨before, b, b', after, hBs, hBs', hi, hShared⟩ := ih hFound
            cases h
            refine ⟨a :: before, b, b', after, ?_, ?_, ?_, hShared⟩
            · rw [hBs, List.cons_append]
            · rw [hBs', List.cons_append]
            · rw [hi, List.length_cons]

/-- What becomes of a parameter: a unique one gets a fresh name, a shared one is
found under its name or added under it. The indices are its place, its name and
whether it is new. -/
inductive BindStep (s : Setting) (L : Ledger) (p : BindParam) :
    Nat → String → Bool → Ledger → Prop where
  | unique (name : String) (hUnique : p.unique = true) (hNew : name ∉ L.names)
      (hKept : name ∉ s.reserved) :
      BindStep s L p L.binds.length name true (L.add (p.info s.target name))
  | found (before after : List BindInfo) (b b' : BindInfo) (hUnique : p.unique = false)
      (hBinds : L.binds = before ++ b :: after) (hShared : b.unique = false)
      (hName : b.name = s.target.rules.truncate p.key) (hAbsorb : b.absorb p = .ok b') :
      BindStep s L p before.length (s.target.rules.truncate p.key) false
        { L with binds := before ++ b' :: after }
  | first (hUnique : p.unique = false)
      (hNew : ∀ b ∈ L.binds, b.unique = false → b.name ≠ s.target.rules.truncate p.key) :
      BindStep s L p L.binds.length (s.target.rules.truncate p.key) true
        (L.add (p.info s.target (s.target.rules.truncate p.key)))

/-- Whatever binding does is one of the three steps: a new unique parameter, a
new shared one, or a shared one found again. -/
theorem bind_step {s : Setting} {L L' : Ledger} {p : BindParam} {i : Nat} {name : String}
    {new : Bool} (h : L.bind s p = .ok (i, name, new, L')) : BindStep s L p i name new L' := by
  rw [bind] at h
  split at h
  · rename_i hUnique
    obtain ⟨fresh, hFresh, h⟩ := exists_ok_of_bind_ok h
    have hFree := IdentifierRules.fresh_not_mem hFresh
    rw [List.mem_append, not_or] at hFree
    cases h
    exact .unique _ hUnique hFree.1 hFree.2
  · rename_i hUnique
    have hUnique : p.unique = false := by simpa using hUnique
    obtain ⟨found, hShare, h⟩ := exists_ok_of_bind_ok h
    cases found with
    | none =>
        cases h
        exact .first hUnique (share_none hShare)
    | some pair =>
        obtain ⟨before, b, b', after, hBs, hBs', hi, hShared, hName, hAbsorb⟩ :=
          share_some hShare
        cases h
        rw [hi, hBs']
        exact .found before after b b' hUnique hBs hShared hName hAbsorb

/-- A ledger that has grown: what was decided stays where it is, up to values
filled in. -/
structure Extends (L L' : Ledger) : Prop where
  binds : ∀ (i : Nat) (b : BindInfo), L.binds[i]? = some b →
    ∃ b', L'.binds[i]? = some b' ∧ b.Fills b'
  positional : L.positional <+: L'.positional
  aliases : L.aliases <+: L'.aliases
  generated : L.generated <+: L'.generated

theorem Extends.refl (L : Ledger) : L.Extends L where
  binds := fun _ b h => ⟨b, h, .refl b⟩
  positional := List.prefix_rfl
  aliases := List.prefix_rfl
  generated := List.prefix_rfl

theorem Extends.trans {L M N : Ledger} (hLM : L.Extends M) (hMN : M.Extends N) : L.Extends N where
  binds := by
    intro i b h
    obtain ⟨b', h', hFills⟩ := hLM.binds i b h
    obtain ⟨b'', h'', hFills'⟩ := hMN.binds i b' h'
    exact ⟨b'', h'', hFills.trans hFills'⟩
  positional := hLM.positional.trans hMN.positional
  aliases := hLM.aliases.trans hMN.aliases
  generated := hLM.generated.trans hMN.generated

/-- A parameter added at the end leaves all others where they are. -/
theorem extends_add (L : Ledger) (b : BindInfo) : L.Extends (L.add b) where
  binds := by
    intro i a h
    have hi : i < L.binds.length := (List.getElem?_eq_some_iff.mp h).1
    exact ⟨a, by rw [add, List.getElem?_append_left hi, h], .refl a⟩
  positional := List.prefix_rfl
  aliases := List.prefix_rfl
  generated := List.prefix_rfl

/-- A step changes nothing that was decided, up to a value that is filled in. -/
theorem BindStep.extends {s : Setting} {L L' : Ledger} {p : BindParam} {i : Nat} {name : String}
    {new : Bool} (h : BindStep s L p i name new L') : L.Extends L' := by
  cases h with
  | unique => exact extends_add L _
  | first => exact extends_add L _
  | found before after b b' hUnique hBinds hShared hName hAbsorb =>
      refine ⟨?_, List.prefix_rfl, List.prefix_rfl, List.prefix_rfl⟩
      intro j a h
      rw [hBinds, List.getElem?_append] at h
      by_cases hj : j < before.length
      · rw [if_pos hj] at h
        exact ⟨a, by rw [List.getElem?_append_left hj, h], .refl a⟩
      · rw [if_neg hj] at h
        rw [List.getElem?_append_right (Nat.not_lt.mp hj)]
        cases hk : j - before.length with
        | zero =>
            rw [hk, List.getElem?_cons_zero] at h
            cases h
            exact ⟨b', rfl, (BindInfo.absorb_ok hAbsorb).1⟩
        | succ k =>
            rw [hk, List.getElem?_cons_succ] at h
            exact ⟨a, h, .refl a⟩

/-- Placeholders are noted after a step, not by it. -/
theorem BindStep.positional {s : Setting} {L L' : Ledger} {p : BindParam} {i : Nat} {name : String}
    {new : Bool} (h : BindStep s L p i name new L') : L'.positional = L.positional := by
  cases h <;> rfl

theorem BindStep.aliases {s : Setting} {L L' : Ledger} {p : BindParam} {i : Nat} {name : String}
    {new : Bool} (h : BindStep s L p i name new L') : L'.aliases = L.aliases := by
  cases h <;> rfl

/-- After the step, the parameter at the place given stands for the
occurrence. -/
theorem BindStep.stands {s : Setting} {L L' : Ledger} {p : BindParam} {i : Nat} {name : String}
    {new : Bool} (h : BindStep s L p i name new L') :
    ∃ b, L'.binds[i]? = some b ∧ b.name = name ∧ b.Stands s.target.rules p := by
  cases h with
  | unique name hUnique _ _ =>
      refine ⟨p.info s.target name, by rw [add, List.getElem?_concat_length], rfl, rfl, rfl,
        fun _ h => h, ?_, fun _ => rfl⟩
      intro hShared
      rw [hUnique] at hShared
      cases hShared
  | first hUnique _ =>
      exact ⟨p.info s.target (s.target.rules.truncate p.key),
        by rw [add, List.getElem?_concat_length], rfl, rfl, rfl, fun _ h => h, fun _ => rfl,
        fun _ => rfl⟩
  | found before after b b' hUnique hBinds hShared hName hAbsorb =>
      obtain ⟨hFills, hType, hValue⟩ := BindInfo.absorb_ok hAbsorb
      refine ⟨b', by simp, hFills.name.trans hName, hFills.type.trans hType,
        (hFills.unique.trans hShared).trans hUnique.symm, hValue,
        fun _ => hFills.name.trans hName, ?_⟩
      intro hOwn
      rw [hUnique] at hOwn
      cases hOwn

/-- The ledger after a placeholder for the parameter of the given name. -/
def place (style : PlaceholderStyle) (L : Ledger) (name : String) (new generated : Bool) :
    Ledger :=
  { L with
    positional := if new || style.repeats then L.positional ++ [name] else L.positional
    generated := if generated then L.generated ++ [name] else L.generated }

/-- A placeholder is written after its parameter took its step, under its name
and at its place, which is counted from one. -/
theorem slot_step {s : Setting} {L L' : Ledger} {p : BindParam} {generated : Bool} {text : String}
    (h : L.slot s p generated = .ok (text, L')) :
    ∃ i name new M, BindStep s L p i name new M ∧
      text = s.target.profile.placeholders.placeholder name (i + 1) ∧
      L' = M.place s.target.profile.placeholders name new generated := by
  obtain ⟨⟨i, name, new, M⟩, hBind, h⟩ := exists_ok_of_bind_ok h
  cases h
  exact ⟨i, name, new, M, bind_step hBind, rfl, rfl⟩

theorem extends_place (style : PlaceholderStyle) (L : Ledger) (name : String)
    (new generated : Bool) : L.Extends (L.place style name new generated) where
  binds := fun _ b h => ⟨b, h, .refl b⟩
  positional := by
    simp only [place]
    split
    · exact List.prefix_append _ _
    · exact List.prefix_rfl
  aliases := List.prefix_rfl
  generated := by
    simp only [place]
    split
    · exact List.prefix_append _ _
    · exact List.prefix_rfl

/-- Choosing an alias changes nothing but the aliases, to which it may add one
at the end. -/
theorem alias?_ledger {s : Setting} {L L' : Ledger} {key : TableKey} {name? : Option String}
    (h : L.alias? s key = .ok (name?, L')) :
    ∃ aliases, L.aliases <+: aliases ∧ L' = { L with aliases } := by
  rw [alias?] at h
  split at h
  · cases h
    exact ⟨L.aliases, List.prefix_rfl, rfl⟩
  · split at h
    · cases h
      exact ⟨L.aliases, List.prefix_rfl, rfl⟩
    · obtain ⟨name, _, h⟩ := exists_ok_of_bind_ok h
      cases h
      exact ⟨_, List.prefix_append _ _, rfl⟩

/-- A piece is a placeholder, or it changes nothing but the aliases. Written-out
values belong to the second kind. -/
theorem writePiece_cases {s : Setting} {L L' : Ledger} {piece : Piece} {text : String}
    (h : L.writePiece s piece = .ok (text, L')) :
    (∃ p generated, piece = .param p generated ∧ s.mode = .placeholders ∧
      L.slot s p generated = .ok (text, L')) ∨
    ((∀ p generated, piece = .param p generated → s.mode = .literals ∧ literal s p = .ok text) ∧
      ∃ aliases, L.aliases <+: aliases ∧ L' = { L with aliases }) := by
  cases piece with
  | text | name | table =>
      cases h
      exact .inr ⟨by simp, L.aliases, List.prefix_rfl, rfl⟩
  | source t | qualifier t =>
      obtain ⟨⟨name?, M⟩, hAlias, h⟩ := exists_ok_of_bind_ok h
      refine .inr ⟨by simp, ?_⟩
      cases name? <;> cases h <;> exact alias?_ledger hAlias
  | param p generated =>
      rw [writePiece] at h
      split at h
      · rename_i hMode
        exact .inl ⟨p, generated, rfl, hMode, h⟩
      · rename_i hMode
        obtain ⟨x, hLiteral, h⟩ := exists_ok_of_bind_ok h
        cases h
        refine .inr ⟨?_, L.aliases, List.prefix_rfl, rfl⟩
        rintro _ _ ⟨⟩
        exact ⟨hMode, hLiteral⟩
  | stop e => cases h

/-- Any piece only adds to the ledger. -/
theorem writePiece_extends {s : Setting} {L L' : Ledger} {piece : Piece} {text : String}
    (h : L.writePiece s piece = .ok (text, L')) : L.Extends L' := by
  rcases writePiece_cases h with ⟨p, generated, _, _, hSlot⟩ | ⟨_, aliases, hAliases, rfl⟩
  · obtain ⟨i, name, new, M, hStep, _, rfl⟩ := slot_step hSlot
    exact hStep.extends.trans (extends_place _ M name new generated)
  · exact ⟨(Extends.refl L).binds, List.prefix_rfl, hAliases, List.prefix_rfl⟩

/-- A draft is written piece by piece, each from the ledger that the pieces
before it have left. -/
theorem write_cons {s : Setting} {L L' : Ledger} {piece : Piece} {d : Draft} {texts : List String}
    (h : L.write s (piece :: d) = .ok (texts, L')) :
    ∃ text M rest, L.writePiece s piece = .ok (text, M) ∧ M.write s d = .ok (rest, L') ∧
      texts = text :: rest := by
  obtain ⟨⟨text, M⟩, hPiece, h⟩ := exists_ok_of_bind_ok h
  obtain ⟨⟨rest, N⟩, hRest, h⟩ := exists_ok_of_bind_ok h
  cases h
  exact ⟨text, M, rest, hPiece, hRest, rfl⟩

theorem write_cons_ok {s : Setting} {L M N : Ledger} {piece : Piece} {d : Draft} {text : String}
    {texts : List String} (hPiece : L.writePiece s piece = .ok (text, M))
    (h : M.write s d = .ok (texts, N)) : L.write s (piece :: d) = .ok (text :: texts, N) := by
  rw [write, hPiece]
  show (M.write s d >>= fun r => pure (text :: r.1, r.2)) = _
  rw [h]
  rfl

/-- One draft after the other is written out with the ledger handed on. -/
theorem write_append {s : Setting} {L M N : Ledger} {d e : Draft} {xs ys : List String}
    (hd : L.write s d = .ok (xs, M)) (he : M.write s e = .ok (ys, N)) :
    L.write s (d ++ e) = .ok (xs ++ ys, N) := by
  induction d generalizing L xs with
  | nil =>
      cases hd
      exact he
  | cons piece d ih =>
      obtain ⟨text, L', rest, hPiece, hRest, rfl⟩ := write_cons hd
      exact write_cons_ok hPiece (ih hRest)

/-- A draft that cannot be written out stops the whole. -/
theorem write_append_error {s : Setting} {L M : Ledger} {d e : Draft} {xs : List String}
    {err : Error} (hd : L.write s d = .ok (xs, M)) (he : M.write s e = .error err) :
    L.write s (d ++ e) = .error err := by
  induction d generalizing L xs with
  | nil =>
      cases hd
      exact he
  | cons piece d ih =>
      obtain ⟨text, L', rest, hPiece, hRest, rfl⟩ := write_cons hd
      rw [List.cons_append, write, hPiece]
      show (L'.write s (d ++ e) >>= fun r => pure (text :: r.1, r.2)) = _
      rw [ih hRest]
      rfl

/-- A draft that is written out as a whole is written out part by part. -/
theorem exists_write_append {s : Setting} {L N : Ledger} {d e : Draft} {texts : List String}
    (h : L.write s (d ++ e) = .ok (texts, N)) :
    ∃ xs ys M, L.write s d = .ok (xs, M) ∧ M.write s e = .ok (ys, N) ∧ texts = xs ++ ys := by
  induction d generalizing L texts with
  | nil => exact ⟨[], texts, L, rfl, h, rfl⟩
  | cons piece d ih =>
      obtain ⟨text, K, rest, hPiece, hRest, rfl⟩ := write_cons h
      obtain ⟨xs, ys, M, hFirst, hSecond, rfl⟩ := ih hRest
      exact ⟨text :: xs, ys, M, write_cons_ok hPiece hFirst, hSecond, rfl⟩

/-- What every piece of a draft preserves holds after the whole draft. By
induction on the pieces. -/
theorem write_invariant {s : Setting} {P : Ledger → Prop} {d : Draft} {L L' : Ledger}
    {texts : List String} (h : L.write s d = .ok (texts, L')) (hStart : P L)
    (hStep : ∀ piece ∈ d, ∀ M M' text, M.writePiece s piece = .ok (text, M') → P M → P M') :
    P L' := by
  induction d generalizing L texts with
  | nil =>
      cases h
      exact hStart
  | cons piece d ih =>
      obtain ⟨text, M, rest, hPiece, hRest, _⟩ := write_cons h
      refine ih hRest (hStep piece (List.mem_cons_self ..) L M text hPiece hStart) ?_
      exact fun other hOther => hStep other (List.mem_cons_of_mem _ hOther)

/-- Writing out a draft only extends the ledger. -/
theorem write_extends {s : Setting} {L L' : Ledger} {d : Draft} {texts : List String}
    (h : L.write s d = .ok (texts, L')) : L.Extends L' :=
  write_invariant h (.refl L) fun _ _ _ _ _ hPiece hExtends =>
    hExtends.trans (writePiece_extends hPiece)

end Ledger

end SqlStatements
