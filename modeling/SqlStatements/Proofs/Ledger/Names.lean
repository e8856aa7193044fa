import SqlStatements.Proofs.Ledger.Step

/-! The names in a ledger. Unique parameters keep away from the names reserved
for shared ones, so a shared parameter that is not in the ledger yet finds its
name free. This needs the reserved names to cover the whole draft. -/
namespace SqlStatements.Ledger

/-- The names of a ledger differ, each kind of parameter is on its side of the
reserved names, and positions follow the style of the placeholders. -/
structure Sound (s : Setting) (L : Ledger) : Prop where
  nodup : L.names.Nodup
  named : ∀ b ∈ L.binds, b.unique = false → b.name = s.target.rules.truncate b.key
  shared : ∀ b ∈ L.binds, b.unique = false → b.name ∈ s.reserved
  own : ∀ b ∈ L.binds, b.unique = true → b.name ∉ s.reserved
  single : s.target.profile.placeholders.repeats = false → L.positional = L.names
  repeated : s.target.profile.placeholders.repeats = true → L.positional.eraseDups = L.names
  generated : L.generated ⊆ L.names

/-- Nothing has been decided in an empty ledger, so it is sound for any
setting. -/
theorem sound_empty (s : Setting) : Sound s {} where
  nodup := List.nodup_nil
  named := by simp
  shared := by simp
  own := by simp
  single := fun _ => rfl
  repeated := fun _ => rfl
  generated := List.nil_subset _

/-- Every placeholder stands for a parameter of the ledger, whatever the style
of placeholders. -/
theorem Sound.positional {s : Setting} {L : Ledger} (h : Sound s L) : L.positional ⊆ L.names := by
  intro name hName
  cases hStyle : s.target.profile.placeholders.repeats with
  | false => rwa [h.single hStyle] at hName
  | true =>
      rw [← h.repeated hStyle]
      exact List.mem_eraseDups.mpr hName

variable {s : Setting} {L M : Ledger} {p : BindParam} {i : Nat} {name : String} {new : Bool}

/-- A parameter adds its name at the end if it is new; names are never
changed. -/
theorem BindStep.names_eq (h : BindStep s L p i name new M) :
    M.names = if new then L.names ++ [name] else L.names := by
  cases h with
  | unique => simp [names, add, BindParam.info]
  | first => simp [names, add, BindParam.info]
  | found before after b b' _ hBinds _ _ hAbsorb =>
      have hFills := (BindInfo.absorb_ok hAbsorb).1
      simp [names, hBinds, hFills.name]

/-- Every parameter after a step was there before, perhaps with its value filled
in, or is the new one. -/
theorem BindStep.mem_binds (h : BindStep s L p i name new M) {b : BindInfo} (hb : b ∈ M.binds) :
    (∃ a ∈ L.binds, a.Fills b) ∨ (new = true ∧ b = p.info s.target name) := by
  cases h with
  | unique | first =>
      rcases List.mem_append.mp hb with hb | hb
      · exact .inl ⟨b, hb, .refl b⟩
      · exact .inr ⟨rfl, List.mem_singleton.mp hb⟩
  | found before after a a' _ hBinds _ _ hAbsorb =>
      refine .inl ?_
      rw [hBinds]
      rcases List.mem_append.mp hb with hb | hb
      · exact ⟨b, List.mem_append_left _ hb, .refl b⟩
      · rcases List.mem_cons.mp hb with hb | hb
        · subst b
          exact ⟨a, by simp, (BindInfo.absorb_ok hAbsorb).1⟩
        · exact ⟨b, by simp [hb], .refl b⟩

/-- A name is new to the ledger exactly when its parameter is. For a shared
parameter this is where the reserved names are needed: no unique parameter can
have taken its name. -/
theorem BindStep.new_iff (h : BindStep s L p i name new M) (hSound : Sound s L)
    (hReserved : p.unique = false → s.target.rules.truncate p.key ∈ s.reserved) :
    new = true ↔ name ∉ L.names := by
  cases h with
  | unique name _ hNew _ => simpa using hNew
  | found before after b b' _ hBinds _ hName _ =>
      have hMem : s.target.rules.truncate p.key ∈ L.names := by
        rw [← hName, names, hBinds]
        simp
      simpa using hMem
  | first hUnique hNew =>
      simp only [true_iff]
      intro hMem
      obtain ⟨b, hb, hName⟩ := List.mem_map.mp hMem
      cases hKind : b.unique with
      | false => exact hNew b hb hKind hName
      | true => exact hSound.own b hb hKind (hName ▸ hReserved hUnique)

/-- A step keeps the names apart, since a unique parameter avoids the reserved
names and those there are. -/
theorem BindStep.nodup (h : BindStep s L p i name new M) (hSound : Sound s L)
    (hReserved : p.unique = false → s.target.rules.truncate p.key ∈ s.reserved) :
    M.names.Nodup := by
  rw [h.names_eq]
  cases new with
  | false => exact hSound.nodup
  | true =>
      have hNew := (h.new_iff hSound hReserved).mp rfl
      simpa [List.nodup_append] using ⟨hSound.nodup, fun a ha he => hNew (he ▸ ha)⟩

/-- The name of a shared parameter after a step is its key, cut to the limit,
and is one of those reserved. A unique parameter keeps away from them. -/
theorem BindStep.kinds (h : BindStep s L p i name new M) (hSound : Sound s L)
    (hReserved : p.unique = false → s.target.rules.truncate p.key ∈ s.reserved) {b : BindInfo}
    (hb : b ∈ M.binds) :
    (b.unique = false → b.name = s.target.rules.truncate b.key ∧ b.name ∈ s.reserved) ∧
      (b.unique = true → b.name ∉ s.reserved) := by
  rcases h.mem_binds hb with ⟨a, ha, hFills⟩ | ⟨hNew, rfl⟩
  · rw [hFills.unique, hFills.name, hFills.key]
    exact ⟨fun hKind => ⟨hSound.named a ha hKind, hSound.shared a ha hKind⟩, hSound.own a ha⟩
  · subst new
    cases h with
    | unique name hUnique _ hKept =>
        exact ⟨fun hKind => by simp_all [BindParam.info], fun _ => hKept⟩
    | first hUnique _ =>
        exact ⟨fun _ => ⟨rfl, hReserved hUnique⟩, fun hKind => by simp_all [BindParam.info]⟩

/-- The order of first occurrences grows by a name exactly when it is new. -/
theorem eraseDups_concat (xs : List String) (x : String) :
    (xs ++ [x]).eraseDups = if x ∈ xs.eraseDups then xs.eraseDups else xs.eraseDups ++ [x] := by
  rw [List.eraseDups_append, List.removeAll]
  by_cases h : x ∈ xs
  · simp [h, List.mem_eraseDups]
  · simp [h, List.mem_eraseDups, List.eraseDups_cons]

/-- A placeholder, with the ledger brought up to date, keeps a ledger sound. -/
theorem slot_sound {text : String} {generated : Bool} (h : L.slot s p generated = .ok (text, M))
    (hSound : Sound s L)
    (hReserved : p.unique = false → s.target.rules.truncate p.key ∈ s.reserved) : Sound s M := by
  obtain ⟨i, name, new, N, hStep, _, rfl⟩ := slot_step h
  have hNames := hStep.names_eq
  have hNew := hStep.new_iff hSound hReserved
  have hPositional := hStep.positional
  have hGenerated : N.generated = L.generated := by cases hStep <;> rfl
  have hOld : L.names ⊆ N.names := by
    rw [hNames]
    split
    · exact List.subset_append_left _ _
    · exact List.Subset.refl _
  have hIn : name ∈ N.names := by
    cases new with
    | true => simp [hNames]
    | false => simpa [hNames] using hNew
  -- Only the last three clauses are about lists that the placeholder itself extends.
  refine
    { nodup := hStep.nodup hSound hReserved
      named := fun b hb hKind => ((hStep.kinds hSound hReserved hb).1 hKind).1
      shared := fun b hb hKind => ((hStep.kinds hSound hReserved hb).1 hKind).2
      own := fun b hb => (hStep.kinds hSound hReserved hb).2
      single := ?_
      repeated := ?_
      generated := ?_ }
  · intro hStyle
    show (if new || s.target.profile.placeholders.repeats then _ else _) = N.names
    rw [hNames, hStyle, hPositional, hSound.single hStyle]
    cases new <;> rfl
  · intro hStyle
    show (if new || s.target.profile.placeholders.repeats then _ else _ : List String).eraseDups =
      N.names
    rw [hNames, hStyle, hPositional, Bool.or_true, if_pos rfl, eraseDups_concat,
      hSound.repeated hStyle]
    cases new with
    | true => simpa using hNew
    | false => simpa using hNew
  · show (if generated then _ else _) ⊆ N.names
    rw [hGenerated]
    split
    · exact List.append_subset.mpr
        ⟨List.Subset.trans hSound.generated hOld, by simpa using hIn⟩
    · exact List.Subset.trans hSound.generated hOld

/-- One piece keeps a ledger sound. A shared parameter may take only a name that
was reserved for it. -/
theorem writePiece_sound {piece : Piece} {text : String}
    (h : L.writePiece s piece = .ok (text, M)) (hSound : Sound s L)
    (hReserved : ∀ p generated, piece = .param p generated → p.unique = false →
      s.target.rules.truncate p.key ∈ s.reserved) : Sound s M := by
  rcases writePiece_cases h with ⟨p, generated, hPiece, _, hSlot⟩ | ⟨_, aliases, _, rfl⟩
  · exact slot_sound hSlot hSound (hReserved p generated hPiece)
  · exact ⟨hSound.nodup, hSound.named, hSound.shared, hSound.own, hSound.single, hSound.repeated,
      hSound.generated⟩

/-- A draft whose shared parameters are all reserved leaves a sound ledger, if
it started from one. -/
theorem write_sound {d : Draft} {texts : List String} (h : L.write s d = .ok (texts, M))
    (hSound : Sound s L)
    (hReserved : ∀ p ∈ d.params, p.unique = false →
      s.target.rules.truncate p.key ∈ s.reserved) : Sound s M := by
  refine write_invariant h hSound ?_
  intro piece hPiece N N' text hWrite hN
  refine writePiece_sound hWrite hN ?_
  rintro p generated rfl
  exact hReserved p (List.mem_filterMap.mpr ⟨_, hPiece, rfl⟩)

end SqlStatements.Ledger
