import SqlStatements.Proofs.Draft.Walk
import SqlStatements.Proofs.Ledger.Spells

/-! Drafts with parameters of their own. Shared parameters with new names are filed one
after the other, each with its own value. What is written out afterwards adds to them. -/
namespace SqlStatements

/-- A parameter with a value takes nothing from a later occurrence. A different
value would be a clash. -/
theorem BindInfo.absorb_of_value {b b' : BindInfo} {p : BindParam} (hValue : b.value.isSome)
    (h : b.absorb p = .ok b') : b' = b := by
  obtain ⟨v, hv⟩ := Option.isSome_iff_exists.mp hValue
  rw [absorb, hv] at h
  split at h
  · cases h
  · cases hp : p.value with
    | none =>
        simp only [hp] at h
        cases h
        rfl
    | some w =>
        simp only [hp] at h
        split at h
        · cases h
          rfl
        · cases h

namespace Ledger

/-- A name that no shared parameter has is not found. -/
theorem share_of_new {name : String} {bs : List BindInfo} (p : BindParam)
    (h : name ∉ bs.map (·.name)) : share name p bs = .ok none := by
  induction bs with
  | nil => rfl
  | cons b bs ih =>
      rw [List.map_cons, List.mem_cons, not_or] at h
      rw [share, if_neg fun hHere => h.1 hHere.2.symm, ih h.2]
      rfl

/-- A shared parameter under a new name is added at the end, and its placeholder
is noted. -/
theorem slot_of_new {st : Setting} {L : Ledger} {p : BindParam} (generated : Bool)
    (hShared : p.unique = false) (hKey : st.target.rules.truncate p.key = p.key)
    (hNew : p.key ∉ L.names) :
    L.slot st p generated = .ok
      (st.target.profile.placeholders.placeholder p.key (L.binds.length + 1),
        (L.add (p.info st.target p.key)).place st.target.profile.placeholders p.key true
          generated) := by
  have hBind : L.bind st p =
      .ok (L.binds.length, p.key, true, L.add (p.info st.target p.key)) := by
    simp only [bind, hShared, hKey]
    rw [if_neg Bool.false_ne_true, share_of_new p hNew]
    rfl
  rw [slot, hBind]
  rfl

/-- A step leaves parameters with a value as they are. Those after them keep
their keys and types, and only the parameter of the step can be added. -/
theorem BindStep.after {s : Setting} {M N : Ledger} {p : BindParam} {i : Nat} {name : String}
    {new : Bool} (h : BindStep s M p i name new N) {old more : List BindInfo}
    (hValue : ∀ b ∈ old, b.value.isSome) (hBinds : M.binds = old ++ more) :
    ∃ more', N.binds = old ++ more' ∧ ∀ b' ∈ more',
      (∃ b ∈ more, b'.key = b.key ∧ b'.type = b.type) ∨ (b'.key = p.key ∧ b'.type = p.type) := by
  have hAdd : ∀ name, ∃ more', (M.add (p.info s.target name)).binds = old ++ more' ∧
      ∀ b' ∈ more', (∃ b ∈ more, b'.key = b.key ∧ b'.type = b.type) ∨
        (b'.key = p.key ∧ b'.type = p.type) := by
    intro name
    refine ⟨more ++ [p.info s.target name], by rw [add, hBinds, List.append_assoc], ?_⟩
    intro b' hb'
    rcases List.mem_append.mp hb' with hb' | hb'
    · exact .inl ⟨b', hb', rfl, rfl⟩
    · obtain rfl := List.mem_singleton.mp hb'
      exact .inr ⟨rfl, rfl⟩
  cases h with
  | unique name => exact hAdd name
  | first => exact hAdd _
  | found before after b b' hUnique hFound hShared hName hAbsorb =>
      obtain ⟨hFills, _, _⟩ := BindInfo.absorb_ok hAbsorb
      -- The parameter found is one of the later ones, or it has a value and stays.
      have hLater : ∀ between, before = old ++ between → more = between ++ b :: after →
          ∃ more', before ++ b' :: after = old ++ more' ∧ ∀ a' ∈ more',
            (∃ a ∈ more, a'.key = a.key ∧ a'.type = a.type) ∨
              (a'.key = p.key ∧ a'.type = p.type) := by
        rintro between rfl rfl
        refine ⟨between ++ b' :: after, by rw [List.append_assoc], ?_⟩
        intro a' ha'
        rcases List.mem_append.mp ha' with ha' | ha'
        · exact .inl ⟨a', List.mem_append_left _ ha', rfl, rfl⟩
        · rcases List.mem_cons.mp ha' with rfl | ha'
          · exact .inl ⟨b, by simp, hFills.key, hFills.type⟩
          · exact .inl ⟨a', by simp [ha'], rfl, rfl⟩
      rcases List.append_eq_append_iff.mp (hFound.symm.trans hBinds) with
        ⟨rest, hOld, hRest⟩ | ⟨between, hBefore, hMore⟩
      · cases rest with
        | nil => exact hLater [] (by simpa using hOld.symm) (by simpa using hRest.symm)
        | cons a rest =>
            obtain ⟨rfl, rfl⟩ := List.cons_eq_cons.mp hRest
            have hSame : b' = b :=
              BindInfo.absorb_of_value (hValue b (by simp [hOld])) hAbsorb
            refine ⟨more, by simp [hSame, hOld], ?_⟩
            exact fun a' ha' => .inl ⟨a', ha', rfl, rfl⟩
      · exact hLater between hBefore hMore

/-- What stands in the ledger with a value stays as it is. A draft adds
parameters of its own only, and without any it adds nothing. -/
theorem write_after {st : Setting} {L L' : Ledger} {d : Draft} {texts : List String}
    (hValue : ∀ b ∈ L.binds, b.value.isSome) (h : L.write st d = .ok (texts, L')) :
    ∃ more later, L'.binds = L.binds ++ more ∧ L'.positional = L.positional ++ later ∧
      (∀ b ∈ more, ∃ p ∈ d.params, b.key = p.key ∧ b.type = p.type) ∧
      (d.params = [] → later = []) := by
  -- The parameters filed before are followed by those of the pieces written so far.
  refine write_invariant (P := fun M => ∃ more later, M.binds = L.binds ++ more ∧
      M.positional = L.positional ++ later ∧
      (∀ b ∈ more, ∃ p ∈ d.params, b.key = p.key ∧ b.type = p.type) ∧
      (d.params = [] → later = [])) h ⟨[], [], by simp, by simp, by simp, fun _ => rfl⟩ ?_
  rintro piece hPiece M M' text hWrite ⟨more, later, hBinds, hPositional, hMore, hLater⟩
  rcases writePiece_cases hWrite with ⟨p, generated, rfl, _, hSlot⟩ | ⟨_, aliases, _, rfl⟩
  · have hp : p ∈ d.params := List.mem_filterMap.mpr ⟨.param p generated, hPiece, rfl⟩
    obtain ⟨i, name, new, N, hStep, _, rfl⟩ := slot_step hSlot
    have hPlaced : ∃ later',
        (N.place st.target.profile.placeholders name new generated).positional =
          L.positional ++ later' := by
      have hStart : N.positional = L.positional ++ later := hStep.positional.trans hPositional
      simp only [place]
      split
      · exact ⟨later ++ [name], by rw [hStart, List.append_assoc]⟩
      · exact ⟨later, hStart⟩
    obtain ⟨later', hPlaced⟩ := hPlaced
    obtain ⟨more', hBinds', hKept⟩ := hStep.after hValue hBinds
    refine ⟨more', later', hBinds', hPlaced, ?_, fun hNone => absurd hp (by simp [hNone])⟩
    intro b' hb'
    rcases hKept b' hb' with ⟨b, hb, hKey, hType⟩ | hOwn
    · obtain ⟨q, hq, hKey', hType'⟩ := hMore b hb
      exact ⟨q, hq, hKey.trans hKey', hType.trans hType'⟩
    · exact ⟨p, hp, hOwn⟩
  · exact ⟨more, later, hBinds, hPositional, hMore, hLater⟩

end Ledger

namespace Draft

/-- Writing out the draft files the given shared parameters one after the other,
whatever has been decided before, as long as their names are new. -/
def Files (st : Setting) (d : Draft) (ps : List BindParam) : Prop :=
  ∀ L : Ledger, (L.names ++ ps.map (·.key)).Nodup →
    ∃ texts L', L.write st d = .ok (texts, L') ∧
      L'.binds = L.binds ++ ps.map (fun p => p.info st.target p.key) ∧
      L'.positional = L.positional ++ ps.map (·.key)

variable {st : Setting} {d e : Draft} {ps qs : List BindParam}

/-- Drafts one after the other file the parameters of both, in their order. -/
theorem Files.append (hd : Files st d ps) (he : Files st e qs) : Files st (d ++ e) (ps ++ qs) := by
  intro L hNodup
  rw [List.map_append, ← List.append_assoc] at hNodup
  obtain ⟨xs, M, hWrite, hBinds, hPositional⟩ := hd L (List.nodup_append.mp hNodup).1
  have hNames : M.names = L.names ++ ps.map (·.key) := by
    simp [Ledger.names, hBinds, BindParam.info, Function.comp_def]
  obtain ⟨ys, N, hWrite', hBinds', hPositional'⟩ := he M (hNames ▸ hNodup)
  refine ⟨xs ++ ys, N, Ledger.write_append hWrite hWrite', ?_, ?_⟩
  · rw [hBinds', hBinds, List.map_append, List.append_assoc]
  · rw [hPositional', hPositional, List.map_append, List.append_assoc]

/-- A draft that decides nothing files nothing. -/
theorem Spells.files {cs : List Char} (h : Spells st d cs) : Files st d [] := by
  intro L _
  obtain ⟨texts, hWrite, _⟩ := h L
  exact ⟨texts, L, hWrite, by simp, by simp⟩

/-- A shared parameter files itself. Its key has to be its name, so it must be
within the limit. -/
theorem files_param (hMode : st.mode = .placeholders) {p : BindParam} (generated : Bool)
    (hShared : p.unique = false) (hKey : st.target.rules.truncate p.key = p.key) :
    Files st [.param p generated] [p] := by
  intro L hNodup
  have hNew : p.key ∉ L.names := by
    intro hOld
    exact (List.nodup_append.mp hNodup).2.2 p.key hOld p.key (by simp) rfl
  have hPiece : L.slot st p generated = .ok _ := Ledger.slot_of_new generated hShared hKey hNew
  refine ⟨_, _, Ledger.write_cons_ok (by rw [Ledger.writePiece, hMode]; exact hPiece) rfl, ?_, ?_⟩
  · rfl
  · simp [Ledger.place, Ledger.add]

/-- Parts in a row file their parameters in turn. -/
theorem files_join (separator : String) {ds : List Draft} {parts : List (List BindParam)}
    (h : List.Forall₂ (Files st) ds parts) : Files st (join separator ds) parts.flatten := by
  induction h with
  | nil => exact Spells.files spells_nil
  | @cons d ps ds parts hFirst hRest ih =>
      cases hRest with
      | nil => simpa [join] using hFirst
      | cons hNext hLater =>
          have hText : Files st [.text separator] [] := (spells_text separator).files
          simpa [join] using hFirst.append (hText.append ih)

theorem Files.parens (h : Files st d ps) : Files st (d.parens true) ps := by
  have hOpen : Files st [.text "("] [] := (spells_text "(").files
  have hClose : Files st [.text ")"] [] := (spells_text ")").files
  simpa [Draft.parens] using hOpen.append (h.append hClose)

end Draft

end SqlStatements
