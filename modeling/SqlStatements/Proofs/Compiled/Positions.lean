import SqlStatements.Proofs.Compiled.Values
import SqlStatements.Proofs.Draft.StatementFrames
import SqlStatements.Proofs.Ledger.Slots

/-! The positions of a compiled statement: which parameter each placeholder of
the text takes its value from. -/
namespace SqlStatements

namespace Sample

/-- One shared parameter in two places. -/
def lookup : Statement :=
  .query (.select
    { Select.ofColumns [.column ⟨some (.table (.plain accounts)), "id", .of .integer⟩] with
      condition := some (.binary .or
        (.binary .eq (.column ⟨some (.table (.plain accounts)), "id", .of .integer⟩)
          (.param ⟨"sought", none, .of .integer, false⟩))
        (.binary .eq (.column ⟨some (.table (.plain accounts)), "balance", .of .integer⟩)
          (.param ⟨"sought", none, .of .integer, false⟩))) })

end Sample

/-- Where every name finds a value, the values found are those of the names, one
by one. -/
theorem filterMap_lookup {bound : Bound} {names : List String}
    (h : ∀ name ∈ names, ∃ v, bound.lookup name = some v) :
    (names.filterMap fun name => bound.lookup name).length = names.length ∧
      ∀ (i : Nat) (name : String), names[i]? = some name →
        (names.filterMap fun name => bound.lookup name)[i]? = bound.lookup name := by
  induction names with
  | nil => simp
  | cons first rest ih =>
      obtain ⟨⟨v, hv⟩, hRest⟩ := List.forall_mem_cons.mp h
      obtain ⟨hLength, hEach⟩ := ih hRest
      rw [List.filterMap_cons, hv]
      refine ⟨by simpa using hLength, ?_⟩
      intro i name hName
      cases i with
      | zero =>
          cases hName
          exact hv.symm
      | succ i => exact hEach i name hName

namespace Statement

variable {t : Target} {s : Statement} {c : Compiled}

/-- Every placeholder finds the value that its parameter was bound to, a shared
one at each of its places. -/
theorem positionalValues_of_bind (h : s.compile t .placeholders = .ok c) {params : Params}
    {bound : Bound} (hBind : c.bind params = .ok bound) :
    (c.positionalValues bound).length = c.positional.length ∧
      ∀ (i : Nat) (name : String), c.positional[i]? = some name →
        ∃ b ∈ c.binds, b.name = name ∧ ∃ v, b.bind params = .ok (name, v) ∧
          bound.lookup name = some v ∧ (c.positionalValues bound)[i]? = some v := by
  obtain ⟨hNodup, _, hPositional⟩ := compile_sound h
  have hFind : ∀ name ∈ c.positional, ∃ b ∈ c.binds, b.name = name ∧ ∃ v,
      b.bind params = .ok (name, v) ∧ bound.lookup name = some v := by
    intro name hName
    obtain ⟨b, hb, rfl⟩ := List.mem_map.mp (hPositional hName)
    exact ⟨b, hb, rfl, Compiled.lookup_bound hNodup hBind hb⟩
  have hSome : ∀ name ∈ c.positional, ∃ v, bound.lookup name = some v := by
    intro name hName
    obtain ⟨_, _, _, v, _, hFound⟩ := hFind name hName
    exact ⟨v, hFound⟩
  obtain ⟨hLength, hEach⟩ := filterMap_lookup hSome
  refine ⟨hLength, ?_⟩
  intro i name hName
  obtain ⟨b, hb, he, v, hValue, hFound⟩ := hFind name (List.mem_of_getElem? hName)
  exact ⟨b, hb, he, v, hValue, hFound, (hEach i name hName).trans hFound⟩

/-- The question marks of the text are its placeholders, unless a string of the
statement brings one along. -/
theorem count_marks (ht : t.profile.Unmarked) (hStyle : t.profile.placeholders = .questionMark)
    (h : s.compile t .placeholders = .ok c) (hs : Text.LackAll '?' s.strings) :
    c.sql.toList.count '?' = c.positional.length := by
  obtain ⟨texts, L, hWrite, rfl⟩ := exists_ledger_of_compile h
  have hDraft : (s.draft t).Worded '?' (Text.Lacks '?') :=
    draft_worded law_unmarked ht.worded (by decide) hs (Ledger.stop_not_mem hWrite)
  exact Ledger.count_write hStyle rfl ht hWrite hDraft Ledger.aliasesLack_empty

/-- Placeholders and values correspond. The value at a position is the one that
the parameter listed there was bound to, and each parameter in the text is
written as the placeholder of the parameter that stands for it. Styles that name
or number their placeholders list every parameter once, in order; the other
styles list every occurrence from left to right. In standard SQL and on SQL
Server the text has one question mark for each position, if no string of the
statement has one. -/
theorem compile_positions (t : Target) (s : Statement) (c : Compiled)
    (h : s.compile t .placeholders = .ok c) :
    (∀ (params : Params) (bound : Bound), c.bind params = .ok bound →
      (c.positionalValues bound).length = c.positional.length ∧
      ∀ (i : Nat) (name : String), c.positional[i]? = some name →
        ∃ b ∈ c.binds, b.name = name ∧ ∃ v, b.bind params = .ok (name, v) ∧
          bound.lookup name = some v ∧ (c.positionalValues bound)[i]? = some v) ∧
    (∃ texts, c.sql = String.join texts ∧
      List.Forall₂ (Ledger.Written (s.setting t .placeholders) c.binds) (s.draft t) texts) ∧
    (t.profile.placeholders ∈ [.dollar, .numeric, .named, .namedFormat] →
      c.positional = c.binds.map (·.name)) ∧
    (t.profile.placeholders ∈ [.questionMark, .format] →
      List.Forall₂ (fun p name => ∃ b ∈ c.binds, b.Stands t.rules p ∧ b.name = name)
        (s.draft t).params c.positional ∧
      c.positional.eraseDups = c.binds.map (·.name)) ∧
    ((t.profile = Profile.standard ∨
        ∃ driver textAsVarchar, t.profile = SqlServer.profile driver textAsVarchar) →
      (∀ x ∈ s.strings, '?' ∉ x.toList) → c.sql.toList.count '?' = c.positional.length) := by
  refine ⟨fun params bound hBind => positionalValues_of_bind h hBind, ?_, ?_, ?_, ?_⟩
  · obtain ⟨texts, L, hWrite, rfl⟩ := exists_ledger_of_compile h
    exact ⟨texts, rfl, Ledger.write_texts hWrite rfl⟩
  · intro hStyle
    obtain ⟨texts, L, hWrite, rfl⟩ := exists_ledger_of_compile h
    refine (ledger_sound hWrite).single ?_
    show t.profile.placeholders.repeats = false
    revert hStyle
    cases t.profile.placeholders <;> decide
  · intro hStyle
    obtain ⟨texts, L, hWrite, rfl⟩ := exists_ledger_of_compile h
    have hRepeats : t.profile.placeholders.repeats = true := by
      revert hStyle
      cases t.profile.placeholders <;> decide
    obtain ⟨added, hAdded, hParams⟩ := Ledger.write_positions hWrite rfl hRepeats
    have hAll : L.positional = added := by simpa using hAdded
    exact ⟨hAll ▸ hParams, (ledger_sound hWrite).repeated hRepeats⟩
  · rintro (hStandard | ⟨driver, textAsVarchar, hServer⟩) hs
    · exact count_marks (hStandard ▸ Profile.standard_unmarked) (by rw [hStandard]; rfl) h hs
    · exact count_marks (hServer ▸ SqlServer.profile_unmarked driver textAsVarchar)
        (by rw [hServer]; rfl) h hs

/-- One value is given, and it is sent twice. -/
theorem compile_positions_lookup :
    ∃ c bound, Sample.lookup.compile Sample.target .placeholders = .ok c ∧
      c.positional = ["sought", "sought"] ∧
      c.bind (NameMap.insert {} "sought" (.int 7)) = .ok bound ∧
      (c.positionalValues bound).length = c.positional.length ∧
      c.positional.eraseDups = c.binds.map (·.name) ∧
      c.sql.toList.count '?' = c.positional.length := by
  obtain ⟨c, hCompile, hFound⟩ := exists_ok_of_toOption
    (x := Sample.lookup.compile Sample.target .placeholders)
    (f := fun c => (c.positional, c.bind (NameMap.insert {} "sought" (.int 7))))
    (y := (["sought", "sought"], .ok [("sought", .int 7)])) (by decide)
  obtain ⟨hValues, _, _, hOccurrences, hMarks⟩ :=
    compile_positions Sample.target Sample.lookup c hCompile
  have hBind : c.bind (NameMap.insert {} "sought" (.int 7)) = .ok [("sought", .int 7)] :=
    congrArg Prod.snd hFound
  exact ⟨c, _, hCompile, congrArg Prod.fst hFound, hBind, (hValues _ _ hBind).1,
    (hOccurrences (by decide)).2, hMarks (.inl rfl) (by decide)⟩

end Statement

end SqlStatements
