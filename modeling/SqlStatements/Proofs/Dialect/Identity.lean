import SqlStatements.Dialect.Registry
import SqlStatements.Proofs.Dialect.SqlServer

/-! The identity of a dialect. Dialects of one identity write statements alike: what
their options and their servers say beyond it is in the capabilities, or has no
bearing on the text. -/
namespace SqlStatements

/-- The profile that an identity stands for. SQL Server has one for each driver
and for each value of the option that changes the names of types; what follows
in an identity does not matter. -/
inductive Profile.Identified : String → Profile → Prop where
  | standard : Identified "generic" .standard
  | postgres (rest : String) : Identified ("postgresql/" ++ rest) Postgres.profile
  | sqlServer (driver : SqlServer.Driver) (textAsVarchar : Bool) (rest : String) :
      Identified ("mssql+" ++ driver.name ++ "/text_as_varchar=" ++ toString textAsVarchar ++
        "/schema=" ++ rest) (SqlServer.profile driver textAsVarchar)

/-- Driver and option can be read off the identity of a dialect of SQL Server,
whatever follows them in it. -/
theorem SqlServer.identity_injective {driver driver' : Driver} {textAsVarchar textAsVarchar' : Bool}
    {rest rest' : String}
    (h : "mssql+" ++ driver.name ++ "/text_as_varchar=" ++ toString textAsVarchar ++
        "/schema=" ++ rest =
      "mssql+" ++ driver'.name ++ "/text_as_varchar=" ++ toString textAsVarchar' ++
        "/schema=" ++ rest') :
    driver = driver' ∧ textAsVarchar = textAsVarchar' := by
  have hList := congrArg String.toList h
  cases driver <;> cases driver' <;> cases textAsVarchar <;> cases textAsVarchar' <;>
    simp [Driver.name, toString] at hList ⊢

/-- An identity stands for one profile. The converse fails: limits of names and
other options are part of an identity and of no profile. -/
theorem Profile.Identified.unique {identity : String} {p p' : Profile}
    (h : Identified identity p) (h' : Identified identity p') : p = p' := by
  generalize hIdentity : identity = other at h'
  have hList := congrArg String.toList hIdentity
  cases h with
  | standard =>
      cases h' with
      | standard => rfl
      | postgres | sqlServer => simp at hList
  | postgres =>
      cases h' with
      | postgres => rfl
      | standard | sqlServer => simp at hList
  | sqlServer driver textAsVarchar rest =>
      cases h' with
      | standard | postgres => simp at hList
      | sqlServer driver' textAsVarchar' rest' =>
          obtain ⟨rfl, rfl⟩ := SqlServer.identity_injective hIdentity
          rfl

namespace Dialect

/-- The dialects there are: as a family builds them from options, or after they
have asked their servers. -/
inductive Stock : Dialect → Prop where
  | built {family : Family} {o : Options} {d : Dialect} (hBuilt : family.build o = .ok d) : Stock d
  | probed {d d' : Dialect} (h : Stock d) (p : Probe) (hProbe : d.probe p = .ok d') : Stock d'

/-- Asking the server changes nothing but what is known about it; name, identity
and profile stay. -/
theorem exists_cell_of_probe {d d' : Dialect} {p : Probe} (h : d.probe p = .ok d') :
    ∃ cell, d' = { d with cell } := by
  unfold probe at h
  split at h
  · cases h
    exact ⟨d.cell, rfl⟩
  · rename_i derive _
    cases hCell : (d.cell.probe derive p).1 with
    | error e =>
        rw [hCell] at h
        cases h
    | ok cell =>
        rw [hCell] at h
        cases h
        exact ⟨cell, rfl⟩

/-- Whatever the options are, a family builds a dialect with the profile that
its identity stands for. -/
theorem identified_of_build {family : Family} {o : Options} {d : Dialect}
    (h : family.build o = .ok d) : Profile.Identified d.identity d.profile := by
  cases family with
  | standard =>
      cases h
      exact .standard
  | postgres =>
      cases h
      exact .postgres _
  | sqlServer driver =>
      rw [SqlServer.eq_build_of_dialect h]
      exact .sqlServer driver o.textAsVarchar _

/-- Asking the server changes the capabilities only, so the identity still
stands for the profile. -/
theorem Stock.identified {d : Dialect} (h : d.Stock) : Profile.Identified d.identity d.profile := by
  induction h with
  | built hBuilt => exact identified_of_build hBuilt
  | probed h p hProbe ih =>
      obtain ⟨cell, rfl⟩ := exists_cell_of_probe hProbe
      exact ih

/-- Dialects of one identity have one profile, whatever else sets them apart.
Their capabilities may well differ. -/
theorem Stock.profile_eq {d d' : Dialect} (h : d.Stock) (h' : d'.Stock)
    (hIdentity : d.identity = d'.identity) : d.profile = d'.profile := by
  have hIdentified := h.identified
  rw [hIdentity] at hIdentified
  exact hIdentified.unique h'.identified

end Dialect

end SqlStatements
