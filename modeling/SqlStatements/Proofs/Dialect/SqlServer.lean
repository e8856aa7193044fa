import SqlStatements.Dialect.SqlServer

/-! The dialects of SQL Server. A dialect starts with the options it was built
from and may ask the server, so its capabilities can change; what its statements
are run with cannot. -/
namespace SqlStatements.SqlServer

/-- The dialects that options can lead to: as they were built, or after the
server has been asked. -/
inductive Configured (driver : Driver) (o : Options) : Dialect → Prop where
  | built {d : Dialect} (hBuilt : dialect driver o = .ok d) : Configured driver o d
  | probed {d d' : Dialect} (h : Configured driver o d) (p : Probe)
      (hProbe : d.probe p = .ok d') : Configured driver o d'

variable {driver : Driver} {o : Options} {d : Dialect}

/-- Options can refuse a dialect for its limit of names, but otherwise they lead
to the one that is built without a check. -/
theorem eq_build_of_dialect (h : dialect driver o = .ok d) : d = build driver o := by
  unfold dialect at h
  split at h
  · cases h
  · exact (Except.ok.inj h).symm

/-- Asking the server changes nothing but what is known about it, and no answer
makes a change hand back values. -/
theorem Configured.exists_cell (h : Configured driver o d) :
    ∃ cell : CapabilityCell, d = { build driver o with cell } ∧
      cell.defaults.returning = false ∧ cell.get.returning = false := by
  induction h with
  | built hBuilt => exact ⟨_, eq_build_of_dialect hBuilt, rfl, rfl⟩
  | probed h p hProbe ih =>
      obtain ⟨⟨defaults, probed⟩, rfl, hDefaults, hGet⟩ := ih
      cases probed with
      | some caps =>
          cases hProbe
          exact ⟨_, rfl, hDefaults, hGet⟩
      | none =>
          cases p with
          | version v =>
              cases hProbe
              exact ⟨_, rfl, hDefaults, hDefaults⟩
          | failure message => cases hProbe

/-- The profile depends on the driver and on one option; an answer of the server
does not change it. -/
theorem Configured.profile (h : Configured driver o d) :
    d.profile = profile driver o.textAsVarchar := by
  obtain ⟨cell, rfl, _⟩ := h.exists_cell
  rfl

/-- The dialect never claims that values can be handed back, neither before its
server has answered nor afterwards. -/
theorem Configured.returning (h : Configured driver o d) : d.capabilities.returning = false := by
  obtain ⟨cell, rfl, _, hReturning⟩ := h.exists_cell
  exact hReturning

end SqlStatements.SqlServer
