import ContentTracker.Proofs.Settings.Validated
import ContentTracker.Proofs.Table

/-! Settings by their fields. A section is what its table is accepted as, an absent section being an
empty table, and each of its settings is decided by what stands under one key. -/

namespace ContentTracker

namespace Settings

section Fields

variable {α : Type} {t u : Table} {key : String} {default a b : α} {check : Value → Checked α}

/-- A section is read from its table. An absent one has the settings of an empty table. -/
theorem ofTable_inner {name : String} {ofTable : Table → Checked α} (usual : ofTable [] = .ok default)
    (h : field t key default (sectionOf name ofTable) = .ok a) : ofTable (t.inner key) = .ok a := by
  unfold field at h
  unfold Table.inner
  split at h
  · next absent =>
    cases h
    rw [absent]
    exact usual
  · next v found =>
    rw [found]
    cases v with
    | dict entries =>
        cases checked : ofTable entries with
        | ok s =>
            rw [sectionOf, checked] at h
            cases h
            exact checked
        | error es =>
            rw [sectionOf, checked] at h
            cases h
    | _ => cases h

end Fields

end Settings

open Settings

/-- Each network setting is accepted from its own key. -/
structure NetworkSettings.Fields (t : Table) (s : NetworkSettings) : Prop where
  connectTimeout : field t "connect_timeout" (.ofInt 10)
    (fun v => (toDecimal v).bind (positiveUpTo 300)) = .ok s.connectTimeout
  readTimeout : field t "read_timeout" (.ofInt 30)
    (fun v => (toDecimal v).bind (positiveUpTo 3600)) = .ok s.readTimeout
  bindHost : field t "bind_host" none toOptionalText = .ok s.bindHost
  bindPort : field t "bind_port" 0 (fun v => (toInteger v).bind (withinLimit 65535)) = .ok s.bindPort

structure TrackerSettings.Fields (t : Table) (s : TrackerSettings) : Prop where
  defaultTracker : field t "default_tracker" none optionalNode = .ok s.defaultTracker
  addresses : field t "addresses" [] addressEntries = .ok s.addresses

structure ObservabilitySettings.Fields (t : Table) (s : ObservabilitySettings) : Prop where
  logLevel : field t "log_level" .info toSeverity = .ok s.logLevel
  logFile : field t "log_file" none toOptionalText = .ok s.logFile
  structuredLogging : field t "structured_logging" true toFlag = .ok s.structuredLogging
  logCorrelationId : field t "log_correlation_id" true toFlag = .ok s.logCorrelationId

theorem NetworkSettings.fields_of_table {t : Table} {s : NetworkSettings} (h : ofTable t = .ok s) :
    Fields t s := by
  obtain ⟨_, _, three, port, rfl⟩ := Checked.of_apply h
  obtain ⟨_, _, two, host, rfl⟩ := Checked.of_apply three
  obtain ⟨_, _, one, reading, rfl⟩ := Checked.of_apply two
  obtain ⟨_, connecting, rfl⟩ := Checked.of_map one
  exact ⟨connecting, reading, host, port⟩

theorem TrackerSettings.fields_of_table {t : Table} {s : TrackerSettings} (h : ofTable t = .ok s) :
    Fields t s := by
  obtain ⟨_, _, one, addresses, rfl⟩ := Checked.of_apply h
  obtain ⟨_, tracker, rfl⟩ := Checked.of_map one
  exact ⟨tracker, addresses⟩

theorem ObservabilitySettings.fields_of_table {t : Table} {s : ObservabilitySettings}
    (h : ofTable t = .ok s) : Fields t s := by
  obtain ⟨_, _, three, correlation, rfl⟩ := Checked.of_apply h
  obtain ⟨_, _, two, structured, rfl⟩ := Checked.of_apply three
  obtain ⟨_, _, one, file, rfl⟩ := Checked.of_apply two
  obtain ⟨_, level, rfl⟩ := Checked.of_map one
  exact ⟨level, file, structured, correlation⟩

/-- Each section is accepted from the table under its own key. -/
structure Settings.Sections (t : Table) (s : Settings) : Prop where
  network : NetworkSettings.ofTable (t.inner "network") = .ok s.network
  tracker : TrackerSettings.ofTable (t.inner "tracker") = .ok s.tracker
  identity : IdentitySettings.ofTable (t.inner "identity") = .ok s.identity
  observability : ObservabilitySettings.ofTable (t.inner "observability") = .ok s.observability

theorem Settings.sections_of_table {t : Table} {s : Settings} (h : ofTable t = .ok s) :
    Sections t s := by
  obtain ⟨_, _, three, observability, rfl⟩ := Checked.of_apply h
  obtain ⟨_, _, two, identity, rfl⟩ := Checked.of_apply three
  obtain ⟨_, _, one, tracker, rfl⟩ := Checked.of_apply two
  obtain ⟨_, network, rfl⟩ := Checked.of_map one
  exact ⟨ofTable_inner rfl network, ofTable_inner rfl tracker, ofTable_inner rfl identity,
    ofTable_inner rfl observability⟩

/-! Tables that agree under a key give settings that agree there. -/

section Agreement

variable {t u : Table} {key : String}

end Agreement

namespace Settings

end Settings

end ContentTracker
