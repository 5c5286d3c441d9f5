import ContentTracker.Proofs.Settings.Outcome
import Mathlib.Data.List.Perm.Basic

/-! Settings that obey the rules are accepted again. A table of what they export, with its entries in any
order, is accepted as settings that are equal to them. -/

namespace ContentTracker

/-- Equal settings. The nodes of an address table have no order. -/
structure Settings.Equals (s t : Settings) : Prop where
  network : s.network = t.network
  defaultTracker : s.tracker.defaultTracker = t.tracker.defaultTracker
  addresses : s.tracker.addresses.Perm t.tracker.addresses
  identity : s.identity = t.identity
  observability : s.observability = t.observability

/-- Whether there is anything to export. -/
def Value.isSet : Value → Bool
  | .null => false
  | _ => true

namespace Settings

/-! Checks let through what obeys their rules. -/

theorem positiveUpTo_of_within {limit : Nat}
    (exact : (Binary64.ofInt limit).toRat? = some (limit : Rat)) {x : Binary64}
    (within : x.Within limit) : positiveUpTo limit x = .ok x := by
  obtain ⟨q, value, positive, most⟩ := within
  have zero : (Binary64.ofInt 0).toRat? = some 0 := by decide +kernel
  have below : x.le (.ofInt limit) = true := by
    rw [Binary64.le_of_toRat? value exact, decide_eq_true most]
  have above : (Binary64.ofInt 0).lt x = true := by
    rw [Binary64.lt, Binary64.le_of_toRat? zero value, Binary64.le_of_toRat? value zero,
      decide_eq_true positive.le, decide_eq_false positive.not_ge]
    rfl
  rw [positiveUpTo, below, above]
  rfl

theorem withinLimit_of_range {limit : Nat} {n : Int} (range : 0 ≤ n ∧ n ≤ limit) :
    withinLimit limit n = .ok n := by
  rw [withinLimit, if_neg (not_lt.2 range.2), if_neg (not_lt.2 range.1)]

theorem toOptionalText_ofText? (s : Option String) : toOptionalText (.ofText? s) = .ok s := by
  cases s <;> rfl

theorem optionalNode_of_spelled {node : Option String} (spelled : ∀ text ∈ node, PeerId.Spelled text) :
    optionalNode (.ofText? node) = .ok node := by
  cases node with
  | none => rfl
  | some text =>
      obtain ⟨p, parsed⟩ := spelled text rfl
      have accepted : nodeText text = .ok text := by rw [nodeText, parsed]
      change (nodeText text).map some = .ok (some text)
      rw [accepted]
      rfl

theorem toSeverity_name (level : Severity) : toSeverity (.text level.name) = .ok level := by
  cases level <;> rfl

section Lists

variable {α β : Type}

theorem Checked.all_map {check : α → Checked β} {f : β → α} {bs : List β}
    (each : ∀ b, check (f b) = .ok b) : all check (bs.map f) = .ok bs := by
  induction bs with
  | nil => rfl
  | cons b bs ih =>
      rw [List.map_cons, all, each b, ih]
      rfl

theorem addressTexts_texts (texts : List String) :
    addressTexts (.list (texts.map .text)) = .ok texts := by
  have numbered (start : Nat) :
      Checked.all (fun e : Nat × Value => (toText e.2).under (toString e.1))
        (((texts.map Value.text).zipIdx start).map Prod.swap) = .ok texts := by
    induction texts generalizing start with
    | nil => rfl
    | cons text texts ih =>
        rw [List.map_cons, List.zipIdx_cons, List.map_cons, Checked.all, ih]
        rfl
  exact numbered 0

theorem undialable?_of_spelled {texts : List String}
    (spelled : ∀ text ∈ texts, DialAddress.Spelled text) : undialable? texts = none := by
  refine List.findSome?_eq_none_iff.2 fun text listed => ?_
  obtain ⟨a, parsed⟩ := spelled text listed
  rw [parsed]

theorem addressFault?_of_spelled {entries : List (String × List String)}
    (spelled : ∀ entry ∈ entries,
      PeerId.Spelled entry.1 ∧ ∀ text ∈ entry.2, DialAddress.Spelled text) :
    addressFault? entries = none := by
  refine List.findSome?_eq_none_iff.2 fun entry listed => ?_
  obtain ⟨⟨p, parsed⟩, dialed⟩ := spelled entry listed
  dsimp only
  rw [parsed]
  exact undialable?_of_spelled dialed

theorem addressEntries_of_spelled {s : TrackerSettings} (spelled : ∀ entry ∈ s.addresses,
      PeerId.Spelled entry.1 ∧ ∀ text ∈ entry.2, DialAddress.Spelled text) :
    addressEntries (.dict s.addressTable) = .ok s.addresses := by
  have read : Checked.all
      (fun e : String × Value => ((addressTexts e.2).under e.1).map fun as => (e.1, as))
      s.addressTable = .ok s.addresses := by
    refine Checked.all_map fun entry => ?_
    dsimp only
    rw [addressTexts_texts]
    rfl
  rw [addressEntries]
  dsimp only
  rw [read]
  dsimp only
  rw [addressFault?_of_spelled spelled]

end Lists

/-! Fields of what was exported. -/

section Fields

variable {α : Type} {t u : Table} {key : String} {default a : α} {check : Value → Checked α} {v : Value}

theorem nodup_present (once : (t.map Prod.fst).Nodup) : ((present t).map Prod.fst).Nodup :=
  once.sublist (List.filter_sublist.map Prod.fst)

theorem find?_present (once : (t.map Prod.fst).Nodup) (key : String) :
    (present t).find? key = (t.find? key).filter Value.isSet := Table.find?_filter once Value.isSet key

/-- A setting is read from its exported entry; one that is not set is its default. -/
theorem field_of_present (matching : u.Matches Value.Same (present t)) (once : (t.map Prod.fst).Nodup)
    (found : t.find? key = some v) (usual : v.isSet = false → default = a)
    (accepted : ∀ w : Value, w.Same v → check w = .ok a) : field u key default check = .ok a := by
  have related := matching.find? (nodup_present once) key
  rw [find?_present once, found, Option.filter_some] at related
  unfold field
  cases set : v.isSet with
  | false =>
      rw [set, if_neg Bool.false_ne_true] at related
      generalize u.find? key = there at related ⊢
      cases related
      exact congrArg Except.ok (usual set)
  | true =>
      rw [set, if_pos rfl] at related
      generalize u.find? key = there at related ⊢
      cases related with
      | some same =>
          dsimp only
          rw [accepted _ same]
          rfl

/-- The same for a value that is no table, so that it comes back as it is. -/
theorem field_of_plain (matching : u.Matches Value.Same (present t)) (once : (t.map Prod.fst).Nodup)
    (found : t.find? key = some v) (plain : v.asDict? = none) (usual : v.isSet = false → default = a)
    (accepted : check v = .ok a) : field u key default check = .ok a :=
  field_of_present matching once found usual fun _ same => (same.eq_of_plain plain).symm ▸ accepted

/-- An optional text comes back, set or not. -/
theorem field_of_text (matching : u.Matches Value.Same (present t)) (once : (t.map Prod.fst).Nodup)
    {text : Option String} (found : t.find? key = some (.ofText? text))
    {check : Value → Checked (Option String)} (accepted : check (.ofText? text) = .ok text) :
    field u key none check = .ok text := by
  cases text with
  | none => exact field_of_plain matching once found rfl (fun _ => rfl) accepted
  | some s => exact field_of_plain matching once found rfl nofun accepted

end Fields

end Settings

open Settings

/-! Sections of what was exported. -/

theorem NetworkSettings.ofTable_of_fields {t : Table} {s : NetworkSettings} (h : Fields t s) :
    ofTable t = .ok s := by
  rw [ofTable]
  dsimp only
  rw [h.connectTimeout, h.readTimeout, h.bindHost, h.bindPort]
  rfl

theorem TrackerSettings.ofTable_of_fields {t : Table} {s : TrackerSettings} (h : Fields t s) :
    ofTable t = .ok s := by
  rw [ofTable]
  dsimp only
  rw [h.defaultTracker, h.addresses]
  rfl

theorem ObservabilitySettings.ofTable_of_fields {t : Table} {s : ObservabilitySettings}
    (h : Fields t s) : ofTable t = .ok s := by
  rw [ofTable]
  dsimp only
  rw [h.logLevel, h.logFile, h.structuredLogging, h.logCorrelationId]
  rfl

section Sections

variable {u : Table}

theorem NetworkSettings.ofTable_of_present {s : NetworkSettings}
    (connect : s.connectTimeout.Within 300) (read : s.readTimeout.Within 3600)
    (port : 0 ≤ s.bindPort ∧ s.bindPort ≤ 65535)
    (matching : u.Matches Value.Same (present s.table)) : ofTable u = .ok s := by
  have once : (s.table.map Prod.fst).Nodup := by
    change ["connect_timeout", "read_timeout", "bind_host", "bind_port"].Nodup
    decide
  exact ofTable_of_fields {
    connectTimeout := field_of_plain matching once rfl rfl nofun
      (positiveUpTo_of_within (by decide +kernel) connect)
    readTimeout := field_of_plain matching once rfl rfl nofun
      (positiveUpTo_of_within (by decide +kernel) read)
    bindHost := field_of_text matching once rfl (toOptionalText_ofText? s.bindHost)
    bindPort := field_of_plain matching once rfl rfl nofun (withinLimit_of_range port) }

theorem TrackerSettings.addressTable_of_matches {s : TrackerSettings}
    (matching : u.Matches Value.Same s.addressTable) :
    ∃ loaded : TrackerSettings, loaded.defaultTracker = s.defaultTracker ∧
      loaded.addresses.Perm s.addresses ∧ u = loaded.addressTable := by
  have lists : ∀ e ∈ s.addressTable, ∀ v : Value, v.Same e.2 → v = e.2 := by
    intro e member v same
    obtain ⟨entry, _, rfl⟩ := List.mem_map.1 member
    exact same.eq_of_plain rfl
  let entry : String × List String → String × Value := fun e => (e.1, .list (e.2.map .text))
  obtain ⟨addresses, same, perm⟩ : Relation.Comp (fun t as => t = List.map entry as) List.Perm u
      s.addresses := by
    rw [List.eq_map_comp_perm]
    exact matching.perm lists
  exact ⟨{ s with addresses := addresses }, rfl, perm, same⟩

theorem TrackerSettings.ofTable_of_present {s : TrackerSettings}
    (tracker : ∀ text ∈ s.defaultTracker, PeerId.Spelled text)
    (spelled : ∀ entry ∈ s.addresses,
      PeerId.Spelled entry.1 ∧ ∀ text ∈ entry.2, DialAddress.Spelled text)
    (matching : u.Matches Value.Same (present s.table)) :
    ∃ loaded, ofTable u = .ok loaded ∧ loaded.defaultTracker = s.defaultTracker ∧
      loaded.addresses.Perm s.addresses := by
  have once : (s.table.map Prod.fst).Nodup := by
    change ["default_tracker", "addresses"].Nodup
    decide
  have there : (present s.table).find? "addresses" = some (.dict s.addressTable) :=
    find?_present once "addresses"
  obtain ⟨entries, found, inside⟩ := matching.find?_dict (nodup_present once) there
  obtain ⟨loaded, same, perm, rfl⟩ := addressTable_of_matches inside
  refine ⟨loaded, ofTable_of_fields ⟨?_, ?_⟩, same, perm⟩
  · rw [same]
    exact field_of_text matching once rfl (optionalNode_of_spelled tracker)
  · unfold field
    rw [found]
    dsimp only
    rw [addressEntries_of_spelled fun entry listed => spelled entry (perm.mem_iff.1 listed)]
    rfl

theorem IdentitySettings.ofTable_of_present {s : IdentitySettings}
    (spelled : ∀ text ∈ s.nodeId, PeerId.Spelled text)
    (matching : u.Matches Value.Same (present s.table)) : ofTable u = .ok s := by
  have once : (s.table.map Prod.fst).Nodup := by
    change ["node_id"].Nodup
    decide
  have node : field u "node_id" none optionalNode = .ok s.nodeId :=
    field_of_text matching once rfl (optionalNode_of_spelled spelled)
  rw [ofTable]
  dsimp only
  rw [node]
  rfl

theorem ObservabilitySettings.ofTable_of_present {s : ObservabilitySettings}
    (matching : u.Matches Value.Same (present s.table)) : ofTable u = .ok s := by
  have once : (s.table.map Prod.fst).Nodup := by
    change ["log_level", "log_file", "structured_logging", "log_correlation_id"].Nodup
    decide
  exact ofTable_of_fields {
    logLevel := field_of_plain matching once rfl rfl nofun (toSeverity_name s.logLevel)
    logFile := field_of_text matching once rfl (toOptionalText_ofText? s.logFile)
    structuredLogging := field_of_plain matching once rfl rfl nofun rfl
    logCorrelationId := field_of_plain matching once rfl rfl nofun rfl }

end Sections

/-- What holds of a section that is accepted from exported entries holds of the section of the whole. -/
theorem Settings.field_of_exported {α : Type} {u t : Table} {s : Settings} {key name : String}
    {default : α} {ofTable : Table → Checked α} {P : α → Prop}
    (matching : u.Matches Value.Same s.exported)
    (found : Table.find? s.exported key = some (.dict t))
    (accepted : ∀ entries : Table, entries.Matches Value.Same t → ∃ a, ofTable entries = .ok a ∧ P a) :
    ∃ a, field u key default (sectionOf name ofTable) = .ok a ∧ P a := by
  have once : (s.exported.map Prod.fst).Nodup := by
    change ["network", "tracker", "identity", "observability"].Nodup
    decide
  obtain ⟨entries, there, inside⟩ := matching.find?_dict once found
  obtain ⟨a, checked, holds⟩ := accepted entries inside
  refine ⟨a, ?_, holds⟩
  unfold field sectionOf
  rw [there]
  dsimp only
  rw [checked]
  rfl

/-- Exported settings, with the entries of tables in any order, are accepted as settings equal to
them. -/
theorem Settings.ofTable_of_same {s : Settings} (valid : s.Valid) {u : Table}
    (same : (Value.dict u).Same (.dict s.exported)) :
    ∃ loaded, ofTable u = .ok loaded ∧ loaded.Equals s := by
  obtain ⟨_, ⟨⟩, matching⟩ := same.matches
  have spelled : ∀ entry ∈ s.tracker.addresses,
      PeerId.Spelled entry.1 ∧ ∀ text ∈ entry.2, DialAddress.Spelled text := fun entry listed =>
    ⟨valid.meaningful.peers entry listed, valid.meaningful.addresses entry listed⟩
  obtain ⟨network, networked, rfl⟩ : ∃ a, field u "network" {}
      (sectionOf "NetworkConfig" NetworkSettings.ofTable) = .ok a ∧ a = s.network :=
    field_of_exported matching rfl fun entries inside =>
      ⟨s.network, NetworkSettings.ofTable_of_present valid.connectTimeout valid.readTimeout
        valid.bindPort inside, rfl⟩
  obtain ⟨tracker, tracked, named, listed⟩ : ∃ a, field u "tracker" {}
      (sectionOf "TrackerConfig" TrackerSettings.ofTable) = .ok a ∧
        a.defaultTracker = s.tracker.defaultTracker ∧ a.addresses.Perm s.tracker.addresses :=
    field_of_exported matching rfl fun entries inside =>
      TrackerSettings.ofTable_of_present valid.defaultTracker spelled inside
  obtain ⟨identity, identified, rfl⟩ : ∃ a, field u "identity" {}
      (sectionOf "IdentityConfig" IdentitySettings.ofTable) = .ok a ∧ a = s.identity :=
    field_of_exported matching rfl fun entries inside =>
      ⟨s.identity, IdentitySettings.ofTable_of_present valid.meaningful.node inside, rfl⟩
  obtain ⟨observability, observed, rfl⟩ : ∃ a, field u "observability" {}
      (sectionOf "ObservabilityConfig" ObservabilitySettings.ofTable) = .ok a ∧ a = s.observability :=
    field_of_exported matching rfl fun entries inside =>
      ⟨s.observability, ObservabilitySettings.ofTable_of_present inside, rfl⟩
  refine ⟨{ s with tracker := tracker }, ?_, rfl, named, listed, rfl, rfl⟩
  rw [ofTable, networked, tracked, identified, observed]
  rfl

end ContentTracker
