import ContentTracker.Settings.Validation

/-! Settings that were accepted: the texts in them mean what they are used for. -/

namespace ContentTracker

/-- A text that is a spelling of some node id. -/
def PeerId.Spelled (text : String) : Prop := ∃ p, PeerId.parse text = .ok p

/-- A text that is a spelling of some address to dial. -/
def DialAddress.Spelled (text : String) : Prop := ∃ a, DialAddress.parse text = .ok a

/-- Settings whose texts mean something, so that a node can be made from them. -/
structure Settings.Meaningful (s : Settings) : Prop where
  node : ∀ text ∈ s.identity.nodeId, PeerId.Spelled text
  peers : ∀ entry ∈ s.tracker.addresses, PeerId.Spelled entry.1
  addresses : ∀ entry ∈ s.tracker.addresses, ∀ text ∈ entry.2, DialAddress.Spelled text

namespace Settings

section Checks

variable {α β : Type} {P : α → Prop}

theorem Checked.of_apply {f : Checked (α → β)} {x : Checked α} {b : β} (h : f.apply x = .ok b) :
    ∃ g a, f = .ok g ∧ x = .ok a ∧ g a = b := by
  cases f with
  | error es => cases x with
    | ok a => cases h
    | error fs => cases h
  | ok g => cases x with
    | error es => cases h
    | ok a =>
        cases h
        exact ⟨g, a, rfl, rfl, rfl⟩

theorem Checked.of_map {x : Checked α} {f : α → β} {b : β} (h : Except.map f x = .ok b) :
    ∃ a, x = .ok a ∧ f a = b := by
  cases x with
  | error es => cases h
  | ok a =>
      cases h
      exact ⟨a, rfl, rfl⟩

/-- What holds of the default, and of all that a check lets through, holds of a field. -/
theorem holds_of_field {t : Table} {key : String} {default a : α} {check : Value → Checked α}
    (usual : P default) (checked : ∀ v a, check v = .ok a → P a)
    (h : field t key default check = .ok a) : P a := by
  unfold field at h
  split at h
  · cases h
    exact usual
  · next v _ =>
    cases passed : check v with
    | error es =>
        rw [passed] at h
        cases h
    | ok b =>
        rw [passed] at h
        cases h
        exact checked v _ passed

theorem holds_of_section {name : String} {ofTable : Table → Checked α}
    (checked : ∀ t a, ofTable t = .ok a → P a) (v : Value) (a : α)
    (h : sectionOf name ofTable v = .ok a) : P a := by
  unfold sectionOf at h
  split at h
  · exact checked _ a h
  · cases h

end Checks

theorem spelled_of_optionalNode {v : Value} {node : Option String} (h : optionalNode v = .ok node) :
    ∀ text ∈ node, PeerId.Spelled text := by
  rintro text rfl
  unfold optionalNode at h
  split at h
  · next s _ =>
    obtain ⟨s', passed, same⟩ := Checked.of_map h
    cases same
    unfold nodeText at passed
    split at passed
    · next p parsed =>
      cases passed
      exact ⟨p, parsed⟩
    · cases passed
  · next other => exact absurd h (other text)

theorem spelled_of_undialable? {texts : List String} (h : undialable? texts = none) :
    ∀ text ∈ texts, DialAddress.Spelled text := by
  intro text listed
  have none := List.findSome?_eq_none_iff.1 h text listed
  split at none
  · next a parsed => exact ⟨a, parsed⟩
  · cases none

theorem spelled_of_addressFault? {entries : List (String × List String)}
    (h : addressFault? entries = none) :
    ∀ entry ∈ entries, PeerId.Spelled entry.1 ∧ ∀ text ∈ entry.2, DialAddress.Spelled text := by
  intro entry listed
  have none := List.findSome?_eq_none_iff.1 h entry listed
  dsimp only at none
  split at none
  · next p parsed => exact ⟨⟨p, parsed⟩, spelled_of_undialable? none⟩
  · cases none

theorem addressFault?_of_entries {v : Value} {entries : List (String × List String)}
    (h : addressEntries v = .ok entries) : addressFault? entries = none := by
  unfold addressEntries at h
  split at h
  · split at h
    · cases h
    · split at h
      · next fine =>
        cases h
        exact fine
      · cases h
  · cases h

end Settings

theorem IdentitySettings.spelled_of_table {t : Table} {s : IdentitySettings}
    (h : ofTable t = .ok s) : ∀ text ∈ s.nodeId, PeerId.Spelled text := by
  obtain ⟨node, passed, rfl⟩ := Settings.Checked.of_map h
  refine Settings.holds_of_field ?_ (fun _ _ => Settings.spelled_of_optionalNode) passed
  exact nofun

theorem TrackerSettings.spelled_of_table {t : Table} {s : TrackerSettings} (h : ofTable t = .ok s) :
    ∀ entry ∈ s.addresses,
      PeerId.Spelled entry.1 ∧ ∀ text ∈ entry.2, DialAddress.Spelled text := by
  obtain ⟨g, entries, first, passed, rfl⟩ := Settings.Checked.of_apply h
  obtain ⟨tracker, _, rfl⟩ := Settings.Checked.of_map first
  exact Settings.spelled_of_addressFault?
    (Settings.holds_of_field (P := fun entries => Settings.addressFault? entries = none) rfl
      (fun _ _ => Settings.addressFault?_of_entries) passed)

theorem Settings.meaningful_of_table {t : Table} {s : Settings} (h : ofTable t = .ok s) :
    s.Meaningful := by
  obtain ⟨_, observability, three, _, rfl⟩ := Checked.of_apply h
  obtain ⟨_, identity, two, identified, rfl⟩ := Checked.of_apply three
  obtain ⟨_, tracker, one, addressed, rfl⟩ := Checked.of_apply two
  obtain ⟨network, _, rfl⟩ := Checked.of_map one
  have entries := holds_of_field (P := fun s : TrackerSettings => ∀ entry ∈ s.addresses,
      PeerId.Spelled entry.1 ∧ ∀ text ∈ entry.2, DialAddress.Spelled text) (by rintro _ ⟨⟩)
    (holds_of_section fun _ _ => TrackerSettings.spelled_of_table) addressed
  exact {
    node := holds_of_field (P := fun s : IdentitySettings => ∀ text ∈ s.nodeId,
        PeerId.Spelled text) (by rintro _ ⟨⟩)
      (holds_of_section fun _ _ => IdentitySettings.spelled_of_table) identified
    peers := fun entry listed => (entries entry listed).1
    addresses := fun entry listed => (entries entry listed).2 }

end ContentTracker
