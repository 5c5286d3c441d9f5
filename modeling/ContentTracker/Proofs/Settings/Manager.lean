import ContentTracker.Proofs.Address.Book
import ContentTracker.Proofs.Settings.Validated
import ContentTracker.Settings.Manager

/-! What a manager of meaningful settings gives: the id of the node and the endpoint come without
fail. -/

namespace ContentTracker

/-- The addresses that are read from texts; a text that gives none is passed over. -/
def DialAddress.readable (texts : List String) : List DialAddress :=
  texts.filterMap fun text => (parse text).toOption

/-- The addresses that settings list for a node, under any of its spellings. -/
def TrackerSettings.addressesOf (s : TrackerSettings) (p : PeerId) : List DialAddress :=
  s.addresses.flatMap fun entry =>
    if (PeerId.parse entry.1).toOption = some p then DialAddress.readable entry.2 else []

theorem AddressBook.parseAll_of_spelled {texts : List String}
    (spelled : ∀ text ∈ texts, DialAddress.Spelled text) :
    parseAll texts = .ok (DialAddress.readable texts) := by
  induction texts with
  | nil => rfl
  | cons text texts ih =>
      obtain ⟨first, later⟩ := List.forall_mem_cons.1 spelled
      obtain ⟨a, parsed⟩ := first
      have found : (DialAddress.parse text).toOption = some a := by rw [parsed]; rfl
      have one : DialAddress.readable (text :: texts) = a :: DialAddress.readable texts :=
        List.filterMap_cons_some found
      rw [parseAll, parsed, ih later, one]
      rfl

theorem AddressBook.ofTexts_of_meaningful {s : Settings} (meaningful : s.Meaningful) :
    ∃ book, ofTexts s.tracker.addresses = .ok book ∧ book.Lists s.tracker.addressesOf := by
  refine lists_nil.foldlM (fun entry => (PeerId.parse entry.1).toOption)
    (fun entry => DialAddress.readable entry.2) (fun entry listed => ?_) fun _ => rfl
  obtain ⟨peer, parsed⟩ := meaningful.peers entry listed
  have read := parseAll_of_spelled (meaningful.addresses entry listed)
  refine ⟨peer, ?_, fun book => ?_⟩
  · simp only [parsed, Except.toOption]
  · simp only [parsed, read, Except.map]

namespace Manager

variable {m : Manager} (fresh : PeerId)

theorem nodeId_of_meaningful (meaningful : m.settings.Meaningful) :
    ∃ node kept, m.nodeId fresh = .ok (node, kept) := by
  unfold nodeId
  cases set : m.settings.identity.nodeId with
  | none => exact ⟨_, _, rfl⟩
  | some text =>
      obtain ⟨node, parsed⟩ := meaningful.node text set
      refine ⟨node, m, ?_⟩
      dsimp only
      rw [parseNode, parsed]
      rfl

theorem tracker_of_nodeId {node : PeerId} {kept : Manager}
    (h : m.nodeId fresh = .ok (node, kept)) : kept.settings.tracker = m.settings.tracker := by
  unfold nodeId at h
  split at h
  · next text _ =>
    cases parsed : parseNode text with
    | error p =>
        rw [parsed] at h
        cases h
    | ok p =>
        rw [parsed] at h
        cases h
        rfl
  · cases h
    rfl

/-- The endpoint has the id of the node and all addresses that the settings list. -/
theorem endpoint_of_meaningful (meaningful : m.settings.Meaningful) :
    ∃ e kept, m.endpoint fresh = .ok (e, kept) ∧ m.nodeId fresh = .ok (e.node, kept) ∧
      e.book.Lists m.settings.tracker.addressesOf := by
  obtain ⟨node, kept, taken⟩ := nodeId_of_meaningful fresh meaningful
  obtain ⟨book, filled, lists⟩ := AddressBook.ofTexts_of_meaningful meaningful
  have same := tracker_of_nodeId fresh taken
  have made : m.endpoint fresh = .ok ({
      node := node, book := book
      connectTimeout := .decimal kept.settings.network.connectTimeout
      readTimeout := .decimal kept.settings.network.readTimeout
      bindHost := kept.settings.network.bindHost
      bindPort := kept.settings.network.bindPort }, kept) := by
    simp only [endpoint, taken, same, filled, bind, Except.bind, Except.mapError, pure, Except.pure]
  exact ⟨_, kept, made, taken, lists⟩

end Manager

end ContentTracker
