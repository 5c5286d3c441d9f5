import ContentTracker.Proofs.Network.Punctual

/-! Links on which a payload arrives segment by segment, whatever follows it: the end of the stream,
nothing, or nothing in time. What a reader finds on such a link at any time is what arrived on it by
then without what was taken. -/

namespace ContentTracker

/-- Octets in segments that are not empty, all of them in by `final`, and after them `tail`. No
segment comes later than `gap` after those before it were in. -/
inductive Flows (gap : Rat) (tail : List (Rat × Arrival)) (final : Rat) :
    (last : Rat) → Octets → List (Rat × Arrival) → Prop
  | done : Flows gap tail final final [] tail
  | segment {last t : Rat} {bs later : Octets} {rest : List (Rat × Arrival)} : t ≤ last + gap →
      bs ≠ [] → Flows gap tail final (max last t) later rest →
      Flows gap tail final last (bs ++ later) ((t, .data bs) :: rest)

/-- What follows a payload is the end of the stream, or nothing until a time is over. -/
def Settles (time : Rat) (tail : List (Rat × Arrival)) : Prop :=
  (∃ t, tail = [(t, .endOfStream)]) ∨ ∀ e ∈ tail, time < e.1

variable {gap final last : Rat} {tail : List (Rat × Arrival)}

theorem Flows.last_le {bytes : Octets} {pending : List (Rat × Arrival)}
    (h : Flows gap tail final last bytes pending) : last ≤ final := by
  induction h with
  | done => exact Rat.le_refl
  | segment _ _ _ ih => exact Rat.le_trans (le_max_left _ _) ih

theorem Settles.cases {time : Rat} (h : Settles time tail) :
    (∀ e ∈ tail, time < e.1) ∨ ∃ t ≤ time, tail = [(t, .endOfStream)] := by
  obtain ⟨t, rfl⟩ | late := h
  · by_cases soon : t ≤ time
    · exact .inr ⟨t, soon, rfl⟩
    · exact .inl (by simpa using soon)
  · exact .inl late

theorem Settles.sooner {now time : Rat} (h : Settles time tail) (le : now ≤ time) :
    Settles now tail :=
  h.imp_right fun late e member => lt_of_le_of_lt le (late e member)

namespace Link

/-- The link when the next `count` octets were taken. -/
def without (l : Link) (count : Nat) : Link := { l with buffer := l.buffer.drop count }

variable {l : Link} {now time : Rat} {bytes : Octets} {count : Nat}

theorem without_zero (l : Link) : l.without 0 = l := rfl

theorem without_without (l : Link) (n count : Nat) :
    (l.without n).without count = l.without (n + count) := by
  simp only [without, List.drop_drop]

/-- Only octets that are there can be taken. -/
theorem without_take (l : Link) (count : Nat) :
    l.without (l.buffer.take count).length = l.without count := by
  unfold without
  rw [List.length_take]
  by_cases there : count ≤ l.buffer.length
  · rw [Nat.min_eq_left there]
  · rw [Nat.min_eq_right (by omega), List.drop_length, List.drop_of_length_le (by omega)]

/-- What arrives by one time and then by a later one arrives by the later one. -/
theorem advance_advance (le : now ≤ time) : (l.advance now).advance time = l.advance time := by
  refine advance_keeps (P := fun m => m.advance time = l.advance time)
    (fun m t a rest e due same => ?_) rfl
  rw [← advance_due e (Rat.le_trans due le)]
  exact same

/-- What is still pending then comes later. -/
theorem later_of_advance {t : Rat} {a : Arrival} {rest : List (Rat × Arrival)}
    (e : (l.advance now).pending = (t, a) :: rest) : now < t := by
  refine Rat.not_le.1 fun due => ?_
  have fewer := advance_pending_lt e due
  rw [advance_advance Rat.le_refl] at fewer
  exact Nat.lt_irrefl _ fewer

/-- What is there stays there as more arrives. -/
theorem buffer_prefix_advance (l : Link) (now : Rat) : l.buffer <+: (l.advance now).buffer := by
  refine advance_keeps (P := fun m => l.buffer <+: m.buffer) (fun m t a rest e due h => ?_)
    List.prefix_rfl
  rw [received, receive_buffer]
  exact h.trans (List.prefix_append _ _)

/-- A link on which all has arrived that was due stays as it is, whatever was taken from it. -/
theorem advance_without_idle (l : Link) (now : Rat) (count : Nat) :
    ((l.advance now).without count).advance now = (l.advance now).without count := by
  cases e : (l.advance now).pending with
  | nil => exact advance_nil (by exact e) now
  | cons head rest => exact advance_later (by exact e) (later_of_advance e)

theorem received_without {a : Arrival} {rest : List (Rat × Arrival)}
    (there : count ≤ l.buffer.length) :
    (l.received a rest).without count = (l.without count).received a rest := by
  cases a <;> simp [received, receive, without, List.drop_append_of_le_length there]

/-- Taking octets that are there does not interfere with what arrives. -/
theorem advance_without (there : count ≤ l.buffer.length) (now : Rat) :
    (l.without count).advance now = (l.advance now).without count := by
  rw [← advance_without_idle]
  refine (advance_keeps (P := fun m => count ≤ m.buffer.length ∧
    (m.without count).advance now = (l.without count).advance now)
    (fun m t a rest e due h => ?_) ⟨there, rfl⟩).2.symm
  obtain ⟨there, same⟩ := h
  constructor
  · rw [received, receive_buffer, List.length_append]
    exact Nat.le_add_right_of_le there
  · rw [received_without there, ← same]
    exact (advance_due (by exact e) due).symm

/-- As it stands at `now`, the link has `bytes` to give, the last of them by `final`, and then what
`tail` says, of which the end of the stream may have come. -/
structure Supplies (l : Link) (gap final : Rat) (tail : List (Rat × Arrival)) (now : Rat)
    (bytes : Octets) : Prop where
  intact : l.broken = none
  coming : (l.ended = false ∧ ∃ last later, last ≤ now ∧ bytes = l.buffer ++ later ∧
      Flows gap tail final last later l.pending) ∨
    (l.ended = true ∧ l.pending = [] ∧ bytes = l.buffer ∧ final ≤ now ∧
      ∃ t ≤ now, tail = [(t, .endOfStream)])

theorem Supplies.later (h : l.Supplies gap final tail now bytes) (le : now ≤ time) :
    l.Supplies gap final tail time bytes := by
  refine ⟨h.intact, ?_⟩
  obtain ⟨unended, last, later, recent, flowing⟩ | ⟨ended, none, whole, past, t, due, finish⟩ :=
    h.coming
  · exact .inl ⟨unended, last, later, Rat.le_trans recent le, flowing⟩
  · exact .inr ⟨ended, none, whole, Rat.le_trans past le, t, Rat.le_trans due le, finish⟩

/-- One arrival moves octets from what is to come into the buffer, or ends the stream. -/
theorem Supplies.received {t : Rat} {a : Arrival} {rest : List (Rat × Arrival)}
    (h : l.Supplies gap final tail now bytes) (settles : Settles now tail)
    (e : l.pending = (t, a) :: rest) (due : t ≤ now) :
    (l.received a rest).Supplies gap final tail now bytes := by
  obtain ⟨unended, last, later, recent, rfl, flows⟩ | ⟨_, none, _⟩ := h.coming
  · rw [e] at flows
    cases flows with
    | done =>
        obtain ⟨s, finish⟩ | late := settles
        · cases finish
          exact ⟨h.intact, .inr ⟨rfl, rfl, by simp [Link.received, receive], recent, t, due, rfl⟩⟩
        · exact absurd (late (t, a) (by simp)) (Rat.not_lt.2 due)
    | segment _ _ flows =>
        exact ⟨h.intact, .inl ⟨unended, _, _, max_le recent due,
          by simp [Link.received, receive], flows⟩⟩
  · rw [e] at none
    cases none

theorem Supplies.advance (h : l.Supplies gap final tail now bytes) (settles : Settles now tail) :
    (l.advance now).Supplies gap final tail now bytes :=
  advance_keeps (P := fun m => m.Supplies gap final tail now bytes)
    (fun _ _ _ _ e due h => h.received settles e due) h

theorem Supplies.begun (h : l.Supplies gap final tail now bytes) : l.buffer <+: bytes := by
  obtain ⟨_, _, later, _, rfl, _⟩ | ⟨_, _, rfl, _⟩ := h.coming
  · exact List.prefix_append _ _
  · exact List.prefix_rfl

end Link

/-- What arrives in time, end of the stream included, flows, whenever its beginning was in. -/
theorem Arriving.flows {reached : Rat} {bytes : Octets} {pending : List (Rat × Arrival)}
    (h : Arriving gap last bytes pending) (le : last ≤ reached) :
    ∃ final t, Flows gap [(t, .endOfStream)] final reached bytes pending ∧ t ≤ final + gap := by
  induction h generalizing reached with
  | finish soon => exact ⟨reached, _, .done, by grind⟩
  | segment soon some _ ih =>
      obtain ⟨final, t, flows, finish⟩ := ih (le_max_right reached _)
      exact ⟨final, t, .segment (by grind) some flows, finish⟩

/-- A link that brings a payload in time supplies it, and after it the end of the stream. -/
theorem Link.Brings.supplies {l : Link} {now : Rat} {bytes : Octets}
    (h : l.Brings gap now bytes) (timed : 0 < gap) :
    ∃ final t, l.Supplies gap final [(t, .endOfStream)] now bytes ∧ t ≤ final + gap := by
  obtain ⟨last, holds, recent⟩ := h
  obtain ⟨ended, none, whole⟩ | ⟨unended, later, whole, arriving⟩ := holds.coming
  · exact ⟨now, now, ⟨holds.intact, .inr ⟨ended, none, whole, Rat.le_refl, now, Rat.le_refl, rfl⟩⟩,
      by grind⟩
  · obtain ⟨final, t, flows, finish⟩ := arriving.flows Rat.le_refl
    exact ⟨final, t, ⟨holds.intact, .inl ⟨unended, last, later, recent, whole, flows⟩⟩, finish⟩

namespace Net

open World

variable {w : World} {i count : Nat} {l : Link}

/-- Where something is there or nothing will come, a read takes no time. -/
theorem ends_readSome_ready (there : w.links[i]? = some l)
    (intact : (l.advance w.now).broken = none) (positive : 0 < count)
    (ready : (l.advance w.now).buffer ≠ [] ∨ (l.advance w.now).ended = true) :
    Ends (readSome i count) w fun r v => r = .ok ((l.advance w.now).buffer.take count) ∧
      w.Passes i ((l.advance w.now).without count) v ∧ v.now = w.now := by
  rw [readSome]
  apply Ends.next (ends_refresh_exact there)
  intro v h
  obtain ⟨swapped, now⟩ := h
  have ready' : ¬ ((l.advance w.now).buffer.isEmpty && !(l.advance w.now).ended) = true := by
    simpa [imp_iff_not_or] using ready
  rw [intact]
  dsimp only
  rw [if_neg (Nat.ne_of_gt positive), if_neg ready']
  apply Ends.mono (ends_takeBuffered_exact (swapped.there there) count)
  intro r u h
  obtain ⟨rfl, taken, same⟩ := h
  exact ⟨rfl, swapped.trans taken, same.trans now⟩

section Waiting

variable (there : w.links[i]? = some l) (intact : (l.advance w.now).broken = none)
  (empty : (l.advance w.now).buffer = []) (unended : (l.advance w.now).ended = false)
  (positive : 0 < count)

include there intact empty unended positive

/-- Where nothing is there, a read takes what comes next when it comes. -/
theorem ends_readSome_woken {t : Rat} {a : Arrival} {rest : List (Rat × Arrival)}
    (next : (l.advance w.now).pending = (t, a) :: rest) (noticed : Link.isNoticed a)
    (unbroken : ∀ p, a ≠ .broken p) (allowed : w.Allows t) :
    Ends (readSome i count) w fun r v => r = .ok ((l.advance t).buffer.take count) ∧
      w.Passes i ((l.advance t).without count) v ∧ v.now = t := by
  rw [readSome]
  apply Ends.next (ends_refresh_exact there)
  intro v h
  obtain ⟨swapped, now⟩ := h
  have here := swapped.there there
  have later := Rat.le_of_lt (Link.later_of_advance next)
  rw [intact]
  dsimp only
  rw [if_neg (Nat.ne_of_gt positive), empty, unended]
  have allowed' : v.Allows t := by
    intro d e
    exact allowed d (swapped.deadline ▸ e)
  apply Ends.next (ends_awaitArrival_allowed here next noticed unbroken allowed')
  intro u h
  obtain ⟨woken, now'⟩ := h
  rw [now, max_eq_right later] at now'
  rw [now', Link.advance_advance later] at woken
  apply Ends.mono (ends_takeBuffered_exact (woken.there here) count)
  intro r s h
  obtain ⟨rfl, taken, same⟩ := h
  exact ⟨rfl, (swapped.trans woken).trans taken, same.trans now'⟩

/-- Where nothing comes before the deadline, a read is broken off at the deadline. -/
theorem ends_readSome_starved {deadline : Rat} (bounded : w.deadline = some deadline)
    (ahead : w.now ≤ deadline) (late : ∀ e ∈ (l.advance w.now).pending, deadline < e.1) :
    Ends (readSome i count) w fun r v => r = .error .cancelled ∧
      w.Passes i (l.advance w.now) v ∧ v.now = deadline := by
  rw [readSome]
  apply Ends.next (ends_refresh_exact there)
  intro v h
  obtain ⟨swapped, now⟩ := h
  have here := swapped.there there
  rw [intact]
  dsimp only
  rw [if_neg (Nat.ne_of_gt positive), empty, unended]
  have never : ∀ t, ((l.advance w.now).pending.find? fun e => Link.isNoticed e.2).map (·.1) =
      some t → deadline < t := by
    intro t h
    obtain ⟨e, found, rfl⟩ := Option.map_eq_some_iff.1 h
    exact late e (List.mem_of_find?_eq_some found)
  have broken := waitUntil_over (swapped.deadline.trans bounded) never
  simp only [List.isEmpty_nil, Bool.not_false, Bool.and_self, if_true, awaitArrival, ends_bind,
    ends_getLink here]
  refine .on_error broken ⟨rfl, ?_, ?_⟩
  · exact swapped.trans ((advanceTo_waits v deadline).passes here)
  · rw [advanceTo_now, now, max_eq_right ahead]

end Waiting

end Net

end ContentTracker
