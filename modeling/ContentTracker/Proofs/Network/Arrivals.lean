import ContentTracker.Proofs.Network.Traffic

/-! Links whose other side sends all it has to send in time, whatever the segments it is cut into
and whenever these arrive. -/

namespace ContentTracker

/-- Octets still to come, in segments that are not empty, and after them the end of the stream.
Nothing comes later than `gap` after what came before it. -/
inductive Arriving (gap : Rat) : (last : Rat) → Octets → List (Rat × Arrival) → Prop
  | finish {last t : Rat} : t ≤ last + gap → Arriving gap last [] [(t, .endOfStream)]
  | segment {last t : Rat} {bs later : Octets} {rest : List (Rat × Arrival)} : t ≤ last + gap →
      bs ≠ [] → Arriving gap t later rest → Arriving gap last (bs ++ later) ((t, .data bs) :: rest)

/-- The first so many octets arrive by a time. -/
def Due (time : Rat) : Nat → List (Rat × Arrival) → Prop
  | 0, _ => True
  | _ + 1, [] => False
  | n + 1, (t, a) :: rest => t ≤ time ∧ Due time (n + 1 - a.octets.length) rest

theorem due_zero (time : Rat) (pending : List (Rat × Arrival)) : Due time 0 pending := by
  unfold Due
  exact trivial

/-- Fewer octets are due no later. -/
theorem Due.fewer {time : Rat} {n k : Nat} {pending : List (Rat × Arrival)}
    (h : Due time n pending) (le : k ≤ n) : Due time k pending := by
  induction pending generalizing n k with
  | nil =>
      cases n with
      | zero =>
          cases Nat.le_zero.1 le
          exact due_zero _ _
      | succ n => cases h
  | cons e rest ih =>
      obtain ⟨t, a⟩ := e
      cases k with
      | zero => exact due_zero _ _
      | succ k =>
          obtain ⟨n, rfl⟩ := Nat.exists_eq_succ_of_ne_zero (show n ≠ 0 by omega)
          exact ⟨h.1, ih h.2 (by omega)⟩

/-- Octets cut into segments, and after them the end of the stream; no pause is as long as `gap`. -/
inductive Cut (gap : Rat) : Octets → List (Rat × Arrival) → Prop
  | finish {wait : Rat} : 0 ≤ wait → wait < gap → Cut gap [] [(wait, .endOfStream)]
  | segment {wait : Rat} {bs later : Octets} {rest : List (Rat × Arrival)} : 0 ≤ wait → wait < gap →
      bs ≠ [] → Cut gap later rest → Cut gap (bs ++ later) ((wait, .data bs) :: rest)

/-- The same with any wait before the first segment. -/
inductive Segmented (gap : Rat) : Octets → List (Rat × Arrival) → Prop
  | first {wait : Rat} {bs later : Octets} {rest : List (Rat × Arrival)} : 0 ≤ wait → bs ≠ [] →
      Cut gap later rest → Segmented gap (bs ++ later) ((wait, .data bs) :: rest)

/-- The seconds in which the first so many octets arrive. -/
def secondsFor : Nat → List (Rat × Arrival) → Rat
  | 0, _ => 0
  | _ + 1, [] => 0
  | n + 1, (wait, a) :: rest => wait + secondsFor (n + 1 - a.octets.length) rest

theorem Cut.arriving {gap : Rat} {bytes : Octets} {arrivals : List (Rat × Arrival)}
    (h : Cut gap bytes arrivals) (start : Rat) :
    Arriving gap start bytes (Net.schedule start arrivals) := by
  induction h generalizing start with
  | finish _ soon => exact .finish (by grind)
  | segment _ soon some _ ih => exact .segment (by grind) some (ih _)

theorem Cut.waits {gap : Rat} {bytes : Octets} {arrivals : List (Rat × Arrival)}
    (h : Cut gap bytes arrivals) : ∀ e ∈ arrivals, 0 ≤ e.1 := by
  induction h with
  | finish later _ => simpa using later
  | segment later _ _ _ ih => simpa using ⟨later, fun t a member => ih (t, a) member⟩

theorem Cut.delivered {gap : Rat} {bytes : Octets} {arrivals : List (Rat × Arrival)}
    (h : Cut gap bytes arrivals) : delivered arrivals = bytes := by
  induction h with
  | finish => rfl
  | segment _ _ _ _ ih => rw [← ih]; rfl

theorem Segmented.waits {gap : Rat} {bytes : Octets} {arrivals : List (Rat × Arrival)}
    (h : Segmented gap bytes arrivals) : ∀ e ∈ arrivals, 0 ≤ e.1 := by
  obtain ⟨later, _, cut⟩ := h
  simpa using ⟨later, fun t a member => cut.waits (t, a) member⟩

theorem Segmented.delivered {gap : Rat} {bytes : Octets} {arrivals : List (Rat × Arrival)}
    (h : Segmented gap bytes arrivals) : delivered arrivals = bytes := by
  obtain ⟨_, _, cut⟩ := h
  rw [← cut.delivered]
  rfl

theorem Segmented.gap_pos {gap : Rat} {bytes : Octets} {arrivals : List (Rat × Arrival)}
    (h : Segmented gap bytes arrivals) : 0 < gap := by
  obtain ⟨_, _, cut⟩ := h
  cases cut with
  | finish later soon => grind
  | segment later soon _ _ => grind

theorem secondsFor_nonneg (count : Nat) {arrivals : List (Rat × Arrival)}
    (waits : ∀ e ∈ arrivals, 0 ≤ e.1) : 0 ≤ secondsFor count arrivals := by
  induction arrivals generalizing count with
  | nil => cases count <;> exact Rat.le_refl
  | cons e rest ih =>
      cases count with
      | zero => exact Rat.le_refl
      | succ n =>
          have now := waits e (by simp)
          have later := ih (n + 1 - e.2.octets.length)
            fun e member => waits e (List.mem_cons_of_mem _ member)
          rw [secondsFor]
          grind

/-- What arrives within so many seconds is due by the time when they are over. -/
theorem due_schedule {time : Rat} {count : Nat} {arrivals : List (Rat × Arrival)} (start : Rat)
    (waits : ∀ e ∈ arrivals, 0 ≤ e.1) (enough : count ≤ (delivered arrivals).length)
    (soon : start + secondsFor count arrivals ≤ time) :
    Due time count (Net.schedule start arrivals) := by
  induction arrivals generalizing start count with
  | nil =>
      cases Nat.le_zero.1 enough
      exact due_zero _ _
  | cons e rest ih =>
      obtain ⟨wait, a⟩ := e
      cases count with
      | zero => exact due_zero _ _
      | succ n =>
          have ahead : ∀ e ∈ rest, 0 ≤ e.1 := by
            intro e member
            exact waits e (List.mem_cons_of_mem _ member)
          have still := secondsFor_nonneg (n + 1 - a.octets.length) ahead
          rw [secondsFor] at soon
          rw [delivered, List.flatMap_cons, List.length_append] at enough
          dsimp only at enough
          refine ⟨by grind, ih (start + wait) ahead ?_ (by grind)⟩
          unfold delivered
          omega

namespace Link

/-- The link has `bytes` to give, buffered or still to come; the last arrival was at `last`. -/
structure Holds (l : Link) (gap last : Rat) (bytes : Octets) : Prop where
  intact : l.broken = none
  coming : l.ended = true ∧ l.pending = [] ∧ bytes = l.buffer ∨
    l.ended = false ∧ ∃ later, bytes = l.buffer ++ later ∧ Arriving gap last later l.pending

/-- As it stands at `now`, the link brings `bytes` in time. -/
def Brings (l : Link) (gap now : Rat) (bytes : Octets) : Prop :=
  ∃ last, l.Holds gap last bytes ∧ last ≤ now

/-- The same of a link on which perhaps nothing has arrived yet. -/
def WillBring (l : Link) (gap now : Rat) (bytes : Octets) : Prop :=
  ∃ last, l.Holds gap last bytes ∧ (l.buffer ≠ [] → last ≤ now)

/-- The first `count` octets that the link has to give are there by a time. -/
def DueBy (l : Link) (time : Rat) (count : Nat) : Prop :=
  Due time (count - l.buffer.length) l.pending

/-- The link without the first of its pending arrivals. -/
def received (l : Link) (a : Arrival) (rest : List (Rat × Arrival)) : Link :=
  ({ l with pending := rest } : Link).receive a

variable {l m : Link} {gap last now t : Rat} {bytes : Octets} {a : Arrival}
  {rest : List (Rat × Arrival)}

theorem advance_nil (h : l.pending = []) (now : Rat) : l.advance now = l := by
  obtain ⟨⟩ := l
  cases h
  rfl

theorem advance_later (h : l.pending = (t, a) :: rest) (later : now < t) : l.advance now = l := by
  have notDue : ¬ t ≤ now := Rat.not_le.2 later
  obtain ⟨⟩ := l
  cases h
  simp [advance, notDue]

theorem advance_due (h : l.pending = (t, a) :: rest) (due : t ≤ now) :
    l.advance now = (l.received a rest).advance now := by
  obtain ⟨⟩ := l
  cases h
  cases a <;> simp [advance, received, receive, due]

/-- What each due arrival preserves holds of the link when all of them are in. -/
theorem advance_keeps {P : Link → Prop} (step : ∀ (l : Link) t a rest, l.pending = (t, a) :: rest →
      t ≤ now → P l → P (l.received a rest)) (h : P l) : P (l.advance now) := by
  generalize e : l.pending = pending
  induction pending generalizing l with
  | nil => rwa [advance_nil e]
  | cons head rest ih =>
      obtain ⟨t, a⟩ := head
      by_cases due : t ≤ now
      · rw [advance_due e due]
        exact ih (step l t a rest e due h) (receive_pending _ a)
      · rwa [advance_later e (Rat.not_le.1 due)]

theorem Holds.received (h : l.Holds gap last bytes) (e : l.pending = (t, a) :: rest) :
    (l.received a rest).Holds gap t bytes := by
  obtain ⟨_, none, _⟩ | ⟨unended, later, rfl, arriving⟩ := h.coming
  · rw [e] at none
    cases none
  · rw [e] at arriving
    cases arriving with
    | finish => exact ⟨h.intact, .inl ⟨rfl, rfl, by simp [Link.received, receive]⟩⟩
    | segment _ _ arriving =>
        exact ⟨h.intact, .inr ⟨unended, _, by simp [Link.received, receive], arriving⟩⟩

theorem WillBring.advance (h : l.WillBring gap now bytes) :
    (l.advance now).WillBring gap now bytes := by
  refine advance_keeps (P := fun l => l.WillBring gap now bytes) (fun l t a rest e due h => ?_) h
  obtain ⟨last, holds, _⟩ := h
  exact ⟨t, holds.received e, fun _ => due⟩

theorem DueBy.advance {time : Rat} {count : Nat} (h : l.DueBy time count) (now : Rat) :
    (l.advance now).DueBy time count := by
  refine advance_keeps (P := fun l => l.DueBy time count) (fun l t a rest e _ h => ?_) h
  unfold DueBy at h ⊢
  rw [e] at h
  rw [Link.received, receive_buffer, receive_pending, List.length_append]
  cases missing : count - l.buffer.length with
  | zero =>
      rw [show count - (l.buffer.length + a.octets.length) = 0 by omega]
      exact due_zero _ _
  | succ n =>
      rw [missing] at h
      rw [show count - (l.buffer.length + a.octets.length) = n + 1 - a.octets.length by omega]
      exact h.2

theorem advance_pending_le (l : Link) (now : Rat) :
    (l.advance now).pending.length ≤ l.pending.length := by
  refine advance_keeps (P := fun m => m.pending.length ≤ l.pending.length)
    (fun m t a rest e _ h => ?_) (Nat.le_refl _)
  rw [Link.received, receive_pending]
  rw [e] at h
  exact Nat.le_of_succ_le h

/-- Waiting for the next arrival leaves fewer. -/
theorem advance_pending_lt (e : l.pending = (t, a) :: rest) (due : t ≤ now) :
    (l.advance now).pending.length < l.pending.length := by
  rw [advance_due e due, e]
  have fewer := advance_pending_le (l.received a rest) now
  rw [Link.received, receive_pending] at fewer
  exact Nat.lt_succ_of_le fewer

/-- A link that has not ended waits for an arrival that is noticed and is no break. -/
theorem Holds.next (h : l.Holds gap last bytes) (unended : l.ended = false) :
    ∃ t a rest, l.pending = (t, a) :: rest ∧ isNoticed a ∧ (∀ p, a ≠ .broken p) ∧
      t ≤ last + gap := by
  obtain ⟨ended, _⟩ | ⟨_, later, _, arriving⟩ := h.coming
  · rw [unended] at ended
    cases ended
  · generalize l.pending = pending at arriving ⊢
    cases arriving with
    | finish soon => exact ⟨_, _, _, rfl, rfl, by simp, soon⟩
    | @segment _ _ bs _ _ soon some =>
        refine ⟨_, _, _, rfl, ?_, by simp, soon⟩
        cases bs with
        | nil => exact absurd rfl some
        | cons b bs => rfl

theorem DueBy.next {time : Rat} {count : Nat} (h : l.DueBy time count)
    (next : l.pending = (t, a) :: rest) (missing : l.buffer.length < count) : t ≤ time := by
  obtain ⟨n, more⟩ := Nat.exists_eq_succ_of_ne_zero (Nat.sub_ne_zero_of_lt missing)
  unfold DueBy at h
  rw [next, more] at h
  exact h.1

/-- Octets taken from the buffer are the next ones. -/
theorem Holds.take (h : l.Holds gap last bytes) (count : Nat) :
    ∃ left, bytes = l.buffer.take count ++ left ∧
      ({ l with buffer := l.buffer.drop count } : Link).Holds gap last left := by
  obtain ⟨ended, none, rfl⟩ | ⟨unended, later, rfl, arriving⟩ := h.coming
  · exact ⟨_, (List.take_append_drop _ _).symm, h.intact, .inl ⟨ended, none, rfl⟩⟩
  · refine ⟨l.buffer.drop count ++ later, ?_, h.intact, .inr ⟨unended, later, rfl, arriving⟩⟩
    rw [← List.append_assoc, List.take_append_drop]

theorem Holds.of_ended (h : l.Holds gap last bytes) (ended : l.ended = true) :
    bytes = l.buffer := by
  obtain ⟨_, _, whole⟩ | ⟨unended, _⟩ := h.coming
  · exact whole
  · rw [ended] at unended
    cases unended

theorem DueBy.take {time : Rat} {n count : Nat} (h : l.DueBy time n)
    (there : count ≤ l.buffer.length) :
    ({ l with buffer := l.buffer.drop count } : Link).DueBy time (n - count) := by
  unfold DueBy at h ⊢
  rw [List.length_drop, show n - count - (l.buffer.length - count) = n - l.buffer.length by omega]
  exact h

theorem WillBring.later {now' : Rat} (h : l.WillBring gap now bytes) (le : now ≤ now') :
    l.WillBring gap now' bytes := by
  obtain ⟨last, holds, recent⟩ := h
  exact ⟨last, holds, fun heard => Rat.le_trans (recent heard) le⟩

theorem Brings.willBring (h : l.Brings gap now bytes) : l.WillBring gap now bytes := by
  obtain ⟨last, holds, recent⟩ := h
  exact ⟨last, holds, fun _ => recent⟩

theorem WillBring.brings (h : l.WillBring gap now bytes) (heard : l.buffer ≠ []) :
    l.Brings gap now bytes := by
  obtain ⟨last, holds, recent⟩ := h
  exact ⟨last, holds, recent heard⟩

theorem DueBy.fewer {time : Rat} {n count : Nat} (h : l.DueBy time n) (le : count ≤ n) :
    l.DueBy time count :=
  Due.fewer h (Nat.sub_le_sub_right le _)

/-- Only what is incoming matters. -/
theorem Holds.congr (h : l.Holds gap last bytes) (broken : m.broken = l.broken)
    (ended : m.ended = l.ended) (buffer : m.buffer = l.buffer) (pending : m.pending = l.pending) :
    m.Holds gap last bytes := by
  refine ⟨broken.trans h.intact, ?_⟩
  rw [ended, buffer, pending]
  exact h.coming

theorem WillBring.saying (h : l.WillBring gap now bytes) (cs : List WriterCall) :
    (l.saying cs).WillBring gap now bytes := by
  obtain ⟨last, holds, recent⟩ := h
  exact ⟨last, holds.congr rfl rfl rfl rfl, recent⟩

theorem Brings.congr {now' : Rat} (h : l.Brings gap now bytes) (le : now ≤ now')
    (broken : m.broken = l.broken) (ended : m.ended = l.ended) (buffer : m.buffer = l.buffer)
    (pending : m.pending = l.pending) : m.Brings gap now' bytes := by
  obtain ⟨last, holds, recent⟩ := h
  exact ⟨last, holds.congr broken ended buffer pending, Rat.le_trans recent le⟩

/-- A connection as it is when it has been made. -/
def opened (b : Behaviour) (now : Rat) : Link :=
  { behaviour := b, pending := Net.schedule now b.arrivals }

/-- A new link brings what the other side has cut into segments. -/
theorem willBring_of_segmented {b : Behaviour} (h : Segmented gap bytes b.arrivals) (now : Rat) :
    (opened b now).WillBring gap now bytes := by
  unfold opened
  generalize b.arrivals = arrivals at h ⊢
  cases h with
  | @first wait bs later rest _ some cut =>
      have arriving : Arriving gap (now + wait - gap) (bs ++ later)
          (Net.schedule now ((wait, .data bs) :: rest)) :=
        .segment (by grind) some (cut.arriving _)
      exact ⟨_, ⟨rfl, .inr ⟨rfl, _, rfl, arriving⟩⟩, fun heard => absurd rfl heard⟩

end Link

end ContentTracker
