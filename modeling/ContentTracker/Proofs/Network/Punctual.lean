import ContentTracker.Proofs.Network.Arrivals
import Mathlib.Algebra.Order.Ring.Unbundled.Rat

/-! Operations that are over in time: on a network that fails in nothing and keeps its pace, each
gives the result that it is there for. -/

namespace ContentTracker

namespace World

/-- The same, with time not going back and the deadline staying where it is. -/
structure Waits (w v : World) : Prop extends w.Idles v where
  later : w.now ≤ v.now
  deadline : v.deadline = w.deadline

/-- Nothing else happened but that time passed, and that connection `i` became `l`. -/
structure Passes (w : World) (i : Nat) (l : Link) (v : World) : Prop extends w.Swaps i l v where
  later : w.now ≤ v.now
  deadline : v.deadline = w.deadline

/-- The deadline, if there is one, does not come before a time. -/
def Allows (w : World) (time : Rat) : Prop := ∀ d, w.deadline = some d → time ≤ d

variable {w v u : World} {i : Nat} {l m : Link}

theorem allows_of_free (free : w.deadline = none) (time : Rat) : w.Allows time := by
  intro d e
  rw [free] at e
  cases e

theorem allows_of_bounded {deadline time : Rat} (bounded : w.deadline = some deadline)
    (soon : time ≤ deadline) : w.Allows time := by
  intro d e
  rw [bounded] at e
  cases e
  exact soon

theorem Waits.refl (w : World) : w.Waits w := ⟨.refl w, Rat.le_refl, rfl⟩

theorem Waits.trans (first : w.Waits v) (second : v.Waits u) : w.Waits u :=
  ⟨first.toIdles.trans second.toIdles, Rat.le_trans first.later second.later,
    second.deadline.trans first.deadline⟩

theorem Waits.met (h : w.Waits v) (a : DialAddress) : v.met a = w.met a := by
  rw [World.met, h.network, h.dials]
  rfl

theorem Waits.passes (h : w.Waits v) (there : w.links[i]? = some l) : w.Passes i l v :=
  ⟨h.toIdles.swaps there, h.later, h.deadline⟩

theorem Passes.trans (first : w.Passes i l v) (second : v.Passes i m u) : w.Passes i m u :=
  ⟨first.toSwaps.trans second.toSwaps, Rat.le_trans first.later second.later,
    second.deadline.trans first.deadline⟩

/-- What passes under a deadline of its own passes without one. -/
theorem Passes.unbounded {deadline : Option Rat}
    (h : { w with deadline := deadline }.Passes i l v) (free : w.deadline = none) :
    w.Passes i l { v with deadline := none } :=
  ⟨⟨h.network, h.dials, h.links⟩, h.later, free.symm⟩

theorem advanceTo_waits (w : World) (time : Rat) : w.Waits (w.advanceTo time) := by
  unfold World.advanceTo
  split
  · next later => exact ⟨⟨rfl, rfl, rfl⟩, Rat.le_of_lt later, rfl⟩
  · exact .refl w

theorem advanceTo_now (w : World) (time : Rat) : (w.advanceTo time).now = max w.now time := by
  unfold World.advanceTo
  split
  · next later => exact (max_eq_right (Rat.le_of_lt later)).symm
  · next early => exact (max_eq_left (Rat.not_lt.1 early)).symm

theorem le_advanceTo (w : World) (time : Rat) : time ≤ (w.advanceTo time).now := by
  rw [advanceTo_now]
  exact le_max_right _ _

end World

namespace Net

open World

theorem log_waits (severity : Severity) (logger text : String) (w : World) :
    Ends (log severity logger text) w fun r v => r = .ok () ∧ w.Waits v :=
  ⟨rfl, ⟨rfl, rfl, rfl⟩, Rat.le_refl, rfl⟩

variable {w : World} {i : Nat} {l : Link} {gap : Rat} {bytes : Octets}

theorem waitUntil_allowed {time : Rat} (allowed : w.Allows time) :
    waitUntil (some time) w = .ok () (w.advanceTo time) := by
  refine Ends.eq_ok ?_
  simp only [waitUntil, ends_bind, ends_get]
  split
  · next t d e deadline =>
    obtain rfl := Option.some.inj e
    rw [if_neg (Rat.not_lt.2 (allowed d deadline))]
    exact ⟨rfl, rfl⟩
  · next t e _ =>
    obtain rfl := Option.some.inj e
    exact ⟨rfl, rfl⟩
  · next absurd _ => cases absurd
  · next absurd _ => cases absurd

/-- What does not happen before the deadline is not waited for to the end. -/
theorem waitUntil_over {time : Option Rat} {d : Rat} (bounded : w.deadline = some d)
    (late : ∀ t, time = some t → d < t) :
    waitUntil time w = .error .cancelled (w.advanceTo d) := by
  refine Ends.eq_error ?_
  simp only [waitUntil, ends_bind, ends_get, bounded]
  cases time with
  | none => exact ⟨rfl, rfl⟩
  | some t =>
      dsimp only
      rw [if_pos (late t rfl)]
      exact ⟨rfl, rfl⟩

/-- Sleeping takes as long as it is meant to. -/
theorem ends_sleep_allowed {seconds : Rat} (allowed : w.Allows (w.now + seconds)) :
    Ends (sleep seconds) w fun r v => r = .ok () ∧ w.Waits v ∧ v.now = w.now + max 0 seconds := by
  unfold sleep
  split
  · next positive =>
    rw [ends_bind, ends_get]
    refine .on_ok (waitUntil_allowed allowed) ⟨rfl, advanceTo_waits _ _, ?_⟩
    have later : w.now < w.now + seconds := by grind
    simp only [World.advanceTo, if_pos later]
    grind
  · exact ⟨rfl, .refl w, by grind⟩

/-- A writer call is recorded and then decided by the other side. Only a drain takes time. -/
theorem ends_call_allowed (there : w.links[i]? = some l) (c : WriterCall)
    (allowed : c.kind = .drain → w.Allows (w.now +
      l.behaviour.drainTime ((l.calls.filter fun d => d.kind = c.kind).length + 1))) :
    Ends (call i c) w fun r v =>
      r = (match l.behaviour.fails c.kind
          ((l.calls.filter fun d => d.kind = c.kind).length + 1) with
        | some p => .error p
        | none => .ok ()) ∧
      w.Passes i (l.saying [c]) v ∧ (c.kind ≠ .drain → v.now = w.now) := by
  have recorded : w.Passes i (l.saying [c])
      { w with links := w.links.setIfInBounds i (l.saying [c]) } :=
    ⟨⟨rfl, rfl, rfl⟩, Rat.le_refl, rfl⟩
  simp only [call, ends_bind, ends_getLink there, ends_setLink]
  generalize l.behaviour.fails c.kind _ = fault
  split
  · next drain =>
    rw [ends_bind]
    apply Ends.mono (ends_sleep_allowed (by exact allowed drain))
    intro r v h
    obtain ⟨rfl, waited, _⟩ := h
    have said := recorded.trans (waited.passes (recorded.there there))
    cases fault <;> exact ⟨rfl, said, absurd drain⟩
  · cases fault <;> exact ⟨rfl, recorded, fun _ => rfl⟩

theorem ends_call_working (there : w.links[i]? = some l) (c : WriterCall)
    (working : ∀ n, l.behaviour.fails c.kind n = none)
    (allowed : c.kind = .drain → w.Allows (w.now +
      l.behaviour.drainTime ((l.calls.filter fun d => d.kind = c.kind).length + 1))) :
    Ends (call i c) w fun r v => r = .ok () ∧ w.Passes i (l.saying [c]) v ∧
      (c.kind ≠ .drain → v.now = w.now) := by
  apply Ends.mono (ends_call_allowed there c allowed)
  intro r v h
  rw [working] at h
  exact h

theorem ends_refresh_exact (there : w.links[i]? = some l) :
    Ends (refresh i) w fun r v => r = .ok (l.advance w.now) ∧ w.Passes i (l.advance w.now) v ∧
      v.now = w.now := by
  simp only [refresh, ends_bind, ends_getLink there, ends_get, ends_setLink, ends_pure, and_true,
    true_and]
  exact ⟨⟨rfl, rfl, rfl⟩, Rat.le_refl, rfl⟩

/-- Waiting for an arrival that comes in time takes it in. -/
theorem ends_awaitArrival_allowed {t : Rat} {a : Arrival} {rest : List (Rat × Arrival)}
    (there : w.links[i]? = some l) (next : l.pending = (t, a) :: rest)
    (noticed : Link.isNoticed a) (unbroken : ∀ p, a ≠ .broken p) (allowed : w.Allows t) :
    Ends (awaitArrival i) w fun r v => r = .ok () ∧ w.Passes i (l.advance v.now) v ∧
      v.now = max w.now t := by
  have still := (advanceTo_waits w t).passes there
  have found : l.pending.find? (fun e => Link.isNoticed e.2) = some (t, a) := by
    rw [next, List.find?_cons_of_pos (by exact noticed)]
  simp only [awaitArrival, ends_bind, ends_getLink there, found]
  refine .on_ok (waitUntil_allowed allowed) ?_
  apply Ends.mono (ends_refresh_exact (still.there there))
  intro r v h
  obtain ⟨rfl, swapped, now⟩ := h
  rw [← now] at swapped
  rw [advanceTo_now] at now
  cases a with
  | broken p => exact absurd rfl (unbroken p)
  | data bs => exact ⟨rfl, still.trans swapped, now⟩
  | endOfStream => exact ⟨rfl, still.trans swapped, now⟩

/-- Filling the buffer up to what is due by the deadline succeeds. -/
theorem ends_fill_due {deadline : Rat} (count fuel : Nat) (there : w.links[i]? = some l)
    (bounded : w.deadline = some deadline) (brings : l.WillBring gap w.now bytes)
    (due : l.DueBy deadline count) (enough : count ≤ bytes.length)
    (arrivals : l.pending.length < fuel) :
    Ends (fill i count fuel) w fun r v => r = .ok () ∧ ∃ m, w.Passes i m v ∧
      m.outgoing = l.outgoing ∧ m.WillBring gap v.now bytes ∧ count ≤ m.buffer.length ∧
      ∀ n, l.DueBy deadline n → m.DueBy deadline n := by
  induction fuel generalizing w l with
  | zero => omega
  | succ fuel ih =>
      rw [fill]
      apply Ends.next (ends_refresh_exact there)
      intro v h
      obtain ⟨swapped, now⟩ := h
      have here := swapped.there there
      have outgoing := (l.hears_advance w.now).outgoing
      have kept : (l.advance w.now).WillBring gap v.now bytes := by
        rw [now]
        exact brings.advance
      have dues (n : Nat) (h : l.DueBy deadline n) := h.advance w.now
      have fewer := l.advance_pending_le w.now
      have brought := kept
      obtain ⟨last, holds, _⟩ := brought
      split
      · next ready =>
        refine ⟨rfl, _, swapped, outgoing, kept, ?_, dues⟩
        rw [Bool.or_eq_true, decide_eq_true_eq] at ready
        obtain there | ended := ready
        · exact there
        · rwa [← holds.of_ended ended]
      · next waiting =>
        rw [Bool.or_eq_true, decide_eq_true_eq, not_or] at waiting
        obtain ⟨t, a, rest, next, noticed, unbroken, _⟩ := holds.next (by simpa using waiting.2)
        have soon : t ≤ deadline := (dues count due).next next (by omega)
        have allowed : v.Allows t := allows_of_bounded (swapped.deadline.trans bounded) soon
        apply Ends.next (ends_awaitArrival_allowed here next noticed unbroken allowed)
        intro u h
        obtain ⟨woken, now'⟩ := h
        have due' : t ≤ u.now := by
          rw [now']
          exact le_max_right _ _
        have shorter := Link.advance_pending_lt next due'
        apply Ends.mono (ih (woken.there here) (by rw [woken.deadline, swapped.deadline, bounded])
          (kept.later woken.later).advance ((dues count due).advance _) (by omega))
        intro r t h
        obtain ⟨rfl, m, filled, same, kept', there, dues'⟩ := h
        refine ⟨rfl, m, (swapped.trans woken).trans filled, ?_, kept', there,
          fun n h => dues' n ((dues n h).advance _)⟩
        exact same.trans ((Link.hears_advance _ _).outgoing.trans outgoing)

theorem ends_takeBuffered_exact (there : w.links[i]? = some l) (count : Nat) :
    Ends (takeBuffered i count) w fun r v => r = .ok (l.buffer.take count) ∧
      w.Passes i { l with buffer := l.buffer.drop count } v ∧ v.now = w.now := by
  simp only [takeBuffered, ends_bind, ends_getLink there, ends_setLink, ends_pure, and_true,
    true_and]
  exact ⟨⟨rfl, rfl, rfl⟩, Rat.le_refl, rfl⟩

/-- An exact read gives the next octets, wherever they were cut. -/
theorem ends_readExactly_due {deadline : Rat} {count : Nat} (there : w.links[i]? = some l)
    (bounded : w.deadline = some deadline) (brings : l.WillBring gap w.now bytes)
    (due : l.DueBy deadline count) (enough : count ≤ bytes.length) (positive : 0 < count) :
    Ends (readExactly i count) w fun r v => r = .ok (bytes.take count) ∧ ∃ m, w.Passes i m v ∧
      m.outgoing = l.outgoing ∧ m.Brings gap v.now (bytes.drop count) ∧
      ∀ n, l.DueBy deadline n → m.DueBy deadline (n - count) := by
  rw [readExactly]
  apply Ends.next (ends_refresh_exact there)
  intro v h
  obtain ⟨swapped, now⟩ := h
  have here := swapped.there there
  have kept : (l.advance w.now).WillBring gap v.now bytes := by
    rw [now]
    exact brings.advance
  have brought := kept
  obtain ⟨_, holds, _⟩ := brought
  rw [holds.intact]
  dsimp only
  rw [if_neg (by omega)]
  apply Ends.next (ends_fill_due count _ here (swapped.deadline.trans bounded) kept
    (due.advance _) enough (Nat.lt_succ_self _))
  intro u h
  obtain ⟨m, filled, outgoing, kept', filledTo, dues⟩ := h
  have now' := filled.there here
  simp only [ends_bind, ends_getLink now']
  rw [if_neg (by omega)]
  apply Ends.mono (ends_takeBuffered_exact now' count)
  intro r t h
  obtain ⟨rfl, taken, same⟩ := h
  obtain ⟨last, holds', recent⟩ := kept'.brings (List.ne_nil_of_length_pos (by omega))
  obtain ⟨left, rfl, holds''⟩ := holds'.take count
  have size : (m.buffer.take count).length = count := List.length_take_of_le filledTo
  refine ⟨by rw [List.take_left' size], _, (swapped.trans filled).trans taken, ?_, ?_, ?_⟩
  · exact outgoing.trans (l.hears_advance w.now).outgoing
  · rw [same, List.drop_left' size]
    exact ⟨last, holds'', recent⟩
  · exact fun n h => (dues n (h.advance _)).take filledTo

/-- Within a time limit, an operation gives its result if it is over in time, and has run out of time
if it is broken off when the time is over. -/
theorem ends_within_timed {α : Type} {seconds : Rat} {op : Net α}
    {Q : Except Problem α → World → Prop} (positive : 0 < seconds) (free : w.deadline = none)
    (body : Ends op { w with deadline := some (w.now + seconds) } fun r v =>
      (∃ a, r = .ok a ∧ Q (.ok a) { v with deadline := none }) ∨
      (r = .error .cancelled ∧ v.now = w.now + seconds ∧
        Q (.error (.system .timeout "")) { v with deadline := none })) :
    Ends (within seconds op) w Q := by
  rw [within, if_neg (Rat.not_le.2 positive)]
  simp only [ends_bind, ends_get, ends_set, ends_outcome, ends_modify, free]
  apply Ends.mono body
  intro r v h
  obtain ⟨a, rfl, known⟩ | ⟨rfl, now, known⟩ := h
  · exact known
  · simp only [ends_bind, ends_get, Option.any_none, Bool.false_eq_true, if_false]
    rw [if_pos (ge_of_eq now)]
    exact known

theorem ends_within_allowed {α : Type} {seconds : Rat} {op : Net α} {Q : α → World → Prop}
    (positive : 0 < seconds) (free : w.deadline = none)
    (body : Ends op { w with deadline := some (w.now + seconds) } fun r v =>
      ∃ a, r = .ok a ∧ Q a { v with deadline := none }) :
    Ends (within seconds op) w fun r v => ∃ a, r = .ok a ∧ Q a v := by
  refine ends_within_timed positive free (body.mono fun r v h => ?_)
  obtain ⟨a, given, known⟩ := h
  exact .inl ⟨a, given, a, rfl, known⟩

end Net

end ContentTracker
