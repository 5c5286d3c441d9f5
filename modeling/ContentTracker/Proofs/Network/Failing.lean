import ContentTracker.Proofs.Network.Problems

/-! When operations fail. A call fails exactly if the other side makes it fail, and a read exactly
if a break comes before all else or nothing comes in time. -/

namespace ContentTracker

/-- The troubles that a network may raise: those of the system, and streams cut short. -/
def Problem.isTrouble : Problem → Bool
  | .system _ _ | .incomplete _ _ => true
  | _ => false

def Problem.IsFailure (kind : FailureKind) (p : Problem) : Prop :=
  ∃ f, p = .failure f ∧ f.kind = kind

theorem Problem.IsFailure.kind_iff {kind other : FailureKind} {p : Problem}
    (h : p.IsFailure kind) : p.IsFailure other ↔ other = kind := by
  obtain ⟨f, rfl, rfl⟩ := h
  constructor
  · rintro ⟨_, ⟨⟩, same⟩
    exact same.symm
  · rintro rfl
    exact ⟨f, rfl, rfl⟩

def CallKind.isSending : CallKind → Bool
  | .write | .drain | .writeEnd => true
  | .close | .waitClosed => false

namespace Link

def made (l : Link) (kind : CallKind) : Nat := (l.calls.filter fun d => d.kind = kind).length

/-- From `l` on calls were made until the link was `m`, and one of those that send failed. -/
def Stumbled (l m : Link) : Prop :=
  ∃ kind n p, kind.isSending ∧ l.made kind < n ∧ n ≤ m.made kind ∧
    m.behaviour.fails kind n = some p

/-- From one state of a link to another, more calls were made. -/
structure Speaks (l m : Link) : Prop where
  behaviour : m.behaviour = l.behaviour
  made : ∀ kind, l.made kind ≤ m.made kind

/-- The same without a call that sends. -/
structure Pauses (l m : Link) : Prop where
  behaviour : m.behaviour = l.behaviour
  made : ∀ kind, kind.isSending → m.made kind = l.made kind

variable {l m n : Link}

theorem Speaks.trans (first : l.Speaks m) (second : m.Speaks n) : l.Speaks n :=
  ⟨second.behaviour.trans first.behaviour,
    fun kind => Nat.le_trans (first.made kind) (second.made kind)⟩

theorem not_stumbled (l : Link) : ¬ l.Stumbled l := by
  rintro ⟨kind, n, p, _, after, before, _⟩
  omega

/-- A call that failed was made in one part of the time or in the other. -/
theorem stumbled_trans (first : l.Speaks m) (second : m.Speaks n) :
    l.Stumbled n ↔ l.Stumbled m ∨ m.Stumbled n := by
  constructor
  · rintro ⟨kind, k, p, sending, after, before, fault⟩
    by_cases early : k ≤ m.made kind
    · exact .inl ⟨kind, k, p, sending, after, early, second.behaviour ▸ fault⟩
    · exact .inr ⟨kind, k, p, sending, Nat.lt_of_not_le early, before, fault⟩
  · rintro (⟨kind, k, p, sending, after, before, fault⟩ |
      ⟨kind, k, p, sending, after, before, fault⟩)
    · exact ⟨kind, k, p, sending, after, Nat.le_trans before (second.made kind),
        second.behaviour.symm ▸ fault⟩
    · exact ⟨kind, k, p, sending, Nat.lt_of_le_of_lt (first.made kind) after, before, fault⟩

theorem Pauses.stumbled (h : m.Pauses n) : l.Stumbled n ↔ l.Stumbled m := by
  constructor <;> rintro ⟨kind, k, p, sending, after, before, fault⟩ <;>
    exact ⟨kind, k, p, sending, after, h.made kind sending ▸ before, h.behaviour ▸ fault⟩

theorem pauses_of_outgoing (h : m.outgoing = l.outgoing) : l.Pauses m := by
  simp only [outgoing, Link.mk.injEq] at h
  exact ⟨h.1, fun kind _ => by rw [made, made, h.2.2.2.2.2.1]⟩

theorem made_saying (l : Link) (c : WriterCall) (kind : CallKind) :
    (l.saying [c]).made kind = l.made kind + if c.kind = kind then 1 else 0 := by
  by_cases same : c.kind = kind <;> simp [made, saying, same]

theorem speaks_saying (l : Link) (c : WriterCall) : l.Speaks (l.saying [c]) :=
  ⟨rfl, fun kind => by rw [made_saying]; exact Nat.le_add_right _ _⟩

theorem stumbled_saying {c : WriterCall} (sending : c.kind.isSending) :
    l.Stumbled (l.saying [c]) ↔ ∃ p, l.behaviour.fails c.kind (l.made c.kind + 1) = some p := by
  constructor
  · rintro ⟨kind, n, p, _, after, before, fault⟩
    rw [made_saying] at before
    split at before
    · next same =>
      subst same
      obtain rfl : n = l.made c.kind + 1 := by omega
      exact ⟨p, fault⟩
    · omega
  · rintro ⟨p, fault⟩
    refine ⟨c.kind, _, p, sending, Nat.lt_succ_self _, ?_, fault⟩
    exact Nat.le_of_eq (by rw [made_saying, if_pos rfl])

/-! What there is to read. -/

/-- Nothing is there: no octets, no end of the stream and no break. -/
structure Waiting (l : Link) : Prop where
  intact : l.broken = none
  empty : l.buffer = []
  unended : l.ended = false

def next? (l : Link) : Option (Rat × Arrival) := l.pending.find? fun e => isNoticed e.2

/-- A break has arrived, or it is what a waiting reader is woken by, and in time. -/
def Breaks (l : Link) (now patience : Rat) : Prop :=
  (l.advance now).broken.isSome ∨
    (l.advance now).Waiting ∧ ∃ t p, (l.advance now).next? = some (t, .broken p) ∧
      t ≤ now + patience

/-- A reader is left without patience, or is kept waiting for longer than it has. -/
def Stalls (l : Link) (now patience : Rat) : Prop :=
  patience ≤ 0 ∨
    (l.advance now).Waiting ∧ ∀ e, (l.advance now).next? = some e → now + patience < e.1

end Link

namespace Net

open World

variable {w v : World} {i : Nat} {l : Link}

/-- Where there is no deadline, a call is decided by the other side alone. -/
theorem ends_call_decided (there : w.links[i]? = some l) (free : w.deadline = none)
    (c : WriterCall) (sending : c.kind.isSending) : Ends (call i c) w fun r v =>
      w.Passes i (l.saying [c]) v ∧ (l.Stumbled (l.saying [c]) ↔ ∃ p, r = .error p) ∧
        ∀ p, r = .error p → ∃ n, l.behaviour.fails c.kind n = some p := by
  apply Ends.mono (ends_call_allowed there c fun _ => allows_of_free free _)
  intro r v h
  obtain ⟨decided, said, _⟩ := h
  rw [Link.stumbled_saying sending]
  refine ⟨said, ?_⟩
  rw [show (l.calls.filter fun d => d.kind = c.kind).length = l.made c.kind from rfl] at decided
  cases fault : l.behaviour.fails c.kind (l.made c.kind + 1) with
  | none => simp [decided, fault]
  | some p =>
      simp only [fault] at decided
      subst decided
      refine ⟨iff_of_true ⟨p, rfl⟩ ⟨p, rfl⟩, ?_⟩
      rintro _ ⟨⟩
      exact ⟨_, fault⟩

/-- Waiting for what arrives next is in vain if that is a break, or if it is late. -/
theorem ends_awaitArrival_decided {d : Rat} (there : w.links[i]? = some l)
    (bounded : w.deadline = some d) : Ends (awaitArrival i) w fun r v =>
      ((∃ p, r = .error p) ↔ (∃ t p, l.next? = some (t, .broken p) ∧ t ≤ d) ∨
        ∀ e, l.next? = some e → d < e.1) ∧ ∃ m, v.links[i]? = some m := by
  have still (time : Rat) : (w.advanceTo time).links[i]? = some l := by
    rw [(advanceTo_waits w time).links]
    exact there
  have wakes : l.pending.find? (fun e => Link.isNoticed e.2) = l.next? := rfl
  simp only [awaitArrival, ends_bind, ends_getLink there, wakes]
  cases next : l.next? with
  | none =>
      refine .on_error (waitUntil_over bounded (by simp)) ?_
      exact ⟨iff_of_true ⟨_, rfl⟩ (.inr (by simp)), l, still d⟩
  | some e =>
      obtain ⟨t, a⟩ := e
      by_cases late : d < t
      · refine .on_error (waitUntil_over bounded (by simpa using late)) ?_
        exact ⟨iff_of_true ⟨_, rfl⟩ (.inr (by simpa using late)), l, still d⟩
      · have soon := Rat.not_lt.1 late
        refine .on_ok (waitUntil_allowed (allows_of_bounded bounded soon)) ?_
        apply Ends.mono (ends_refresh_exact (still t))
        intro r v h
        obtain ⟨rfl, passed, _⟩ := h
        have here := passed.there (still t)
        cases a with
        | broken p => exact ⟨iff_of_true ⟨p, rfl⟩ (.inl ⟨t, p, rfl, soon⟩), _, here⟩
        | data bs => exact ⟨iff_of_false (by simp) (by simpa using late), _, here⟩
        | endOfStream => exact ⟨iff_of_false (by simp) (by simpa using late), _, here⟩

/-- A read fails if a break comes first or its time is over first. Otherwise it gives something. -/
theorem ends_readSome_decided {patience : Rat} {count : Nat} (there : w.links[i]? = some l)
    (bounded : w.deadline = some (w.now + patience)) (timed : 0 < patience)
    (positive : 0 < count) : Ends (readSome i count) w fun r _ =>
      (∃ p, r = .error p) ↔ l.Breaks w.now patience ∨ l.Stalls w.now patience := by
  have giving {v : World} {m : Link} (here : v.links[i]? = some m) :
      Ends (takeBuffered i count) v fun r _ => ¬ ∃ p, r = .error p := by
    apply Ends.mono (ends_takeBuffered_exact here count)
    intro r u h
    obtain ⟨rfl, _⟩ := h
    simp
  rw [readSome]
  apply Ends.next (ends_refresh_exact there)
  intro v h
  obtain ⟨passed, now⟩ := h
  have here := passed.there there
  cases broken : (l.advance w.now).broken with
  | some p => exact iff_of_true ⟨p, rfl⟩ (.inl (.inl (by rw [broken]; rfl)))
  | none =>
      have decided : l.Breaks w.now patience ∨ l.Stalls w.now patience ↔
          (l.advance w.now).Waiting ∧
          ((∃ t p, (l.advance w.now).next? = some (t, .broken p) ∧ t ≤ w.now + patience) ∨
            ∀ e, (l.advance w.now).next? = some e → w.now + patience < e.1) := by
        simp only [Link.Breaks, Link.Stalls, broken, Rat.not_le.2 timed, Option.isSome_none,
          Bool.false_eq_true, false_or, and_or_left]
      rw [decided]
      dsimp only
      rw [if_neg (by omega)]
      split
      · next idle =>
        rw [Bool.and_eq_true, Bool.not_eq_true', List.isEmpty_iff] at idle
        have waiting : (l.advance w.now).Waiting := ⟨broken, idle.1, idle.2⟩
        apply Ends.bind (ends_awaitArrival_decided here (passed.deadline.trans bounded))
        · intro _ u h
          obtain ⟨woken, m, now⟩ := h
          exact (giving now).mono fun r _ given => iff_of_false given
            fun h => absurd (woken.2 h.2) (by simp)
        · intro p u h
          exact iff_of_true ⟨p, rfl⟩ ⟨waiting, h.1.1 ⟨p, rfl⟩⟩
      · next ready =>
        refine (giving here).mono fun r _ given => iff_of_false given fun h => ready ?_
        simp [h.1.empty, h.1.unended]

/-- Without a deadline outside, an operation within a time limit succeeds exactly if it does so
under the deadline that the limit gives. -/
theorem ends_within_decided {α : Type} {seconds : Rat} {op : Net α} {P : Prop}
    (free : w.deadline = none) (timed : 0 < seconds)
    (body : Ends op { w with deadline := some (w.now + seconds) } fun r _ =>
      (∃ p, r = .error p) ↔ P) :
    Ends (within seconds op) w fun r _ => (∃ p, r = .error p) ↔ P := by
  rw [within, if_neg (Rat.not_le.2 timed)]
  simp only [ends_bind, ends_get, ends_set, ends_outcome, ends_modify, free]
  apply Ends.mono body
  intro r v h
  cases r with
  | ok a => exact h
  | error p =>
      have failed (q : Problem) : (∃ p, (.error q : Except Problem α) = .error p) ↔ P :=
        iff_of_true ⟨q, rfl⟩ (h.1 ⟨p, rfl⟩)
      simp only [ends_bind, ends_get]
      split
      · exact failed _
      · split
        · split <;> exact failed _
        · exact failed _

end Net

end ContentTracker
