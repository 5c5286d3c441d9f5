import ContentTracker.Proofs.Network.Punctual

/-! In which problems an operation can end: those that the network raises, the few that are its own,
and a cancellation once the deadline of its surroundings is over. -/

namespace ContentTracker

/-- Among the problems of `H` are those that the network raises, which are of `T`, and those that
network operations have of themselves. -/
structure Native (T H : Problem → Prop) : Prop where
  raised : ∀ p, T p → H p
  incomplete : ∀ got wanted, H (.incomplete got wanted)
  timeout : H (.system .timeout "")

/-- A side that raises only problems of `T`, and on which closing goes well but for trouble that the
system reports while it is waited for. -/
structure Behaviour.Tame (T : Problem → Prop) (b : Behaviour) : Prop where
  dials : ∀ p, b.dialProblem = some p → T p
  calls : ∀ kind n p, b.fails kind n = some p → T p
  reads : ∀ wait p, (wait, .broken p) ∈ b.arrivals → T p
  closes : ∀ n, b.fails .close n = none
  waits : ∀ n p, b.fails .waitClosed n = some p → p.isSystem

structure Link.Tame (T : Problem → Prop) (l : Link) : Prop where
  behaviour : l.behaviour.Tame T
  pending : ∀ t p, (t, .broken p) ∈ l.pending → T p
  broken : ∀ p, l.broken = some p → T p

/-- What breaks a link off, now or later, is a problem of `T`. -/
structure Link.BreaksIn (T : Problem → Prop) (l : Link) : Prop where
  pending : ∀ t p, (t, .broken p) ∈ l.pending → T p
  broken : ∀ p, l.broken = some p → T p

theorem Link.Tame.breaksIn {T : Problem → Prop} {l : Link} (h : l.Tame T) : l.BreaksIn T :=
  ⟨h.pending, h.broken⟩

/-- All sides are tame, also those that have not been dialed. -/
structure World.Tame (T : Problem → Prop) (w : World) : Prop where
  network : ∀ a n, (w.network a n).Tame T
  links : ∀ (i : Nat) (l : Link), w.links[i]? = some l → l.Tame T

theorem World.Tame.idles {T : Problem → Prop} {w v : World} (h : w.Tame T) (idle : w.Idles v) :
    v.Tame T where
  network := by
    rw [idle.network]
    exact h.network
  links := by
    rw [idle.links]
    exact h.links

/-- The deadline is over. -/
def World.Overdue (w : World) : Prop := ∃ d, w.deadline = some d ∧ d ≤ w.now

namespace Net

/-- A problem of `H`, or the cancellation that an overdue operation ends in. -/
def Known (H : Problem → Prop) (w : World) (p : Problem) : Prop := H p ∨ p = .cancelled ∧ w.Overdue

/-- Without a deadline nothing is overdue. -/
theorem Known.raised {H : Problem → Prop} {w : World} {p : Problem} (known : Known H w p)
    (free : w.deadline = none) : H p := by
  refine known.resolve_right fun overdue => ?_
  obtain ⟨_, d, deadline, _⟩ := overdue
  rw [free] at deadline
  cases deadline

/-- An operation ended without harm, and in a problem that is known if in any. -/
structure Sound (T H : Problem → Prop) {α : Type} (w : World) (r : Except Problem α) (v : World) :
    Prop where
  world : v.Tame T
  size : w.links.size ≤ v.links.size
  deadline : v.deadline = w.deadline
  later : w.now ≤ v.now
  problem : ∀ p, r = .error p → Known H v p

variable {T H : Problem → Prop} {α β : Type} {w v : World} {i : Nat} {l : Link}

theorem Sound.ok {a : α} (h : w.Tame T) : Sound T H w (.ok a) w :=
  ⟨h, Nat.le_refl _, rfl, Rat.le_refl, by simp⟩

theorem Sound.error {p : Problem} (h : w.Tame T) (known : Known H w p) :
    Sound T H w (.error p : Except Problem α) w := by
  refine ⟨h, Nat.le_refl _, rfl, Rat.le_refl, ?_⟩
  rintro _ ⟨⟩
  exact known

/-- What was overdue stays so. -/
theorem Sound.known {r : Except Problem α} {p : Problem} (h : Sound T H w r v)
    (known : Known H w p) : Known H v p := by
  refine known.imp_right fun overdue => ?_
  obtain ⟨cancelled, d, deadline, late⟩ := overdue
  exact ⟨cancelled, d, h.deadline.trans deadline, Rat.le_trans late h.later⟩

/-- A problem may be told in other words. -/
theorem Sound.retold {p q : Problem} (h : Sound T H w (.error p : Except Problem α) v)
    (known : Known H v q) : Sound T H w (.error q : Except Problem β) v := by
  refine ⟨h.world, h.size, h.deadline, h.later, ?_⟩
  rintro _ ⟨⟩
  exact known

theorem Sound.trans {r : Except Problem α} {r' : Except Problem β} {u : World}
    (first : Sound T H w r v) (second : Sound T H v r' u) : Sound T H w r' u :=
  ⟨second.world, Nat.le_trans first.size second.size, second.deadline.trans first.deadline,
    Rat.le_trans first.later second.later, second.problem⟩

/-- What follows a result is judged from where it starts. -/
theorem Sound.after {a : α} {op : Net β} (first : Sound T H w (.ok a) v)
    (later : Ends op v (Sound T H v)) : Ends op v (Sound T H w) :=
  later.mono fun _ _ h => first.trans h

theorem Sound.bind {op : Net α} {f : α → Net β} (first : Ends op w (Sound T H w))
    (later : ∀ a v, Sound T H w (.ok a) v → Ends (f a) v (Sound T H v)) :
    Ends (op >>= f) w (Sound T H w) :=
  Ends.bind first (fun a v h => h.after (later a v h)) fun p _ h => h.retold (h.problem p rfl)

theorem Sound.set {a : α} (h : w.Tame T) (i : Nat) (known : l.Tame T) :
    Sound T H w (.ok a) { w with links := w.links.setIfInBounds i l } := by
  refine ⟨⟨h.network, fun j m there => ?_⟩, by simp, rfl, Rat.le_refl, by simp⟩
  rw [Array.getElem?_setIfInBounds] at there
  split at there
  · split at there
    · cases there
      exact known
    · cases there
  · exact h.links j m there

theorem sound_log (severity : Severity) (logger text : String) (h : w.Tame T) :
    Ends (log severity logger text) w (Sound T H w) :=
  ⟨⟨h.network, h.links⟩, Nat.le_refl _, rfl, Rat.le_refl, by simp⟩

/-- Nothing but a deadline ends a wait for something that will come. -/
theorem waitUntil_known {time : Option Rat} (bounded : time.isSome ∨ w.deadline.isSome) :
    Ends (waitUntil time) w fun r v => w.Waits v ∧ ∀ p, r = .error p → Known H v p := by
  have late (d : Rat) (deadline : w.deadline = some d) :
      Known H (w.advanceTo d) .cancelled :=
    .inr ⟨rfl, d, (w.advanceTo_waits d).deadline.trans deadline, w.le_advanceTo d⟩
  simp only [waitUntil, ends_bind, ends_get]
  split
  · next t d deadline =>
    split
    · exact ⟨w.advanceTo_waits d, by rintro _ ⟨⟩; exact late d deadline⟩
    · exact ⟨w.advanceTo_waits t, by simp⟩
  · next t _ => exact ⟨w.advanceTo_waits t, by simp⟩
  · next d deadline => exact ⟨w.advanceTo_waits d, by rintro _ ⟨⟩; exact late d deadline⟩
  · next deadline =>
    rw [deadline] at bounded
    simp at bounded

theorem sound_waitUntil (h : w.Tame T) {time : Option Rat}
    (bounded : time.isSome ∨ w.deadline.isSome) : Ends (waitUntil time) w (Sound T H w) := by
  apply Ends.mono (waitUntil_known bounded)
  intro r v waited
  obtain ⟨waited, problem⟩ := waited
  exact ⟨h.idles waited.toIdles, Nat.le_of_eq (congrArg Array.size waited.links).symm,
    waited.deadline, waited.later, problem⟩

theorem sound_sleep (h : w.Tame T) (seconds : Rat) :
    Ends (sleep seconds) w (Sound T H w) := by
  unfold sleep
  split
  · rw [ends_bind, ends_get]
    exact sound_waitUntil h (.inl rfl)
  · exact .ok h

/-- Within a time limit there is a deadline. An operation that was cancelled for it ends in a
timeout, and one that was cancelled for the deadline outside is cancelled still. -/
theorem within_known (native : Native T H) {seconds : Rat} {op : Net α} {Q : World → Prop}
    (before : Q w) (body : ∀ d, Ends op { w with deadline := some d } fun r v =>
      Q { v with deadline := w.deadline } ∧ v.deadline = some d ∧
        ∀ p, r = .error p → Known H v p) :
    Ends (within seconds op) w fun r v =>
      Q v ∧ v.deadline = w.deadline ∧ ∀ p, r = .error p → Known H v p := by
  unfold within
  split
  · exact ⟨before, rfl, by rintro _ ⟨⟩; exact .inl native.timeout⟩
  · simp only [ends_bind, ends_get, ends_set, ends_outcome, ends_modify]
    apply Ends.mono (body _)
    intro r v h
    obtain ⟨after, bounded, problem⟩ := h
    have ending (p : Problem) (known : Known H { v with deadline := w.deadline } p) :
        Q { v with deadline := w.deadline } ∧ w.deadline = w.deadline ∧
          ∀ q, (.error p : Except Problem α) = .error q →
            Known H { v with deadline := w.deadline } q := by
      refine ⟨after, rfl, ?_⟩
      rintro _ ⟨⟩
      exact known
    cases r with
    | ok a => exact ⟨after, rfl, by simp⟩
    | error p =>
        simp only [ends_bind, ends_get]
        split
        · next late =>
          obtain ⟨d, deadline, passed⟩ := (Option.any_eq_true _ _).1 late
          exact ending _ (.inr ⟨rfl, d, deadline, of_decide_eq_true passed⟩)
        · next ahead =>
          have raised (inside : Known H v p) : H p ∨ p = .cancelled ∧ w.now + seconds ≤ v.now := by
            refine inside.imp_right fun overdue => ?_
            obtain ⟨cancelled, d, deadline, passed⟩ := overdue
            refine ⟨cancelled, ?_⟩
            have mine := Option.some.inj (bounded.symm.trans deadline)
            -- The deadline that was over is the nearer one, and the one outside is not over.
            cases outside : w.deadline with
            | none =>
                simp only [outside] at mine
                exact mine ▸ passed
            | some outer =>
                have ahead : ¬ outer ≤ v.now := by simpa [outside] using ahead
                simp only [outside] at mine
                split at mine
                · exact mine ▸ passed
                · exact absurd (mine ▸ passed) ahead
          split
          · split
            · exact ending _ (.inl native.timeout)
            · next early =>
              exact ending _ (.inl ((raised (problem _ rfl)).resolve_right fun h => early h.2))
          · next other =>
            exact ending _ (.inl ((raised (problem _ rfl)).resolve_right fun h => other h.1))

theorem sound_within (native : Native T H) (h : w.Tame T) {seconds : Rat} {op : Net α}
    (body : ∀ d, Ends op { w with deadline := some d } (Sound T H { w with deadline := some d })) :
    Ends (within seconds op) w (Sound T H w) := by
  have limited : Ends (within seconds op) w _ := within_known native
    (Q := fun v => v.Tame T ∧ w.links.size ≤ v.links.size ∧ w.now ≤ v.now)
    ⟨h, Nat.le_refl _, Rat.le_refl⟩ fun d => (body d).mono fun r v sound =>
      ⟨⟨⟨sound.world.network, sound.world.links⟩, sound.size, sound.later⟩, sound.deadline,
        sound.problem⟩
  apply Ends.mono limited
  intro r v h
  obtain ⟨⟨world, size, later⟩, deadline, problem⟩ := h
  exact ⟨world, size, deadline, later, problem⟩

/-- A link that is there raises only what is known. -/
theorem tame_there (h : w.Tame T) (bound : i < w.links.size) :
    ∃ l, w.links[i]? = some l ∧ l.Tame T :=
  ⟨_, Array.getElem?_eq_getElem bound, h.links i _ (Array.getElem?_eq_getElem bound)⟩

theorem sound_call (native : Native T H) (h : w.Tame T) (bound : i < w.links.size)
    (c : WriterCall) : Ends (call i c) w (Sound T H w) := by
  obtain ⟨l, there, known⟩ := tame_there h bound
  have raised {n : Nat} {p : Problem} (e : l.behaviour.fails c.kind n = some p) : H p :=
    native.raised _ (known.behaviour.calls _ _ _ e)
  simp only [call]
  rw [ends_bind, ends_getLink there]
  dsimp only
  generalize fails : l.behaviour.fails c.kind _ = fault
  refine Sound.bind (.set h i ⟨known.behaviour, known.pending, known.broken⟩) fun _ v h => ?_
  split
  · apply Sound.bind (sound_sleep h.world _)
    intro _ u h
    cases fault with
    | some p => exact .error h.world (.inl (raised fails))
    | none => exact .ok h.world
  · cases fault with
    | some p => exact .error h.world (.inl (raised fails))
    | none => exact .ok h.world

/-- A call that takes no time ends in no other problem than its own. -/
theorem ends_call_problem (there : w.links[i]? = some l) (c : WriterCall)
    (quick : c.kind ≠ .drain) :
    Ends (call i c) w fun r _ => ∀ p, r = .error p → ∃ n, l.behaviour.fails c.kind n = some p := by
  simp only [call, ends_bind, ends_getLink there, ends_setLink, if_neg quick]
  cases e : l.behaviour.fails c.kind _ with
  | none => simp
  | some p =>
      rintro _ ⟨⟩
      exact ⟨_, e⟩

/-! Reading from one connection is not touched by what the others are like. -/

theorem breaksIn_advance (h : l.BreaksIn T) (now : Rat) : (l.advance now).BreaksIn T := by
  refine Link.advance_keeps (P := fun l => l.BreaksIn T) (fun l t a rest e _ h => ?_) h
  have behind : ∀ t p, (t, .broken p) ∈ rest → T p := by
    intro t p member
    apply h.pending t p
    rw [e]
    exact List.mem_cons_of_mem _ member
  cases a with
  | broken p =>
      refine ⟨behind, ?_⟩
      rintro _ ⟨⟩
      apply h.pending t p
      rw [e]
      exact List.mem_cons_self
  | data bs => exact ⟨behind, h.broken⟩
  | endOfStream => exact ⟨behind, h.broken⟩

/-- Connection `i` is `l`, it breaks off in problems of `T` only, and whoever reads from it has a
deadline. -/
structure Listener (T : Problem → Prop) (w : World) (i : Nat) (l : Link) : Prop where
  there : w.links[i]? = some l
  breaks : l.BreaksIn T
  bounded : w.deadline.isSome

/-- A reading operation ended: it changed the incoming part of one connection, and its problem is
known if there is one. -/
structure Listened (T H : Problem → Prop) {α : Type} (w : World) (i : Nat) (l : Link)
    (r : Except Problem α) (v : World) : Prop where
  link : ∃ m, w.Passes i m v ∧ m.outgoing = l.outgoing ∧ m.BreaksIn T
  problem : ∀ p, r = .error p → Known H v p

theorem Listened.of_passes {m : Link} (h : Listener T w i l) (passed : w.Passes i m v)
    (outgoing : m.outgoing = l.outgoing) (breaks : m.BreaksIn T) {op : Net α}
    (later : Listener T v i m → Ends op v (Listened T H v i m)) :
    Ends op v (Listened T H w i l) := by
  apply Ends.mono (later ⟨passed.there h.there, breaks, by rw [passed.deadline]; exact h.bounded⟩)
  rintro r u ⟨⟨n, later, same, breaks⟩, problem⟩
  exact ⟨⟨n, passed.trans later, same.trans outgoing, breaks⟩, problem⟩

theorem Listened.ok {a : α} (h : Listener T w i l) : Listened T H w i l (.ok a) w :=
  ⟨⟨l, (World.Waits.refl w).passes h.there, rfl, h.breaks⟩, by simp⟩

theorem Listened.error {p : Problem} (h : Listener T w i l) (known : Known H w p) :
    Listened T H w i l (.error p : Except Problem α) w := by
  refine ⟨⟨l, (World.Waits.refl w).passes h.there, rfl, h.breaks⟩, ?_⟩
  rintro _ ⟨⟩
  exact known

/-- A problem is the outcome of whatever else was to follow. -/
theorem Listened.failed {p : Problem} (h : Listened T H w i l (.error p : Except Problem α) v) :
    Listened T H w i l (.error p : Except Problem β) v := by
  refine ⟨h.link, ?_⟩
  rintro _ ⟨⟩
  exact h.problem p rfl

theorem Listened.bind {op : Net α} {f : α → Net β} (h : Listener T w i l)
    (first : Ends op w (Listened T H w i l))
    (later : ∀ a v m, Listener T v i m → Ends (f a) v (Listened T H v i m)) :
    Ends (op >>= f) w (Listened T H w i l) := by
  refine Ends.bind first (fun a v ended => ?_) fun p v ended => ?_
  · obtain ⟨m, passed, outgoing, breaks⟩ := ended.link
    exact Listened.of_passes h passed outgoing breaks (later a v m)
  · exact ended.failed

theorem Listened.set {m : Link} {a : α} (outgoing : m.outgoing = l.outgoing)
    (breaks : m.BreaksIn T) :
    Listened T H w i l (.ok a) { w with links := w.links.setIfInBounds i m } :=
  ⟨⟨m, ⟨⟨rfl, rfl, rfl⟩, Rat.le_refl, rfl⟩, outgoing, breaks⟩, by simp⟩

/-- What follows the taking in of arrivals starts with a link that has been brought up to date. -/
theorem listened_refresh {f : Link → Net β} (h : Listener T w i l)
    (later : ∀ m v, Listener T v i m → Ends (f m) v (Listened T H v i m)) :
    Ends (refresh i >>= f) w (Listened T H w i l) := by
  apply Ends.next (ends_refresh_exact h.there)
  intro v refreshed
  exact Listened.of_passes h refreshed.1 (l.hears_advance w.now).outgoing
    (breaksIn_advance h.breaks w.now) (later _ v)

theorem listened_waitUntil (h : Listener T w i l) (time : Option Rat) :
    Ends (waitUntil time) w (Listened T H w i l) :=
  (waitUntil_known (.inr h.bounded)).mono fun _ _ waited =>
    ⟨⟨l, waited.1.passes h.there, rfl, h.breaks⟩, waited.2⟩

theorem listened_awaitArrival (native : Native T H) (h : Listener T w i l) :
    Ends (awaitArrival i) w (Listened T H w i l) := by
  simp only [awaitArrival]
  rw [ends_bind, ends_getLink h.there]
  apply Listened.bind h (listened_waitUntil h _)
  intro _ v m h'
  refine listened_refresh h' fun n u h'' => ?_
  split
  · next t p found =>
    exact .error h'' (.inl (native.raised p (h.breaks.pending t p (List.mem_of_find?_eq_some found))))
  · exact .ok h''

theorem listened_takeBuffered (h : Listener T w i l) (count : Nat) :
    Ends (takeBuffered i count) w (Listened T H w i l) := by
  simp only [takeBuffered]
  rw [ends_bind, ends_getLink h.there]
  exact .set rfl ⟨h.breaks.pending, h.breaks.broken⟩

theorem listened_readSome (native : Native T H) (h : Listener T w i l) (count : Nat) :
    Ends (readSome i count) w (Listened T H w i l) := by
  rw [readSome]
  refine listened_refresh h fun m v h => ?_
  split
  · next p broken => exact .error h (.inl (native.raised p (h.breaks.broken p broken)))
  · split
    · exact .ok h
    · split
      · apply Listened.bind h (listened_awaitArrival native h)
        intro _ u n h
        exact listened_takeBuffered h count
      · exact listened_takeBuffered h count

theorem listened_readBlocks (native : Native T H) (h : Listener T w i l) (fuel : Nat)
    (read : Octets) : Ends (readBlocks i fuel read) w (Listened T H w i l) := by
  induction fuel generalizing w l read with
  | zero => exact .ok h
  | succ fuel ih =>
      rw [readBlocks]
      apply Listened.bind h (listened_readSome native h _)
      intro block v m h
      split
      · exact .ok h
      · exact ih h _

theorem listened_readUpTo (native : Native T H) (h : Listener T w i l) (count : Int) :
    Ends (readUpTo i count) w (Listened T H w i l) := by
  cases count with
  | ofNat n => exact listened_readSome native h n
  | negSucc n =>
      simp only [readUpTo]
      rw [ends_bind, ends_getLink h.there]
      exact listened_readBlocks native h _ _

theorem listened_fill (native : Native T H) (h : Listener T w i l) (count fuel : Nat) :
    Ends (fill i count fuel) w (Listened T H w i l) := by
  induction fuel generalizing w l with
  | zero => exact listened_waitUntil h none
  | succ fuel ih =>
      rw [fill]
      refine listened_refresh h fun m v h => ?_
      split
      · exact .ok h
      · apply Listened.bind h (listened_awaitArrival native h)
        intro _ u n h
        exact ih h

theorem listened_readExactly (native : Native T H) (h : Listener T w i l) (count : Nat) :
    Ends (readExactly i count) w (Listened T H w i l) := by
  rw [readExactly]
  refine listened_refresh h fun m v h => ?_
  split
  · next p broken => exact .error h (.inl (native.raised p (h.breaks.broken p broken)))
  · split
    · exact .ok h
    · apply Listened.bind h (listened_fill native h count _)
      intro _ u n h
      rw [ends_bind, ends_getLink h.there]
      dsimp only
      split
      · refine Listened.bind h (.set rfl ⟨h.breaks.pending, h.breaks.broken⟩) fun _ t k h => ?_
        exact .error h (.inl (native.incomplete _ _))
      · exact listened_takeBuffered h count

/-- In a tame world the links that were not read from stay tame too. -/
theorem Listened.sound {r : Except Problem α} (tame : w.Tame T) (there : w.links[i]? = some l)
    (h : Listened T H w i l r v) : Sound T H w r v := by
  obtain ⟨⟨m, passed, outgoing, breaks⟩, problem⟩ := h
  have behaviour : m.behaviour = l.behaviour := by
    simp only [Link.outgoing, Link.mk.injEq] at outgoing
    exact outgoing.1
  have met := (tame.links i l there).behaviour
  refine ⟨?_, by simp [passed.links], passed.deadline, passed.later, problem⟩
  have known : m.Tame T := ⟨behaviour ▸ met, breaks.pending, breaks.broken⟩
  have kept := (Sound.set (a := ()) (H := H) tame i known).world
  exact ⟨passed.network ▸ tame.network, passed.links ▸ kept.links⟩

theorem sound_readUpTo (native : Native T H) (h : w.Tame T) (bound : i < w.links.size)
    (bounded : w.deadline.isSome) (count : Int) : Ends (readUpTo i count) w (Sound T H w) := by
  obtain ⟨l, there, known⟩ := tame_there h bound
  exact (listened_readUpTo native ⟨there, known.breaksIn, bounded⟩ count).mono fun _ _ =>
    Listened.sound h there

theorem schedule_breaks {start : Rat} {arrivals : List (Rat × Arrival)}
    (known : ∀ wait p, (wait, .broken p) ∈ arrivals → T p) :
    ∀ t p, (t, .broken p) ∈ schedule start arrivals → T p := by
  induction arrivals generalizing start with
  | nil => simp [schedule]
  | cons e rest ih =>
      intro t p member
      rw [schedule] at member
      obtain same | later := List.mem_cons.1 member
      · exact known e.1 p (by rw [(Prod.mk.inj same).2]; exact List.mem_cons_self)
      · exact ih (fun wait p member => known wait p (List.mem_cons_of_mem _ member)) t p later

theorem sound_establish {b : Behaviour} (h : w.Tame T) (known : b.Tame T) :
    Ends (establish b) w (Sound T H w) := by
  simp only [establish, ends_bind, ends_get, ends_set, ends_pure]
  refine ⟨⟨h.network, fun i l there => ?_⟩, by simp, rfl, Rat.le_refl, by simp⟩
  rw [Array.getElem?_push] at there
  split at there
  · cases there
    exact ⟨known, schedule_breaks known.reads, by simp⟩
  · exact h.links i l there

theorem sound_dial (native : Native T H) (tame : w.Tame T) (address : DialAddress)
    (localAddress : Option DialAddress) :
    Ends (dial address localAddress) w (Sound T H w) := by
  simp only [dial]
  rw [ends_bind, ends_get]
  have noted : Sound T H w (.ok ())
      { w with dials := w.dials ++ [Dial.mk address localAddress] } :=
    ⟨⟨tame.network, tame.links⟩, Nat.le_refl _, rfl, Rat.le_refl, by simp⟩
  refine Sound.bind noted fun _ v h => ?_
  apply Sound.bind (sound_sleep h.world _)
  intro _ u h
  split
  · next p problem => exact .error h.world (.inl (native.raised p ((tame.network _ _).dials p problem)))
  · exact sound_establish h.world (tame.network _ _)

end Net

end ContentTracker
