import ContentTracker.Proofs.Connection.Reply
import ContentTracker.Proofs.Endpoint.Answered
import ContentTracker.Proofs.Exchange.Phases

/-! Exchanges with a tracker that answers in time. The octets of the reply decide their end. -/

namespace ContentTracker.Exchange

open Net World Connection

variable {α : Type} {x : Exchange} {s : Progress} {c : Connection} {l : Link}

/-- What is made of a reply: nothing if it is too long, and else what the decoder makes of it. -/
def verdict (limit : Int) (decode : Octets → Except Problem α) (reply : Octets) :
    Except Problem α :=
  if limit < reply.length then .error (oversized limit) else decode reply

/-- A decoder whose problems are failures of the tracker family. -/
def Frank (decode : Octets → Except Problem α) : Prop :=
  ∀ bs p, decode bs = .error p → ∃ f, p = .failure f

theorem verdict_failure {limit : Int} {decode : Octets → Except Problem α} (frank : Frank decode)
    {reply : Octets} {p : Problem} (h : verdict limit decode reply = .error p) :
    ∃ f, p = .failure f := by
  unfold verdict at h
  split at h
  · cases h
    exact ⟨_, rfl⟩
  · exact frank _ _ h

theorem ends_enter_waits (x : Exchange) (phase : Phase) (s : Progress) :
    Ends (x.enter phase) s fun r t => r = .ok () ∧ s.world.Waits t.world :=
  ⟨rfl, ⟨rfl, rfl, rfl⟩, Rat.le_refl, rfl⟩

/-- Failures of the tracker family stay what they are. -/
theorem ends_settling_frank {part : Step α} {connected : Bool} {result : Except Problem α}
    {P : Progress → Prop} (frank : ∀ p, result = .error p → ∃ f, p = .failure f)
    (h : Ends part s fun r t => r = result ∧ P t) :
    Ends (x.settling connected part) s fun r t => r = result ∧
      ∃ u, P u ∧ u.world.Waits t.world := by
  rw [settling, ends_bind, ends_outcome]
  apply Ends.mono h
  intro r u h
  obtain ⟨rfl, known⟩ := h
  cases r with
  | ok a => exact ⟨rfl, u, known, .refl _⟩
  | error p =>
      obtain ⟨f, rfl⟩ := frank p rfl
      exact ⟨rfl, u, known, ⟨⟨rfl, rfl, rfl⟩, Rat.le_refl, rfl⟩⟩

/-- The writer calls of an exchange on a connection that has been greeted, before it is closed. -/
def spoken (payload : Octets) (canHalfClose : Bool) : List WriterCall :=
  sending payload ++ finishing canHalfClose

theorem ends_converse_answered (payload : Octets) {reply : Octets}
    {decode : Octets → Except Problem α} {greeting : Octets} {b : Behaviour}
    (there : s.world.links[c.number]? = some l)
    (fresh : l.outgoing = ((Link.silent b).saying (sending greeting)).outgoing)
    (working : ∀ kind n, b.fails kind n = none) (free : s.world.deadline = none)
    (brings : l.Brings c.readTimeout.seconds s.world.now reply)
    (timed : 0 < c.readTimeout.seconds) (room : 0 ≤ x.sizeLimit) :
    Ends (x.converse c payload decode) s fun r t =>
      r = verdict x.sizeLimit decode reply ∧ ∃ m, s.world.Passes c.number m t.world ∧
        m.behaviour = b ∧ m.closed = false ∧
        m.said = sending greeting ++ spoken payload b.canHalfClose := by
  have said := Link.said_of_outgoing fresh
  simp only [Link.outgoing, Link.saying, Link.silent, Link.mk.injEq] at fresh
  obtain ⟨rfl, _, _, _, _, _, unopened, unfinished, usable⟩ := fresh
  rw [converse]
  apply Ends.next (ends_during_of (ends_openStream_fresh there usable unopened))
  intro s₁ opened
  apply Ends.next (x.ends_enter_waits .streamOpen s₁)
  intro s₂ waited
  have at₂ := opened.trans (waited.passes (opened.there there))
  apply Ends.next (ends_during_of (ends_send_free (at₂.there there) unfinished working
    (at₂.deadline.trans free) payload))
  intro s₃ sent
  have at₃ := at₂.trans sent
  apply Ends.next (ends_during_of (ends_finish_free (at₃.there there) unfinished working
    (at₃.deadline.trans free)))
  intro s₄ finished
  have at₄ := at₃.trans finished
  apply Ends.next (x.ends_enter_waits .requestSent s₄)
  intro s₅ waited
  have at₅ := at₄.trans (waited.passes (at₄.there there))
  apply Ends.next (x.ends_enter_waits .awaitingResponse s₅)
  intro s₆ waited
  have at₆ := at₅.trans (waited.passes (at₅.there there))
  rw [ends_bind, ends_during]
  apply Ends.mono (ends_readToEnd_brings (at₆.there there) (at₆.deadline.trans free)
    (brings.congr at₆.later rfl rfl rfl rfl) timed room)
  intro r v h
  obtain ⟨rfl, m, read, outgoing⟩ := h
  have told := Link.said_of_outgoing outgoing
  simp only [Link.outgoing, Link.mk.injEq] at outgoing
  have left : ∃ m, s.world.Passes c.number m v ∧ m.behaviour = l.behaviour ∧
      m.closed = false ∧ m.said = sending greeting ++ spoken payload l.behaviour.canHalfClose := by
    refine ⟨m, at₆.trans read, outgoing.1, outgoing.2.2.2.2.2.2.2.2.trans usable, ?_⟩
    rw [told]
    have all := Link.said_saying l (spoken payload l.behaviour.canHalfClose)
    rw [said] at all
    simpa [Link.said, Link.saying, Link.silent, spoken] using all
  unfold verdict
  by_cases long : x.sizeLimit < reply.length
  · simp only [if_pos long]
    exact ⟨trivial, left⟩
  · simp only [if_neg long, ends_ofExcept]
    exact ⟨trivial, left⟩

/-- What an exchange leaves behind: its tracker was told one request and the end of it. -/
def Told (greeting payload : Octets) (w v : World) : Prop :=
  ∃ m, v.links = w.links.push m ∧
    m.said = [.write greeting, .drain, .write payload, .drain] ++
      (if m.behaviour.canHalfClose then [.writeEnd] else []) ++ [.drain, .close, .waitClosed]

theorem Told.amid {greeting payload : Octets} {w v u t : World} (h : Told greeting payload v u)
    (before : w.Waits v) (after : u.Waits t) : Told greeting payload w t := by
  obtain ⟨m, made, said⟩ := h
  exact ⟨m, by rw [after.links, made, before.links], said⟩

theorem ends_talk_answered (payload : Octets) {reply : Octets}
    {decode : Octets → Except Problem α} {greeting : Octets} {b : Behaviour}
    (there : s.world.links[c.number]? = some l)
    (fresh : l.outgoing = ((Link.silent b).saying (sending greeting)).outgoing)
    (working : ∀ kind n, b.fails kind n = none) (free : s.world.deadline = none)
    (brings : l.Brings c.readTimeout.seconds s.world.now reply)
    (timed : 0 < c.readTimeout.seconds) (room : 0 ≤ x.sizeLimit) (frank : Frank decode) :
    Ends (x.talk c payload decode) s fun r t =>
      r = verdict x.sizeLimit decode reply ∧ ∃ m, s.world.Swaps c.number m t.world ∧
        m.behaviour = b ∧
        m.said = sending greeting ++ spoken payload b.canHalfClose ++ [.close, .waitClosed] := by
  rw [talk, ends_bind, ends_outcome]
  apply Ends.mono (ends_settling_frank (fun p e => verdict_failure frank e)
    (x.ends_converse_answered payload there fresh working free brings timed room))
  intro r t h
  obtain ⟨rfl, u, ⟨m, passed, rfl, usable, said⟩, waited⟩ := h
  have before := passed.trans (waited.passes (passed.there there))
  dsimp only
  rw [ends_bind, ends_during]
  apply Ends.mono (ends_close_free (before.there there) usable working (before.deadline.trans free))
  intro r v h
  obtain ⟨rfl, closed⟩ := h
  have done := (before.trans closed).toSwaps
  have left {u : World} (waited : v.Waits u) : ∃ n, s.world.Swaps c.number n u ∧
      n.behaviour = m.behaviour ∧ n.said = sending greeting ++
        spoken payload m.behaviour.canHalfClose ++ [.close, .waitClosed] := by
    refine ⟨_, done.trans (waited.toIdles.swaps (done.there there)), rfl, ?_⟩
    rw [← said]
    exact Link.said_saying m _
  dsimp only
  rw [ends_bind, ends_ofExcept]
  cases verdict x.sizeLimit decode reply with
  | error p => exact ⟨rfl, left (.refl v)⟩
  | ok a =>
      apply Ends.next (x.ends_enter_waits .done _)
      intro t waited
      exact ⟨rfl, left waited⟩

theorem ends_reach_answered {m : Message} {a : DialAddress} {rest : List DialAddress}
    {payload greeting answer reply : Octets} (encoded : m.encodeRequest = .ok payload)
    (greets : Endpoint.hello x.protocol x.endpoint.node = .ok greeting)
    (known : x.endpoint.book.get x.tracker = a :: rest)
    (meant : Endpoint.hello x.protocol x.tracker = .ok answer)
    (answers : x.endpoint.Answers answer reply (s.world.met a)) (free : s.world.deadline = none) :
    Ends (x.reach m) s fun r t =>
      r = .ok (payload, ⟨s.world.links.size, x.tracker, x.protocol, x.endpoint.readTimeout⟩) ∧
      t.world.deadline = none ∧ ∃ l, t.world.links = s.world.links.push l ∧
        l.outgoing = ((Link.silent (s.world.met a)).saying (sending greeting)).outgoing ∧
        l.Brings x.endpoint.readTimeout.seconds t.world.now reply := by
  rw [reach, encoded, ends_bind, ends_ofExcept]
  dsimp only [Except.mapError]
  apply Ends.next (x.ends_enter_waits .connecting s)
  intro u waited
  have same := waited.met a
  apply Ends.next (ends_during_of (Endpoint.ends_connect_answered greets known meant (by rwa [same])
    (waited.deadline.trans free)))
  intro t h
  obtain ⟨deadline, l, made, outgoing, brings⟩ := h
  rw [waited.links] at made
  rw [same] at outgoing
  refine ⟨by rw [waited.links], ?_, l, made, outgoing, brings⟩
  exact deadline.trans (waited.deadline.trans free)

/-- A run that is answered tells its tracker the request, and only the reply decides how it ends. -/
theorem ends_run_answered {m : Message} {decode : Octets → Except Problem α} {a : DialAddress}
    {rest : List DialAddress} {payload greeting answer reply : Octets}
    (fresh : s.phase = .idle) (encoded : m.encodeRequest = .ok payload)
    (greets : Endpoint.hello x.protocol x.endpoint.node = .ok greeting)
    (known : x.endpoint.book.get x.tracker = a :: rest)
    (meant : Endpoint.hello x.protocol x.tracker = .ok answer)
    (answers : x.endpoint.Answers answer reply (s.world.met a)) (free : s.world.deadline = none)
    (room : 0 ≤ x.sizeLimit) (frank : Frank decode) :
    Ends (x.run m decode) s fun r t =>
      r = verdict x.sizeLimit decode reply ∧ Told greeting payload s.world t.world := by
  rw [run, ends_bind, ends_get]
  simp only [fresh, ne_eq, not_true_eq_false, if_false]
  apply Ends.next (ends_settling_frank (by simp)
    (ends_reach_answered encoded greets known meant answers free))
  intro t h
  obtain ⟨u, ⟨free', l, made, outgoing, brings⟩, waited⟩ := h
  have made' : t.world.links = s.world.links.push l := by rw [waited.links, made]
  apply Ends.mono (x.ends_talk_answered payload (links_push made') outgoing answers.working
    (waited.deadline.trans free') (brings.congr waited.later rfl rfl rfl rfl)
    answers.segmented.gap_pos room frank)
  intro r v h
  obtain ⟨result, n, swapped, behaviour, said⟩ := h
  refine ⟨result, n, swapped.push made', ?_⟩
  rw [said, behaviour]
  simp [spoken, sending, finishing]

end ContentTracker.Exchange
