import ContentTracker.Proofs.Connection.Closing
import ContentTracker.Proofs.Endpoint.Problems

/-! Closing what was accepted. Whatever the other side does and however the handler ends, the closing
call is made once on every connection from outside, with two exceptions: a handshake that ends in a
problem which is not expected there, and a hello that cannot be written. Those connections are
never closed. -/

namespace ContentTracker

open Net World

namespace Endpoint

variable {e : Endpoint} {protocol greeting : Octets} {b : Behaviour} {w : World} {l : Link}

/-- The accepting side of a handshake: it waits for the hello of a side that behaves in a given way. -/
def awaitHello (e : Endpoint) (b : Behaviour) : Net (Octets × PeerId) := do
  let i ← establish b
  within e.connectTimeout.seconds (readHello i)

/-- The other side presents the protocol in time. -/
def Presents (e : Endpoint) (protocol : Octets) (b : Behaviour) (w : World) : Prop :=
  Ends (e.awaitHello b) w fun r _ => ∃ remote, r = .ok (protocol, remote)

/-- The connection gets lost: waiting for the hello ends in a problem that is not foreseen, or the
hello is the right one and the answer to it cannot be written. -/
def Loses (e : Endpoint) (protocol : Octets) (b : Behaviour) (w : World) : Prop :=
  Ends (e.awaitHello b) w fun r _ =>
    match r with
    | .error p => handshakeFault? p = none
    | .ok (theirs, _) => theirs = protocol ∧ (b.fails .write 1).isSome

/-- The first write on a connection fails if the other side makes it fail. -/
theorem ends_write_first {i : Nat} (there : w.links[i]? = some l) (silent : l.calls = [])
    (bs : Octets) : Ends (call i (.write bs)) w fun r v => w.Swaps i (l.saying [.write bs]) v ∧
      ((∃ p, r = .error p) ↔ (l.behaviour.fails .write 1).isSome) := by
  apply Ends.mono (ends_call_allowed there (.write bs) fun drain => by cases drain)
  rintro r v ⟨decided, said, _⟩
  refine ⟨said.toSwaps, ?_⟩
  rw [silent] at decided
  subst decided
  cases fault : l.behaviour.fails .write 1 <;> simp [WriterCall.kind, fault]

/-- Once the hello is written, everything ends with closing. -/
theorem ends_serve {c : Connection} {handler : Connection → Net Unit} (uses : c.Uses (handler c))
    (there : w.links[c.number]? = some l) (silent : l.calls = []) (usable : l.closed = false) :
    Ends (serve greeting c.number c handler) w fun _ v =>
      v.Closed c.number l.behaviour (if (l.behaviour.fails .write 1).isSome then 0 else 1) := by
  have unclosed : (l.saying [.write greeting]).closings = 0 := by
    rw [Link.closings_saying, Link.closings_of_silent silent]
    rfl
  rw [serve]
  apply Ends.bind (ends_write_first there silent greeting)
  · rintro _ v ⟨said, failed⟩
    have written : ¬ (l.behaviour.fails .write 1).isSome := fun fails => by
      simpa using failed.2 fails
    rw [if_neg written]
    -- The handler ends in one of three ways, and closing is what follows in all of them.
    have closing {u : World} (kept : Connection.Kept l.behaviour c.number u) :
        Ends c.close u fun _ t => t.Closed c.number l.behaviour 1 :=
      (Connection.kept_close kept).mono fun _ _ closed => closed.2
    have orderly : (l.saying [.write greeting]).Orderly l.behaviour :=
      ⟨rfl, unclosed.trans (if_neg (by simp [Link.saying, usable])).symm⟩
    have handling : Ends (do call c.number .drain; handler c) v fun _ u =>
        Connection.Kept l.behaviour c.number u :=
      Ends.bind (Connection.kept_call ⟨_, said.there there, orderly⟩ (by simp))
        (fun _ _ kept => uses.keeps kept) fun _ _ kept => kept
    rw [ends_bind, ends_outcome]
    apply Ends.mono handling
    intro r u kept
    dsimp only
    split
    · exact closing kept
    · exact Ends.bind (closing kept) (fun _ _ h => h) fun _ _ h => h
    · exact closing kept
  · rintro p v ⟨said, failed⟩
    rw [if_pos (failed.1 ⟨p, rfl⟩)]
    exact ⟨_, said.there there, rfl, unclosed⟩

/-- The world in which a connection from outside has just been made. -/
def arrived (b : Behaviour) (w : World) : World :=
  { w with links := w.links.push (.opened b w.now) }

theorem ends_establish {Q : Except Problem Nat → World → Prop} :
    Ends (establish b) w Q ↔ Q (.ok w.links.size) (arrived b w) := Iff.rfl

theorem ends_awaitHello_iff {Q : Except Problem (Octets × PeerId) → World → Prop} :
    Ends (e.awaitHello b) w Q ↔
      Ends (within e.connectTimeout.seconds (readHello w.links.size)) (arrived b w) Q := Iff.rfl

theorem arrived_there (b : Behaviour) (w : World) :
    (arrived b w).links[w.links.size]? = some (.opened b w.now) :=
  links_push rfl

/-- Waiting for the hello leaves the new connection there, and nothing was said on it. -/
theorem ends_awaitHello (e : Endpoint) (b : Behaviour) (w : World) :
    Ends (e.awaitHello b) w fun _ v => ∃ l, v.links[w.links.size]? = some l ∧
      l.outgoing = .silent b := by
  rw [ends_awaitHello_iff]
  refine ends_within (fun _ _ => ⟨_, arrived_there b w, rfl⟩) fun d => ?_
  apply Ends.mono (ends_readHello (w := { arrived b w with deadline := d }) (arrived_there b w))
  rintro r v ⟨m, read, outgoing, _⟩
  have here := read.there (arrived_there b w)
  cases r with
  | ok hello => exact ⟨m, here, outgoing⟩
  | error p => exact fun _ => ⟨m, here, outgoing⟩

theorem native_handshakeFault : Native (fun p => (handshakeFault? p).isSome)
    fun p => (handshakeFault? p).isSome where
  raised _ h := h
  incomplete _ _ := rfl
  timeout := rfl

/-- Where nobody outside sets a deadline and reading raises only what connections are dropped for,
waiting for the hello ends in nothing else. -/
theorem ends_awaitHello_foreseen (free : w.deadline = none)
    (foreseen : ∀ wait p, (wait, .broken p) ∈ b.arrivals → (handshakeFault? p).isSome) :
    Ends (e.awaitHello b) w fun r _ => ∀ p, r = .error p → (handshakeFault? p).isSome := by
  have breaks : (Link.opened b w.now).BreaksIn fun p => (handshakeFault? p).isSome :=
    ⟨schedule_breaks foreseen, by simp [Link.opened]⟩
  rw [ends_awaitHello_iff]
  refine Ends.mono (within_known native_handshakeFault (Q := fun _ => True) trivial fun d => ?_)
    fun r v h p ended => (h.2.2 p ended).raised (h.2.1.trans free)
  have reader : Listener (fun p => (handshakeFault? p).isSome)
      { arrived b w with deadline := some d } w.links.size (.opened b w.now) :=
    ⟨arrived_there b w, breaks, rfl⟩
  apply Ends.mono (listened_readHello native_handshakeFault reader)
  rintro r v ⟨⟨m, read, _⟩, problem⟩
  exact ⟨trivial, read.deadline, problem⟩

theorem ends_accept (e : Endpoint) {handler : Connection → Net Unit}
    (uses : ∀ c : Connection, c.Uses (handler c)) (protocol greeting : Octets) (b : Behaviour)
    (w : World) : Ends (e.accept protocol greeting handler b) w fun _ v =>
      (e.Loses protocol b w → v.Closed w.links.size b 0) ∧
        (¬ e.Loses protocol b w → v.Closed w.links.size b 1) := by
  rw [accept, ends_bind, ends_establish]
  dsimp only
  rw [ends_bind, ends_outcome, ← ends_awaitHello_iff]
  refine Ends.exactly (ends_awaitHello e b w) fun r v heard only => ?_
  have lost : e.Loses protocol b w ↔ _ := only _
  rw [lost]
  obtain ⟨l, there, silent⟩ := heard
  simp only [Link.outgoing, Link.silent, Link.mk.injEq] at silent
  obtain ⟨rfl, _, _, _, _, calls, _, _, usable⟩ := silent
  have unclosed := Link.closings_of_silent calls
  have dropping (text : String) :
      Ends (do log .debug loggerName text; call w.links.size .close) v fun _ u =>
        u.Closed w.links.size l.behaviour 1 := by
    apply Ends.next (log_waits _ _ _ v)
    intro u waited
    have here : u.links[w.links.size]? = some l := by rwa [waited.links]
    apply Ends.mono (ends_call here .close)
    intro r t said
    exact ⟨_, said.there here, rfl, by rw [Link.closings_saying, unclosed]; rfl⟩
  cases r with
  | error p =>
      dsimp only
      cases handshakeFault? p with
      | none => exact ⟨fun _ => ⟨l, there, rfl, unclosed⟩, fun h => absurd rfl h⟩
      | some reason => exact (dropping _).mono fun _ _ once => ⟨by simp, fun _ => once⟩
  | ok hello =>
      obtain ⟨theirs, remote⟩ := hello
      dsimp only
      split
      · next other =>
        exact (dropping _).mono fun _ _ once => ⟨fun h => absurd h.1 other, fun _ => once⟩
      · next same =>
        let c : Connection := ⟨w.links.size, remote, protocol, e.readTimeout⟩
        have served : Ends (serve greeting c.number c handler) v _ :=
          ends_serve (uses c) there calls usable
        apply Ends.mono served
        intro r t closed
        refine ⟨fun h => ?_, fun h => ?_⟩
        · rwa [if_pos h.2] at closed
        · rwa [if_neg fun fails => h ⟨Classical.not_not.1 same, fails⟩] at closed

theorem loses_iff (free : w.deadline = none)
    (foreseen : ∀ wait p, (wait, .broken p) ∈ b.arrivals → (handshakeFault? p).isSome) :
    e.Loses protocol b w ↔ e.Presents protocol b w ∧ (b.fails .write 1).isSome := by
  have known := ends_awaitHello_foreseen (e := e) free foreseen
  refine ends_const.1 (Ends.exactly known fun r v known only => ?_)
  rw [show e.Loses protocol b w ↔ _ from only _, show e.Presents protocol b w ↔ _ from only _]
  cases r with
  | error p =>
      refine iff_of_false (fun none => ?_) (by simp)
      have dropped := known p rfl
      rw [none] at dropped
      cases dropped
  | ok hello => simp [Prod.ext_iff]

/-- A connection that is accepted is closed once by the time its handling is over, or it gets lost and
is never closed. If nobody outside sets a deadline and reading raises only what connections are
dropped for, those get lost whose hello is right and where the answer to it cannot be written. -/
theorem accept_closings (e : Endpoint) (protocol greeting : Octets)
    (handler : Connection → Net Unit) (uses : ∀ c : Connection, c.Uses (handler c)) (b : Behaviour)
    (w : World) :
    Ends (e.accept protocol greeting handler b) w (fun _ v =>
      (e.Loses protocol b w → v.Closed w.links.size b 0) ∧
        (¬ e.Loses protocol b w → v.Closed w.links.size b 1)) ∧
    (w.deadline = none →
      (∀ wait p, (wait, .broken p) ∈ b.arrivals → (handshakeFault? p).isSome) →
      (e.Loses protocol b w ↔ e.Presents protocol b w ∧ (b.fails .write 1).isSome)) :=
  ⟨e.ends_accept uses protocol greeting b w, loses_iff⟩

/-! A side that presents the right protocol, and to which something can be written or not. -/

def host : Endpoint where
  node := ⟨⟨List.replicate 32 200, rfl⟩⟩
  connectTimeout := .whole 10

def visiting (writable : Bool) : Behaviour where
  arrivals := [(1, .data ([2, 110, 48] ++ List.replicate 32 81)), (1, .endOfStream)]
  fails kind _ := if kind = .write ∧ writable = false then some (.system .general "disk") else none

def before : World := { network := .unreachable }

theorem presents_visiting : host.Presents [110, 48] (visiting false) before := by
  have heard : (match host.awaitHello (visiting false) before with
      | .ok hello _ => decide (hello.1 = [110, 48])
      | .error _ _ => false) = true := by decide +kernel
  unfold Presents Ends
  cases ended : host.awaitHello (visiting false) before with
  | ok hello v =>
      rw [ended] at heard
      exact ⟨hello.2, congrArg Except.ok (Prod.ext (of_decide_eq_true heard) rfl)⟩
  | error p v =>
      rw [ended] at heard
      cases heard

theorem accept_closings_visiting :
    Ends (host.accept [110, 48] (greetingOf [110, 48] host.node) (Service.answer 16384 .ok)
      (visiting true)) before (fun _ v => v.Closed 0 (visiting true) 1) ∧
    Ends (host.accept [110, 48] (greetingOf [110, 48] host.node) (Service.answer 16384 .ok)
      (visiting false)) before (fun _ v => v.Closed 0 (visiting false) 0) := by
  have uses := Service.uses_answer 16384 .ok
  refine ⟨?_, ?_⟩
  · obtain ⟨closes, lost⟩ := accept_closings host [110, 48] (greetingOf [110, 48] host.node) _ uses
      (visiting true) before
    have kept : ¬ host.Loses [110, 48] (visiting true) before := by
      rw [lost rfl (by simp [visiting])]
      simp [visiting]
    exact closes.mono fun _ _ closed => closed.2 kept
  · obtain ⟨closes, lost⟩ := accept_closings host [110, 48] (greetingOf [110, 48] host.node) _ uses
      (visiting false) before
    have loses := (lost rfl (by simp [visiting])).2 ⟨presents_visiting, rfl⟩
    exact closes.mono fun _ _ closed => closed.1 loses

end Endpoint

end ContentTracker
