import ContentTracker.Endpoint
import ContentTracker.Proofs.Connection.Stream

/-! What dialing leaves behind. Every connection that was made and not handed out has been closed,
and one is handed out only if the other side presented the right protocol and the right node id. -/

namespace ContentTracker

open Net World

/-- The hello of a node, without the check of the protocol tag. -/
def greetingOf (protocol : Octets) (node : PeerId) : Octets :=
  UInt8.ofNat protocol.length :: (protocol ++ node.key.octets)

/-- A connection that was closed before its greeting came to an end. -/
def Link.GivenUp (greeting : Octets) (l : Link) : Prop :=
  ∃ cs, cs <+: Connection.sending greeting ∧ l.said = cs ++ [.close]

/-- A connection on which this side said nothing but its greeting, and the other side answered. -/
structure Link.Greeted (greeting answer : Octets) (l : Link) : Prop where
  outgoing : l.outgoing =
    ((Link.silent l.behaviour).saying (Connection.sending greeting)).outgoing
  answered : l.behaviour.sent = answer ++ l.unread

/-- Dialing ended: what it made is given up, but for the connection that it hands out. -/
def Dialed (w : World) (greeting answer : Octets) (r : Except Problem Connection) (v : World) :
    Prop :=
  v.network = w.network ∧ ∃ failed : Array Link, (∀ l ∈ failed, l.GivenUp greeting) ∧
    match r with
    | .ok c => c.number = (w.links ++ failed).size ∧
        ∃ l, v.links = (w.links ++ failed).push l ∧ l.Greeted greeting answer
    | .error _ => v.links = w.links ++ failed

theorem World.Swaps.push {v u : World} {l m : Link} {ls : Array Link}
    (made : v.links = ls.push l) (h : v.Swaps ls.size m u) : u.links = ls.push m := by
  rw [h.links, made]
  simp [Array.setIfInBounds, Array.set_push]

theorem links_push {v : World} {l : Link} {ls : Array Link} (made : v.links = ls.push l) :
    v.links[ls.size]? = some l := by
  rw [made, Array.getElem?_push_size]

theorem Link.outgoing_silent (m : Link) {b : Behaviour} {cs : List WriterCall}
    (h : m.outgoing = ((Link.silent b).saying cs).outgoing) :
    m.behaviour = b ∧ m.outgoing = ((Link.silent m.behaviour).saying cs).outgoing := by
  have met : m.behaviour = b := by
    simp only [Link.outgoing, Link.mk.injEq] at h
    exact h.1
  exact ⟨met, by rw [met]; exact h⟩

theorem Link.Greeted.unfinished {greeting answer : Octets} {l : Link}
    (h : l.Greeted greeting answer) :
    l.sendFinished = false := by
  have same := h.outgoing
  simp only [Link.outgoing, Link.mk.injEq] at same
  exact same.2.2.2.2.2.2.2.1

theorem Link.Greeted.usable {greeting answer : Octets} {l : Link} (h : l.Greeted greeting answer) :
    l.closed = false := by
  have same := h.outgoing
  simp only [Link.outgoing, Link.mk.injEq] at same
  exact same.2.2.2.2.2.2.2.2

theorem Link.Greeted.said {greeting answer : Octets} {l : Link} (h : l.Greeted greeting answer) :
    l.said = Connection.sending greeting :=
  Link.said_of_outgoing h.outgoing

theorem Dialed.nothing {w : World} {greeting answer : Octets} {p : Problem} :
    Dialed w greeting answer (.error p) w :=
  ⟨rfl, #[], by simp, by simp⟩

theorem Dialed.trans {w v u : World} {greeting answer : Octets} {p : Problem}
    {r : Except Problem Connection} (first : Dialed w greeting answer (.error p) v)
    (later : Dialed v greeting answer r u) : Dialed w greeting answer r u := by
  obtain ⟨network, failed, givenUp, links⟩ := first
  obtain ⟨network', failed', givenUp', links'⟩ := later
  refine ⟨network'.trans network, failed ++ failed', ?_, ?_⟩
  · intro l member
    rcases Array.mem_append.1 member with h | h
    · exact givenUp l h
    · exact givenUp' l h
  · dsimp only at links
    cases r with
    | ok c => simpa only [links, Array.append_assoc] using links'
    | error q => simpa only [links, Array.append_assoc] using links'

namespace Endpoint

variable {w : World} {i : Nat} {l : Link}

theorem toNat_eq_head {bs : Octets} (size : bs.length = 1) :
    bs = [UInt8.ofNat (Octets.toNat bs)] := by
  obtain ⟨b, rfl⟩ := List.length_eq_one_iff.1 size
  simp [Octets.toNat]

/-- The octets that a hello was read from are the hello that the other side meant. -/
theorem ends_readHello (there : w.links[i]? = some l) :
    Ends (readHello i) w fun r v => ∃ m, w.Swaps i m v ∧ m.outgoing = l.outgoing ∧
      ∀ protocol remote, r = .ok (protocol, remote) →
        l.unread = greetingOf protocol remote ++ m.unread := by
  apply Ends.bind (ends_readExactly there 1)
  · intro first v h
    obtain ⟨⟨m, swapped, outgoing, given⟩, size⟩ := h
    apply Ends.bind (ends_readExactly (swapped.there there) _)
    · intro protocol u h
      obtain ⟨⟨n, swapped', outgoing', given'⟩, size'⟩ := h
      have sofar := swapped.trans swapped'
      apply Ends.bind (ends_readExactly (sofar.there there) _)
      · intro key t h
        obtain ⟨⟨k, swapped'', outgoing'', given''⟩, size''⟩ := h
        have keySize := size'' key rfl
        have tagSize := size' protocol rfl
        have heard := ((given first rfl).trans (given' protocol rfl)).trans (given'' key rfl)
        simp only [PeerId.ofOctets, Digest.ofOctets?, dif_pos keySize, ends_pure]
        refine ⟨k, sofar.trans swapped'', heard.outgoing, ?_⟩
        rintro _ _ ⟨⟩
        rw [heard.unread, toNat_eq_head (size first rfl), ← tagSize]
        simp [greetingOf]
      · rintro p t ⟨⟨k, swapped'', outgoing'', _⟩, _⟩
        exact ⟨k, sofar.trans swapped'', outgoing''.trans (outgoing'.trans outgoing), by simp⟩
    · rintro p u ⟨⟨n, swapped', outgoing', _⟩, _⟩
      exact ⟨n, swapped.trans swapped', outgoing'.trans outgoing, by simp⟩
  · rintro p v ⟨⟨m, swapped, outgoing, _⟩, _⟩
    exact ⟨m, swapped, outgoing, by simp⟩

/-- Greeting makes its writer calls one after another, and all of them before it succeeds. -/
theorem ends_greet (there : w.links[i]? = some l) (peer : PeerId) (protocol greeting : Octets) :
    Ends (greet i peer protocol greeting) w fun r v => ∃ m cs, w.Swaps i m v ∧
      m.outgoing = (l.saying cs).outgoing ∧ cs <+: Connection.sending greeting ∧
      ∀ remote, r = .ok remote → remote = peer ∧ cs = Connection.sending greeting ∧
        l.unread = greetingOf protocol peer ++ m.unread := by
  apply Ends.bind (ends_call there _)
  · intro _ v said
    refine (ends_call (said.there there) _).bind (fun _ u drained => ?_) ?_
    · have sent := said.trans drained
      rw [Link.saying_saying] at sent
      apply Ends.bind (ends_readHello (sent.there there))
      · intro hello t h
        obtain ⟨m, swapped, outgoing, given⟩ := h
        have all := sent.trans swapped
        obtain ⟨theirs, remote⟩ := hello
        have unmet (p : Problem) : ∃ m' cs, w.Swaps i m' t ∧ m'.outgoing = (l.saying cs).outgoing ∧
            cs <+: Connection.sending greeting ∧ ∀ r, (.error p : Except Problem PeerId) = .ok r →
              r = peer ∧ cs = Connection.sending greeting ∧
                l.unread = greetingOf protocol peer ++ m'.unread :=
          ⟨m, _, all, outgoing, List.prefix_rfl, by simp⟩
        dsimp only
        split
        · exact unmet _
        · next sameProtocol =>
          split
          · exact unmet _
          · next sameNode =>
            obtain rfl := Classical.not_not.1 sameProtocol
            obtain rfl := Classical.not_not.1 sameNode
            refine ⟨m, _, all, outgoing, List.prefix_rfl, ?_⟩
            rintro _ ⟨⟩
            exact ⟨rfl, rfl, given _ _ rfl⟩
      · rintro p t ⟨m, swapped, outgoing, _⟩
        exact ⟨m, _, sent.trans swapped, outgoing, List.prefix_rfl, by simp⟩
    · intro p u drained
      have sent := said.trans drained
      rw [Link.saying_saying] at sent
      exact ⟨_, _, sent, rfl, List.prefix_rfl, by simp⟩
  · intro p v said
    exact ⟨_, _, said, rfl, by simp [Connection.sending], by simp⟩

/-- An attempt at an address ended: the dial was noted, and the connection that it made, if any, is
handed out or given up. -/
def Attempted (e : Endpoint) (peer : PeerId) (protocol greeting : Octets) (a : DialAddress)
    (w : World) (r : Except Problem Connection) (v : World) : Prop :=
  v.network = w.network ∧ v.dials = w.dials ++ [⟨a, e.localAddress a⟩] ∧
    match r with
    | .ok c => c = ⟨w.links.size, peer, protocol, e.readTimeout⟩ ∧
        ∃ l, v.links = w.links.push l ∧ l.behaviour = w.met a ∧
          l.Greeted greeting (greetingOf protocol peer)
    | .error _ => v.links = w.links ∨
        ∃ l, v.links = w.links.push l ∧ l.behaviour = w.met a ∧ l.GivenUp greeting

theorem Attempted.dialed {e : Endpoint} {peer : PeerId} {protocol greeting : Octets}
    {a : DialAddress} {r : Except Problem Connection} {v : World}
    (h : e.Attempted peer protocol greeting a w r v) :
    Dialed w greeting (greetingOf protocol peer) r v := by
  obtain ⟨network, _, links⟩ := h
  cases r with
  | ok c =>
      obtain ⟨rfl, l, links, _, greeted⟩ := links
      exact ⟨network, #[], by simp, by simp, l, by simpa using links, greeted⟩
  | error p =>
      obtain links | ⟨l, links, _, givenUp⟩ := links
      · exact ⟨network, #[], by simp, by simpa using links⟩
      · exact ⟨network, #[l], by simpa using givenUp, by simpa using links⟩

theorem ends_dialOne (e : Endpoint) (peer : PeerId) (a : DialAddress) (protocol greeting : Octets)
    (w : World) : Ends (e.dialOne peer a protocol greeting) w
      (e.Attempted peer protocol greeting a w) := by
  apply Ends.bind (ends_dial a _ w)
  · intro i v h
    obtain ⟨network, dials, rfl, l, made, fresh, unread⟩ := h
    have there := links_push made
    simp only [ends_bind, ends_outcome]
    apply Ends.mono (ends_greet there peer protocol greeting)
    intro r u h
    obtain ⟨m, cs, swapped, outgoing, begun, answered⟩ := h
    have met := m.outgoing_silent (b := w.met a) (outgoing.trans (Link.outgoing_saying fresh cs))
    cases r with
    | ok remote =>
        obtain ⟨rfl, rfl, heard⟩ := answered remote rfl
        refine ⟨swapped.network.trans network, swapped.dials.trans dials, rfl, m,
          swapped.push made, met.1, met.2, ?_⟩
        rw [met.1, ← unread, heard]
    | error p =>
        have closing (t : World) (closed : u.Swaps w.links.size (m.saying [.close]) t)
            (q : Problem) : e.Attempted peer protocol greeting a w (.error q) t := by
          have all := swapped.trans closed
          refine ⟨all.network.trans network, all.dials.trans dials,
            .inr ⟨m.saying [.close], all.push made, met.1, cs, begun, ?_⟩⟩
          rw [Link.said_saying, Link.said_of_outgoing met.2]
          simp [Link.said, Link.saying, Link.silent]
        exact (ends_call (swapped.there there) .close).bind (fun _ t h => closing t h p)
          fun q t h => closing t h q
  · rintro p v ⟨network, dials, links⟩
    exact ⟨network, dials, .inl links⟩

/-- A time limit on dialing changes nothing about what is left behind. -/
theorem ends_within_dialed {seconds : Rat} {op : Net Connection} {greeting answer : Octets}
    (dialing : ∀ d, Ends op { w with deadline := d }
      (Dialed { w with deadline := d } greeting answer)) :
    Ends (within seconds op) w (Dialed w greeting answer) := by
  refine ends_within (fun _ p => Dialed.nothing) fun d => (dialing d).mono fun r v h => ?_
  cases r with
  | ok c => exact h
  | error p => exact fun q => h

/-- However many addresses were tried before, each of them left only connections that are closed. -/
theorem ends_tryAddresses (e : Endpoint) (peer : PeerId) (protocol greeting : Octets)
    (addresses : List DialAddress) (errors : Table) (w : World) :
    Ends (e.tryAddresses peer protocol greeting addresses errors) w
      (Dialed w greeting (greetingOf protocol peer)) := by
  induction addresses generalizing errors w with
  | nil =>
      rw [tryAddresses, ends_throw]
      exact .nothing
  | cons a rest ih =>
      have dialing : Ends (within e.connectTimeout.seconds (e.dialOne peer a protocol greeting)) w
          (Dialed w greeting (greetingOf protocol peer)) :=
        ends_within_dialed fun d =>
          (e.ends_dialOne peer a protocol greeting _).mono fun _ _ h => h.dialed
      rw [tryAddresses, ends_bind, ends_outcome]
      apply Ends.mono dialing
      intro r v h
      cases r with
      | ok c => exact h
      | error p =>
          dsimp only
          split
          · exact h
          · exact (ih _ _).mono fun r u later => Dialed.trans h later

theorem hello_eq_ok {protocol greeting : Octets} {node : PeerId}
    (h : hello protocol node = .ok greeting) :
    0 < protocol.length ∧ protocol.length ≤ 255 ∧ greeting = greetingOf protocol node := by
  unfold hello at h
  split at h
  · cases h
  · next fits =>
    cases h
    rw [Bool.or_eq_true, not_or, decide_eq_true_eq] at fits
    exact ⟨List.length_pos_iff.2 (by simpa using fits.1), by omega, rfl⟩

theorem hello_of_length {protocol : Octets}
    (fits : 1 ≤ protocol.length ∧ protocol.length ≤ 255) (node : PeerId) :
    hello protocol node = .ok (greetingOf protocol node) := by
  have some : protocol.isEmpty = false := by
    cases protocol with
    | nil => simp at fits
    | cons b bs => rfl
  rw [hello, if_neg]
  · rfl
  · simpa [some] using fits.2

theorem hello_of_hello {protocol greeting : Octets} {node : PeerId}
    (h : hello protocol node = .ok greeting) (other : PeerId) :
    hello protocol other = .ok (greetingOf protocol other) := by
  obtain ⟨some, short, _⟩ := hello_eq_ok h
  exact hello_of_length ⟨some, short⟩ other

/-- Connecting ended: with a protocol tag that cannot be presented nothing was dialed. -/
def Connects (e : Endpoint) (peer : PeerId) (protocol : Octets) (w : World)
    (r : Except Problem Connection) (v : World) : Prop :=
  match hello protocol e.node with
  | .error p => r = .error p ∧ w.Idles v
  | .ok greeting => Dialed w greeting (greetingOf protocol peer) r v

theorem Connects.after {e : Endpoint} {peer : PeerId} {protocol : Octets} {w u v : World}
    {r : Except Problem Connection} (idle : w.Idles u) (h : e.Connects peer protocol u r v) :
    e.Connects peer protocol w r v := by
  unfold Connects at h ⊢
  cases greets : hello protocol e.node with
  | error p =>
      rw [greets] at h
      exact ⟨h.1, idle.trans h.2⟩
  | ok greeting =>
      rw [greets] at h
      exact Dialed.trans (p := .cancelled) ⟨idle.network, #[], by simp, by simpa using idle.links⟩ h

theorem ends_connect (e : Endpoint) (peer : PeerId) (protocol : Octets) (w : World) :
    Ends (e.connect peer protocol) w (e.Connects peer protocol w) := by
  rw [connect, ends_bind, ends_ofExcept]
  unfold Connects
  cases hello protocol e.node with
  | error p => exact ⟨rfl, .refl w⟩
  | ok greeting =>
      dsimp only
      split
      · rw [ends_throw]
        exact .nothing
      · exact e.ends_tryAddresses peer protocol greeting _ [] w

end Endpoint

end ContentTracker
