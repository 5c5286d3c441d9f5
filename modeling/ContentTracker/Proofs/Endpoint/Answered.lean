import ContentTracker.Proofs.Endpoint.Dialing
import ContentTracker.Proofs.Network.Punctual

/-! Connecting to a node that answers in time. The greeting takes its own octets from what arrives
and leaves the rest, also where one segment brings both. -/

namespace ContentTracker

open Net World

variable {w : World} {i : Nat} {l : Link} {gap deadline : Rat}

theorem ends_dial_answered (address : DialAddress) (localAddress : Option DialAddress)
    (reachable : (w.met address).dialProblem = none)
    (allowed : w.Allows (w.now + (w.met address).delay)) :
    Ends (dial address localAddress) w fun r v => r = .ok w.links.size ∧
      v.network = w.network ∧ v.deadline = w.deadline ∧
      v.now = w.now + max 0 (w.met address).delay ∧
      v.links = w.links.push (.opened (w.met address) v.now) := by
  simp only [dial, ends_bind, ends_get, ends_set]
  apply Ends.mono (ends_sleep_allowed (by exact allowed))
  intro r v h
  obtain ⟨rfl, waited, now⟩ := h
  dsimp only
  split
  · next p absurd =>
    rw [show (w.network address _).dialProblem = none from reachable] at absurd
    cases absurd
  · simp only [establish, ends_bind, ends_get, ends_set, ends_pure]
    exact ⟨by rw [waited.links], waited.network, waited.deadline, now, by rw [waited.links]; rfl⟩

namespace Endpoint

/-- A side that can be dialed, answers a greeting in time, sends its reply without pause and fails
in nothing. -/
structure Answers (e : Endpoint) (answer reply : Octets) (b : Behaviour) : Prop where
  reachable : b.dialProblem = none
  working : ∀ kind n, b.fails kind n = none
  segmented : Segmented e.readTimeout.seconds (answer ++ reply) b.arrivals
  prompt : max 0 b.delay + max (max 0 (b.drainTime 1)) (secondsFor answer.length b.arrivals) <
    e.connectTimeout.seconds

theorem hello_parts {protocol greeting : Octets} {node : PeerId}
    (h : hello protocol node = .ok greeting) (reply : Octets) :
    0 < protocol.length ∧ greeting.length = 1 + protocol.length + 32 ∧
    (greeting ++ reply).take 1 = [UInt8.ofNat protocol.length] ∧
    Octets.toNat [UInt8.ofNat protocol.length] = protocol.length ∧
    (greeting ++ reply).drop 1 = protocol ++ (node.key.octets ++ reply) := by
  obtain ⟨positive, short, rfl⟩ := hello_eq_ok h
  refine ⟨positive, ?_, rfl, ?_, by simp [greetingOf]⟩
  · simp only [greetingOf, List.length_cons, List.length_append, node.key.length_octets]
    omega
  · have size := UInt8.toNat_ofNat_of_lt' (show protocol.length < 256 by omega)
    simpa [Octets.toNat] using size

/-- A hello that is due by the deadline is read, and what comes behind it is left. -/
theorem ends_readHello_due {protocol answer reply : Octets} {node : PeerId}
    (there : w.links[i]? = some l) (bounded : w.deadline = some deadline)
    (meant : hello protocol node = .ok answer)
    (brings : l.WillBring gap w.now (answer ++ reply)) (due : l.DueBy deadline answer.length) :
    Ends (readHello i) w fun r v => r = .ok (protocol, node) ∧ ∃ m, w.Passes i m v ∧
      m.outgoing = l.outgoing ∧ m.Brings gap v.now reply := by
  obtain ⟨positive, size, head, tagSize, tail⟩ := hello_parts meant reply
  have total : (answer ++ reply).length = 1 + (protocol ++ (node.key.octets ++ reply)).length := by
    rw [← tail, List.length_drop, List.length_append]
    omega
  rw [readHello]
  apply Ends.next (ends_readExactly_due there bounded brings (due.fewer (by omega)) (by omega)
    Nat.one_pos)
  intro v h
  obtain ⟨m, read, outgoing, brings', dues⟩ := h
  rw [tail] at brings'
  have here := read.there there
  rw [head, tagSize]
  apply Ends.next (ends_readExactly_due here (read.deadline.trans bounded) brings'.willBring
    ((dues _ due).fewer (by omega)) (by simp) positive)
  intro u h
  obtain ⟨n, read', outgoing', brings'', dues'⟩ := h
  rw [List.drop_left] at brings''
  have here' := read'.there here
  rw [List.take_left]
  apply Ends.next (ends_readExactly_due here' (read'.deadline.trans (read.deadline.trans bounded))
    brings''.willBring ((dues' _ (dues _ due)).fewer (by omega))
    (by rw [List.length_append, node.key.length_octets]; omega) (by decide))
  intro t h
  obtain ⟨k, read'', outgoing'', brings''', _⟩ := h
  rw [List.drop_left' node.key.length_octets] at brings'''
  rw [List.take_left' node.key.length_octets]
  simp only [PeerId.ofOctets, Digest.ofOctets?, dif_pos node.key.length_octets, ends_pure]
  exact ⟨trivial, k, (read.trans read').trans read'', outgoing''.trans (outgoing'.trans outgoing),
    brings'''⟩

theorem ends_greet_due {protocol answer reply : Octets} {node : PeerId} (greeting : Octets)
    (there : w.links[i]? = some l) (bounded : w.deadline = some deadline)
    (working : ∀ kind n, l.behaviour.fails kind n = none) (silent : l.calls = [])
    (drained : w.now + l.behaviour.drainTime 1 ≤ deadline)
    (meant : hello protocol node = .ok answer)
    (brings : l.WillBring gap w.now (answer ++ reply)) (due : l.DueBy deadline answer.length) :
    Ends (greet i node protocol greeting) w fun r v => r = .ok node ∧ ∃ m, w.Passes i m v ∧
      m.outgoing = (l.saying (Connection.sending greeting)).outgoing ∧
        m.Brings gap v.now reply := by
  rw [greet]
  apply Ends.next (ends_call_working there (.write greeting) (working _)
    fun drain => by cases drain)
  intro v h
  obtain ⟨said, now⟩ := h
  have allowed : v.Allows (v.now + l.behaviour.drainTime 1) := by
    apply allows_of_bounded (said.deadline.trans bounded)
    rwa [now (by simp [WriterCall.kind])]
  have draining : Ends (call i .drain) v fun r u =>
      r = .ok () ∧ v.Passes i ((l.saying [.write greeting]).saying [.drain]) u := by
    refine (ends_call_working (said.there there) .drain (working _) fun _ => ?_).mono
      fun _ _ h => ⟨h.1, h.2.1⟩
    -- Only the greeting has been written, so this is the first drain.
    simp only [Link.saying, silent]
    exact allowed
  apply Ends.next draining
  intro u drained
  have sent := said.trans drained
  rw [Link.saying_saying] at sent
  apply Ends.next (ends_readHello_due (sent.there there) (sent.deadline.trans bounded) meant
    ((brings.later sent.later).saying _) due)
  intro t h
  obtain ⟨m, heard, outgoing, rest⟩ := h
  simp only [ne_eq, not_true_eq_false, if_false]
  exact ⟨rfl, m, sent.trans heard, outgoing, rest⟩

theorem Answers.due {e : Endpoint} {answer reply : Octets} {b : Behaviour}
    (answers : Answers e answer reply b) {start now : Rat} (later : now = start + max 0 b.delay) :
    (Link.opened b now).DueBy (start + e.connectTimeout.seconds) answer.length := by
  have enough : answer.length ≤ (delivered b.arrivals).length := by
    rw [answers.segmented.delivered, List.length_append]
    omega
  have prompt := answers.prompt
  have soon : now + secondsFor answer.length b.arrivals ≤ start + e.connectTimeout.seconds := by
    grind
  exact due_schedule now answers.segmented.waits enough soon

/-- What dialing gives when the other side answers in time: a connection that brings the reply. -/
def Connected (e : Endpoint) (node : PeerId) (protocol greeting reply : Octets) (b : Behaviour)
    (w : World) (r : Except Problem Connection) (v : World) : Prop :=
  r = .ok ⟨w.links.size, node, protocol, e.readTimeout⟩ ∧ v.deadline = w.deadline ∧
    ∃ m, v.links = w.links.push m ∧
      m.outgoing = ((Link.silent b).saying (Connection.sending greeting)).outgoing ∧
      m.Brings e.readTimeout.seconds v.now reply

theorem ends_dialOne_answered {e : Endpoint} {node : PeerId} {a : DialAddress}
    {protocol answer reply : Octets} (greeting : Octets)
    (meant : hello protocol node = .ok answer) (answers : Answers e answer reply (w.met a))
    (bounded : w.deadline = some (w.now + e.connectTimeout.seconds)) :
    Ends (e.dialOne node a protocol greeting) w
      (Connected e node protocol greeting reply (w.met a) w) := by
  have prompt := answers.prompt
  have waiting := secondsFor_nonneg answer.length answers.segmented.waits
  have allowed : w.Allows (w.now + (w.met a).delay) := by
    apply allows_of_bounded bounded
    grind
  rw [dialOne]
  apply Ends.next (ends_dial_answered a _ answers.reachable allowed)
  intro v h
  obtain ⟨_, deadline, now, made⟩ := h
  have drained : v.now + (Link.opened (w.met a) v.now).behaviour.drainTime 1 ≤
      w.now + e.connectTimeout.seconds := by
    have drain : (Link.opened (w.met a) v.now).behaviour.drainTime 1 = (w.met a).drainTime 1 := rfl
    rw [drain]
    grind
  rw [ends_bind, ends_outcome]
  apply Ends.mono (ends_greet_due greeting (links_push made) (deadline.trans bounded)
    answers.working rfl drained meant (Link.willBring_of_segmented answers.segmented _)
    (answers.due now))
  intro r u h
  obtain ⟨rfl, m, greeted, outgoing, brings⟩ := h
  exact ⟨rfl, greeted.deadline.trans deadline, m, greeted.push made, outgoing, brings⟩

/-- A node that answers at the first of its addresses is connected to there. -/
theorem ends_connect_answered {e : Endpoint} {node : PeerId} {a : DialAddress}
    {rest : List DialAddress} {protocol greeting answer reply : Octets}
    (greets : hello protocol e.node = .ok greeting) (known : e.book.get node = a :: rest)
    (meant : hello protocol node = .ok answer) (answers : Answers e answer reply (w.met a))
    (free : w.deadline = none) :
    Ends (e.connect node protocol) w
      (Connected e node protocol greeting reply (w.met a) w) := by
  have positive : 0 < e.connectTimeout.seconds := by
    have prompt := answers.prompt
    grind
  have dialing : Ends (within e.connectTimeout.seconds (e.dialOne node a protocol greeting)) w
      fun r v => ∃ c, r = .ok c ∧
        Connected e node protocol greeting reply (w.met a) w (.ok c) v := by
    refine ends_within_allowed positive free ?_
    apply Ends.mono (ends_dialOne_answered greeting meant (by exact answers) rfl)
    intro r v h
    obtain ⟨rfl, _, connected⟩ := h
    exact ⟨_, rfl, rfl, free.symm, connected⟩
  rw [connect, greets, ends_bind, ends_ofExcept]
  dsimp only
  rw [known]
  dsimp only
  rw [tryAddresses, ends_bind, ends_outcome]
  apply Ends.mono dialing
  intro r v h
  obtain ⟨c, rfl, connected⟩ := h
  exact connected

end Endpoint

end ContentTracker
