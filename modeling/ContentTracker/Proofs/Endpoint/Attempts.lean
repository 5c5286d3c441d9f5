import ContentTracker.Proofs.Address.Book
import ContentTracker.Proofs.Endpoint.Dialing

/-! Connecting address by address. The addresses of a node are dialed in the order of the book up to
the first one that completes the handshake, whose connection is handed out; all connections made
on the way are closed, once each. -/

namespace ContentTracker

open Net World

namespace Endpoint

variable {e : Endpoint} {peer : PeerId} {protocol greeting : Octets} {a : DialAddress}
  {w v u : World}

/-- Dials an address, says hello and listens to the answer. -/
def shake (e : Endpoint) (greeting : Octets) (a : DialAddress) : Net (Octets × PeerId) := do
  let i ← dial a (e.localAddress a)
  call i (.write greeting)
  call i .drain
  readHello i

/-- An address completes the handshake: in time it answers with the protocol and the node id that
are asked for. -/
def Completes (e : Endpoint) (peer : PeerId) (protocol : Octets) (a : DialAddress) (w : World) :
    Prop :=
  Yields (within e.connectTimeout.seconds (e.shake (greetingOf protocol e.node) a))
    (· = (protocol, peer)) w

/-- Greeting succeeds where the answer is the one that it asks for. -/
theorem yields_greet {i : Nat} : Yields (greet i peer protocol greeting) (fun _ => True) w ↔
    Yields (do call i (.write greeting); call i .drain; readHello i) (· = (protocol, peer)) w := by
  simp only [greet, yields_bind]
  refine exists_congr fun _ => exists_congr fun _ => and_congr_right fun _ => ?_
  refine exists_congr fun _ => exists_congr fun _ => and_congr_right fun _ => ?_
  refine exists_congr fun hello => exists_congr fun _ => and_congr_right fun _ => ?_
  obtain ⟨theirs, remote⟩ := hello
  dsimp only
  rw [Prod.mk.injEq]
  split
  · next other => exact iff_of_false not_yields_throw_bind fun same => other same.1
  · next sameProtocol =>
    split
    · next other => exact iff_of_false not_yields_throw_bind fun same => other same.2
    · next sameNode =>
      exact iff_of_true (yields_pure.2 trivial)
        ⟨Classical.not_not.1 sameProtocol, Classical.not_not.1 sameNode⟩

theorem yields_dialOne : Yields (e.dialOne peer a protocol greeting) (fun _ => True) w ↔
    Yields (e.shake greeting a) (· = (protocol, peer)) w := by
  rw [dialOne, shake, yields_bind, yields_bind]
  refine exists_congr fun i => exists_congr fun v => and_congr_right fun _ => ?_
  have never (p : Problem) (u : World) :
      ¬ Yields (do call i .close; throw p : Net Connection) (fun _ => True) u := by
    rw [yields_bind]
    rintro ⟨_, _, _, h⟩
    exact not_yields_throw h
  rw [yields_outcome never, yields_bind, ← yields_greet]
  refine exists_congr fun remote => exists_congr fun u => and_congr_right fun _ => ?_
  exact yields_pure

theorem ends_attempt (positive : 0 < e.connectTimeout.seconds) :
    Ends (within e.connectTimeout.seconds
      (e.dialOne peer a protocol (greetingOf protocol e.node))) w fun r v =>
        e.Attempted peer protocol (greetingOf protocol e.node) a w r v ∧
          ((∃ c, r = .ok c) ↔ e.Completes peer protocol a w) := by
  refine Ends.and ?_ ?_
  · refine ends_within (fun spent => absurd positive (Rat.not_lt.2 spent)) fun d => ?_
    apply Ends.mono (e.ends_dialOne peer a protocol _ _)
    intro r v h
    cases r with
    | ok c => exact h
    | error p => exact fun q => h
  · obtain ⟨d, same⟩ := yields_within positive w
    rw [Completes, same, ← yields_dialOne, ← same]
    unfold Ends Yields
    cases within _ _ w <;> simp

/-- An attempt that gave no connection: the address did not complete the handshake, and if there was
a connection to it, that one is given up. -/
structure Missed (e : Endpoint) (peer : PeerId) (protocol : Octets) (a : DialAddress)
    (w v : World) : Prop where
  network : v.network = w.network
  dials : v.dials = w.dials ++ [⟨a, e.localAddress a⟩]
  links : v.links = w.links ∨ ∃ l, v.links = w.links.push l ∧ l.behaviour = w.met a ∧
    l.GivenUp (greetingOf protocol e.node)
  incomplete : ¬ e.Completes peer protocol a w

theorem Missed.idle (h : e.Missed peer protocol a w v) (idle : v.Idles u) :
    e.Missed peer protocol a w u where
  network := idle.network.trans h.network
  dials := idle.dials.trans h.dials
  links := by
    rw [idle.links]
    exact h.links
  incomplete := h.incomplete

/-- Attempts at some addresses, one after another, all of which were missed. -/
inductive Tried (e : Endpoint) (peer : PeerId) (protocol : Octets) :
    List DialAddress → World → World → Prop
  | nothing (w : World) : Tried e peer protocol [] w w
  | next {a : DialAddress} {rest : List DialAddress} {w v u : World}
      (missed : e.Missed peer protocol a w v) (later : Tried e peer protocol rest v u) :
      Tried e peer protocol (a :: rest) w u

/-- An attempt that gave a connection: the address completed the handshake, and nothing has been
said on the connection since, nor has anything behind the answer been read. -/
structure Reached (e : Endpoint) (peer : PeerId) (protocol : Octets) (a : DialAddress) (w : World)
    (c : Connection) (v : World) : Prop where
  dials : v.dials = w.dials ++ [⟨a, e.localAddress a⟩]
  connection : c = ⟨w.links.size, peer, protocol, e.readTimeout⟩
  links : ∃ l, v.links = w.links.push l ∧ l.behaviour = w.met a ∧
    l.Greeted (greetingOf protocol e.node) (greetingOf protocol peer)
  complete : e.Completes peer protocol a w

theorem ends_tryAddresses_tried (positive : 0 < e.connectTimeout.seconds)
    (addresses : List DialAddress) (errors : Table) (w : World) :
    Ends (e.tryAddresses peer protocol (greetingOf protocol e.node) addresses errors) w fun r v =>
      ∃ missed rest u, addresses = missed ++ rest ∧ e.Tried peer protocol missed w u ∧
        match r with
        | .ok c => ∃ a more, rest = a :: more ∧ e.Reached peer protocol a u c v
        | .error _ => u = v := by
  induction addresses generalizing errors w with
  | nil =>
      rw [tryAddresses, ends_throw]
      exact ⟨[], [], w, rfl, .nothing w, rfl⟩
  | cons a addresses ih =>
      rw [tryAddresses, ends_bind, ends_outcome]
      apply Ends.mono (ends_attempt positive)
      intro r v h
      obtain ⟨⟨network, dials, links⟩, completed⟩ := h
      cases r with
      | ok c =>
          exact ⟨[], a :: addresses, w, rfl, .nothing w, a, addresses, rfl, dials, links.1,
            links.2, completed.1 ⟨c, rfl⟩⟩
      | error p =>
          have missed : e.Missed peer protocol a w v :=
            ⟨network, dials, links, fun complete => by
              obtain ⟨_, ⟨⟩⟩ := completed.2 complete⟩
          dsimp only
          split
          · exact ⟨[a], addresses, v, rfl, .next missed (.nothing v), rfl⟩
          · -- The line that is logged next is still part of the attempt that was missed.
            rw [ends_bind, Net.log, ends_modify]
            apply Ends.mono (ih _ _)
            intro r u h
            obtain ⟨later, rest, t, parts, tried, ending⟩ := h
            refine ⟨a :: later, rest, t, congrArg (a :: ·) parts, .next ?_ tried, ending⟩
            exact missed.idle ⟨rfl, rfl, rfl⟩

/-! What a row of attempts leaves behind. -/

theorem closed_of_givenUp {l : Link} (h : l.GivenUp greeting) : l.said.count .close = 1 := by
  obtain ⟨cs, begun, said⟩ := h
  have none : (Connection.sending greeting).count .close = 0 := by
    simp [Connection.sending]
  have few := begun.sublist.count_le .close
  rw [said, List.count_append, List.count_singleton_self]
  omega

theorem Tried.dials {tried : List DialAddress} (h : e.Tried peer protocol tried w v) :
    v.dials = w.dials ++ tried.map fun a => ⟨a, e.localAddress a⟩ := by
  induction h with
  | nothing w => simp
  | next missed later ih => rw [ih, missed.dials, List.map_cons, List.append_assoc]; rfl

theorem Tried.links {tried : List DialAddress} (h : e.Tried peer protocol tried w v) :
    ∃ failed : Array Link, v.links = w.links ++ failed ∧
      ∀ l ∈ failed, l.said.count .close = 1 := by
  induction h with
  | nothing w => exact ⟨#[], by simp, by simp⟩
  | next missed later ih =>
      obtain ⟨failed, links, closed⟩ := ih
      obtain before | ⟨l, before, _, givenUp⟩ := missed.links
      · exact ⟨failed, by rw [links, before], closed⟩
      · refine ⟨#[l] ++ failed, by rw [links, before]; simp, ?_⟩
        intro k member
        rcases Array.mem_append.1 member with first | later
        · rw [List.mem_singleton.1 (Array.mem_toList_iff.2 first)]
          exact closed_of_givenUp givenUp
        · exact closed k later

/-! Connecting. -/

/-- A connection to the last of the dialed addresses was handed out. Its other side said exactly the
hello of the node that was asked for, no address before completed the handshake, and all other
connections that were made are closed, once each. -/
structure HandsOut (e : Endpoint) (peer : PeerId) (protocol : Octets) (w : World)
    (missed : List DialAddress) (a : DialAddress) (failed : Array Link) (l : Link)
    (c : Connection) : Prop where
  connection : c = ⟨(w.links ++ failed).size, peer, protocol, e.readTimeout⟩
  last : ∃ u, e.Tried peer protocol missed w u ∧ e.Completes peer protocol a u ∧
    l.behaviour = u.met a
  heard : ∃ greeting, hello protocol peer = .ok greeting ∧ l.behaviour.sent = greeting ++ l.unread
  unclosed : l.said.count .close = 0
  closed : ∀ k ∈ failed, k.said.count .close = 1

/-- Connecting ended: the dialed addresses are a beginning of those in the book, each dialed once. -/
def Sought (e : Endpoint) (peer : PeerId) (protocol : Octets) (w : World)
    (r : Except Problem Connection) (v : World) : Prop :=
  ∃ dialed made, dialed <+: e.book.get peer ∧ (e.book.Made → dialed.Nodup) ∧
    v.dials = w.dials ++ dialed.map (fun a => ⟨a, e.localAddress a⟩) ∧
    v.links = w.links ++ made ∧
    match r with
    | .ok c => ∃ missed a failed l, dialed = missed ++ [a] ∧ made = failed.push l ∧
        e.HandsOut peer protocol w missed a failed l c
    | .error _ => e.Tried peer protocol dialed w v ∧ ∀ l ∈ made, l.said.count .close = 1

theorem Tried.sought {dialed : List DialAddress} {p : Problem}
    (begins : dialed <+: e.book.get peer) (h : e.Tried peer protocol dialed w v) :
    e.Sought peer protocol w (.error p) v := by
  obtain ⟨made, links, closed⟩ := h.links
  exact ⟨dialed, made, begins, fun known => (known.nodup peer).sublist begins.sublist, h.dials,
    links, h, closed⟩

theorem Reached.sought {u : World} {missed : List DialAddress} {a : DialAddress}
    {c : Connection} {greeting : Octets} (greets : hello protocol e.node = .ok greeting)
    (begins : missed ++ [a] <+: e.book.get peer) (tried : e.Tried peer protocol missed w u)
    (h : e.Reached peer protocol a u c v) : e.Sought peer protocol w (.ok c) v := by
  obtain ⟨failed, before, closed⟩ := tried.links
  obtain ⟨l, links, met, greeted⟩ := h.links
  have unclosed : l.said.count .close = 0 := by
    rw [greeted.said]
    simp [Connection.sending]
  refine ⟨missed ++ [a], failed.push l, begins,
    fun known => (known.nodup peer).sublist begins.sublist, ?_, ?_, missed, a, failed, l, rfl, rfl,
    ?_, ⟨u, tried, h.complete, met⟩, ⟨_, hello_of_hello greets peer, greeted.answered⟩, unclosed,
    closed⟩
  · rw [h.dials, tried.dials, List.map_append, List.append_assoc]
    rfl
  · rw [links, before, Array.append_push]
  · rw [h.connection, before]

/-- Whatever the network does, an endpoint dials the addresses of a node in order, each once, up to
the first that completes the handshake, and leaves no other connection open. -/
theorem connect_attempts (e : Endpoint) (peer : PeerId) (protocol : Octets) (w : World)
    (positive : 0 < e.connectTimeout.seconds) :
    Ends (e.connect peer protocol) w (e.Sought peer protocol w) := by
  rw [connect, ends_bind, ends_ofExcept]
  cases greets : hello protocol e.node with
  | error p => exact (Tried.nothing w).sought List.nil_prefix
  | ok greeting =>
      dsimp only
      split
      · rw [ends_throw]
        exact (Tried.nothing w).sought List.nil_prefix
      · obtain ⟨_, _, rfl⟩ := hello_eq_ok greets
        apply Ends.mono (ends_tryAddresses_tried positive _ [] w)
        intro r v h
        obtain ⟨missed, rest, u, parts, tried, ending⟩ := h
        cases r with
        | error p =>
            cases ending
            exact tried.sought ⟨rest, parts.symm⟩
        | ok c =>
            obtain ⟨a, more, rfl, reached⟩ := ending
            exact reached.sought greets ⟨more, by rw [parts]; simp⟩ tried

def nodeOf (b : UInt8) : PeerId := ⟨⟨List.replicate 32 b, rfl⟩⟩

def presenting (node : PeerId) : Behaviour :=
  { arrivals := [(1, .data (1 :: 65 :: node.key.octets))] }

def seeking : Endpoint where
  node := nodeOf 1
  book := AddressBook.insertAll [] (nodeOf 7) [⟨"localhost", 4433⟩, ⟨"localhost", 4434⟩]
  connectTimeout := .whole 10

/-- A network in which another node has taken the first address. -/
def impostor : World where
  network := fun a _ => presenting (nodeOf (if a.port = 4433 then 9 else 7))

theorem connect_attempts_impostor : seeking.book.Made ∧ ∃ c v,
    seeking.connect (nodeOf 7) [65] impostor = .ok c v ∧ c.number = 1 ∧ v.dials.length = 2 ∧
      seeking.Sought (nodeOf 7) [65] impostor (.ok c) v := by
  have second : (match seeking.connect (nodeOf 7) [65] impostor with
      | .ok c v => decide (c.number = 1 ∧ v.dials.length = 2)
      | .error _ _ => false) = true := by decide +kernel
  refine ⟨.insertAll .empty _ _, ?_⟩
  have sought := connect_attempts seeking (nodeOf 7) [65] impostor (by decide)
  cases result : seeking.connect (nodeOf 7) [65] impostor with
  | error p v =>
      rw [result] at second
      cases second
  | ok c v =>
      rw [result] at second
      obtain ⟨number, dials⟩ := of_decide_eq_true second
      exact ⟨c, v, rfl, number, dials, sought.of_ok result⟩

end Endpoint

end ContentTracker
