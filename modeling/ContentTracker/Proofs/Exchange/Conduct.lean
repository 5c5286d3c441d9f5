import ContentTracker.Proofs.Exchange.Steps
import ContentTracker.Proofs.Message.RoundTrip

/-! How an exchange behaves towards its network, however that answers. It sends its request at most
once and to its tracker only, closes every connection that it made once, and runs once. -/

namespace ContentTracker.Exchange

open Net World

variable {α : Type} {s : Progress}

/-- The writer calls that close a connection, after the last of which there may be no more. -/
def Closes (cs : List WriterCall) : Prop := cs = [.close] ∨ cs = [.close, .waitClosed]

/-- A talk over connection `i` ended: of `planned` the beginning was said, and the connection
closed. -/
def Talked (i : Nat) (l : Link) (planned : List WriterCall) (w v : World) : Prop :=
  ∃ m cs closing, w.Swaps i m v ∧ m.behaviour = l.behaviour ∧ cs <+: planned ∧ Closes closing ∧
    m.said = l.said ++ cs ++ closing

theorem ends_talk (x : Exchange) {c : Connection} {l : Link}
    (there : s.world.links[c.number]? = some l) (unfinished : l.sendFinished = false)
    (usable : l.closed = false) (payload : Octets) (decode : Octets → Except Problem α) :
    Ends (x.talk c payload decode) s fun _ t => Talked c.number l
      (Connection.sending payload ++ Connection.finishing l.behaviour.canHalfClose)
      s.world t.world := by
  have spoken : Ends (x.settling true (x.converse c payload decode)) s fun _ t =>
      ∃ m cs, s.world.Swaps c.number m t.world ∧ l.Tells cs m ∧
        cs <+: Connection.sending payload ++ Connection.finishing l.behaviour.canHalfClose := by
    apply Ends.mono (ends_settling (x.ends_converse there unfinished payload decode))
    intro r t h
    cases r with
    | ok a =>
        obtain ⟨m, cs, swapped, told, begun, _⟩ := h
        exact ⟨m, cs, swapped, told, begun⟩
    | error q =>
        obtain ⟨p, u, ⟨m, cs, swapped, told, begun, _⟩, idle, _⟩ := h
        exact ⟨m, cs, swapped.trans (idle.swaps (swapped.there there)), told, begun⟩
  rw [talk, ends_bind, ends_outcome]
  apply Ends.mono spoken
  intro r t h
  obtain ⟨m, cs, swapped, told, begun⟩ := h
  dsimp only
  rw [ends_bind, ends_during]
  apply Ends.mono (Connection.ends_close (swapped.there there) (told.closed.trans usable))
  intro r' v h
  obtain ⟨closing, closes, closed, _⟩ := h
  have left {u : World} (idle : v.Idles u) : Talked c.number l
      (Connection.sending payload ++ Connection.finishing l.behaviour.canHalfClose) s.world u := by
    have sofar := swapped.trans closed
    refine ⟨_, cs, closing, sofar.trans (idle.swaps (sofar.there there)), told.behaviour, begun,
      closes, ?_⟩
    rw [← told.said]
    exact Link.said_saying m closing
  cases r' with
  | error p => exact left (.refl v)
  | ok _ =>
      dsimp only
      rw [ends_bind, ends_ofExcept]
      cases r with
      | error p => exact left (.refl v)
      | ok a =>
          apply Ends.next (x.ends_enter .done _)
          intro u entered
          exact left entered.2

/-- A connection that belongs to an exchange: the tracker answered its greeting, and it was spoken
on, perhaps, and closed. -/
structure Served (x : Exchange) (greeting payload : Octets) (l : Link) : Prop where
  said : ∃ cs closing, cs <+: Connection.sending payload ++
    Connection.finishing l.behaviour.canHalfClose ∧ Closes closing ∧
    l.said = Connection.sending greeting ++ cs ++ closing
  answered : greetingOf x.protocol x.tracker <+: l.behaviour.sent

/-- What one run of an exchange may do to the world. -/
def Conduct (x : Exchange) (m : Message) (w v : World) : Prop :=
  w.Idles v ∨ ∃ payload greeting, m.encodeRequest = .ok payload ∧
    Endpoint.hello x.protocol x.endpoint.node = .ok greeting ∧
    ∃ failed : Array Link, (∀ l ∈ failed, l.GivenUp greeting) ∧
      (v.links = w.links ++ failed ∨
        ∃ l, v.links = (w.links ++ failed).push l ∧ x.Served greeting payload l)

theorem Conduct.amid {x : Exchange} {m : Message} {w v u t : World} (h : x.Conduct m v u)
    (before : w.Idles v) (after : u.Idles t) : x.Conduct m w t := by
  obtain idle | ⟨payload, greeting, encoded, greets, failed, givenUp, links⟩ := h
  · exact .inl ((before.trans idle).trans after)
  · refine .inr ⟨payload, greeting, encoded, greets, failed, givenUp, ?_⟩
    rwa [after.links, ← before.links]

theorem ends_run (x : Exchange) (m : Message) (decode : Octets → Except Problem α)
    (fresh : s.phase = .idle) :
    Ends (x.run m decode) s fun _ t => x.Conduct m s.world t.world := by
  rw [run, ends_bind, ends_get]
  simp only [fresh, ne_eq, not_true_eq_false, if_false]
  refine (ends_settling (x.ends_reach m s)).bind (fun reached t h => ?_) fun q t h => ?_
  · obtain ⟨payload, c⟩ := reached
    cases encoded : m.encodeRequest with
    | error f => simp [encoded] at h
    | ok payload' =>
        simp only [encoded] at h
        obtain ⟨e, mapped, connects⟩ := h
        cases e with
        | error p => cases mapped
        | ok c' =>
            cases mapped
            unfold Endpoint.Connects at connects
            cases greets : Endpoint.hello x.protocol x.endpoint.node with
            | error p => simp [greets] at connects
            | ok greeting =>
                rw [greets] at connects
                obtain ⟨_, failed, givenUp, number, l, made, greeted⟩ := connects
                have there := number ▸ links_push made
                apply Ends.mono (x.ends_talk there greeted.unfinished greeted.usable payload decode)
                intro r u talked
                obtain ⟨n, cs, closing, swapped, same, begun, closes, said⟩ := talked
                refine .inr ⟨payload, greeting, encoded, greets, failed, givenUp, .inr
                  ⟨n, (number ▸ swapped).push made, ⟨cs, closing, same ▸ begun, closes, ?_⟩, ?_⟩⟩
                · rw [said, greeted.said]
                · rw [same, greeted.answered]
                  exact List.prefix_append _ _
  · obtain ⟨p, u, reached, idle, _⟩ := h
    cases encoded : m.encodeRequest with
    | error f =>
        simp only [encoded] at reached
        obtain ⟨_, rfl⟩ := reached
        exact .inl idle
    | ok payload =>
        simp only [encoded] at reached
        obtain ⟨e, mapped, connects⟩ := reached
        cases e with
        | ok c => cases mapped
        | error p' =>
            unfold Endpoint.Connects at connects
            cases greets : Endpoint.hello x.protocol x.endpoint.node with
            | error p =>
                rw [greets] at connects
                exact .inl (connects.2.trans idle)
            | ok greeting =>
                rw [greets] at connects
                obtain ⟨_, failed, givenUp, links⟩ := connects
                exact .inr ⟨payload, greeting, encoded, greets, failed, givenUp,
                  .inl (idle.links.trans links)⟩

/-! One exchange, called any number of times. -/

/-- A call of an exchange. It is broken off from outside after so many seconds, if at all. -/
structure Attempt (α : Type) where
  message : Message
  decode : Octets → Except Problem α
  patience : Option Rat := none

def attempt (x : Exchange) (a : Attempt α) : Step (Except Problem α) := do
  let before ← get
  let deadline := a.patience.map (before.world.now + ·)
  set { before with world := { before.world with deadline } }
  let result ← outcome (x.run a.message a.decode)
  modify fun s => { s with world := { s.world with deadline := before.world.deadline } }
  pure result

def runs (x : Exchange) : List (Attempt α) → Step (List (Except Problem α))
  | [] => pure []
  | a :: rest => do
    let result ← x.attempt a
    let results ← x.runs rest
    pure (result :: results)

/-- How an exchange that has run answers any further call. -/
def alreadyRan (s : Progress) : Problem := .runtime s!"Exchange already ran (state {s.phase.name})"

theorem ends_run_again (x : Exchange) (m : Message) (decode : Octets → Except Problem α)
    (ran : s.phase ≠ .idle) :
    Ends (x.run m decode) s fun r t => r = .error (alreadyRan s) ∧ t = s := by
  rw [run, ends_bind, ends_get]
  dsimp only
  rw [if_pos ran]
  exact ⟨rfl, rfl⟩

theorem ends_attempt_again (x : Exchange) (a : Attempt α) (ran : s.phase ≠ .idle) :
    Ends (x.attempt a) s fun r t => r = .ok (.error (alreadyRan s)) ∧ t = s := by
  simp only [attempt, ends_bind, ends_get, ends_set, ends_outcome]
  apply Ends.mono (x.ends_run_again a.message a.decode (by exact ran))
  intro r t h
  obtain ⟨rfl, rfl⟩ := h
  exact ⟨rfl, rfl⟩

/-- An exchange that has run does nothing any more. -/
theorem ends_runs_again (x : Exchange) (later : List (Attempt α)) (ran : s.phase ≠ .idle) :
    Ends (x.runs later) s fun r t =>
      r = .ok (later.map fun _ => .error (alreadyRan s)) ∧ t = s := by
  induction later with
  | nil => exact ⟨rfl, rfl⟩
  | cons a rest ih =>
      apply Ends.next (x.ends_attempt_again a ran)
      rintro _ rfl
      apply Ends.next ih
      rintro _ rfl
      exact ⟨rfl, rfl⟩

theorem ends_attempt (x : Exchange) (a : Attempt α) (fresh : s.phase = .idle) :
    Ends (x.attempt a) s fun r t => (∃ e, r = .ok e) ∧ t.phase ≠ .idle ∧
      x.Conduct a.message s.world t.world := by
  simp only [attempt, ends_bind, ends_get, ends_set, ends_outcome]
  apply Ends.mono ((x.run_phase a.message a.decode (by exact fresh)).and
    (x.ends_run a.message a.decode (by exact fresh)))
  intro r t h
  obtain ⟨started, conduct⟩ := h
  exact ⟨⟨r, rfl⟩, started, conduct.amid ⟨rfl, rfl, rfl⟩ ⟨rfl, rfl, rfl⟩⟩

/-! Counting the calls. -/

theorem count_prefix {cs ds : List WriterCall} (begun : cs <+: ds) (c : WriterCall) :
    cs.count c ≤ ds.count c :=
  begun.sublist.count_le c

theorem Closes.count_close {cs : List WriterCall} (h : Closes cs) : cs.count .close = 1 := by
  obtain rfl | rfl := h <;> rfl

theorem Closes.count_write {cs : List WriterCall} (h : Closes cs) (bs : Octets) :
    cs.count (.write bs) = 0 := by
  obtain rfl | rfl := h <;> rfl

/-- The writer calls of an exchange before it closes a connection. -/
def script (greeting payload : Octets) (canHalfClose : Bool) : List WriterCall :=
  [.write greeting, .drain, .write payload, .drain] ++
    (if canHalfClose then [.writeEnd] else []) ++ [.drain]

theorem count_script_close (greeting payload : Octets) (canHalfClose : Bool) :
    (script greeting payload canHalfClose).count .close = 0 := by
  cases canHalfClose <;> rfl

theorem count_script_write {greeting payload : Octets} (distinct : payload ≠ greeting)
    (canHalfClose : Bool) :
    (script greeting payload canHalfClose).count (.write payload) = 1 := by
  cases canHalfClose <;> simp [script, distinct.symm]

/-- A request is no hello: it begins with a number that no tag length is, or with the length of a
tag that is too short for its size. -/
theorem request_ne_hello {m : Message} {payload protocol greeting : Octets} {node : PeerId}
    (encoded : m.encodeRequest = .ok payload)
    (greets : Endpoint.hello protocol node = .ok greeting) : payload ≠ greeting := by
  obtain ⟨positive, short, rfl⟩ := Endpoint.hello_eq_ok greets
  rintro rfl
  have size := UInt8.toNat_ofNat_of_lt' (show protocol.length < 256 by omega)
  obtain ⟨rest, head | ⟨head, length⟩⟩ := request_octets encoded
  · have first : UInt8.ofNat protocol.length = 0 := (List.cons.inj head).1
    rw [first] at size
    exact absurd size (by simp; omega)
  · have first : UInt8.ofNat protocol.length = 1 := (List.cons.inj head).1
    have same : protocol ++ node.key.octets = rest := (List.cons.inj head).2
    rw [first] at size
    have total := congrArg List.length same
    rw [List.length_append, node.key.length_octets, length] at total
    simp at size
    omega

/-- What an exchange does on any connection that it makes. Its request goes only to the tracker,
which has presented itself. -/
structure Proper (x : Exchange) (greeting payload : Octets) (l : Link) : Prop where
  ordered : ∃ cs closing, cs <+: script greeting payload l.behaviour.canHalfClose ∧
    Closes closing ∧ l.said = cs ++ closing
  trusted : .write payload ∈ l.said →
    ∃ answer, Endpoint.hello x.protocol x.tracker = .ok answer ∧ answer <+: l.behaviour.sent

section Counting

variable {x : Exchange} {greeting payload : Octets} {l : Link}

theorem sending_script (greeting payload : Octets) (canHalfClose : Bool) :
    Connection.sending greeting ++
      (Connection.sending payload ++ Connection.finishing canHalfClose) =
    script greeting payload canHalfClose := by
  cases canHalfClose <;> rfl

theorem count_givenUp (h : l.GivenUp greeting) (distinct : payload ≠ greeting) :
    l.said.count (.write payload) = 0 := by
  obtain ⟨cs, begun, said⟩ := h
  have few := count_prefix begun (.write payload)
  rw [said, List.count_append]
  simp [Connection.sending, distinct.symm] at few
  simpa using few

theorem givenUp_ordered (h : l.GivenUp greeting) (payload : Octets) :
    ∃ cs closing, cs <+: script greeting payload l.behaviour.canHalfClose ∧
      Closes closing ∧ l.said = cs ++ closing := by
  obtain ⟨cs, begun, said⟩ := h
  refine ⟨cs, [.close], begun.trans ?_, .inl rfl, said⟩
  rw [← sending_script]
  exact List.prefix_append _ _

theorem Served.ordered (h : x.Served greeting payload l) :
    ∃ cs closing, cs <+: script greeting payload l.behaviour.canHalfClose ∧
      Closes closing ∧ l.said = cs ++ closing := by
  obtain ⟨cs, closing, begun, closes, said⟩ := h.said
  refine ⟨Connection.sending greeting ++ cs, closing, ?_, closes, said⟩
  rw [← sending_script]
  exact (List.prefix_append_right_inj _).2 begun

theorem Served.proper {node : PeerId} (h : x.Served greeting payload l)
    (greets : Endpoint.hello x.protocol node = .ok greeting) : x.Proper greeting payload l :=
  ⟨h.ordered, fun _ => ⟨_, Endpoint.hello_of_hello greets x.tracker, h.answered⟩⟩

theorem Proper.closedOnce (h : x.Proper greeting payload l) : l.said.count .close = 1 := by
  obtain ⟨cs, closing, begun, closes, said⟩ := h.ordered
  have none := count_prefix begun .close
  rw [count_script_close] at none
  rw [said, List.count_append, closes.count_close]
  omega

theorem Proper.sentOnce (h : x.Proper greeting payload l) (distinct : payload ≠ greeting) :
    l.said.count (.write payload) ≤ 1 := by
  obtain ⟨cs, closing, begun, closes, said⟩ := h.ordered
  have few := count_prefix begun (.write payload)
  rw [count_script_write distinct] at few
  rw [said, List.count_append, closes.count_write]
  omega

end Counting

/-- All that one run does, told by the connections that it made. -/
theorem Conduct.made {x : Exchange} {m : Message} {w v : World} (h : x.Conduct m w v) :
    ∃ made : Array Link, v.links = w.links ++ made ∧ (∀ l ∈ made, l.said.count .close = 1) ∧
      ∀ payload, m.encodeRequest = .ok payload →
        (made.toList.flatMap Link.said).count (.write payload) ≤ 1 ∧
        ∀ l ∈ made, ∃ greeting, Endpoint.hello x.protocol x.endpoint.node = .ok greeting ∧
          x.Proper greeting payload l := by
  obtain idle | ⟨payload, greeting, encoded, greets, failed, givenUp, links⟩ := h
  · exact ⟨#[], by simpa using idle.links, by simp, by simp⟩
  · have distinct := request_ne_hello encoded greets
    have untold (l : Link) (member : l ∈ failed) : .write payload ∉ l.said :=
      List.count_eq_zero.1 (count_givenUp (givenUp l member) distinct)
    have proper (l : Link) (member : l ∈ failed) : x.Proper greeting payload l :=
      ⟨givenUp_ordered (givenUp l member) payload, fun told => absurd told (untold l member)⟩
    have silent : (failed.toList.flatMap Link.said).count (.write payload) = 0 := by
      refine List.count_eq_zero.2 fun told => ?_
      obtain ⟨l, member, said⟩ := List.mem_flatMap.1 told
      exact untold l (Array.mem_toList_iff.1 member) said
    obtain links | ⟨l, links, served⟩ := links
    · refine ⟨failed, links, fun l member => (proper l member).closedOnce, ?_⟩
      rintro _ encoded'
      cases encoded.symm.trans encoded'
      exact ⟨by omega, fun l member => ⟨greeting, greets, proper l member⟩⟩
    · have all (k : Link) (member : k ∈ failed.push l) : x.Proper greeting payload k := by
        rcases Array.mem_push.1 member with early | rfl
        · exact proper k early
        · exact served.proper greets
      have last := (served.proper greets).sentOnce distinct
      refine ⟨failed.push l, by rw [links, Array.append_push], ?_, ?_⟩
      · intro k member
        exact (all k member).closedOnce
      · intro _ encoded'
        cases encoded.symm.trans encoded'
        refine ⟨?_, fun k member => ⟨greeting, greets, all k member⟩⟩
        rw [Array.toList_push, List.flatMap_append, List.count_append, silent]
        simpa using last

/-- However often an exchange is called, and whatever the network does: only the first call does
anything, and nothing if its request cannot be written. All connections made are closed once, and
the request goes out at most once, to the tracker. -/
theorem runs_conduct (x : Exchange) (w : World) (first : Attempt α) (later : List (Attempt α)) :
    ∃ r t, x.attempt first { world := w } = .ok r t ∧
      x.runs (first :: later) { world := w } = .ok (r :: later.map fun _ =>
        .error (.runtime s!"Exchange already ran (state {t.phase.name})")) t ∧
      (∀ f, first.message.encodeRequest = .error f →
        t.world.dials = w.dials ∧ t.world.links = w.links) ∧
      ∃ made : Array Link, t.world.links = w.links ++ made ∧ (∀ l ∈ made, l.said.count .close = 1) ∧
        ∀ payload, first.message.encodeRequest = .ok payload →
          (made.toList.flatMap Link.said).count (.write payload) ≤ 1 ∧
          ∀ l ∈ made, ∃ greeting, Endpoint.hello x.protocol x.endpoint.node = .ok greeting ∧
            x.Proper greeting payload l := by
  have fresh := x.ends_attempt first (s := { world := w }) rfl
  cases e : x.attempt first { world := w } with
  | error p t =>
      obtain ⟨⟨_, absurd⟩, _⟩ := fresh.of_error e
      cases absurd
  | ok r t =>
      obtain ⟨_, ran, conduct⟩ := fresh.of_ok e
      refine ⟨r, t, rfl, ?_, fun f refused => ?_, conduct.made⟩
      · refine Ends.eq_ok ?_
        rw [runs, ends_bind]
        refine .on_ok e ?_
        apply Ends.next (x.ends_runs_again later ran)
        rintro _ rfl
        exact ⟨rfl, rfl⟩
      · obtain idle | ⟨payload, _, encoded, _⟩ := conduct
        · exact ⟨idle.dials, idle.links⟩
        · cases refused.symm.trans encoded

end ContentTracker.Exchange
