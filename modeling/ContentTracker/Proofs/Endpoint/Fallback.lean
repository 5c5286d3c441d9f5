import ContentTracker.Proofs.Endpoint.Attempts
import ContentTracker.Proofs.Endpoint.Problems

/-! Falling back on the next address. An attempt that ends in trouble of the network or in a failure to
connect is passed over; any other problem ends the connecting, and the addresses behind stay untried. -/

namespace ContentTracker

open Net World

/-- The problems of an attempt for which the next address is tried. -/
def Problem.MovesOn (p : Problem) : Prop := p.isTrouble ∨ p.IsFailure .connection

def World.logged (w : World) (line : LogLine) : World := { w with log := w.log ++ [line] }

namespace Endpoint

variable {e : Endpoint} {peer : PeerId} {protocol : Octets} {w v u : World}
  {a : DialAddress} {addresses rest : List DialAddress} {errors : Table} {p : Problem}
  {reason : String} {r : Except Problem Connection}

theorem dialFault?_eq_none : e.dialFault? p = none ↔ ¬ p.MovesOn := by
  constructor
  · intro none known
    have reason := e.dialFault?_isSome known
    rw [none] at reason
    cases reason
  · intro foreign
    cases p with
    | system trouble text => exact absurd (.inl rfl) foreign
    | incomplete got wanted => exact absurd (.inl rfl) foreign
    | failure f => exact if_neg fun kind => foreign (.inr ⟨f, rfl, kind⟩)
    | _ => rfl

def attempt (e : Endpoint) (peer : PeerId) (protocol : Octets) (a : DialAddress) : Net Connection :=
  within e.connectTimeout.seconds (e.dialOne peer a protocol (greetingOf protocol e.node))

def dialsTo (e : Endpoint) (addresses : List DialAddress) : List Dial :=
  addresses.map fun a => ⟨a, e.localAddress a⟩

def missedLine (peer : PeerId) (a : DialAddress) (reason : String) : LogLine :=
  ⟨.debug, loggerName, s!"Dialing {peer.short} at {a.text} failed: {reason}"⟩

def madeLine (peer : PeerId) (a : DialAddress) (protocol : Octets) : LogLine :=
  ⟨.debug, loggerName, s!"Connected to {peer.short} at {a.text} ({protocolText protocol})"⟩

/-- Attempts at some addresses in turn, all of which were passed over for a reason. -/
inductive PassedOver (e : Endpoint) (peer : PeerId) (protocol : Octets) :
    List (DialAddress × String) → World → World → Prop
  | nothing (w : World) : PassedOver e peer protocol [] w w
  | next {a : DialAddress} {reason : String} {rest : List (DialAddress × String)} {p : Problem}
      {w v u : World} (failed : e.attempt peer protocol a w = .error p v)
      (moves : e.dialFault? p = some reason)
      (later : PassedOver e peer protocol rest (v.logged (missedLine peer a reason)) u) :
      PassedOver e peer protocol ((a, reason) :: rest) w u

/-- Reasons under the texts of the addresses, put to those that are known. -/
def reported (errors : Table) (failures : List (DialAddress × String)) : Table :=
  failures.foldl (fun t f => t.put f.1.text (.text f.2)) errors

/-- What connecting ends in when no address is left. -/
def unreachable (peer : PeerId) (errors : Table) : Problem :=
  .fail .connection s!"Could not connect to node {peer.text}"
    [("node_id", .text peer.text), ("errors", .dict errors)]

/-- How connecting by a list of addresses ends: with the first connection that is made, with the
reasons for all addresses, or with a problem that hides the addresses behind. -/
inductive Concluded (e : Endpoint) (peer : PeerId) (protocol : Octets)
    (addresses : List DialAddress) (errors : Table) (w : World) :
    Except Problem Connection → World → Prop
  | connected {failures : List (DialAddress × String)} {a : DialAddress} {rest : List DialAddress}
      {c : Connection} {u v : World} (passed : e.PassedOver peer protocol failures w u)
      (order : addresses = failures.map Prod.fst ++ a :: rest)
      (made : e.attempt peer protocol a u = .ok c v)
      (dials : v.dials = w.dials ++ e.dialsTo (failures.map Prod.fst ++ [a])) :
      Concluded e peer protocol addresses errors w (.ok c) (v.logged (madeLine peer a protocol))
  | exhausted {failures : List (DialAddress × String)} {v : World}
      (passed : e.PassedOver peer protocol failures w v) (order : addresses = failures.map Prod.fst)
      (dials : v.dials = w.dials ++ e.dialsTo addresses) :
      Concluded e peer protocol addresses errors w
        (.error (unreachable peer (reported errors failures))) v
  | hidden {failures : List (DialAddress × String)} {a : DialAddress} {rest : List DialAddress}
      {p : Problem} {u v : World} (passed : e.PassedOver peer protocol failures w u)
      (order : addresses = failures.map Prod.fst ++ a :: rest)
      (raised : e.attempt peer protocol a u = .error p v) (foreign : ¬ p.MovesOn)
      (dials : v.dials = w.dials ++ e.dialsTo (failures.map Prod.fst ++ [a])) :
      Concluded e peer protocol addresses errors w (.error p) v

theorem ends_attempt_dials (positive : 0 < e.connectTimeout.seconds) (a : DialAddress) (w : World) :
    Ends (e.attempt peer protocol a) w fun _ v => v.dials = w.dials ++ e.dialsTo [a] :=
  (ends_attempt positive).mono fun _ _ h => h.1.2.1

/-- One attempt that is passed over comes before all that follows. -/
theorem Concluded.after (positive : 0 < e.connectTimeout.seconds)
    (failed : e.attempt peer protocol a w = .error p v) (moves : e.dialFault? p = some reason)
    (h : e.Concluded peer protocol rest (errors.put a.text (.text reason))
      (v.logged (missedLine peer a reason)) r u) :
    e.Concluded peer protocol (a :: rest) errors w r u := by
  have first : v.dials = w.dials ++ e.dialsTo [a] :=
    (ends_attempt_dials positive a w).of_error failed
  have dialed {t : World} {tried : List DialAddress}
      (dials : t.dials = v.dials ++ e.dialsTo tried) :
      t.dials = w.dials ++ e.dialsTo (a :: tried) := by
    rw [dials, first, List.append_assoc]
    rfl
  cases h with
  | connected passed order made dials =>
      exact .connected (.next failed moves passed) (congrArg (a :: ·) order) made (dialed dials)
  | exhausted passed order dials =>
      exact .exhausted (.next failed moves passed) (congrArg (a :: ·) order) (dialed dials)
  | hidden passed order raised foreign dials =>
      exact .hidden (.next failed moves passed) (congrArg (a :: ·) order) raised foreign
        (dialed dials)

theorem ends_tryAddresses_concluded (positive : 0 < e.connectTimeout.seconds)
    (addresses : List DialAddress) (errors : Table) (w : World) :
    Ends (e.tryAddresses peer protocol (greetingOf protocol e.node) addresses errors) w
      (e.Concluded peer protocol addresses errors w) := by
  induction addresses generalizing errors w with
  | nil =>
      rw [tryAddresses, ends_throw]
      exact .exhausted (.nothing w) rfl (List.append_nil _).symm
  | cons a rest ih =>
      rw [tryAddresses, ends_bind, ends_outcome]
      refine Ends.mono ((ends_itself (e.attempt peer protocol a) w).and
        (ends_attempt_dials positive a w)) fun r v h => ?_
      obtain ⟨ended, dials⟩ := h
      cases r with
      | ok c => exact .connected (.nothing w) rfl ended dials
      | error p =>
          dsimp only
          split
          · next foreign =>
            exact .hidden (.nothing w) rfl ended (dialFault?_eq_none.1 foreign) dials
          · next reason moves =>
            rw [ends_bind, Net.log, ends_modify]
            exact (ih _ _).mono fun r u later => .after positive ended moves later

theorem ends_connect_concluded (known : e.book.get peer ≠ [])
    (positive : 0 < e.connectTimeout.seconds) :
    Ends (e.connect peer protocol) w fun r v =>
      (∃ p, hello protocol e.node = .error p ∧ r = .error p ∧ v = w) ∨
        e.Concluded peer protocol (e.book.get peer) [] w r v := by
  rw [connect, ends_bind, ends_ofExcept]
  cases greets : hello protocol e.node with
  | error p => exact .inl ⟨p, rfl, rfl, rfl⟩
  | ok greeting =>
      obtain ⟨_, _, rfl⟩ := hello_eq_ok greets
      dsimp only
      split
      · next none => exact absurd none known
      · exact (ends_tryAddresses_concluded positive _ [] w).mono fun _ _ h => .inr h

/-- Addresses that are known are tried in turn, unless the protocol tag cannot be presented. Connecting
gives the first connection that is made, or it is over when all addresses were dialed, unless an
attempt ends in a problem that is neither trouble of the network nor a failure to connect: that
problem is raised at once. Where the network raises nothing but trouble and nobody cancels, all
addresses are dialed before connecting fails. -/
theorem connect_concluded (e : Endpoint) (peer : PeerId) (protocol : Octets) (w : World)
    (known : e.book.get peer ≠ []) (positive : 0 < e.connectTimeout.seconds) :
    (Ends (e.connect peer protocol) w fun r v =>
      (∃ p, hello protocol e.node = .error p ∧ r = .error p ∧ v = w) ∨
        e.Concluded peer protocol (e.book.get peer) [] w r v) ∧
    (1 ≤ protocol.length ∧ protocol.length ≤ 255 → w.Tame (fun p => p.isTrouble) →
      w.deadline = none → Ends (e.connect peer protocol) w fun r v => ∀ p, r = .error p →
        v.dials = w.dials ++ e.dialsTo (e.book.get peer) ∧ ∃ failures,
          failures.map Prod.fst = e.book.get peer ∧ e.PassedOver peer protocol failures w v ∧
          p = unreachable peer (reported [] failures)) := by
  have concluded : Ends (e.connect peer protocol) w _ := ends_connect_concluded known positive
  refine ⟨concluded, fun tag tame free => ?_⟩
  refine (concluded.and (ends_connect_refused tame free e)).mono fun r v h => ?_
  obtain ⟨ending, refused⟩ := h
  rintro _ rfl
  obtain ⟨p, unpresentable, _⟩ | ending := ending
  · rw [hello_of_length tag] at unpresentable
    cases unpresentable
  · cases ending with
    | exhausted passed order dials => exact ⟨dials, _, order.symm, passed, rfl⟩
    | hidden passed order raised foreign dials => exact absurd (.inr (refused _ rfl)) foreign

/-- A network in which the name of the first host cannot be encoded, while the second address is
right. -/
def misnamed : World where
  network := fun a _ =>
    if a.port = 4433 then { dialProblem := some (.badValue "label empty or too long") }
    else presenting (nodeOf 7)

def refusing : World where
  network := .unreachable

theorem tame_refusing : refusing.Tame fun p => p.isTrouble where
  network a n := by
    refine ⟨?_, nofun, nofun, fun _ => rfl, nofun⟩
    rintro _ ⟨⟩
    rfl
  links i l there := by simp [refusing] at there

/-- The second address would have completed the handshake, but it is hidden by the first. On a network
where all dials are refused both are dialed. -/
theorem connect_concluded_misnamed :
    seeking.Completes (nodeOf 7) [65] ⟨"localhost", 4434⟩ misnamed ∧
    (∃ p v, seeking.connect (nodeOf 7) [65] misnamed = .error p v ∧ ¬ p.MovesOn ∧
      v.dials.length = 1 ∧
      seeking.Concluded (nodeOf 7) [65] (seeking.book.get (nodeOf 7)) [] misnamed (.error p) v) ∧
    ∃ p v, seeking.connect (nodeOf 7) [65] refusing = .error p v ∧ p.IsFailure .connection ∧
      v.dials = seeking.dialsTo (seeking.book.get (nodeOf 7)) := by
  have concluded (w : World) := connect_concluded seeking (nodeOf 7) [65] w (by decide) (by decide)
  have answered : (match within seeking.connectTimeout.seconds
        (seeking.shake (greetingOf [65] seeking.node) ⟨"localhost", 4434⟩) misnamed with
      | .ok hello _ => decide (hello = ([65], nodeOf 7))
      | .error _ _ => false) = true := by decide +kernel
  have stopped : (match seeking.connect (nodeOf 7) [65] misnamed with
      | .error (.badValue _) v => decide (v.dials.length = 1)
      | _ => false) = true := by decide +kernel
  have refused : (match seeking.connect (nodeOf 7) [65] refusing with
      | .ok _ _ => false
      | .error _ _ => true) = true := by decide +kernel
  refine ⟨?_, ?_, ?_⟩
  · unfold Completes Yields
    cases ended : within seeking.connectTimeout.seconds
      (seeking.shake (greetingOf [65] seeking.node) ⟨"localhost", 4434⟩) misnamed with
    | ok hello v =>
        rw [ended] at answered
        exact ⟨hello, v, rfl, of_decide_eq_true answered⟩
    | error p v =>
        rw [ended] at answered
        cases answered
  · cases ended : seeking.connect (nodeOf 7) [65] misnamed with
    | ok c v =>
        rw [ended] at stopped
        cases stopped
    | error p v =>
        rw [ended] at stopped
        cases p with
        | badValue text =>
            have foreign : ¬ (Problem.badValue text).MovesOn := by
              rintro (trouble | ⟨_, ⟨⟩, _⟩)
              cases trouble
            refine ⟨_, v, rfl, foreign, of_decide_eq_true stopped, ?_⟩
            obtain ⟨_, ⟨⟩, _⟩ | ending := (concluded misnamed).1.of_error ended
            exact ending
        | _ => cases stopped
  · cases ended : seeking.connect (nodeOf 7) [65] refusing with
    | ok c v =>
        rw [ended] at refused
        cases refused
    | error p v =>
        have dialed := ((concluded refusing).2 (by decide) tame_refusing rfl).of_error ended p rfl
        obtain ⟨dials, failures, _, _, same⟩ := dialed
        exact ⟨p, v, rfl, same ▸ ⟨_, rfl, rfl⟩, dials⟩

end Endpoint

end ContentTracker
