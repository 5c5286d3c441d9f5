import ContentTracker.Endpoint
import ContentTracker.Proofs.Network.Outcome

/-! The handshake as data. What a side of a connection does is a tree of its calls and reads, and
the operations that dial and that accept connections run such trees. -/

namespace ContentTracker

open Net

/-- What one side of a connection does: calls, reads and log lines, each with what follows each of
its outcomes. -/
inductive Dialogue (α : Type) : Type
  | finished (r : Except Problem α)
  | call (c : WriterCall) (next : Except Problem Unit → Dialogue α)
  /-- Reads exactly `count` octets. -/
  | read (count : Nat) (next : Except Problem Octets → Dialogue α)
  /-- Reads what is there, at most `count` octets. -/
  | receive (count : Nat) (next : Except Problem Octets → Dialogue α)
  | log (severity : Severity) (logger text : String) (next : Dialogue α)

namespace Dialogue

variable {α : Type}

def run (i : Nat) : Dialogue α → Net α
  | finished r => MonadExcept.ofExcept r
  | call c next => do
    let r ← outcome (Net.call i c)
    (next r).run i
  | read count next => do
    let r ← outcome (readExactly i count)
    (next r).run i
  | receive count next => do
    let r ← outcome (readSome i count)
    (next r).run i
  | log severity logger text next => do
    Net.log severity logger text
    next.run i

/-! Reading the hello of the other side, with what follows. -/

def readingKey (next : Except Problem (Octets × PeerId) → Dialogue α) (protocol : Octets) :
    Dialogue α :=
  read 32 fun
    | .error p => next (.error p)
    | .ok key =>
      match PeerId.ofOctets key with
      | .ok peer => next (.ok (protocol, peer))
      | .error fault => next (.error (.badValue (PeerId.faultMessage fault)))

def readingTag (next : Except Problem (Octets × PeerId) → Dialogue α) (size : Octets) :
    Dialogue α :=
  read (Octets.toNat size) fun
    | .error p => next (.error p)
    | .ok protocol => readingKey next protocol

def readingHello (next : Except Problem (Octets × PeerId) → Dialogue α) : Dialogue α :=
  read 1 fun
    | .error p => next (.error p)
    | .ok size => readingTag next size

theorem run_readingHello (next : Except Problem (Octets × PeerId) → Dialogue α) (i : Nat) :
    (readingHello next).run i = (do
      let hello ← outcome (Endpoint.readHello i)
      (next hello).run i) := by
  simp only [readingHello, run, Endpoint.readHello, outcome_bind, bind_assoc]
  refine bind_congr fun size => ?_
  cases size with
  | error p => simp only [pure_bind]
  | ok size =>
      simp only [readingTag, run, bind_assoc]
      refine bind_congr fun protocol => ?_
      cases protocol with
      | error p => simp only [pure_bind]
      | ok protocol =>
          simp only [readingKey, run, bind_assoc]
          refine bind_congr fun key => ?_
          cases key with
          | error p => simp only [pure_bind]
          | ok key =>
              dsimp only
              cases PeerId.ofOctets key with
              | ok peer => simp only [outcome_pure, pure_bind]
              | error fault => simp only [outcome_throw, pure_bind]

/-- Closes the connection and fails, in a problem of the closing if that has one. -/
def refusing (p : Problem) : Dialogue α :=
  call .close fun
    | .error q => finished (.error q)
    | .ok () => finished (.error p)

end Dialogue

namespace Endpoint

open Dialogue

variable {e : Endpoint} {i : Nat}

/-! The side that dials. -/

/-- Whether the hello of the other side is the one that was asked for. -/
def judging (e : Endpoint) (i : Nat) (peer : PeerId) (protocol : Octets) :
    Except Problem (Octets × PeerId) → Dialogue Connection
  | .error p => refusing p
  | .ok (theirs, remote) =>
    if theirs ≠ protocol then
      refusing (.fail .connection (s!"Protocol mismatch: expected {Text.quotedOctets protocol}, " ++
        s!"got {Text.quotedOctets theirs}") [("alpn", .octets theirs)])
    else if remote ≠ peer then
      refusing (.fail .connection s!"Node id mismatch: dialed {peer.text}, got {remote.text}"
        [("node_id", .text remote.text)])
    else finished (.ok ⟨i, remote, protocol, e.readTimeout⟩)

/-- Waits for the transport to take the greeting, and reads the answer to it. -/
def awaiting (e : Endpoint) (i : Nat) (peer : PeerId) (protocol : Octets) : Dialogue Connection :=
  call .drain fun
    | .error p => refusing p
    | .ok () => readingHello (e.judging i peer protocol)

def dialing (e : Endpoint) (i : Nat) (peer : PeerId) (protocol greeting : Octets) :
    Dialogue Connection :=
  call (.write greeting) fun
    | .error p => refusing p
    | .ok () => e.awaiting i peer protocol

theorem run_refusing {α : Type} (p : Problem) :
    (refusing p : Dialogue α).run i = (do call i .close; throw p) := by
  rw [refusing, run]
  exact bind_outcome _ _ _ (fun _ => rfl) fun _ => rfl

theorem dialOne_eq_run (e : Endpoint) (peer : PeerId) (a : DialAddress)
    (protocol greeting : Octets) : e.dialOne peer a protocol greeting = (do
      let i ← dial a (e.localAddress a)
      (e.dialing i peer protocol greeting).run i) := by
  unfold dialOne
  refine bind_congr fun i => ?_
  simp only [greet, dialing, run, outcome_bind, bind_assoc]
  refine bind_congr fun written => ?_
  cases written with
  | error p => simp only [pure_bind, run_refusing]
  | ok _ =>
      simp only [awaiting, run, bind_assoc]
      refine bind_congr fun drained => ?_
      cases drained with
      | error p => simp only [pure_bind, run_refusing]
      | ok _ =>
          simp only [run_readingHello, bind_assoc]
          refine bind_congr fun hello => ?_
          cases hello with
          | error p => simp only [pure_bind, judging, run_refusing]
          | ok hello =>
              obtain ⟨theirs, remote⟩ := hello
              dsimp only [judging]
              split
              · simp only [outcome_bind, outcome_throw, pure_bind, run_refusing]
              · split
                · simp only [outcome_bind, outcome_throw, pure_bind, run_refusing]
                · simp only [outcome_pure, pure_bind]
                  rfl

/-! The side that accepts. -/

/-- What a connection from outside comes to: one that is handed to the handler, with how waiting for
the transport ended, or none. -/
abbrev Accepted := Option (Connection × Except Problem Unit)

def dropping : Dialogue Accepted := call .close fun r => finished (r.map fun _ => none)

/-- Waits for the transport to take the greeting, and hands the connection on. -/
def settling (c : Connection) : Dialogue Accepted :=
  call .drain fun drained => finished (.ok (some (c, drained)))

def welcoming (greeting : Octets) (c : Connection) : Dialogue Accepted :=
  call (.write greeting) fun
    | .error p => finished (.error p)
    | .ok () => settling c

/-- The handshake of the side that accepts, once the hello of the other side is read or not to be
had. -/
def answering (e : Endpoint) (i : Nat) (protocol greeting : Octets) :
    Except Problem (Octets × PeerId) → Dialogue Accepted
  | .error p =>
    match handshakeFault? p with
    | none => finished (.error p)
    | some reason =>
      log .debug loggerName s!"Dropping connection with failed handshake: {reason}" dropping
  | .ok (theirs, remote) =>
    if theirs ≠ protocol then
      log .debug loggerName s!"Dropping connection for unknown protocol {Text.quotedOctets theirs}"
        dropping
    else welcoming greeting ⟨i, remote, protocol, e.readTimeout⟩

def hosting (c : Connection) (drained : Except Problem Unit) (handler : Connection → Net Unit) :
    Net Unit := do
  match ← outcome (do MonadExcept.ofExcept drained; handler c) with
  | .ok () => pure ()
  | .error .cancelled =>
    c.close
    throw .cancelled
  | .error _ =>
    Net.log .error loggerName s!"Error handling connection from {c.remote.short}"
  c.close

theorem serve_eq_run (greeting : Octets) (c : Connection) (handler : Connection → Net Unit) :
    serve greeting i c handler = (do
      match ← (welcoming greeting c).run i with
      | none => pure ()
      | some (c, drained) => hosting c drained handler) := by
  have served : serve greeting i c handler = (do
      call i (.write greeting)
      let drained ← outcome (call i .drain)
      hosting c drained handler) := by
    rw [serve]
    refine bind_congr fun _ => ?_
    simp only [outcome_bind, bind_assoc]
    refine bind_congr fun drained => ?_
    cases drained <;> rfl
  rw [served]
  simp only [welcoming, settling, run, bind_assoc]
  exact (bind_outcome _ _ _ (fun _ => by simp only [run, bind_assoc]; rfl) fun _ => rfl).symm

/-- Accepting a connection is the handshake on it, whose reading has a time limit, and the handler
where that comes to it. -/
theorem accept_eq_run (e : Endpoint) (protocol greeting : Octets)
    (handler : Connection → Net Unit) (b : Behaviour) : e.accept protocol greeting handler b = (do
      let i ← establish b
      let hello ← outcome (within e.connectTimeout.seconds (readHello i))
      match ← (e.answering i protocol greeting hello).run i with
      | none => pure ()
      | some (c, drained) => hosting c drained handler) := by
  have dropped (i : Nat) : (do
      match ← dropping.run i with
      | none => pure ()
      | some (c, drained) => hosting c drained handler) = call i .close := by
    simp only [dropping, run, bind_assoc]
    refine (bind_outcome _ pure _ (fun _ => rfl) fun _ => rfl).trans (bind_pure _)
  unfold accept
  refine bind_congr fun i => bind_congr fun hello => ?_
  cases hello with
  | error p =>
      dsimp only [answering]
      cases handshakeFault? p with
      | none => rfl
      | some reason => simp only [run, bind_assoc, dropped]
  | ok hello =>
      obtain ⟨theirs, remote⟩ := hello
      dsimp only [answering]
      split
      · simp only [run, bind_assoc, dropped]
      · exact serve_eq_run greeting _ handler

end Endpoint

end ContentTracker
