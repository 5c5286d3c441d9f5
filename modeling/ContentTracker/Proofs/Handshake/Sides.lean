import ContentTracker.Proofs.Handshake.Hello

/-! The stages of the two sides of a handshake. What a side has said and taken goes with its stage,
and what it hears decides where it goes on. -/

namespace ContentTracker

open Dialogue Endpoint

/-- What follows dialing: nothing, if there is no connection. -/
def afterDialing (app : Connection → Dialogue Unit) : Except Problem Connection → Dialogue Unit
  | .ok c => app c
  | .error _ => finished (.ok ())

/-- What follows accepting: nothing, if the connection was dropped. -/
def afterAccepting (host : Connection → Dialogue Unit) : Except Problem Accepted → Dialogue Unit
  | .ok (some (c, .ok ())) => host c
  | _ => finished (.ok ())

/-- The side that dials, by its stage, by what it has said and taken, and by the calls it has made.
It gets a connection only if the other side is the one that is `meant`. -/
inductive Dialing (e : Endpoint) (i : Nat) (peer : PeerId) (protocol : Octets) (meant : Prop) :
    Stage Connection → Octets → Octets → List WriterCall → Prop
  | greets : Dialing e i peer protocol meant
      (.shaking (e.dialing i peer protocol (greetingOf protocol e.node))) [] [] []
  | awaits : Dialing e i peer protocol meant (.shaking (e.awaiting i peer protocol))
      (greetingOf protocol e.node) [] [.write (greetingOf protocol e.node)]
  | listens {took : Octets} {t : Dialogue Connection} :
      Listening (e.judging i peer protocol) took t → Dialing e i peer protocol meant (.shaking t)
        (greetingOf protocol e.node) took [.write (greetingOf protocol e.node), .drain]
  | agrees : meant → Dialing e i peer protocol meant
      (.shaking (.finished (.ok ⟨i, peer, protocol, e.readTimeout⟩)))
      (greetingOf protocol e.node) (greetingOf protocol peer)
      [.write (greetingOf protocol e.node), .drain]
  | talks {rest : Dialogue Unit} {written read : Octets} {calls : List WriterCall} : meant →
      Dialing e i peer protocol meant (.settled (.ok ⟨i, peer, protocol, e.readTimeout⟩) rest)
        (greetingOf protocol e.node ++ written) (greetingOf protocol peer ++ read) calls
  | refuses {q : Problem} {took : Octets} : ¬ meant → Dialing e i peer protocol meant
      (.shaking (refusing q)) (greetingOf protocol e.node) took
      [.write (greetingOf protocol e.node), .drain]
  | refused {q : Problem} {took : Octets} : ¬ meant → Dialing e i peer protocol meant
      (.shaking (.finished (.error q))) (greetingOf protocol e.node) took
      [.write (greetingOf protocol e.node), .drain, .close]
  | gone {q : Problem} {took : Octets} : ¬ meant → Dialing e i peer protocol meant
      (.settled (.error q) (.finished (.ok ()))) (greetingOf protocol e.node) took
      [.write (greetingOf protocol e.node), .drain, .close]

/-- The side that accepts, likewise. It presents itself only to a side that speaks the `same`
protocol. -/
inductive Accepting (f : Endpoint) (j : Nat) (remote : PeerId) (protocol : Octets) (same : Prop) :
    Stage Accepted → Octets → Octets → List WriterCall → Prop
  | listens {took : Octets} {t : Dialogue Accepted} :
      Listening (f.answering j protocol (greetingOf protocol f.node)) took t →
      Accepting f j remote protocol same (.shaking t) [] took []
  | welcomes : same → Accepting f j remote protocol same
      (.shaking (welcoming (greetingOf protocol f.node) ⟨j, remote, protocol, f.readTimeout⟩))
      [] (greetingOf protocol remote) []
  | drains {calls : List WriterCall} : same → Accepting f j remote protocol same
      (.shaking (settling ⟨j, remote, protocol, f.readTimeout⟩))
      (greetingOf protocol f.node) (greetingOf protocol remote) calls
  | agrees {calls : List WriterCall} : same → Accepting f j remote protocol same
      (.shaking (.finished (.ok (some (⟨j, remote, protocol, f.readTimeout⟩, .ok ())))))
      (greetingOf protocol f.node) (greetingOf protocol remote) calls
  | talks {rest : Dialogue Unit} {written read : Octets} {calls : List WriterCall} : same →
      Accepting f j remote protocol same
        (.settled (.ok (some (⟨j, remote, protocol, f.readTimeout⟩, .ok ()))) rest)
        (greetingOf protocol f.node ++ written) (greetingOf protocol remote ++ read) calls
  | logs {severity : Severity} {logger text : String} {took : Octets} : ¬ same →
      Accepting f j remote protocol same (.shaking (.log severity logger text dropping)) [] took []
  | drops {took : Octets} : ¬ same →
      Accepting f j remote protocol same (.shaking dropping) [] took []
  | dropped {took : Octets} : ¬ same →
      Accepting f j remote protocol same (.shaking (.finished (.ok none))) [] took [.close]
  | gone {took : Octets} : ¬ same →
      Accepting f j remote protocol same (.settled (.ok none) (.finished (.ok ()))) [] took [.close]

section Sides

variable {e f : Endpoint} {i j : Nat} {peer remote : PeerId} {protocol : Octets}
  {meant same : Prop} {app host : Connection → Dialogue Unit} {taken : Octets}
  {made : Option WriterCall}

/-- What the dialing side hears decides whether it gets its connection. -/
theorem Dialing.moves {s : Side Connection} {stage : Stage Connection}
    (h : Dialing e i peer protocol meant s.stage s.said s.took s.calls)
    (moves : s.stage.Moves (afterDialing app) s.heard s.ended stage taken made)
    (hello : ∀ theirs remote, theirs.length ≤ 255 →
      greetingOf theirs remote <+: s.took ++ s.heard →
        theirs = protocol ∧ (remote = peer ↔ meant))
    (cut : s.ended = true → (∀ theirs remote, theirs.length ≤ 255 →
      ¬ greetingOf theirs remote <+: s.took ++ s.heard) → ¬ meant) :
    Dialing e i peer protocol meant stage (s.said ++ s.sends made) (s.took ++ taken)
      (s.calls ++ made.toList) := by
  obtain ⟨now, heard, ended, took, said, calls⟩ := s
  dsimp only at h moves hello cut ⊢
  cases h with
  | greets =>
      cases moves with
      | shake moves =>
          cases moves
          exact .awaits
  | awaits =>
      cases moves with
      | shake moves =>
          cases moves
          rw [Side.sends_drain, List.append_nil]
          exact .listens .size
  | listens listening =>
      cases moves with
      | settle r => cases listening
      | shake moves =>
          obtain ⟨rfl, goes⟩ := listening.moves moves
          rw [Side.sends_none, List.append_nil]
          have known := (List.prefix_append_right_inj took).2 moves.taken_prefix
          obtain on | ⟨theirs, remote, short, whole, rfl⟩ | ⟨last, ⟨q, rfl⟩, none⟩ := goes
          · exact .listens on
          · obtain ⟨rfl, judged⟩ := hello theirs remote short (whole ▸ known)
            rw [whole]
            simp only [judging, ne_eq, not_true_eq_false, if_false]
            split
            · next other => exact .refuses fun h => other (judged.2 h)
            · next right =>
              obtain rfl := Classical.not_not.1 right
              exact .agrees (judged.1 rfl)
          · exact .refuses (cut last none)
  | agrees h =>
      cases moves with
      | shake moves => cases moves
      | settle r => exact .talks h
  | talks h =>
      cases moves with
      | follow moves =>
          rw [List.append_assoc, List.append_assoc]
          exact .talks h
  | refuses h =>
      cases moves with
      | shake moves =>
          cases moves
          rw [Side.sends_close, List.append_nil, List.append_nil]
          exact .refused h
  | refused h =>
      cases moves with
      | shake moves => cases moves
      | settle r =>
          rw [Side.sends_none, List.append_nil, List.append_nil]
          exact .gone h
  | gone h =>
      cases moves with
      | follow moves => cases moves

/-- What the accepting side hears decides whether it presents itself. -/
theorem Accepting.moves {s : Side Accepted} {stage : Stage Accepted}
    (h : Accepting f j remote protocol same s.stage s.said s.took s.calls)
    (moves : s.stage.Moves (afterAccepting host) s.heard s.ended stage taken made)
    (hello : ∀ theirs peer, theirs.length ≤ 255 → greetingOf theirs peer <+: s.took ++ s.heard →
      peer = remote ∧ (theirs = protocol ↔ same))
    (cut : s.ended = true → ∃ theirs peer, theirs.length ≤ 255 ∧
      greetingOf theirs peer <+: s.took ++ s.heard) :
    Accepting f j remote protocol same stage (s.said ++ s.sends made) (s.took ++ taken)
      (s.calls ++ made.toList) := by
  obtain ⟨now, heard, ended, took, said, calls⟩ := s
  dsimp only at h moves hello cut ⊢
  cases h with
  | listens listening =>
      cases moves with
      | settle r => cases listening
      | shake moves =>
          obtain ⟨rfl, goes⟩ := listening.moves moves
          have known := (List.prefix_append_right_inj took).2 moves.taken_prefix
          obtain on | ⟨theirs, peer, short, whole, rfl⟩ | ⟨last, _, none⟩ := goes
          · exact .listens on
          · obtain ⟨rfl, judged⟩ := hello theirs peer short (whole ▸ known)
            rw [whole]
            simp only [answering]
            split
            · next other => exact .logs fun h => other (judged.2 h)
            · next right =>
              obtain rfl := Classical.not_not.1 right
              exact .welcomes (judged.1 rfl)
          · obtain ⟨theirs, peer, short, whole⟩ := cut last
            exact absurd whole (none theirs peer short)
  | welcomes h =>
      cases moves with
      | shake moves =>
          cases moves
          rw [List.append_nil]
          exact .drains h
  | drains h =>
      cases moves with
      | shake moves =>
          cases moves
          rw [Side.sends_drain, List.append_nil, List.append_nil]
          exact .agrees h
  | agrees h =>
      cases moves with
      | shake moves => cases moves
      | settle r => exact .talks h
  | talks h =>
      cases moves with
      | follow moves =>
          rw [List.append_assoc, List.append_assoc]
          exact .talks h
  | logs h =>
      cases moves with
      | shake moves =>
          cases moves
          exact .drops h
  | drops h =>
      cases moves with
      | shake moves =>
          cases moves
          exact .dropped h
  | dropped h =>
      cases moves with
      | shake moves => cases moves
      | settle r => exact .gone h
  | gone h =>
      cases moves with
      | follow moves => cases moves

/-! What each side has said. -/

theorem Dialing.spoken {stage : Stage Connection} {said took : Octets} {calls : List WriterCall}
    (h : Dialing e i peer protocol meant stage said took calls) :
    said = [] ∧ calls = [] ∨ greetingOf protocol e.node <+: said := by
  cases h with
  | greets => exact .inl ⟨rfl, rfl⟩
  | talks => exact .inr (List.prefix_append _ _)
  | awaits | listens | agrees | refuses | refused | gone => exact .inr List.prefix_rfl

theorem Accepting.spoken {stage : Stage Accepted} {said took : Octets} {calls : List WriterCall}
    (h : Accepting f j remote protocol same stage said took calls) :
    said = [] ∧ (calls ≠ [] → ¬ same) ∨ same ∧ greetingOf protocol f.node <+: said := by
  cases h with
  | listens | welcomes => exact .inl ⟨rfl, by simp⟩
  | drains h | agrees h => exact .inr ⟨h, List.prefix_rfl⟩
  | talks h => exact .inr ⟨h, List.prefix_append _ _⟩
  | logs h | drops h | dropped h | gone h => exact .inl ⟨rfl, fun _ => h⟩

theorem Dialing.apart {stage : Stage Connection} {said took : Octets} {calls : List WriterCall}
    (h : Dialing e i peer protocol meant stage said took calls) (other : ¬ meant) :
    said <+: greetingOf protocol e.node ∧
      calls <+: [.write (greetingOf protocol e.node), .drain, .close] := by
  cases h with
  | greets => exact ⟨List.nil_prefix, List.nil_prefix⟩
  | awaits => exact ⟨List.prefix_rfl, List.prefix_append [_] _⟩
  | listens | refuses => exact ⟨List.prefix_rfl, List.prefix_append [_, _] _⟩
  | agrees h | talks h => exact absurd h other
  | refused | gone => exact ⟨List.prefix_rfl, List.prefix_rfl⟩

theorem Accepting.apart {stage : Stage Accepted} {said took : Octets} {calls : List WriterCall}
    (h : Accepting f j remote protocol same stage said took calls) (other : ¬ same) :
    said = [] ∧ calls <+: [.close] := by
  cases h with
  | listens | logs | drops => exact ⟨rfl, List.nil_prefix⟩
  | welcomes h | drains h | agrees h | talks h => exact absurd h other
  | dropped | gone => exact ⟨rfl, List.prefix_rfl⟩

/-! What each side has come to once its handshake is over, and what it waits for before. -/

theorem Dialing.settled {s : Side Connection} {r : Except Problem Connection}
    (h : Dialing e i peer protocol meant s.stage s.said s.took s.calls) (settled : s.Settled r) :
    meant ∧ r = .ok ⟨i, peer, protocol, e.readTimeout⟩ ∧
        greetingOf protocol e.node <+: s.said ∧ greetingOf protocol peer <+: s.took ∨
      ¬ meant ∧ (∃ q, r = .error q) ∧ s.said = greetingOf protocol e.node ∧
        s.calls = [.write (greetingOf protocol e.node), .drain, .close] := by
  obtain ⟨stage, heard, ended, took, said, calls⟩ := s
  obtain ⟨rest, rfl⟩ := settled
  cases h with
  | talks h => exact .inl ⟨h, rfl, List.prefix_append _ _, List.prefix_append _ _⟩
  | gone h => exact .inr ⟨h, ⟨_, rfl⟩, rfl, rfl⟩

theorem Accepting.settled {s : Side Accepted} {r : Except Problem Accepted}
    (h : Accepting f j remote protocol same s.stage s.said s.took s.calls) (settled : s.Settled r) :
    same ∧ r = .ok (some (⟨j, remote, protocol, f.readTimeout⟩, .ok ())) ∧
        greetingOf protocol f.node <+: s.said ∧ greetingOf protocol remote <+: s.took ∨
      ¬ same ∧ r = .ok none ∧ s.calls = [.close] ∧ ¬ s.Waits := by
  obtain ⟨stage, heard, ended, took, said, calls⟩ := s
  obtain ⟨rest, rfl⟩ := settled
  cases h with
  | talks h => exact .inl ⟨h, rfl, List.prefix_append _ _, List.prefix_append _ _⟩
  | gone h => exact .inr ⟨h, rfl, rfl, id⟩

/-- The dialing side waits only when it has said its hello, and for that of the other side. -/
theorem Dialing.waits {s : Side Connection}
    (h : Dialing e i peer protocol meant s.stage s.said s.took s.calls)
    (unsettled : ∀ r, ¬ s.Settled r) (waits : s.Waits) :
    greetingOf protocol e.node <+: s.said ∧ ∀ theirs other, theirs.length ≤ 255 →
      ¬ greetingOf theirs other <+: s.took ++ s.heard := by
  obtain ⟨stage, heard, ended, took, said, calls⟩ := s
  dsimp only at h ⊢
  cases h with
  | listens listening =>
      exact ⟨List.prefix_rfl, fun theirs other short => listening.waits waits short other⟩
  | talks | gone => exact absurd ⟨_, rfl⟩ (unsettled _)
  | greets | awaits | agrees | refuses | refused => exact waits.elim

theorem Accepting.waits {s : Side Accepted}
    (h : Accepting f j remote protocol same s.stage s.said s.took s.calls)
    (unsettled : ∀ r, ¬ s.Settled r) (waits : s.Waits) (theirs : Octets) (other : PeerId)
    (short : theirs.length ≤ 255) : ¬ greetingOf theirs other <+: s.took ++ s.heard := by
  obtain ⟨stage, heard, ended, took, said, calls⟩ := s
  dsimp only at h ⊢
  cases h with
  | listens listening => exact listening.waits waits short other
  | talks | gone => exact absurd ⟨_, rfl⟩ (unsettled _)
  | welcomes | drains | agrees | logs | drops | dropped => exact waits.elim

end Sides

end ContentTracker
