import ContentTracker.Connection
import ContentTracker.Proofs.Network.Problems
import ContentTracker.Proofs.Network.Punctual

/-! In which problems the operations of a connection can end. Where closing goes well for the
network, it goes well for a connection. -/

namespace ContentTracker.Connection

open Net World

variable {T H : Problem → Prop} {α : Type} {w : World} {c : Connection}

theorem sound_openStream (failing : ∀ f, H (.failure f)) (h : w.Tame T)
    (bound : c.number < w.links.size) : Ends c.openStream w (Sound T H w) := by
  obtain ⟨l, there, known⟩ := tame_there h bound
  simp only [openStream]
  rw [ends_bind, ends_getLink there]
  dsimp only
  split
  · exact .error h (.inl (failing _))
  · split
    · exact .error h (.inl (failing _))
    · exact .set h _ ⟨known.behaviour, known.pending, known.broken⟩

theorem sound_asStreamFailure (failing : ∀ f, H (.failure f)) {activity : String} {op : Net α}
    (h : Ends op w (Sound T H w)) : Ends (asStreamFailure activity op) w (Sound T H w) := by
  simp only [asStreamFailure, ends_bind, ends_outcome]
  apply Ends.mono h
  intro r v h
  cases r with
  | ok a => exact h
  | error p =>
      dsimp only
      split
      · exact h.retold (.inl (failing _))
      · exact h

theorem sound_send (native : Native T H) (failing : ∀ f, H (.failure f)) (h : w.Tame T)
    (bound : c.number < w.links.size) (bs : Octets) : Ends (c.send bs) w (Sound T H w) := by
  obtain ⟨l, there, known⟩ := tame_there h bound
  simp only [send]
  rw [ends_bind, ends_getLink there]
  dsimp only
  split
  · exact .error h (.inl (failing _))
  · refine sound_asStreamFailure failing (Sound.bind (sound_call native h bound _) fun _ v h => ?_)
    exact sound_call native h.world (Nat.lt_of_lt_of_le bound h.size) _

theorem sound_finish (native : Native T H) (failing : ∀ f, H (.failure f)) (h : w.Tame T)
    (bound : c.number < w.links.size) : Ends c.finish w (Sound T H w) := by
  obtain ⟨l, there, known⟩ := tame_there h bound
  simp only [finish]
  rw [ends_bind, ends_getLink there]
  dsimp only
  split
  · exact .ok h
  · refine Sound.bind (sound_asStreamFailure failing ?_) fun _ v h => ?_
    · split
      · apply Sound.bind (sound_call native h bound _)
        intro _ v h
        exact sound_call native h.world (Nat.lt_of_lt_of_le bound h.size) _
      · exact sound_call native h bound _
    · obtain ⟨m, here, known⟩ := tame_there h.world (Nat.lt_of_lt_of_le bound h.size)
      rw [ends_bind, ends_getLink here]
      exact .set h.world _ ⟨known.behaviour, known.pending, known.broken⟩

theorem sound_readChunk (native : Native T H) (failing : ∀ f, H (.failure f)) (h : w.Tame T)
    (bound : c.number < w.links.size) (limit : Int) (read : Octets) :
    Ends (c.readChunk limit read) w (Sound T H w) := by
  simp only [readChunk]
  rw [ends_bind, ends_outcome]
  have reading (d : Rat) := sound_readUpTo (w := { w with deadline := some d }) native
    ⟨h.network, h.links⟩ bound rfl (min chunkSize (limit + 1 - read.length))
  apply Ends.mono (sound_within native h reading)
  intro r v h
  dsimp only
  split
  · exact h
  · exact h.retold (.inl (failing _))
  · split
    · exact h.retold (.inl (failing _))
    · exact h

theorem sound_readLoop (native : Native T H) (failing : ∀ f, H (.failure f)) (h : w.Tame T)
    (bound : c.number < w.links.size) (limit : Int) (fuel : Nat) (read : Octets) :
    Ends (c.readLoop limit fuel read) w (Sound T H w) := by
  induction fuel generalizing w read with
  | zero => exact .ok h
  | succ fuel ih =>
      rw [readLoop]
      apply Sound.bind (sound_readChunk native failing h bound limit read)
      intro chunk v h
      split
      · exact .ok h.world
      · split
        · exact .error h.world (.inl (failing _))
        · exact ih h.world (Nat.lt_of_lt_of_le bound h.size) _

/-- Closing goes well. -/
theorem ends_close_tame (h : w.Tame T) (bound : c.number < w.links.size) :
    Ends c.close w fun r _ => r = .ok () := by
  obtain ⟨l, there, known⟩ := tame_there h bound
  have marked : ({ w with links := w.links.setIfInBounds c.number { l with closed := true } } :
      World).links[c.number]? = some { l with closed := true } := by simp [bound]
  simp only [close]
  rw [ends_bind, ends_getLink there]
  dsimp only
  split
  · rfl
  · rw [ends_bind, ends_setLink]
    dsimp only
    rw [ends_bind]
    apply Ends.mono (ends_call_working marked .close known.behaviour.closes
      (by simp [WriterCall.kind]))
    intro r v h
    obtain ⟨rfl, said, _⟩ := h
    dsimp only
    rw [ends_bind, ends_outcome]
    apply Ends.mono (ends_call_problem (said.there marked) .waitClosed (by simp [WriterCall.kind]))
    intro r u h
    cases r with
    | ok _ => rfl
    | error p =>
        obtain ⟨n, fault⟩ := h p rfl
        dsimp only
        rw [if_pos (known.behaviour.waits n p fault)]
        rfl

theorem sound_readToEnd (native : Native T H) (failing : ∀ f, H (.failure f)) (h : w.Tame T)
    (bound : c.number < w.links.size) (limit : Int) : Ends (c.readToEnd limit) w (Sound T H w) :=
  sound_readLoop native failing h bound limit _ []

end ContentTracker.Connection
