import ContentTracker.Connection
import ContentTracker.Proofs.Network.Traffic

/-! What the operations of a connection leave behind: which writer calls were made, and which part
of the link they were made on is as before. -/

namespace ContentTracker.Connection

open Net World

variable {w : World} {c : Connection} {l : Link}

theorem ends_openStream (there : w.links[c.number]? = some l) :
    Ends c.openStream w fun r v =>
      match r with
      | .ok _ => l.closed = false ∧ l.streamOpened = false ∧
          w.Swaps c.number { l with streamOpened := true } v
      | .error _ => v = w ∧ (l.closed = true ∨ l.streamOpened = true) := by
  simp only [openStream, ends_bind, ends_getLink there]
  split
  · next closed => exact ⟨rfl, .inl closed⟩
  · next usable =>
    split
    · next opened => exact ⟨rfl, .inr opened⟩
    · next unopened => exact ⟨by simpa using usable, by simpa using unopened, rfl, rfl, rfl⟩

theorem ends_asStreamFailure {α : Type} {activity : String} {op : Net α}
    {P Q : Except Problem α → World → Prop} (h : Ends op w P)
    (ok : ∀ a v, P (.ok a) v → Q (.ok a) v)
    (error : ∀ p v, P (.error p) v → ∀ q, Q (.error q) v) :
    Ends (asStreamFailure activity op) w Q := by
  simp only [asStreamFailure, ends_bind, ends_outcome]
  apply Ends.mono h
  intro r v h
  cases r with
  | ok a => exact ok a v h
  | error p =>
      dsimp only
      split <;> exact error p v h _

/-- Some of `planned` was called, from its beginning, and all of it if there is a result. -/
def Called (w : World) (i : Nat) (l : Link) (planned : List WriterCall) (r : Except Problem Unit)
    (v : World) : Prop :=
  ∃ cs, cs <+: planned ∧ w.Swaps i (l.saying cs) v ∧ (r = .ok () → cs = planned)

theorem called_call {i : Nat} (there : w.links[i]? = some l) (a : WriterCall) :
    Ends (call i a) w (Called w i l [a]) :=
  (ends_call there a).mono fun _ _ h => ⟨[a], List.prefix_rfl, h, fun _ => rfl⟩

/-- Two plans one after the other. -/
theorem Called.bind {i : Nat} {first second : List WriterCall} {op next : Net Unit}
    (there : w.links[i]? = some l) (h : Ends op w (Called w i l first))
    (later : ∀ v, v.links[i]? = some (l.saying first) →
      Ends next v (Called v i (l.saying first) second)) :
    Ends (do op; next) w (Called w i l (first ++ second)) := by
  refine h.bind (fun _ v h => ?_) fun p v h => ?_
  · obtain ⟨cs, _, swapped, whole⟩ := h
    obtain rfl := whole rfl
    apply Ends.mono (later v (swapped.there there))
    intro r u h
    obtain ⟨ds, begun, swapped', whole'⟩ := h
    refine ⟨cs ++ ds, (List.prefix_append_right_inj cs).2 begun, ?_, fun e => by rw [whole' e]⟩
    rw [← Link.saying_saying]
    exact swapped.trans swapped'
  · obtain ⟨cs, begun, swapped, _⟩ := h
    exact ⟨cs, begun.trans (List.prefix_append _ _), swapped, by simp⟩

/-- The writer calls that send octets. -/
def sending (bs : Octets) : List WriterCall := [.write bs, .drain]

/-- The writer calls that half-close a connection, where that can be done. -/
def finishing (canHalfClose : Bool) : List WriterCall :=
  (if canHalfClose then [.writeEnd] else []) ++ [.drain]

theorem not_close_finishing (half : Bool) : .close ∉ finishing half := by
  cases half <;> simp [finishing]

theorem ends_send (there : w.links[c.number]? = some l) (unfinished : l.sendFinished = false)
    (bs : Octets) : Ends (c.send bs) w (Called w c.number l (sending bs)) := by
  simp only [send, ends_bind, ends_getLink there, unfinished, Bool.false_eq_true, if_false]
  refine ends_asStreamFailure (Called.bind there (called_call there _) fun v here =>
    called_call here _) (fun _ _ h => h) ?_
  rintro p v ⟨cs, begun, swapped, _⟩ q
  exact ⟨cs, begun, swapped, by simp⟩

theorem ends_finish (there : w.links[c.number]? = some l) (unfinished : l.sendFinished = false) :
    Ends c.finish w fun r v =>
      match r with
      | .ok _ => w.Swaps c.number
          { l.saying (finishing l.behaviour.canHalfClose) with sendFinished := true } v
      | .error _ => ∃ cs, cs <+: finishing l.behaviour.canHalfClose ∧
          w.Swaps c.number (l.saying cs) v := by
  have calling : Ends (do
      if l.behaviour.canHalfClose then call c.number .writeEnd
      call c.number .drain : Net Unit) w
      (Called w c.number l (finishing l.behaviour.canHalfClose)) := by
    unfold finishing
    split
    · exact Called.bind there (called_call there _) fun v here => called_call here _
    · exact called_call there _
  simp only [finish, ends_bind, ends_getLink there, unfinished, Bool.false_eq_true, if_false]
  refine ends_asStreamFailure calling ?_ ?_
  · rintro ⟨⟩ v ⟨cs, _, swapped, whole⟩
    obtain rfl := whole rfl
    simp only [ends_getLink (swapped.there there)]
    exact swapped.trans ⟨rfl, rfl, rfl⟩
  · rintro p v ⟨cs, begun, swapped, _⟩ q
    exact ⟨cs, begun, swapped⟩

theorem ends_readChunk (there : w.links[c.number]? = some l) (limit : Int) (read : Octets) :
    Ends (c.readChunk limit read) w (Heard w c.number l) := by
  simp only [readChunk, ends_bind, ends_outcome]
  apply Ends.mono (ends_within_heard there fun d => ends_readUpTo (by exact there) _)
  intro r v h
  split
  · exact h
  · exact h.failed
  · split <;> exact h.failed

/-- However far the reading came, only the incoming part of the link has changed. -/
theorem ends_readLoop (there : w.links[c.number]? = some l) (limit : Int) (fuel : Nat)
    (read : Octets) : Ends (c.readLoop limit fuel read) w fun _ v =>
      ∃ m, w.Swaps c.number m v ∧ m.outgoing = l.outgoing := by
  induction fuel generalizing w l read with
  | zero => exact ⟨l, (Idles.refl w).swaps there, rfl⟩
  | succ fuel ih =>
      rw [readLoop, ends_bind]
      apply Ends.mono (ends_readChunk there limit read)
      intro r v h
      obtain ⟨m, swapped, outgoing, _⟩ := h
      cases r with
      | error p => exact ⟨m, swapped, outgoing⟩
      | ok chunk =>
          dsimp only
          split
          · exact ⟨m, swapped, outgoing⟩
          · split
            · exact ⟨m, swapped, outgoing⟩
            · apply Ends.mono (ih (swapped.there there) _)
              intro r u h
              obtain ⟨n, later, more⟩ := h
              exact ⟨n, swapped.trans later, more.trans outgoing⟩

theorem ends_readToEnd (there : w.links[c.number]? = some l) (limit : Int) :
    Ends (c.readToEnd limit) w fun _ v =>
      ∃ m, w.Swaps c.number m v ∧ m.outgoing = l.outgoing :=
  ends_readLoop there limit _ []

/-- Closing makes the closing call, and waits for the end only if that call went well. -/
theorem ends_close (there : w.links[c.number]? = some l) (usable : l.closed = false) :
    Ends c.close w fun r v => ∃ cs, (cs = [.close] ∨ cs = [.close, .waitClosed]) ∧
      w.Swaps c.number { l.saying cs with closed := true } v ∧
      (r = .ok () → cs = [.close, .waitClosed]) := by
  have marked : w.Swaps c.number { l with closed := true }
      { w with links := w.links.setIfInBounds c.number { l with closed := true } } :=
    ⟨rfl, rfl, rfl⟩
  simp only [close, ends_bind, ends_getLink there, usable, Bool.false_eq_true, if_false,
    ends_setLink]
  apply Ends.mono (ends_call (marked.there there) .close)
  intro r v h
  have said := marked.trans h
  cases r with
  | error p => exact ⟨[.close], .inl rfl, said, by simp⟩
  | ok _ =>
      simp only [ends_outcome]
      apply Ends.mono (ends_call (said.there there) .waitClosed)
      intro r u h
      have done := said.trans h
      cases r with
      | ok _ => exact ⟨_, .inr rfl, done, fun _ => rfl⟩
      | error p =>
          dsimp only
          split
          · exact ⟨_, .inr rfl, ⟨done.network, done.dials, done.links⟩, fun _ => rfl⟩
          · exact ⟨_, .inr rfl, done, fun _ => rfl⟩

end ContentTracker.Connection
