import ContentTracker.Proofs.Connection.Reading
import ContentTracker.Proofs.Connection.Stream

/-! Talking on a connection that fails in nothing. What was written is what was to be written, and a
reply is read to its end or found too long, whatever the segments it came in. -/

namespace ContentTracker.Connection

open Net World

variable {w : World} {c : Connection} {l : Link}

theorem ends_call_free (there : w.links[c.number]? = some l)
    (working : ∀ kind n, l.behaviour.fails kind n = none) (free : w.deadline = none)
    (a : WriterCall) :
    Ends (call c.number a) w fun r v => r = .ok () ∧ w.Passes c.number (l.saying [a]) v :=
  (ends_call_working there a (working _) fun _ => allows_of_free free _).mono
    fun _ _ h => ⟨h.1, h.2.1⟩

/-- Calls one after another, all of which are let through. -/
theorem ends_calls_free {cs ds : List WriterCall} {op next : Net Unit}
    (there : w.links[c.number]? = some l) (free : w.deadline = none)
    (first : Ends op w fun r v => r = .ok () ∧ w.Passes c.number (l.saying cs) v)
    (later : ∀ v, v.links[c.number]? = some (l.saying cs) → v.deadline = none →
      Ends next v fun r u => r = .ok () ∧ v.Passes c.number ((l.saying cs).saying ds) u) :
    Ends (do op; next) w fun r v => r = .ok () ∧ w.Passes c.number (l.saying (cs ++ ds)) v := by
  apply Ends.next first
  intro v said
  apply Ends.mono (later v (said.there there) (said.deadline.trans free))
  intro r u h
  obtain ⟨rfl, said'⟩ := h
  have all := said.trans said'
  rw [Link.saying_saying] at all
  exact ⟨rfl, all⟩

theorem ends_asStreamFailure_ok {activity : String} {op : Net Unit} {P : World → Prop}
    (h : Ends op w fun r v => r = .ok () ∧ P v) :
    Ends (asStreamFailure activity op) w fun r v => r = .ok () ∧ P v := by
  refine ends_asStreamFailure h (fun _ _ h => h) ?_
  rintro p v ⟨absurd, _⟩
  cases absurd

theorem ends_openStream_fresh (there : w.links[c.number]? = some l) (usable : l.closed = false)
    (unopened : l.streamOpened = false) : Ends c.openStream w fun r v =>
      r = .ok () ∧ w.Passes c.number { l with streamOpened := true } v := by
  simp only [openStream, ends_bind, ends_getLink there, usable, unopened]
  exact ⟨rfl, ⟨rfl, rfl, rfl⟩, Rat.le_refl, rfl⟩

theorem ends_send_free (there : w.links[c.number]? = some l) (unfinished : l.sendFinished = false)
    (working : ∀ kind n, l.behaviour.fails kind n = none) (free : w.deadline = none)
    (bs : Octets) :
    Ends (c.send bs) w fun r v => r = .ok () ∧ w.Passes c.number (l.saying (sending bs)) v := by
  simp only [send, ends_bind, ends_getLink there, unfinished, Bool.false_eq_true, if_false]
  exact ends_asStreamFailure_ok (ends_calls_free there free (ends_call_free there working free _)
    fun v here free => ends_call_free here working free _)

theorem ends_finish_free (there : w.links[c.number]? = some l)
    (unfinished : l.sendFinished = false)
    (working : ∀ kind n, l.behaviour.fails kind n = none) (free : w.deadline = none) :
    Ends c.finish w fun r v => r = .ok () ∧ w.Passes c.number
      { l.saying (finishing l.behaviour.canHalfClose) with sendFinished := true } v := by
  have calling : Ends (do
      if l.behaviour.canHalfClose then call c.number .writeEnd
      call c.number .drain : Net Unit) w fun r v => r = .ok () ∧
        w.Passes c.number (l.saying (finishing l.behaviour.canHalfClose)) v := by
    unfold finishing
    split
    · exact ends_calls_free there free (ends_call_free there working free _)
        fun v here free => ends_call_free here working free _
    · exact ends_call_free there working free _
  simp only [finish, ends_bind, ends_getLink there, unfinished, Bool.false_eq_true, if_false]
  apply Ends.mono (ends_asStreamFailure_ok calling)
  intro r v h
  obtain ⟨rfl, said⟩ := h
  simp only [ends_getLink (said.there there), ends_setLink]
  exact ⟨trivial, said.trans ⟨⟨rfl, rfl, rfl⟩, Rat.le_refl, rfl⟩⟩

theorem ends_close_free (there : w.links[c.number]? = some l) (usable : l.closed = false)
    (working : ∀ kind n, l.behaviour.fails kind n = none) (free : w.deadline = none) :
    Ends c.close w fun r v => r = .ok () ∧
      w.Passes c.number { l.saying [.close, .waitClosed] with closed := true } v := by
  have marked : w.Passes c.number { l with closed := true }
      { w with links := w.links.setIfInBounds c.number { l with closed := true } } :=
    ⟨⟨rfl, rfl, rfl⟩, Rat.le_refl, rfl⟩
  simp only [close, ends_bind, ends_getLink there, usable, Bool.false_eq_true, if_false,
    ends_setLink]
  apply Ends.mono (ends_call_free (marked.there there) working (by exact free) .close)
  intro r v h
  obtain ⟨rfl, said⟩ := h
  have here := said.there (marked.there there)
  simp only [ends_outcome]
  apply Ends.mono (ends_call_free here working (said.deadline.trans free) .waitClosed)
  intro r u h
  obtain ⟨rfl, said'⟩ := h
  exact ⟨rfl, marked.trans (said.trans said')⟩

/-- A reply that comes in time is read to its end, or it is found too long. -/
theorem ends_readToEnd_brings {limit : Int} {bytes : Octets}
    (there : w.links[c.number]? = some l) (free : w.deadline = none)
    (brings : l.Brings c.readTimeout.seconds w.now bytes) (timed : 0 < c.readTimeout.seconds)
    (room : 0 ≤ limit) : Ends (c.readToEnd limit) w fun r v =>
      r = (if limit < bytes.length then .error (oversized limit) else .ok bytes) ∧
        ∃ m, w.Passes c.number m v ∧ m.outgoing = l.outgoing := by
  obtain ⟨final, t, supplies, soon⟩ := brings.supplies timed
  have settles (time : Rat) : Settles time [(t, .endOfStream)] := .inl ⟨t, rfl⟩
  apply (ends_readToEnd_comes timed there free supplies (settles _) room).mono
  intro r v came
  cases came with
  | oversized reads long =>
      have begun := (reads.begun supplies (settles _)).length_le
      rw [if_pos (by omega)]
      exact ⟨rfl, reads.outgoing⟩
  | whole short _ _ passed outgoing =>
      rw [if_neg (Int.not_lt.2 short)]
      exact ⟨rfl, _, passed, outgoing⟩
  | unfinished _ late _ _ =>
      have late := late _ (List.mem_singleton_self _)
      have waits := le_max_right w.now final
      unfold overdue at late
      grind

end ContentTracker.Connection
