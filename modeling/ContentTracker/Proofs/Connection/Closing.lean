import ContentTracker.Proofs.Connection.Lifetime
import ContentTracker.Service

/-! Closing a connection once. Whoever is handed a connection may close it early or not at all: the
closing call is made when the mark is set, and never again. -/

namespace ContentTracker

open Net World

/-- How often the closing call was made. -/
def Link.closings (l : Link) : Nat := l.said.count .close

/-- Connection `i` is there, it was made to a side that behaves in a given way, and the closing call
was made so many times. -/
def World.Closed (w : World) (i : Nat) (b : Behaviour) (times : Nat) : Prop :=
  ∃ l, w.links[i]? = some l ∧ l.behaviour = b ∧ l.closings = times

/-- The closing call was made once if the link is marked as closed, and not at all before. -/
structure Link.Orderly (b : Behaviour) (l : Link) : Prop where
  behaviour : l.behaviour = b
  closings : l.closings = if l.closed then 1 else 0

namespace Link

variable {b : Behaviour} {l m : Link}

theorem closings_saying (l : Link) (cs : List WriterCall) :
    (l.saying cs).closings = l.closings + cs.count .close := by
  rw [closings, said_saying, List.count_append]
  rfl

theorem closings_of_silent (silent : l.calls = []) : l.closings = 0 := by
  rw [closings, said, silent]
  rfl

theorem Orderly.saying (h : l.Orderly b) {cs : List WriterCall} (none : .close ∉ cs) :
    (l.saying cs).Orderly b := by
  refine ⟨h.behaviour, ?_⟩
  rw [closings_saying, List.count_eq_zero_of_not_mem none]
  exact h.closings

theorem Orderly.of_outgoing (h : l.Orderly b) (same : m.outgoing = l.outgoing) : m.Orderly b := by
  have said := said_of_outgoing same
  simp only [outgoing, Link.mk.injEq] at same
  refine ⟨same.1.trans h.behaviour, ?_⟩
  rw [Link.closings, said, same.2.2.2.2.2.2.2.2]
  exact h.closings

end Link

namespace Connection

variable {α : Type} {c : Connection} {b : Behaviour} {w : World}

/-- The operations of whoever is handed a connection: those that do not touch it, those that it
offers, and both put together, within a time limit or with their problems caught. -/
inductive Uses (c : Connection) : {α : Type} → Net α → Prop
  | elsewhere {α : Type} {op : Net α} : (∀ w l, w.links[c.number]? = some l →
      Ends op w fun _ v => v.links[c.number]? = some l) → c.Uses op
  | bind {α β : Type} {op : Net α} {f : α → Net β} : c.Uses op → (∀ a, c.Uses (f a)) →
      c.Uses (op >>= f)
  | outcome {α : Type} {op : Net α} : c.Uses op → c.Uses (Net.outcome op)
  | within {α : Type} {op : Net α} (seconds : Rat) : c.Uses op → c.Uses (Net.within seconds op)
  | openStream : c.Uses c.openStream
  | send (bs : Octets) : c.Uses (c.send bs)
  | finish : c.Uses c.finish
  | readToEnd (limit : Int) : c.Uses (c.readToEnd limit)
  | close : c.Uses c.close

/-- Connection `i` is orderly. -/
def Kept (b : Behaviour) (i : Nat) (w : World) : Prop := ∃ l, w.links[i]? = some l ∧ l.Orderly b

theorem kept_call {i : Nat} (h : Kept b i w) {a : WriterCall} (other : a ≠ .close) :
    Ends (call i a) w fun _ v => Kept b i v := by
  obtain ⟨l, there, orderly⟩ := h
  apply Ends.mono (ends_call there a)
  intro r v said
  exact ⟨_, said.there there, orderly.saying (by simpa using other.symm)⟩

theorem Leads.behaviour {l m : Link} {v : World} {operation : Operation} {r : Except Problem Unit}
    {cs : List WriterCall} (h : Leads w l operation r v cs m) : m.behaviour = l.behaviour := by
  cases h with
  | read outgoing => exact (congrArg Link.behaviour outgoing :)
  | _ => rfl

theorem Leads.orderly {l m : Link} {v : World} {operation : Operation} {r : Except Problem Unit}
    {cs : List WriterCall} (h : Leads w l operation r v cs m) (orderly : l.Orderly b) :
    m.Orderly b := by
  have said : m.closings = l.closings + cs.count .close := by
    rw [Link.closings, h.said, List.count_append]
    rfl
  have made := h.closings
  refine ⟨h.behaviour.trans orderly.behaviour, ?_⟩
  rw [said, orderly.closings]
  unfold closable at made
  split at made <;> split at made <;> simp_all

theorem kept_perform (h : Kept b c.number w) (operation : Operation) :
    Ends (operation.perform c) w fun _ v => Kept b c.number v := by
  obtain ⟨l, there, orderly⟩ := h
  apply Ends.mono (leads_perform there operation)
  intro r v led
  obtain ⟨cs, m, here, leads⟩ := led
  exact ⟨m, here, leads.orderly orderly⟩

theorem kept_readToEnd (h : Kept b c.number w) (limit : Int) :
    Ends (c.readToEnd limit) w fun _ v => Kept b c.number v := by
  obtain ⟨l, there, orderly⟩ := h
  apply Ends.mono (ends_readToEnd there limit)
  rintro r v ⟨m, read, outgoing⟩
  exact ⟨m, read.there there, orderly.of_outgoing outgoing⟩

/-- After closing the mark is set, also where the connection had been closed before. -/
theorem kept_close (h : Kept b c.number w) :
    Ends c.close w fun _ v => Kept b c.number v ∧ v.Closed c.number b 1 := by
  obtain ⟨l, there, orderly⟩ := h
  apply Ends.mono (leads_perform there .close)
  intro r v led
  obtain ⟨cs, m, here, leads⟩ := led
  have orderly := leads.orderly orderly
  have once : m.closings = 1 := orderly.closings.trans (if_pos leads.closed_of_close)
  exact ⟨⟨m, here, orderly⟩, m, here, orderly.behaviour, once⟩

theorem Uses.keeps {op : Net α} (h : c.Uses op) (kept : Kept b c.number w) :
    Ends op w fun _ v => Kept b c.number v := by
  -- The world changes from one step to the next, and all that is known of it is that it is kept.
  induction h generalizing w with
  | elsewhere apart =>
      obtain ⟨l, there, orderly⟩ := kept
      exact (apart w l there).mono fun _ _ still => ⟨l, still, orderly⟩
  | bind _ _ first later => exact Ends.bind (first kept) (fun a v => later a) fun _ _ h => h
  | outcome _ ih =>
      rw [ends_outcome]
      exact ih kept
  | within seconds _ ih =>
      refine ends_within (fun _ _ => kept) fun d => ?_
      apply Ends.mono (ih (w := { w with deadline := d }) kept)
      intro r v still
      cases r with
      | ok a => exact still
      | error p => exact fun _ => still
  | openStream => exact kept_perform kept .openStream
  | send bs => exact kept_perform kept (.send bs)
  | finish => exact kept_perform kept .finish
  | readToEnd limit => exact kept_readToEnd kept limit
  | close => exact (kept_close kept).mono fun _ _ closed => closed.1

end Connection

namespace Service

/-- What answers requests uses its connection like any other handler. -/
theorem uses_answer (limit : Int) (reply : Octets → Except Problem Octets) (c : Connection) :
    c.Uses (answer limit reply c) := by
  have still {α : Type} {op : Net α} (links : ∀ w, Ends op w fun _ v => v.links = w.links) :
      c.Uses op :=
    .elsewhere fun w l there => (links w).mono fun _ _ same => by rwa [same]
  refine .bind (still fun w => rfl) fun visit => ?_
  refine .bind .openStream fun _ => ?_
  refine .bind (.readToEnd limit) fun request => ?_
  refine .bind (still fun w => rfl) fun _ => ?_
  refine .bind (still fun w => by rw [ends_ofExcept]) fun bs => ?_
  exact .bind (.send bs) fun _ => .finish

end Service

end ContentTracker
