import ContentTracker.Proofs.Connection.Stream

/-! The marks of a connection over its lifetime: that its stream was opened, that its sending side
was finished and that it was closed. Each is set by one operation and never taken back, whatever
fails before or after, and what it rules out does not happen again. -/

namespace ContentTracker.Connection

open Net World

/-! Operations one after another. -/

/-- What can be done with a connection and its stream. Both sides open the stream in the same
way. -/
inductive Operation
  | openStream
  | send (bs : Octets)
  | finish
  | readToEnd (limit : Int)
  | close

def Operation.perform (c : Connection) : Operation → Net Unit
  | .openStream => c.openStream
  | .send bs => c.send bs
  | .finish => c.finish
  | .readToEnd limit => do
    let _ ← c.readToEnd limit
  | .close => c.close

/-- An operation that was performed, and how it ended. -/
structure Event where
  operation : Operation
  before : World
  outcome : Except Problem Unit
  after : World

/-- What comes of some operations, each of which is performed however those before it ended. -/
def history (c : Connection) : List Operation → World → List Event
  | [], _ => []
  | operation :: operations, w =>
    match operation.perform c w with
    | .ok _ v => ⟨operation, w, .ok (), v⟩ :: history c operations v
    | .error p v => ⟨operation, w, .error p, v⟩ :: history c operations v

/-- The writer calls that were made on a connection so far. -/
def saidOn (c : Connection) (w : World) : List WriterCall := (w.links[c.number]?.map Link.said).getD []

namespace Event

/-- The writer calls that an operation made. -/
def calls (c : Connection) (e : Event) : List WriterCall :=
  (c.saidOn e.after).drop (c.saidOn e.before).length

/-- Whether the stream was given out. -/
def opened : Event → Bool
  | ⟨.openStream, _, .ok (), _⟩ => true
  | _ => false

/-- The operation sent nothing. To send more was refused and to finish again did nothing. -/
structure Quiet (c : Connection) (e : Event) : Prop where
  calls : ∀ a ∈ e.calls c, a = .close ∨ a = .waitClosed
  send : ∀ bs, e.operation = .send bs →
    e.outcome = .error (.fail .stream "Stream already finished") ∧ e.after = e.before
  finish : e.operation = .finish → e.outcome = .ok () ∧ e.after = e.before

end Event

/-! Single operations. -/

/-- The ways in which an operation can end: the outcome, the world after it, the writer calls it made
and what became of the link. -/
inductive Leads (w : World) (l : Link) :
    Operation → Except Problem Unit → World → List WriterCall → Link → Prop
  | opened {v : World} : l.closed = false → l.streamOpened = false →
      Leads w l .openStream (.ok ()) v [] { l with streamOpened := true }
  | unopened {p : Problem} : l.closed = true ∨ l.streamOpened = true →
      Leads w l .openStream (.error p) w [] l
  | sent {r : Except Problem Unit} {v : World} {bs : Octets} {cs : List WriterCall} :
      l.sendFinished = false → cs <+: sending bs → (r = .ok () → cs = sending bs) →
      Leads w l (.send bs) r v cs (l.saying cs)
  | refused {bs : Octets} : l.sendFinished = true →
      Leads w l (.send bs) (.error (.fail .stream "Stream already finished")) w [] l
  | finished {v : World} {cs : List WriterCall} : l.sendFinished = false →
      cs = finishing l.behaviour.canHalfClose →
      Leads w l .finish (.ok ()) v cs { l.saying cs with sendFinished := true }
  | unfinished {p : Problem} {v : World} {cs : List WriterCall} : l.sendFinished = false →
      cs <+: finishing l.behaviour.canHalfClose → Leads w l .finish (.error p) v cs (l.saying cs)
  | finishedBefore : l.sendFinished = true → Leads w l .finish (.ok ()) w [] l
  | read {r : Except Problem Unit} {v : World} {m : Link} {limit : Int} :
      m.outgoing = l.outgoing → Leads w l (.readToEnd limit) r v [] m
  | closed {r : Except Problem Unit} {v : World} {cs : List WriterCall} : l.closed = false →
      cs = [.close] ∨ cs = [.close, .waitClosed] → (r = .ok () → cs = [.close, .waitClosed]) →
      Leads w l .close r v cs { l.saying cs with closed := true }
  | closedBefore : l.closed = true → Leads w l .close (.ok ()) w [] l

variable {c : Connection} {w v : World} {l m : Link} {operation : Operation}
  {r : Except Problem Unit} {cs : List WriterCall}

theorem leads_perform (there : w.links[c.number]? = some l) (operation : Operation) :
    Ends (operation.perform c) w fun r v =>
      ∃ cs m, v.links[c.number]? = some m ∧ Leads w l operation r v cs m := by
  cases operation with
  | openStream =>
      apply Ends.mono (ends_openStream there)
      intro r v h
      cases r with
      | ok _ => exact ⟨_, _, h.2.2.there there, .opened h.1 h.2.1⟩
      | error p =>
          obtain ⟨rfl, unusable⟩ := h
          exact ⟨_, _, there, .unopened unusable⟩
  | send bs =>
      cases finished : l.sendFinished with
      | true =>
          simp only [Operation.perform, send, ends_bind, ends_getLink there, finished, if_true,
            ends_throw]
          exact ⟨_, _, there, .refused finished⟩
      | false =>
          apply Ends.mono (ends_send there finished bs)
          intro r v h
          obtain ⟨cs, begun, said, whole⟩ := h
          exact ⟨_, _, said.there there, .sent finished begun whole⟩
  | finish =>
      cases finished : l.sendFinished with
      | true =>
          simp only [Operation.perform, finish, ends_bind, ends_getLink there, finished, if_true,
            ends_pure]
          exact ⟨_, _, there, .finishedBefore finished⟩
      | false =>
          apply Ends.mono (ends_finish there finished)
          intro r v h
          cases r with
          | ok _ => exact ⟨_, _, h.there there, .finished finished rfl⟩
          | error p =>
              obtain ⟨cs, begun, said⟩ := h
              exact ⟨_, _, said.there there, .unfinished finished begun⟩
  | readToEnd limit =>
      rw [Operation.perform, ends_bind]
      apply Ends.mono (ends_readToEnd there limit)
      intro r v h
      obtain ⟨m, read, outgoing⟩ := h
      cases r with
      | ok _ => exact ⟨_, _, read.there there, .read outgoing⟩
      | error p => exact ⟨_, _, read.there there, .read outgoing⟩
  | close =>
      cases closed : l.closed with
      | true =>
          simp only [Operation.perform, close, ends_bind, ends_getLink there, closed, if_true,
            ends_pure]
          exact ⟨_, _, there, .closedBefore closed⟩
      | false =>
          apply Ends.mono (ends_close there closed)
          intro r v h
          obtain ⟨cs, made, said, whole⟩ := h
          exact ⟨_, _, said.there there, .closed closed made whole⟩

theorem Leads.said (h : Leads w l operation r v cs m) : m.said = l.said ++ cs := by
  cases h with
  | opened | unopened | refused | finishedBefore | closedBefore => exact (List.append_nil _).symm
  | sent | unfinished => exact l.said_saying cs
  | finished | closed => exact l.said_saying cs
  | read outgoing => rw [Link.said_of_outgoing outgoing, List.append_nil]

/-! What the marks rule out. None of them is taken back. -/

theorem marks_of_outgoing (h : m.outgoing = l.outgoing) : m.streamOpened = l.streamOpened ∧
    m.sendFinished = l.sendFinished ∧ m.closed = l.closed := by
  simp only [Link.outgoing, Link.mk.injEq, true_and] at h
  exact h.2.2

theorem Leads.closed_of_close (h : Leads w l .close r v cs m) : m.closed = true := by
  cases h with
  | closed => rfl
  | closedBefore closed => exact closed

theorem Leads.finished_of_finish (h : Leads w l .finish (.ok ()) v cs m) :
    m.sendFinished = true := by
  cases h with
  | finished => rfl
  | finishedBefore finished => exact finished

/-- A closed connection stays closed and gives out no stream. -/
theorem Leads.of_closed (h : Leads w l operation r v cs m) (closed : l.closed = true) :
    m.closed = true ∧ (⟨operation, w, r, v⟩ : Event).opened = false := by
  cases h with
  | opened usable _ =>
      rw [closed] at usable
      cases usable
  | read outgoing => exact ⟨(marks_of_outgoing outgoing).2.2.trans closed, rfl⟩
  | closed => exact ⟨rfl, rfl⟩
  | unopened | sent | refused | finished | unfinished | finishedBefore | closedBefore =>
      exact ⟨closed, rfl⟩

/-- How often the stream can still be given out. -/
def openable (l : Link) : Nat := if l.closed || l.streamOpened then 0 else 1

theorem Leads.openings (h : Leads w l operation r v cs m) :
    (if (⟨operation, w, r, v⟩ : Event).opened then 1 else 0) + openable m ≤ openable l := by
  cases h with
  | opened usable unopened => simp [Event.opened, openable, usable, unopened]
  | read outgoing =>
      obtain ⟨opened, _, closed⟩ := marks_of_outgoing outgoing
      simp [Event.opened, openable, opened, closed]
  | closed => simp [Event.opened, openable]
  | unopened | sent | refused | finished | unfinished | finishedBefore | closedBefore =>
      exact Nat.le_of_eq (Nat.zero_add _)

/-- How often the closing call can still be made. -/
def closable (l : Link) : Nat := if l.closed then 0 else 1

theorem Leads.closings (h : Leads w l operation r v cs m) :
    cs.count .close + closable m = closable l := by
  have none (others : .close ∉ cs) (same : m.closed = l.closed) :
      cs.count .close + closable m = closable l := by
    rw [List.count_eq_zero_of_not_mem others, Nat.zero_add, closable, closable, same]
  cases h with
  | sent _ begun => exact none (fun closing => by simpa [sending] using begun.subset closing) rfl
  | finished _ all => exact none (all ▸ not_close_finishing _) rfl
  | unfinished _ begun =>
      exact none (fun closing => not_close_finishing _ (begun.subset closing)) rfl
  | closed usable made =>
      obtain rfl | rfl := made <;> simp [closable, usable]
  | read outgoing => exact none List.not_mem_nil (marks_of_outgoing outgoing).2.2
  | opened | unopened | refused | finishedBefore | closedBefore => exact none List.not_mem_nil rfl

/-- On a finished sending side nothing is sent. -/
theorem Leads.quiet (h : Leads w l operation r v cs m) (finished : l.sendFinished = true) :
    m.sendFinished = true ∧ (∀ a ∈ cs, a = .close ∨ a = .waitClosed) ∧
      (∀ bs, operation = .send bs →
        r = .error (.fail .stream "Stream already finished") ∧ v = w) ∧
      (operation = .finish → r = .ok () ∧ v = w) := by
  cases h with
  | sent unfinished | finished unfinished | unfinished unfinished =>
      rw [finished] at unfinished
      cases unfinished
  | refused => exact ⟨finished, nofun, fun _ _ => ⟨rfl, rfl⟩, nofun⟩
  | finishedBefore => exact ⟨finished, nofun, nofun, fun _ => ⟨rfl, rfl⟩⟩
  | read outgoing =>
      exact ⟨(marks_of_outgoing outgoing).2.1.trans finished, nofun, nofun, nofun⟩
  | closed _ made =>
      refine ⟨finished, ?_, nofun, nofun⟩
      obtain rfl | rfl := made <;> simp
  | opened | unopened | closedBefore => exact ⟨finished, nofun, nofun, nofun⟩

/-! Runs. -/

/-- Events that follow one another, the first of them starting where the link is `l`. -/
inductive Course (c : Connection) : Link → List Event → Prop
  | nil {l : Link} : Course c l []
  | cons {l m : Link} {e : Event} {events : List Event} :
      Leads e.before l e.operation e.outcome e.after (e.calls c) m → Course c m events →
      Course c l (e :: events)

theorem operations_history (c : Connection) (operations : List Operation) (w : World) :
    (c.history operations w).map Event.operation = operations := by
  induction operations generalizing w with
  | nil => rfl
  | cons operation operations ih =>
      unfold history
      split <;> exact congrArg (operation :: ·) (ih _)

theorem saidOn_eq (there : w.links[c.number]? = some l) : c.saidOn w = l.said := by
  rw [saidOn, there]
  rfl

theorem course_history (there : w.links[c.number]? = some l) (operations : List Operation) :
    c.Course l (c.history operations w) := by
  induction operations generalizing w l with
  | nil => exact .nil
  | cons operation operations ih =>
      have called {r : Except Problem Unit} {v : World} {cs : List WriterCall} {m : Link}
          (here : v.links[c.number]? = some m) (leads : Leads w l operation r v cs m) :
          (⟨operation, w, r, v⟩ : Event).calls c = cs := by
        rw [Event.calls, saidOn_eq here, saidOn_eq there, leads.said]
        exact List.drop_left
      have ends := leads_perform there operation
      unfold history
      cases performed : operation.perform c w with
      | ok _ v =>
          obtain ⟨cs, m, here, leads⟩ := ends.of_ok performed
          exact .cons (by rwa [called here leads]) (ih here)
      | error p v =>
          obtain ⟨cs, m, here, leads⟩ := ends.of_error performed
          exact .cons (by rwa [called here leads]) (ih here)

variable {e : Event} {events : List Event} {I : Link → Prop} {P Q : Event → Prop}

/-- What every step keeps is found at every event, and what it implies too. -/
theorem Course.always (keeps : ∀ {e : Event} {l m : Link}, I l →
      Leads e.before l e.operation e.outcome e.after (e.calls c) m → I m ∧ Q e)
    (h : c.Course l events) (start : I l) : ∀ e ∈ events, Q e := by
  induction h with
  | nil => exact fun _ => nofun
  | cons leads _ ih =>
      obtain ⟨next, here⟩ := keeps start leads
      exact List.forall_mem_cons.2 ⟨here, ih next⟩

/-- What one event brings about is found at all events behind it. -/
theorem Course.afterwards (sets : ∀ {e : Event} {l m : Link}, P e →
      Leads e.before l e.operation e.outcome e.after (e.calls c) m → I m)
    (keeps : ∀ {e : Event} {l m : Link}, I l →
      Leads e.before l e.operation e.outcome e.after (e.calls c) m → I m ∧ Q e)
    (h : c.Course l events) : events.Pairwise fun e f => P e → Q f := by
  induction h with
  | nil => exact .nil
  | cons leads later ih =>
      exact .cons (fun f member set => later.always keeps (sets set leads) f member) ih

theorem Course.openings (h : c.Course l events) : events.countP Event.opened ≤ openable l := by
  induction h with
  | nil => exact Nat.zero_le _
  | @cons l m e events leads _ ih =>
      have here : (if e.opened then 1 else 0) + openable m ≤ openable l := leads.openings
      rw [List.countP_cons]
      omega

theorem Course.closings (h : c.Course l events) :
    (events.flatMap (Event.calls c)).count .close ≤ closable l := by
  induction h with
  | nil => exact Nat.zero_le _
  | cons leads _ ih =>
      have here := leads.closings
      rw [List.flatMap_cons, List.count_append]
      omega

theorem Course.unopened (h : c.Course l events) :
    events.Pairwise fun e f => e.operation = .close → f.opened = false := by
  refine h.afterwards (I := fun l => l.closed = true) ?_ fun closed leads => leads.of_closed closed
  intro e l m closing leads
  rw [closing] at leads
  exact leads.closed_of_close

theorem Course.quiet (h : c.Course l events) :
    events.Pairwise fun e f => e.operation = .finish ∧ e.outcome = .ok () → f.Quiet c := by
  refine h.afterwards (I := fun l => l.sendFinished = true) ?_ ?_
  · intro e l m finishing leads
    rw [finishing.1, finishing.2] at leads
    exact leads.finished_of_finish
  · intro e l m finished leads
    obtain ⟨still, calls, send, finish⟩ := leads.quiet finished
    exact ⟨still, calls, send, finish⟩

/-- For any operations on a connection, one after another and whatever of them fails: the stream is
given out once at most, and not after a closing; the closing call is made once at most; and once the
sending side was finished nothing more is sent. -/
theorem opened_finished_closed_once (c : Connection) {w : World} {l : Link}
    (there : w.links[c.number]? = some l) (operations : List Operation) :
    let events := c.history operations w
    events.map Event.operation = operations ∧
    events.countP Event.opened ≤ 1 ∧
    (events.Pairwise fun e f => e.operation = .close → f.opened = false) ∧
    (events.flatMap (Event.calls c)).count .close ≤ 1 ∧
    events.Pairwise fun e f => e.operation = .finish ∧ e.outcome = .ok () → f.Quiet c := by
  have course := course_history there operations
  have once (b : Bool) : (if b then 0 else 1) ≤ 1 := by cases b <;> decide
  exact ⟨operations_history c operations w, Nat.le_trans course.openings (once _), course.unopened,
    Nat.le_trans course.closings (once _), course.quiet⟩

/-- A connection whose first drain fails, and its closing call too. The second finishing succeeds,
so that the third does nothing and what is sent is refused. -/
theorem opened_finished_closed_once_failing :
    let b : Behaviour := { fails := fun kind n =>
      if kind = .drain ∧ n = 1 ∨ kind = .close then some (.system .reset "gone") else none }
    let c : Connection := ⟨0, ⟨⟨List.replicate 32 1, rfl⟩⟩, [], .whole 1⟩
    let w : World := { network := .unreachable, links := #[.silent b] }
    let events := c.history [.openStream, .finish, .finish, .send [7], .finish, .close,
      .openStream, .close] w
    events.map (·.outcome.isOk) = [true, false, true, false, true, false, false, true] ∧
    events.countP Event.opened ≤ 1 ∧ (events.flatMap (Event.calls c)).count .close ≤ 1 := by
  intro b c w events
  have there : w.links[c.number]? = some (.silent b) := rfl
  obtain ⟨_, opened, _, closed, _⟩ := opened_finished_closed_once c there _
  exact ⟨by decide +kernel, opened, closed⟩

end ContentTracker.Connection
