import ContentTracker.Exchange
import ContentTracker.Proofs.Network.Traffic

/-! In which phase an exchange ends. A problem fails it only if it is of a kind that an exchange
knows, and a connection that cannot be closed leaves it where it is. -/

namespace ContentTracker

/-- The phases between the start of an exchange and its end. -/
def Phase.isUnderWay : Phase → Bool
  | .connecting | .streamOpen | .requestSent | .awaitingResponse => true
  | .idle | .done | .failed => false

/-- Whether an exchange is failed by a problem. Any other problem only passes through it. -/
def Problem.isSettled : Problem → Bool
  | .failure _ | .misconfigured _ | .cancelled | .system _ _ | .incomplete _ _ => true
  | _ => false

namespace Exchange

variable {α : Type} {x : Exchange} {s : Progress}

@[simp] theorem ends_during (op : Net α) (s : Progress) (Q : Except Problem α → Progress → Prop) :
    Ends (during op) s Q ↔ Ends op s.world fun r w => Q r { s with world := w } := by
  unfold Ends during
  cases op s.world <;> exact Iff.rfl

theorem ends_during_of {op : Net α} {s : Progress} {Q : Except Problem α → World → Prop}
    (h : Ends op s.world Q) : Ends (during op) s fun r t => Q r t.world := by
  rw [ends_during]
  exact h

/-- Octets that cannot be decoded give a failure. -/
theorem failure_of_fault {e : Except Wire.DecodeFault α} {p : Problem}
    (h : e.mapError (·.problem) = .error p) : ∃ f, p = .failure f := by
  cases e with
  | ok a => cases h
  | error fault =>
      cases h
      exact ⟨_, rfl⟩

@[simp] theorem ends_outcome (step : Step α) (s : Progress)
    (Q : Except Problem (Except Problem α) → Progress → Prop) :
    Ends (outcome step) s Q ↔ Ends step s fun r t => Q (.ok r) t := by
  unfold Ends outcome
  cases step s <;> exact Iff.rfl

theorem ends_enter (x : Exchange) (phase : Phase) (s : Progress) :
    Ends (x.enter phase) s fun r t => r = .ok () ∧ t.phase = phase ∧ s.world.Idles t.world :=
  ⟨rfl, rfl, rfl, rfl, rfl⟩

/-- Where a problem ends the exchange, the phase says so; where it does not, the phase is left. -/
theorem ends_settle (x : Exchange) (connected : Bool) (p : Problem) (s : Progress) :
    Ends (x.settle connected p) s fun r t => (∃ q, r = .ok q) ∧ s.world.Idles t.world ∧
      t.phase = if p.isSettled then .failed else s.phase := by
  cases p
  case failure | misconfigured | cancelled | system | incomplete =>
    exact ⟨⟨_, rfl⟩, ⟨rfl, rfl, rfl⟩, rfl⟩
  all_goals exact ⟨⟨_, rfl⟩, .refl _, rfl⟩

theorem ends_settling {part : Step α} {connected : Bool} {P : Except Problem α → Progress → Prop}
    (h : Ends part s P) : Ends (x.settling connected part) s fun r t =>
      match r with
      | .ok a => P (.ok a) t
      | .error _ => ∃ p u, P (.error p) u ∧ u.world.Idles t.world ∧
          t.phase = if p.isSettled then .failed else u.phase := by
  rw [settling, ends_bind, ends_outcome]
  apply Ends.mono h
  intro r u h
  cases r with
  | ok a => exact h
  | error p =>
      dsimp only
      rw [ends_bind]
      apply Ends.mono (x.ends_settle connected p u)
      intro r t settled
      obtain ⟨⟨q, rfl⟩, idle, phase⟩ := settled
      exact ⟨p, u, h, idle, phase⟩

/-! The phases that the parts of an exchange go through. -/

theorem during_phase (op : Net α) (s : Progress) :
    Ends (during op) s fun _ t => t.phase = s.phase := by
  unfold Ends during
  cases op s.world <;> rfl

/-- A request that can be written leads to dialing, however that ends. -/
theorem reach_phase (x : Exchange) (m : Message) (s : Progress) :
    Ends (x.reach m) s fun r t => t.phase = .connecting ∨
      t = s ∧ ∃ f, m.encodeRequest = .error f ∧ r = .error f.problem := by
  rw [reach, ends_bind, ends_ofExcept]
  cases m.encodeRequest with
  | error f => exact .inr ⟨rfl, f, rfl, rfl⟩
  | ok payload =>
      apply Ends.next (x.ends_enter .connecting s)
      intro u entered
      refine (during_phase _ u).bind (fun c v same => ?_) fun p v same => ?_
      · exact .inl (same.trans entered.1)
      · exact .inl (same.trans entered.1)

theorem converse_phase (x : Exchange) (c : Connection) (payload : Octets)
    (decode : Octets → Except Problem α) (underWay : s.phase.isUnderWay) :
    Ends (x.converse c payload decode) s fun r t =>
      t.phase.isUnderWay ∧ ∀ a, r = .ok a → t.phase = .awaitingResponse := by
  have stopped {p : Problem} {t : Progress} (on : t.phase.isUnderWay) : t.phase.isUnderWay ∧
      ∀ a, (.error p : Except Problem α) = .ok a → t.phase = .awaitingResponse := ⟨on, by simp⟩
  refine (during_phase _ s).bind (fun _ s₁ _ => ?_) fun p t same => stopped (same ▸ underWay)
  apply Ends.next (x.ends_enter .streamOpen s₁)
  intro s₂ entered
  have open₂ : s₂.phase.isUnderWay := by rw [entered.1]; rfl
  refine (during_phase _ s₂).bind (fun _ s₃ same₃ => ?_) fun p t same => stopped (same ▸ open₂)
  refine (during_phase _ s₃).bind (fun _ s₄ _ => ?_) fun p t same => stopped (same ▸ same₃ ▸ open₂)
  apply Ends.next (x.ends_enter .requestSent s₄)
  intro s₅ _
  apply Ends.next (x.ends_enter .awaitingResponse s₅)
  intro s₆ entered
  have waiting : s₆.phase = .awaitingResponse := entered.1
  refine (during_phase _ s₆).bind (fun bs s₇ same => ?_) fun p t same => stopped ?_
  · rw [ends_ofExcept]
    exact ⟨by rw [same, waiting]; rfl, fun _ _ => same.trans waiting⟩
  · rw [same, waiting]
    rfl

/-- The part of an exchange that ends with a connection. -/
def dial (x : Exchange) : Step Connection := do
  x.enter .connecting
  during (x.endpoint.connect x.tracker x.protocol)

/-- A request that can be written is handed on with the connection. -/
theorem reach_of_encodable (x : Exchange) {m : Message} {payload : Octets}
    (encodable : m.encodeRequest = .ok payload) (s : Progress) :
    x.reach m s = match x.dial s with
      | .ok c t => .ok (payload, c) t
      | .error p t => .error p t := by
  have same : x.reach m = (fun c => (payload, c)) <$> x.dial := by
    rw [reach, encodable, dial, map_bind]
    rfl
  rw [same]
  change EStateM.map _ x.dial s = _
  unfold EStateM.map
  cases x.dial s <;> rfl

/-- The part of a talk that comes before the reading. -/
def ask (x : Exchange) (c : Connection) (payload : Octets) : Step Unit := do
  during c.openStream
  x.enter .streamOpen
  during (c.send payload)
  during c.finish
  x.enter .requestSent
  x.enter .awaitingResponse

theorem converse_eq_ask (x : Exchange) (c : Connection) (payload : Octets)
    (decode : Octets → Except Problem α) : x.converse c payload decode = (do
      x.ask c payload
      let response ← during (c.readToEnd x.sizeLimit)
      MonadExcept.ofExcept (decode response)) := by
  simp only [converse, ask, bind_assoc]

/-- What a run does but for settling a problem and for closing the connection. -/
def body (x : Exchange) (m : Message) (decode : Octets → Except Problem α) :
    Step (α × Connection) := do
  let (payload, c) ← x.reach m
  let a ← x.converse c payload decode
  pure (a, c)

theorem body_phase (x : Exchange) (m : Message) (decode : Octets → Except Problem α)
    (s : Progress) : Ends (x.body m decode) s fun r t =>
      match r with
      | .ok _ => t.phase = .awaitingResponse
      | .error p => p.isSettled ∨ t.phase.isUnderWay := by
  refine (x.reach_phase m s).bind (fun reached t h => ?_) fun p t h => ?_
  · obtain connecting | ⟨_, _, _, absurd⟩ := h
    · refine (x.converse_phase reached.2 reached.1 decode (by rw [connecting]; rfl)).bind
        (fun a u h => h.2 a rfl) fun p u h => .inr h.1
    · cases absurd
  · obtain connecting | ⟨_, f, _, refused⟩ := h
    · exact .inr (by rw [connecting]; rfl)
    · cases refused
      exact .inl rfl

/-- Settling gives the phase its last word on a problem. -/
theorem ends_settling_error {part : Step α} {connected : Bool} {p : Problem} {u : Progress}
    (e : part s = .error p u) : Ends (x.settling connected part) s fun r t =>
      (∃ q, r = .error q) ∧ t.phase = if p.isSettled then .failed else u.phase := by
  have only : Ends part s fun r t => r = .error p ∧ t = u := .on_error e ⟨rfl, rfl⟩
  apply Ends.mono (ends_settling only)
  intro r t h
  cases r with
  | ok a => simp at h
  | error q =>
      obtain ⟨p', u', ⟨same, rfl⟩, _, phase⟩ := h
      cases same
      exact ⟨⟨q, rfl⟩, phase⟩

theorem settling_ok {part : Step α} {connected : Bool} {a : α} {t : Progress}
    (e : part s = .ok a t) : x.settling connected part s = .ok a t := by
  have only : Ends part s fun r u => r = .ok a ∧ u = t := .on_ok e ⟨rfl, rfl⟩
  refine Ends.eq_ok ((ends_settling only).mono fun r u h => ?_)
  cases r with
  | ok b => exact h
  | error q => simp at h

/-- How a talk ends is decided by the exchange of words and, where that gave a response, by the
closing. -/
theorem talk_ending (x : Exchange) (c : Connection) (payload : Octets)
    (decode : Octets → Except Problem α) (s : Progress) :
    Ends (x.talk c payload decode) s fun r t =>
      match x.converse c payload decode s with
      | .error p u => (∃ q, r = .error q) ∧ t.phase = if p.isSettled then .failed else u.phase
      | .ok a u =>
        match c.close u.world with
        | .ok _ _ => r = .ok a ∧ t.phase = .done
        | .error q _ => r = .error q ∧ t.phase = u.phase := by
  rw [talk, ends_bind, ends_outcome]
  cases spoken : x.converse c payload decode s with
  | error p u =>
      apply Ends.mono (ends_settling_error spoken)
      intro r t h
      obtain ⟨⟨q, rfl⟩, phase⟩ := h
      refine (during_phase c.close t).bind (fun _ v same => ?_) fun q v same => ?_
      · exact ⟨⟨q, rfl⟩, same.trans phase⟩
      · exact ⟨⟨q, rfl⟩, same.trans phase⟩
  | ok a u =>
      refine .on_ok (settling_ok spoken) ?_
      dsimp only
      rw [ends_bind, ends_during]
      cases closed : c.close u.world with
      | ok _ v =>
          refine .on_ok closed ?_
          dsimp only
          rw [ends_bind, ends_ofExcept]
          apply Ends.next (x.ends_enter .done _)
          intro t entered
          exact ⟨rfl, entered.1⟩
      | error q v => exact .on_error closed ⟨rfl, rfl⟩

theorem body_of_reach_error {x : Exchange} {m : Message} {p : Problem} {u : Progress}
    (e : x.reach m s = .error p u) (decode : Octets → Except Problem α) :
    x.body m decode s = .error p u := by
  refine Ends.eq_error ?_
  rw [body, ends_bind]
  exact .on_error e ⟨rfl, rfl⟩

theorem body_of_reach {x : Exchange} {m : Message} {payload : Octets} {c : Connection}
    {u : Progress} (e : x.reach m s = .ok (payload, c) u) (decode : Octets → Except Problem α) :
    x.body m decode s = match x.converse c payload decode u with
      | .ok a t => .ok (a, c) t
      | .error p t => .error p t := by
  cases spoken : x.converse c payload decode u with
  | ok a t =>
      refine Ends.eq_ok ?_
      rw [body, ends_bind]
      refine .on_ok e ?_
      dsimp only
      rw [ends_bind]
      exact .on_ok spoken ⟨rfl, rfl⟩
  | error p t =>
      refine Ends.eq_error ?_
      rw [body, ends_bind]
      refine .on_ok e ?_
      dsimp only
      rw [ends_bind]
      exact .on_error spoken ⟨rfl, rfl⟩

/-- The ways in which a run that started in `s` ends. -/
inductive Ending (x : Exchange) (m : Message) (decode : Octets → Except Problem α) (s : Progress) :
    Except Problem α → Progress → Prop
  | answered {a : α} {c : Connection} {u t : Progress} {v : World} :
      x.body m decode s = .ok (a, c) u → c.close u.world = .ok () v → t.phase = .done →
      Ending x m decode s (.ok a) t
  | unclosed {a : α} {c : Connection} {u t : Progress} {v : World} {q : Problem} :
      x.body m decode s = .ok (a, c) u → c.close u.world = .error q v →
      t.phase = .awaitingResponse → Ending x m decode s (.error q) t
  | failed {p q : Problem} {u t : Progress} :
      x.body m decode s = .error p u → p.isSettled → t.phase = .failed →
      Ending x m decode s (.error q) t
  | passed {p q : Problem} {u t : Progress} :
      x.body m decode s = .error p u → ¬ p.isSettled → t.phase.isUnderWay →
      Ending x m decode s (.error q) t

theorem Ending.of_error {x : Exchange} {m : Message} {decode : Octets → Except Problem α}
    {p q : Problem} {u t : Progress} (e : x.body m decode s = .error p u)
    (phase : t.phase = if p.isSettled then .failed else u.phase) :
    x.Ending m decode s (.error q) t := by
  by_cases settled : p.isSettled
  · exact .failed e settled (by rw [phase, if_pos settled])
  · have underWay := ((x.body_phase m decode s).of_error e).resolve_left settled
    exact .passed e settled (by rwa [phase, if_neg settled])

theorem ends_run_ending (x : Exchange) (m : Message) (decode : Octets → Except Problem α)
    (fresh : s.phase = .idle) : Ends (x.run m decode) s (x.Ending m decode s) := by
  rw [run, ends_bind, ends_get]
  simp only [fresh, ne_eq, not_true_eq_false, if_false]
  cases reached : x.reach m s with
  | error p u =>
      have known := body_of_reach_error reached decode
      refine (ends_settling_error reached).bind (fun _ t h => ?_) fun q t h => .of_error known h.2
      obtain ⟨⟨q, absurd⟩, _⟩ := h
      cases absurd
  | ok found u =>
      obtain ⟨payload, c⟩ := found
      have known := body_of_reach reached decode
      rw [ends_bind]
      refine .on_ok (settling_ok reached) ((x.talk_ending c payload decode u).mono fun r t h => ?_)
      cases spoken : x.converse c payload decode u with
      | error p v =>
          simp only [spoken] at h known
          obtain ⟨⟨q, rfl⟩, phase⟩ := h
          exact .of_error known phase
      | ok a v =>
          simp only [spoken] at h known
          cases closed : c.close v.world with
          | ok _ v' =>
              simp only [closed] at h
              obtain ⟨rfl, phase⟩ := h
              exact .answered known closed phase
          | error q v' =>
              simp only [closed] at h
              obtain ⟨rfl, phase⟩ := h
              exact .unclosed known closed (phase.trans ((x.body_phase m decode s).of_ok known))

/-- An exchange that has run is not idle again. -/
theorem run_phase (x : Exchange) (m : Message) (decode : Octets → Except Problem α)
    (fresh : s.phase = .idle) : Ends (x.run m decode) s fun _ t => t.phase ≠ .idle := by
  apply Ends.mono (x.ends_run_ending m decode fresh)
  intro r t h
  cases h with
  | answered _ _ phase | unclosed _ _ phase | failed _ _ phase => simp [phase]
  | passed _ _ underWay =>
      intro idle
      simp [idle, Phase.isUnderWay] at underWay

end Exchange

end ContentTracker
