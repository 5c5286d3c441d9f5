import ContentTracker.Proofs.Connection.Problems
import ContentTracker.Proofs.Endpoint.Attempts
import ContentTracker.Proofs.Endpoint.Problems
import ContentTracker.Proofs.Exchange.Phases

/-! In which problems exchanges end, and what these do to the phase. Where the network raises only
problems that exchanges know, every exchange ends as done or failed. -/

namespace ContentTracker.Exchange

open Net World

variable {T H : Problem → Prop} {α : Type} {x : Exchange} {s : Progress}

theorem native_isSettled : Native (fun p => p.isSettled) (fun p => p.isSettled) where
  raised _ h := h
  incomplete _ _ := rfl
  timeout := rfl

/-- A step ended without harm to the world it works on. -/
def Safe (T H : Problem → Prop) (s : Progress) (r : Except Problem α) (t : Progress) : Prop :=
  Sound T H s.world r t.world

theorem Safe.bind {β : Type} {step : Step α} {next : α → Step β} (first : Ends step s (Safe T H s))
    (later : ∀ a t, Safe T H s (.ok a) t → Ends (next a) t (Safe T H t)) :
    Ends (step >>= next) s (Safe T H s) :=
  Ends.bind first (fun a t h => (later a t h).mono fun _ _ k => Sound.trans h k)
    fun p _ h => Sound.retold h (Sound.problem h p rfl)

theorem safe_during {op : Net α} (h : Ends op s.world (Sound T H s.world)) :
    Ends (during op) s (Safe T H s) :=
  ends_during_of h

theorem safe_enter (x : Exchange) (phase : Phase) (h : s.world.Tame T) :
    Ends (x.enter phase) s (Safe T H s) :=
  ⟨⟨h.network, h.links⟩, Nat.le_refl _, rfl, Rat.le_refl, by simp⟩

theorem safe_ask (native : Native T H) (failing : ∀ f, H (.failure f)) (x : Exchange)
    {c : Connection} (h : s.world.Tame T) (bound : c.number < s.world.links.size)
    (payload : Octets) : Ends (x.ask c payload) s (Safe T H s) := by
  apply Safe.bind (safe_during (Connection.sound_openStream failing h bound))
  intro _ s₁ h₁
  apply Safe.bind (safe_enter x _ h₁.world)
  intro _ s₂ h₂
  have bound₂ := Nat.lt_of_lt_of_le bound (Nat.le_trans h₁.size h₂.size)
  apply Safe.bind (safe_during (Connection.sound_send native failing h₂.world bound₂ _))
  intro _ s₃ h₃
  have bound₃ := Nat.lt_of_lt_of_le bound₂ h₃.size
  apply Safe.bind (safe_during (Connection.sound_finish native failing h₃.world bound₃))
  intro _ s₄ h₄
  apply Safe.bind (safe_enter x _ h₄.world)
  intro _ s₅ h₅
  exact safe_enter x _ h₅.world

theorem safe_converse (native : Native T H) (failing : ∀ f, H (.failure f)) (x : Exchange)
    {c : Connection} (h : s.world.Tame T) (bound : c.number < s.world.links.size)
    (payload : Octets) {decode : Octets → Except Problem α}
    (decoding : ∀ bs p, decode bs = .error p → H p) :
    Ends (x.converse c payload decode) s (Safe T H s) := by
  rw [converse_eq_ask]
  apply Safe.bind (safe_ask native failing x h bound payload)
  intro _ t asked
  have there := Nat.lt_of_lt_of_le bound asked.size
  apply Safe.bind (safe_during (Connection.sound_readToEnd native failing asked.world there _))
  intro bs u read
  rw [ends_ofExcept]
  exact ⟨read.world, Nat.le_refl _, rfl, Rat.le_refl, fun p refused => .inl (decoding bs p refused)⟩

/-- A connection that was reached is there. -/
theorem safe_reach (native : Native T H) (failing : ∀ f, H (.failure f)) (x : Exchange)
    (m : Message) (h : s.world.Tame T) : Ends (x.reach m) s fun r t => Safe T H s r t ∧
      ∀ payload c, r = .ok (payload, c) → c.number < t.world.links.size := by
  rw [reach, ends_bind, ends_ofExcept]
  cases m.encodeRequest with
  | error f => exact ⟨.error h (.inl (failing _)), by simp⟩
  | ok payload =>
      refine (safe_enter x .connecting h).bind (fun _ u entered => ?_)
        fun p t h => ⟨Sound.retold h (Sound.problem h p rfl), by simp⟩
      rw [ends_bind, ends_during]
      have connecting : Ends (x.endpoint.connect x.tracker x.protocol) u.world (Sound T H u.world) :=
        Endpoint.sound_connect native (fun f _ => failing f) entered.world x.endpoint
      apply Ends.mono (connecting.and (x.endpoint.ends_connect x.tracker x.protocol u.world))
      intro r v h
      obtain ⟨sound, connects⟩ := h
      cases r with
      | ok c =>
          refine ⟨Sound.trans entered (sound.trans (.ok sound.world)), ?_⟩
          rintro _ _ ⟨⟩
          exact connects.there
      | error p => exact ⟨Sound.trans entered (sound.retold (sound.problem p rfl)), by simp⟩

theorem safe_body (native : Native T H) (failing : ∀ f, H (.failure f)) (x : Exchange)
    (m : Message) (h : s.world.Tame T) {decode : Octets → Except Problem α}
    (decoding : ∀ bs p, decode bs = .error p → H p) :
    Ends (x.body m decode) s fun r t => Safe T H s r t ∧
      ∀ a c, r = .ok (a, c) → c.number < t.world.links.size := by
  refine (safe_reach native failing x m h).bind (fun reached t found => ?_) fun p t h => ?_
  · obtain ⟨safe, there⟩ := found
    have bound := there _ _ rfl
    refine (safe_converse native failing x safe.world bound reached.1 decoding).bind (fun a u h => ?_)
      fun p u h => ?_
    · refine ⟨Sound.trans safe (Sound.trans h (.ok h.world)), ?_⟩
      rintro _ _ ⟨⟩
      exact Nat.lt_of_lt_of_le bound h.size
    · exact ⟨Sound.trans safe (Sound.retold h (Sound.problem h p rfl)), by simp⟩
  · exact ⟨Sound.retold h.1 (Sound.problem h.1 p rfl), by simp⟩

/-- A run ended in one of the two terminal phases, the one that its outcome asks for. -/
def Concluded (r : Except Problem α) (t : Progress) : Prop :=
  match r with
  | .ok _ => t.phase = .done
  | .error _ => t.phase = .failed

/-- Where only problems arise that exchanges know, and closing goes well, a run ends as done or
failed. -/
theorem ends_run_tame (x : Exchange) (m : Message) {decode : Octets → Except Problem α}
    (fresh : s.phase = .idle) (tame : s.world.Tame fun p => p.isSettled)
    (decoding : ∀ bs p, decode bs = .error p → p.isSettled) :
    Ends (x.run m decode) s Concluded := by
  have safe := safe_body native_isSettled (fun _ => rfl) x m tame decoding
  apply Ends.mono (x.ends_run_ending m decode fresh)
  intro r t h
  cases h with
  | answered _ _ phase => exact phase
  | unclosed body closed _ =>
      obtain ⟨kept, there⟩ := safe.of_ok body
      cases (Connection.ends_close_tame kept.world (there _ _ rfl)).of_error closed
  | failed _ _ phase => exact phase
  | passed body unsettled _ =>
      obtain settled | ⟨rfl, _⟩ := Sound.problem (safe.of_error body).1 _ rfl
      · exact absurd settled unsettled
      · exact absurd rfl unsettled

/-- How a run ends otherwise: it is failed exactly if its body met a problem that exchanges know,
and it stays under way if the body met another or its connection could not be closed. -/
theorem ends_run_phase (x : Exchange) (m : Message) (decode : Octets → Except Problem α)
    (fresh : s.phase = .idle) :
    Ends (x.run m decode) s fun r t =>
      match r with
      | .ok _ => t.phase = .done
      | .error q =>
        (t.phase = .failed ↔ ∃ p u, x.body m decode s = .error p u ∧ p.isSettled) ∧
        (t.phase.isUnderWay ↔
          (∃ p u, x.body m decode s = .error p u ∧ ¬ p.isSettled) ∨
          ∃ a c u v, x.body m decode s = .ok (a, c) u ∧ c.close u.world = .error q v) := by
  apply Ends.mono (x.ends_run_ending m decode fresh)
  intro r t h
  cases h with
  | answered _ _ phase => exact phase
  | unclosed body closed phase =>
      refine ⟨by simp [body, phase], ?_⟩
      rw [phase]
      exact iff_of_true rfl (.inr ⟨_, _, _, _, body, closed⟩)
  | failed body settled phase => simp [body, settled, phase, Phase.isUnderWay]
  | passed body settled underWay =>
      have other : t.phase ≠ .failed := by
        intro failed
        simp [failed, Phase.isUnderWay] at underWay
      simp [body, settled, underWay, other]

/-- When a run ends in a result, the exchange is done. When it ends in a problem, the exchange is
failed exactly if its body met a problem of a kind that exchanges know; otherwise it stays where it
was. In a network that raises no other problems, and where closing goes well, each exchange ends as
done or failed. -/
theorem run_ending (x : Exchange) (m : Message) (decode : Octets → Except Problem α) (w : World) :
    (Ends (x.run m decode) { world := w } fun r t =>
      match r with
      | .ok _ => t.phase = .done
      | .error q =>
        (t.phase = .failed ↔ ∃ p u, x.body m decode { world := w } = .error p u ∧ p.isSettled) ∧
        (t.phase.isUnderWay ↔
          (∃ p u, x.body m decode { world := w } = .error p u ∧ ¬ p.isSettled) ∨
          ∃ a c u v, x.body m decode { world := w } = .ok (a, c) u ∧ c.close u.world = .error q v)) ∧
    ((w.Tame fun p => p.isSettled) → (∀ bs p, decode bs = .error p → p.isSettled) →
      Ends (x.run m decode) { world := w } Concluded) :=
  ⟨x.ends_run_phase m decode rfl, fun tame decoding => x.ends_run_tame m rfl tame decoding⟩

/-- An exchange with a node that does not answer. -/
def missed : Exchange where
  endpoint := {
    node := Endpoint.nodeOf 7
    book := [(Endpoint.nodeOf 7, [⟨"localhost", 4433⟩])] }
  tracker := Endpoint.nodeOf 7
  protocol := [65]
  sizeLimit := 1024

theorem tame_unreachable : World.Tame (fun p => p.isSettled) { network := .unreachable } where
  network _ _ := {
    dials := by rintro _ ⟨⟩; rfl
    calls := by rintro _ _ _ ⟨⟩
    reads := by rintro _ _ ⟨⟩
    closes := fun _ => rfl
    waits := by rintro _ _ ⟨⟩ }
  links := by simp

/-- A question about some content. -/
def question : Message := .query { content := ⟨⟨⟨List.replicate 32 0, rfl⟩⟩, .raw⟩ }

def readAnswer (bs : Octets) : Except Problem QueryResponse :=
  (decodeResponse bs).mapError (·.problem)

theorem settled_readAnswer (bs : Octets) (p : Problem) (h : readAnswer bs = .error p) :
    p.isSettled := by
  obtain ⟨f, rfl⟩ := failure_of_fault h
  rfl

theorem run_ending_missed :
    Ends (missed.run question readAnswer) { world := { network := .unreachable } } Concluded :=
  (run_ending missed question readAnswer { network := .unreachable }).2 tame_unreachable
    settled_readAnswer

end ContentTracker.Exchange
