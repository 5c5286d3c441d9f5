import ContentTracker.Proofs.Endpoint.Dialing
import ContentTracker.Proofs.Exchange.Phases

/-! What the parts of an exchange leave behind in the world. -/

namespace ContentTracker

open Net World

/-- From one state of a link to another, `cs` was said. -/
structure Link.Tells (l : Link) (cs : List WriterCall) (m : Link) : Prop where
  behaviour : m.behaviour = l.behaviour
  closed : m.closed = l.closed
  said : m.said = l.said ++ cs

theorem Link.Tells.trans {l m n : Link} {cs ds : List WriterCall} (first : l.Tells cs m)
    (second : m.Tells ds n) : l.Tells (cs ++ ds) n :=
  ⟨second.behaviour.trans first.behaviour, second.closed.trans first.closed, by
    rw [second.said, first.said, List.append_assoc]⟩

theorem Link.tells_saying (l : Link) (cs : List WriterCall) : l.Tells cs (l.saying cs) :=
  ⟨rfl, rfl, l.said_saying cs⟩

theorem Link.tells_of_outgoing {l m : Link} (h : m.outgoing = l.outgoing) : l.Tells [] m := by
  have said := Link.said_of_outgoing h
  simp only [Link.outgoing, Link.mk.injEq] at h
  exact ⟨h.1, h.2.2.2.2.2.2.2.2, by rw [said, List.append_nil]⟩

namespace Exchange

variable {α β : Type} {x : Exchange} {s : Progress}

/-- A request that cannot be written leaves all as it was, and any other leads to dialing. -/
theorem ends_reach (x : Exchange) (m : Message) (s : Progress) :
    Ends (x.reach m) s fun r t =>
      match m.encodeRequest with
      | .error f => r = .error f.problem ∧ t = s
      | .ok payload => ∃ e, r = e.map (payload, ·) ∧
          x.endpoint.Connects x.tracker x.protocol s.world e t.world := by
  rw [reach, ends_bind, ends_ofExcept]
  cases m.encodeRequest with
  | error f => exact ⟨rfl, rfl⟩
  | ok payload =>
      apply Ends.next (x.ends_enter .connecting s)
      intro u entered
      obtain ⟨_, idle⟩ := entered
      rw [ends_bind, ends_during]
      apply Ends.mono (x.endpoint.ends_connect x.tracker x.protocol u.world)
      intro r v h
      have connected := h.after idle
      cases r with
      | ok c => exact ⟨.ok c, rfl, connected⟩
      | error p => exact ⟨.error p, rfl, connected⟩

/-- A step ended that says `planned` on connection `i`, or the beginning of it where there is no
result. Where there is one, `P` holds of what the link has become. -/
def Speaks (i : Nat) (l : Link) (planned : List WriterCall) (P : Link → Prop) (w : World)
    (r : Except Problem α) (v : World) : Prop :=
  ∃ m cs, w.Swaps i m v ∧ l.Tells cs m ∧ cs <+: planned ∧ ∀ a, r = .ok a → cs = planned ∧ P m

section Speaking

variable {i : Nat} {l : Link} {planned rest : List WriterCall} {P Q : Link → Prop} {w : World}

theorem Speaks.bind {step : Step α} {next : α → Step β} (there : s.world.links[i]? = some l)
    (first : Ends step s fun r t => Speaks i l planned P s.world r t.world)
    (later : ∀ a t m, t.world.links[i]? = some m → m.behaviour = l.behaviour → P m →
      Ends (next a) t fun r u => Speaks i m rest Q t.world r u.world) :
    Ends (step >>= next) s fun r u => Speaks i l (planned ++ rest) Q s.world r u.world := by
  refine first.bind (fun a t h => ?_) fun p t h => ?_
  · obtain ⟨m, cs, swapped, told, _, all⟩ := h
    obtain ⟨rfl, known⟩ := all a rfl
    apply Ends.mono (later a t m (swapped.there there) told.behaviour known)
    intro r u h
    obtain ⟨n, ds, swapped', told', begun, all'⟩ := h
    refine ⟨n, cs ++ ds, swapped.trans swapped', told.trans told',
      (List.prefix_append_right_inj cs).2 begun, fun b e => ?_⟩
    obtain ⟨rfl, known'⟩ := all' b e
    exact ⟨rfl, known'⟩
  · obtain ⟨m, cs, swapped, told, begun, _⟩ := h
    exact ⟨m, cs, swapped, told, begun.trans (List.prefix_append _ _), by simp⟩

theorem Speaks.skip {step : Step α} {next : α → Step β} (there : s.world.links[i]? = some l)
    (first : Ends step s fun r t => Speaks i l [] P s.world r t.world)
    (later : ∀ a t m, t.world.links[i]? = some m → m.behaviour = l.behaviour → P m →
      Ends (next a) t fun r u => Speaks i m rest Q t.world r u.world) :
    Ends (step >>= next) s fun r u => Speaks i l rest Q s.world r u.world :=
  Speaks.bind there first later

theorem Speaks.silently {r : Except Problem α} {v : World} {m : Link} (swapped : w.Swaps i m v)
    (told : l.Tells [] m) (known : P m) : Speaks i l [] P w r v :=
  ⟨m, [], swapped, told, List.nil_prefix, fun _ _ => ⟨rfl, known⟩⟩

theorem speaks_enter (x : Exchange) (phase : Phase) (there : s.world.links[i]? = some l) :
    Ends (x.enter phase) s fun r t => Speaks i l [] (· = l) s.world r t.world :=
  (x.ends_enter phase s).mono fun _ _ h =>
    .silently (h.2.2.swaps there) (Link.tells_of_outgoing rfl) rfl

theorem speaks_openStream {c : Connection} (there : s.world.links[c.number]? = some l)
    (unfinished : l.sendFinished = false) : Ends (during c.openStream) s fun r t =>
      Speaks c.number l [] (fun m => m.sendFinished = false) s.world r t.world := by
  rw [ends_during]
  apply Ends.mono (Connection.ends_openStream there)
  intro r v h
  cases r with
  | ok _ =>
      obtain ⟨_, _, swapped⟩ := h
      exact .silently swapped ⟨rfl, rfl, by simp [Link.said]⟩ unfinished
  | error p =>
      obtain ⟨rfl, _⟩ := h
      exact .silently ((Idles.refl _).swaps there) (Link.tells_of_outgoing rfl) unfinished

theorem speaks_send {c : Connection} (there : s.world.links[c.number]? = some l)
    (unfinished : l.sendFinished = false) (payload : Octets) :
    Ends (during (c.send payload)) s fun r t => Speaks c.number l (Connection.sending payload)
      (fun m => m.sendFinished = false) s.world r t.world := by
  rw [ends_during]
  apply Ends.mono (Connection.ends_send there unfinished payload)
  intro r v h
  obtain ⟨cs, begun, swapped, whole⟩ := h
  refine ⟨_, cs, swapped, Link.tells_saying _ cs, begun, ?_⟩
  rintro _ rfl
  exact ⟨whole rfl, unfinished⟩

theorem speaks_finish {c : Connection} (there : s.world.links[c.number]? = some l)
    (unfinished : l.sendFinished = false) : Ends (during c.finish) s fun r t =>
      Speaks c.number l (Connection.finishing l.behaviour.canHalfClose) (fun _ => True) s.world r
        t.world := by
  rw [ends_during]
  apply Ends.mono (Connection.ends_finish there unfinished)
  intro r v h
  cases r with
  | ok _ => exact ⟨_, _, h, ⟨rfl, rfl, Link.said_saying _ _⟩, List.prefix_rfl,
      fun _ _ => ⟨rfl, trivial⟩⟩
  | error p =>
      obtain ⟨cs, begun, swapped⟩ := h
      exact ⟨_, cs, swapped, Link.tells_saying _ cs, begun, by simp⟩

theorem speaks_readToEnd {c : Connection} (there : s.world.links[c.number]? = some l)
    (sizeLimit : Int) : Ends (during (c.readToEnd sizeLimit)) s fun r t =>
      Speaks c.number l [] (fun _ => True) s.world r t.world := by
  rw [ends_during]
  apply Ends.mono (Connection.ends_readToEnd there _)
  intro r v h
  obtain ⟨m, swapped, outgoing⟩ := h
  exact .silently swapped (Link.tells_of_outgoing outgoing) trivial

end Speaking

/-- On a connection an exchange calls the writer for its request and for the end of it, in this
order, and perhaps not to the end. -/
theorem ends_converse (x : Exchange) {c : Connection} {l : Link}
    (there : s.world.links[c.number]? = some l) (unfinished : l.sendFinished = false)
    (payload : Octets) (decode : Octets → Except Problem α) :
    Ends (x.converse c payload decode) s fun r t => Speaks c.number l
      (Connection.sending payload ++ Connection.finishing l.behaviour.canHalfClose)
      (fun _ => True) s.world r t.world := by
  apply Speaks.skip there (speaks_openStream there unfinished)
  intro _ s₁ l₁ there₁ same₁ unfinished₁
  apply Speaks.skip there₁ (speaks_enter x _ there₁)
  intro _ s₂ l₂ there₂ _ same₂
  subst same₂
  rw [← same₁]
  apply Speaks.bind there₂ (speaks_send there₂ unfinished₁ payload)
  intro _ s₃ l₃ there₃ same₃ unfinished₃
  rw [← same₃, ← List.append_nil (Connection.finishing _)]
  apply Speaks.bind there₃ (speaks_finish there₃ unfinished₃)
  intro _ s₄ l₄ there₄ _ _
  apply Speaks.skip there₄ (speaks_enter x _ there₄)
  intro _ s₅ l₅ there₅ _ _
  apply Speaks.skip there₅ (speaks_enter x _ there₅)
  intro _ s₆ l₆ there₆ _ _
  apply Speaks.skip there₆ (speaks_readToEnd there₆ x.sizeLimit)
  intro bs s₇ l₇ there₇ _ _
  rw [ends_ofExcept]
  exact .silently ((Idles.refl _).swaps there₇) (Link.tells_of_outgoing rfl) trivial

end Exchange

end ContentTracker
