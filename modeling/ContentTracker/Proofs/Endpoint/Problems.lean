import ContentTracker.Proofs.Endpoint.Dialing
import ContentTracker.Proofs.Network.Failing

/-! In which problems dialing can end: those of the network, and failures to connect. -/

namespace ContentTracker.Endpoint

open Net World

variable {T H : Problem → Prop} {w : World} {i : Nat} {greeting protocol : Octets} {peer : PeerId}

/-- A key is read in full, so it is never one of a wrong size. -/
theorem listened_readHello {l : Link} (native : Native T H) (h : Listener T w i l) :
    Ends (readHello i) w (Listened T H w i l) := by
  rw [readHello]
  apply Listened.bind h (listened_readExactly native h 1)
  intro size v m h
  apply Listened.bind h (listened_readExactly native h _)
  intro tag u n h
  have last := (listened_readExactly native h 32).and (ends_readExactly h.there 32)
  refine last.bind (fun key t read => ?_) fun p t read => ?_
  · obtain ⟨⟨⟨k, passed, outgoing, breaks⟩, _⟩, _, full⟩ := read
    simp only [PeerId.ofOctets, Digest.ofOctets?, dif_pos (full key rfl)]
    exact Listened.of_passes h passed outgoing breaks .ok
  · exact read.1.failed

theorem sound_readHello (native : Native T H) (h : w.Tame T) (bound : i < w.links.size)
    (bounded : w.deadline.isSome) : Ends (readHello i) w (Sound T H w) := by
  obtain ⟨l, there, known⟩ := tame_there h bound
  exact (listened_readHello native ⟨there, known.breaksIn, bounded⟩).mono fun _ _ =>
    Listened.sound h there

theorem sound_greet (native : Native T H) (refusing : ∀ f, f.kind = .connection → H (.failure f))
    (h : w.Tame T) (bound : i < w.links.size)
    (bounded : w.deadline.isSome) : Ends (greet i peer protocol greeting) w (Sound T H w) := by
  apply Sound.bind (sound_call native h bound _)
  intro _ v h₁
  have bound₁ := Nat.lt_of_lt_of_le bound h₁.size
  apply Sound.bind (sound_call native h₁.world bound₁ _)
  intro _ u h₂
  have bound₂ := Nat.lt_of_lt_of_le bound₁ h₂.size
  apply Sound.bind (sound_readHello native h₂.world bound₂ (by rwa [h₂.deadline, h₁.deadline]))
  intro hello t h₃
  dsimp only
  split
  · exact .error h₃.world (.inl (refusing _ rfl))
  · split
    · exact .error h₃.world (.inl (refusing _ rfl))
    · exact .ok h₃.world

theorem sound_dialOne (native : Native T H)
    (refusing : ∀ f, f.kind = .connection → H (.failure f)) (h : w.Tame T)
    (bounded : w.deadline.isSome) (e : Endpoint) (peer : PeerId) (a : DialAddress)
    (protocol greeting : Octets) :
    Ends (e.dialOne peer a protocol greeting) w (Sound T H w) := by
  refine ((sound_dial native h a _).and (ends_dial a _ w)).bind (fun i v dialed => ?_)
    fun p v dialed => dialed.1.retold (dialed.1.problem p rfl)
  obtain ⟨sound, _, _, rfl, l, made, _⟩ := dialed
  have bound : w.links.size < v.links.size := by simp [made]
  rw [ends_bind, ends_outcome]
  apply Ends.mono (sound_greet native refusing sound.world bound (by rwa [sound.deadline]))
  intro r u greeted
  cases r with
  | ok remote => exact sound.trans (greeted.trans (.ok greeted.world))
  | error p =>
      have known := greeted.problem p rfl
      have closing := sound_call native greeted.world (Nat.lt_of_lt_of_le bound greeted.size) .close
      refine (Sound.bind closing fun _ t closed => ?_).mono
        fun _ _ h => sound.trans (greeted.trans h)
      exact Sound.error closed.world (closed.known known)

theorem sound_tryAddresses (native : Native T H)
    (refusing : ∀ f, f.kind = .connection → H (.failure f)) (h : w.Tame T) (e : Endpoint)
    (addresses : List DialAddress) (errors : Table) :
    Ends (e.tryAddresses peer protocol greeting addresses errors) w (Sound T H w) := by
  induction addresses generalizing errors w with
  | nil => exact .error h (.inl (refusing _ rfl))
  | cons a rest ih =>
      rw [tryAddresses, ends_bind, ends_outcome]
      have dialing (d : Rat) := sound_dialOne (w := { w with deadline := some d }) native refusing
        ⟨h.network, h.links⟩ rfl e peer a protocol greeting
      apply Ends.mono (sound_within native h dialing)
      intro r v h
      cases r with
      | ok c =>
          refine (Sound.bind (sound_log _ _ _ h.world) fun _ u noted => ?_).mono
            fun _ _ later => h.trans later
          exact Sound.ok noted.world
      | error p =>
          dsimp only
          split
          · exact h
          · refine (Sound.bind (sound_log _ _ _ h.world) fun _ u noted => ?_).mono
              fun _ _ later => h.trans later
            exact ih noted.world _

theorem sound_connect (native : Native T H)
    (refusing : ∀ f, f.kind = .connection → H (.failure f)) (h : w.Tame T) (e : Endpoint) :
    Ends (e.connect peer protocol) w (Sound T H w) := by
  rw [connect, ends_bind, ends_ofExcept]
  cases greets : hello protocol e.node with
  | error p =>
      unfold hello at greets
      split at greets
      · cases greets
        exact .error h (.inl (refusing _ rfl))
      · cases greets
  | ok greeting =>
      dsimp only
      split
      · exact .error h (.inl (refusing _ rfl))
      · exact sound_tryAddresses native refusing h e _ []

/-! On a network that raises nothing but trouble, each attempt that fails is a reason to try the
next address, and connecting fails in one way only. -/

theorem native_isTrouble : Native (fun p => p.isTrouble)
    fun p => p.isTrouble ∨ p.IsFailure .connection where
  raised _ h := .inl h
  incomplete _ _ := .inl rfl
  timeout := .inl rfl

theorem dialFault?_isSome (e : Endpoint) {p : Problem}
    (known : p.isTrouble ∨ p.IsFailure .connection) : (e.dialFault? p).isSome := by
  obtain raised | ⟨f, rfl, kind⟩ := known
  · cases p with
    | system trouble text => cases trouble <;> rfl
    | incomplete got wanted => rfl
    | _ => cases raised
  · rw [dialFault?, if_pos kind]
    rfl

theorem ends_tryAddresses_refused (tame : w.Tame fun p => p.isTrouble) (free : w.deadline = none)
    (e : Endpoint) (addresses : List DialAddress) (errors : Table) :
    Ends (e.tryAddresses peer protocol greeting addresses errors) w fun r _ =>
      ∀ p, r = .error p → p.IsFailure .connection := by
  induction addresses generalizing errors w with
  | nil =>
      rw [tryAddresses, ends_throw]
      rintro _ ⟨⟩
      exact ⟨_, rfl, rfl⟩
  | cons a rest ih =>
      rw [tryAddresses, ends_bind, ends_outcome]
      have dialing (d : Rat) := sound_dialOne (w := { w with deadline := some d })
        native_isTrouble (fun f kind => .inr ⟨f, rfl, kind⟩) ⟨tame.network, tame.links⟩ rfl e peer a
        protocol greeting
      apply Ends.mono (sound_within native_isTrouble tame dialing)
      intro r v h
      have free' := h.deadline.trans free
      cases r with
      | ok c =>
          rintro _ ⟨⟩
      | error p =>
          obtain ⟨reason, given⟩ := Option.isSome_iff_exists.1
            (e.dialFault?_isSome ((h.problem p rfl).raised free'))
          simp only [given]
          apply Ends.next (log_waits _ _ _ v)
          intro u noted
          exact ih (h.world.idles noted.toIdles) (noted.deadline.trans free') _

theorem ends_connect_refused (tame : w.Tame fun p => p.isTrouble) (free : w.deadline = none)
    (e : Endpoint) : Ends (e.connect peer protocol) w fun r _ =>
      ∀ p, r = .error p → p.IsFailure .connection := by
  rw [connect, ends_bind, ends_ofExcept]
  cases greets : hello protocol e.node with
  | error p =>
      unfold hello at greets
      split at greets
      · cases greets
        rintro _ ⟨⟩
        exact ⟨_, rfl, rfl⟩
      · cases greets
  | ok greeting =>
      dsimp only
      split
      · rw [ends_throw]
        rintro _ ⟨⟩
        exact ⟨_, rfl, rfl⟩
      · exact ends_tryAddresses_refused tame free e _ []

/-- A connection that is handed out is there. -/
theorem Connects.there {e : Endpoint} {c : Connection} {v : World}
    (h : e.Connects peer protocol w (.ok c) v) : c.number < v.links.size := by
  unfold Connects at h
  cases greets : hello protocol e.node with
  | error p =>
      rw [greets] at h
      cases h.1
  | ok greeting =>
      rw [greets] at h
      obtain ⟨_, failed, _, number, l, made, _⟩ := h
      rw [number, made, Array.size_push]
      exact Nat.lt_succ_self _

end ContentTracker.Endpoint
