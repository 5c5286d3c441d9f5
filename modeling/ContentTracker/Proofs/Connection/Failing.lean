import ContentTracker.Proofs.Connection.Problems
import ContentTracker.Proofs.Connection.Reply
import ContentTracker.Proofs.Network.Failing

/-! When talking on a connection fails, and in what. Sending fails exactly if one of its calls does,
and reading exactly if one of its reads does or brings too much. -/

namespace ContentTracker

/-- What is left of a trouble that met a connection: a failure of its stream, or a read cut
short. -/
def Problem.IsStreamTrouble (p : Problem) : Prop :=
  p.IsFailure .stream ∨ ∃ got wanted, p = .incomplete got wanted

namespace Connection

open Net World

variable {w v u : World} {c : Connection} {l : Link} {i : Nat} {T : Problem → Prop}

/-! Sending. -/

/-- Calls were made, up to the first that failed, and its problem is the outcome. -/
def Played (T : Problem → Prop) (w : World) (i : Nat) (l : Link) (r : Except Problem Unit)
    (v : World) : Prop :=
  ∃ cs, w.Passes i (l.saying cs) v ∧ l.Speaks (l.saying cs) ∧
    (l.Stumbled (l.saying cs) ↔ ∃ p, r = .error p) ∧ ∀ p, r = .error p → T p

theorem ends_call_played (there : w.links[i]? = some l) (free : w.deadline = none)
    (raises : ∀ kind n p, l.behaviour.fails kind n = some p → T p) (a : WriterCall)
    (sending : a.kind.isSending) : Ends (call i a) w (Played T w i l) := by
  apply Ends.mono (ends_call_decided there free a sending)
  intro r v h
  obtain ⟨said, stumbled, fault⟩ := h
  refine ⟨[a], said, l.speaks_saying a, stumbled, fun p e => ?_⟩
  obtain ⟨n, failed⟩ := fault p e
  exact raises _ n p failed

theorem Played.bind {op next : Net Unit} (first : Ends op w (Played T w i l))
    (there : w.links[i]? = some l) (later : ∀ v cs, v.links[i]? = some (l.saying cs) →
      v.deadline = w.deadline → Ends next v (Played T v i (l.saying cs))) :
    Ends (do op; next) w (Played T w i l) := by
  refine Ends.bind first (fun _ v h => ?_) fun p v h => h
  obtain ⟨cs, said, speaks, stumbled, _⟩ := h
  apply Ends.mono (later v cs (said.there there) said.deadline)
  intro r u h
  obtain ⟨ds, said', speaks', stumbled', known⟩ := h
  have whole := Link.stumbled_trans speaks speaks'
  rw [stumbled, stumbled'] at whole
  rw [Link.saying_saying] at said' speaks' whole
  exact ⟨cs ++ ds, said.trans said', speaks.trans speaks', by simpa using whole, known⟩

/-- A trouble of the system becomes a failure of the stream. -/
theorem ends_asStreamFailure_played {activity : String} {op : Net Unit}
    (h : Ends op w (Played (fun p => p.isTrouble) w i l)) :
    Ends (asStreamFailure activity op) w (Played Problem.IsStreamTrouble w i l) := by
  simp only [asStreamFailure, ends_bind, ends_outcome]
  apply Ends.mono h
  intro r v h
  obtain ⟨cs, said, speaks, stumbled, known⟩ := h
  cases r with
  | ok a => exact ⟨cs, said, speaks, stumbled, by simp⟩
  | error p =>
      have failed (q : Problem) (told : q.IsStreamTrouble) :
          Played Problem.IsStreamTrouble w i l (.error q) v := by
        refine ⟨cs, said, speaks, iff_of_true (stumbled.2 ⟨p, rfl⟩) ⟨q, rfl⟩, ?_⟩
        rintro _ ⟨⟩
        exact told
      have trouble := known p rfl
      dsimp only
      split
      · exact failed _ (.inl ⟨_, rfl, rfl⟩)
      · next other =>
        cases p with
        | incomplete got wanted => exact failed _ (.inr ⟨got, wanted, rfl⟩)
        | system _ _ => exact absurd rfl other
        | _ => cases trouble

theorem ends_send_decided (there : w.links[c.number]? = some l) (free : w.deadline = none)
    (unfinished : l.sendFinished = false) (tame : l.behaviour.Tame fun p => p.isTrouble)
    (bs : Octets) :
    Ends (c.send bs) w (Played Problem.IsStreamTrouble w c.number l) := by
  simp only [send, ends_bind, ends_getLink there, unfinished, Bool.false_eq_true, if_false]
  have writing := ends_call_played there free tame.calls (.write bs) rfl
  refine ends_asStreamFailure_played (Played.bind writing there fun v cs here same => ?_)
  exact ends_call_played here (same.trans free) tame.calls _ rfl

/-- The same where more than calls may have been noted on the link. -/
def Spoken (w : World) (i : Nat) (l : Link) (r : Except Problem Unit) (v : World) : Prop :=
  ∃ m, w.Passes i m v ∧ l.Speaks m ∧ (l.Stumbled m ↔ ∃ p, r = .error p) ∧
    ∀ p, r = .error p → p.IsStreamTrouble

theorem spoken_of_played {r : Except Problem Unit}
    (h : Played Problem.IsStreamTrouble w i l r v) : Spoken w i l r v := by
  obtain ⟨cs, rest⟩ := h
  exact ⟨l.saying cs, rest⟩

/-- What was said before without a failure changes nothing about how talking on ends. -/
theorem Spoken.after {m : Link} {r : Except Problem Unit} (passed : w.Passes i m v)
    (speaks : l.Speaks m) (well : ¬ l.Stumbled m) (later : Spoken v i m r u) :
    Spoken w i l r u := by
  obtain ⟨n, passed', speaks', stumbled, known⟩ := later
  refine ⟨n, passed.trans passed', speaks.trans speaks', ?_, known⟩
  rw [Link.stumbled_trans speaks speaks', or_iff_right well]
  exact stumbled

theorem Spoken.waits {r : Except Problem Unit} (there : w.links[i]? = some l)
    (h : Spoken w i l r v) (waited : v.Waits u) : Spoken w i l r u := by
  obtain ⟨m, passed, rest⟩ := h
  exact ⟨m, passed.trans (waited.passes (passed.there there)), rest⟩

theorem ends_finish_decided (there : w.links[c.number]? = some l) (free : w.deadline = none)
    (unfinished : l.sendFinished = false) (tame : l.behaviour.Tame fun p => p.isTrouble) :
    Ends c.finish w (Spoken w c.number l) := by
  have calling : Ends (do
      if l.behaviour.canHalfClose then call c.number .writeEnd
      call c.number .drain : Net Unit) w (Played (fun p => p.isTrouble) w c.number l) := by
    split
    · exact Played.bind (ends_call_played there free tame.calls _ rfl) there fun v cs here same =>
        ends_call_played here (same.trans free) tame.calls _ rfl
    · exact ends_call_played there free tame.calls _ rfl
  simp only [finish, ends_bind, ends_getLink there, unfinished, Bool.false_eq_true, if_false]
  apply Ends.mono (ends_asStreamFailure_played calling)
  intro r v h
  obtain ⟨cs, said, speaks, stumbled, known⟩ := h
  cases r with
  | error p => exact spoken_of_played ⟨cs, said, speaks, stumbled, known⟩
  | ok a =>
      simp only [ends_getLink (said.there there), ends_setLink]
      refine ⟨{ l.saying cs with sendFinished := true },
        said.trans ⟨⟨rfl, rfl, rfl⟩, Rat.le_refl, rfl⟩, ⟨speaks.behaviour, speaks.made⟩, stumbled,
        by simp⟩

/-! Closing. -/

theorem ends_close_pauses (there : w.links[c.number]? = some l) :
    Ends c.close w fun _ v => ∃ m, v.links[c.number]? = some m ∧ l.Pauses m := by
  cases closed : l.closed with
  | true =>
      simp only [close, ends_bind, ends_getLink there, closed]
      exact ⟨l, there, rfl, fun _ _ => rfl⟩
  | false =>
      apply Ends.mono (ends_close there closed)
      intro r v h
      obtain ⟨cs, called, swapped, _⟩ := h
      refine ⟨_, swapped.there there, rfl, fun kind sending => ?_⟩
      obtain rfl | rfl := called <;> cases kind <;>
        simp [Link.made, Link.saying, WriterCall.kind, CallKind.isSending] at sending ⊢

/-! Reading. -/

/-- One read within its time, where `read` has been read so far. -/
def readOnce (c : Connection) (limit : Int) (read : Octets) : Net Octets :=
  within c.readTimeout.seconds (readUpTo c.number (min chunkSize (limit + 1 - read.length)))

/-- From `v` on, reads that each brought something brought `read` in all, which is not too much. -/
inductive Collected (c : Connection) (limit : Int) (v : World) : Octets → World → Prop
  | nothing : Collected c limit v [] v
  | chunk {read chunk : Octets} {u t : World} : Collected c limit v read u →
      c.readOnce limit read u = .ok chunk t → chunk ≠ [] →
      ((read ++ chunk).length : Int) ≤ limit → Collected c limit v (read ++ chunk) t

def ReadFails (c : Connection) (limit : Int) (v : World) : Prop :=
  ∃ read u l, c.Collected limit v read u ∧ u.links[c.number]? = some l ∧
    (l.Breaks u.now c.readTimeout.seconds ∨ l.Stalls u.now c.readTimeout.seconds)

def ReadsTooMuch (c : Connection) (limit : Int) (v : World) : Prop :=
  ∃ read chunk u t, c.Collected limit v read u ∧ c.readOnce limit read u = .ok chunk t ∧
    limit < (read ++ chunk).length

def ReadsWhole (c : Connection) (limit : Int) (v : World) (all : Octets) : Prop :=
  ∃ u t, c.Collected limit v all u ∧ c.readOnce limit all u = .ok [] t

section Reading

variable {limit : Int} {read all : Octets}

/-- A world in which trouble is all that reading a connection can meet. -/
structure Untroubled (v : World) (number : Nat) : Prop where
  tame : v.Tame fun p => p.isTrouble
  free : v.deadline = none
  there : number < v.links.size

theorem Untroubled.kept {H : Problem → Prop} {α : Type} {r : Except Problem α}
    (h : Untroubled w i) (sound : Sound (fun p => p.isTrouble) H w r v) : Untroubled v i :=
  ⟨sound.world, sound.deadline.trans h.free, Nat.lt_of_lt_of_le h.there sound.size⟩

theorem Untroubled.waits (h : Untroubled w i) (waited : w.Waits v) : Untroubled v i :=
  ⟨h.tame.idles waited.toIdles, waited.deadline.trans h.free, by rw [waited.links]; exact h.there⟩

theorem native_any (T : Problem → Prop) : Native T fun _ => True where
  raised _ _ := trivial
  incomplete _ _ := trivial
  timeout := trivial

theorem native_reading : Native (fun p => p.isTrouble) fun p => p.isTrouble where
  raised _ h := h
  incomplete _ _ := rfl
  timeout := rfl

theorem ends_readOnce_sound (h : Untroubled w c.number) (limit : Int) (read : Octets) :
    Ends (c.readOnce limit read) w fun r v =>
      Untroubled v c.number ∧ ∀ p, r = .error p → p.isTrouble := by
  have reading (d : Rat) := sound_readUpTo (w := { w with deadline := some d }) native_reading
    ⟨h.tame.network, h.tame.links⟩ h.there rfl (min chunkSize (limit + 1 - read.length))
  apply Ends.mono (sound_within native_reading h.tame reading)
  intro r v sound
  have kept := h.kept sound
  exact ⟨kept, fun p e => (sound.problem p e).raised kept.free⟩

/-- A read fails exactly if a break comes first or its time is over first. -/
theorem ends_readOnce_decided (there : w.links[c.number]? = some l) (free : w.deadline = none)
    (room : (read.length : Int) ≤ limit) : Ends (c.readOnce limit read) w fun r _ =>
      (∃ p, r = .error p) ↔
        l.Breaks w.now c.readTimeout.seconds ∨ l.Stalls w.now c.readTimeout.seconds := by
  by_cases timed : 0 < c.readTimeout.seconds
  · refine ends_within_decided free timed ?_
    have positive : 0 < min chunkSize (limit + 1 - read.length) := by
      unfold chunkSize
      omega
    generalize min chunkSize (limit + 1 - read.length) = want at positive
    obtain ⟨n, rfl⟩ := Int.eq_ofNat_of_zero_le (Int.le_of_lt positive)
    exact ends_readSome_decided (by exact there) rfl timed (Int.natCast_pos.1 positive)
  · -- Without any time the read is not even begun, which counts as stalled.
    rw [readOnce, within, if_pos (Rat.not_lt.1 timed)]
    exact iff_of_true ⟨_, rfl⟩ (.inr (.inl (Rat.not_lt.1 timed)))

theorem readChunk_of_ok {chunk : Octets} (h : c.readOnce limit read w = .ok chunk v) :
    c.readChunk limit read w = .ok chunk v := by
  refine Ends.eq_ok ?_
  rw [readChunk, ends_bind, ends_outcome]
  exact .on_ok h ⟨rfl, rfl⟩

/-- The trouble of a read becomes a failure of the stream. -/
theorem readProblem_told {p : Problem} (trouble : p.isTrouble) :
    (c.readProblem read p).IsStreamTrouble := by
  cases p with
  | system kind text => cases kind <;> exact .inl ⟨_, rfl, rfl⟩
  | incomplete got wanted => exact .inr ⟨got, wanted, rfl⟩
  | _ => cases trouble

theorem readChunk_of_error {p : Problem} (h : c.readOnce limit read w = .error p v) :
    c.readChunk limit read w = .error (c.readProblem read p) v := by
  refine Ends.eq_error ?_
  rw [readChunk_eq, ends_bind, ends_outcome]
  exact .on_error h ⟨rfl, rfl⟩

/-- The steps of the reading loop, by what a read brings. -/
theorem readLoop_step {chunk : Octets} (fuel : Nat) (h : c.readOnce limit read w = .ok chunk v) :
    c.readLoop limit (fuel + 1) read w =
      if chunk = [] then .ok read v
      else if limit < (read ++ chunk).length then .error (oversized limit) v
      else c.readLoop limit fuel (read ++ chunk) v := by
  change EStateM.bind _ _ w = _
  unfold EStateM.bind
  rw [readChunk_of_ok h]
  dsimp only
  by_cases empty : chunk = []
  · rw [if_pos empty, if_pos (List.isEmpty_iff.2 empty)]
    rfl
  · rw [if_neg empty, if_neg (by simpa using empty)]
    split <;> rfl

/-- Reading to the end goes through all that has been collected. -/
theorem Collected.resumes (h : c.Collected limit v read u) (room : 0 ≤ limit) :
    ((read.length : Int) ≤ limit) ∧ ∃ fuel, limit.toNat + 1 ≤ fuel + read.length ∧
      c.readToEnd limit v = c.readLoop limit (fuel + 1) read u := by
  induction h with
  | nothing => exact ⟨by simpa using room, limit.toNat + 1, by simp, rfl⟩
  | @chunk read chunk u t collected given some fits ih =>
      obtain ⟨_, fuel, enough, same⟩ := ih
      have longer := List.length_pos_iff.2 some
      rw [List.length_append] at fits
      obtain ⟨fuel, rfl⟩ := Nat.exists_eq_succ_of_ne_zero (show fuel ≠ 0 by omega)
      refine ⟨by rw [List.length_append]; exact fits, fuel, by rw [List.length_append]; omega, ?_⟩
      rw [same, readLoop_step _ given, if_neg some, if_neg]
      rw [List.length_append]
      omega

theorem Collected.untroubled (h : c.Collected limit v read u) (world : Untroubled v c.number) :
    Untroubled u c.number := by
  induction h with
  | nothing => exact world
  | chunk _ given _ _ ih => exact ((ends_readOnce_sound ih _ _).of_ok given).1

theorem Untroubled.link (h : Untroubled w i) : ∃ l, w.links[i]? = some l :=
  ⟨_, Array.getElem?_eq_getElem h.there⟩

/-! What reading to the end comes to is decided by the reads. -/

theorem readToEnd_of_whole (h : c.ReadsWhole limit v all) (room : 0 ≤ limit) :
    ∃ t, c.readToEnd limit v = .ok all t := by
  obtain ⟨u, t, collected, given⟩ := h
  obtain ⟨_, fuel, _, same⟩ := collected.resumes room
  exact ⟨t, by rw [same, readLoop_step fuel given, if_pos rfl]⟩

theorem readToEnd_of_tooMuch (h : c.ReadsTooMuch limit v) (room : 0 ≤ limit) :
    ∃ t, c.readToEnd limit v = .error (oversized limit) t := by
  obtain ⟨read, chunk, u, t, collected, given, long⟩ := h
  obtain ⟨fits, fuel, _, same⟩ := collected.resumes room
  have some : chunk ≠ [] := by
    rintro rfl
    rw [List.append_nil] at long
    omega
  exact ⟨t, by rw [same, readLoop_step fuel given, if_neg some, if_pos long]⟩

theorem readLoop_of_error {p : Problem} (fuel : Nat) (h : c.readOnce limit read w = .error p v)
    (trouble : p.isTrouble) :
    ∃ q, q.IsStreamTrouble ∧ c.readLoop limit (fuel + 1) read w = .error q v := by
  refine ⟨c.readProblem read p, readProblem_told trouble, Ends.eq_error ?_⟩
  rw [readLoop, ends_bind]
  exact .on_error (readChunk_of_error h) ⟨rfl, rfl⟩

theorem readToEnd_of_fails (h : c.ReadFails limit v) (world : Untroubled v c.number)
    (room : 0 ≤ limit) : ∃ q t, q.IsStreamTrouble ∧ c.readToEnd limit v = .error q t := by
  obtain ⟨read, u, l, collected, there, failing⟩ := h
  obtain ⟨fits, fuel, _, same⟩ := collected.resumes room
  have here := collected.untroubled world
  have decided := ends_readOnce_decided there here.free fits
  cases e : c.readOnce limit read u with
  | ok chunk t =>
      obtain ⟨p, absurd⟩ := (decided.of_ok e).2 failing
      cases absurd
  | error p t =>
      obtain ⟨q, known, failed⟩ := readLoop_of_error fuel e
        (((ends_readOnce_sound here _ _).of_error e).2 p rfl)
      exact ⟨q, t, known, by rw [same, failed]⟩

/-- The reads that an outcome of reading to the end comes from. -/
def ReadEnding (c : Connection) (limit : Int) (v : World) : Except Problem Octets → Prop
  | .ok all => c.ReadsWhole limit v all
  | .error q => c.ReadFails limit v ∧ q.IsStreamTrouble ∨
      c.ReadsTooMuch limit v ∧ q = oversized limit

theorem ends_readLoop_ending (world : Untroubled v c.number) (fuel : Nat)
    (collected : c.Collected limit v read u) (fits : (read.length : Int) ≤ limit)
    (enough : limit.toNat + 2 ≤ fuel + read.length) :
    Ends (c.readLoop limit fuel read) u fun r _ => c.ReadEnding limit v r := by
  induction fuel generalizing read u with
  | zero => omega
  | succ fuel ih =>
      have here := collected.untroubled world
      cases e : c.readOnce limit read u with
      | error p t =>
          obtain ⟨l, there⟩ := here.link
          obtain ⟨q, known, failed⟩ := readLoop_of_error fuel e
            (((ends_readOnce_sound here _ _).of_error e).2 p rfl)
          refine .on_error failed (.inl ⟨⟨read, u, l, collected, there, ?_⟩, known⟩)
          exact ((ends_readOnce_decided there here.free fits).of_error e).1 ⟨p, rfl⟩
      | ok chunk t =>
          have step := readLoop_step fuel e
          by_cases empty : chunk = []
          · subst empty
            rw [if_pos rfl] at step
            exact .on_ok step ⟨u, t, collected, e⟩
          · rw [if_neg empty] at step
            by_cases long : limit < (read ++ chunk).length
            · rw [if_pos long] at step
              exact .on_error step (.inr ⟨⟨read, chunk, u, t, collected, e, long⟩, rfl⟩)
            · rw [if_neg long] at step
              have longer := List.length_pos_iff.2 empty
              have rest := ih (collected.chunk e empty (by omega)) (by omega)
                (by rw [List.length_append]; omega)
              unfold Ends at rest ⊢
              rw [step]
              exact rest

theorem ends_readToEnd_ending (world : Untroubled v c.number) (room : 0 ≤ limit) :
    Ends (c.readToEnd limit) v fun r _ => c.ReadEnding limit v r :=
  ends_readLoop_ending world _ .nothing (by simpa using room) (by simp)

theorem ends_readToEnd_pauses (world : Untroubled v c.number) (there : v.links[c.number]? = some l)
    (limit : Int) : Ends (c.readToEnd limit) v fun _ t => Untroubled t c.number ∧
      ∃ m, t.links[c.number]? = some m ∧ l.Pauses m := by
  have sound := sound_readToEnd (native_any _) (fun _ => trivial) world.tame world.there limit
  apply Ends.mono (sound.and (ends_readToEnd there limit))
  rintro r t ⟨sound, m, swapped, outgoing⟩
  exact ⟨world.kept sound, m, swapped.there there, Link.pauses_of_outgoing outgoing⟩

theorem not_isStreamTrouble_oversized (limit : Int) : ¬ (oversized limit).IsStreamTrouble := by
  rintro (⟨f, same, kind⟩ | ⟨_, _, absurd⟩)
  · cases same
    cases kind
  · cases absurd

theorem readsWhole_iff (world : Untroubled v c.number) (room : 0 ≤ limit) :
    c.ReadsWhole limit v all ↔ ∃ t, c.readToEnd limit v = .ok all t := by
  refine ⟨fun h => readToEnd_of_whole h room, ?_⟩
  rintro ⟨t, e⟩
  exact (ends_readToEnd_ending world room).of_ok e

theorem readsTooMuch_iff (world : Untroubled v c.number) (room : 0 ≤ limit) :
    c.ReadsTooMuch limit v ↔ ∃ t, c.readToEnd limit v = .error (oversized limit) t := by
  refine ⟨fun h => readToEnd_of_tooMuch h room, ?_⟩
  rintro ⟨t, e⟩
  obtain ⟨_, known⟩ | ⟨long, _⟩ := (ends_readToEnd_ending world room).of_error e
  · exact absurd known (not_isStreamTrouble_oversized limit)
  · exact long

theorem readFails_iff (world : Untroubled v c.number) (room : 0 ≤ limit) :
    c.ReadFails limit v ↔ ∃ q t, q.IsStreamTrouble ∧ c.readToEnd limit v = .error q t := by
  refine ⟨fun h => readToEnd_of_fails h world room, ?_⟩
  rintro ⟨q, t, known, e⟩
  obtain ⟨failing, _⟩ | ⟨_, rfl⟩ := (ends_readToEnd_ending world room).of_error e
  · exact failing
  · exact absurd known (not_isStreamTrouble_oversized limit)

end Reading

end Connection

end ContentTracker
