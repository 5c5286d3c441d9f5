import ContentTracker.Proofs.Connection.Failing
import ContentTracker.Proofs.Exchange.Answered
import ContentTracker.Proofs.Exchange.Problems

/-! What an exchange that fails fails for. On a network that raises nothing but trouble there are
four ways to fail, and each is taken exactly if what it stands for has happened. -/

namespace ContentTracker.Exchange

open Net World Connection

variable {α : Type} {x : Exchange} {c : Connection} {l : Link} {s : Progress} {payload : Octets}
  {decode : Octets → Except Problem α}

/-- A connection on which no stream has been opened yet. -/
structure Unused (l : Link) : Prop where
  usable : l.closed = false
  unopened : l.streamOpened = false
  unfinished : l.sendFinished = false

theorem unused_of_greeted {greeting answer : Octets} (h : l.Greeted greeting answer) :
    Unused l := by
  have same := h.outgoing
  simp only [Link.outgoing, Link.mk.injEq] at same
  obtain ⟨_, _, _, _, _, _, unopened, unfinished, usable⟩ := same
  exact ⟨usable, unopened, unfinished⟩

theorem ends_connect_unused (e : Endpoint) (peer : PeerId) (protocol : Octets) (w : World) :
    Ends (e.connect peer protocol) w fun r v =>
      ∀ c, r = .ok c → ∃ l, v.links[c.number]? = some l ∧ Unused l := by
  apply Ends.mono (e.ends_connect peer protocol w)
  rintro r v h c rfl
  unfold Endpoint.Connects at h
  cases greets : Endpoint.hello protocol e.node with
  | error p =>
      rw [greets] at h
      cases h.1
  | ok greeting =>
      rw [greets] at h
      obtain ⟨_, failed, _, number, l, made, greeted⟩ := h
      refine ⟨l, ?_, unused_of_greeted greeted⟩
      rw [number]
      exact links_push made

/-- Without a connection there is one way to fail; a connection is as good as new. -/
theorem ends_dial_decided (x : Exchange) (tame : s.world.Tame fun p => p.isTrouble)
    (free : s.world.deadline = none) : Ends x.dial s fun r t =>
      (∀ p, r = .error p → p.IsFailure .connection) ∧ ∀ c, r = .ok c →
        Untroubled t.world c.number ∧ ∃ l, t.world.links[c.number]? = some l ∧ Unused l := by
  apply Ends.next (x.ends_enter_waits .connecting s)
  intro u waited
  have tame' := tame.idles waited.toIdles
  have free' := waited.deadline.trans free
  rw [ends_during]
  have sound : Ends (x.endpoint.connect x.tracker x.protocol) u.world (Sound _ _ u.world) :=
    Endpoint.sound_connect Endpoint.native_isTrouble (fun f kind => .inr ⟨f, rfl, kind⟩) tame'
      x.endpoint
  have refused : Ends (x.endpoint.connect x.tracker x.protocol) u.world _ :=
    Endpoint.ends_connect_refused tame' free' x.endpoint
  apply Ends.mono ((sound.and refused).and (ends_connect_unused x.endpoint x.tracker x.protocol _))
  rintro r v ⟨⟨sound, refused⟩, unused⟩
  refine ⟨refused, fun c e => ?_⟩
  obtain ⟨l, there, fresh⟩ := unused c e
  obtain ⟨bound, _⟩ := Array.getElem?_eq_some_iff.1 there
  exact ⟨⟨sound.world, sound.deadline.trans free', bound⟩, l, there, fresh⟩

/-- Asking fails exactly if one of its calls does. -/
theorem ends_ask_spoken (world : Untroubled s.world c.number)
    (there : s.world.links[c.number]? = some l) (unused : Unused l) (payload : Octets) :
    Ends (x.ask c payload) s fun r t => Spoken s.world c.number l r t.world := by
  have tame := (world.tame.links _ _ there).behaviour
  apply Ends.next (ends_during_of (ends_openStream_fresh there unused.usable unused.unopened))
  intro s₁ opened
  apply Ends.next (x.ends_enter_waits .streamOpen s₁)
  intro s₂ waited
  have at₂ := opened.trans (waited.passes (opened.there there))
  have here₂ := at₂.there there
  have free₂ := at₂.deadline.trans world.free
  have begun {r : Except Problem Unit} {v : World} (later : Spoken s₂.world c.number _ r v) :
      Spoken s.world c.number l r v :=
    .after at₂ ⟨rfl, fun _ => Nat.le_refl _⟩ (Link.not_stumbled l) later
  refine (ends_during_of (ends_send_decided here₂ free₂ unused.unfinished tame payload)).bind
    (fun _ s₃ sent => ?_) fun p s₃ sent => begun (spoken_of_played sent)
  obtain ⟨cs, said, speaks, stumbled, _⟩ := sent
  have here₃ := said.there here₂
  have silent : ¬ Link.Stumbled _ _ := fun h => absurd (stumbled.1 h) (by simp)
  refine (ends_during_of (ends_finish_decided here₃ (said.deadline.trans free₂) unused.unfinished
    tame)).bind (fun _ s₄ finished => ?_) fun p s₄ finished =>
      begun (.after said speaks silent finished)
  have at₄ := begun (.after said speaks silent finished)
  apply Ends.next (x.ends_enter_waits .requestSent s₄)
  intro s₅ waited
  apply Ends.mono (x.ends_enter_waits .awaitingResponse s₅)
  rintro r t ⟨rfl, waited'⟩
  exact at₄.waits there (waited.trans waited')

/-- In such a world nothing but trouble remains possible. -/
theorem ends_ask_untroubled (world : Untroubled s.world c.number) (payload : Octets) :
    Ends (x.ask c payload) s fun _ t => Untroubled t.world c.number := by
  have safe := safe_ask (native_any _) (fun _ => trivial) x world.tame world.there payload
  exact safe.mono fun _ _ sound => world.kept sound

/-- The ways of a talk that began in `s` on the link `l`, which has become `m`. Trouble ends it in a
problem of `T`. -/
inductive Course (x : Exchange) (c : Connection) (payload : Octets)
    (decode : Octets → Except Problem α) (s : Progress) (T : Problem → Prop) (l m : Link) :
    Except Problem α → Prop
  | unasked {p q : Problem} {u : Progress} : x.ask c payload s = .error p u → l.Stumbled m → T q →
      Course x c payload decode s T l m (.error q)
  | unread {p q : Problem} {u : Progress} {v : World} : x.ask c payload s = .ok () u →
      ¬ l.Stumbled m → c.readToEnd x.sizeLimit u.world = .error p v → p.IsStreamTrouble → T q →
      Course x c payload decode s T l m (.error q)
  | tooMuch {u : Progress} {v : World} : x.ask c payload s = .ok () u → ¬ l.Stumbled m →
      c.readToEnd x.sizeLimit u.world = .error (oversized x.sizeLimit) v →
      Course x c payload decode s T l m (.error (oversized x.sizeLimit))
  | read {all : Octets} {r : Except Problem α} {u : Progress} {v : World} :
      x.ask c payload s = .ok () u → ¬ l.Stumbled m →
      c.readToEnd x.sizeLimit u.world = .ok all v → decode all = r →
      Course x c payload decode s T l m r

theorem ends_converse_course (world : Untroubled s.world c.number)
    (there : s.world.links[c.number]? = some l) (unused : Unused l) (payload : Octets)
    (decode : Octets → Except Problem α) (room : 0 ≤ x.sizeLimit) :
    Ends (x.converse c payload decode) s fun r t => Untroubled t.world c.number ∧
      ∃ m, t.world.links[c.number]? = some m ∧
        x.Course c payload decode s Problem.IsStreamTrouble l m r := by
  have asking := (ends_ask_untroubled (x := x) world payload).and
    (ends_ask_spoken (x := x) world there unused payload)
  rw [converse_eq_ask, ends_bind]
  cases asked : x.ask c payload s with
  | error p u =>
      obtain ⟨world', m, passed, _, stumbled, known⟩ := asking.of_error asked
      exact .on_error asked ⟨world', m, passed.there there,
        .unasked asked (stumbled.2 ⟨p, rfl⟩) (known p rfl)⟩
  | ok _ u =>
      obtain ⟨world', m, passed, _, stumbled, _⟩ := asking.of_ok asked
      have here := passed.there there
      have well : ¬ l.Stumbled m := fun h => absurd (stumbled.1 h) (by simp)
      refine .on_ok asked ?_
      dsimp only
      rw [ends_bind, ends_during]
      have reading := (ends_readToEnd_pauses world' here x.sizeLimit).and
        (ends_readToEnd_ending world' room)
      cases read : c.readToEnd x.sizeLimit u.world with
      | error p v =>
          obtain ⟨⟨kept, n, now, pauses⟩, ending⟩ := reading.of_error read
          have well' : ¬ l.Stumbled n := fun h => well (pauses.stumbled.1 h)
          refine .on_error read ⟨kept, n, now, ?_⟩
          obtain ⟨_, known⟩ | ⟨_, rfl⟩ := ending
          · exact .unread asked well' read known known
          · exact .tooMuch asked well' read
      | ok all v =>
          obtain ⟨⟨kept, n, now, pauses⟩, _⟩ := reading.of_ok read
          have well' : ¬ l.Stumbled n := fun h => well (pauses.stumbled.1 h)
          refine .on_ok read ?_
          dsimp only
          rw [ends_ofExcept]
          exact ⟨kept, n, now, .read asked well' read rfl⟩

/-! What becomes of the problem that ends a talk. -/

theorem ends_settle_failure (x : Exchange) (connected : Bool) (f : Failure) (s : Progress) :
    Ends (x.settle connected (.failure f)) s fun r t => r = .ok (.failure f) ∧
      t.phase = .failed ∧ s.world.Waits t.world :=
  ⟨rfl, rfl, ⟨rfl, rfl, rfl⟩, Rat.le_refl, rfl⟩

theorem ends_settle_trouble (x : Exchange) {p : Problem} (trouble : p.IsStreamTrouble)
    (s : Progress) : Ends (x.settle true p) s fun r t => (∃ q, r = .ok q ∧ q.IsFailure .stream) ∧
      t.phase = .failed ∧ s.world.Waits t.world := by
  obtain ⟨f, rfl, kind⟩ | ⟨got, wanted, rfl⟩ := trouble
  · apply Ends.mono (x.ends_settle_failure true f s)
    rintro r t ⟨rfl, rest⟩
    exact ⟨⟨_, rfl, f, rfl, kind⟩, rest⟩
  · exact ⟨⟨_, rfl, _, rfl, rfl⟩, rfl, ⟨rfl, rfl, rfl⟩, Rat.le_refl, rfl⟩

/-- Trouble becomes a failure of the stream, and any other problem of a talk is a failure
already. -/
theorem ends_settle_course {p : Problem} {m : Link} {t : Progress}
    (course : x.Course c payload decode s Problem.IsStreamTrouble l m (.error p))
    (decoding : ∀ bs p, decode bs = .error p → p.IsFailure .decoding) :
    Ends (x.settle true p) t fun r u => t.world.Waits u.world ∧ u.phase = .failed ∧
      ∃ q, r = .ok q ∧ x.Course c payload decode s (·.IsFailure .stream) l m (.error q) := by
  cases course with
  | unasked asked stumbled trouble =>
      apply Ends.mono (x.ends_settle_trouble trouble t)
      rintro r u ⟨⟨q, rfl, failed⟩, phase, waited⟩
      exact ⟨waited, phase, q, rfl, .unasked asked stumbled failed⟩
  | unread asked well read known trouble =>
      apply Ends.mono (x.ends_settle_trouble trouble t)
      rintro r u ⟨⟨q, rfl, failed⟩, phase, waited⟩
      exact ⟨waited, phase, q, rfl, .unread asked well read known failed⟩
  | tooMuch asked well read =>
      apply Ends.mono (x.ends_settle_failure true _ t)
      rintro r u ⟨rfl, phase, waited⟩
      exact ⟨waited, phase, _, rfl, .tooMuch asked well read⟩
  | read asked well read decoded =>
      obtain ⟨f, rfl, _⟩ := decoding _ _ decoded
      apply Ends.mono (x.ends_settle_failure true f t)
      rintro r u ⟨rfl, phase, waited⟩
      exact ⟨waited, phase, _, rfl, .read asked well read decoded⟩

theorem Course.pauses {T : Problem → Prop} {m n : Link} {r : Except Problem α}
    (course : x.Course c payload decode s T l m r) (paused : m.Pauses n) :
    x.Course c payload decode s T l n r := by
  have same : l.Stumbled n ↔ l.Stumbled m := paused.stumbled
  cases course with
  | unasked asked stumbled failed => exact .unasked asked (same.2 stumbled) failed
  | unread asked well read known failed => exact .unread asked (mt same.1 well) read known failed
  | tooMuch asked well read => exact .tooMuch asked (mt same.1 well) read
  | read asked well read decoded => exact .read asked (mt same.1 well) read decoded

/-- Only what was read gives a result. -/
theorem Course.answered {T : Problem → Prop} {m : Link} {a : α}
    (course : x.Course c payload decode s T l m (.ok a)) (U : Problem → Prop) :
    x.Course c payload decode s U l m (.ok a) := by
  cases course with
  | read asked well read decoded => exact .read asked well read decoded

/-- A talk has ended in one of its ways, and the phase tells whether it gave a result. -/
def Talks (x : Exchange) (c : Connection) (payload : Octets)
    (decode : Octets → Except Problem α) (s : Progress) (l : Link) (r : Except Problem α)
    (t : Progress) : Prop :=
  Concluded r t ∧ ∃ m, t.world.links[c.number]? = some m ∧
    x.Course c payload decode s (·.IsFailure .stream) l m r

theorem ends_talk_course (world : Untroubled s.world c.number)
    (there : s.world.links[c.number]? = some l) (unused : Unused l) (payload : Octets)
    (room : 0 ≤ x.sizeLimit)
    (decoding : ∀ bs p, decode bs = .error p → p.IsFailure .decoding) :
    Ends (x.talk c payload decode) s (x.Talks c payload decode s l) := by
  have closing {t : Progress} {m : Link} (kept : Untroubled t.world c.number)
      (here : t.world.links[c.number]? = some m) : Ends (during c.close) t fun r u =>
        r = .ok () ∧ u.phase = t.phase ∧ ∃ n, u.world.links[c.number]? = some n ∧ m.Pauses n := by
    rw [ends_during]
    apply Ends.mono ((ends_close_tame kept.tame kept.there).and (ends_close_pauses here))
    rintro r v ⟨rfl, paused⟩
    exact ⟨rfl, rfl, paused⟩
  rw [talk, ends_bind, ends_outcome, settling, ends_bind, ends_outcome]
  apply Ends.mono (x.ends_converse_course world there unused payload decode room)
  rintro r t ⟨kept, m, here, course⟩
  cases r with
  | ok a =>
      apply Ends.next (closing kept here)
      rintro u ⟨_, n, now, paused⟩
      rw [ends_bind, ends_ofExcept]
      apply Ends.next (x.ends_enter .done u)
      rintro v ⟨phase, idle⟩
      exact ⟨phase, n, by rw [idle.links]; exact now, (course.answered _).pauses paused⟩
  | error p =>
      dsimp only
      rw [ends_bind]
      apply Ends.mono (x.ends_settle_course course decoding)
      rintro r u ⟨waited, phase, q, rfl, settled⟩
      dsimp only
      rw [ends_throw]
      apply Ends.next (closing (kept.waits waited) (by rw [waited.links]; exact here))
      rintro v ⟨same, n, now, paused⟩
      rw [ends_bind, ends_ofExcept]
      exact ⟨same.trans phase, n, now, settled.pauses paused⟩

/-! All of it. -/

def Reaches (x : Exchange) (w : World) (c : Connection) (s : Progress) : Prop :=
  x.dial { world := w } = .ok c s

def Asks (x : Exchange) (payload : Octets) (w : World) (c : Connection) (u : Progress) : Prop :=
  ∃ s, x.Reaches w c s ∧ x.ask c payload s = .ok () u

def Stumbles (c : Connection) (s t : Progress) : Prop :=
  ∃ l m, s.world.links[c.number]? = some l ∧ t.world.links[c.number]? = some m ∧ l.Stumbled m

/-- An exchange that began in `w` ended in a result, or in a failure that says what happened. -/
structure Classified (x : Exchange) (payload : Octets) (decode : Octets → Except Problem α)
    (w : World) (r : Except Problem α) (t : Progress) : Prop where
  concluded : Concluded r t
  kinds : ∀ p, r = .error p → p.IsFailure .connection ∨ p.IsFailure .stream ∨
    p.IsFailure .oversized ∨ p.IsFailure .decoding
  /-- No connection was to be had. -/
  connection : (∃ p, r = .error p ∧ p.IsFailure .connection) ↔ ∀ c s, ¬ x.Reaches w c s
  /-- A call that sends failed on the connection, or a read failed or stalled. -/
  stream : (∃ p, r = .error p ∧ p.IsFailure .stream) ↔
    (∃ c s, x.Reaches w c s ∧ Stumbles c s t) ∨
      ∃ c u, x.Asks payload w c u ∧ c.ReadFails x.sizeLimit u.world
  /-- More was read than is allowed. -/
  oversized : (∃ p, r = .error p ∧ p.IsFailure .oversized) ↔
    ∃ c u, x.Asks payload w c u ∧ c.ReadsTooMuch x.sizeLimit u.world
  /-- All was read, and the decoder refused it. -/
  decoding : ∀ p, r = .error p ∧ p.IsFailure .decoding ↔
    ∃ c u all, x.Asks payload w c u ∧ c.ReadsWhole x.sizeLimit u.world all ∧
      decode all = .error p
  /-- All was read, and the decoder made a result of it. -/
  answered : ∀ a, r = .ok a ↔
    ∃ c u all, x.Asks payload w c u ∧ c.ReadsWhole x.sizeLimit u.world all ∧ decode all = .ok a

section Classifying

variable {w : World} {u t : Progress} {q : Problem} {r : Except Problem α}

theorem reaches_iff (reached : x.Reaches w c s) {d : Connection} {t : Progress} :
    x.Reaches w d t ↔ d = c ∧ t = s := by
  unfold Reaches at reached ⊢
  rw [reached, EStateM.Result.ok.injEq]
  exact and_congr eq_comm eq_comm

theorem asks_iff (asked : x.Asks payload w c u) {d : Connection} {t : Progress} :
    x.Asks payload w d t ↔ d = c ∧ t = u := by
  obtain ⟨s, reached, asked⟩ := asked
  constructor
  · rintro ⟨s', reached', asked'⟩
    obtain ⟨rfl, rfl⟩ := (reaches_iff reached).1 reached'
    rw [asked] at asked'
    cases asked'
    exact ⟨rfl, rfl⟩
  · rintro ⟨rfl, rfl⟩
    exact ⟨s, reached, asked⟩

theorem classified_of_unreached (unreached : ∀ c s, ¬ x.Reaches w c s)
    (failed : q.IsFailure .connection) (phase : t.phase = .failed) :
    x.Classified payload decode w (.error q) t := by
  have unasked (c : Connection) (u : Progress) : ¬ x.Asks payload w c u := by
    rintro ⟨s, reached, _⟩
    exact unreached c s reached
  refine ⟨phase, ?_, ?_, ?_, ?_, ?_, ?_⟩
  · rintro _ ⟨⟩
    exact .inl failed
  all_goals simp [failed.kind_iff, unreached, unasked]

theorem classified_of_unasked {p : Problem} (reached : x.Reaches w c s)
    (asked : x.ask c payload s = .error p u) (stumbled : Stumbles c s t)
    (failed : q.IsFailure .stream) (phase : t.phase = .failed) :
    x.Classified payload decode w (.error q) t := by
  have unasked (d : Connection) (v : Progress) : ¬ x.Asks payload w d v := by
    rintro ⟨s', reached', asked'⟩
    obtain ⟨rfl, rfl⟩ := (reaches_iff reached).1 reached'
    rw [asked] at asked'
    cases asked'
  refine ⟨phase, ?_, ?_, ?_, ?_, ?_, ?_⟩
  · rintro _ ⟨⟩
    exact .inr (.inl failed)
  · exact iff_of_false (by simp [failed.kind_iff]) fun h => h c s reached
  · exact iff_of_true ⟨q, rfl, failed⟩ (.inl ⟨c, s, reached, stumbled⟩)
  all_goals simp [failed.kind_iff, unasked]

/-- How the reading went, where the request is sent. -/
structure Reading (c : Connection) (limit : Int) (decode : Octets → Except Problem α) (v : World)
    (r : Except Problem α) : Prop where
  kinds : ∀ p, r = .error p → p.IsFailure .stream ∨ p.IsFailure .oversized ∨ p.IsFailure .decoding
  stream : (∃ p, r = .error p ∧ p.IsFailure .stream) ↔ c.ReadFails limit v
  oversized : (∃ p, r = .error p ∧ p.IsFailure .oversized) ↔ c.ReadsTooMuch limit v
  decoding : ∀ p, r = .error p ∧ p.IsFailure .decoding ↔
    ∃ all, c.ReadsWhole limit v all ∧ decode all = .error p
  answered : ∀ a, r = .ok a ↔ ∃ all, c.ReadsWhole limit v all ∧ decode all = .ok a

theorem classified_of_asked (reached : x.Reaches w c s) (asked : x.ask c payload s = .ok () u)
    (well : ¬ Stumbles c s t) (concluded : Concluded r t)
    (reading : Reading c x.sizeLimit decode u.world r) : x.Classified payload decode w r t := by
  have asks {d : Connection} {v : Progress} : x.Asks payload w d v ↔ d = c ∧ v = u :=
    asks_iff ⟨s, reached, asked⟩
  refine ⟨concluded, fun p e => .inr (reading.kinds p e), ?_, ?_, ?_, fun p => ?_, fun a => ?_⟩
  · refine iff_of_false ?_ fun h => h c s reached
    rintro ⟨p, e, failed⟩
    have kinds := reading.kinds p e
    simp [failed.kind_iff] at kinds
  · simp [reading.stream, reaches_iff reached, asks, and_assoc, well]
  · simp [reading.oversized, asks, and_assoc]
  · simp [reading.decoding, asks, and_assoc]
  · simp [reading.answered, asks, and_assoc]

theorem reading_of_fails {v v' : World} {p : Problem} (world : Untroubled v c.number)
    (room : 0 ≤ x.sizeLimit) (read : c.readToEnd x.sizeLimit v = .error p v')
    (known : p.IsStreamTrouble) (failed : q.IsFailure .stream) :
    Reading c x.sizeLimit decode v (.error q) := by
  have short : p ≠ oversized x.sizeLimit := by
    rintro rfl
    exact not_isStreamTrouble_oversized _ known
  constructor
  all_goals simp [failed.kind_iff, readFails_iff world room, readsTooMuch_iff world room,
    readsWhole_iff world room, read, known, short]

theorem reading_of_tooMuch {v v' : World} (world : Untroubled v c.number)
    (room : 0 ≤ x.sizeLimit)
    (read : c.readToEnd x.sizeLimit v = .error (oversized x.sizeLimit) v') :
    Reading c x.sizeLimit decode v (.error (oversized x.sizeLimit)) := by
  have failed : (oversized x.sizeLimit).IsFailure .oversized := ⟨_, rfl, rfl⟩
  have other := not_isStreamTrouble_oversized x.sizeLimit
  constructor
  all_goals simp [failed.kind_iff, readFails_iff world room, readsTooMuch_iff world room,
    readsWhole_iff world room, read, other]

theorem reading_of_whole {v v' : World} {all : Octets} (world : Untroubled v c.number)
    (room : 0 ≤ x.sizeLimit) (read : c.readToEnd x.sizeLimit v = .ok all v')
    (decoding : ∀ bs p, decode bs = .error p → p.IsFailure .decoding) :
    Reading c x.sizeLimit decode v (decode all) := by
  cases decoded : decode all with
  | ok a =>
      constructor
      all_goals simp [readFails_iff world room, readsTooMuch_iff world room,
        readsWhole_iff world room, read, decoded]
  | error p =>
      have failed := decoding _ _ decoded
      constructor
      all_goals simp [failed.kind_iff, readFails_iff world room, readsTooMuch_iff world room,
        readsWhole_iff world room, read, decoded]

/-- What a talk has come to says what happened in it. -/
theorem classified_of_talks (reached : x.Reaches w c s) (world : Untroubled s.world c.number)
    (there : s.world.links[c.number]? = some l) (room : 0 ≤ x.sizeLimit)
    (decoding : ∀ bs p, decode bs = .error p → p.IsFailure .decoding)
    (spoken : x.Talks c payload decode s l r t) : x.Classified payload decode w r t := by
  obtain ⟨concluded, m, here, course⟩ := spoken
  have stumbles : Stumbles c s t ↔ l.Stumbled m := by simp [Stumbles, there, here]
  have after {u : Progress} (asked : x.ask c payload s = .ok () u) :
      Untroubled u.world c.number := (ends_ask_untroubled world payload).of_ok asked
  cases course with
  | unasked asked stumbled failed =>
      exact classified_of_unasked reached asked (stumbles.2 stumbled) failed concluded
  | unread asked well read known failed =>
      exact classified_of_asked reached asked (mt stumbles.1 well) concluded
        (reading_of_fails (after asked) room read known failed)
  | tooMuch asked well read =>
      exact classified_of_asked reached asked (mt stumbles.1 well) concluded
        (reading_of_tooMuch (after asked) room read)
  | read asked well read decoded =>
      exact classified_of_asked reached asked (mt stumbles.1 well) concluded
        (decoded ▸ reading_of_whole (after asked) room read decoding)

end Classifying

/-- On a network that raises nothing but trouble of the system and streams cut short, and where
closing goes well, each exchange with a request that can be written ends as done, or as failed in a
failure that says which of four things happened. -/
theorem run_classified (x : Exchange) {m : Message} {w : World}
    (encodable : m.encodeRequest = .ok payload) (room : 0 ≤ x.sizeLimit)
    (tame : w.Tame fun p => p.isTrouble) (free : w.deadline = none)
    (decoding : ∀ bs p, decode bs = .error p → p.IsFailure .decoding) :
    Ends (x.run m decode) { world := w } (x.Classified payload decode w) := by
  have dialing := x.ends_dial_decided (s := { world := w }) tame free
  rw [run, ends_bind, ends_get]
  dsimp only
  rw [if_neg (by simp)]
  have reaching := x.reach_of_encodable encodable { world := w }
  cases reached : x.dial { world := w } with
  | error p s =>
      obtain ⟨f, rfl, kind⟩ := (dialing.of_error reached).1 p rfl
      have unreached (c : Connection) (s' : Progress) : ¬ x.Reaches w c s' := by
        simp [Reaches, reached]
      simp only [reached] at reaching
      rw [settling, ends_bind, ends_bind, ends_outcome]
      refine .on_error reaching ?_
      dsimp only
      rw [ends_bind]
      apply Ends.mono (x.ends_settle_failure false f s)
      rintro r t ⟨rfl, phase, _⟩
      exact classified_of_unreached unreached ⟨f, rfl, kind⟩ phase
  | ok c s =>
      obtain ⟨world, l, there, unused⟩ := (dialing.of_ok reached).2 c rfl
      simp only [reached] at reaching
      rw [ends_bind]
      refine .on_ok (settling_ok reaching) ?_
      apply Ends.mono (x.ends_talk_course world there unused payload room decoding)
      intro r t spoken
      exact classified_of_talks reached world there room decoding spoken

/-- A network in which each connection is reset after the hello. -/
def cutOff : World where
  network _ _ := {
    arrivals := [(1, .data (greetingOf missed.protocol missed.tracker)),
      (2, .broken (.system .reset "reset"))] }

theorem tame_cutOff : cutOff.Tame fun p => p.isTrouble where
  network _ _ := {
    dials := by rintro _ ⟨⟩
    calls := by rintro _ _ _ ⟨⟩
    reads := by
      intro wait p member
      simp only [cutOff, List.mem_cons, Prod.mk.injEq, reduceCtorEq, and_false, false_or,
        Arrival.broken.injEq, List.not_mem_nil, or_false] at member
      rw [member.2]
      rfl
    closes := fun _ => rfl
    waits := by rintro _ _ ⟨⟩ }
  links := by simp [cutOff]

theorem decoding_readAnswer (bs : Octets) (p : Problem) (h : readAnswer bs = .error p) :
    p.IsFailure .decoding := by
  unfold readAnswer at h
  cases decoded : decodeResponse bs with
  | ok a => simp [decoded, Except.mapError] at h
  | error fault =>
      simp only [decoded, Except.mapError, Except.error.injEq] at h
      exact ⟨_, h.symm, rfl⟩

theorem run_classified_cutOff : ∃ payload, question.encodeRequest = .ok payload ∧
    Ends (missed.run question readAnswer) { world := cutOff }
      (missed.Classified payload readAnswer cutOff) :=
  ⟨_, rfl, run_classified missed rfl (by decide) tame_cutOff rfl decoding_readAnswer⟩

end ContentTracker.Exchange
