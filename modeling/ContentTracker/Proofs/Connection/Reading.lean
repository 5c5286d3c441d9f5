import ContentTracker.Proofs.Connection.Inquiry
import ContentTracker.Proofs.Network.Flow

/-! Reading a payload to its end, whatever the segments that it arrives in. After each read the link
is as its arrivals left it, without what has been read; from this follows what comes of the reading,
and when. -/

namespace ContentTracker.Connection

open Net World

variable {w v : World} {c : Connection} {l : Link} {limit : Int} {final : Rat}
  {tail : List (Rat × Arrival)} {payload read : Octets}

/-- The time until which a read waits that begins when the payload is in. -/
def overdue (c : Connection) (w : World) (final : Rat) : Rat :=
  max w.now final + c.readTimeout.seconds

/-- Reading that began in `w` on the link `l` has come to `v` with no more than `read`, without
waiting longer than it had to. -/
structure Reads (c : Connection) (limit : Int) (w : World) (l : Link) (final : Rat) (read : Octets)
    (v : World) : Prop where
  link : ∃ m, w.Passes c.number m v ∧ m.advance v.now = (l.advance v.now).without read.length
  arrived : read <+: (l.advance v.now).buffer
  prompt : v.now ≤ max w.now final
  early : ∀ t, w.now ≤ t → t < v.now → ((l.advance t).buffer.length : Int) ≤ limit

theorem Reads.start (there : w.links[c.number]? = some l) : c.Reads limit w l final [] w where
  link := ⟨l, (Waits.refl w).passes there, (l.advance w.now).without_zero.symm⟩
  arrived := List.nil_prefix
  prompt := le_max_left _ _
  early _ after before := absurd after (Rat.not_le.2 before)

theorem Reads.patient (h : c.Reads limit w l final read v) (timed : 0 < c.readTimeout.seconds) :
    v.now ≤ c.overdue w final := by
  have prompt := h.prompt
  unfold overdue
  grind

/-- What was read so far and what a read takes of the rest is what was read. -/
theorem Reads.taking {u : World} {count : Nat} (h : c.Reads limit w l final read v)
    (passed : v.Passes c.number (((l.advance u.now).without read.length).without count) u)
    (prompt : u.now ≤ max w.now final)
    (early : ∀ t, v.now ≤ t → t < u.now → ((l.advance t).buffer.length : Int) ≤ limit) :
    c.Reads limit w l final
      (read ++ ((l.advance u.now).without read.length).buffer.take count) u := by
  obtain ⟨⟨m', passed', _⟩, arrived, _, early'⟩ := h
  have arrived' : read <+: (l.advance u.now).buffer := by
    rw [← Link.advance_advance passed.later]
    exact arrived.trans (Link.buffer_prefix_advance _ _)
  obtain ⟨rest, whole⟩ := arrived'
  refine ⟨⟨_, passed'.trans passed, ?_⟩, ?_, prompt, fun t after before => ?_⟩
  · rw [← Link.without_take, Link.without_without, Link.advance_without_idle, List.length_append]
  · have left : ((l.advance u.now).without read.length).buffer = rest := by
      rw [Link.without, ← whole, List.drop_left]
    rw [left, ← whole, List.prefix_append_right_inj]
    exact List.take_prefix _ _
  · by_cases earlier : t < v.now
    · exact early' t after earlier
    · exact early t (Rat.not_lt.1 earlier) before

section Next

variable {count : Nat} {deadline : Rat} (h : c.Reads limit w l final read v)
  (there : w.links[c.number]? = some l) (free : w.deadline = none)
  (intact : (l.advance v.now).broken = none) (positive : 0 < count)

include h there free intact positive

/-- A read that finds octets or the end of the stream. -/
theorem Reads.ready (ready : (l.advance v.now).buffer ≠ read ∨ (l.advance v.now).ended = true) :
    Ends (readSome c.number count) { v with deadline := some deadline } fun r u =>
      r = .ok (((l.advance v.now).without read.length).buffer.take count) ∧
      v.Passes c.number (((l.advance v.now).without read.length).without count)
        { u with deadline := none } ∧ u.now = v.now := by
  obtain ⟨⟨m, passed, same⟩, arrived, _⟩ := h
  rw [← same]
  have reading := ends_readSome_ready (w := { v with deadline := some deadline })
    (by exact passed.there there) (by rw [same]; exact intact) positive (by
      rw [same]
      refine ready.imp_left fun more empty => more ?_
      exact (arrived.eq_of_length_le (List.drop_eq_nil_iff.1 empty)).symm)
  apply reading.mono
  intro r u h
  obtain ⟨given, taken, now⟩ := h
  exact ⟨given, taken.unbounded (passed.deadline.trans free), now⟩

section Waiting

variable (all : (l.advance v.now).buffer = read) (unended : (l.advance v.now).ended = false)

include all unended

/-- A read that waits for what comes next. -/
theorem Reads.woken {t : Rat} {a : Arrival} {rest : List (Rat × Arrival)}
    (next : (l.advance v.now).pending = (t, a) :: rest) (noticed : Link.isNoticed a)
    (unbroken : ∀ p, a ≠ .broken p) (soon : t ≤ deadline) :
    Ends (readSome c.number count) { v with deadline := some deadline } fun r u =>
      r = .ok (((l.advance t).without read.length).buffer.take count) ∧
      v.Passes c.number (((l.advance t).without read.length).without count)
        { u with deadline := none } ∧ u.now = t := by
  obtain ⟨⟨m, passed, same⟩, arrived, _⟩ := h
  have later := Rat.le_of_lt (Link.later_of_advance next)
  have same' : m.advance t = (l.advance t).without read.length := by
    rw [← Link.advance_advance later, same, Link.advance_without arrived.length_le,
      Link.advance_advance later]
  rw [← same']
  have reading := ends_readSome_woken (w := { v with deadline := some deadline })
    (by exact passed.there there) (by rw [same]; exact intact)
    (by rw [same, Link.without, all, List.drop_length])
    (by rw [same]; exact unended) positive (by rw [same]; exact next) noticed unbroken
    (allows_of_bounded rfl soon)
  apply reading.mono
  intro r u h
  obtain ⟨given, taken, now⟩ := h
  exact ⟨given, taken.unbounded (passed.deadline.trans free), now⟩

/-- A read that waits in vain. -/
theorem Reads.starved (ahead : v.now ≤ deadline)
    (late : ∀ e ∈ (l.advance v.now).pending, deadline < e.1) :
    Ends (readSome c.number count) { v with deadline := some deadline } fun r u =>
      r = .error .cancelled ∧ v.Passes c.number ((l.advance v.now).without read.length)
        { u with deadline := none } ∧ u.now = deadline := by
  obtain ⟨⟨m, passed, same⟩, _⟩ := h
  rw [← same]
  have reading := ends_readSome_starved (w := { v with deadline := some deadline })
    (by exact passed.there there) (by rw [same]; exact intact)
    (by rw [same, Link.without, all, List.drop_length])
    (by rw [same]; exact unended) positive rfl ahead (by rw [same]; exact late)
  apply reading.mono
  intro r u h
  obtain ⟨given, taken, now⟩ := h
  exact ⟨given, taken.unbounded (passed.deadline.trans free), now⟩

end Waiting

end Next

/-- How one more read goes: it brings octets, or the end of the stream, or its time is over. -/
inductive Goes (c : Connection) (limit : Int) (w : World) (l : Link) (final : Rat)
    (tail : List (Rat × Arrival)) (payload read : Octets) : Except Problem Octets → World → Prop
  | on {chunk : Octets} {u : World} : chunk ≠ [] → c.Reads limit w l final (read ++ chunk) u →
      Goes c limit w l final tail payload read (.ok chunk) u
  | finished {t : Rat} {u : World} {m : Link} : read = payload → tail = [(t, .endOfStream)] →
      t ≤ c.overdue w final → w.Passes c.number m u → m.outgoing = l.outgoing →
      Goes c limit w l final tail payload read (.ok []) u
  | stalled {u : World} {m : Link} : read = payload → (∀ e ∈ tail, c.overdue w final < e.1) →
      w.Passes c.number m u → m.outgoing = l.outgoing →
      Goes c limit w l final tail payload read (.error (.system .timeout "")) u

theorem Reads.free (h : c.Reads limit w l final read v) (free : w.deadline = none) :
    v.deadline = none := by
  obtain ⟨_, passed, _⟩ := h.link
  exact passed.deadline.trans free

theorem Reads.outgoing (h : c.Reads limit w l final read v) :
    ∃ m, w.Passes c.number m v ∧ m.outgoing = l.outgoing := by
  obtain ⟨m, passed, same⟩ := h.link
  refine ⟨m, passed, ?_⟩
  rw [← (m.hears_advance v.now).outgoing, same]
  exact (l.hears_advance v.now).outgoing

/-- Only what the link has to give is read. -/
theorem Reads.begun (h : c.Reads limit w l final read v) {gap : Rat}
    (supplies : l.Supplies gap final tail w.now payload) (settles : Settles v.now tail) :
    read <+: payload := by
  obtain ⟨_, passed, _⟩ := h.link
  exact h.arrived.trans ((supplies.later passed.later).advance settles).begun

/-- A read that brings octets goes on. -/
theorem Reads.goes_on {count : Nat} {u : World} (h : c.Reads limit w l final read v)
    (taken : v.Passes c.number (((l.advance u.now).without read.length).without count) u)
    (positive : 0 < count) (more : read.length < (l.advance u.now).buffer.length)
    (prompt : u.now ≤ max w.now final)
    (early : ∀ t, v.now ≤ t → t < u.now → ((l.advance t).buffer.length : Int) ≤ limit) :
    Goes c limit w l final tail payload read
      (.ok (((l.advance u.now).without read.length).buffer.take count)) u := by
  refine .on (List.ne_nil_of_length_pos ?_) (h.taking taken prompt early)
  rw [Link.without, List.length_take, List.length_drop]
  omega

section Goes

variable {count : Nat} (timed : 0 < c.readTimeout.seconds) (there : w.links[c.number]? = some l)
  (free : w.deadline = none) (h : c.Reads limit w l final read v) (positive : 0 < count)
  (intact : (l.advance v.now).broken = none)

include timed there free h positive intact

/-- Where more has arrived than was read, the read brings some of it. -/
theorem Reads.goes_ready (more : read.length < (l.advance v.now).buffer.length) :
    Ends (within c.readTimeout.seconds (readSome c.number count)) v
      (Goes c limit w l final tail payload read) := by
  refine ends_within_timed timed (h.free free) ?_
  have other : (l.advance v.now).buffer ≠ read := fun same => by simp [same] at more
  apply (h.ready there free intact positive (.inl other)).mono
  rintro _ u ⟨rfl, taken, now⟩
  rw [← now] at taken more ⊢
  refine .inl ⟨_, rfl, h.goes_on (u := { u with deadline := none }) taken positive more ?_ ?_⟩
  · exact now.le.trans h.prompt
  · exact fun t after before => absurd before (Rat.not_lt.2 (now ▸ after))

section All

variable (all : (l.advance v.now).buffer = read)

include all

/-- Where all was read and the stream has ended, the read finds its end. -/
theorem Reads.goes_ended {t : Rat} (ended : (l.advance v.now).ended = true) (whole : read = payload)
    (finish : tail = [(t, .endOfStream)]) (soon : t ≤ c.overdue w final) :
    Ends (within c.readTimeout.seconds (readSome c.number count)) v
      (Goes c limit w l final tail payload read) := by
  refine ends_within_timed timed (h.free free) ?_
  have outgoing := (l.hears_advance v.now).outgoing
  obtain ⟨_, passed, _⟩ := h.link
  apply (h.ready there free intact positive (.inr ended)).mono
  rintro _ u ⟨rfl, taken, now⟩
  refine .inl ⟨_, rfl, ?_⟩
  rw [Link.without, all, List.drop_length, List.take_nil]
  exact .finished whole finish soon (passed.trans taken) outgoing

variable (unended : (l.advance v.now).ended = false)

include unended

/-- Where all was read and more comes in time, the read waits for it. -/
theorem Reads.goes_woken {t : Rat} {bs : Octets} {rest : List (Rat × Arrival)}
    (next : (l.advance v.now).pending = (t, .data bs) :: rest) (some : bs ≠ [])
    (soon : t ≤ v.now + c.readTimeout.seconds) (prompt : t ≤ max w.now final)
    (room : (read.length : Int) ≤ limit) :
    Ends (within c.readTimeout.seconds (readSome c.number count)) v
      (Goes c limit w l final tail payload read) := by
  refine ends_within_timed timed (h.free free) ?_
  have later := Link.later_of_advance next
  have noticed : Link.isNoticed (.data bs) := by
    cases bs with
    | nil => exact absurd rfl some
    | cons b bs => rfl
  have grown : read ++ bs <+: (l.advance t).buffer := by
    rw [← Link.advance_advance (Rat.le_of_lt later), Link.advance_due next Rat.le_refl, ← all]
    exact Link.buffer_prefix_advance ((l.advance v.now).received (.data bs) rest) t
  have more : read.length < (l.advance t).buffer.length := by
    have size := grown.length_le
    have longer := List.length_pos_iff.2 some
    rw [List.length_append] at size
    omega
  apply (h.woken there free intact positive all unended next noticed (by simp) soon).mono
  rintro _ u ⟨rfl, taken, rfl⟩
  refine .inl ⟨_, rfl, h.goes_on (u := { u with deadline := none }) taken positive more prompt
    fun s after before => ?_⟩
  -- Until then nothing arrives.
  rw [← Link.advance_advance after, Link.advance_later next before, all]
  exact room

/-- Where all was read and the end of the stream comes in time, the read waits for it. -/
theorem Reads.goes_finished {t : Rat} (next : (l.advance v.now).pending = [(t, .endOfStream)])
    (now : v.now + c.readTimeout.seconds = c.overdue w final)
    (finish : tail = [(t, .endOfStream)]) (soon : t ≤ c.overdue w final) (whole : read = payload) :
    Ends (within c.readTimeout.seconds (readSome c.number count)) v
      (Goes c limit w l final tail payload read) := by
  refine ends_within_timed timed (h.free free) ?_
  have later := Rat.le_of_lt (Link.later_of_advance next)
  have same : (l.advance t).buffer = read := by
    rw [← Link.advance_advance later, Link.advance_due next Rat.le_refl, Link.advance_nil rfl, ← all]
    rfl
  have outgoing := (l.hears_advance t).outgoing
  obtain ⟨_, passed, _⟩ := h.link
  rw [now]
  apply (h.woken there free intact positive all unended next rfl (by simp) soon).mono
  rintro _ u ⟨rfl, taken, _⟩
  refine .inl ⟨_, rfl, ?_⟩
  rw [Link.without, same, List.drop_length, List.take_nil]
  exact .finished whole finish soon (passed.trans taken) outgoing

/-- Where all was read and nothing comes in time, the read waits in vain. -/
theorem Reads.goes_stalled (pending : (l.advance v.now).pending = tail)
    (now : v.now + c.readTimeout.seconds = c.overdue w final)
    (late : ∀ e ∈ tail, c.overdue w final < e.1) (whole : read = payload) :
    Ends (within c.readTimeout.seconds (readSome c.number count)) v
      (Goes c limit w l final tail payload read) := by
  refine ends_within_timed timed (h.free free) ?_
  have outgoing := (l.hears_advance v.now).outgoing
  obtain ⟨_, passed, _⟩ := h.link
  rw [now]
  apply (h.starved there free intact positive all unended (h.patient timed) (pending ▸ late)).mono
  rintro _ u ⟨rfl, broken, later⟩
  exact .inr ⟨rfl, later, .stalled whole late (passed.trans broken) outgoing⟩

end All

end Goes

/-- One more read from a link on which a payload flows. -/
theorem Reads.goes (h : c.Reads limit w l final read v) (timed : 0 < c.readTimeout.seconds)
    (there : w.links[c.number]? = some l) (free : w.deadline = none)
    (supplies : l.Supplies c.readTimeout.seconds final tail w.now payload)
    (settles : Settles (c.overdue w final) tail) (room : (read.length : Int) ≤ limit) :
    Ends (within c.readTimeout.seconds
      (readUpTo c.number (min chunkSize (limit + 1 - read.length)))) v
      (Goes c limit w l final tail payload read) := by
  have positive : 0 < min chunkSize (limit + 1 - read.length) := by
    unfold chunkSize
    omega
  generalize min chunkSize (limit + 1 - read.length) = want at positive
  obtain ⟨count, rfl⟩ := Int.eq_ofNat_of_zero_le (Int.le_of_lt positive)
  have positive' : 0 < count := Int.natCast_pos.1 positive
  have patient := h.patient timed
  obtain ⟨_, passed, _⟩ := h.link
  have stands : (l.advance v.now).Supplies c.readTimeout.seconds final tail v.now payload :=
    (supplies.later passed.later).advance (settles.sooner patient)
  by_cases more : read.length < (l.advance v.now).buffer.length
  · exact h.goes_ready timed there free positive' stands.intact more
  have all : (l.advance v.now).buffer = read :=
    (h.arrived.eq_of_length_le (Nat.not_lt.1 more)).symm
  obtain ⟨unended, last, later, recent, whole, flows⟩ | ⟨ended, _, whole, _, t, due, finish⟩ :=
    stands.coming
  · generalize pending : (l.advance v.now).pending = coming at flows
    cases flows with
    | segment soon some flows =>
        have prompt := flows.last_le
        exact h.goes_woken timed there free positive' stands.intact all unended pending some
          (by grind) (by grind) room
    | done =>
        rw [all, List.append_nil] at whole
        have now : v.now + c.readTimeout.seconds = c.overdue w final := by
          rw [overdue, le_antisymm h.prompt (max_le passed.later recent)]
        obtain late | ⟨t, soon, finish⟩ := settles.cases
        · exact h.goes_stalled timed there free positive' stands.intact all unended pending now
            late whole.symm
        · exact h.goes_finished timed there free positive' stands.intact all unended
            (pending.trans finish) now finish soon whole.symm
  · exact h.goes_ended timed there free positive' stands.intact all ended (all.symm.trans whole.symm)
      finish (due.trans patient)

/-- What comes of reading to the end: the payload is found too long, or it was read, or its end did
not come in time. -/
inductive Comes (c : Connection) (limit : Int) (w : World) (l : Link) (final : Rat)
    (tail : List (Rat × Arrival)) (payload : Octets) : Except Problem Octets → World → Prop
  | oversized {read : Octets} {u : World} : c.Reads limit w l final read u → limit < read.length →
      Comes c limit w l final tail payload (.error (oversized limit)) u
  | whole {t : Rat} {u : World} {m : Link} : (payload.length : Int) ≤ limit →
      tail = [(t, .endOfStream)] → t ≤ c.overdue w final → w.Passes c.number m u →
      m.outgoing = l.outgoing → Comes c limit w l final tail payload (.ok payload) u
  | unfinished {u : World} {m : Link} : (payload.length : Int) ≤ limit →
      (∀ e ∈ tail, c.overdue w final < e.1) → w.Passes c.number m u → m.outgoing = l.outgoing →
      Comes c limit w l final tail payload (.error (c.unfinished payload)) u

section Loop

variable (timed : 0 < c.readTimeout.seconds) (there : w.links[c.number]? = some l)
  (free : w.deadline = none)
  (supplies : l.Supplies c.readTimeout.seconds final tail w.now payload)
  (settles : Settles (c.overdue w final) tail)

include timed there free supplies settles

/-- Each read but the last brings an octet, so that the loop comes to an end of its own. -/
theorem ends_readLoop_comes {fuel : Nat} (h : c.Reads limit w l final read v)
    (room : (read.length : Int) ≤ limit) (enough : limit.toNat + 2 ≤ fuel + read.length) :
    Ends (c.readLoop limit fuel read) v (Comes c limit w l final tail payload) := by
  induction fuel generalizing read v with
  | zero => omega
  | succ fuel ih =>
      rw [readLoop, readChunk_eq, ends_bind, ends_bind, ends_outcome]
      apply (h.goes timed there free supplies settles room).mono
      intro r u went
      cases went with
      | finished whole finish soon passed outgoing =>
          subst whole
          exact .whole room finish soon passed outgoing
      | stalled whole late passed outgoing =>
          subst whole
          exact .unfinished room late passed outgoing
      | @on chunk _ some reads =>
          have longer := List.length_pos_iff.2 some
          simp only [ends_pure]
          rw [if_neg (by simpa using some)]
          split
          · next long => exact .oversized reads long
          · next fits =>
            exact ih reads (Int.not_lt.1 fits) (by rw [List.length_append]; omega)

theorem ends_readToEnd_comes (room : 0 ≤ limit) :
    Ends (c.readToEnd limit) w (Comes c limit w l final tail payload) :=
  ends_readLoop_comes timed there free supplies settles (.start there) room (Nat.le_refl _)

end Loop

/-- Reading to the end where a payload arrives in segments none of which is late. It is found too
long as soon as more than `limit` octets of it have arrived, whether or not it ends; what is not too
long is the result if the end of the stream comes in time, and is told to be unfinished if nothing
comes in time. Whatever arrives, each read asks for something, and neither their number nor what
they ask for or bring is more than the limit and one. -/
theorem readToEnd_segmented (timed : 0 < c.readTimeout.seconds) (room : 0 ≤ limit)
    (there : w.links[c.number]? = some l) (free : w.deadline = none)
    (supplies : l.Supplies c.readTimeout.seconds final tail w.now payload)
    (settles : Settles (c.overdue w final) tail) :
    Ends (c.readToEnd limit) w (fun r v =>
      (limit < payload.length → r = .error (oversized limit) ∧
        limit < (l.advance v.now).buffer.length ∧
        ∀ t, w.now ≤ t → t < v.now → ((l.advance t).buffer.length : Int) ≤ limit) ∧
      (payload.length ≤ limit →
        (∀ t, tail = [(t, .endOfStream)] → t ≤ c.overdue w final → r = .ok payload) ∧
        ((∀ e ∈ tail, c.overdue w final < e.1) → r = .error (c.unfinished payload)))) ∧
    c.readToEnd limit = (c.inquiry limit).run c ∧
    ∀ u, Ask.Sparing limit 0 ((c.inquiry limit).asks c u) := by
  refine ⟨?_, readToEnd_eq_run c limit, asks_inquiry room⟩
  apply (ends_readToEnd_comes timed there free supplies settles room).mono
  intro r v came
  cases came with
  | oversized reads long =>
      have begun := (reads.begun supplies (settles.sooner (reads.patient timed))).length_le
      have arrived := reads.arrived.length_le
      exact ⟨fun _ => ⟨rfl, by omega, reads.early⟩, fun short => by omega⟩
  | whole short finish soon _ _ =>
      refine ⟨fun long => by omega, fun _ => ⟨fun _ _ _ => rfl, fun late => ?_⟩⟩
      subst finish
      exact absurd (late _ (List.mem_singleton_self _)) (Rat.not_lt.2 soon)
  | unfinished short late _ _ =>
      refine ⟨fun long => by omega, fun _ => ⟨fun t finish soon => ?_, fun _ => rfl⟩⟩
      subst finish
      exact absurd (late _ (List.mem_singleton_self _)) (Rat.not_lt.2 soon)

/-- Three octets in two segments, and then nothing. -/
def dripping : Link where
  behaviour := {}
  pending := [(1, .data [1, 2]), (3, .data [3])]

def drippingWorld : World := { network := .unreachable, links := #[dripping] }

def drinking : Connection where
  number := 0
  remote := ⟨⟨List.replicate 32 5, rfl⟩⟩
  protocol := []
  readTimeout := .whole 5

theorem dripping_supplies :
    dripping.Supplies drinking.readTimeout.seconds 3 [] drippingWorld.now [1, 2, 3] where
  intact := rfl
  coming := by
    have second : Flows drinking.readTimeout.seconds [] 3 1 ([3] ++ []) [(3, .data [3])] :=
      .segment (by decide +kernel) (by decide) .done
    have first : Flows drinking.readTimeout.seconds [] 3 0 ([1, 2] ++ ([3] ++ []))
        [(1, .data [1, 2]), (3, .data [3])] :=
      .segment (by decide +kernel) (by decide) second
    exact .inl ⟨rfl, 0, _, Rat.le_refl, rfl, first⟩

theorem readToEnd_segmented_dripping :
    Ends (drinking.readToEnd 2) drippingWorld (fun r v => r = .error (oversized 2) ∧
      (2 : Int) < (dripping.advance v.now).buffer.length ∧
      ∀ t, drippingWorld.now ≤ t → t < v.now → ((dripping.advance t).buffer.length : Int) ≤ 2) ∧
    Ends (drinking.readToEnd 3) drippingWorld fun r _ =>
      r = .error (drinking.unfinished [1, 2, 3]) := by
  have there : drippingWorld.links[drinking.number]? = some dripping := rfl
  have settles : Settles (drinking.overdue drippingWorld 3) [] := .inr (by simp)
  have read (limit : Int) (room : 0 ≤ limit) :=
    readToEnd_segmented (by decide) room there rfl dripping_supplies settles
  exact ⟨(read 2 (by decide)).1.mono fun r v h => h.1 (by decide),
    (read 3 (by decide)).1.mono fun r v h => (h.2 (by decide)).2 (by simp)⟩

end ContentTracker.Connection
