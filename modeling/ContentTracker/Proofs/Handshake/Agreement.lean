import ContentTracker.Proofs.Handshake.Sides

/-! The handshake of the two sides, whatever the order of their steps: who gets a connection, what
is said on it, and that neither waits for ever. -/

namespace ContentTracker

open Dialogue Endpoint

section Together

variable {e f : Endpoint} {i j : Nat} {peer : PeerId} {a b : Octets}
  {app host : Connection → Dialogue Unit} {m n : Meeting Connection Accepted}

/-- Both sides are at their handshake or behind it, and what is said is carried. -/
structure Shaking (e f : Endpoint) (i j : Nat) (peer : PeerId) (a b : Octets)
    (m : Meeting Connection Accepted) : Prop where
  sound : m.Sound
  dialing : Dialing e i peer a (a = b ∧ peer = f.node) m.left.stage m.left.said m.left.took
    m.left.calls
  accepting : Accepting f j e.node b (a = b) m.right.stage m.right.said m.right.took m.right.calls

theorem Shaking.step (shortA : a.length ≤ 255) (shortB : b.length ≤ 255)
    (h : Shaking e f i j peer a b m)
    (step : Meeting.Step (afterDialing app) (afterAccepting host) m n) :
    Shaking e f i j peer a b n := by
  have sound := h.sound.step step
  -- A hello that a side has heard is a part of what the other side said, so it is that side's own.
  have told := h.sound.toLeft.heard_prefix
  have asked := h.sound.toRight.heard_prefix
  cases step with
  | leftMoves moves =>
      refine ⟨sound, h.dialing.moves moves (fun theirs remote short whole => ?_)
        (fun ended none meant => ?_), h.accepting⟩
      · obtain ⟨silent, _⟩ | ⟨same, spoken⟩ := h.accepting.spoken
        · rw [silent] at told
          exact absurd (whole.trans told) (not_greetingOf_prefix_nil _ _)
        · obtain ⟨rfl, rfl⟩ := greeting_eq shortB short spoken told whole
          exact ⟨same.symm, fun right => ⟨same, right.symm⟩, fun h => h.2.symm⟩
      · obtain ⟨_, other⟩ | ⟨_, spoken⟩ := h.accepting.spoken
        · exact other (Side.calls_ne_nil (h.sound.toLeft.last ended).1) meant.1
        · rw [h.sound.toLeft.all ended] at spoken
          exact none b f.node shortB spoken
  | rightMoves moves =>
      refine ⟨sound, h.dialing, h.accepting.moves moves (fun theirs remote short whole => ?_)
        fun ended => ?_⟩
      · obtain ⟨silent, _⟩ | spoken := h.dialing.spoken
        · rw [silent] at asked
          exact absurd (whole.trans asked) (not_greetingOf_prefix_nil _ _)
        · obtain ⟨rfl, rfl⟩ := greeting_eq shortA short spoken asked whole
          exact ⟨rfl, Iff.rfl⟩
      · obtain ⟨_, silent⟩ | spoken := h.dialing.spoken
        · exact absurd silent (Side.calls_ne_nil (h.sound.toRight.last ended).1)
        · rw [h.sound.toRight.all ended] at spoken
          exact ⟨a, e.node, shortA, spoken⟩
  | leftHears same some => exact ⟨sound, h.dialing, h.accepting⟩
  | rightHears same some => exact ⟨sound, h.dialing, h.accepting⟩
  | leftEnds nothing shut unended => exact ⟨sound, h.dialing, h.accepting⟩
  | rightEnds nothing shut unended => exact ⟨sound, h.dialing, h.accepting⟩

theorem Shaking.left_goes (shortB : b.length ≤ 255) (h : Shaking e f i j peer a b m)
    (arrived : m.toLeft = []) (spoken : greetingOf b f.node <+: m.right.said)
    (unsettled : ∀ r, ¬ m.left.Settled r) : ¬ m.left.Waits := by
  intro waits
  have whole := h.sound.toLeft.whole
  rw [arrived, List.append_nil] at whole
  exact (h.dialing.waits unsettled waits).2 b f.node shortB (whole ▸ spoken)

theorem Shaking.right_goes (shortA : a.length ≤ 255) (h : Shaking e f i j peer a b m)
    (arrived : m.toRight = []) (spoken : greetingOf a e.node <+: m.left.said)
    (unsettled : ∀ r, ¬ m.right.Settled r) : ¬ m.right.Waits := by
  intro waits
  have whole := h.sound.toRight.whole
  rw [arrived, List.append_nil] at whole
  exact h.accepting.waits unsettled waits a e.node shortA (whole ▸ spoken)

theorem Shaking.spoken_of_settled {r : Except Problem Connection}
    (h : Shaking e f i j peer a b m) (settled : m.left.Settled r) :
    greetingOf a e.node <+: m.left.said := by
  obtain ⟨_, _, spoken, _⟩ | ⟨_, _, said, _⟩ := h.dialing.settled settled
  · exact spoken
  · rw [said]

/-- While a handshake is not over, some side or something on the way moves on. -/
theorem Shaking.not_deadlocked (shortA : a.length ≤ 255) (shortB : b.length ≤ 255)
    (h : Shaking e f i j peer a b m) (unfinished : ¬ m.Over) : ¬ m.Deadlocked := by
  rintro ⟨waitsLeft, waitsRight, nothingLeft, nothingRight⟩
  by_cases settledRight : ∃ r, m.right.Settled r
  · obtain ⟨r, settled⟩ := settledRight
    have unsettled : ∀ r, ¬ m.left.Settled r := fun q left => unfinished ⟨⟨q, left⟩, r, settled⟩
    obtain ⟨_, _, spoken, _⟩ | ⟨_, _, _, idle⟩ := h.accepting.settled settled
    · exact h.left_goes shortB nothingLeft spoken unsettled waitsLeft
    · exact idle waitsRight
  · have unsettled : ∀ r, ¬ m.right.Settled r := fun r settled => settledRight ⟨r, settled⟩
    refine h.right_goes shortA nothingRight ?_ unsettled waitsRight
    by_cases settledLeft : ∃ r, m.left.Settled r
    · obtain ⟨r, settled⟩ := settledLeft
      exact h.spoken_of_settled settled
    · exact (h.dialing.waits (fun r settled => settledLeft ⟨r, settled⟩) waitsLeft).1

theorem Shaking.progress (shortA : a.length ≤ 255) (shortB : b.length ≤ 255)
    (h : Shaking e f i j peer a b m) (unfinished : ¬ m.Over) :
    ∃ n, Meeting.Step (afterDialing app) (afterAccepting host) m n := by
  -- Where no step is left nothing is on the way, and a side that is not settled waits. It waits for
  -- a hello which the other side has said by then, or will not say because it has closed.
  by_contra stuck
  have nothingLeft : m.toLeft = [] := by
    by_contra some
    exact stuck ⟨_, .leftHears (List.append_nil m.toLeft).symm some⟩
  have nothingRight : m.toRight = [] := by
    by_contra some
    exact stuck ⟨_, .rightHears (List.append_nil m.toRight).symm some⟩
  have waitsLeft (unsettled : ∀ r, ¬ m.left.Settled r) : m.left.Waits := by
    obtain waits | ⟨_, _, _, moves⟩ := Side.moves_or_waits unsettled (afterDialing app)
    · exact waits
    · exact absurd ⟨_, .leftMoves moves⟩ stuck
  have waitsRight (unsettled : ∀ r, ¬ m.right.Settled r) : m.right.Waits := by
    obtain waits | ⟨_, _, _, moves⟩ := Side.moves_or_waits unsettled (afterAccepting host)
    · exact waits
    · exact absurd ⟨_, .rightMoves moves⟩ stuck
  by_cases settledRight : ∃ r, m.right.Settled r
  · obtain ⟨r, settled⟩ := settledRight
    have unsettled : ∀ r, ¬ m.left.Settled r := fun q left => unfinished ⟨⟨q, left⟩, r, settled⟩
    have waits := waitsLeft unsettled
    obtain ⟨_, _, spoken, _⟩ | ⟨_, _, closed, _⟩ := h.accepting.settled settled
    · exact h.left_goes shortB nothingLeft spoken unsettled waits
    · have shut : m.right.shut = true := by
        rw [Side.shut, closed]
        rfl
      exact stuck ⟨_, .leftEnds nothingLeft shut waits.unended⟩
  · have unsettled : ∀ r, ¬ m.right.Settled r := fun r settled => settledRight ⟨r, settled⟩
    refine h.right_goes shortA nothingRight ?_ unsettled (waitsRight unsettled)
    by_cases settledLeft : ∃ r, m.left.Settled r
    · obtain ⟨r, settled⟩ := settledLeft
      exact h.spoken_of_settled settled
    · have unsettled : ∀ r, ¬ m.left.Settled r := fun r settled => settledLeft ⟨r, settled⟩
      exact (h.dialing.waits unsettled (waitsLeft unsettled)).1

end Together

/-! What a handshake comes to. -/

/-- What `t` has read behind the hello of `s` is what `s` has written there, up to what is still on
the way. -/
def ReadsOn {α β : Type} (hello : Octets) (s : Side α) (flight : Octets) (t : Side β) : Prop :=
  ∃ written read, s.said = hello ++ written ∧ t.took = hello ++ read ∧
    written = read ++ t.heard ++ flight ∧ (t.ended = true → s.shut = true ∧ flight = [])

theorem readsOn_of_carries {α β : Type} {hello flight : Octets} {s : Side α} {t : Side β}
    (h : Meeting.Carries s flight t) (read : hello <+: t.took) : ReadsOn hello s flight t := by
  obtain ⟨more, took⟩ := read
  refine ⟨more ++ t.heard ++ flight, more, ?_, took.symm, rfl, h.last⟩
  rw [h.whole, ← took]
  simp only [List.append_assoc]

section Outcome

variable (e f : Endpoint) (i j : Nat) (peer : PeerId) (a b : Octets)

/-- Both sides go on with a connection to the other one, and each reads what the other writes. -/
structure Agreed (m : Meeting Connection Accepted) : Prop where
  dialed : ∀ r, m.left.Settled r → r = .ok ⟨i, f.node, a, e.readTimeout⟩ ∧
    ReadsOn (greetingOf a f.node) m.right m.toLeft m.left
  accepted : ∀ r, m.right.Settled r →
    r = .ok (some (⟨j, e.node, a, f.readTimeout⟩, .ok ())) ∧
      ReadsOn (greetingOf a e.node) m.left m.toRight m.right

/-- The side that dials fails and closes, and it says nothing but its hello. -/
structure Undialed (m : Meeting Connection Accepted) : Prop where
  said : m.left.said <+: greetingOf a e.node
  calls : m.left.calls <+: [.write (greetingOf a e.node), .drain, .close]
  failed : ∀ r, m.left.Settled r → (∃ q, r = .error q) ∧ .close ∈ m.left.calls

/-- The side that accepts drops the connection and closes, and it says nothing at all. -/
structure Dropped (m : Meeting Connection Accepted) : Prop where
  said : m.right.said = []
  calls : m.right.calls <+: [.close]
  closed : ∀ r, m.right.Settled r → r = .ok none ∧ .close ∈ m.right.calls

variable {e f i j peer a b} {m : Meeting Connection Accepted}

theorem Shaking.agreed (h : Shaking e f i j peer a b m) (same : a = b) (right : peer = f.node) :
    Agreed e f i j a m := by
  subst same right
  constructor
  · intro r settled
    obtain ⟨_, rfl, _, read⟩ | ⟨other, _⟩ := h.dialing.settled settled
    · exact ⟨rfl, readsOn_of_carries h.sound.toLeft read⟩
    · exact absurd ⟨rfl, rfl⟩ other
  · intro r settled
    obtain ⟨_, rfl, _, read⟩ | ⟨other, _⟩ := h.accepting.settled settled
    · exact ⟨rfl, readsOn_of_carries h.sound.toRight read⟩
    · exact absurd rfl other

theorem Shaking.undialed (h : Shaking e f i j peer a b m) (other : ¬ (a = b ∧ peer = f.node)) :
    Undialed e a m := by
  obtain ⟨said, calls⟩ := h.dialing.apart other
  refine ⟨said, calls, fun r settled => ?_⟩
  obtain ⟨meant, _⟩ | ⟨_, failed, _, closed⟩ := h.dialing.settled settled
  · exact absurd meant other
  · exact ⟨failed, by simp [closed]⟩

theorem Shaking.dropped (h : Shaking e f i j peer a b m) (other : a ≠ b) : Dropped m := by
  obtain ⟨said, calls⟩ := h.accepting.apart other
  refine ⟨said, calls, fun r settled => ?_⟩
  obtain ⟨same, _⟩ | ⟨_, dropped, closed, _⟩ := h.accepting.settled settled
  · exact absurd same other
  · exact ⟨dropped, by simp [closed]⟩

end Outcome

/-- The side that dials, and the one that accepts, before anything was said. -/
def meeting (e f : Endpoint) (i j : Nat) (peer : PeerId) (a b ga gb : Octets) :
    Meeting Connection Accepted where
  left := { stage := .shaking (e.dialing i peer a ga) }
  right := { stage := .shaking (readingHello (f.answering j b gb)) }

theorem shaking_meeting (e f : Endpoint) (i j : Nat) (peer : PeerId) (a b : Octets) :
    Shaking e f i j peer a b
      (meeting e f i j peer a b (greetingOf a e.node) (greetingOf b f.node)) where
  sound := ⟨⟨rfl, by rintro ⟨⟩⟩, ⟨rfl, by rintro ⟨⟩⟩⟩
  dialing := .greets
  accepting := .listens .size

/-- How the handshake goes in which `e` dials `peer` with the protocol `a` and hello `ga`, and `f`
accepts with the protocol `b` and hello `gb`. Where they get connections, `app` and `host`
follow. -/
structure Handshakes (e f : Endpoint) (i j : Nat) (peer : PeerId) (a b ga gb : Octets)
    (app host : Connection → Dialogue Unit) : Prop where
  dials : ∀ address, e.dialOne peer address a ga = (do
    let i ← Net.dial address (e.localAddress address)
    (e.dialing i peer a ga).run i)
  /-- Accepting runs that of the other side, with a time limit on its reading. -/
  accepts : ∀ handler behaviour, f.accept b gb handler behaviour = (do
    let i ← Net.establish behaviour
    let hello ← Net.outcome (Net.within f.connectTimeout.seconds (readHello i))
    match ← (f.answering i b gb hello).run i with
    | none => pure ()
    | some (c, drained) => hosting c drained handler)
  /-- A move of a side is what running its dialogue does, on a link that holds what was heard. -/
  moves : ∀ {α : Type} {t u : Dialogue α} {taken : Octets} {made : Option WriterCall} {w : World}
    {l : Link}, t.Moves l.buffer l.ended u taken made → w.links[i]? = some l → Holds l w.now →
      w.deadline = none → ∃ v, t.run i w = u.run i v ∧
        w.Passes i { l.saying made.toList with buffer := l.buffer.drop taken.length } v
  reads : ∀ i, (readingHello (f.answering i b gb)).run i = (do
    let hello ← Net.outcome (readHello i)
    (f.answering i b gb hello).run i)
  ends : Inevitably (Meeting.Step (afterDialing app) (afterAccepting host)) Meeting.Over
    (meeting e f i j peer a b ga gb)
  always : ∀ m, Relation.ReflTransGen (Meeting.Step (afterDialing app) (afterAccepting host))
    (meeting e f i j peer a b ga gb) m →
      (a = b → peer = f.node → Agreed e f i j a m) ∧
      (a ≠ b → Undialed e a m ∧ Dropped m) ∧
      (a = b → peer ≠ f.node → Undialed e a m) ∧
      (¬ m.Over → ¬ m.Deadlocked)

/-- Whatever follows it and however octets are cut and the steps of the two sides mixed, a handshake
comes to an end. Both sides get a connection to each other if the protocols are the same and the
node is the one that was dialed. Under different protocols the side that accepts drops the
connection without a word, and the side that dials fails. It fails too when the node is another
one. -/
theorem handshake_agreement (e f : Endpoint) (i j : Nat) (peer : PeerId) (a b : Octets)
    (app host : Connection → Dialogue Unit) (lengthA : 1 ≤ a.length ∧ a.length ≤ 255)
    (lengthB : 1 ≤ b.length ∧ b.length ≤ 255) :
    ∃ ga gb, hello a e.node = .ok ga ∧ hello b f.node = .ok gb ∧
      Handshakes e f i j peer a b ga gb app host := by
  have start := shaking_meeting e f i j peer a b
  refine ⟨_, _, hello_of_length lengthA e.node, hello_of_length lengthB f.node,
    fun address => e.dialOne_eq_run peer address a _,
    fun handler behaviour => f.accept_eq_run _ _ handler behaviour,
    fun moves there held free => moves.runs there held free, fun i => run_readingHello _ i, ?_,
    fun m reached => ?_⟩
  · have ends := inevitably_of_progress
      (Meeting.wf_step (afterDialing app) (afterAccepting host))
      (fun m n (h : Shaking e f i j peer a b m) step => h.step lengthA.2 lengthB.2 step)
      (fun m h unfinished => h.progress lengthA.2 lengthB.2 unfinished) start
    exact ends.mono fun m h => h.2
  · have shaking : Shaking e f i j peer a b m := by
      induction reached with
      | refl => exact start
      | tail _ step ih => exact ih.step lengthA.2 lengthB.2 step
    refine ⟨shaking.agreed, fun other => ⟨?_, shaking.dropped other⟩, fun _ other => ?_,
      shaking.not_deadlocked lengthA.2 lengthB.2⟩
    · exact shaking.undialed fun h => other h.1
    · exact shaking.undialed fun h => other h.2

/-! Two sides that each say a few octets and read some, under tags of which one begins the other. -/

def caller : Endpoint where
  node := ⟨⟨List.replicate 32 1, rfl⟩⟩

def callee : Endpoint where
  node := ⟨⟨List.replicate 32 2, rfl⟩⟩

def chatting (bs : Octets) (_ : Connection) : Dialogue Unit :=
  .call (.write bs) fun _ => .receive 64 fun _ => .finished (.ok ())

theorem handshake_agreement_prefix : ∃ ga gb,
    hello [110, 48] caller.node = .ok ga ∧ hello [110, 48, 47] callee.node = .ok gb ∧
      Handshakes caller callee 0 0 callee.node [110, 48] [110, 48, 47] ga gb (chatting [1, 2])
        (chatting [3]) :=
  handshake_agreement caller callee 0 0 callee.node [110, 48] [110, 48, 47] (chatting [1, 2])
    (chatting [3]) (by decide) (by decide)

end ContentTracker
