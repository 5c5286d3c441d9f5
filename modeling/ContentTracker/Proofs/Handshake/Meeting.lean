import ContentTracker.Proofs.Handshake.Dialogue
import ContentTracker.Proofs.Network.Punctual
import Mathlib.Logic.Relation
import Mathlib.Order.GameAdd

/-! Two sides that meet over a connection. Each goes on as far as the octets that have arrived let
it, in any order of the two. What one side writes arrives at the other in order, in segments of any
size and at any time. No call fails, and no time limit is exceeded. -/

namespace ContentTracker

variable {α β : Type}

namespace Dialogue

/-- What a side does next where `heard` has arrived and not been read, and `ended` says that no more
will: what is left of the dialogue, the octets it took, and the call it made, if any. -/
inductive Moves (heard : Octets) (ended : Bool) :
    Dialogue α → Dialogue α → Octets → Option WriterCall → Prop
  | call (c : WriterCall) (next : Except Problem Unit → Dialogue α) :
      Moves heard ended (.call c next) (next (.ok ())) [] (some c)
  | read {count : Nat} (next : Except Problem Octets → Dialogue α) : count ≤ heard.length →
      Moves heard ended (.read count next) (next (.ok (heard.take count))) (heard.take count) none
  | cut {count : Nat} (next : Except Problem Octets → Dialogue α) : heard.length < count →
      ended = true → Moves heard ended (.read count next)
        (next (.error (.incomplete heard.length count))) heard none
  | receive {count : Nat} (next : Except Problem Octets → Dialogue α) :
      count = 0 ∨ heard ≠ [] ∨ ended = true → Moves heard ended (.receive count next)
        (next (.ok (heard.take count))) (heard.take count) none
  | log (severity : Severity) (logger text : String) (next : Dialogue α) :
      Moves heard ended (.log severity logger text next) next [] none

/-- The next thing is a read for which too little has arrived. -/
def Waits (heard : Octets) (ended : Bool) : Dialogue α → Prop
  | read count _ => heard.length < count ∧ ended = false
  | receive count _ => count ≠ 0 ∧ heard = [] ∧ ended = false
  | _ => False

variable {heard : Octets} {ended : Bool} {t u : Dialogue α} {taken : Octets}
  {made : Option WriterCall}

theorem Moves.taken_prefix (h : t.Moves heard ended u taken made) : taken <+: heard := by
  cases h with
  | call | log => exact List.nil_prefix
  | read | receive => exact List.take_prefix _ _
  | cut => exact List.prefix_rfl

theorem moves_or_waits (t : Dialogue α) (heard : Octets) (ended : Bool) :
    (∃ r, t = finished r) ∨ t.Waits heard ended ∨
      ∃ u taken made, t.Moves heard ended u taken made := by
  cases t with
  | finished r => exact .inl ⟨r, rfl⟩
  | call c next => exact .inr (.inr ⟨_, _, _, .call c next⟩)
  | log severity logger text next => exact .inr (.inr ⟨_, _, _, .log severity logger text next⟩)
  | read count next =>
      by_cases enough : count ≤ heard.length
      · exact .inr (.inr ⟨_, _, _, .read next enough⟩)
      · have short := Nat.lt_of_not_le enough
        cases ended with
        | true => exact .inr (.inr ⟨_, _, _, .cut next short rfl⟩)
        | false => exact .inr (.inl ⟨short, rfl⟩)
  | receive count next =>
      by_cases ready : count = 0 ∨ heard ≠ [] ∨ ended = true
      · exact .inr (.inr ⟨_, _, _, .receive next ready⟩)
      · refine .inr (.inl ?_)
        simpa [Waits] using ready

/-! Each move is what running the dialogue does, on a link that holds what was heard. -/

/-- All that has arrived is taken in, and no call fails. -/
structure Holds (l : Link) (now : Rat) : Prop where
  current : l.advance now = l
  intact : l.broken = none
  working : ∀ kind n, l.behaviour.fails kind n = none

section Running

open Net World

variable {w : World} {i : Nat} {l : Link}

theorem outcome_next {γ δ : Type} {op : Net γ} {r : Except Problem γ} {P : World → Prop}
    (next : Except Problem γ → Net δ) (h : Ends op w fun r' v => r' = r ∧ P v) :
    ∃ v, (outcome op >>= next) w = next r v ∧ P v := by
  change ∃ v, EStateM.bind (outcome op) next w = next r v ∧ P v
  unfold outcome EStateM.bind
  unfold Ends at h
  cases ended : op w with
  | ok a v =>
      simp only [ended] at h ⊢
      exact ⟨v, by rw [h.1], h.2⟩
  | error p v =>
      simp only [ended] at h ⊢
      exact ⟨v, by rw [h.1], h.2⟩

theorem ends_refresh_held (there : w.links[i]? = some l) (held : Holds l w.now) :
    Ends (refresh i) w fun r v => r = .ok l ∧ w.Passes i l v ∧ v.now = w.now := by
  have refreshed := ends_refresh_exact there
  rwa [held.current] at refreshed

theorem ends_readExactly_held {count : Nat} (there : w.links[i]? = some l)
    (held : Holds l w.now) (ready : count ≤ l.buffer.length ∨ l.ended = true) :
    Ends (readExactly i count) w fun r v =>
      r = (if count ≤ l.buffer.length then .ok (l.buffer.take count)
        else .error (.incomplete l.buffer.length count)) ∧
      w.Passes i { l with buffer := l.buffer.drop count } v := by
  rw [readExactly]
  apply Ends.next (ends_refresh_held there held)
  rintro v ⟨passed, now⟩
  have here := passed.there there
  have taking {u : World} (there : u.links[i]? = some l) (passed : w.Passes i l u) :
      Ends (takeBuffered i count) u fun r v =>
        r = .ok (l.buffer.take count) ∧ w.Passes i { l with buffer := l.buffer.drop count } v :=
    (ends_takeBuffered_exact there count).mono fun _ _ h => ⟨h.1, passed.trans h.2.1⟩
  split
  · next p broken =>
    rw [held.intact] at broken
    cases broken
  · split
    · next nothing =>
      subst nothing
      exact ⟨rfl, passed⟩
    · have filled : Ends (fill i count (l.pending.length + 1)) v fun r u =>
          r = .ok () ∧ v.Passes i l u := by
        rw [fill]
        apply Ends.next (ends_refresh_held here (now ▸ held))
        rintro u ⟨again, _⟩
        rw [if_pos (by simpa using ready)]
        exact ⟨rfl, again⟩
      apply Ends.next filled
      rintro u again
      have there' := again.there here
      rw [ends_bind, ends_getLink there']
      dsimp only
      split
      · next short =>
        rw [if_neg (Nat.not_le.2 short), List.drop_of_length_le (Nat.le_of_lt short)]
        exact ⟨rfl, (passed.trans again).trans ⟨⟨rfl, rfl, rfl⟩, Rat.le_refl, rfl⟩⟩
      · next enough =>
        rw [if_pos (Nat.not_lt.1 enough)]
        exact taking there' (passed.trans again)

theorem ends_readSome_held {count : Nat} (there : w.links[i]? = some l) (held : Holds l w.now)
    (ready : count = 0 ∨ l.buffer ≠ [] ∨ l.ended = true) : Ends (readSome i count) w fun r v =>
      r = .ok (l.buffer.take count) ∧ w.Passes i { l with buffer := l.buffer.drop count } v := by
  rw [readSome]
  apply Ends.next (ends_refresh_held there held)
  rintro v ⟨passed, now⟩
  have here := passed.there there
  split
  · next p broken =>
    rw [held.intact] at broken
    cases broken
  · split
    · next nothing =>
      subst nothing
      exact ⟨rfl, passed⟩
    · next some =>
      rw [if_neg (by simp only [Bool.and_eq_true, List.isEmpty_iff, Bool.not_eq_true']; grind)]
      exact (ends_takeBuffered_exact here count).mono fun _ _ h => ⟨h.1, passed.trans h.2.1⟩

theorem Moves.runs (moves : t.Moves l.buffer l.ended u taken made) (there : w.links[i]? = some l)
    (held : Holds l w.now) (free : w.deadline = none) :
    ∃ v, t.run i w = u.run i v ∧
      w.Passes i { l.saying made.toList with buffer := l.buffer.drop taken.length } v := by
  have reading {γ : Type} {op : Net γ} {r : Except Problem γ} {count : Nat}
      (next : Except Problem γ → Dialogue α)
      (h : Ends op w fun r' v => r' = r ∧ w.Passes i { l with buffer := l.buffer.drop count } v) :
      ∃ v, (do (next (← outcome op)).run i : Net α) w = (next r).run i v ∧
        w.Passes i { l.saying [] with buffer := l.buffer.drop count } v :=
    outcome_next _ h
  cases moves with
  | call c next =>
      have called := (ends_call_working there c (held.working _) fun _ =>
        allows_of_free free _).mono fun _ _ h => And.intro h.1 h.2.1
      obtain ⟨v, same, passed⟩ := outcome_next (fun r => (next r).run i) called
      exact ⟨v, same, passed⟩
  | @read count next enough =>
      have given := ends_readExactly_held there held (.inl enough)
      rw [if_pos enough] at given
      rw [List.length_take_of_le enough]
      exact reading next given
  | @cut count next short last =>
      have given : Ends (readExactly i count) w _ :=
        ends_readExactly_held there held (.inr last)
      rw [if_neg (Nat.not_le.2 short), List.drop_of_length_le (Nat.le_of_lt short),
        ← List.drop_length] at given
      exact reading next given
  | @receive count next ready =>
      have given := ends_readSome_held there held ready
      have same : l.buffer.drop (l.buffer.take count).length = l.buffer.drop count := by
        rw [List.length_take]
        obtain short | enough := Nat.le_total l.buffer.length count
        · rw [Nat.min_eq_right short, List.drop_length, List.drop_of_length_le short]
        · rw [Nat.min_eq_left enough]
      rw [same]
      exact reading next given
  | log severity logger text next =>
      have still := (World.Waits.refl w).passes there
      exact ⟨_, rfl, ⟨rfl, rfl, still.links⟩, Rat.le_refl, rfl⟩

end Running

theorem Waits.unended (h : t.Waits heard ended) : ended = false := by
  cases t with
  | read => exact h.2
  | receive => exact h.2.2
  | finished | call | log => exact h.elim

end Dialogue

/-! The two sides. -/

/-- A side is at its handshake, or that has come to an end and `rest` follows it. -/
inductive Stage (α : Type) : Type
  | shaking (t : Dialogue α)
  | settled (r : Except Problem α) (rest : Dialogue Unit)

/-- A side moves on, to what follows its handshake once that is over. -/
inductive Stage.Moves (follows : Except Problem α → Dialogue Unit) (heard : Octets)
    (ended : Bool) : Stage α → Stage α → Octets → Option WriterCall → Prop
  | shake {t u : Dialogue α} {taken : Octets} {made : Option WriterCall} :
      t.Moves heard ended u taken made →
      Moves follows heard ended (.shaking t) (.shaking u) taken made
  | settle (r : Except Problem α) :
      Moves follows heard ended (.shaking (.finished r)) (.settled r (follows r)) [] none
  | follow {r : Except Problem α} {t u : Dialogue Unit} {taken : Octets}
      {made : Option WriterCall} : t.Moves heard ended u taken made →
      Moves follows heard ended (.settled r t) (.settled r u) taken made

theorem Stage.Moves.taken_prefix {follows : Except Problem α → Dialogue Unit}
    {heard : Octets} {ended : Bool} {stage stage' : Stage α} {taken : Octets}
    {made : Option WriterCall}
    (h : stage.Moves follows heard ended stage' taken made) : taken <+: heard := by
  cases h with
  | shake moves | follow moves => exact moves.taken_prefix
  | settle => exact List.nil_prefix

def Stage.Waits (heard : Octets) (ended : Bool) : Stage α → Prop
  | shaking t => t.Waits heard ended
  | settled _ t => t.Waits heard ended

/-- The calls after which a side says no more. -/
def WriterCall.endsStream : WriterCall → Bool
  | .writeEnd | .close => true
  | .write _ | .drain | .waitClosed => false

/-- One side, with what has arrived at it and with all that it has taken and said so far. -/
structure Side (α : Type) where
  stage : Stage α
  heard : Octets := []
  /-- Nothing more will arrive. -/
  ended : Bool := false
  took : Octets := []
  said : Octets := []
  calls : List WriterCall := []

namespace Side

def shut (s : Side α) : Bool := s.calls.any WriterCall.endsStream

def sends (s : Side α) : Option WriterCall → Octets
  | some (.write bs) => if s.shut then [] else bs
  | _ => []

def move (s : Side α) (stage : Stage α) (taken : Octets) (made : Option WriterCall) : Side α where
  stage
  heard := s.heard.drop taken.length
  ended := s.ended
  took := s.took ++ taken
  said := s.said ++ s.sends made
  calls := s.calls ++ made.toList

def hear (s : Side α) (bs : Octets) : Side α := { s with heard := s.heard ++ bs }

def hearEnd (s : Side α) : Side α := { s with ended := true }

def Settled (s : Side α) (r : Except Problem α) : Prop := ∃ rest, s.stage = .settled r rest

def Waits (s : Side α) : Prop := s.stage.Waits s.heard s.ended

@[simp] theorem sends_none (s : Side α) : s.sends none = [] := rfl

@[simp] theorem sends_drain (s : Side α) : s.sends (some .drain) = [] := rfl

@[simp] theorem sends_close (s : Side α) : s.sends (some .close) = [] := rfl

theorem Waits.unended {s : Side α} (h : s.Waits) : s.ended = false := by
  obtain ⟨stage, heard, ended, _⟩ := s
  cases stage <;> exact Dialogue.Waits.unended h

theorem moves_or_waits {s : Side α} (unsettled : ∀ r, ¬ s.Settled r)
    (follows : Except Problem α → Dialogue Unit) :
    s.Waits ∨ ∃ stage taken made, s.stage.Moves follows s.heard s.ended stage taken made := by
  obtain ⟨stage, heard, ended, took, said, shut⟩ := s
  cases stage with
  | settled r rest => exact absurd ⟨rest, rfl⟩ (unsettled r)
  | shaking t =>
      obtain ⟨r, rfl⟩ | waits | ⟨u, taken, made, moves⟩ := t.moves_or_waits heard ended
      · exact .inr ⟨_, _, _, .settle r⟩
      · exact .inl waits
      · exact .inr ⟨_, _, _, .shake moves⟩

theorem calls_ne_nil {s : Side α} (shut : s.shut = true) : s.calls ≠ [] := by
  intro none
  rw [Side.shut, none] at shut
  cases shut

theorem shut_move {s : Side α} (shut : s.shut = true) (stage : Stage α) (taken : Octets)
    (made : Option WriterCall) : (s.move stage taken made).shut = true := by
  rw [Side.shut] at shut
  rw [Side.shut, move, List.any_append, shut, Bool.true_or]

theorem sends_shut {s : Side α} (shut : s.shut = true) (made : Option WriterCall) :
    s.sends made = [] := by
  unfold sends
  split
  · rw [if_pos shut]
  · rfl

end Side

/-- Both sides, and what is on the way from each to the other. -/
structure Meeting (α β : Type) where
  left : Side α
  right : Side β
  toLeft : Octets := []
  toRight : Octets := []

namespace Meeting

variable {follows : Except Problem α → Dialogue Unit} {follows' : Except Problem β → Dialogue Unit}

/-- A side moves, a segment arrives at it, or the end of the other side's stream does. -/
inductive Step (follows : Except Problem α → Dialogue Unit)
    (follows' : Except Problem β → Dialogue Unit) : Meeting α β → Meeting α β → Prop
  | leftMoves {m : Meeting α β} {stage : Stage α} {taken : Octets} {made : Option WriterCall} :
      m.left.stage.Moves follows m.left.heard m.left.ended stage taken made →
      Step follows follows' m { m with
        left := m.left.move stage taken made, toRight := m.toRight ++ m.left.sends made }
  | rightMoves {m : Meeting α β} {stage : Stage β} {taken : Octets} {made : Option WriterCall} :
      m.right.stage.Moves follows' m.right.heard m.right.ended stage taken made →
      Step follows follows' m { m with
        right := m.right.move stage taken made, toLeft := m.toLeft ++ m.right.sends made }
  | leftHears {m : Meeting α β} {bs more : Octets} : m.toLeft = bs ++ more → bs ≠ [] →
      Step follows follows' m { m with left := m.left.hear bs, toLeft := more }
  | rightHears {m : Meeting α β} {bs more : Octets} : m.toRight = bs ++ more → bs ≠ [] →
      Step follows follows' m { m with right := m.right.hear bs, toRight := more }
  | leftEnds {m : Meeting α β} : m.toLeft = [] → m.right.shut = true → m.left.ended = false →
      Step follows follows' m { m with left := m.left.hearEnd }
  | rightEnds {m : Meeting α β} : m.toRight = [] → m.left.shut = true → m.right.ended = false →
      Step follows follows' m { m with right := m.right.hearEnd }

def Over (m : Meeting α β) : Prop := (∃ r, m.left.Settled r) ∧ ∃ r, m.right.Settled r

/-- Both sides wait to read, and nothing is on the way to either. -/
def Deadlocked (m : Meeting α β) : Prop :=
  m.left.Waits ∧ m.right.Waits ∧ m.toLeft = [] ∧ m.toRight = []

/-! Nothing is lost, doubled or put out of order on the way. -/

/-- What `s` has said is what `t` has taken, has heard, and is still to hear. -/
structure Carries (s : Side α) (flight : Octets) (t : Side β) : Prop where
  whole : s.said = t.took ++ t.heard ++ flight
  last : t.ended = true → s.shut = true ∧ flight = []

theorem Carries.speaks {s : Side α} {t : Side β} {flight : Octets} (h : Carries s flight t)
    (stage : Stage α) (taken : Octets) (made : Option WriterCall) :
    Carries (s.move stage taken made) (flight ++ s.sends made) t where
  whole := by
    simp only [Side.move, h.whole, List.append_assoc]
  last ended := by
    obtain ⟨shut, rfl⟩ := h.last ended
    exact ⟨Side.shut_move shut stage taken made, by rw [Side.sends_shut shut, List.append_nil]⟩

theorem Carries.listens {s : Side α} {t : Side β} {flight taken : Octets}
    (h : Carries s flight t) (stage : Stage β) (arrived : taken <+: t.heard)
    (made : Option WriterCall) : Carries s flight (t.move stage taken made) where
  whole := by
    obtain ⟨more, heard⟩ := arrived
    simp [Side.move, h.whole, ← heard]
  last := h.last

theorem Carries.hears {s : Side α} {t : Side β} {flight bs more : Octets}
    (h : Carries s flight t) (same : flight = bs ++ more) : Carries s more (t.hear bs) where
  whole := by simp [Side.hear, h.whole, same]
  last ended := by
    obtain ⟨shut, nothing⟩ := h.last ended
    rw [same, List.append_eq_nil_iff] at nothing
    exact ⟨shut, nothing.2⟩

theorem Carries.ends {s : Side α} {t : Side β} (h : Carries s [] t) (shut : s.shut = true) :
    Carries s [] t.hearEnd :=
  ⟨h.whole, fun _ => ⟨shut, rfl⟩⟩

theorem Carries.heard_prefix {s : Side α} {t : Side β} {flight : Octets}
    (h : Carries s flight t) : t.took ++ t.heard <+: s.said :=
  ⟨flight, h.whole.symm⟩

theorem Carries.all {s : Side α} {t : Side β} {flight : Octets} (h : Carries s flight t)
    (ended : t.ended = true) : s.said = t.took ++ t.heard := by
  rw [h.whole, (h.last ended).2, List.append_nil]

structure Sound (m : Meeting α β) : Prop where
  toLeft : Carries m.right m.toLeft m.left
  toRight : Carries m.left m.toRight m.right

theorem Sound.step {m n : Meeting α β} (h : m.Sound) (step : Step follows follows' m n) :
    n.Sound := by
  cases step with
  | leftMoves moves =>
      exact ⟨h.toLeft.listens _ moves.taken_prefix _, h.toRight.speaks _ _ _⟩
  | rightMoves moves =>
      exact ⟨h.toLeft.speaks _ _ _, h.toRight.listens _ moves.taken_prefix _⟩
  | leftHears same => exact ⟨h.toLeft.hears same, ⟨h.toRight.whole, h.toRight.last⟩⟩
  | rightHears same => exact ⟨⟨h.toLeft.whole, h.toLeft.last⟩, h.toRight.hears same⟩
  | leftEnds nothing shut =>
      have carried := h.toLeft
      rw [nothing] at carried
      exact ⟨by rw [nothing]; exact carried.ends shut, ⟨h.toRight.whole, h.toRight.last⟩⟩
  | rightEnds nothing shut =>
      have carried := h.toRight
      rw [nothing] at carried
      exact ⟨⟨h.toLeft.whole, h.toLeft.last⟩, by rw [nothing]; exact carried.ends shut⟩

/-! Every run comes to an end. -/

theorem wf_moves : WellFounded fun u t : Dialogue α => ∃ heard ended taken made,
    t.Moves heard ended u taken made := by
  refine ⟨fun t => ?_⟩
  induction t with
  | finished r =>
      refine ⟨_, ?_⟩
      rintro u ⟨_, _, _, _, ⟨⟩⟩
  | call c next ih | read count next ih | receive count next ih =>
      refine ⟨_, ?_⟩
      rintro u ⟨_, _, _, _, moves⟩
      cases moves <;> exact ih _
  | log severity logger text next ih =>
      refine ⟨_, ?_⟩
      rintro u ⟨_, _, _, _, ⟨⟩⟩
      exact ih

theorem wf_stage (follows : Except Problem α → Dialogue Unit) :
    WellFounded fun u t : Stage α => ∃ heard ended taken made,
      t.Moves follows heard ended u taken made := by
  have settled (r : Except Problem α) (t : Dialogue Unit) :
      Acc (fun u t : Stage α => ∃ heard ended taken made, t.Moves follows heard ended u taken made)
        (.settled r t) := by
    induction t using wf_moves.induction with
    | _ t ih =>
        refine ⟨_, ?_⟩
        rintro u ⟨heard, ended, taken, made, moves⟩
        cases moves with
        | follow moves => exact ih _ ⟨heard, ended, taken, made, moves⟩
  refine ⟨fun stage => ?_⟩
  cases stage with
  | settled r t => exact settled r t
  | shaking t =>
      induction t using wf_moves.induction with
      | _ t ih =>
          refine ⟨_, ?_⟩
          rintro u ⟨heard, ended, taken, made, moves⟩
          cases moves with
          | shake moves => exact ih _ ⟨heard, ended, taken, made, moves⟩
          | settle r => exact settled r _

/-- How much is still to arrive, with the ends of the streams. -/
def due (m : Meeting α β) : Nat :=
  m.toLeft.length + m.toRight.length + m.left.ended.not.toNat + m.right.ended.not.toNat

theorem wf_step (follows : Except Problem α → Dialogue Unit)
    (follows' : Except Problem β → Dialogue Unit) :
    WellFounded fun n m : Meeting α β => Step follows follows' m n := by
  have stages := (wf_stage follows).prod_gameAdd (wf_stage follows')
  have smaller : WellFounded fun a b : Nat => a < b := Nat.lt_wfRel.wf
  -- A move shortens a dialogue but may put octets on the way; what arrives lengthens no dialogue.
  refine Subrelation.wf ?_ (InvImage.wf
    (fun m : Meeting α β => ((m.left.stage, m.right.stage), m.due)) (stages.prod_lex smaller))
  intro n m step
  cases step with
  | leftMoves moves => exact .left _ _ (.fst ⟨_, _, _, _, moves⟩)
  | rightMoves moves => exact .left _ _ (.snd ⟨_, _, _, _, moves⟩)
  | leftHears same some =>
      refine .right _ ?_
      have longer := List.length_pos_iff.2 some
      simp only [due, Side.hear, same, List.length_append]
      omega
  | rightHears same some =>
      refine .right _ ?_
      have longer := List.length_pos_iff.2 some
      simp only [due, Side.hear, same, List.length_append]
      omega
  | leftEnds _ _ unended =>
      refine .right _ ?_
      simp [due, Side.hearEnd, unended]
  | rightEnds _ _ unended =>
      refine .right _ ?_
      simp [due, Side.hearEnd, unended]

end Meeting

/-- Whichever way the steps go, `P` will hold at some time. -/
inductive Inevitably {σ : Type} (step : σ → σ → Prop) (P : σ → Prop) : σ → Prop
  | now {s : σ} : P s → Inevitably step P s
  | later {s : σ} : (∃ t, step s t) → (∀ t, step s t → Inevitably step P t) → Inevitably step P s

theorem Inevitably.mono {σ : Type} {step : σ → σ → Prop} {P Q : σ → Prop} {s : σ}
    (h : Inevitably step P s) (weaker : ∀ t, P t → Q t) : Inevitably step Q s := by
  induction h with
  | now here => exact .now (weaker _ here)
  | later some _ ih => exact .later some ih

/-- Where no run goes on for ever, and an invariant lets it go on until `P` holds, `P` will hold. -/
theorem inevitably_of_progress {σ : Type} {step : σ → σ → Prop} {I P : σ → Prop} {s : σ}
    (finite : WellFounded fun t s => step s t) (keeps : ∀ s t, I s → step s t → I t)
    (progress : ∀ s, I s → ¬ P s → ∃ t, step s t) (start : I s) :
    Inevitably step (fun s => I s ∧ P s) s := by
  induction s using finite.induction with
  | _ s ih =>
      by_cases here : P s
      · exact .now ⟨start, here⟩
      · exact .later (progress s start here) fun t step => ih t step (keeps s t start step)

end ContentTracker
