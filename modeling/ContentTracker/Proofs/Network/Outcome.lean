import ContentTracker.Network.World

/-! How operations end. An operation that ends in a problem leaves a world behind like any other, so
one predicate speaks about both ends. -/

namespace ContentTracker

variable {ε σ α β : Type}

/-- Started in `s`, the operation ends with an outcome and a state of which `Q` holds. -/
def Ends (op : EStateM ε σ α) (s : σ) (Q : Except ε α → σ → Prop) : Prop :=
  match op s with
  | .ok a t => Q (.ok a) t
  | .error p t => Q (.error p) t

theorem Ends.mono {op : EStateM ε σ α} {s : σ} {P Q : Except ε α → σ → Prop} (h : Ends op s P)
    (weaker : ∀ r t, P r t → Q r t) : Ends op s Q := by
  unfold Ends at h ⊢
  cases e : op s with
  | ok a t => exact weaker _ _ (by simpa only [e] using h)
  | error p t => exact weaker _ _ (by simpa only [e] using h)

/-- An operation ends as it is run. -/
theorem ends_itself (op : EStateM ε σ α) (s : σ) : Ends op s fun r t =>
    match r with
    | .ok a => op s = .ok a t
    | .error p => op s = .error p t := by
  unfold Ends
  cases ended : op s <;> rfl

theorem ends_congr {op : EStateM ε σ α} {s : σ} {P Q : Except ε α → σ → Prop}
    (h : ∀ r t, P r t ↔ Q r t) : Ends op s P ↔ Ends op s Q :=
  ⟨fun k => k.mono fun r t => (h r t).1, fun k => k.mono fun r t => (h r t).2⟩

theorem Ends.and {op : EStateM ε σ α} {s : σ} {P Q : Except ε α → σ → Prop} (h : Ends op s P)
    (k : Ends op s Q) : Ends op s fun r t => P r t ∧ Q r t := by
  unfold Ends at h k ⊢
  cases e : op s <;> simp only [e] at h k ⊢ <;> exact ⟨h, k⟩

theorem Ends.of_ok {op : EStateM ε σ α} {s t : σ} {a : α} {Q : Except ε α → σ → Prop}
    (h : Ends op s Q) (e : op s = .ok a t) : Q (.ok a) t := by
  simpa only [Ends, e] using h

theorem Ends.on_ok {op : EStateM ε σ α} {s t : σ} {a : α} {Q : Except ε α → σ → Prop}
    (e : op s = .ok a t) (h : Q (.ok a) t) : Ends op s Q := by
  simpa only [Ends, e] using h

theorem Ends.on_error {op : EStateM ε σ α} {s t : σ} {p : ε} {Q : Except ε α → σ → Prop}
    (e : op s = .error p t) (h : Q (.error p) t) : Ends op s Q := by
  simpa only [Ends, e] using h

theorem Ends.of_error {op : EStateM ε σ α} {s t : σ} {p : ε} {Q : Except ε α → σ → Prop}
    (h : Ends op s Q) (e : op s = .error p t) : Q (.error p) t := by
  simpa only [Ends, e] using h

/-- What an operation ends in is the only end that it has. -/
theorem Ends.exactly {op : EStateM ε σ α} {s : σ} {P R : Except ε α → σ → Prop}
    (h : Ends op s P) (only : ∀ r t, P r t → (∀ Q, Ends op s Q ↔ Q r t) → R r t) :
    Ends op s R := by
  unfold Ends at h only ⊢
  cases ended : op s with
  | ok a t => exact only _ _ (by simpa only [ended] using h) fun Q => by rw [ended]
  | error p t => exact only _ _ (by simpa only [ended] using h) fun Q => by rw [ended]

theorem ends_const {op : EStateM ε σ α} {s : σ} {P : Prop} : Ends op s (fun _ _ => P) ↔ P := by
  unfold Ends
  cases op s <;> exact Iff.rfl

/-- An operation that can only end in one way is known. -/
theorem Ends.eq_ok {op : EStateM ε σ α} {s t : σ} {a : α}
    (h : Ends op s fun r u => r = .ok a ∧ u = t) : op s = .ok a t := by
  unfold Ends at h
  cases e : op s with
  | ok b u =>
      simp only [e, Except.ok.injEq] at h
      rw [h.1, h.2]
  | error p u => simp [e] at h

theorem Ends.eq_error {op : EStateM ε σ α} {s t : σ} {p : ε}
    (h : Ends op s fun r u => r = .error p ∧ u = t) : op s = .error p t := by
  unfold Ends at h
  cases e : op s with
  | ok a u => simp [e] at h
  | error q u =>
      simp only [e, Except.error.injEq] at h
      rw [h.1, h.2]

@[simp] theorem ends_pure (a : α) (s : σ) (Q : Except ε α → σ → Prop) :
    Ends (pure a) s Q ↔ Q (.ok a) s := Iff.rfl

@[simp] theorem ends_throw (p : ε) (s : σ) (Q : Except ε α → σ → Prop) :
    Ends (throw p) s Q ↔ Q (.error p) s := Iff.rfl

@[simp] theorem ends_get (s : σ) (Q : Except ε σ → σ → Prop) : Ends get s Q ↔ Q (.ok s) s := Iff.rfl

@[simp] theorem ends_set (s t : σ) (Q : Except ε PUnit → σ → Prop) :
    Ends (set t) s Q ↔ Q (.ok ⟨⟩) t := Iff.rfl

@[simp] theorem ends_modify (f : σ → σ) (s : σ) (Q : Except ε PUnit → σ → Prop) :
    Ends (modify f) s Q ↔ Q (.ok ⟨⟩) (f s) := Iff.rfl

/-- What follows an operation is run where it gave a result. A problem is the problem of both. -/
theorem ends_bind (op : EStateM ε σ α) (f : α → EStateM ε σ β) (s : σ)
    (Q : Except ε β → σ → Prop) : Ends (op >>= f) s Q ↔ Ends op s fun r t =>
      match r with
      | .ok a => Ends (f a) t Q
      | .error p => Q (.error p) t := by
  change (match EStateM.bind op f s with
    | .ok a t => Q (.ok a) t
    | .error p t => Q (.error p) t) ↔ _
  unfold Ends EStateM.bind
  cases op s <;> exact Iff.rfl

theorem Ends.bind {op : EStateM ε σ α} {f : α → EStateM ε σ β} {s : σ}
    {P : Except ε α → σ → Prop} {Q : Except ε β → σ → Prop} (first : Ends op s P)
    (ok : ∀ a t, P (.ok a) t → Ends (f a) t Q) (error : ∀ p t, P (.error p) t → Q (.error p) t) :
    Ends (op >>= f) s Q := by
  rw [ends_bind]
  apply Ends.mono first
  intro r t h
  cases r with
  | ok a => exact ok a t h
  | error p => exact error p t h

/-- An operation that can only give one result hands it on to what follows. -/
theorem Ends.next {op : EStateM ε σ α} {f : α → EStateM ε σ β} {s : σ} {a : α} {P : σ → Prop}
    {Q : Except ε β → σ → Prop} (first : Ends op s fun r t => r = .ok a ∧ P t)
    (later : ∀ t, P t → Ends (f a) t Q) : Ends (op >>= f) s Q := by
  apply Ends.bind first
  · intro b t h
    obtain ⟨same, known⟩ := h
    cases same
    exact later t known
  · intro p t h
    cases h.1

theorem ends_ofExcept (e : Except ε α) (s : σ) (Q : Except ε α → σ → Prop) :
    Ends (MonadExcept.ofExcept e : EStateM ε σ α) s Q ↔ Q e s := by
  cases e <;> exact Iff.rfl

namespace Net

@[simp] theorem ends_outcome (op : Net α) (w : World)
    (Q : Except Problem (Except Problem α) → World → Prop) :
    Ends (outcome op) w Q ↔ Ends op w fun r v => Q (.ok r) v := by
  unfold Ends outcome
  cases op w <;> exact Iff.rfl

theorem ends_getLink {i : Nat} {l : Link} {w : World} (h : w.links[i]? = some l)
    (Q : Except Problem Link → World → Prop) : Ends (getLink i) w Q ↔ Q (.ok l) w := by
  simp [getLink, ends_bind, h]

@[simp] theorem ends_setLink (i : Nat) (l : Link) (w : World)
    (Q : Except Problem Unit → World → Prop) : Ends (setLink i l) w Q ↔
      Q (.ok ()) { w with links := w.links.setIfInBounds i l } := Iff.rfl

/-- The outcome of operations one after another is that of the last one which was run. -/
theorem outcome_bind {α β : Type} (op : Net α) (f : α → Net β) :
    outcome (op >>= f) = (do
      match ← outcome op with
      | .ok a => outcome (f a)
      | .error p => pure (.error p)) := by
  funext w
  change outcome (EStateM.bind op f) w = EStateM.bind (outcome op) _ w
  unfold outcome EStateM.bind
  cases ended : op w with
  | ok a v => simp only [ended]
  | error p v =>
      simp only [ended]
      rfl

theorem outcome_pure {α : Type} (a : α) : outcome (pure a) = pure (.ok a) := rfl

theorem outcome_throw {α : Type} (p : Problem) :
    outcome (throw p : Net α) = pure (.error p) := rfl

/-- To raise the problem of an outcome is not to have looked at it. -/
theorem bind_outcome {α β : Type} (op : Net α) (f : α → Net β) (k : Except Problem α → Net β)
    (ok : ∀ a, k (.ok a) = f a) (error : ∀ p, k (.error p) = throw p) :
    outcome op >>= k = op >>= f := by
  funext w
  change EStateM.bind (outcome op) k w = EStateM.bind op f w
  unfold outcome EStateM.bind
  cases ended : op w with
  | ok a v => simp only [ended, ok]
  | error p v =>
      simp only [ended, error]
      rfl

/-! Operations that succeed. -/

/-- Started in `w`, the operation gives a value of which `P` holds. -/
def Yields {α : Type} (op : Net α) (P : α → Prop) (w : World) : Prop :=
  ∃ a v, op w = .ok a v ∧ P a

variable {α β : Type} {w : World} {P : α → Prop}

theorem yields_iff_ends {op : Net α} :
    Yields op P w ↔ Ends op w fun r _ => ∃ a, r = .ok a ∧ P a := by
  unfold Yields Ends
  cases op w <;> simp

theorem yields_pure {a : α} : Yields (pure a) P w ↔ P a := by
  constructor
  · rintro ⟨_, _, ⟨⟩, h⟩
    exact h
  · exact fun h => ⟨a, w, rfl, h⟩

theorem not_yields_throw {p : Problem} : ¬ Yields (throw p) P w := by
  rintro ⟨_, _, ⟨⟩, _⟩

theorem yields_bind {op : Net β} {f : β → Net α} :
    Yields (op >>= f) P w ↔ ∃ b v, op w = .ok b v ∧ Yields (f b) P v := by
  change (∃ a v, EStateM.bind op f w = .ok a v ∧ P a) ↔ _
  unfold EStateM.bind
  cases first : op w with
  | ok b v =>
      constructor
      · exact fun h => ⟨b, v, rfl, h⟩
      · rintro ⟨_, _, ⟨⟩, h⟩
        exact h
  | error p v =>
      constructor
      · rintro ⟨_, _, ⟨⟩, _⟩
      · rintro ⟨_, _, ⟨⟩, _⟩

theorem not_yields_throw_bind {p : Problem} {f : β → Net α} : ¬ Yields (throw p >>= f) P w := by
  rw [yields_bind]
  rintro ⟨_, _, ⟨⟩, _⟩

theorem yields_outcome {op : Net β} {f : Except Problem β → Net α}
    (fails : ∀ p v, ¬ Yields (f (.error p)) P v) :
    Yields (outcome op >>= f) P w ↔ Yields (op >>= fun b => f (.ok b)) P w := by
  rw [yields_bind, yields_bind]
  unfold outcome
  cases first : op w with
  | ok b v =>
      constructor
      · rintro ⟨_, _, ⟨⟩, h⟩
        exact ⟨b, v, rfl, h⟩
      · rintro ⟨_, _, ⟨⟩, h⟩
        exact ⟨.ok b, v, rfl, h⟩
  | error p v =>
      constructor
      · rintro ⟨_, _, ⟨⟩, h⟩
        exact absurd h (fails p v)
      · rintro ⟨_, _, ⟨⟩, _⟩

/-- The end of a time limit, or that of the surroundings if it comes first. -/
def limit (w : World) (seconds : Rat) : Rat :=
  match w.deadline with
  | some outer => if w.now + seconds < outer then w.now + seconds else outer
  | none => w.now + seconds

/-- What succeeds within a time limit is what succeeds under its deadline. -/
theorem yields_within {seconds : Rat} (positive : 0 < seconds) (w : World) : ∃ d,
    ∀ {α : Type} (op : Net α) (P : α → Prop),
      Yields (within seconds op) P w ↔ Yields op P { w with deadline := some d } := by
  refine ⟨limit w seconds, fun op P => ?_⟩
  rw [yields_iff_ends, yields_iff_ends]
  unfold within
  rw [if_neg (Rat.not_le.2 positive)]
  simp only [ends_bind, ends_get, ends_set, ends_outcome, ends_modify]
  refine ends_congr fun r v => ?_
  cases r with
  | ok a => exact Iff.rfl
  | error p =>
      have never (q : Problem) : ¬ ∃ a, (.error q : Except Problem _) = .ok a ∧ P a := by
        rintro ⟨_, ⟨⟩, _⟩
      simp only [ends_bind, ends_get, never, iff_false]
      split
      · exact never _
      · split
        · split <;> exact never _
        · exact never _

end Net

end ContentTracker
