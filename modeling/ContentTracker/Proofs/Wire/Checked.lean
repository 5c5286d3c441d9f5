import ContentTracker.Proofs.Wire.Extent

/-! Reading with every check in its place. The reading steps of the wire format fail in one way
only; what they read is then handed to constructors that look at it again, and those fail with
errors of value. Here both kinds of step stand side by side, and an error of value ends the reading
unless the step around it catches it. -/

namespace ContentTracker

/-- Whether the problem is a value that was not understood, or a text that was not. -/
def Problem.isValueError : Problem → Bool
  | .badValue _ | .badText _ => true
  | _ => false

namespace Wire

variable {α β : Type}

/-- A reading step that may meet problems of any class. -/
abbrev Checked := EStateM Problem Cursor

namespace Checked

/-- A step of the wire format. Its faults are failures to decode. -/
def wire (r : Reader α) : Checked α := fun c =>
  match r c with
  | .ok a d => .ok a d
  | .error fault d => .error fault.problem d

/-- A value that is built from what was read, or refused. -/
def made (built : Except Problem α) : Checked α := fun c =>
  match built with
  | .ok a => .ok a c
  | .error problem => .error problem c

/-- A step around which errors of value, and no others, are told as a fault of the message. -/
def instead (fault : DecodeFault) (step : Checked α) : Checked α :=
  tryCatch step fun problem =>
    if problem.isValueError then throw fault.problem else throw problem

/-- Text whose octets were found to be none by its own decoder. -/
def text : Checked String := do
  let bs ← wire Reader.octets
  tryCatch (made ((Utf8.decode bs).mapError .badText)) fun problem =>
    match problem with
    | .badText fault => throw (DecodeFault.badText fault).problem
    | problem => throw problem

def option (content : Checked α) : Checked (Option α) := do
  let tag ← wire Reader.octet
  if tag = 0 then pure none
  else if tag = 1 then some <$> content
  else wire (do throw (.badOptionTag tag ((← Reader.offset) - 1)))

def times (item : Checked α) : Nat → Checked (List α)
  | 0 => pure []
  | n + 1 => do
    let a ← item
    let as ← times item n
    pure (a :: as)

def seq (item : Checked α) : Checked (List α) := do
  let count ← wire Reader.varint
  let unread ← wire Reader.remaining
  if unread < count then wire (do throw (.countTooLarge count unread (← Reader.offset)))
  else times item count

def whole (message : Checked α) (bs : Octets) : Except Problem α :=
  let reading : Checked α := do
    let a ← message
    wire Reader.finish
    pure a
  match reading.run (.start bs) with
  | .ok a _ => .ok a
  | .error problem _ => .error problem

/-! Steps that meet nothing but faults of the format are plain reading steps. -/

theorem wire_pure (a : α) : wire (pure a) = pure a := rfl

theorem wire_bind (r : Reader α) (f : α → Reader β) :
    wire (r >>= f) = wire r >>= fun a => wire (f a) := by
  funext c
  change (match EStateM.bind r f c with | .ok a d => _ | .error fault d => _) =
    EStateM.bind (wire r) _ c
  unfold EStateM.bind wire
  cases r c <;> rfl

theorem wire_map (f : α → β) (r : Reader α) : wire (f <$> r) = f <$> wire r := by
  rw [map_eq_pure_bind, wire_bind]
  rfl

theorem made_ok (a : α) : made (.ok a) = pure a := rfl

/-- Only as many octets as were asked for are handed on. -/
theorem take_congr {size : Nat} {f g : Octets → Checked α}
    (same : ∀ bs, bs.length = size → f bs = g bs) :
    wire (Reader.take size) >>= f = wire (Reader.take size) >>= g := by
  funext c
  change EStateM.bind _ f c = EStateM.bind _ g c
  unfold EStateM.bind wire Reader.take
  by_cases short : c.rest.length < size
  · simp only [if_pos short]
  · have length : (c.rest.take size).length = size := by
      rw [List.length_take]
      omega
    simp only [if_neg short, same _ length]

theorem wire_text : wire Reader.text = text := by
  unfold Reader.text text
  rw [wire_bind]
  congr
  funext bs
  cases Utf8.decode bs <;> rfl

theorem wire_option (r : Reader α) : wire (Reader.option r) = option (wire r) := by
  unfold Reader.option option
  rw [wire_bind]
  congr
  funext tag
  split
  · rfl
  · split
    · exact wire_map some r
    · rfl

theorem wire_times (r : Reader α) (n : Nat) : wire (Reader.times r n) = times (wire r) n := by
  induction n with
  | zero => rfl
  | succ n ih =>
      simp only [Reader.times, times, wire_bind, ih]
      rfl

theorem wire_seq (r : Reader α) : wire (Reader.seq r) = seq (wire r) := by
  unfold Reader.seq seq
  rw [wire_bind]
  congr
  funext count
  rw [wire_bind]
  congr
  funext unread
  split
  · rfl
  · exact wire_times r count

theorem times_map (f : α → β) (item : Checked α) (n : Nat) :
    times (f <$> item) n = List.map f <$> times item n := by
  induction n with
  | zero => rfl
  | succ n ih =>
      simp only [times, ih, bind_map_left, map_bind, map_pure, List.map_cons]

theorem seq_map (f : α → β) (item : Checked α) : seq (f <$> item) = List.map f <$> seq item := by
  unfold seq
  simp only [map_bind]
  congr
  funext count
  congr
  funext unread
  split
  · rfl
  · exact times_map f item count

/-- What is made of a message does not decide whether it is one. -/
theorem whole_map (f : α → β) (r : Reader α) (bs : Octets) :
    Reader.whole (f <$> r) bs = (Reader.whole r bs).map f := by
  rw [whole_eq, whole_eq]
  change (match EStateM.map f r ⟨0, bs⟩ with | .ok a d => _ | .error fault _ => _) = _
  unfold EStateM.map
  cases r ⟨0, bs⟩ with
  | error fault d => rfl
  | ok a d =>
      dsimp only
      split <;> rfl

theorem whole_wire (r : Reader α) (bs : Octets) :
    whole (wire r) bs = (Reader.whole r bs).mapError DecodeFault.problem := by
  have reading : (do let a ← wire r; wire Reader.finish; pure a : Checked α) =
      wire (do let a ← r; Reader.finish; pure a) := by
    simp only [wire_bind]
    rfl
  unfold whole Reader.whole
  dsimp only
  rw [reading]
  generalize (do let a ← r; Reader.finish; pure a : Reader α) = message
  cases read : message (.start bs) <;> simp only [EStateM.run, wire, read, Except.mapError]

end Checked

end Wire

end ContentTracker
