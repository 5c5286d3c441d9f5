import ContentTracker.Proofs.Network.Outcome

/-! What operations do to connections, however they end. Waiting does nothing, writing adds to the
calls of one connection, and reading takes octets off what one connection has not read yet. -/

namespace ContentTracker

def Arrival.octets : Arrival → Octets
  | .data bs => bs
  | _ => []

/-- The octets that arrivals bring. -/
def delivered (arrivals : List (Rat × Arrival)) : Octets := arrivals.flatMap fun e => e.2.octets

/-- All that the other side sends. -/
def Behaviour.sent (b : Behaviour) : Octets := delivered b.arrivals

namespace Link

/-- The writer calls in the order in which they were made. -/
def said (l : Link) : List WriterCall := l.calls.reverse

/-- The octets that have not been read, whether they have arrived or not. -/
def unread (l : Link) : Octets := l.buffer ++ delivered l.pending

/-- The link after more writer calls. -/
def saying (l : Link) (cs : List WriterCall) : Link := { l with calls := cs.reverse ++ l.calls }

/-- The part of a link that reading leaves alone. -/
def outgoing (l : Link) : Link :=
  { behaviour := l.behaviour, pending := [], calls := l.calls, streamOpened := l.streamOpened,
    sendFinished := l.sendFinished, closed := l.closed }

/-- A connection on which nothing was said. -/
def silent (b : Behaviour) : Link := { behaviour := b, pending := [] }

/-- From one state of a link to another, `bs` was read. -/
structure Hears (l : Link) (bs : Octets) (m : Link) : Prop where
  outgoing : m.outgoing = l.outgoing
  unread : l.unread = bs ++ m.unread

theorem saying_saying (l : Link) (cs ds : List WriterCall) :
    (l.saying cs).saying ds = l.saying (cs ++ ds) := by
  simp [saying]

theorem said_saying (l : Link) (cs : List WriterCall) : (l.saying cs).said = l.said ++ cs := by
  simp [said, saying]

theorem outgoing_saying {l m : Link} (h : m.outgoing = l.outgoing) (cs : List WriterCall) :
    (m.saying cs).outgoing = (l.saying cs).outgoing := by
  simp only [outgoing, saying, Link.mk.injEq] at h ⊢
  simpa using h

/-- What was said on a link is part of what is outgoing. -/
theorem said_of_outgoing {l m : Link} (h : m.outgoing = l.outgoing) : m.said = l.said := by
  simp only [outgoing, Link.mk.injEq] at h
  simp only [said, h]

theorem Hears.refl (l : Link) : l.Hears [] l := ⟨rfl, rfl⟩

theorem Hears.trans {l m n : Link} {bs cs : Octets} (first : l.Hears bs m) (second : m.Hears cs n) :
    l.Hears (bs ++ cs) n :=
  ⟨second.outgoing.trans first.outgoing, by rw [first.unread, second.unread, List.append_assoc]⟩

theorem Hears.nothing {l m n : Link} {bs : Octets} (first : l.Hears [] m) (second : m.Hears bs n) :
    l.Hears bs n := first.trans second

/-! Arrivals move octets from what is pending to the buffer. -/

theorem receive_outgoing (l : Link) (a : Arrival) : (l.receive a).outgoing = l.outgoing := by
  cases a <;> rfl

theorem receive_buffer (l : Link) (a : Arrival) : (l.receive a).buffer = l.buffer ++ a.octets := by
  cases a <;> simp [receive, Arrival.octets]

theorem receive_pending (l : Link) (a : Arrival) : (l.receive a).pending = l.pending := by
  cases a <;> rfl

theorem receiveAll (l : Link) (due : List (Rat × Arrival)) :
    let m := due.foldl (fun l e => l.receive e.2) l
    m.outgoing = l.outgoing ∧ m.buffer = l.buffer ++ delivered due ∧ m.pending = l.pending := by
  induction due generalizing l with
  | nil => simp [delivered]
  | cons e due ih =>
      obtain ⟨outgoing, buffer, pending⟩ := ih (l.receive e.2)
      refine ⟨outgoing.trans (receive_outgoing l e.2), ?_, pending.trans (receive_pending l e.2)⟩
      rw [List.foldl_cons, buffer, receive_buffer, List.append_assoc]
      simp [delivered]

theorem hears_advance (l : Link) (now : Rat) : l.Hears [] (l.advance now) := by
  obtain ⟨outgoing, buffer, pending⟩ := receiveAll
    { l with pending := l.pending.dropWhile fun e => decide (e.1 ≤ now) }
    (l.pending.takeWhile fun e => decide (e.1 ≤ now))
  refine ⟨outgoing, ?_⟩
  change l.unread = (l.advance now).buffer ++ delivered (l.advance now).pending
  rw [advance, buffer, pending, List.append_assoc]
  simp only [unread, delivered, ← List.flatMap_append, List.takeWhile_append_dropWhile]

end Link

namespace World

/-- Nothing happened but that time passed and lines were logged. -/
structure Idles (w v : World) : Prop where
  network : v.network = w.network
  dials : v.dials = w.dials
  links : v.links = w.links

/-- Nothing else happened but that connection `i` became `l`. -/
structure Swaps (w : World) (i : Nat) (l : Link) (v : World) : Prop where
  network : v.network = w.network
  dials : v.dials = w.dials
  links : v.links = w.links.setIfInBounds i l

/-- The behaviour that the next dial of an address meets. -/
def met (w : World) (address : DialAddress) : Behaviour :=
  w.network address (w.dials.filter fun d => d.address = address).length

variable {w v u : World} {i : Nat} {l m : Link}

theorem Idles.refl (w : World) : w.Idles w := ⟨rfl, rfl, rfl⟩

theorem Idles.trans (first : w.Idles v) (second : v.Idles u) : w.Idles u :=
  ⟨second.network.trans first.network, second.dials.trans first.dials,
    second.links.trans first.links⟩

theorem Idles.swaps (h : w.Idles v) (there : w.links[i]? = some l) : w.Swaps i l v := by
  obtain ⟨bound, same⟩ := Array.getElem?_eq_some_iff.1 there
  refine ⟨h.network, h.dials, ?_⟩
  rw [h.links, Array.setIfInBounds, dif_pos bound, ← same, Array.set_getElem_self]

theorem Swaps.trans (first : w.Swaps i l v) (second : v.Swaps i m u) : w.Swaps i m u :=
  ⟨second.network.trans first.network, second.dials.trans first.dials, by
    rw [second.links, first.links, Array.setIfInBounds_setIfInBounds]⟩

theorem Swaps.there (h : w.Swaps i m v) (before : w.links[i]? = some l) : v.links[i]? = some m := by
  obtain ⟨bound, _⟩ := Array.getElem?_eq_some_iff.1 before
  rw [h.links, Array.getElem?_setIfInBounds_self_of_lt bound]

end World

namespace Net

variable {w : World} {i : Nat} {l : Link}

theorem advanceTo_idles (w : World) (time : Rat) : w.Idles (w.advanceTo time) := by
  unfold World.advanceTo
  split <;> exact ⟨rfl, rfl, rfl⟩

theorem ends_waitUntil (time : Option Rat) (w : World) :
    Ends (waitUntil time) w fun _ v => w.Idles v := by
  simp only [waitUntil, ends_bind, ends_get]
  split
  · next t d _ =>
    split
    · exact advanceTo_idles w d
    · exact advanceTo_idles w t
  · next t _ => exact advanceTo_idles w t
  · next d _ => exact advanceTo_idles w d
  · exact World.Idles.refl w

theorem ends_sleep (seconds : Rat) (w : World) : Ends (sleep seconds) w fun _ v => w.Idles v := by
  unfold sleep
  split
  · simpa only [ends_bind, ends_get] using ends_waitUntil _ w
  · exact World.Idles.refl w

/-- Within a time limit an operation does what it does without one, and perhaps not to the end. -/
theorem ends_within {α : Type} {seconds : Rat} {op : Net α} {w : World}
    {Q : Except Problem α → World → Prop} (unstarted : seconds ≤ 0 → ∀ p, Q (.error p) w)
    (body : ∀ d, Ends op { w with deadline := d } fun r v =>
      match r with
      | .ok a => Q (.ok a) { v with deadline := w.deadline }
      | .error _ => ∀ p, Q (.error p) { v with deadline := w.deadline }) :
    Ends (within seconds op) w Q := by
  unfold within
  split
  · next spent => exact unstarted spent _
  · simp only [ends_bind, ends_get, ends_set, ends_outcome, ends_modify]
    apply Ends.mono (body _)
    intro r v h
    cases r with
    | ok a => exact h
    | error p =>
        simp only [ends_bind, ends_get]
        split
        · exact h _
        · split
          · split <;> exact h _
          · exact h _

/-- A call is recorded, whether it fails or not. -/
theorem ends_call (there : w.links[i]? = some l) (c : WriterCall) :
    Ends (call i c) w fun _ v => w.Swaps i (l.saying [c]) v := by
  have recorded : w.Swaps i (l.saying [c])
      { w with links := w.links.setIfInBounds i (l.saying [c]) } := ⟨rfl, rfl, rfl⟩
  simp only [call, ends_bind, ends_getLink there, ends_setLink]
  generalize l.behaviour.fails c.kind _ = fault
  split
  · rw [ends_bind]
    apply Ends.mono (ends_sleep _ _)
    intro r v h
    have slept := recorded.trans (h.swaps (recorded.there there))
    cases r with
    | ok _ => cases fault <;> exact slept
    | error p => exact slept
  · cases fault <;> exact recorded

theorem ends_refresh (there : w.links[i]? = some l) :
    Ends (refresh i) w fun r v => ∃ m, r = .ok m ∧ w.Swaps i m v ∧ l.Hears [] m := by
  simp only [refresh, ends_bind, ends_getLink there, ends_get, ends_setLink, ends_pure]
  exact ⟨_, rfl, ⟨rfl, rfl, rfl⟩, l.hears_advance w.now⟩

theorem ends_awaitArrival (there : w.links[i]? = some l) :
    Ends (awaitArrival i) w fun _ v => ∃ m, w.Swaps i m v ∧ l.Hears [] m := by
  simp only [awaitArrival, ends_bind, ends_getLink there]
  apply Ends.mono (ends_waitUntil _ w)
  intro r v idle
  have still := idle.swaps there
  cases r with
  | error p => exact ⟨l, still, .refl l⟩
  | ok _ =>
      apply Ends.mono (ends_refresh (still.there there))
      intro r v' h
      obtain ⟨m, rfl, swapped, heard⟩ := h
      dsimp only
      split <;> exact ⟨m, still.trans swapped, heard⟩

/-- A reading operation ended: it changed one connection, by what it gave if it gave anything. -/
def Heard (w : World) (i : Nat) (l : Link) (r : Except Problem Octets) (v : World) : Prop :=
  ∃ m, w.Swaps i m v ∧ m.outgoing = l.outgoing ∧ ∀ bs, r = .ok bs → l.Hears bs m

theorem Heard.error {p : Problem} {v : World} {m : Link} (h : w.Swaps i m v)
    (heard : l.Hears [] m) :
    Heard w i l (.error p) v :=
  ⟨m, h, heard.outgoing, by simp⟩

theorem Heard.ok {bs : Octets} {v : World} {m : Link} (h : w.Swaps i m v) (heard : l.Hears bs m) :
    Heard w i l (.ok bs) v :=
  ⟨m, h, heard.outgoing, by rintro bs ⟨⟩; exact heard⟩

theorem Heard.after {r : Except Problem Octets} {v u : World} {m : Link} (h : w.Swaps i m v)
    (heard : l.Hears [] m) (later : Heard v i m r u) : Heard w i l r u := by
  obtain ⟨n, swapped, outgoing, given⟩ := later
  exact ⟨n, h.trans swapped, outgoing.trans heard.outgoing,
    fun bs e => heard.nothing (given bs e)⟩

theorem Heard.failed {r : Except Problem Octets} {p : Problem} {v : World}
    (h : Heard w i l r v) : Heard w i l (.error p) v := by
  obtain ⟨m, swapped, outgoing, _⟩ := h
  exact ⟨m, swapped, outgoing, by simp⟩

/-- A time limit on reading changes nothing about what was read. -/
theorem ends_within_heard {seconds : Rat} {op : Net Octets} (there : w.links[i]? = some l)
    (reading : ∀ d, Ends op { w with deadline := d } (Heard { w with deadline := d } i l)) :
    Ends (within seconds op) w (Heard w i l) := by
  refine ends_within (fun _ p => .error ((World.Idles.refl w).swaps there) (.refl l)) fun d => ?_
  apply Ends.mono (reading d)
  intro r v h
  obtain ⟨m, swapped, outgoing, given⟩ := h
  have same : w.Swaps i m { v with deadline := w.deadline } :=
    ⟨swapped.network, swapped.dials, swapped.links⟩
  cases r with
  | ok bs => exact .ok same (given bs rfl)
  | error p => exact fun q => ⟨m, same, outgoing, by simp⟩

theorem ends_takeBuffered (there : w.links[i]? = some l) (count : Nat) :
    Ends (takeBuffered i count) w fun r v =>
      r = .ok (l.buffer.take count) ∧ Heard w i l (.ok (l.buffer.take count)) v := by
  simp only [takeBuffered, ends_bind, ends_getLink there, ends_setLink, ends_pure, true_and]
  refine .ok ⟨rfl, rfl, rfl⟩ ⟨rfl, ?_⟩
  simp only [Link.unread, ← List.append_assoc, List.take_append_drop]

theorem ends_readSome (there : w.links[i]? = some l) (count : Nat) :
    Ends (readSome i count) w (Heard w i l) := by
  have taking {v : World} {m : Link} (here : v.links[i]? = some m) :
      Ends (takeBuffered i count) v (Heard v i m) :=
    (ends_takeBuffered here count).mono fun r u h => by
      obtain ⟨rfl, heard⟩ := h
      exact heard
  rw [readSome, ends_bind]
  apply Ends.mono (ends_refresh there)
  intro r v h
  obtain ⟨m, rfl, swapped, heard⟩ := h
  have now := swapped.there there
  dsimp only
  split
  · exact .error swapped heard
  · split
    · exact .ok swapped heard
    · split
      · rw [ends_bind]
        apply Ends.mono (ends_awaitArrival now)
        intro r u h
        obtain ⟨n, woken, more⟩ := h
        cases r with
        | error p => exact .after swapped heard (.error woken more)
        | ok _ =>
            apply Ends.mono (taking (woken.there now))
            intro r t h
            exact .after swapped heard (.after woken more h)
      · exact (taking now).mono fun r t h => .after swapped heard h

theorem ends_readBlocks (fuel : Nat) (read : Octets) (there : w.links[i]? = some l) :
    Ends (readBlocks i fuel read) w fun r v =>
      ∃ m, w.Swaps i m v ∧ m.outgoing = l.outgoing ∧
        ∀ all, r = .ok all → ∃ bs, all = read ++ bs ∧ l.Hears bs m := by
  induction fuel generalizing w l read with
  | zero =>
      exact ⟨l, (World.Idles.refl w).swaps there, rfl,
        by rintro all ⟨⟩; exact ⟨[], by simp, .refl l⟩⟩
  | succ fuel ih =>
      rw [readBlocks, ends_bind]
      apply Ends.mono (ends_readSome there 65536)
      intro r v h
      obtain ⟨m, swapped, outgoing, given⟩ := h
      cases r with
      | error p => exact ⟨m, swapped, outgoing, by simp⟩
      | ok block =>
          have heard := given block rfl
          dsimp only
          split
          · next empty =>
            rw [List.isEmpty_iff] at empty
            subst empty
            exact ⟨m, swapped, outgoing, by rintro all ⟨⟩; exact ⟨[], by simp, heard⟩⟩
          · apply Ends.mono (ih (read ++ block) (swapped.there there))
            intro r u h
            obtain ⟨n, later, outgoing', given'⟩ := h
            refine ⟨n, swapped.trans later, outgoing'.trans outgoing, fun all e => ?_⟩
            obtain ⟨bs, rfl, more⟩ := given' all e
            exact ⟨block ++ bs, by simp, heard.trans more⟩

theorem ends_readUpTo (there : w.links[i]? = some l) (count : Int) :
    Ends (readUpTo i count) w (Heard w i l) := by
  cases count with
  | ofNat n => exact ends_readSome there n
  | negSucc n =>
      simp only [readUpTo, ends_bind, ends_getLink there]
      apply Ends.mono (ends_readBlocks _ [] there)
      intro r v h
      obtain ⟨m, swapped, outgoing, given⟩ := h
      refine ⟨m, swapped, outgoing, fun bs e => ?_⟩
      obtain ⟨_, rfl, heard⟩ := given bs e
      exact heard

theorem ends_fill (count fuel : Nat) (there : w.links[i]? = some l) :
    Ends (fill i count fuel) w fun _ v => ∃ m, w.Swaps i m v ∧ l.Hears [] m := by
  induction fuel generalizing w l with
  | zero => exact (ends_waitUntil none w).mono fun _ _ idle => ⟨l, idle.swaps there, .refl l⟩
  | succ fuel ih =>
      rw [fill, ends_bind]
      apply Ends.mono (ends_refresh there)
      intro r v h
      obtain ⟨m, rfl, swapped, heard⟩ := h
      have now := swapped.there there
      dsimp only
      split
      · exact ⟨m, swapped, heard⟩
      · rw [ends_bind]
        apply Ends.mono (ends_awaitArrival now)
        intro r u h
        obtain ⟨n, woken, more⟩ := h
        cases r with
        | error p => exact ⟨n, swapped.trans woken, heard.nothing more⟩
        | ok _ =>
            apply Ends.mono (ih (woken.there now))
            intro r t h
            obtain ⟨k, later, rest⟩ := h
            exact ⟨k, (swapped.trans woken).trans later, (heard.nothing more).nothing rest⟩

/-- An exact read gives as many octets as were asked for, or none at all. -/
theorem ends_readExactly (there : w.links[i]? = some l) (count : Nat) :
    Ends (readExactly i count) w fun r v =>
      Heard w i l r v ∧ ∀ bs, r = .ok bs → bs.length = count := by
  rw [readExactly, ends_bind]
  apply Ends.mono (ends_refresh there)
  intro r v h
  obtain ⟨m, rfl, swapped, heard⟩ := h
  have now := swapped.there there
  dsimp only
  split
  · exact ⟨.error swapped heard, by simp⟩
  · split
    · next zero => exact ⟨.ok swapped heard, by rintro bs ⟨⟩; exact zero.symm⟩
    · rw [ends_bind]
      apply Ends.mono (ends_fill count _ now)
      intro r u h
      obtain ⟨n, filled, more⟩ := h
      cases r with
      | error p => exact ⟨.after swapped heard (.error filled more), by simp⟩
      | ok _ =>
          have here := filled.there now
          simp only [ends_bind, ends_getLink here]
          split
          · refine ⟨.after swapped heard (.after filled more ?_), by simp⟩
            exact ⟨_, ⟨rfl, rfl, rfl⟩, rfl, by simp⟩
          · next enough =>
            apply Ends.mono (ends_takeBuffered here count)
            intro r t h
            obtain ⟨rfl, taken⟩ := h
            refine ⟨.after swapped heard (.after filled more taken), ?_⟩
            rintro bs ⟨⟩
            rw [List.length_take]
            omega

theorem delivered_schedule (start : Rat) (arrivals : List (Rat × Arrival)) :
    delivered (schedule start arrivals) = delivered arrivals := by
  induction arrivals generalizing start with
  | nil => rfl
  | cons e rest ih =>
      have later := ih (start + e.1)
      simp only [delivered, schedule, List.flatMap_cons] at later ⊢
      rw [later]

/-- A dial is noted, and it makes one new connection or none. -/
theorem ends_dial (address : DialAddress) (localAddress : Option DialAddress) (w : World) :
    Ends (dial address localAddress) w fun r v => v.network = w.network ∧
      v.dials = w.dials ++ [⟨address, localAddress⟩] ∧
      match r with
      | .ok i => i = w.links.size ∧ ∃ l, v.links = w.links.push l ∧
          l.outgoing = .silent (w.met address) ∧ l.unread = (w.met address).sent
      | .error _ => v.links = w.links := by
  simp only [dial, ends_bind, ends_get, ends_set]
  apply Ends.mono (ends_sleep _ _)
  intro r v idle
  cases r with
  | error p => exact ⟨idle.network, idle.dials, idle.links⟩
  | ok _ =>
      dsimp only
      split
      · exact ⟨idle.network, idle.dials, idle.links⟩
      · simp only [establish, ends_bind, ends_get, ends_set, ends_pure]
        refine ⟨idle.network, idle.dials, by rw [idle.links], ?_⟩
        exact ⟨{ behaviour := w.met address, pending := schedule v.now (w.met address).arrivals },
          by rw [idle.links]; rfl, rfl, delivered_schedule _ _⟩

end Net

end ContentTracker
