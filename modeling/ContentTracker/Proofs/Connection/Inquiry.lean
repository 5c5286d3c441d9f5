import ContentTracker.Connection
import ContentTracker.Proofs.Network.Outcome

/-! Reading to the end as a conversation with the reader of a connection: how much it asks for each
time, how often it asks, and how much it is given, whatever is sent and whenever. -/

namespace ContentTracker

open Net

/-- A program that asks a reader for octets until it has a result. -/
inductive Inquiry where
  | settled (result : Except Problem Octets)
  | ask (count : Int) (next : Except Problem Octets → Inquiry)

/-- What was asked for, and what came of it. -/
structure Ask where
  count : Int
  brought : Octets

namespace Inquiry

/-- The program where it asks a connection, which has the time of one read for each answer. -/
def run (c : Connection) : Inquiry → Net Octets
  | settled result => MonadExcept.ofExcept result
  | ask count next => do
    let answer ← outcome (within c.readTimeout.seconds (readUpTo c.number count))
    (next answer).run c

/-- The asks that the program makes when it is run. -/
def asks (c : Connection) : Inquiry → World → List Ask
  | settled _, _ => []
  | ask count next, w =>
    match within c.readTimeout.seconds (readUpTo c.number count) w with
    | .ok octets v => ⟨count, octets⟩ :: (next (.ok octets)).asks c v
    | .error p v => ⟨count, []⟩ :: (next (.error p)).asks c v

end Inquiry

namespace Net

/-- What holds of every result of an operation holds of its results within a time limit. -/
theorem ends_within_results {α : Type} {op : Net α} {P : α → Prop} {seconds : Rat} {w : World}
    (h : ∀ v, Ends op v fun r _ => ∀ a, r = .ok a → P a) :
    Ends (within seconds op) w fun r _ => ∀ a, r = .ok a → P a := by
  have never (p : Problem) : ∀ a, (.error p : Except Problem α) = .ok a → P a := by simp
  rw [within]
  split
  · exact never _
  · simp only [ends_bind, ends_get, ends_set, ends_outcome, ends_modify]
    apply Ends.mono (h _)
    intro r v results
    cases r with
    | ok a => exact results
    | error p =>
        simp only [ends_bind, ends_get]
        split
        · exact never _
        · split
          · split <;> exact never _
          · exact never _

/-- A read gives no more than it was asked for. -/
theorem ends_readSome_length (i count : Nat) (w : World) :
    Ends (readSome i count) w fun r _ => ∀ bs, r = .ok bs → bs.length ≤ count := by
  have any {op : Net Unit} {v : World} : Ends op v fun _ _ => True := ends_const.2 trivial
  have never (p : Problem) : ∀ bs, (.error p : Except Problem Octets) = .ok bs →
      bs.length ≤ count := by simp
  have taking (v : World) : Ends (takeBuffered i count) v fun r _ => ∀ bs, r = .ok bs →
      bs.length ≤ count := by
    rw [takeBuffered]
    refine Ends.bind (P := fun _ _ => True) (ends_const.2 trivial) (fun l u _ => ?_)
      fun p _ _ => never p
    rintro _ ⟨⟩
    exact List.length_take_le _ _
  rw [readSome]
  refine Ends.bind (P := fun _ _ => True) (ends_const.2 trivial) (fun l v _ => ?_)
    fun p _ _ => never p
  dsimp only
  split
  · exact never _
  · split
    · rintro _ ⟨⟩
      exact Nat.zero_le _
    · split
      · exact Ends.bind any (fun _ u _ => taking u) fun p _ _ => never p
      · exact taking v

theorem ends_readUpTo_length (i : Nat) {count : Int} (some : 0 ≤ count) (w : World) :
    Ends (readUpTo i count) w fun r _ => ∀ bs, r = .ok bs → (bs.length : Int) ≤ count := by
  obtain ⟨n, rfl⟩ := Int.eq_ofNat_of_zero_le some
  exact (ends_readSome_length i n w).mono fun _ _ h bs e => Int.ofNat_le.2 (h bs e)

end Net

/-- What the asks brought. -/
def Ask.taken (asks : List Ask) : Octets := asks.flatMap (·.brought)

/-- Asks that a reader makes where `read` octets are there already and at most one more than `limit`
may be taken: each is for something and for no more than a chunk, and all bring no more, nor are
there more of them, than may be taken. -/
structure Ask.Sparing (limit : Int) (read : Nat) (asks : List Ask) : Prop where
  counts : ∀ a ∈ asks, 1 ≤ a.count ∧ a.count ≤ min Connection.chunkSize (limit + 1)
  octets : (read : Int) + (Ask.taken asks).length ≤ limit + 1
  number : (read : Int) + asks.length ≤ limit + 1

section Sparing

variable {limit : Int} {read : Nat} {a : Ask} {asks : List Ask}

theorem Ask.Sparing.none (room : (read : Int) ≤ limit + 1) : Ask.Sparing limit read [] :=
  ⟨by simp, by simpa [Ask.taken] using room, by simpa using room⟩

/-- The last ask may bring nothing. -/
theorem Ask.Sparing.last (room : (read : Int) ≤ limit)
    (count : a.count = min Connection.chunkSize (limit + 1 - read))
    (brought : (a.brought.length : Int) ≤ a.count) : Ask.Sparing limit read [a] := by
  have size : Connection.chunkSize = 65536 := rfl
  refine ⟨?_, ?_, ?_⟩
  · rintro _ (_ | ⟨_, ⟨⟩⟩)
    omega
  · simp only [Ask.taken, List.flatMap_cons, List.flatMap_nil, List.append_nil]
    omega
  · simp only [List.length_singleton]
    omega

/-- Any other ask brings something. -/
theorem Ask.Sparing.more (room : (read : Int) ≤ limit)
    (count : a.count = min Connection.chunkSize (limit + 1 - read)) (some : a.brought ≠ [])
    (later : Ask.Sparing limit (read + a.brought.length) asks) :
    Ask.Sparing limit read (a :: asks) := by
  have size : Connection.chunkSize = 65536 := rfl
  have longer := List.length_pos_iff.2 some
  obtain ⟨counts, octets, number⟩ := later
  refine ⟨?_, ?_, ?_⟩
  · rintro b (_ | ⟨_, member⟩)
    · omega
    · exact counts b member
  · simp only [Ask.taken, List.flatMap_cons, List.length_append] at octets ⊢
    omega
  · simp only [List.length_cons]
    omega

end Sparing

namespace Connection

variable {c : Connection} {limit : Int}

/-- How a reply that is too long ends the reading. -/
def oversized (limit : Int) : Problem :=
  .fail .oversized s!"Response exceeds {limit} bytes" [("limit", .int limit)]

/-- How it ends where neither octets nor the end of the stream come in the time of a read. -/
def unfinished (c : Connection) (read : Octets) : Problem :=
  .fail .stream s!"Stream not finished after {c.readTimeout.text}s ({read.length} bytes read)"
    [("bytes_read", .int read.length)]

/-- How it ends where a read ends in a problem. -/
def readProblem (c : Connection) (read : Octets) : Problem → Problem
  | .system .timeout _ => c.unfinished read
  | p => if p.isSystem then .fail .stream s!"Failed to read from stream: {p.text}" else p

/-- The conversation of `readLoop`. -/
def inquiring (c : Connection) (limit : Int) : (fuel : Nat) → Octets → Inquiry
  | 0, read => .settled (.ok read)
  | fuel + 1, read => .ask (min chunkSize (limit + 1 - read.length)) fun
    | .error p => .settled (.error (c.readProblem read p))
    | .ok chunk =>
      if chunk.isEmpty then .settled (.ok read)
      else if limit < (read ++ chunk).length then .settled (.error (oversized limit))
      else inquiring c limit fuel (read ++ chunk)

/-- The conversation of `readToEnd`. -/
def inquiry (c : Connection) (limit : Int) : Inquiry := inquiring c limit (limit.toNat + 2) []

theorem readChunk_eq (c : Connection) (limit : Int) (read : Octets) :
    c.readChunk limit read = (do
      match ← outcome (within c.readTimeout.seconds
          (readUpTo c.number (min chunkSize (limit + 1 - read.length)))) with
      | .ok chunk => pure chunk
      | .error p => throw (c.readProblem read p)) := by
  unfold readChunk
  dsimp only
  congr 1
  funext answer
  cases answer with
  | ok chunk => rfl
  | error p =>
      cases p with
      | system trouble text => cases trouble <;> rfl
      | _ => rfl

theorem readLoop_eq_run (fuel : Nat) (read : Octets) :
    c.readLoop limit fuel read = (c.inquiring limit fuel read).run c := by
  induction fuel generalizing read with
  | zero => rfl
  | succ fuel ih =>
      rw [readLoop, readChunk_eq, bind_assoc, inquiring, Inquiry.run]
      congr 1
      funext answer
      cases answer with
      | error p => rfl
      | ok chunk =>
          rw [pure_bind]
          dsimp only
          split
          · rfl
          · split
            · rfl
            · exact ih _

theorem readToEnd_eq_run (c : Connection) (limit : Int) :
    c.readToEnd limit = (c.inquiry limit).run c :=
  readLoop_eq_run _ _

/-- Whatever the reader answers, reading on from `read` stays within the limit. -/
theorem asks_inquiring (fuel : Nat) (read : Octets) (w : World)
    (room : (read.length : Int) ≤ limit) :
    Ask.Sparing limit read.length ((c.inquiring limit fuel read).asks c w) := by
  induction fuel generalizing read w with
  | zero => exact .none (by omega)
  | succ fuel ih =>
      have positive : 0 ≤ min chunkSize (limit + 1 - read.length) := by
        unfold chunkSize
        omega
      have short : Ends (within c.readTimeout.seconds
          (readUpTo c.number (min chunkSize (limit + 1 - read.length)))) w fun r _ =>
            ∀ bs, r = .ok bs → (bs.length : Int) ≤ min chunkSize (limit + 1 - read.length) :=
        ends_within_results fun v => ends_readUpTo_length c.number positive v
      rw [inquiring, Inquiry.asks]
      split
      · next chunk v given =>
        have few := short.of_ok given chunk rfl
        dsimp only
        split
        · exact .last room rfl few
        · next some =>
          split
          · exact .last room rfl few
          · next fits =>
            have later := ih (read ++ chunk) v (Int.not_lt.1 fits)
            rw [List.length_append] at later
            exact .more room rfl (by simpa using some) later
      · exact .last room rfl positive

theorem asks_inquiry (room : 0 ≤ limit) (w : World) :
    Ask.Sparing limit 0 ((c.inquiry limit).asks c w) :=
  asks_inquiring _ [] w room

end Connection

end ContentTracker
