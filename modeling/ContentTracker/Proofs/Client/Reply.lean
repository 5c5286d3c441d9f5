import ContentTracker.Client
import ContentTracker.Proofs.Exchange.Answered

/-! What a client makes of a tracker's reply. The reply alone decides it, not the segments it came
in and not the time it took. -/

namespace ContentTracker.Client

open Net World
open Exchange (Frank Told verdict)

variable {α : Type} {c : Client} {tracker : PeerId} {w : World} {m : Message}
  {a : DialAddress} {rest : List DialAddress} {payload greeting answer reply : Octets}

/-- Logging around an operation changes nothing about it. -/
theorem ends_timed {operation : String} {op : Net α} {result : Except Problem α}
    (h : ∀ v, w.Waits v → Ends op v fun r u => r = result ∧ Told greeting payload w u) :
    Ends (timed operation op) w fun r u => r = result ∧ Told greeting payload w u := by
  rw [timed, ends_bind, ends_get]
  apply Ends.next (log_waits _ _ _ w)
  intro v before
  rw [ends_bind, ends_outcome]
  apply Ends.mono (h v before)
  intro r u known
  obtain ⟨rfl, told⟩ := known
  dsimp only
  rw [ends_bind, ends_get]
  cases r with
  | ok a => exact ⟨rfl, told.amid (.refl w) ⟨⟨rfl, rfl, rfl⟩, Rat.le_refl, rfl⟩⟩
  | error p => exact ⟨rfl, told.amid (.refl w) ⟨⟨rfl, rfl, rfl⟩, Rat.le_refl, rfl⟩⟩

theorem ends_exchange (c : Client) (tracker : PeerId) (m : Message)
    (decode : Octets → Except Problem α) (w : World) (Q : Except Problem α → World → Prop) :
    Ends (c.exchange tracker m decode) w Q ↔
      Ends (Exchange.run ⟨c.endpoint, tracker, c.protocol, c.sizeLimit⟩ m decode) { world := w }
        fun r t => Q r t.world := by
  unfold Ends exchange
  dsimp only
  cases Exchange.run ⟨c.endpoint, tracker, c.protocol, c.sizeLimit⟩ m decode { world := w } <;>
    exact Iff.rfl

theorem ends_exchange_answered {decode : Octets → Except Problem α} {v : World}
    (encoded : m.encodeRequest = .ok payload)
    (greets : Endpoint.hello c.protocol c.endpoint.node = .ok greeting)
    (known : c.endpoint.book.get tracker = a :: rest)
    (meant : Endpoint.hello c.protocol tracker = .ok answer)
    (answers : c.endpoint.Answers answer reply (w.met a)) (free : w.deadline = none)
    (room : 0 ≤ c.sizeLimit) (frank : Frank decode) (waited : w.Waits v) :
    Ends (c.exchange tracker m decode) v fun r u =>
      r = verdict c.sizeLimit decode reply ∧ Told greeting payload w u := by
  rw [ends_exchange]
  apply Ends.mono (Exchange.ends_run_answered rfl encoded greets known meant (by rwa [waited.met])
    (waited.deadline.trans free) room frank)
  intro r t h
  exact ⟨h.1, h.2.amid waited (.refl _)⟩

theorem frank_response : Frank fun bs => (decodeResponse bs).mapError (·.problem) :=
  fun _ _ => Exchange.failure_of_fault

theorem ends_announce_answered {announcement : Announce}
    (encoded : (Message.announce announcement).encodeRequest = .ok payload)
    (greets : Endpoint.hello c.protocol c.endpoint.node = .ok greeting)
    (known : c.endpoint.book.get tracker = a :: rest)
    (meant : Endpoint.hello c.protocol tracker = .ok answer)
    (answers : c.endpoint.Answers answer reply (w.met a)) (free : w.deadline = none)
    (room : 0 ≤ c.sizeLimit) :
    Ends (c.announce tracker (.announce announcement)) w fun r v =>
      r = verdict c.sizeLimit (fun _ => .ok ()) reply ∧ Told greeting payload w v := by
  have exchanging (v : World) (waited : w.Waits v) : Ends (timed "announce"
      (c.exchange tracker (.announce announcement) fun _ => .ok ())) v fun r u =>
        r = verdict c.sizeLimit (fun _ => .ok ()) reply ∧ Told greeting payload v u := by
    refine ends_timed fun u later => ?_
    exact ends_exchange_answered encoded greets known meant (by rwa [waited.met])
      (waited.deadline.trans free) room (fun _ _ absurd => by cases absurd) later
  rw [announce]
  dsimp only
  split
  · apply Ends.next (log_waits _ _ _ w)
    intro v warned
    exact (exchanging v warned).mono fun r u h => ⟨h.1, h.2.amid warned (.refl u)⟩
  · exact exchanging w (.refl w)

theorem ends_query_answered {q : Query} (encoded : (Message.query q).encodeRequest = .ok payload)
    (greets : Endpoint.hello c.protocol c.endpoint.node = .ok greeting)
    (known : c.endpoint.book.get tracker = a :: rest)
    (meant : Endpoint.hello c.protocol tracker = .ok answer)
    (answers : c.endpoint.Answers answer reply (w.met a)) (free : w.deadline = none)
    (room : 0 ≤ c.sizeLimit) :
    Ends (c.query tracker (.query q)) w fun r v =>
      r = verdict c.sizeLimit (fun bs => (decodeResponse bs).mapError (·.problem)) reply ∧
        Told greeting payload w v := by
  rw [query]
  refine ends_timed fun v waited => ?_
  rw [ends_bind]
  apply Ends.mono (ends_exchange_answered encoded greets known meant answers free room
    frank_response waited)
  intro r u h
  obtain ⟨rfl, told⟩ := h
  cases verdict c.sizeLimit (fun bs => (decodeResponse bs).mapError (·.problem)) reply with
  | error p => exact ⟨rfl, told⟩
  | ok response =>
      dsimp only
      split
      · apply Ends.next (log_waits _ _ _ u)
        intro t noted
        apply Ends.next (log_waits _ _ _ t)
        intro t' counted
        exact ⟨rfl, told.amid (.refl w) (noted.trans counted)⟩
      · apply Ends.next (log_waits _ _ _ u)
        intro t counted
        exact ⟨rfl, told.amid (.refl w) counted⟩

/-- A tracker that answers in time is told the request and the end of it, and only the octets of its
reply decide the outcome, however they are cut and whenever they arrive. -/
theorem reply_decides (c : Client) (tracker : PeerId) (w : World) (a : DialAddress)
    (rest : List DialAddress) (answer reply : Octets)
    (known : c.endpoint.book.get tracker = a :: rest)
    (meant : Endpoint.hello c.protocol tracker = .ok answer)
    (answers : c.endpoint.Answers answer reply (w.met a)) (free : w.deadline = none)
    (room : 1 ≤ c.sizeLimit) :
    ∃ greeting, Endpoint.hello c.protocol c.endpoint.node = .ok greeting ∧
      (∀ m payload, (Message.announce m).encodeRequest = .ok payload →
        Ends (c.announce tracker (.announce m)) w fun r v => Told greeting payload w v ∧
          r = if c.sizeLimit < reply.length then .error (Connection.oversized c.sizeLimit)
            else .ok ()) ∧
      ∀ q payload, (Message.query q).encodeRequest = .ok payload →
        Ends (c.query tracker (.query q)) w fun r v => Told greeting payload w v ∧
          r = if c.sizeLimit < reply.length then .error (Connection.oversized c.sizeLimit)
            else (decodeResponse reply).mapError (·.problem) := by
  have greets := Endpoint.hello_of_hello meant c.endpoint.node
  have room' : 0 ≤ c.sizeLimit := by omega
  refine ⟨_, greets, fun m payload encoded => ?_, fun q payload encoded => ?_⟩
  · apply Ends.mono (ends_announce_answered encoded greets known meant answers free room')
    intro r v h
    exact ⟨h.2, h.1⟩
  · apply Ends.mono (ends_query_answered encoded greets known meant answers free room')
    intro r v h
    exact ⟨h.2, h.1⟩

/-- A node whose hello comes in two segments, the second of which begins the reply. -/
def answering (node : PeerId) : Behaviour where
  delay := 1
  arrivals := [(2, .data [1]), (1, .data (65 :: (node.key.octets ++ [0, 1]))), (3, .data [2]),
    (4, .endOfStream)]

def answeringNode : PeerId := ⟨⟨List.replicate 32 7, rfl⟩⟩

def asking : Client where
  endpoint := {
    node := answeringNode
    book := [(answeringNode, [⟨"localhost", 4433⟩])]
    connectTimeout := .whole 10
    readTimeout := .whole 5 }
  protocol := [65]

def askingWorld : World := { network := fun _ _ => answering answeringNode }

theorem asking_answered : asking.endpoint.Answers ([1, 65] ++ answeringNode.key.octets) [0, 1, 2]
    (answering answeringNode) where
  reachable := rfl
  working := fun _ _ => rfl
  segmented := by
    have last : Cut 5 [] [(4, .endOfStream)] := .finish (by decide) (by decide)
    have reply : Cut 5 ([2] ++ []) [(3, .data [2]), (4, .endOfStream)] :=
      .segment (by decide) (by decide) (by decide) last
    have both : Cut 5 (65 :: (answeringNode.key.octets ++ [0, 1]) ++ ([2] ++ []))
        [(1, .data (65 :: (answeringNode.key.octets ++ [0, 1]))), (3, .data [2]),
          (4, .endOfStream)] :=
      .segment (by decide) (by decide) (List.cons_ne_nil _ _) reply
    have wait : (0 : Rat) ≤ 2 := by decide
    have some : ([1] : Octets) ≠ [] := by decide
    exact .first wait some both
  prompt := by decide +kernel

theorem reply_decides_asking : ∃ greeting,
      Endpoint.hello asking.protocol asking.endpoint.node = .ok greeting ∧
      (∀ m payload, (Message.announce m).encodeRequest = .ok payload →
        Ends (asking.announce answeringNode (.announce m)) askingWorld
          fun r v => Told greeting payload askingWorld v ∧
            r = if asking.sizeLimit < ([0, 1, 2] : Octets).length
              then .error (Connection.oversized asking.sizeLimit) else .ok ()) ∧
      ∀ q payload, (Message.query q).encodeRequest = .ok payload →
        Ends (asking.query answeringNode (.query q)) askingWorld
          fun r v => Told greeting payload askingWorld v ∧
            r = if asking.sizeLimit < ([0, 1, 2] : Octets).length
              then .error (Connection.oversized asking.sizeLimit)
              else (decodeResponse [0, 1, 2]).mapError (·.problem) :=
  reply_decides asking answeringNode askingWorld ⟨"localhost", 4433⟩ [] _ [0, 1, 2]
    (by decide +kernel) rfl asking_answered rfl (by decide)

end ContentTracker.Client
