import ContentTracker.Proofs.Settings.Manager
import ContentTracker.Proofs.Settings.Session
import ContentTracker.Proofs.Text.Base32

/-! The id of a node whose settings name none. It is drawn when it is first asked for and kept from
then on, but settings that are loaded again come without it. -/

namespace ContentTracker

theorem PeerId.length_text (p : PeerId) : p.text.length = 52 := by
  rw [PeerId.text, Base32.encode, String.length_ofList, Base32.length_encodeChars,
    p.key.length_octets]

theorem PeerId.parse_text (p : PeerId) : parse p.text = .ok p := by
  have notHex : p.text.length ≠ 64 := by rw [length_text]; decide
  have decoded : Base32.decode p.text = .ok p.key.octets := Base32.decode_encode _
  have whole : Digest.ofOctets? p.key.octets = some p.key := dif_pos p.key.length_octets
  rw [parse, Digest.parse, if_neg notHex, if_pos (length_text p), decoded]
  dsimp only
  rw [whole]
  rfl

namespace Session

/-- What is asked of a session whose manager is there. -/
inductive Call
  | nodeId
  | endpoint
  | exportText (format : String)
  | reload

namespace Call

def asks : Call → Bool
  | .nodeId | .endpoint => true
  | .exportText _ | .reload => false

/-- Runs a call, which may tell the id of the node. -/
def run (ids : Nat → String) (nodes : Nat → PeerId) : Call → Administration (Option PeerId)
  | .nodeId => do return some (← Session.nodeId ids nodes)
  | .endpoint => do return some (← Session.endpoint ids nodes).node
  | .exportText format => do
    let _ ← Session.exportText ids format
    return none
  | .reload => do
    let _ ← Session.reload ids
    return none

end Call

/-- What calls tell one after the other, and the session that they leave. A call that ends in a problem
tells nothing. -/
def tells (ids : Nat → String) (nodes : Nat → PeerId) : List Call → Session → List PeerId × Session
  | [], s => ([], s)
  | c :: rest, s =>
    match c.run ids nodes s with
    | .ok told t => (told.toList ++ (tells ids nodes rest t).1, (tells ids nodes rest t).2)
    | .error _ t => tells ids nodes rest t

end Session

/-- A manager of settings in which an id is kept, or none. -/
def Manager.keeping (file : Option Path) (settings : Settings) (kept : Option PeerId) : Manager :=
  ⟨file, { settings with identity := ⟨kept.map PeerId.text⟩ }⟩

namespace Session

/-- The id that is told next, and how many have been drawn by then. -/
def next (nodes : Nat → PeerId) (drawn : Nat) : Option PeerId → PeerId × Nat
  | some p => (p, drawn)
  | none => (nodes drawn, drawn + 1)

/-- A session whose settings would be loaded again as they are, but for the id that is kept in them. -/
structure Keeps (file : Option Path) (settings : Settings) (kept : Option PeerId) (s : Session) :
    Prop where
  manager : s.manager = some (.keeping file settings kept)
  loaded : Settings.load s.surroundings file = .ok settings

variable {ids : Nat → String} {nodes : Nat → PeerId} {file : Option Path} {settings : Settings}
  {kept : Option PeerId} {s : Session}

theorem Keeps.meaningful (h : Keeps file settings kept s) :
    (Manager.keeping file settings kept).settings.Meaningful := by
  obtain ⟨_, peers, addresses⟩ := Settings.meaningful_of_load h.loaded
  refine ⟨?_, peers, addresses⟩
  intro text set
  obtain ⟨p, _, rfl⟩ := Option.map_eq_some_iff.1 set
  exact ⟨p, p.parse_text⟩

theorem keeping_none (unset : settings.identity.nodeId = none) :
    Manager.keeping file settings none = ⟨file, settings⟩ := by
  unfold Manager.keeping
  rw [Option.map_none, ← unset]

theorem nodeId_keeping (nodes : Nat → PeerId) (drawn : Nat) :
    (Manager.keeping file settings kept).nodeId (nodes drawn) =
      .ok ((next nodes drawn kept).1, .keeping file settings (some (next nodes drawn kept).1)) := by
  cases kept with
  | none => rfl
  | some p =>
      simp only [Manager.nodeId, Manager.keeping, Option.map_some, Manager.parseNode, p.parse_text]
      rfl

theorem ends_sharedManager (h : Keeps file settings kept s) :
    Ends (sharedManager ids) s fun r t => r = .ok (.keeping file settings kept) ∧ t = s := by
  rw [sharedManager, ends_bind, ends_get]
  dsimp only
  rw [h.manager]
  exact ⟨rfl, rfl⟩

theorem ends_nodeId (h : Keeps file settings kept s) :
    Ends (nodeId ids nodes) s fun r t => r = .ok (next nodes s.drawn kept).1 ∧
      Keeps file settings (some (next nodes s.drawn kept).1) t ∧
      t.drawn = (next nodes s.drawn kept).2 := by
  refine (ends_sharedManager h).next fun t same => ?_
  subst same
  rw [ends_bind, ends_get]
  dsimp only
  rw [ends_bind, ends_ofExcept, nodeId_keeping]
  dsimp only
  rw [ends_bind, ends_modify]
  refine ⟨rfl, ⟨rfl, h.loaded⟩, ?_⟩
  cases kept <;> rfl

theorem ends_endpoint (h : Keeps file settings kept s) :
    Ends (endpoint ids nodes) s fun r t =>
      (∃ e, r = .ok e ∧ e.node = (next nodes s.drawn kept).1) ∧
      Keeps file settings (some (next nodes s.drawn kept).1) t ∧
      t.drawn = (next nodes s.drawn kept).2 := by
  refine (ends_nodeId h).next fun t after => ?_
  obtain ⟨keeps, drawn⟩ := after
  refine (ends_sharedManager keeps).next fun u same => ?_
  subst same
  -- The id has just been kept, so the endpoint reads it back from its text.
  obtain ⟨e, m, made, taken, _⟩ :=
    Manager.endpoint_of_meaningful (next nodes s.drawn kept).1 keeps.meaningful
  have told := taken.symm.trans (nodeId_keeping (fun _ => (next nodes s.drawn kept).1) 0)
  have same : e.node = (next nodes s.drawn kept).1 := congrArg Prod.fst (Except.ok.inj told)
  rw [ends_bind, ends_ofExcept, made]
  exact ⟨⟨e, rfl, same⟩, keeps, drawn⟩

/-- What is heard of an outcome: the id, if one was told. -/
def heard : Except Problem (Option PeerId) → List PeerId
  | .ok told => told.toList
  | .error _ => []

namespace Call

def answer (nodes : Nat → PeerId) (drawn : Nat) (kept : Option PeerId) : Call → List PeerId
  | .nodeId | .endpoint => [(next nodes drawn kept).1]
  | .exportText _ | .reload => []

/-- The id that is kept behind a call, and how many have been drawn by then. Settings that are loaded
again come without the id. -/
def leaves (nodes : Nat → PeerId) (drawn : Nat) (kept : Option PeerId) :
    Call → Option PeerId × Nat
  | .nodeId | .endpoint => (some (next nodes drawn kept).1, (next nodes drawn kept).2)
  | .exportText _ => (kept, drawn)
  | .reload => (none, drawn)

theorem ends_run (unset : settings.identity.nodeId = none) (h : Keeps file settings kept s)
    (c : Call) : Ends (c.run ids nodes) s fun r t => heard r = c.answer nodes s.drawn kept ∧
      Keeps file settings (c.leaves nodes s.drawn kept).1 t ∧
      t.drawn = (c.leaves nodes s.drawn kept).2 := by
  cases c with
  | nodeId => exact (ends_nodeId h).next fun t after => ⟨rfl, after⟩
  | endpoint =>
      refine (ends_endpoint h).bind (fun e t after => ?_) fun p t after => ?_
      · obtain ⟨⟨_, ⟨⟩, same⟩, later⟩ := after
        exact ⟨congrArg (fun p => [p]) same, later⟩
      · obtain ⟨⟨_, ⟨⟩, _⟩, _⟩ := after
  | exportText format =>
      have exported : Ends (Session.exportText ids format) s fun _ t => t = s := by
        refine (ends_sharedManager h).next fun t same => ?_
        rw [ends_ofExcept]
        exact same
      refine exported.bind (fun _ t same => ?_) fun p t same => ?_
      · subst same
        exact ⟨rfl, h, rfl⟩
      · subst same
        exact ⟨rfl, h, rfl⟩
  | reload =>
      have reloaded : Ends (Session.reload ids) s fun _ t =>
          Keeps file settings none t ∧ t.drawn = s.drawn := by
        refine ends_reload.mono fun r t after => ?_
        rw [h.manager] at after
        dsimp only [Manager.keeping] at after
        rw [h.loaded] at after
        obtain ⟨logged, _⟩ := after
        refine ⟨⟨?_, Settings.load_of_grown logged.environment logged.disk h.loaded⟩, logged.drawn⟩
        rw [logged.manager, keeping_none unset]
      exact reloaded.bind (fun _ t after => ⟨rfl, after⟩) fun p t after => ⟨rfl, after⟩

end Call

theorem tells_cons (unset : settings.identity.nodeId = none) (h : Keeps file settings kept s)
    (c : Call) (rest : List Call) : ∃ t, Keeps file settings (c.leaves nodes s.drawn kept).1 t ∧
      t.drawn = (c.leaves nodes s.drawn kept).2 ∧ tells ids nodes (c :: rest) s =
        (c.answer nodes s.drawn kept ++ (tells ids nodes rest t).1, (tells ids nodes rest t).2) := by
  have ended : Ends (c.run ids nodes) s _ := Call.ends_run unset h c
  cases ran : c.run ids nodes s with
  | ok told t =>
      obtain ⟨answered, keeps, drawn⟩ := ended.of_ok ran
      refine ⟨t, keeps, drawn, ?_⟩
      rw [tells, ran, ← answered]
      rfl
  | error p t =>
      obtain ⟨answered, keeps, drawn⟩ := ended.of_error ran
      refine ⟨t, keeps, drawn, ?_⟩
      rw [tells, ran, ← answered]
      rfl

theorem tells_append (first later : List Call) (s : Session) :
    tells ids nodes (first ++ later) s =
      ((tells ids nodes first s).1 ++ (tells ids nodes later (tells ids nodes first s).2).1,
        (tells ids nodes later (tells ids nodes first s).2).2) := by
  induction first generalizing s with
  | nil => rfl
  | cons c rest ih =>
      rw [List.cons_append, tells, tells]
      cases c.run ids nodes s with
      | ok told t => simp only [ih, List.append_assoc]
      | error p t => simp only [ih]

/-- Without reloading, all questions are answered with one id, and at most one is drawn. -/
theorem tells_steady (unset : settings.identity.nodeId = none) {calls : List Call}
    (steady : .reload ∉ calls) (h : Keeps file settings kept s) :
    (tells ids nodes calls s).1 =
        List.replicate (calls.countP Call.asks) (next nodes s.drawn kept).1 ∧
      (tells ids nodes calls s).2.drawn =
        if calls.any Call.asks then (next nodes s.drawn kept).2 else s.drawn := by
  induction calls generalizing kept s with
  | nil => exact ⟨rfl, rfl⟩
  | cons c rest ih =>
      obtain ⟨t, keeps, drawn, told⟩ := tells_cons unset h c rest
      obtain ⟨same, drawnLater⟩ := ih (fun listed => steady (List.mem_cons_of_mem c listed)) keeps
      rw [told]
      dsimp only
      rw [same, drawnLater, drawn]
      cases c with
      | nodeId | endpoint =>
          -- What is kept from now on is what was answered, so nothing more is drawn.
          rw [List.countP_cons_of_pos rfl, List.replicate_succ, List.any_cons]
          refine ⟨rfl, ?_⟩
          rw [Call.leaves, next, ite_self]
          rfl
      | exportText format => exact ⟨rfl, rfl⟩
      | reload => exact absurd List.mem_cons_self steady

/-- Whatever has been called, at most an id is kept in the settings. -/
theorem keeps_tells (unset : settings.identity.nodeId = none) (h : Keeps file settings kept s)
    (calls : List Call) : ∃ kept, Keeps file settings kept (tells ids nodes calls s).2 := by
  induction calls generalizing kept s with
  | nil => exact ⟨kept, h⟩
  | cons c rest ih =>
      obtain ⟨t, keeps, _, told⟩ := tells_cons unset h c rest
      rw [told]
      exact ih keeps

theorem keeps_start {named : Option String} {s₀ : Session} {m : Manager}
    (started : start ids named s₀ = .ok m s) (unset : m.settings.identity.nodeId = none) :
    Keeps m.file m.settings none s := by
  have ended := (ends_start named).of_ok started
  cases found : Manager.load s₀.surroundings named with
  | error p =>
      rw [found] at ended
      cases ended.1
  | ok m' =>
      rw [found] at ended
      obtain ⟨⟨⟩, left⟩ := ended
      obtain ⟨u, logged, rfl⟩ := left m rfl
      have loaded := Manager.settings_of_load found
      exact ⟨congrArg some (keeping_none unset).symm,
        Settings.load_of_grown logged.environment logged.disk loaded⟩

/-- No id is kept at first, nor when the settings have just been loaded again. -/
theorem keeps_loaded (unset : settings.identity.nodeId = none) (h : Keeps file settings none s)
    {before : List Call} (loaded : before = [] ∨ before.getLast? = some .reload) :
    Keeps file settings none (tells ids nodes before s).2 := by
  obtain rfl | last := loaded
  · exact h
  · obtain ⟨earlier, rfl⟩ := List.getLast?_eq_some_iff.1 last
    obtain ⟨kept, keeps⟩ := keeps_tells unset h earlier
    obtain ⟨t, reloaded, _, told⟩ := tells_cons unset keeps .reload []
    rw [tells_append, told]
    exact reloaded

/-- A session starts with settings that name no id for the node. At the start, and whenever the
settings have been loaded again, no id is kept. From there on, until the settings are loaded the next
time, every question for the id and every endpoint gets the same id, the next to be drawn, and only
the first of them draws it. -/
theorem nodeId_kept_until_reload {ids : Nat → String} {named : Option String} {s₀ s : Session}
    {m : Manager} (started : start ids named s₀ = .ok m s)
    (unset : m.settings.identity.nodeId = none) (nodes : Nat → PeerId) (before calls : List Call)
    (loaded : before = [] ∨ before.getLast? = some .reload) (steady : .reload ∉ calls) :
    let u := (tells ids nodes before s).2
    (tells ids nodes (before ++ calls) s).1 = (tells ids nodes before s).1 ++
        List.replicate (calls.countP Call.asks) (nodes u.drawn) ∧
      (tells ids nodes (before ++ calls) s).2.drawn =
        u.drawn + if calls.any Call.asks then 1 else 0 := by
  intro u
  have fresh : Keeps m.file m.settings none u :=
    keeps_loaded unset (keeps_start started unset) loaded
  obtain ⟨told, drawn⟩ := tells_steady unset steady fresh
  rw [tells_append, told, drawn]
  refine ⟨rfl, ?_⟩
  split <;> rfl

/-- Two questions before the settings are loaded again get one id, and two behind it get another. -/
theorem nodeId_kept_until_reload_once :
    let nodes : Nat → PeerId := fun n => ⟨⟨List.replicate 32 (UInt8.ofNat n), List.length_replicate⟩⟩
    let first : List Call := [.nodeId, .endpoint, .exportText "json", .reload]
    ∃ m s, start (fun _ => "c") none
        { surroundings := { disk := { workingFolder := "/work", home := "/home/a" } } } = .ok m s ∧
      m.settings.identity.nodeId = none ∧
      (tells (fun _ => "c") nodes (first ++ [.endpoint, .nodeId]) s).1 =
        [nodes 0, nodes 0, nodes 1, nodes 1] ∧
      (tells (fun _ => "c") nodes (first ++ [.endpoint, .nodeId]) s).2.drawn = 2 := by
  intro nodes first
  have began : (match start (fun _ => "c") none
      { surroundings := { disk := { workingFolder := "/work", home := "/home/a" } } } with
    | .ok m s => decide (m.settings.identity.nodeId = none) &&
        decide ((tells (fun _ => "c") nodes first s).1 = [nodes 0, nodes 0]) &&
        decide ((tells (fun _ => "c") nodes first s).2.drawn = 1)
    | .error _ _ => false) = true := by decide +kernel
  cases started : start (fun _ => "c") none
      { surroundings := { disk := { workingFolder := "/work", home := "/home/a" } } } with
  | error p s =>
      rw [started] at began
      cases began
  | ok m s =>
      rw [started] at began
      simp only [Bool.and_eq_true, decide_eq_true_eq] at began
      obtain ⟨⟨unset, told⟩, drawn⟩ := began
      obtain ⟨all, drawnLater⟩ := nodeId_kept_until_reload started unset nodes first
        [.endpoint, .nodeId] (.inr rfl) (by simp)
      rw [told, drawn] at all
      rw [drawn] at drawnLater
      exact ⟨m, s, rfl, unset, all, drawnLater⟩

end Session

end ContentTracker
