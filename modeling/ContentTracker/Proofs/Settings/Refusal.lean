import ContentTracker.Proofs.Settings.Session

/-! Refused settings. What a program asks of its settings is refused before anything is changed, so a
history of requests comes to the same as the history without those that were refused. -/

namespace ContentTracker

/-- Whether settings were refused: they cannot be found or read, or they break a rule. -/
def Problem.isRefusal : Problem → Bool
  | .failure f => f.kind = .configuration
  | .misconfigured _ => true
  | _ => false

namespace Session

/-- What a program asks of the settings that it shares. -/
inductive Request
  | start (named : Option String)
  | current
  | reload
  | replace (settings : Settings)

namespace Request

variable (ids : Nat → String)

def run : Request → Administration Unit
  | .start named => do let _ ← Session.start ids named
  | .current => do let _ ← Session.current ids
  | .reload => do let _ ← Session.reload ids
  | .replace settings => do let _ ← Session.replace ids settings

/-- What a request has to load before it changes anything. -/
def loads (s : Session) : Request → Except Problem Unit
  | .start named => (Manager.load s.surroundings named).map fun _ => ()
  | .current | .replace _ =>
    match s.manager with
    | some _ => .ok ()
    | none => (Manager.load s.surroundings none).map fun _ => ()
  | .reload =>
    match s.manager with
    | some m => (Settings.load s.surroundings m.file).map fun _ => ()
    | none => .error (.fail .configuration "Configuration not initialized")

/-- The session after a request, whether it was refused or not. -/
def leaves (r : Request) (s : Session) : Session :=
  match r.run ids s with
  | .ok _ t | .error _ t => t

def refused (r : Request) (s : Session) : Bool :=
  match r.run ids s with
  | .ok .. => false
  | .error p _ => p.isRefusal

end Request

/-- What happens to a session: requests, and changes of the files and variables around it. -/
inductive Event
  | request (r : Request)
  | surroundings (s : Surroundings)

namespace Event

variable (ids : Nat → String)

def leaves : Event → Session → Session
  | .request r, s => r.leaves ids s
  | .surroundings around, s => { s with surroundings := around }

def refused : Event → Session → Bool
  | .request r, s => r.refused ids s
  | .surroundings _, _ => false

end Event

section Histories

variable (ids : Nat → String)

def after : List Event → Session → Session
  | [], s => s
  | e :: rest, s => after rest (e.leaves ids s)

/-- The events of a history without the requests that are refused in it. -/
def unrefused : List Event → Session → List Event
  | [], _ => []
  | e :: rest, s =>
    if e.refused ids s then unrefused rest (e.leaves ids s)
    else e :: unrefused rest (e.leaves ids s)

end Histories

variable {ids : Nat → String} {s : Session}

namespace Request

/-- A problem with what has to be loaded ends an operation at once. Afterwards only the system can end
it. -/
def LoadsFirst {α : Type} (loads : Except Problem Unit) (op : Administration α) (s : Session) :
    Prop :=
  Ends op s fun r t =>
    match loads with
    | .error p => r = .error p ∧ t = s
    | .ok _ => ∀ p, r = .error p → p.isSystem

theorem LoadsFirst.pass {α β : Type} {loads : Except Problem Unit} {op : Administration α}
    {f : α → Administration β} (h : LoadsFirst loads op s)
    (later : ∀ a t, Ends (f a) t fun r _ => ∀ p, r = .error p → p.isSystem) :
    LoadsFirst loads (op >>= f) s := by
  cases loads with
  | error p =>
      refine Ends.bind h (fun a t ended => nomatch ended.1) fun q t ended => ?_
      obtain ⟨same, unchanged⟩ := ended
      cases same
      exact ⟨rfl, unchanged⟩
  | ok _ =>
      refine Ends.bind h (fun a t _ => later a t) fun q t ended => ?_
      rintro _ ⟨⟩
      exact ended q rfl

theorem loadsFirst_start (named : Option String) :
    LoadsFirst ((Manager.load s.surroundings named).map fun _ => ()) (Session.start ids named) s := by
  refine (ends_start named).mono fun r t h => ?_
  cases loaded : Manager.load s.surroundings named with
  | error p =>
      rw [loaded] at h
      exact h
  | ok m =>
      rw [loaded] at h
      rintro q rfl
      exact h.1

theorem loadsFirst_sharedManager : LoadsFirst (loads s .current) (sharedManager ids) s := by
  unfold LoadsFirst loads sharedManager
  rw [ends_bind, ends_get]
  dsimp only
  cases s.manager with
  | some m => exact fun _ => nofun
  | none => exact loadsFirst_start none

theorem loadsFirst_reload : LoadsFirst (loads s .reload) (Session.reload ids) s := by
  refine ends_reload.mono fun r t h => ?_
  unfold loads
  cases held : s.manager with
  | none =>
      rw [held] at h
      exact h
  | some m =>
      rw [held] at h
      dsimp only at h ⊢
      cases loaded : Settings.load s.surroundings m.file with
      | error p =>
          rw [loaded] at h
          exact h
      | ok settings =>
          rw [loaded] at h
          rintro q rfl
          exact h.2

theorem loadsFirst_run (r : Request) (s : Session) : LoadsFirst (r.loads s) (r.run ids) s := by
  cases r with
  | start named => exact (loadsFirst_start named).pass fun _ _ _ => nofun
  | current =>
      have current : LoadsFirst (loads s .current) (Session.current ids) s :=
        loadsFirst_sharedManager.pass fun _ _ _ => nofun
      exact current.pass fun _ _ _ => nofun
  | reload => exact loadsFirst_reload.pass fun _ _ _ => nofun
  | replace settings =>
      have replaced : LoadsFirst (loads s .current) (Session.replace ids settings) s := by
        refine loadsFirst_sharedManager.pass fun m t => ?_
        refine (ends_adopt m settings).mono fun r u h => ?_
        rintro q rfl
        exact h.2
      exact replaced.pass fun _ _ _ => nofun

theorem not_refusal_of_system {p : Problem} (h : p.isSystem) : p.isRefusal = false := by
  cases p with
  | system trouble message => rfl
  | _ => cases h

theorem run_refused {r : Request} {p : Problem} {t : Session} (h : r.run ids s = .error p t)
    (refusal : p.isRefusal) : t = s ∧ r.loads s = .error p := by
  have first : LoadsFirst (r.loads s) (r.run ids) s := loadsFirst_run r s
  cases loaded : r.loads s with
  | error q =>
      rw [loaded] at first
      obtain ⟨same, unchanged⟩ := Ends.of_error first h
      cases same
      exact ⟨unchanged, rfl⟩
  | ok _ =>
      rw [loaded] at first
      have system := Ends.of_error first h p rfl
      rw [not_refusal_of_system system] at refusal
      cases refusal

theorem leaves_of_refused {r : Request} (h : r.refused ids s) : r.leaves ids s = s := by
  unfold refused at h
  unfold leaves
  cases ended : r.run ids s with
  | ok _ t => simp [ended] at h
  | error p t =>
      rw [ended] at h
      exact (run_refused ended h).1

theorem refused_iff (r : Request) (s : Session) :
    r.refused ids s ↔ ∃ p, r.loads s = .error p ∧ p.isRefusal := by
  have first : LoadsFirst (r.loads s) (r.run ids) s := loadsFirst_run r s
  constructor
  · intro refused
    unfold Request.refused at refused
    cases ended : r.run ids s with
    | ok _ t => simp [ended] at refused
    | error p t =>
        rw [ended] at refused
        exact ⟨p, (run_refused ended refused).2, refused⟩
  · rintro ⟨p, loaded, refusal⟩
    rw [loaded] at first
    unfold refused
    rw [Ends.eq_error first]
    exact refusal

end Request

theorem Event.leaves_of_refused {e : Event} (h : e.refused ids s) : e.leaves ids s = s := by
  cases e with
  | request r => exact Request.leaves_of_refused h
  | surroundings around => cases h

theorem after_unrefused (ids : Nat → String) (history : List Event) (s : Session) :
    after ids (unrefused ids history s) s = after ids history s := by
  induction history generalizing s with
  | nil => rfl
  | cons e rest ih =>
      rw [unrefused, after]
      by_cases refused : e.refused ids s
      · rw [if_pos refused, Event.leaves_of_refused refused, ih]
      · rw [if_neg refused, after, ih]

/-- Whatever has happened to a session, a request that fails to configure it leaves it as it was: its
manager, the manager's file and settings, and the setup of logging. A request fails so exactly if the
settings that it has to load are refused, and a history comes to the same without all requests that
are refused in it. -/
theorem refusal_changes_nothing (ids : Nat → String) (history : List Event) (start : Session) :
    (∀ (r : Request) (p : Problem) (t : Session),
      r.run ids (after ids history start) = .error p t → p.isRefusal →
        t = after ids history start) ∧
    (∀ r : Request, r.refused ids (after ids history start) ↔
      ∃ p, r.loads (after ids history start) = .error p ∧ p.isRefusal) ∧
    after ids (unrefused ids history start) start = after ids history start := by
  refine ⟨fun r p t ended refusal => ?_, fun r => r.refused_iff _, after_unrefused ids history start⟩
  exact (Request.run_refused ended refusal).1

/-- An empty disk, and a variable that names a port. -/
def withPort (port : String) : Surroundings :=
  { disk := { workingFolder := "/work", home := "/home/a" }
    environment := [("CCTRACK_BIND_PORT", port)] }

/-- The port is no longer a number when the settings are loaded again. -/
theorem refusal_changes_nothing_reloading :
    let ids := fun _ => "c"
    let start : Session := { surroundings := withPort "9" }
    let history : List Event := [.request (.start none), .surroundings (withPort "many")]
    ∃ p t, Request.reload.run ids (after ids history start) = .error p t ∧ p.isRefusal ∧
      t = after ids history start ∧ (t.manager.map fun m => m.settings.network.bindPort) = some 9 := by
  intro ids start history
  have refused : (match Request.reload.run ids (after ids history start) with
      | .ok _ _ => false
      | .error p t => p.isRefusal &&
          decide ((t.manager.map fun m => m.settings.network.bindPort) = some 9)) = true := by
    decide +kernel
  cases ended : Request.reload.run ids (after ids history start) with
  | ok _ t =>
      rw [ended] at refused
      cases refused
  | error p t =>
      rw [ended] at refused
      obtain ⟨refusal, kept⟩ := Bool.and_eq_true_iff.1 refused
      have same := (refusal_changes_nothing ids history start).1 .reload p t ended refusal
      exact ⟨p, t, rfl, refusal, same, of_decide_eq_true kept⟩

end Session

end ContentTracker
