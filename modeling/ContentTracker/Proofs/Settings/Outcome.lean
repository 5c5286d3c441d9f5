import ContentTracker.Proofs.Settings.Fields
import ContentTracker.Proofs.Settings.Loading
import ContentTracker.Proofs.Settings.Refusal
import ContentTracker.Proofs.Text.Utf8
import Mathlib.Algebra.Order.Ring.Rat

/-! How loading settings ends. A file that is legible gives settings that obey every rule, or is
refused; only a file whose octets are no text, or on which the reader trips, ends it otherwise. -/

namespace ContentTracker

namespace Binary64

/-- A finite number above zero and at most `limit`. -/
def Within (limit : Nat) (x : Binary64) : Prop := ∃ q, x.toRat? = some q ∧ 0 < q ∧ q ≤ limit

theorem le_of_toRat? {x y : Binary64} {p q : Rat} (first : x.toRat? = some p)
    (second : y.toRat? = some q) : x.le y = decide (p ≤ q) := by
  cases x with
  | finite n m e =>
      cases y with
      | finite k l f =>
          have value : (finite n m e).le (finite k l f) = decide
              ((finite n m e).toRat?.getD 0 ≤ (finite k l f).toRat?.getD 0) := rfl
          rw [value, first, second, Option.getD_some, Option.getD_some]
      | _ => cases second
  | _ => cases first

/-- A number between two finite ones is finite. -/
theorem toRat?_of_between {low x high : Binary64} {p q : Rat} (bottom : low.toRat? = some p)
    (top : high.toRat? = some q) (above : low.le x) (below : x.le high) :
    ∃ r, x.toRat? = some r := by
  cases x with
  | nan => cases below
  | infinite negative =>
      cases low with
      | finite n m e =>
          cases high with
          | finite k l f =>
              cases negative with
              | false => exact absurd below Bool.false_ne_true
              | true => exact absurd above Bool.false_ne_true
          | _ => cases top
      | _ => cases bottom
  | finite n m e => exact ⟨_, rfl⟩

end Binary64

/-- Settings that obey the rules of all fields. -/
structure Settings.Valid (s : Settings) : Prop where
  connectTimeout : s.network.connectTimeout.Within 300
  readTimeout : s.network.readTimeout.Within 3600
  bindPort : 0 ≤ s.network.bindPort ∧ s.network.bindPort ≤ 65535
  defaultTracker : ∀ text ∈ s.tracker.defaultTracker, PeerId.Spelled text
  meaningful : s.Meaningful

namespace Settings

theorem within_of_positiveUpTo {limit : Nat}
    (exact : (Binary64.ofInt limit).toRat? = some (limit : Rat)) {x y : Binary64}
    (h : positiveUpTo limit x = .ok y) : y.Within limit := by
  have zero : (Binary64.ofInt 0).toRat? = some 0 := by decide +kernel
  unfold positiveUpTo at h
  split at h
  · cases h
  split at h
  · cases h
  next most positive =>
    cases h
    rw [Bool.not_eq_true, Bool.not_eq_false', Binary64.lt, Bool.and_eq_true,
      Bool.not_eq_true'] at positive
    rw [Bool.not_eq_true, Bool.not_eq_false'] at most
    obtain ⟨q, value⟩ := Binary64.toRat?_of_between zero exact positive.1 most
    rw [Binary64.le_of_toRat? value exact] at most
    rw [Binary64.le_of_toRat? value zero] at positive
    exact ⟨q, value, not_le.1 (of_decide_eq_false positive.2), of_decide_eq_true most⟩

theorem range_of_withinLimit {limit : Nat} {n m : Int} (h : withinLimit limit n = .ok m) :
    0 ≤ m ∧ m ≤ limit := by
  unfold withinLimit at h
  split at h
  · cases h
  split at h
  · cases h
  next most least =>
    cases h
    omega

theorem Checked.of_bind {α β : Type} {x : Checked α} {f : α → Checked β} {b : β}
    (h : x.bind f = .ok b) : ∃ a, x = .ok a ∧ f a = .ok b := by
  cases x with
  | error es => cases h
  | ok a => exact ⟨a, rfl, h⟩

theorem within_of_decimal {limit : Nat}
    (exact : (Binary64.ofInt limit).toRat? = some (limit : Rat)) (v : Value) (x : Binary64)
    (h : (toDecimal v).bind (positiveUpTo limit) = .ok x) : x.Within limit := by
  obtain ⟨_, _, checked⟩ := Checked.of_bind h
  exact within_of_positiveUpTo exact checked

theorem valid_of_table {t : Table} {s : Settings} (h : ofTable t = .ok s) : s.Valid := by
  have sections := sections_of_table h
  have network := NetworkSettings.fields_of_table sections.network
  have tracker := TrackerSettings.fields_of_table sections.tracker
  have ten : Binary64.Within 300 (.ofInt 10) := ⟨10, by decide +kernel⟩
  have thirty : Binary64.Within 3600 (.ofInt 30) := ⟨30, by decide +kernel⟩
  exact {
    connectTimeout := holds_of_field ten (within_of_decimal (by decide +kernel))
      network.connectTimeout
    readTimeout := holds_of_field thirty (within_of_decimal (by decide +kernel)) network.readTimeout
    bindPort := holds_of_field (P := fun n : Int => 0 ≤ n ∧ n ≤ 65535) (by decide)
      (fun v n h => (Checked.of_bind h).elim fun _ both => range_of_withinLimit both.2)
      network.bindPort
    defaultTracker := holds_of_field (P := fun node => ∀ text ∈ node, PeerId.Spelled text)
      (by rintro _ ⟨⟩) (fun _ _ => spelled_of_optionalNode) tracker.defaultTracker
    meaningful := meaningful_of_table h }

/-- The text that the octets of a file are read as. -/
def fileText (text : String) : String := String.ofList (unifyLineEnds text.toList)

/-- Octets that are text, in which the reader finds faults of form at most. -/
def Legible (content : Octets) : Prop := ∃ text, Utf8.decode content = .ok text ∧
  ∀ fault, Toml.read (fileText text) = .error fault → fault = .malformed

/-- What a fault of the reader is told as. -/
def faultProblem (p : Path) : Toml.Fault → Problem
  | .malformed => loadProblem p
  | .badType message => .badType message
  | .badIndex message => .badIndex message

section Reading

variable {d : Disk} {p : Path} {content : Octets}

theorem readFile_of_text (found : d.entry? p.place = some (.file content)) {text : String}
    (decoded : Utf8.decode content = .ok text) :
    readFile d p = (Toml.read (fileText text)).mapError (faultProblem p) := by
  unfold readFile
  rw [found]
  dsimp only
  rw [decoded]
  dsimp only
  unfold fileText
  cases Toml.read (String.ofList (unifyLineEnds text.toList)) with
  | ok t => rfl
  | error fault => cases fault <;> rfl

theorem readFile_of_octets (found : d.entry? p.place = some (.file content)) {fault : Utf8.Fault}
    (decoded : Utf8.decode content = .error fault) : readFile d p = .error (.badText fault) := by
  unfold readFile
  rw [found]
  dsimp only
  rw [decoded]

theorem readFile_of_legible
    (legible : ∀ content, d.entry? p.place = some (.file content) → Legible content) :
    (∃ t, readFile d p = .ok t) ∨ ∃ problem, readFile d p = .error problem ∧ problem.isRefusal := by
  cases found : d.entry? p.place with
  | none => exact .inr ⟨_, by rw [readFile, found], rfl⟩
  | some entry =>
      cases entry with
      | folder => exact .inr ⟨_, by rw [readFile, found], rfl⟩
      | file content =>
          obtain ⟨text, decoded, formal⟩ := legible content found
          rw [readFile_of_text found decoded]
          cases read : Toml.read (fileText text) with
          | ok t => exact .inl ⟨t, rfl⟩
          | error fault =>
              rw [formal fault read]
              exact .inr ⟨loadProblem p, rfl, rfl⟩

end Reading

theorem load_of_readFile_error {s : Surroundings} {p : Path} {problem : Problem}
    (read : readFile s.disk p = .error problem) : load s (some p) = .error problem := by
  unfold load
  simp only [read]
  rfl

/-- What was read is accepted, and then obeys every rule, or it is refused. -/
theorem load_of_reads_ends {s : Surroundings} {file : Option Path} {table : Table}
    (reads : Reads s.disk table file) :
    (∃ settings, load s file = .ok settings ∧ settings.Valid) ∨
      ∃ problem, load s file = .error problem ∧ problem.isRefusal := by
  rw [load_of_reads reads]
  cases accepted : ofTable (gather table s.environment) with
  | ok settings => exact .inl ⟨settings, rfl, valid_of_table accepted⟩
  | error errors => exact .inr ⟨.misconfigured errors, rfl, rfl⟩

/-- Loading ends in one of two ways, whatever stands in the settings file and in the environment: with
settings that obey the rules of all fields, or refused as a failure of configuration. This holds without
a file, and with a file that is missing, a folder, or legible. A file whose octets are no text, or that
makes the reader trip over something other than its form, ends it with that problem, which is no failure
of configuration. -/
theorem load_ends (s : Surroundings) (file : Option Path) :
    ((∀ p ∈ file, ∀ content, s.disk.entry? p.place = some (.file content) → Legible content) →
      (∃ settings, load s file = .ok settings ∧ settings.Valid) ∨
        ∃ problem, load s file = .error problem ∧ problem.isRefusal) ∧
    (∀ p ∈ file, ∀ content, s.disk.entry? p.place = some (.file content) →
      (∀ fault, Utf8.decode content = .error fault →
        load s file = .error (.badText fault) ∧ (Problem.badText fault).isRefusal = false) ∧
      ∀ text fault, Utf8.decode content = .ok text → Toml.read (fileText text) = .error fault →
        load s file = .error (faultProblem p fault) ∧
          ((faultProblem p fault).isRefusal ↔ fault = .malformed)) := by
  constructor
  · intro legible
    cases file with
    | none => exact load_of_reads_ends (show Reads s.disk [] none from rfl)
    | some p =>
        obtain ⟨t, read⟩ | ⟨problem, read, refusal⟩ := readFile_of_legible (legible p rfl)
        · exact load_of_reads_ends read
        · exact .inr ⟨problem, load_of_readFile_error read, refusal⟩
  · rintro p ⟨⟩ content found
    refine ⟨fun fault decoded => ?_, fun text fault decoded read => ?_⟩
    · exact ⟨load_of_readFile_error (readFile_of_octets found decoded), rfl⟩
    · refine ⟨load_of_readFile_error ?_, ?_⟩
      · rw [readFile_of_text found decoded, read]
        rfl
      · cases fault with
        | malformed => exact iff_of_true rfl rfl
        | _ => exact iff_of_false nofun nofun

/-- A settings file with these octets. -/
def withFile (content : Octets) : Surroundings :=
  { disk := { workingFolder := "/work", home := "/home/a", files := [(["work", "a.toml"], content)] } }

/-- A file with a port out of range is refused, and one with an octet that no text has ends loading
with that fault. -/
theorem load_ends_apart :
    let file : Option Path := some ⟨"a.toml", ["work", "a.toml"]⟩
    let port : Octets := Utf8.encode "[network]\nbind_port = 70000\n"
    (∃ problem, load (withFile port) file = .error problem ∧ problem.isRefusal) ∧
      ∃ fault, load (withFile [0xff]) file = .error (.badText fault) := by
  intro file port
  constructor
  · have read : (Toml.read (fileText "[network]\nbind_port = 70000\n")).isOk := by decide +kernel
    have refused : (load (withFile port) file).isOk = false := by decide +kernel
    have legible : ∀ p ∈ file, ∀ content,
        (withFile port).disk.entry? p.place = some (.file content) → Legible content := by
      intro p named content found
      obtain rfl : ⟨"a.toml", ["work", "a.toml"]⟩ = p := Option.some.inj named
      obtain rfl : content = port := by
        have there : (withFile port).disk.entry? ["work", "a.toml"] = some (.file port) := by rfl
        rw [there] at found
        cases found
        rfl
      refine ⟨_, Utf8.decode_encode _, fun fault faulty => ?_⟩
      rw [faulty] at read
      cases read
    obtain ⟨settings, loaded, _⟩ | ended := (load_ends (withFile port) file).1 legible
    · rw [loaded] at refused
      cases refused
    · exact ended
  · have faulty : (Utf8.decode [0xff]).isOk = false := by decide +kernel
    cases decoded : Utf8.decode [0xff] with
    | ok text =>
        rw [decoded] at faulty
        cases faulty
    | error fault =>
        exact ⟨fault, (((load_ends (withFile [0xff]) file).2 _ rfl [0xff] rfl).1 fault decoded).1⟩

end Settings

end ContentTracker
