import ContentTracker.Proofs.Settings.Accepted
import ContentTracker.Proofs.Settings.Identity
import ContentTracker.Proofs.Settings.Overlay
import ContentTracker.Proofs.Toml.LineEnds

/-! Settings that are exported, put in a file and loaded again. -/

namespace ContentTracker

/-! Files that were written. -/

namespace Disk

variable {d : Disk} {place : Place} (content : Octets)

theorem isFolder_write {p : Place} (there : d.isFolder p) :
    (d.write place (some content)).isFolder p := by
  simp only [isFolder, write, workingPlace, Bool.or_eq_true, List.any_eq_true] at there ⊢
  obtain (around | ⟨q, made, inside⟩) | ⟨file, listed, inside⟩ := there
  · exact .inl (.inl around)
  · exact .inl (.inr ⟨q, List.mem_append_left _ made, inside⟩)
  · by_cases same : file.1 = place
    · exact .inr ⟨(place, content), List.mem_append_right _ (.head _), same ▸ inside⟩
    · refine .inr ⟨file, List.mem_append_left _ (List.mem_filter.2 ⟨listed, ?_⟩), inside⟩
      exact decide_eq_true same

theorem standing?_write : (d.write place (some content)).standing? place = some (.file content) := by
  have missing : (d.write place none).files.lookup place = none := by
    refine List.lookup_eq_none_iff.2 fun file listed => ?_
    have other : file.1 ≠ place := of_decide_eq_true (List.mem_filter.1 listed).2
    exact bne_iff_ne.2 other.symm
  have files : (d.write place (some content)).files =
      (d.write place none).files ++ [(place, content)] := rfl
  rw [standing?, files, List.lookup_append, missing, Option.none_or, List.lookup_cons_self]

/-- A file that was written is found by every path that leads to it. -/
theorem entry?_write {p : Place} (leads : d.follow? [] p = some place) :
    Disk.entry? (d.write place (some content)) p = some (.file content) :=
  Option.bind_eq_some_iff.2
    ⟨place, follow?_of_folders (fun _ => isFolder_write content) leads, standing?_write content⟩

end Disk

namespace Toml

/-- The data of a table is given back when its settings file is written and read. -/
def Restores (t : Table) : Prop :=
  ∃ text u, write? t = some text ∧ read text = .ok u ∧ (Value.dict u).Same (.dict t)

/-- Restoring can be tested on the lines of the file. -/
theorem restores_of_test {t : Table} {lines : List String}
    (written : write? t = some (String.join lines))
    (same : ((readChars (lines.flatMap String.toList)).toOption.map fun u =>
      (Value.dict u).same? (.dict t)) = some true) : Restores t := by
  have chars : read (String.join lines) = readChars (lines.flatMap String.toList) := by
    rw [read, String.toList_join]
  cases found : readChars (lines.flatMap String.toList) with
  | error fault =>
      rw [found] at same
      cases same
  | ok u =>
      rw [found] at same
      exact ⟨_, u, written, chars.trans found, Value.same_of_test (Option.some.inj same)⟩

end Toml

namespace Settings

open Toml in
theorem timeless_exported (s : Settings) : entriesTimeless s.exported := by
  have present (t : Table) (timeless : entriesTimeless t) : entriesTimeless (present t) :=
    entriesTimeless_iff.2 fun entry member =>
      entriesTimeless_iff.1 timeless entry (List.mem_of_mem_filter member)
  have text (o : Option String) : isTimeless (.ofText? o) := by cases o <;> rfl
  have addresses : entriesTimeless s.tracker.addressTable := by
    refine entriesTimeless_iff.2 fun entry member => ?_
    obtain ⟨listed, _, rfl⟩ := List.mem_map.1 member
    exact areTimeless_texts listed.2
  have network : entriesTimeless s.network.table := by
    simp [NetworkSettings.table, entriesTimeless, isTimeless, text]
  have tracker : entriesTimeless s.tracker.table := by
    simp [TrackerSettings.table, entriesTimeless, isTimeless, text, addresses]
  have identity : entriesTimeless s.identity.table := by
    simp [IdentitySettings.table, entriesTimeless, text]
  have observability : entriesTimeless s.observability.table := by
    simp [ObservabilitySettings.table, entriesTimeless, isTimeless, text]
  simp [exported, entriesTimeless, isTimeless, present, network, tracker, identity, observability]

/-- Settings whose exported data is given back are loaded from the file that holds it, by any path that
leads to the file. -/
theorem load_of_restores {s : Settings} (valid : s.Valid) {text : String} {u : Table}
    (written : Toml.write? s.exported = some text) (read : Toml.read text = .ok u)
    (same : (Value.dict u).Same (.dict s.exported)) {d : Disk} {environment : List (String × String)}
    {p : Path} {place : Place} (leads : d.follow? [] p.place = some place)
    (unset : ∀ var ∈ knownVariables, environment.lookup var.name = none) :
    ∃ loaded, load ⟨d.write place (some (Utf8.encode text)), environment⟩ (some p) = .ok loaded ∧
      loaded.Equals s := by
  obtain ⟨loaded, accepted, equal⟩ := ofTable_of_same valid same
  have unified : fileText text = text := by
    rw [fileText, unifyLineEnds_write (timeless_exported s) written, String.ofList_toList]
  have found : Reads (d.write place (some (Utf8.encode text))) u (some p) := by
    rw [Reads, readFile_of_text (Disk.entry?_write _ leads) (Utf8.decode_encode text), unified, read]
    rfl
  have bare : gather u environment = u := gather_of_unset u environment fun var known => by
    rw [Variable.given?, unset var known]
    rfl
  refine ⟨loaded, ?_, equal⟩
  rw [load_of_reads found, bare, accepted]
  rfl

/-- Settings in which the id of the node is filled in if there is none. -/
def filled (s : Settings) (fresh : PeerId) : Settings :=
  { s with identity := ⟨some (s.identity.nodeId.getD fresh.text)⟩ }

theorem valid_filled {s : Settings} (valid : s.Valid) (fresh : PeerId) : (s.filled fresh).Valid := by
  refine { valid with meaningful := { valid.meaningful with node := ?_ } }
  rintro _ ⟨⟩
  cases set : s.identity.nodeId with
  | none => exact ⟨fresh, fresh.parse_text⟩
  | some text => exact valid.meaningful.node text set

theorem nodeId_fills {s : Settings} (valid : s.Valid) (file : Option Path) (fresh : PeerId) :
    ∃ node, Manager.nodeId ⟨file, s⟩ fresh = .ok (node, ⟨file, s.filled fresh⟩) := by
  unfold Manager.nodeId filled
  dsimp only
  cases set : s.identity.nodeId with
  | none => exact ⟨fresh, rfl⟩
  | some text =>
      obtain ⟨node, parsed⟩ := valid.meaningful.node text set
      have same : s = { s with identity := ⟨some text⟩ } := by rw [← set]
      refine ⟨node, ?_⟩
      dsimp only [Option.getD_some]
      rw [Manager.parseNode, parsed, ← same]
      rfl

theorem exportText_toml {m : Manager} {text : String}
    (written : Toml.write? m.settings.exported = some text) : m.exportText "toml" = .ok text := by
  have named : String.ofList ("toml".toList.map Numeral.lowerAscii) = "toml" := by decide
  rw [Manager.exportText, named, written]
  rfl

/-- Settings that were accepted are exported as a settings file, as they are and with the id of the node
filled in. When such a file is loaded again, by any path that leads to it and with no variable set,
settings come back that equal those exported, provided that the reader gives back what the writer was
given. -/
theorem load_exported {t : Table} {s : Settings} (accepted : ofTable t = .ok s) (file : Option Path)
    (fresh : PeerId) :
    (∃ node, Manager.nodeId ⟨file, s⟩ fresh = .ok (node, ⟨file, s.filled fresh⟩)) ∧
      ∀ m ∈ [Manager.mk file s, ⟨file, s.filled fresh⟩], Toml.Restores m.settings.exported →
        ∃ text, m.exportText "toml" = .ok text ∧
          ∀ (d : Disk) (environment : List (String × String)) (p : Path) (place : Place),
            d.follow? [] p.place = some place →
            (∀ var ∈ knownVariables, environment.lookup var.name = none) →
            ∃ loaded, load ⟨d.write place (some (Utf8.encode text)), environment⟩ (some p) =
              .ok loaded ∧ loaded.Equals m.settings := by
  have valid := valid_of_table accepted
  refine ⟨nodeId_fills valid file fresh, fun m among restores => ?_⟩
  have obeys : m.settings.Valid := by
    rcases List.mem_pair.1 among with rfl | rfl
    · exact valid
    · exact valid_filled valid fresh
  obtain ⟨text, u, written, read, same⟩ := restores
  refine ⟨text, ?_, fun d environment p place leads unset => ?_⟩
  · exact exportText_toml written
  · exact load_of_restores obeys written read same leads unset

/-- Settings with an address table, some of them not set. -/
def withAddresses : Settings where
  network := { bindPort := 4433 }
  tracker := { addresses := [(String.ofList (List.replicate 52 'a'), ["[::1]:81"])] }
  observability := { logFile := some "a\r.log" }

/-- The lines of the file in which they are exported once an id of the node is filled in. -/
def addressesFile : List String :=
  ["[network]\n", "connect_timeout = 10.0\n", "read_timeout = 30.0\n", "bind_port = 4433\n", "\n",
    "[identity]\n", "node_id = \"aaaaaaaaaaaaaaaaaaaaaaaaaaaaaaaaaaaaaaaaaaaaaaaaaaaa\"\n", "\n",
    "[observability]\n", "log_level = \"INFO\"\n", "log_file = \"a\\r.log\"\n",
    "structured_logging = true\n", "log_correlation_id = true\n", "\n", "[tracker.addresses]\n",
    "aaaaaaaaaaaaaaaaaaaaaaaaaaaaaaaaaaaaaaaaaaaaaaaaaaaa = [ \"[::1]:81\",]\n"]

/-- The settings come back from the file in which they are exported with an id that was drawn. -/
theorem load_exported_addresses :
    let node : PeerId := ⟨⟨List.replicate 32 0, List.length_replicate⟩⟩
    let d : Disk := { workingFolder := "/work", home := "/home/a" }
    ∃ text loaded, Manager.exportText ⟨none, withAddresses.filled node⟩ "toml" = .ok text ∧
      load ⟨d.write ["work", "a.toml"] (some (Utf8.encode text)), []⟩
        (some ⟨"a.toml", ["work", "a.toml"]⟩) = .ok loaded ∧
      loaded.Equals (withAddresses.filled node) := by
  intro node d
  have accepted : ofTable withAddresses.exported = .ok withAddresses := by decide +kernel
  have written : Toml.write? (withAddresses.filled node).exported =
      some (String.join addressesFile) := by decide +kernel
  have restores := Toml.restores_of_test written (by decide +kernel)
  obtain ⟨text, exported, loads⟩ := (load_exported accepted none node).2 _ (.tail _ (.head _)) restores
  obtain ⟨loaded, read, equal⟩ := loads d [] ⟨"a.toml", ["work", "a.toml"]⟩ _ rfl fun _ _ => rfl
  exact ⟨text, loaded, exported, read, equal⟩

end Settings

end ContentTracker
