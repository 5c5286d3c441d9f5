import ContentTracker.Proofs.Logging.Journal
import ContentTracker.Proofs.Logging.Markup
import ContentTracker.Proofs.Logging.Template
import ContentTracker.Proofs.Table

/-! The lines of a log file that is not structured, letter by letter. The correlation id stands in them
in brackets, which style tags do too: an id that reads as a tag is taken out with the tags. -/

namespace ContentTracker

theorem Table.find?_foldl_put {fields : Table} (once : (fields.map Prod.fst).Nodup) (t : Table)
    (key : String) :
    (fields.foldl (fun t (k, v) => t.put k v) t).find? key =
      (fields.find? key).or (t.find? key) := by
  induction fields generalizing t with
  | nil => rfl
  | cons entry rest ih =>
      obtain ⟨k, v⟩ := entry
      obtain ⟨fresh, later⟩ := List.nodup_cons.1 once
      rw [List.foldl_cons, ih later, find?_cons, find?_put]
      by_cases here : key = k
      · rw [if_pos here, if_pos here, find?_eq_none_of_not_mem (here ▸ fresh)]
        rfl
      · rw [if_neg here, if_neg here]

namespace Logging

namespace Record

variable {r : Record}

theorem checkFields_eq_ok {fields : Table} : checkFields fields = .ok () ↔
    ∀ name ∈ reserved, name ∉ fields.map Prod.fst := by
  unfold checkFields
  cases found : List.find? (fun e => reserved.contains e.1) fields with
  | none =>
      refine iff_of_true rfl fun name taken member => ?_
      obtain ⟨e, there, rfl⟩ := List.mem_map.1 member
      exact List.find?_eq_none.1 found e there (List.contains_iff_mem.2 taken)
  | some e =>
      refine iff_of_false nofun fun free => ?_
      exact free e.1 (List.contains_iff_mem.1 (List.find?_some found :))
        (List.mem_map_of_mem (List.mem_of_find?_eq_some found))

/-- An attribute is a field, or else a part of the record. -/
theorem find?_attributes (once : (r.fields.map Prod.fst).Nodup) (name : String) :
    r.attributes.find? name = (r.fields.find? name).or (r.parts.find? name) :=
  Table.find?_foldl_put once r.parts name

theorem find?_reserved (once : (r.fields.map Prod.fst).Nodup) (checked : checkFields r.fields = .ok ())
    {name : String} (taken : name ∈ reserved) : r.attributes.find? name = r.parts.find? name := by
  rw [find?_attributes once, Table.find?_eq_none_of_not_mem (checkFields_eq_ok.1 checked name taken),
    Option.none_or]

theorem message_of_checked (once : (r.fields.map Prod.fst).Nodup)
    (checked : checkFields r.fields = .ok ()) :
    r.message = Template.message r.template r.args := by
  have bare : r.fields.find? "args" = none :=
    Table.find?_eq_none_of_not_mem (checkFields_eq_ok.1 checked _ (by decide))
  have template : r.get "msg" = .text r.template := by
    rw [get, find?_reserved once checked (by decide)]
    rfl
  rw [message, bare, template]
  rfl

theorem checkFields_mark (checked : checkFields r.fields = .ok ()) (id : Value) :
    checkFields (r.mark id).fields = .ok () := by
  rw [checkFields_eq_ok] at checked ⊢
  intro name taken member
  obtain rfl | old := (Table.keys_put r.fields correlationField id).1 member
  · revert taken
    decide
  · exact checked name taken old

theorem nodup_mark (once : (r.fields.map Prod.fst).Nodup) (id : Value) :
    ((r.mark id).fields.map Prod.fst).Nodup := Table.nodup_put once _ _

theorem message_mark (once : (r.fields.map Prod.fst).Nodup) (checked : checkFields r.fields = .ok ())
    (id : Value) : (r.mark id).message = r.message := by
  rw [message_of_checked (nodup_mark once id) (checkFields_mark checked id),
    message_of_checked once checked]
  rfl

theorem find?_mark (once : (r.fields.map Prod.fst).Nodup) (id : Value) :
    (r.mark id).attributes.find? correlationField = some id := by
  have marked : (r.mark id).fields.find? correlationField = some id := Table.find?_put_self _ _ _
  rw [find?_attributes (nodup_mark once id), marked, Option.some_or]

/-- What a plain line tells behind the correlation id, before style tags are taken out. -/
def behindId (r : Record) (text : String) : String :=
  LineFormat.withTrace (" " ++ r.logger ++ "." ++ r.function ++ ": " ++ text) r.trace

/-- The correlation id as a plain line shows it. -/
def shownId (id : String) : String :=
  if Markup.opensTag id.toList then "" else "[" ++ id ++ "]"

/-- The plain line of a record with a message, logged under a correlation id. -/
def simpleLine (r : Record) (id text : String) : String :=
  r.stamp ++ " " ++ r.severity.name ++ " " ++ shownId id ++ Markup.strip (r.behindId text)

end Record

namespace LineFormat

open Template (Fills)

/-- The letters of a plain line before style tags are taken out. -/
def simpleLetters (stamp level id logger function text : String) : List Char :=
  stamp.toList ++ ' ' :: (level.toList ++ ' ' :: '[' :: (id.toList ++ ']' :: ' ' ::
    (logger.toList ++ '.' :: (function.toList ++ ':' :: ' ' :: (text.toList ++ [])))))

theorem fills_simple {t : Table} {stamp level id logger function text : String} {value : Value}
    (stampFound : t.find? "asctime" = some (.text stamp))
    (levelFound : t.find? "levelname" = some (.text level))
    (idFound : t.find? "correlation_id" = some value) (shown : value.written Value.plain = .ok id)
    (loggerFound : t.find? "name" = some (.text logger))
    (functionFound : t.find? "funcName" = some (.text function))
    (textFound : t.find? "message" = some (.text text)) :
    Fills t simple.template.toList (simpleLetters stamp level id logger function text) := by
  have spelled : simple.template.toList =
      '%' :: '(' :: ("asctime".toList ++ ')' :: 's' :: ' ' ::
      '%' :: '(' :: ("levelname".toList ++ ')' :: 's' :: ' ' :: '[' ::
      '%' :: '(' :: ("correlation_id".toList ++ ')' :: 's' :: ']' :: ' ' ::
      '%' :: '(' :: ("name".toList ++ ')' :: 's' :: '.' ::
      '%' :: '(' :: ("funcName".toList ++ ')' :: 's' :: ':' :: ' ' ::
      '%' :: '(' :: ("message".toList ++ ')' :: 's' :: [])))))) := by decide
  rw [spelled]
  refine .part (by decide) (by decide) stampFound rfl (.letter (by decide) ?_)
  refine .part (by decide) (by decide) levelFound rfl (.letter (by decide) (.letter (by decide) ?_))
  refine .part (by decide) (by decide) idFound shown (.letter (by decide) (.letter (by decide) ?_))
  refine .part (by decide) (by decide) loggerFound rfl (.letter (by decide) ?_)
  refine .part (by decide) (by decide) functionFound rfl (.letter (by decide) (.letter (by decide) ?_))
  exact .part (by decide) (by decide) textFound rfl .nil

theorem not_mem_name (severity : Severity) : '[' ∉ severity.name.toList := by
  cases severity <;> decide

variable {r : Record}

/-- Whether a trace begins a line of its own depends on the end of the line only. -/
theorem withTrace_append (front : String) {line : String} (some : line.toList ≠ [])
    (trace : Option String) : withTrace (front ++ line) trace = front ++ withTrace line trace := by
  cases trace with
  | none => rfl
  | some t =>
      have ending : (front ++ line).toList.getLast? = line.toList.getLast? := by
        rw [String.toList_append, List.getLast?_append, List.getLast?_eq_some_getLast some,
          Option.some_or]
      rw [withTrace, withTrace, ending]
      split
      · exact String.append_assoc
      · rw [String.append_assoc, String.append_assoc, String.append_assoc]

theorem strip_simple (stamp : '[' ∉ r.stamp.toList) {id : String} (unopened : '[' ∉ id.toList)
    (unclosed : ']' ∉ id.toList) (text : String) :
    Markup.strip (withTrace (String.ofList
        (simpleLetters r.stamp r.severity.name id r.logger r.function text)) r.trace) =
      r.simpleLine id text := by
  -- Nothing before the id has a bracket, so its own is the first one that is looked at.
  have front : '[' ∉ r.stamp.toList ++ ' ' :: (r.severity.name.toList ++ [' ']) := by
    simp [stamp, not_mem_name]
  have parts : String.ofList (simpleLetters r.stamp r.severity.name id r.logger r.function text) =
      (r.stamp ++ " " ++ r.severity.name ++ " [" ++ id ++ "]") ++
        (" " ++ r.logger ++ "." ++ r.function ++ ": " ++ text) := by
    apply String.toList_injective
    simp [simpleLetters]
  have pieces : (withTrace (String.ofList
        (simpleLetters r.stamp r.severity.name id r.logger r.function text)) r.trace).toList =
      (r.stamp.toList ++ ' ' :: (r.severity.name.toList ++ [' '])) ++
        '[' :: (id.toList ++ ']' :: (r.behindId text).toList) := by
    rw [parts, withTrace_append _ (by simp), ← Record.behindId]
    simp
  rw [Markup.strip, pieces, Markup.stripChars_append front,
    Markup.stripChars_bracketed unopened unclosed]
  apply String.toList_injective
  unfold Record.simpleLine Record.shownId Markup.strip
  split <;> simp

/-- The line of a record whose message is formed, under an id that can be written. -/
theorem line_simple (once : (r.fields.map Prod.fst).Nodup)
    (checked : Record.checkFields r.fields = .ok ()) {text : String} (formed : r.message = .ok text)
    (stamp : '[' ∉ r.stamp.toList) {mark : Value} {id : String}
    (shown : mark.written Value.plain = .ok id) (unopened : '[' ∉ id.toList)
    (unclosed : ']' ∉ id.toList) : simple.line (r.mark mark) = .ok (r.simpleLine id text) := by
  have once' := Record.nodup_mark once mark
  have checked' := Record.checkFields_mark checked mark
  have formed' : (r.mark mark).message = .ok text := by
    rw [Record.message_mark once checked, formed]
  -- All other parts keep what the record has, since no field may take their names.
  have part {name : String} (taken : name ∈ Record.reserved) (other : name ≠ "message") :
      ((r.mark mark).attributes.put "message" (.text text)).find? name =
        (r.mark mark).parts.find? name := by
    rw [Table.find?_put_ne _ other, Record.find?_reserved once' checked' taken]
  have fills := fills_simple (part (by decide) (by decide)) (part (by decide) (by decide))
    ((Table.find?_put_ne _ (by decide) _).trans (Record.find?_mark once mark)) shown
    (part (by decide) (by decide)) (part (by decide) (by decide)) (Table.find?_put_self _ _ _)
  have rendered :=
    Template.render_fills fills [.dict ((r.mark mark).attributes.put "message" (.text text))]
  rw [line, formed']
  dsimp only [bind, Except.bind]
  rw [rendered]
  exact congrArg Except.ok (strip_simple stamp unopened unclosed text)

/-- A record without a message has no line. -/
theorem line_eq_error {f : LineFormat} {p : Problem} (unformed : r.message = .error p) :
    f.line r = .error p := by
  rw [line, unformed]
  rfl

end LineFormat

/-- A record that gets a line where lines are written from a level on, and its message. -/
structure Record.Tells (r : Record) (least : Severity) (text : String) : Prop where
  reaches : least.rank ≤ r.severity.rank
  checked : checkFields r.fields = .ok ()
  formed : r.message = .ok text

theorem Record.infix_simpleLine {id : String} (kept : Markup.opensTag id.toList = false) (r : Record)
    (text : String) : ("[" ++ id ++ "]").toList <:+: (r.simpleLine id text).toList := by
  refine ⟨(r.stamp ++ " " ++ r.severity.name ++ " ").toList, (Markup.strip (r.behindId text)).toList, ?_⟩
  rw [simpleLine, shownId, kept, if_neg Bool.false_ne_true, ← String.toList_append,
    ← String.toList_append]

theorem Record.not_mem_simpleLine {r : Record} {id text : String}
    (lost : Markup.opensTag id.toList) (stamp : '[' ∉ r.stamp.toList)
    (plain : '[' ∉ (r.behindId text).toList) : '[' ∉ (r.simpleLine id text).toList := by
  have same := Markup.stripChars_append plain []
  rw [List.append_nil, Markup.stripChars, List.append_nil] at same
  rw [simpleLine, shownId, if_pos lost, Markup.strip, same, String.ofList_toList]
  simp [stamp, plain, LineFormat.not_mem_name]

/-- The correlation id that records are marked with is a text, so it can always be written. -/
theorem Setup.written_mark (s : Setup) : s.mark.written Value.plain = .ok s.mark.plain := by
  unfold Setup.mark
  split <;> rfl

namespace Journal

variable {least : Severity} {file : LogFile} {j : Journal} {r : Record}

theorem lines_handAll_console (j : Journal) (r : Record) (level : Severity) :
    (j.handAll r [⟨.console, level⟩]).1.lines = j.lines := by
  rw [handAll]
  split
  · exact lines_hand_console j r level
  · rfl

theorem lines_hand_simple (current : j.setup.current = some file) (r : Record) (level : Severity) :
    (j.hand r ⟨.simple, level⟩).1.lines =
      match LineFormat.simple.line (r.mark j.setup.mark) with
      | .ok line => j.lines ++ [(file, line)]
      | .error _ => j.lines := by
  rw [hand]
  dsimp only
  rw [if_neg nofun, current]
  cases LineFormat.simple.line (r.mark j.setup.mark) <;> rfl

theorem lines_handOut (writes : j.setup.WritesTo .simple least file)
    (reaches : least.rank ≤ r.severity.rank) : (handOut j r).1.lines =
      match LineFormat.simple.line ((timed j r).mark j.setup.mark) with
      | .ok line => j.lines ++ [(file, line)]
      | .error _ => j.lines := by
  have raised : least.rank ≤ (timed j r).severity.rank := reaches
  rw [handOut, writes.handlers, handAll, if_pos raised]
  dsimp only
  rw [lines_handAll_console, lines_hand_simple writes.current]

theorem takes_iff (writes : j.setup.WritesTo .simple least file) :
    j.setup.takes r.severity ↔ least.rank ≤ r.severity.rank := by
  rw [Setup.takes, writes.level, Option.getD_some, decide_eq_true_iff]

theorem message_timed (once : (r.fields.map Prod.fst).Nodup)
    (checked : Record.checkFields r.fields = .ok ()) : (timed j r).message = r.message := by
  rw [Record.message_of_checked once checked,
    Record.message_of_checked (r := timed j r) once checked]
  rfl

theorem lines_after_log (writes : j.setup.WritesTo .simple least file)
    (once : (r.fields.map Prod.fst).Nodup) (stamp : '[' ∉ j.stamp.toList)
    (unopened : '[' ∉ j.setup.mark.plain.toList) (unclosed : ']' ∉ j.setup.mark.plain.toList)
    {text : String} (tells : r.Tells least text) :
    (after (Journal.log r) j).lines =
      j.lines ++ [(file, (timed j r).simpleLine j.setup.mark.plain text)] := by
  have formed : (timed j r).message = .ok text :=
    (message_timed once tells.checked).trans tells.formed
  rw [after_log_of_taken ((takes_iff writes).2 tells.reaches) tells.checked, lines_taking,
    lines_handOut writes tells.reaches,
    LineFormat.line_simple (r := timed j r) once tells.checked formed stamp j.setup.written_mark
      unopened unclosed]

theorem lines_after_log_of_not (writes : j.setup.WritesTo .simple least file)
    (once : (r.fields.map Prod.fst).Nodup) (mute : ∀ text, ¬ r.Tells least text) :
    (after (Journal.log r) j).lines = j.lines := by
  by_cases taken : j.setup.takes r.severity ∧ Record.checkFields r.fields = .ok ()
  · obtain ⟨takes, checked⟩ := taken
    have reaches := (takes_iff writes).1 takes
    rw [after_log_of_taken takes checked, lines_taking, lines_handOut writes reaches]
    cases formed : r.message with
    | ok text => exact absurd ⟨reaches, checked, formed⟩ (mute text)
    | error p =>
        have unformed : ((timed j r).mark j.setup.mark).message = .error p := by
          rw [Record.message_mark (r := timed j r) once checked, message_timed once checked, formed]
        rw [LineFormat.line_eq_error unformed]
  · rw [after_log_of_passed taken]

/-- Once settings that name a log file, and ask for lines that are not structured, are taken, all lines
go to one file, whatever is logged and whichever correlation ids are in use. A record that reaches the
level, whose fields are free and whose message is formed, gets one line, which is known to the letter.
It holds the id in brackets unless that reads as a style tag, and else tells nothing of the id. Any
other record gets no line. -/
theorem log_simpleLine (ids : Nat → String) {o : ObservabilitySettings}
    (simple : o.structuredLogging = false) (named : o.logFile.getD "" ≠ "") {before ready : Journal}
    (configured : configure ids o before = .ok () ready) :
    ∃ file, ∀ (history : List Event) (r : Record), (r.fields.map Prod.fst).Nodup →
      let j := afterAll ids ready history
      let id := j.setup.mark.plain
      let logged := (after (Journal.log r) j).lines
      '[' ∉ j.stamp.toList → '[' ∉ id.toList → ']' ∉ id.toList →
      (∀ text, r.Tells o.logLevel text → ∃ line, logged = j.lines ++ [(file, line)] ∧
        line = (timed j r).simpleLine id text ∧
        (Markup.opensTag id.toList = false → ("[" ++ id ++ "]").toList <:+: line.toList) ∧
        (Markup.opensTag id.toList → '[' ∉ (r.behindId text).toList → '[' ∉ line.toList)) ∧
      ((∀ text, ¬ r.Tells o.logLevel text) → logged = j.lines) := by
  obtain ⟨file, ready⟩ := writesTo_of_configure named configured
  have kind : fileKind o = .simple := by
    rw [fileKind, simple, if_neg Bool.false_ne_true]
  rw [kind] at ready
  refine ⟨file, ?_⟩
  intro history r once j id logged stamp unopened unclosed
  have writes : j.setup.WritesTo .simple o.logLevel file := writesTo_afterAll ids history ready
  refine ⟨fun text tells => ?_, lines_after_log_of_not writes once⟩
  refine ⟨_, lines_after_log writes once stamp unopened unclosed tells, rfl, fun kept => ?_,
    fun lost plain => ?_⟩
  · exact Record.infix_simpleLine kept _ text
  · exact Record.not_mem_simpleLine lost stamp plain

/-- Settings that name a log file, whose lines are not structured. -/
def plainFile : ObservabilitySettings := { logFile := some "x.log", structuredLogging := false }

/-- A log before it is set up. -/
def blank : Journal :=
  { disk := { workingFolder := "/work", home := "/home/a" }, stamp := "2024-01-01 00:00:00" }

/-- An id that begins with a digit stands in the line that is written under it. -/
theorem log_simpleLine_digit :
    let r : Record := { logger := "cctrack.x", severity := .info, template := "[red]seen[/red]" }
    ∃ ready, configure toString plainFile blank = .ok () ready ∧ ∃ file line,
      (after (Journal.log r) (afterAll toString ready [.correlate (some "7bc")])).lines =
        [(file, line)] ∧ "[7bc]".toList <:+: line.toList := by
  intro r
  obtain ⟨setup, disk, accepted⟩ : ∃ setup disk,
      blank.setup.configure toString plainFile blank.disk = .ok setup disk := ⟨_, _, rfl⟩
  have configured : configure toString plainFile blank =
      .ok () { blank with setup := setup, disk := disk } := by
    rw [configure, accepted]
  obtain ⟨file, lines⟩ := log_simpleLine toString rfl (by decide) configured
  have tells : r.Tells plainFile.logLevel "[red]seen[/red]" := ⟨by decide, rfl, rfl⟩
  have stamp : '[' ∉ "2024-01-01 00:00:00".toList := by decide
  have unopened : '[' ∉ "7bc".toList := by decide
  have unclosed : ']' ∉ "7bc".toList := by decide
  have digit : Markup.opensTag "7bc".toList = false := by decide
  obtain ⟨line, logged, _, kept, _⟩ :=
    (lines [.correlate (some "7bc")] r List.nodup_nil stamp unopened unclosed).1 _ tells
  exact ⟨_, configured, file, line, logged, kept digit⟩

example : Markup.opensTag "no-correlation-id".toList := by decide

end Journal

end Logging

end ContentTracker
