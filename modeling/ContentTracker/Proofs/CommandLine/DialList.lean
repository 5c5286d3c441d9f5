import ContentTracker.CommandLine.Program
import ContentTracker.Proofs.Settings.Manager
import ContentTracker.Proofs.Specifier.Announcing

/-! The addresses that a command dials: those of the settings, those given for the tracker and those
in tickets, each once and in the order in which they were given. -/

namespace ContentTracker

/-- The direct addresses that a specifier gives for a host, in wire order. -/
def Specifier.directAt (host : PeerId) : Specifier → List SocketAddress
  | .ticket t => if t.node.node = host then SocketAddress.sorted t.node.direct else []
  | _ => []

namespace Plan

variable {specs : List Specifier} {host : PeerId}

/-- The direct addresses that all specifiers together give for a host. -/
def directAt (specs : List Specifier) (host : PeerId) : List SocketAddress :=
  (specs.flatMap (Specifier.directAt host)).eraseDups

theorem directAt_of_absent (h : host ∉ hosts specs) : directAt specs host = [] := by
  have none : specs.flatMap (Specifier.directAt host) = [] := by
    refine List.flatMap_eq_nil_iff.2 fun s given => ?_
    cases s with
    | ticket t => exact if_neg fun same => h (mem_hosts.2 ⟨_, given, congrArg some same⟩)
    | _ => rfl
  rw [directAt, none, List.eraseDups_nil]

theorem directAt_concat (s : Specifier) :
    directAt (specs ++ [s]) host = mergeAddresses (directAt specs host) (s.directAt host) := by
  have merged := foldl_new (specs.flatMap (Specifier.directAt host)) (s.directAt host)
  rw [directAt, List.flatMap_append, List.flatMap_singleton]
  exact merged.symm

theorem hosts_concat_none {s : Specifier} (none : s.host? = none) :
    hosts (specs ++ [s]) = hosts specs := by
  rw [hosts, List.filterMap_append, List.filterMap_cons_none none, List.filterMap_nil,
    List.append_nil, hosts]

/-- Tickets are gathered under the hosts that they name. -/
theorem ticketAddresses_eq (specs : List Specifier) :
    ticketAddresses specs = (hosts specs).map fun host => (host, directAt specs host) := by
  -- From the end of the list: only a ticket changes the groups, and only that of its host.
  induction specs using List.reverseRecOn with
  | nil => rfl
  | append_singleton specs s ih =>
      rw [ticketAddresses, List.foldl_append, ← ticketAddresses, ih, List.foldl_cons, List.foldl_nil]
      simp only [directAt_concat]
      cases s with
      | hash h =>
          rw [hosts_concat_none rfl]
          rfl
      | address a =>
          rw [hosts_concat_none rfl]
          rfl
      | ticket t =>
          have named : (Specifier.ticket t).host? = some t.node.node := rfl
          have distinct : (hosts specs).Nodup := nodup_eraseDups _
          dsimp only
          rw [Grouped.update_map _ distinct directAt_of_absent, hosts_concat named]
          refine List.map_congr_left fun host _ => ?_
          by_cases same : host = t.node.node
          · rw [if_pos same, Specifier.directAt, if_pos same.symm]
          · rw [if_neg same, Specifier.directAt, if_neg (Ne.symm same)]
            rfl

end Plan

/-- The addresses that specifiers give for a node, in order and with repetitions. -/
def Specifier.dialed (content : List Specifier) (p : PeerId) : List DialAddress :=
  content.flatMap fun s => (s.directAt p).map .ofSocketAddress

namespace CommandLine

variable {book : AddressBook} {given : PeerId → List DialAddress}

theorem lists_tickets (h : book.Lists given) (content : List Specifier) :
    AddressBook.Lists ((Plan.ticketAddresses content).foldl (fun book (peer, addresses) =>
      book.insertAll peer (addresses.map .ofSocketAddress)) book)
        fun p => given p ++ Specifier.dialed content p := by
  intro p
  have distinct : (Plan.hosts content).Nodup := nodup_eraseDups _
  have gathered : ((Plan.ticketAddresses content).flatMap fun k =>
      if k.1 = p then k.2.map DialAddress.ofSocketAddress else []) =
      (Plan.directAt content p).map .ofSocketAddress := by
    rw [Plan.ticketAddresses_eq, List.flatMap_map]
    refine flatMap_key distinct fun missing => ?_
    rw [Plan.directAt_of_absent missing, List.map_nil]
  -- Each host has one group, without repetitions; they would be left out behind the map as well.
  have listed := h.foldl (Plan.ticketAddresses content) Prod.fst
    (fun k => k.2.map DialAddress.ofSocketAddress) (fun _ => rfl) p
  rw [gathered, Plan.directAt, eraseDups_append_map, List.map_flatMap] at listed
  exact listed

theorem lists_given (h : book.Lists given) (tracker : PeerId) {texts : List String}
    (spelled : ∀ text ∈ texts, DialAddress.Spelled text) :
    ∃ filled, texts.foldlM (fun book text =>
        match DialAddress.parse text with
        | .ok a => Except.ok (AddressBook.insertAll book tracker [a])
        | .error fault => .error (Problem.failure (fault.failure text))) book = .ok filled ∧
      filled.Lists fun p => given p ++ if tracker = p then DialAddress.readable texts else [] := by
  refine h.foldlM (fun _ => some tracker) (fun text => (DialAddress.parse text).toOption.toList)
    (fun text listed => ?_) fun p => ?_
  · obtain ⟨a, parsed⟩ := spelled text listed
    refine ⟨tracker, rfl, fun book => ?_⟩
    simp only [parsed, Except.toOption, Option.toList_some]
  · simp only [Option.some_inj]
    by_cases same : tracker = p
    · simp only [if_pos same, DialAddress.readable, List.filterMap_eq_flatMap_toList]
    · simp only [if_neg same, List.flatMap_eq_nil_iff.2 fun _ _ => rfl]

/-- All that a command adds to a book: the addresses given for the tracker, then those in tickets. -/
theorem addBook_lists (h : book.Lists given) (tracker : PeerId) {texts : List String}
    (spelled : ∀ text ∈ texts, DialAddress.Spelled text) (content : List Specifier) :
    ∃ filled, addBook book tracker texts content = .ok filled ∧ filled.Lists fun p =>
      given p ++ (if tracker = p then DialAddress.readable texts else []) ++
        Specifier.dialed content p := by
  obtain ⟨filled, done, lists⟩ := lists_given h tracker spelled
  refine ⟨_, ?_, lists_tickets lists content⟩
  simp only [addBook, bind, Except.bind]
  split
  · next p failed => cases done.symm.trans failed
  · next book' found =>
    cases done.symm.trans found
    rfl

/-- From settings that were accepted and addresses that can be read, the endpoint of a command is made
without fail. Its book lists for each node the addresses that the settings give under any spelling of
the node, then, for the tracker, those of the arguments, then those of the tickets for the node, each
address where it appears first. Those of one ticket that differ in their zones alone come in the order
of the zones' texts, where any order would do; no ticket that was read has such addresses. -/
theorem makeEndpoint_lists {t : Table} {settings : Settings}
    (accepted : Settings.ofTable t = .ok settings) (file : Option Path) (fresh : Fresh)
    (tracker : PeerId) {choices : Choices}
    (readable : ∀ text ∈ choices.trackerAddresses, ∃ a, DialAddress.parse text = .ok a)
    (content : List Specifier) :
    ∃ e kept, makeEndpoint fresh ⟨file, settings⟩ tracker choices content = .ok (e, kept) ∧
      ∀ p, e.book.get p = (settings.tracker.addressesOf p ++
        (if tracker = p then DialAddress.readable choices.trackerAddresses else []) ++
        Specifier.dialed content p).eraseDups := by
  have meaningful := Settings.meaningful_of_table accepted
  obtain ⟨e, kept, made, _, lists⟩ :=
    Manager.endpoint_of_meaningful (m := ⟨file, settings⟩) fresh.node meaningful
  obtain ⟨book, filled, all⟩ := addBook_lists lists tracker readable content
  refine ⟨{ e with book := book, bindPort := choices.bindPort.getD e.bindPort }, kept, ?_, all⟩
  unfold makeEndpoint
  rw [made]
  simp only [bind, Except.bind]
  rw [filled]
  rfl

/-- A table that lists one node under two spellings. -/
def twiceSpelled (p : PeerId) : Table :=
  [("tracker", .dict [("addresses", .dict [
    (String.ofList (p.text.toList.map Char.toUpper), .list [.text "b:2", .text " a:1"]),
    (p.key.octets.toHex, .list [.text "a:1", .text "c:3", .text "b:2"])])])]

/-- The addresses of the table come first, then the new one of the arguments, then the new ones of a
ticket, which does not hold them in their order. -/
theorem makeEndpoint_lists_twice :
    let p : PeerId := ⟨⟨List.replicate 32 7, rfl⟩⟩
    let direct : List SocketAddress := [⟨.v4 127 0 0 1, 9, by decide⟩, ⟨.v4 127 0 0 1, 8, by decide⟩,
      ⟨.v4 10 0 0 1, 9, by decide⟩]
    let content : List Specifier := [.ticket ⟨⟨p, none, direct⟩, ⟨⟨p.key⟩, .raw⟩⟩]
    let choices : Choices := { trackerAddresses := ["c:3", "127.0.0.1:8"] }
    ∃ settings, Settings.ofTable (twiceSpelled p) = .ok settings ∧
      (∀ text ∈ choices.trackerAddresses, ∃ a, DialAddress.parse text = .ok a) ∧
      ∃ e kept, makeEndpoint ⟨fun _ => "", p⟩ ⟨none, settings⟩ p choices content = .ok (e, kept) ∧
        e.book.get p = [⟨"b", 2⟩, ⟨"a", 1⟩, ⟨"c", 3⟩, ⟨"127.0.0.1", 8⟩, ⟨"10.0.0.1", 9⟩,
          ⟨"127.0.0.1", 9⟩] := by
  intro p direct content choices
  have readable : ∀ text ∈ choices.trackerAddresses, ∃ a, DialAddress.parse text = .ok a := by
    intro text given
    simp only [choices, List.mem_cons, List.not_mem_nil, or_false] at given
    obtain rfl | rfl := given
    · exact ⟨⟨"c", 3⟩, by decide +kernel⟩
    · exact ⟨⟨"127.0.0.1", 8⟩, by decide +kernel⟩
  have listed : (match Settings.ofTable (twiceSpelled p) with
      | .ok settings => decide (settings.tracker.addressesOf p =
          [⟨"b", 2⟩, ⟨"a", 1⟩, ⟨"a", 1⟩, ⟨"c", 3⟩, ⟨"b", 2⟩])
      | .error _ => false) = true := by decide +kernel
  cases accepted : Settings.ofTable (twiceSpelled p) with
  | error es =>
      rw [accepted] at listed
      cases listed
  | ok settings =>
      rw [accepted] at listed
      obtain ⟨e, kept, made, lists⟩ :=
        makeEndpoint_lists accepted none ⟨fun _ => "", p⟩ p readable content
      refine ⟨settings, rfl, readable, e, kept, made, ?_⟩
      rw [lists p, of_decide_eq_true listed]
      decide +kernel

end CommandLine

end ContentTracker
