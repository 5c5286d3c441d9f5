import ContentTracker.Proofs.Grouped
import Mathlib.Data.List.Perm.Basic

/-! Planning announcements. Without a host the tickets are grouped by the hosts that they name, and
the groups are told by the list of tickets as a whole: which hosts there are, in which order, and
what content belongs to each. -/

namespace ContentTracker

namespace Plan

/-- The hosts that are named, in order of first appearance. -/
def hosts (specs : List Specifier) : List PeerId := (specs.filterMap Specifier.host?).eraseDups

/-- The content that is named together with a host. -/
def contentAt (specs : List Specifier) (host : PeerId) : ContentSet :=
  .ofList ((specs.filter fun s => s.host? = some host).map Specifier.content)

/-- The content of all hosts. -/
def grouped (specs : List Specifier) : Grouped PeerId ContentSet :=
  (hosts specs).map fun host => (host, contentAt specs host)

theorem mem_hosts {specs : List Specifier} {host : PeerId} :
    host ∈ hosts specs ↔ ∃ s ∈ specs, s.host? = some host := by
  rw [hosts, List.mem_eraseDups, List.mem_filterMap]

theorem mem_contentAt {specs : List Specifier} {host : PeerId} {x : ContentAddress} :
    x ∈ contentAt specs host ↔ ∃ s ∈ specs, s.host? = some host ∧ s.content = x := by
  simp only [contentAt, SortedSet.mem_ofList, List.mem_map, List.mem_filter, decide_eq_true_eq,
    and_assoc]

theorem contentAt_of_absent {specs : List Specifier} {host : PeerId} (h : host ∉ hosts specs) :
    contentAt specs host = .empty := by
  refine SortedSet.eq_of_mem fun x => ?_
  rw [mem_contentAt]
  refine iff_of_false ?_ List.not_mem_nil
  rintro ⟨s, member, named, _⟩
  exact h (mem_hosts.2 ⟨s, member, named⟩)

theorem hosts_concat {specs : List Specifier} {s : Specifier} {host : PeerId}
    (named : s.host? = some host) : hosts (specs ++ [s]) =
      if host ∈ hosts specs then hosts specs else hosts specs ++ [host] := by
  have last : [s].filterMap Specifier.host? = [host] := by
    rw [List.filterMap_cons_some named, List.filterMap_nil]
  rw [hosts, List.filterMap_append, last, eraseDups_concat, hosts]
  simp only [List.mem_eraseDups]

theorem contentAt_concat {specs : List Specifier} {s : Specifier} {host : PeerId}
    (named : s.host? = some host) (other : PeerId) : contentAt (specs ++ [s]) other =
      if other = host then (contentAt specs other).insert s.content
      else contentAt specs other := by
  refine SortedSet.eq_of_mem fun x => ?_
  by_cases same : other = host
  · subst same
    rw [if_pos rfl, SortedSet.mem_insert, mem_contentAt, mem_contentAt]
    simp [named, or_and_right, exists_or, eq_comm, or_comm]
  · rw [if_neg same, mem_contentAt, mem_contentAt]
    simp [named, or_and_right, exists_or, Ne.symm same]

theorem grouped_concat {specs : List Specifier} {s : Specifier} {host : PeerId}
    (named : s.host? = some host) :
    (grouped specs).update host .empty (·.insert s.content) = grouped (specs ++ [s]) := by
  have distinct : (hosts specs).Nodup := nodup_eraseDups _
  rw [grouped, Grouped.update_map _ distinct contentAt_of_absent, grouped, hosts_concat named]
  refine List.map_congr_left fun other _ => ?_
  rw [contentAt_concat named]

theorem host?_eq_some {s : Specifier} {host : PeerId} :
    s.host? = some host ↔ ∃ t, s = .ticket t ∧ t.node.node = host := by
  cases s with
  | hash h => simp [Specifier.host?]
  | address a => simp [Specifier.host?]
  | ticket t => simp [Specifier.host?]

theorem host?_eq_none {s : Specifier} : s.host? = none ↔ ∀ t, s ≠ .ticket t := by
  cases s with
  | hash h => simp [Specifier.host?]
  | address a => simp [Specifier.host?]
  | ticket t => simp [Specifier.host?]

/-- Tickets are grouped one by one, behind those that were grouped before. -/
theorem byHost_tickets {rest : List Specifier} (tickets : ∀ s ∈ rest, ∃ t, s = .ticket t)
    (done : List Specifier) : byHost rest (grouped done) = .ok (grouped (done ++ rest)) := by
  induction rest generalizing done with
  | nil => rw [byHost, List.append_nil]
  | cons s rest ih =>
      obtain ⟨first, later⟩ := List.forall_mem_cons.1 tickets
      obtain ⟨t, rfl⟩ := first
      have named : (Specifier.ticket t).host? = some t.node.node := rfl
      rw [byHost, named]
      dsimp only
      rw [grouped_concat named, ih later, List.append_assoc, List.singleton_append]

theorem byHost_stopped {done rest : List Specifier} {s : Specifier}
    (tickets : ∀ d ∈ done, ∃ t, d = .ticket t) (other : ∀ t, s ≠ .ticket t)
    (groups : Grouped PeerId ContentSet) :
    byHost (done ++ s :: rest) groups = .error (.noHost s.text) := by
  induction done generalizing groups with
  | nil => rw [List.nil_append, byHost, host?_eq_none.2 other]
  | cons d done ih =>
      obtain ⟨first, later⟩ := List.forall_mem_cons.1 tickets
      obtain ⟨t, rfl⟩ := first
      exact ih later _

/-- Up to the first specifier that is no ticket, if there is one, there are tickets. -/
theorem tickets_or_stopped (specs : List Specifier) :
    (∀ s ∈ specs, ∃ t, s = .ticket t) ∨ ∃ done s rest, specs = done ++ s :: rest ∧
      (∀ d ∈ done, ∃ t, d = .ticket t) ∧ ∀ t, s ≠ .ticket t := by
  induction specs with
  | nil => exact .inl nofun
  | cons s specs ih =>
      by_cases ticket : ∃ t, s = .ticket t
      · obtain tickets | ⟨done, s', rest, rfl, tickets, other⟩ := ih
        · exact .inl (List.forall_mem_cons.2 ⟨ticket, tickets⟩)
        · exact .inr ⟨s :: done, s', rest, rfl, List.forall_mem_cons.2 ⟨ticket, tickets⟩, other⟩
      · exact .inr ⟨[], s, specs, rfl, nofun, fun t same => ticket ⟨t, same⟩⟩

/-- The announcements of tickets, one for each host. -/
def planned (specs : List Specifier) (kind : AnnounceKind) : List Announce :=
  (hosts specs).map fun host => ⟨host, contentAt specs host, kind⟩

variable {specs specs' : List Specifier} {kind : AnnounceKind}

theorem announces_tickets (some : specs ≠ []) (tickets : ∀ s ∈ specs, ∃ t, s = .ticket t) :
    announces specs none kind = .ok (planned specs kind) := by
  have all : byHost specs [] = .ok (grouped specs) := byHost_tickets tickets []
  have filled : grouped specs ≠ [] := by
    intro none
    obtain ⟨s, member⟩ := List.exists_mem_of_ne_nil specs some
    obtain ⟨t, rfl⟩ := tickets s member
    have named : t.node.node ∈ hosts specs := mem_hosts.2 ⟨_, member, rfl⟩
    rw [List.map_eq_nil_iff.1 none] at named
    exact List.not_mem_nil named
  obtain ⟨group, groups, found⟩ := List.exists_cons_of_ne_nil filled
  simp only [announces, all, found]
  rw [← found, grouped, List.map_map]
  rfl

/-- What is planned for tickets: an announcement for each host, in order of first appearance, and
all that is named with the host in it. -/
structure Covers (specs : List Specifier) (kind : AnnounceKind) (as : List Announce) : Prop where
  hosts : as.map Announce.host = (specs.filterMap Specifier.host?).eraseDups
  distinct : (as.map Announce.host).Nodup
  kinds : ∀ a ∈ as, a.kind = kind
  filled : ∀ a ∈ as, ∃ x, x ∈ a.content
  exact : ∀ host x, (∃ a ∈ as, a.host = host ∧ x ∈ a.content) ↔
    ∃ t, .ticket t ∈ specs ∧ t.node.node = host ∧ t.content = x

theorem covers_planned (specs : List Specifier) (kind : AnnounceKind) :
    Covers specs kind (planned specs kind) := by
  have names : (planned specs kind).map Announce.host = hosts specs := by
    rw [planned, List.map_map]
    exact List.map_id _
  refine ⟨names, names ▸ nodup_eraseDups _, ?_, ?_, fun host x => ?_⟩
  · intro a member
    obtain ⟨host, _, rfl⟩ := List.mem_map.1 member
    rfl
  · intro a member
    obtain ⟨host, listed, rfl⟩ := List.mem_map.1 member
    obtain ⟨s, given, named⟩ := mem_hosts.1 listed
    exact ⟨s.content, mem_contentAt.2 ⟨s, given, named, rfl⟩⟩
  · constructor
    · rintro ⟨a, member, rfl, within⟩
      obtain ⟨host, _, rfl⟩ := List.mem_map.1 member
      obtain ⟨s, given, named, rfl⟩ := mem_contentAt.1 within
      obtain ⟨t, rfl, same⟩ := host?_eq_some.1 named
      exact ⟨t, given, same, rfl⟩
    · rintro ⟨t, given, rfl, rfl⟩
      exact ⟨_, List.mem_map.2 ⟨t.node.node, mem_hosts.2 ⟨_, given, rfl⟩, rfl⟩, rfl,
        mem_contentAt.2 ⟨_, given, rfl, rfl⟩⟩

/-- The same specifiers, in another order or more often, give the same announcements. -/
theorem planned_perm (same : ∀ s, s ∈ specs ↔ s ∈ specs') :
    (planned specs kind).Perm (planned specs' kind) := by
  have content (host : PeerId) : contentAt specs host = contentAt specs' host :=
    SortedSet.eq_of_mem fun x => by simp only [mem_contentAt, same]
  have named : (hosts specs).Perm (hosts specs') := by
    refine (List.perm_ext_iff_of_nodup (nodup_eraseDups _) (nodup_eraseDups _)).2 fun host => ?_
    change host ∈ hosts specs ↔ host ∈ hosts specs'
    simp only [mem_hosts, same]
  simp only [planned, content]
  exact named.map _

/-- Two plans have the same announcements, perhaps in another order, or there is none. -/
inductive SamePlan : Except Fault (List Announce) → Except Fault (List Announce) → Prop
  | planned {as bs : List Announce} : as.Perm bs → SamePlan (.ok as) (.ok bs)
  | refused (fault fault' : Fault) : SamePlan (.error fault) (.error fault')

/-- There is no host to announce for: nothing is given, or something that is no ticket. -/
def Hostless (specs : List Specifier) : Prop := specs = [] ∨ ∃ s ∈ specs, ∀ t, s ≠ .ticket t

theorem Hostless.congr (same : ∀ s, s ∈ specs ↔ s ∈ specs') :
    Hostless specs ↔ Hostless specs' := by
  simp only [Hostless, List.eq_nil_iff_forall_not_mem, same]

theorem announces_refused (kind : AnnounceKind) (hostless : Hostless specs) :
    ∃ fault, announces specs none kind = .error fault ∧ fault.failure.kind = .hostRequired := by
  -- The first specifier that is no ticket ends the grouping, whatever follows it.
  obtain tickets | ⟨done, s, rest, rfl, tickets, other⟩ := tickets_or_stopped specs
  · obtain rfl | ⟨s, member, other⟩ := hostless
    · exact ⟨.nothing, rfl, rfl⟩
    · obtain ⟨t, same⟩ := tickets s member
      exact absurd same (other t)
  · refine ⟨.noHost s.text, ?_, rfl⟩
    rw [announces, byHost_stopped tickets other]

theorem announces_of_hosts (kind : AnnounceKind) (hosted : ¬ Hostless specs) :
    announces specs none kind = .ok (planned specs kind) := by
  refine announces_tickets (fun empty => hosted (.inl empty)) fun s member => ?_
  by_contra other
  exact hosted (.inr ⟨s, member, fun t same => other ⟨t, same⟩⟩)

theorem announces_same (kind : AnnounceKind) (same : ∀ s, s ∈ specs ↔ s ∈ specs')
    (host : Option PeerId) :
    SamePlan (announces specs host kind) (announces specs' host kind) := by
  cases host with
  | some host =>
      have content : SortedSet.ofList (specs.map Specifier.content) =
          SortedSet.ofList (specs'.map Specifier.content) :=
        SortedSet.eq_of_mem fun x => by simp only [SortedSet.mem_ofList, List.mem_map, same]
      refine .planned ?_
      rw [content]
  | none =>
      by_cases hostless : Hostless specs
      · obtain ⟨fault, refused, _⟩ := announces_refused kind hostless
        obtain ⟨fault', refused', _⟩ := announces_refused kind ((Hostless.congr same).1 hostless)
        rw [refused, refused']
        exact .refused fault fault'
      · have hosted := fun hostless' => hostless ((Hostless.congr same).2 hostless')
        rw [announces_of_hosts kind hostless, announces_of_hosts kind hosted]
        exact .planned (planned_perm same)

/-- A plan loses nothing and invents nothing. For a given host there is one announcement, of all that
is named. Without one there is an announcement for each host that a ticket names, unless nothing is
given or something that is no ticket. Neither the order of the specifiers nor how often each is given
matters, but for the order of the announcements. -/
theorem announces_exact (specs : List Specifier) (kind : AnnounceKind) :
    (∀ host, ∃ content, announces specs (some host) kind = .ok [⟨host, content, kind⟩] ∧
      ∀ x, x ∈ content ↔ ∃ s ∈ specs, s.content = x) ∧
    ((∃ fault, announces specs none kind = .error fault ∧ fault.failure.kind = .hostRequired) ↔
      specs = [] ∨ ∃ s ∈ specs, ∀ t, s ≠ .ticket t) ∧
    (specs ≠ [] → (∀ s ∈ specs, ∃ t, s = .ticket t) →
      ∃ as, announces specs none kind = .ok as ∧ Covers specs kind as) ∧
    ∀ specs', (∀ s, s ∈ specs ↔ s ∈ specs') → ∀ host,
      SamePlan (announces specs host kind) (announces specs' host kind) := by
  refine ⟨fun host => ⟨_, rfl, fun x => ?_⟩, ⟨?_, announces_refused kind⟩,
    fun some tickets => ⟨_, announces_tickets some tickets, covers_planned specs kind⟩,
    fun specs' same => announces_same kind same⟩
  · rw [SortedSet.mem_ofList, List.mem_map]
  · rintro ⟨fault, refused, _⟩
    by_contra hosted
    cases refused.symm.trans (announces_of_hosts kind hosted)

/-- Three tickets of two hosts, one of them given twice, and the same the other way round. -/
theorem announces_exact_repeated :
    let p : PeerId := ⟨⟨List.replicate 32 1, rfl⟩⟩
    let q : PeerId := ⟨⟨List.replicate 32 2, rfl⟩⟩
    let a : ContentAddress := ⟨⟨⟨List.replicate 32 3, rfl⟩⟩, .raw⟩
    let b : ContentAddress := ⟨⟨⟨List.replicate 32 3, rfl⟩⟩, .hashSeq⟩
    let s : List Specifier := [.ticket ⟨.make q none [], b⟩, .ticket ⟨.make p none [], a⟩,
      .ticket ⟨.make q none [], a⟩, .ticket ⟨.make p none [], a⟩]
    s ≠ [] ∧ (∀ x ∈ s, ∃ t, x = .ticket t) ∧ (∀ x, x ∈ s ↔ x ∈ s.reverse) ∧
      (∃ as, announces s none .complete = .ok as ∧ Covers s .complete as) ∧
      SamePlan (announces s none .complete) (announces s.reverse none .complete) := by
  intro p q a b s
  have some : s ≠ [] := List.cons_ne_nil _ _
  have tickets : ∀ x ∈ s, ∃ t, x = .ticket t := by simp [s]
  have same : ∀ x, x ∈ s ↔ x ∈ s.reverse := fun x => List.mem_reverse.symm
  obtain ⟨_, _, covered, reordered⟩ := announces_exact s .complete
  exact ⟨some, tickets, same, covered some tickets, reordered _ same none⟩

end Plan

end ContentTracker
