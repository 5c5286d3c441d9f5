import ContentTracker.DialAddress
import ContentTracker.Proofs.Grouped

/-! Address books. All of them come about by adding addresses, so none lists an address twice for
the same node. What a book lists for a node is what was given for it, in order of first
appearance. -/

namespace ContentTracker

/-- The books that come about by adding addresses to nodes. -/
inductive AddressBook.Made : AddressBook → Prop
  | empty : Made []
  | insertAll {book : AddressBook} (made : Made book) (peer : PeerId)
      (addresses : List DialAddress) : Made (book.insertAll peer addresses)

namespace AddressBook

theorem nodup_extend {known : List DialAddress} (h : known.Nodup) (a : DialAddress) :
    (extend known a).Nodup := by
  unfold extend
  split
  · exact h
  · next fresh =>
    rw [List.contains_iff_mem] at fresh
    refine List.nodup_append.2 ⟨h, List.pairwise_singleton _ a, ?_⟩
    rintro b member c single rfl
    exact fresh (List.mem_singleton.1 single ▸ member)

theorem nodup_extendAll {known : List DialAddress} (h : known.Nodup) (as : List DialAddress) :
    (as.foldl extend known).Nodup := by
  induction as generalizing known with
  | nil => exact h
  | cons a as ih => exact ih (nodup_extend h a)

theorem get_cons (book : AddressBook) (peer other : PeerId) (as : List DialAddress) :
    get ((peer, as) :: book) other = if other = peer then as else get book other := by
  unfold get
  by_cases same : other = peer
  · rw [if_pos same, same, List.lookup_cons_self, Option.getD_some]
  · rw [if_neg same, List.lookup_cons, beq_false_of_ne same]

theorem get_update (book : AddressBook) (peer other : PeerId)
    (change : List DialAddress → List DialAddress) :
    get (Grouped.update peer [] change book) other =
      if other = peer then change (get book other) else get book other := by
  induction book with
  | nil => exact get_cons [] peer other _
  | cons entry book ih =>
      obtain ⟨known, as⟩ := entry
      rw [Grouped.update]
      by_cases here : known = peer
      · rw [if_pos here, get_cons, get_cons, here]
        split <;> rfl
      · rw [if_neg here, get_cons, get_cons, ih]
        by_cases same : other = known
        · rw [if_pos same, if_pos same, if_neg (same ▸ here)]
        · rw [if_neg same, if_neg same]

theorem get_insertAll (book : AddressBook) (peer other : PeerId) (as : List DialAddress) :
    get (book.insertAll peer as) other =
      if other = peer then as.foldl extend (get book other) else get book other :=
  get_update book peer other _

/-- The book lists what was given for each node. -/
def Lists (book : AddressBook) (given : PeerId → List DialAddress) : Prop :=
  ∀ peer, book.get peer = (given peer).eraseDups

theorem Lists.insertAll {book : AddressBook} {given : PeerId → List DialAddress}
    (h : book.Lists given) (peer : PeerId) (as : List DialAddress) :
    (book.insertAll peer as).Lists fun other => given other ++ if other = peer then as else [] := by
  intro other
  dsimp only
  rw [get_insertAll, h other]
  by_cases same : other = peer
  · rw [if_pos same, if_pos same]
    exact foldl_new (given other) as
  · rw [if_neg same, if_neg same, List.append_nil]

theorem lists_nil : Lists [] fun _ => [] := fun _ => rfl

/-- Where no entry is refused, the book lists what is in all of them. -/
theorem Lists.foldlM {ε κ : Type} {step : AddressBook → κ → Except ε AddressBook} {ks : List κ}
    {book : AddressBook} {given all : PeerId → List DialAddress} (h : book.Lists given)
    (named : κ → Option PeerId) (addresses : κ → List DialAddress)
    (steps : ∀ k ∈ ks, ∃ peer, named k = some peer ∧
      ∀ book, step book k = .ok (book.insertAll peer (addresses k)))
    (together : ∀ other, all other =
      given other ++ ks.flatMap fun k => if named k = some other then addresses k else []) :
    ∃ filled, ks.foldlM step book = .ok filled ∧ filled.Lists all := by
  induction ks generalizing book given with
  | nil => exact ⟨book, rfl, fun other => by rw [together, h other, List.flatMap_nil, List.append_nil]⟩
  | cons k ks ih =>
      obtain ⟨first, later⟩ := List.forall_mem_cons.1 steps
      obtain ⟨peer, name, inserted⟩ := first
      rw [List.foldlM_cons, inserted]
      refine ih (h.insertAll peer (addresses k)) later fun other => ?_
      rw [together, List.flatMap_cons, name, ← List.append_assoc]
      simp only [Option.some_inj, eq_comm]

theorem Lists.foldl {κ : Type} {book : AddressBook} {given all : PeerId → List DialAddress}
    (h : book.Lists given) (ks : List κ) (peer : κ → PeerId) (addresses : κ → List DialAddress)
    (together : ∀ other, all other =
      given other ++ ks.flatMap fun k => if peer k = other then addresses k else []) :
    (ks.foldl (fun book k => book.insertAll (peer k) (addresses k)) book).Lists all := by
  have folded : ∃ filled, ks.foldlM (fun book k =>
      (pure (book.insertAll (peer k) (addresses k)) : Except Empty AddressBook)) book = .ok filled ∧
      filled.Lists all := by
    refine h.foldlM (fun k => some (peer k)) addresses (fun k _ => ⟨peer k, rfl, fun _ => rfl⟩)
      fun other => ?_
    simp only [together other, Option.some_inj]
  obtain ⟨filled, done, lists⟩ := folded
  rw [List.foldlM_pure] at done
  cases done
  exact lists

theorem Made.nodup {book : AddressBook} (h : book.Made) (peer : PeerId) :
    (book.get peer).Nodup := by
  induction h with
  | empty => exact List.nodup_nil
  | insertAll made other addresses ih =>
      rw [AddressBook.insertAll, get_update]
      split
      · exact nodup_extendAll ih addresses
      · exact ih

/-! Books are made of what their entries tell. -/

/-- The addresses that a book is told of nodes, one node after another. -/
abbrev Told := List (PeerId × List DialAddress)

/-- A book that has been told some more. -/
def told (book : AddressBook) (entries : Told) : AddressBook :=
  entries.foldl (fun book entry => book.insertAll entry.1 entry.2) book

/-- What an entry of values tells, if all its pairs stand for addresses. -/
def entryTold (entry : PeerId × List Value) : Option (PeerId × List DialAddress) :=
  (entry.2.mapM fun v => (address v).toOption).map fun as => (entry.1, as)

/-- What an entry of texts tells, if it has the text of a node and all the others are addresses. -/
def textsTold (entry : String × List String) : Option (PeerId × List DialAddress) :=
  (PeerId.parse entry.1).toOption.bind fun peer =>
    (entry.2.mapM fun text => (DialAddress.parse text).toOption).map fun as => (peer, as)

theorem mapM_address (values : List Value) :
    (values.mapM fun v => (address v).toOption) =
      match addressesUntil values with
      | (as, none) => some as
      | (_, some _) => none := by
  induction values with
  | nil => rfl
  | cons v values ih =>
      rw [List.mapM_cons, ih, addressesUntil]
      cases address v with
      | error problem => rfl
      | ok a => obtain ⟨as, _ | problem⟩ := addressesUntil values <;> rfl

theorem mapM_parse (texts : List String) :
    (texts.mapM fun text => (DialAddress.parse text).toOption) = (parseAll texts).toOption := by
  induction texts with
  | nil => rfl
  | cons text texts ih =>
      rw [List.mapM_cons, ih, parseAll]
      cases DialAddress.parse text with
      | error fault => rfl
      | ok a => cases parseAll texts <;> rfl

theorem toOption_foldlM {ε κ : Type} {step : AddressBook → κ → Except ε AddressBook}
    {tells : κ → Option (PeerId × List DialAddress)}
    (steps : ∀ book k, (step book k).toOption =
      (tells k).map fun entry => book.insertAll entry.1 entry.2)
    (book : AddressBook) (ks : List κ) :
    (ks.foldlM step book).toOption = (ks.mapM tells).map book.told := by
  induction ks generalizing book with
  | nil => rfl
  | cons k ks ih =>
      have first := steps book k
      rw [List.foldlM_cons, List.mapM_cons]
      cases made : step book k with
      | error fault =>
          rw [made] at first
          cases named : tells k with
          | none => rfl
          | some entry =>
              rw [named] at first
              cases first
      | ok next =>
          rw [made] at first
          cases named : tells k with
          | none =>
              rw [named] at first
              cases first
          | some entry =>
              rw [named] at first
              cases first
              change (ks.foldlM step _).toOption = _
              rw [ih]
              cases ks.mapM tells <;> rfl

theorem toOption_ofEntries (entries : List (PeerId × List Value)) :
    (ofEntries entries).toOption = (entries.mapM entryTold).map (told []) := by
  refine toOption_foldlM (fun book entry => ?_) [] entries
  obtain ⟨peer, values⟩ := entry
  simp only [entryTold, mapM_address, add]
  obtain ⟨as, _ | problem⟩ := addressesUntil values <;> rfl

theorem toOption_ofTexts (entries : List (String × List String)) :
    (ofTexts entries).toOption = (entries.mapM textsTold).map (told []) := by
  refine toOption_foldlM (fun book entry => ?_) [] entries
  obtain ⟨node, texts⟩ := entry
  simp only [textsTold, mapM_parse]
  cases PeerId.parse node with
  | error fault => rfl
  | ok peer => cases parseAll texts <;> rfl

theorem Made.told {book : AddressBook} (h : Made book) (entries : Told) : Made (book.told entries) := by
  induction entries generalizing book with
  | nil => exact h
  | cons entry entries ih => exact ih (h.insertAll entry.1 entry.2)

theorem made_of_told {ε : Type} {built : Except ε AddressBook} {entries : Option Told}
    {book : AddressBook} (same : built.toOption = entries.map (told [])) (h : built = .ok book) :
    book.Made := by
  rw [h] at same
  cases entries with
  | none => cases same
  | some all =>
      cases same
      exact Made.empty.told all

theorem made_ofEntries {entries : List (PeerId × List Value)} {book : AddressBook}
    (h : ofEntries entries = .ok book) : book.Made :=
  made_of_told (toOption_ofEntries entries) h

theorem made_ofTexts {entries : List (String × List String)} {book : AddressBook}
    (h : ofTexts entries = .ok book) : book.Made :=
  made_of_told (toOption_ofTexts entries) h

end AddressBook

end ContentTracker
