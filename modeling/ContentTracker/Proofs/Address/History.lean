import ContentTracker.Proofs.Address.Book

/-! What a book has been told. Whatever has been done to it, and whatever of that went wrong, a book
lists for each node what it was told of that node, and it counts the nodes of which it was told
anything, even if that was nothing. -/

namespace ContentTracker.AddressBook

/-- What is done to a book. -/
inductive Operation
  | make (entries : List (PeerId × List Value))
  | makeOfTexts (entries : List (String × List String))
  | add (peer : PeerId) (values : List Value)

/-- A book that is made takes the place of the one before, which stays if none can be made. -/
def replace (book : AddressBook) : Except Problem AddressBook → AddressBook × Option Problem
  | .ok made => (made, none)
  | .error problem => (book, some problem)

def Operation.perform (book : AddressBook) : Operation → AddressBook × Option Problem
  | .make entries => book.replace (ofEntries entries)
  | .makeOfTexts entries => book.replace ((ofTexts entries).mapError .failure)
  | .add peer values => book.add peer values

/-- The book after some operations, none of which had to succeed. -/
def after (operations : List Operation) : AddressBook :=
  operations.foldl (fun book operation => (operation.perform book).1) []

/-! What is told. -/

/-- What a pair stands for is its host, if that can be written, and the integer that its port is. -/
theorem address_pair (host port : Value) (a : DialAddress) :
    address (.list [host, port]) = .ok a ↔
      host.isWritable ∧ a.host = host.plain ∧ Conversion.toInteger port = .ok a.port := by
  have parts : address (.list [host, port]) = do
      let name ← host.written Value.plain
      return ⟨name, ← (Conversion.toInteger port).mapError .ofInteger⟩ := rfl
  rw [parts, Value.written]
  cases host.isWritable with
  | false => exact iff_of_false nofun fun stands => nomatch stands.1
  | true =>
      cases Conversion.toInteger port with
      | error fault => exact iff_of_false nofun fun stands => nomatch stands.2.2
      | ok n =>
          obtain ⟨name, m⟩ := a
          constructor
          · rintro ⟨⟩
            exact ⟨rfl, rfl, rfl⟩
          · rintro ⟨_, rfl, ⟨⟩⟩
            rfl

/-- The addresses before the first pair that stands for none. -/
def readable (values : List Value) : List DialAddress :=
  ((values.map address).takeWhile Except.isOk).filterMap Except.toOption

/-- What a book has been told since it was made, after one operation more. -/
def Operation.tell (told : Told) : Operation → Told
  | .make entries => (entries.mapM entryTold).getD told
  | .makeOfTexts entries => (entries.mapM textsTold).getD told
  | .add peer values => told ++ [(peer, readable values)]

def toldAfter (operations : List Operation) : Told := operations.foldl Operation.tell []

/-- All that was told of one node. -/
def Told.given (told : Told) (peer : PeerId) : List DialAddress :=
  told.flatMap fun entry => if entry.1 = peer then entry.2 else []

/-- The nodes of which something was told. -/
def Told.named (told : Told) : List PeerId := told.map (·.1)

theorem addressesUntil_fst (values : List Value) : (addressesUntil values).1 = readable values := by
  induction values with
  | nil => rfl
  | cons v values ih =>
      unfold addressesUntil readable
      rw [List.map_cons]
      cases address v with
      | error problem => rfl
      | ok a =>
          rw [List.takeWhile_cons_of_pos rfl]
          exact congrArg (a :: ·) ih

theorem addressesUntil_snd (values : List Value) :
    (addressesUntil values).2 = none ↔ ∀ v ∈ values, ∃ a, address v = .ok a := by
  induction values with
  | nil => simp [addressesUntil]
  | cons v values ih =>
      rw [addressesUntil]
      cases found : address v with
      | error problem => simp [found]
      | ok a => simp [found, ih]

/-! Records. -/

/-- The book is a record of what it was told. -/
structure Records (book : AddressBook) (told : Told) : Prop where
  lists : book.Lists told.given
  named : book.map (·.1) = told.named.eraseDups

variable {book : AddressBook} {known : Told}

theorem records_nil : Records [] [] := ⟨lists_nil, rfl⟩

theorem Records.insertAll (h : Records book known) (peer : PeerId) (as : List DialAddress) :
    Records (book.insertAll peer as) (known ++ [(peer, as)]) where
  lists := by
    have listed := h.lists.insertAll peer as
    intro other
    simp only [listed other, Told.given, List.flatMap_append, List.flatMap_singleton, eq_comm]
  named := by
    rw [AddressBook.insertAll, Grouped.keys_update, h.named, Told.named, Told.named, List.map_append,
      List.map_singleton, eraseDups_concat]
    simp only [List.mem_eraseDups]

theorem Records.told (h : Records book known) (entries : Told) :
    Records (book.told entries) (known ++ entries) := by
  induction entries generalizing book known with
  | nil => rwa [List.append_nil]
  | cons entry entries ih =>
      have next := ih (h.insertAll entry.1 entry.2)
      rwa [List.append_assoc] at next

theorem Records.replace (h : Records book known) {built : Except Problem AddressBook}
    {entries : Option Told} (made : built.toOption = entries.map (AddressBook.told [])) :
    Records (book.replace built).1 (entries.getD known) := by
  cases built with
  | error problem => cases entries with
    | none => exact h
    | some all => cases made
  | ok fresh => cases entries with
    | none => cases made
    | some all =>
        cases made
        exact records_nil.told all

/-- One operation, whether it succeeds or not. -/
theorem Records.perform (h : Records book known) (operation : Operation) :
    Records (operation.perform book).1 (operation.tell known) := by
  cases operation with
  | make entries => exact h.replace (toOption_ofEntries entries)
  | makeOfTexts entries =>
      refine h.replace ?_
      rw [← toOption_ofTexts]
      cases ofTexts entries <;> rfl
  | add peer values =>
      rw [Operation.tell, ← addressesUntil_fst]
      exact h.insertAll peer (addressesUntil values).1

/-- Any operations one after another. -/
theorem records_after (operations : List Operation) :
    Records (after operations) (toldAfter operations) := by
  have general {book : AddressBook} {known : Told} (h : Records book known) :
      Records (operations.foldl (fun book operation => (operation.perform book).1) book)
        (operations.foldl Operation.tell known) := by
    induction operations generalizing book known with
    | nil => exact h
    | cons operation operations ih => exact ih (h.perform operation)
  exact general records_nil

/-- Whatever was done to a book, it lists for each node what it was told of this node, in order of
first appearance and up to the bad pair of each addition that failed. What it is told of other nodes
changes nothing. It has the nodes for which it lists something, and its size is the number of nodes
of which it was told, be it nothing. A pair tells the text of its host and the integer of its port. -/
theorem book_history (operations : List Operation) (peer : PeerId) :
    (after operations).get peer = ((toldAfter operations).given peer).eraseDups ∧
    ((after operations).get peer).Nodup ∧
    (∀ other values, other ≠ peer →
      ((after operations).add other values).1.get peer = (after operations).get peer) ∧
    (∀ values, ((after operations).add peer values).2 = none ↔
      ∀ v ∈ values, ∃ a, address v = .ok a) ∧
    (∀ host port a, address (.list [host, port]) = .ok a ↔
      host.isWritable ∧ a.host = host.plain ∧ Conversion.toInteger port = .ok a.port) ∧
    ((after operations).has peer = true ↔ (after operations).get peer ≠ []) ∧
    (after operations).size = (toldAfter operations).named.eraseDups.length := by
  have records := records_after operations
  refine ⟨records.lists peer, ?_, ?_, addressesUntil_snd, address_pair, ?_, ?_⟩
  · rw [records.lists peer]
    exact nodup_eraseDups _
  · intro other values different
    exact (get_insertAll _ other peer _).trans (if_neg different.symm)
  · simp [has]
  · rw [← records.named, List.length_map, size]

/-- An addition that fails at its second pair, and one of nothing. -/
example :
    let p : PeerId := ⟨⟨List.replicate 32 1, rfl⟩⟩
    let q : PeerId := ⟨⟨List.replicate 32 2, rfl⟩⟩
    let book := after [.add p [.list [.text "a", .int 1], .null, .list [.text "b", .int 2]], .add q []]
    book.get p = [⟨"a", 1⟩] ∧ book.size = 2 ∧ book.has q = false := by
  decide

end ContentTracker.AddressBook
