import ContentTracker.IpAddress
import Mathlib.Data.List.TakeWhile

/-! The canonical text of an address is read as that address. Its parts hold no separator, so the
text splits where it was joined, and the one double colon stands for exactly the zeros that it
replaced. -/

namespace ContentTracker.IpAddress

/-! Splitting at a separator. -/

section Splitting

variable {separator : Char}

theorem splitAt_append {piece : List Char} (h : separator ∉ piece) (rest : List Char) :
    splitAt separator (piece ++ separator :: rest) = piece :: splitAt separator rest := by
  induction piece with
  | nil => rw [List.nil_append, splitAt, if_pos rfl]
  | cons c piece ih =>
      rw [List.mem_cons, not_or] at h
      rw [List.cons_append, splitAt, if_neg (Ne.symm h.1), ih h.2]

theorem splitAt_single {piece : List Char} (h : separator ∉ piece) :
    splitAt separator piece = [piece] := by
  induction piece with
  | nil => rfl
  | cons c piece ih =>
      rw [List.mem_cons, not_or] at h
      rw [splitAt, if_neg (Ne.symm h.1), ih h.2]

theorem splitAt_intercalate {parts : List (List Char)} (some : parts ≠ [])
    (clean : ∀ part ∈ parts, separator ∉ part) :
    splitAt separator ([separator].intercalate parts) = parts := by
  induction parts with
  | nil => exact absurd rfl some
  | cons part parts ih =>
      have first := clean part (by simp)
      cases parts with
      | nil => rw [List.intercalate_singleton, splitAt_single first]
      | cons next parts =>
          rw [List.intercalate_cons_cons, List.append_assoc, List.singleton_append,
            splitAt_append first,
            ih (List.cons_ne_nil next parts) fun p member => clean p (List.mem_cons_of_mem _ member)]

/-- A character before the first separator stands in the first piece. -/
theorem splitAt_first {before : List Char} (h : separator ∉ before) {c : Char} (hc : c ≠ separator)
    (rest : List Char) : ∃ more others,
      splitAt separator (before ++ c :: rest) = (before ++ c :: more) :: others := by
  induction before with
  | nil =>
      rw [List.nil_append, splitAt, if_neg hc]
      cases splitAt separator rest with
      | nil => exact ⟨[], [], rfl⟩
      | cons piece others => exact ⟨piece, others, rfl⟩
  | cons d before ih =>
      rw [List.mem_cons, not_or] at h
      obtain ⟨more, others, pieces⟩ := ih h.2
      exact ⟨more, others, by rw [List.cons_append, splitAt, if_neg (Ne.symm h.1), pieces]; rfl⟩

theorem mem_splitAt {c : Char} {cs : List Char} (h : c ∈ cs) (hc : c ≠ separator) :
    ∃ piece ∈ splitAt separator cs, c ∈ piece := by
  induction cs with
  | nil => exact absurd h List.not_mem_nil
  | cons d cs ih =>
      rw [splitAt]
      by_cases here : d = separator
      · rw [if_pos here]
        obtain ⟨piece, member, found⟩ := ih (List.mem_of_ne_of_mem (here ▸ hc) h)
        exact ⟨piece, List.mem_cons_of_mem _ member, found⟩
      rw [if_neg here]
      cases pieces : splitAt separator cs with
      | nil =>
          rcases List.mem_cons.1 h with rfl | later
          · exact ⟨[c], List.mem_singleton_self _, List.mem_singleton_self _⟩
          · obtain ⟨piece, member, _⟩ := ih later
            rw [pieces] at member
            exact absurd member List.not_mem_nil
      | cons piece others =>
          rcases List.mem_cons.1 h with rfl | later
          · exact ⟨c :: piece, List.mem_cons_self, List.mem_cons_self⟩
          · obtain ⟨found, member, inside⟩ := ih later
            rw [pieces] at member
            rcases List.mem_cons.1 member with rfl | member
            · exact ⟨d :: found, List.mem_cons_self, List.mem_cons_of_mem _ inside⟩
            · exact ⟨found, List.mem_cons_of_mem _ member, inside⟩

end Splitting

/-! Numerals. -/

theorem mem_toDigits {base n : Nat} (h : 1 < base) {c : Char} (member : c ∈ Nat.toDigits base n) :
    ∃ d < base, c = Nat.digitChar d := by
  induction n using Nat.strongRecOn with
  | ind n ih =>
      by_cases small : n < base
      · rw [Nat.toDigits_of_lt_base small, List.mem_singleton] at member
        exact ⟨n, small, member⟩
      · rw [Nat.toDigits_of_base_le h (Nat.le_of_not_lt small), List.mem_append,
          List.mem_singleton] at member
        rcases member with earlier | last
        · exact ih _ (Nat.div_lt_self (by omega) h) earlier
        · exact ⟨n % base, Nat.mod_lt _ (by omega), last⟩

theorem octet?_toDigits (o : UInt8) : octet? (Nat.toDigits 10 o.toNat) = some o := by
  have all : ∀ n < 256, octet? (Nat.toDigits 10 n) = some (UInt8.ofNat n) := by decide +kernel
  rw [all o.toNat o.toNat_lt, UInt8.ofNat_toNat]

/-- Every digit below sixteen has its value, and none is a mark of punctuation. -/
theorem digitChar_spec {d : Nat} (h : d < 16) : Octets.hexValue? (Nat.digitChar d) = some d ∧
    Nat.digitChar d ∉ ['.', ':', '%', '/'] := by
  revert d
  decide

theorem hexValues_toDigits (n : Nat) : ∃ ds, (Nat.toDigits 16 n).mapM Octets.hexValue? = some ds ∧
    ds.foldl (fun n d => n * 16 + d) 0 = n := by
  induction n using Nat.strongRecOn with
  | ind n ih =>
      by_cases small : n < 16
      · refine ⟨[n], ?_, by simp⟩
        rw [Nat.toDigits_of_lt_base small, List.mapM_cons, (digitChar_spec small).1]
        rfl
      · have digit : n % 16 < 16 := Nat.mod_lt _ (by decide)
        obtain ⟨ds, read, value⟩ := ih (n / 16) (Nat.div_lt_self (by omega) (by decide))
        refine ⟨ds ++ [n % 16], ?_, ?_⟩
        · rw [Nat.toDigits_of_base_le (by decide) (Nat.le_of_not_lt small), List.mapM_append, read,
            List.mapM_cons, (digitChar_spec digit).1]
          rfl
        · rw [List.foldl_append, value, List.foldl_cons, List.foldl_nil]
          omega

theorem group?_groupText (g : UInt16) : group? (groupText g) = some g := by
  obtain ⟨ds, read, value⟩ := hexValues_toDigits g.toNat
  have short : ¬ 4 < (Nat.toDigits 16 g.toNat).length :=
    Nat.not_lt.2 ((Nat.length_toDigits_le_iff (by decide) (by decide)).2 g.toNat_lt)
  have filled : (Nat.toDigits 16 g.toNat).isEmpty = false := by
    rw [List.isEmpty_eq_false_iff]
    exact Nat.toDigits_ne_nil
  simp only [group?, groupText, filled, short, read, decide_false, Bool.or_self,
    Bool.false_eq_true, if_false, Option.map_some, value, UInt16.ofNat_toNat]

theorem groupText_clean {g : UInt16} {c : Char} (h : c ∈ groupText g) :
    c ∉ ['.', ':', '%', '/'] := by
  obtain ⟨d, small, rfl⟩ := mem_toDigits (by decide) h
  exact (digitChar_spec small).2

theorem not_mem_groupText (g : UInt16) : '.' ∉ groupText g ∧ ':' ∉ groupText g ∧
    '%' ∉ groupText g ∧ '/' ∉ groupText g := by
  refine ⟨?_, ?_, ?_, ?_⟩ <;> exact fun h => groupText_clean h (by decide)

/-! Groups between colons. -/

theorem aroundGap?_piece {piece : List Char} (h : ':' ∉ piece) (rest : List Char) :
    aroundGap? (piece ++ rest) = (aroundGap? rest).map fun (before, after) =>
      (piece ++ before, after) := by
  induction piece with
  | nil =>
      rw [List.nil_append]
      cases aroundGap? rest <;> rfl
  | cons c piece ih =>
      rw [List.mem_cons, not_or] at h
      rw [List.cons_append, aroundGap?, ih h.2]
      · cases aroundGap? rest <;> rfl
      · rintro later rfl
        exact absurd rfl h.1

theorem aroundGap?_colon {c : Char} (h : c ≠ ':') (rest : List Char) :
    aroundGap? (':' :: c :: rest) = (aroundGap? (c :: rest)).map fun (before, after) =>
      (':' :: before, after) := by
  rw [aroundGap?]
  rintro later _ ⟨⟩
  exact h rfl

theorem joinGroups_cons (g h : UInt16) (rest : List UInt16) :
    joinGroups (g :: h :: rest) = groupText g ++ ':' :: joinGroups (h :: rest) := by
  simp only [joinGroups, List.map_cons, List.intercalate_cons_cons, List.append_assoc,
    List.singleton_append]

theorem joinGroups_single (g : UInt16) : joinGroups [g] = groupText g :=
  List.intercalate_singleton

theorem joinGroups_head (g : UInt16) (rest : List UInt16) :
    ∃ c cs, c ≠ ':' ∧ joinGroups (g :: rest) = c :: cs := by
  obtain ⟨c, cs, digits⟩ := List.exists_cons_of_ne_nil
    (Nat.toDigits_ne_nil : Nat.toDigits 16 g.toNat ≠ [])
  have digit : c ≠ ':' := by
    rintro rfl
    exact (not_mem_groupText g).2.1 (by rw [groupText, digits]; simp)
  cases rest with
  | nil => exact ⟨c, cs, digit, by rw [joinGroups_single, groupText, digits]⟩
  | cons h rest =>
      exact ⟨c, cs ++ ':' :: joinGroups (h :: rest), digit, by
        rw [joinGroups_cons, groupText, digits, List.cons_append]⟩

/-- Joined groups hold no gap: it is looked for in what follows them. -/
theorem aroundGap?_joinGroups (gs : List UInt16) (rest : List Char) :
    aroundGap? (joinGroups gs ++ rest) = (aroundGap? rest).map fun (before, after) =>
      (joinGroups gs ++ before, after) := by
  induction gs with
  | nil => exact aroundGap?_piece (List.not_mem_nil) rest
  | cons g gs ih =>
      cases gs with
      | nil =>
          rw [joinGroups_single]
          exact aroundGap?_piece (not_mem_groupText g).2.1 rest
      | cons h gs =>
          obtain ⟨c, cs, digit, starts⟩ := joinGroups_head h gs
          rw [joinGroups_cons, List.append_assoc, aroundGap?_piece (not_mem_groupText g).2.1,
            List.cons_append, starts, List.cons_append, aroundGap?_colon digit, ← List.cons_append,
            ← starts, ih]
          cases aroundGap? rest with
          | none => rfl
          | some found => simp

theorem pieces_joinGroups (gs : List UInt16) : pieces (joinGroups gs) = gs.map groupText := by
  cases gs with
  | nil => rfl
  | cons g gs =>
      obtain ⟨c, cs, _, starts⟩ := joinGroups_head g gs
      have filled : (joinGroups (g :: gs)).isEmpty = false := by rw [starts]; rfl
      rw [pieces, filled, if_neg Bool.false_ne_true]
      refine splitAt_intercalate (by simp) fun part member => ?_
      obtain ⟨h, _, rfl⟩ := List.mem_map.1 member
      exact (not_mem_groupText h).2.1

theorem expandTail?_groups (gs : List UInt16) :
    expandTail? (gs.map groupText) = some (gs.map groupText) := by
  induction gs with
  | nil => rfl
  | cons g gs ih =>
      cases gs with
      | nil =>
          have plain : (groupText g).contains '.' = false := by
            simpa using (not_mem_groupText g).1
          rw [List.map_cons, List.map_nil, expandTail?, plain, if_neg Bool.false_ne_true]
      | cons h gs =>
          rw [List.map_cons, List.map_cons, expandTail?, ← List.map_cons, ih]
          · rfl
          · simp

theorem mapM_group? (gs : List UInt16) : (gs.map groupText).mapM group? = some gs := by
  induction gs with
  | nil => rfl
  | cons g gs ih =>
      rw [List.map_cons, List.mapM_cons, group?_groupText, ih]
      rfl

/-! The gap. -/

theorem zeroRun_split (gs : List UInt16) :
    ∃ after, gs = List.replicate (zeroRun gs) 0 ++ after := by
  have zeros : gs.takeWhile (· = 0) = List.replicate (zeroRun gs) 0 := by
    rw [List.eq_replicate_iff]
    exact ⟨rfl, fun g member => by simpa using List.mem_takeWhile_imp member⟩
  exact ⟨gs.dropWhile (· = 0), by rw [← zeros, List.takeWhile_append_dropWhile]⟩

/-- The longest run is a run: zeros with some groups before and after them. -/
theorem longestRun_split (gs : List UInt16) (position : Nat) :
    ∃ before after, (longestRun position gs).1 = position + before.length ∧
      gs = before ++ List.replicate (longestRun position gs).2 0 ++ after := by
  induction gs generalizing position with
  | nil => exact ⟨[], [], rfl, rfl⟩
  | cons g gs ih =>
      rw [longestRun]
      split
      · obtain ⟨after, parts⟩ := zeroRun_split (g :: gs)
        exact ⟨[], after, rfl, parts⟩
      · obtain ⟨before, after, start, parts⟩ := ih (position + 1)
        refine ⟨g :: before, after, ?_, ?_⟩
        · rw [start, List.length_cons]
          omega
        · rw [List.cons_append, List.cons_append, ← parts]

theorem groups?_joinGroups (gs : List UInt16) : groups? (joinGroups gs) = some gs := by
  have none : aroundGap? (joinGroups gs) = none := by
    simpa [aroundGap?] using aroundGap?_joinGroups gs []
  simp only [groups?, none, pieces_joinGroups, expandTail?_groups, Option.bind_eq_bind,
    Option.bind_some, mapM_group?]

theorem groups?_gap {before after : List UInt16} {count : Nat} (two : 2 ≤ count)
    (eight : before.length + count + after.length = 8) :
    groups? (joinGroups before ++ [':', ':'] ++ joinGroups after) =
      some (before ++ List.replicate count 0 ++ after) := by
  have found : aroundGap? (joinGroups before ++ [':', ':'] ++ joinGroups after) =
      some (joinGroups before, joinGroups after) := by
    rw [List.append_assoc, aroundGap?_joinGroups, List.cons_append, List.cons_append, aroundGap?]
    simp
  have left : 8 - before.length - after.length = count := by omega
  simp only [groups?, found, pieces_joinGroups, expandTail?_groups, Option.bind_eq_bind,
    Option.bind_some, mapM_group?, left, if_pos (show before.length + after.length ≤ 7 by omega)]

theorem groups?_groupsText {gs : List UInt16} (eight : gs.length = 8) :
    groups? (groupsText gs) = some gs := by
  obtain ⟨before, after, start, parts⟩ := longestRun_split gs 0
  unfold groupsText
  dsimp only
  split
  · next two =>
    generalize longestRun 0 gs = run at start parts two
    rw [Nat.zero_add] at start
    have taken : gs.take run.1 = before := by
      rw [start, parts, List.append_assoc, List.take_left]
    have dropped : gs.drop (run.1 + run.2) = after := by
      have zeros : (before ++ List.replicate run.2 0).length = run.1 + run.2 := by
        rw [List.length_append, List.length_replicate, start]
      rw [parts, ← zeros, List.drop_left]
    have sizes := congrArg List.length parts
    simp only [List.length_append, List.length_replicate, eight] at sizes
    rw [taken, dropped, groups?_gap two (by omega), ← parts]
  · exact groups?_joinGroups gs

/-! Whole addresses. -/

theorem mem_joinGroups {gs : List UInt16} {c : Char} (h : c ∈ joinGroups gs) :
    c = ':' ∨ ∃ g, c ∈ groupText g := by
  induction gs with
  | nil => cases h
  | cons g gs ih =>
      cases gs with
      | nil =>
          rw [joinGroups_single] at h
          exact .inr ⟨g, h⟩
      | cons k gs =>
          rw [joinGroups_cons, List.mem_append, List.mem_cons] at h
          rcases h with first | rfl | later
          · exact .inr ⟨g, first⟩
          · exact .inl rfl
          · exact ih later

/-- A text of groups holds digits and colons only. -/
theorem groupsText_clean {gs : List UInt16} {c : Char} (h : c ∈ groupsText gs) :
    c ∉ ['.', '%', '/'] := by
  have joined {hs : List UInt16} (h : c ∈ joinGroups hs) : c ∉ ['.', '%', '/'] := by
    rcases mem_joinGroups h with rfl | ⟨g, digit⟩
    · decide
    · have clean := groupText_clean digit
      simp only [List.mem_cons, List.not_mem_nil, or_false, not_or] at clean ⊢
      exact ⟨clean.1, clean.2.2.1, clean.2.2.2⟩
  unfold groupsText at h
  dsimp only at h
  split at h
  · simp only [List.mem_append] at h
    rcases h with (before | gap) | after
    · exact joined before
    · have colon : c = ':' := by simpa using gap
      rw [colon]
      decide
    · exact joined after
  · exact joined h

theorem colon_mem_groupsText {gs : List UInt16} (eight : gs.length = 8) :
    ':' ∈ groupsText gs := by
  unfold groupsText
  dsimp only
  split
  · simp
  · match gs, eight with
    | g :: h :: rest, _ =>
        rw [joinGroups_cons]
        simp

/-- A text with a colon before its first full stop is no address of version 4. -/
theorem parseV4?_colon {before : List Char} (clean : '.' ∉ before) (rest : List Char) :
    parseV4? (before ++ ':' :: rest) = none := by
  obtain ⟨more, others, pieces⟩ := splitAt_first clean (by decide : ':' ≠ '.') rest
  have foreign : octet? (before ++ ':' :: more) = none := by
    have digits : (before ++ ':' :: more).all Char.isDigit = false := by
      rw [List.all_append, List.all_cons]
      simp [show ':'.isDigit = false by decide]
    simp [octet?, digits]
  rw [parseV4?, pieces, List.mapM_cons, foreign]
  rfl

theorem parseV4?_text (a b c d : UInt8) :
    parseV4? (textChars (.v4 a b c d)) = some (a, b, c, d) := by
  have pieces : splitAt '.' (textChars (.v4 a b c d)) =
      [a, b, c, d].map fun o => Nat.toDigits 10 o.toNat := by
    refine splitAt_intercalate (by simp) fun part member => ?_
    obtain ⟨o, _, rfl⟩ := List.mem_map.1 member
    intro point
    obtain ⟨digit, small, same⟩ := mem_toDigits (by decide) point
    exact (digitChar_spec (Nat.lt_trans small (by decide))).2 (by simp [← same])
  simp only [parseV4?, pieces, List.map_cons, List.map_nil, List.mapM_cons, List.mapM_nil,
    octet?_toDigits, Option.bind_eq_bind, Option.bind_some, Option.pure_def]

theorem ofGroups?_toList (groups : Vector UInt16 8) (zone : Option Zone) :
    ofGroups? groups.toList zone = some (.v6 groups zone) := by
  have eight : groups.toList.length = 8 := groups.length_toList
  rw [ofGroups?, dif_pos eight]
  obtain ⟨⟨_⟩, _⟩ := groups
  rfl

theorem zone?_name (z : Zone) : zone? z.name.toList = some z := by
  have same : String.ofList z.name.toList = z.name := z.name.ofList_toList
  unfold zone?
  simp only [same]
  rw [dif_pos ⟨z.name_ne, z.no_percent, z.no_slash⟩]

theorem parseV6?_text (groups : Vector UInt16 8) (zone : Option Zone) :
    parseV6? (textChars (.v6 groups zone)) = some (.v6 groups zone) := by
  have eight : groups.toList.length = 8 := groups.length_toList
  have unmarked : ∀ c ∈ groupsText groups.toList, decide (c ≠ '%') = true := by
    intro c member
    have clean := groupsText_clean member
    simp only [List.mem_cons, not_or] at clean
    exact decide_eq_true clean.2.1
  have noSlash : '/' ∉ groupsText groups.toList := fun member =>
    groupsText_clean member (by decide)
  cases zone with
  | none =>
      have text : textChars (.v6 groups none) = groupsText groups.toList := by simp [textChars]
      rw [text, parseV6?, if_neg (by simpa using noSlash), List.takeWhile_eq_self_iff.2 unmarked,
        List.dropWhile_eq_nil_iff.2 unmarked, groups?_groupsText eight]
      exact ofGroups?_toList groups none
  | some z =>
      have text : textChars (.v6 groups (some z)) =
          groupsText groups.toList ++ '%' :: z.name.toList := rfl
      have clean : (groupsText groups.toList ++ '%' :: z.name.toList).contains '/' = false := by
        simpa [noSlash] using z.no_slash
      rw [text, parseV6?, clean, if_neg Bool.false_ne_true, List.takeWhile_append_of_pos unmarked,
        List.dropWhile_append_of_pos unmarked, List.takeWhile_cons, List.dropWhile_cons]
      simp only [ne_eq, not_true_eq_false, decide_false, Bool.false_eq_true, if_false,
        List.append_nil, groups?_groupsText eight, Option.bind_eq_bind, Option.bind_some,
        zone?_name, ofGroups?_toList]

/-- Every address is what its text is read as. -/
theorem parse?_text (ip : IpAddress) : parse? ip.text = some ip := by
  rw [parse?, text, String.toList_ofList, parseChars?]
  cases ip with
  | v4 a b c d => rw [parseV4?_text]
  | v6 groups zone =>
      have eight : groups.toList.length = 8 := groups.length_toList
      obtain ⟨before, rest, parts⟩ := List.append_of_mem (colon_mem_groupsText eight)
      have clean : '.' ∉ before := fun member =>
        groupsText_clean (parts ▸ List.mem_append_left _ member) (by decide)
      have foreign : parseV4? (textChars (.v6 groups zone)) = none := by
        change parseV4? (groupsText groups.toList ++ _) = none
        rw [parts, List.append_assoc, List.cons_append]
        exact parseV4?_colon clean _
      rw [foreign]
      exact parseV6?_text groups zone

/-! Which texts name a zone. -/

theorem parseV4?_percent {cs : List Char} (h : '%' ∈ cs) : parseV4? cs = none := by
  obtain ⟨piece, member, inside⟩ := mem_splitAt h (by decide : '%' ≠ '.')
  have foreign : octet? piece = none := by
    have digits : piece.all Char.isDigit = false :=
      List.all_eq_false.2 ⟨'%', inside, by decide⟩
    simp [octet?, digits]
  have pieces : (splitAt '.' cs).mapM octet? = none := by
    obtain ⟨before, after, parts⟩ := List.append_of_mem member
    rw [parts, List.mapM_append, List.mapM_cons, foreign]
    cases before.mapM octet? <;> rfl
  rw [parseV4?, pieces]

theorem zoneText_of_ofGroups? {groups : List UInt16} {zone : Option Zone} {ip : IpAddress}
    (h : ofGroups? groups zone = some ip) : (ip.zoneText = "" ↔ zone = none) := by
  unfold ofGroups? at h
  split at h
  · cases h
    cases zone with
    | none => exact ⟨fun _ => rfl, fun _ => rfl⟩
    | some z => exact ⟨fun empty => absurd empty z.name_ne, nofun⟩
  · cases h

theorem zoneText_of_parseV6? {cs : List Char} {ip : IpAddress} (h : parseV6? cs = some ip) :
    ip.zoneText = "" ↔ '%' ∉ cs := by
  unfold parseV6? at h
  split at h
  · cases h
  obtain ⟨groups, _, h⟩ := Option.bind_eq_some_iff.1 h
  split at h
  · next nothing =>
    have clean : '%' ∉ cs := fun member => by
      simpa using List.dropWhile_eq_nil_iff.1 nothing '%' member
    exact ⟨fun _ => clean, fun _ => (zoneText_of_ofGroups? h).2 rfl⟩
  · next c rest zoned =>
    obtain ⟨zone, _, h⟩ := Option.bind_eq_some_iff.1 h
    have marked : '%' ∈ cs := by
      by_contra clean
      rw [List.dropWhile_eq_nil_iff.2 fun c member => by
        simpa using fun same : c = '%' => clean (same ▸ member)] at zoned
      cases zoned
    refine ⟨fun empty => ?_, fun clean => absurd marked clean⟩
    cases (zoneText_of_ofGroups? h).1 empty

/-- An address has a zone exactly if its text has a percent sign. -/
theorem zoneText_of_parse? {text : String} {ip : IpAddress} (h : parse? text = some ip) :
    ip.zoneText = "" ↔ '%' ∉ text.toList := by
  rw [parse?, parseChars?] at h
  split at h
  · next parts =>
    cases h
    refine ⟨fun _ marked => ?_, fun _ => rfl⟩
    rw [parseV4?_percent marked] at parts
    cases parts
  · exact zoneText_of_parseV6? h

end ContentTracker.IpAddress
