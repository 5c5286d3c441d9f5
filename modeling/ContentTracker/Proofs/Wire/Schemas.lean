import ContentTracker.Proofs.Wire.Extent
import ContentTracker.Wire.Schema

/-! Reading undoes writing over the whole format. A value belongs to a shape when writing it by that
shape begins the steps that the shape names; whether they succeed is left to the writing. What is
read is data of the shape, and data stands for a value: an option that is there and its content
stand for the same. -/

namespace ContentTracker.Wire

mutual

def Datum.value : Datum → Value
  | .varint n => .int n
  | .flag b => .bool b
  | .fixed bs | .octets bs => .octets bs
  | .text s => .text s
  | .option none => .null
  | .option (some d) => d.value
  | .seq ds => .list (Datum.values ds)

def Datum.values : List Datum → List Value
  | [] => []
  | d :: rest => d.value :: Datum.values rest

end

/-- How a value of the shape is written. A varint and a flag are asked for their type only while
writing. -/
def Schema.item? : Schema → Value → Option Item
  | .varint, v => some (.varint v)
  | .flag, v => some (.flag v)
  | .fixed size, .octets bs => some (.fixed bs size)
  | .octets, .octets bs => some (.octets bs)
  | .text, .text s => some (.text s)
  | .option _, .null => some (.option none)
  | .option content, v => (content.item? v).map fun item => .option (some item)
  | .seq σ, .list vs => (vs.mapM σ.item?).map .seq
  | _, _ => none

/-- No sequence holds items that take no octet. The reader measures a count against the octets that
are left, so it would refuse such a sequence. -/
def Schema.Solid : Schema → Prop
  | .option content => content.Solid
  | .seq σ => σ ≠ .fixed 0 ∧ σ.Solid
  | _ => True

inductive Fits : Schema → Datum → Prop
  | varint (n : Nat) : Fits .varint (.varint n)
  | flag (b : Bool) : Fits .flag (.flag b)
  | fixed (bs : Octets) : Fits (.fixed bs.length) (.fixed bs)
  | octets (bs : Octets) : Fits .octets (.octets bs)
  | text (s : String) : Fits .text (.text s)
  | none (content : Schema) : Fits (.option content) (.option none)
  | some {content : Schema} {d : Datum} (fits : Fits content d) :
      Fits (.option content) (.option (some d))
  | seq {σ : Schema} {ds : List Datum} (each : ∀ d ∈ ds, Fits σ d) : Fits (.seq σ) (.seq ds)

theorem items_eq_map (ds : List Datum) : Datum.items ds = ds.map Datum.item := by
  induction ds with
  | nil => rw [Datum.items, List.map_nil]
  | cons d ds ih => rw [Datum.items, ih, List.map_cons]

theorem values_eq_map (ds : List Datum) : Datum.values ds = ds.map Datum.value := by
  induction ds with
  | nil => rw [Datum.values, List.map_nil]
  | cons d ds ih => rw [Datum.values, ih, List.map_cons]

/-! Data is read back as it was written. -/

/-- The least number of octets that data of a shape takes. -/
def Schema.least : Schema → Nat
  | .fixed size => size
  | _ => 1

theorem Schema.Solid.least_pos {σ : Schema} (solid : (Schema.seq σ).Solid) : 1 ≤ σ.least := by
  cases σ with
  | fixed size => exact Nat.one_le_iff_ne_zero.2 fun zero => solid.1 (congrArg Schema.fixed zero)
  | _ => exact Nat.le_refl 1

theorem steady_read {σ : Schema} (solid : σ.Solid) : Steady σ.least σ.read := by
  induction σ with
  | varint => exact steady_varint.map _
  | flag => exact steady_flag.map _
  | fixed size => exact (steady_take size).map _
  | octets => exact steady_octets.map _
  | text => exact steady_text.map _
  | option content ih => exact (steady_option (ih solid)).map _
  | seq σ ih => exact (steady_seq ((ih solid.2).weaken solid.least_pos)).map _

theorem undoes_datum {σ : Schema} {d : Datum} (fits : Fits σ d) (solid : σ.Solid) :
    Undoes σ.read (write d.item) d := by
  induction fits with
  | varint n =>
      rw [Datum.item, write]
      exact (undoes_writeInteger n).map _
  | flag b =>
      rw [Datum.item, write]
      exact (undoes_writeFlag b).map _
  | fixed bs =>
      rw [Datum.item, write, if_pos rfl]
      exact fun _ => (reads_take bs).map _
  | octets bs =>
      rw [Datum.item, write]
      exact (undoes_writeOctets bs).map _
  | text s =>
      rw [Datum.item, write]
      exact (undoes_text s).map _
  | none content =>
      rw [Datum.item]
      exact (undoes_option_none content.read).map _
  | some fits ih =>
      rw [Datum.item]
      exact (undoes_option_some (ih solid)).map _
  | @seq σ ds each ih =>
      have items := fun d member => ih d member solid.2
      rw [Datum.item, items_eq_map]
      refine (undoes_seq items fun d member unhindered empty => ?_).map _
      have taken := (steady_read solid.2).le_length (items d member unhindered)
      have least := solid.least_pos
      rw [empty, List.length_nil] at taken
      omega

/-! What is written for a value is what is written for data that stands for it. -/

/-- Each of the values is written as data of its own. -/
theorem exists_data {σ : Schema} {vs : List Value} {items : List Item}
    (each : ∀ v item, σ.item? v = some item → (write item).fault = none →
      ∃ d, Fits σ d ∧ d.item = item ∧ d.value = v)
    (values : vs.mapM σ.item? = some items) (unhindered : (writeAll items).fault = none) :
    ∃ ds : List Datum, (∀ d ∈ ds, Fits σ d) ∧ ds.map Datum.item = items ∧
      ds.map Datum.value = vs := by
  induction vs generalizing items with
  | nil =>
      cases values
      exact ⟨[], by simp, rfl, rfl⟩
  | cons v vs ih =>
      simp only [List.mapM_cons, Option.bind_eq_bind, Option.bind_eq_some_iff, Option.pure_def,
        Option.some.injEq] at values
      obtain ⟨item, head, later, tail, rfl⟩ := values
      rw [writeAll_cons, andThen_fault, Option.or_eq_none_iff] at unhindered
      obtain ⟨d, fits, rfl, rfl⟩ := each v item head unhindered.1
      obtain ⟨ds, all, rfl, rfl⟩ := ih tail unhindered.2
      exact ⟨d :: ds, List.forall_mem_cons.2 ⟨fits, all⟩, rfl, rfl⟩

/-- Where there is no content nothing but the mark of an option is written. -/
theorem Schema.item?_option {content : Schema} {v : Value} {item : Item}
    (value : (Schema.option content).item? v = some item) :
    v = .null ∧ item = .option none ∨
      ∃ inner, content.item? v = some inner ∧ item = .option (some inner) := by
  cases v
  case null =>
    cases value
    exact .inl ⟨rfl, rfl⟩
  all_goals
    obtain ⟨inner, given, rfl⟩ := Option.map_eq_some_iff.1 value
    exact .inr ⟨inner, given, rfl⟩

/-- Writing accepts a value only as data of the shape. -/
theorem exists_datum {σ : Schema} {v : Value} {item : Item} (value : σ.item? v = some item)
    (unhindered : (write item).fault = none) :
    ∃ d, Fits σ d ∧ d.item = item ∧ d.value = v := by
  induction σ generalizing v item with
  | varint =>
      cases value
      rw [write] at unhindered
      cases v with
      | int n =>
          cases n with
          | ofNat n =>
              exact ⟨.varint n, .varint n, by rw [Datum.item]; rfl, by rw [Datum.value]; rfl⟩
          | negSucc n => cases unhindered
      | _ => cases unhindered
  | flag =>
      cases value
      rw [write] at unhindered
      cases v with
      | bool b => exact ⟨.flag b, .flag b, by rw [Datum.item], by rw [Datum.value]⟩
      | _ => cases unhindered
  | fixed size =>
      cases v with
      | octets bs =>
          cases value
          rw [write] at unhindered
          split at unhindered
          · next fills =>
            obtain rfl := Int.ofNat_inj.1 fills
            exact ⟨.fixed bs, .fixed bs, by rw [Datum.item], by rw [Datum.value]⟩
          · cases unhindered
      | _ => cases value
  | octets =>
      cases v with
      | octets bs =>
          cases value
          exact ⟨.octets bs, .octets bs, by rw [Datum.item], by rw [Datum.value]⟩
      | _ => cases value
  | text =>
      cases v with
      | text s =>
          cases value
          exact ⟨.text s, .text s, by rw [Datum.item], by rw [Datum.value]⟩
      | _ => cases value
  | option content ih =>
      obtain ⟨rfl, rfl⟩ | ⟨inner, given, rfl⟩ := Schema.item?_option value
      · exact ⟨.option none, .none content, by rw [Datum.item], by rw [Datum.value]⟩
      · rw [write, andThen_fault] at unhindered
        obtain ⟨d, fits, rfl, rfl⟩ := ih given unhindered
        exact ⟨.option (some d), .some fits, by rw [Datum.item], by rw [Datum.value]⟩
  | seq σ ih =>
      cases v with
      | list vs =>
          obtain ⟨items, members, rfl⟩ := Option.map_eq_some_iff.1 value
          rw [write, andThen_fault, Option.or_eq_none_iff] at unhindered
          obtain ⟨ds, fits, rfl, rfl⟩ := exists_data (fun v item => ih) members unhindered.2
          exact ⟨.seq ds, .seq fits, by rw [Datum.item, items_eq_map],
            by rw [Datum.value, values_eq_map]⟩
      | _ => cases value

/-- What was written for a value of a shape reads to that value, and what follows it is left.
Options inside of options are no exception: nothing is ever written as the content of an option that
is there. -/
theorem read_encode {σ : Schema} {v : Value} {item : Item} {bs : Octets} (solid : σ.Solid)
    (value : σ.item? v = some item) (written : encode item = .ok bs) (offset : Nat)
    (rest : Octets) : (Datum.value <$> σ.read) ⟨offset, bs ++ rest⟩ =
      .ok v ⟨offset + bs.length, rest⟩ := by
  obtain ⟨unhindered, rfl⟩ := encode_eq_ok written
  obtain ⟨d, fits, rfl, rfl⟩ := exists_datum value unhindered
  exact (undoes_datum fits solid unhindered).map Datum.value offset rest

theorem read_encode_nested : (Schema.seq (.option (.seq .text))).Solid ∧
    (Datum.value <$> (Schema.seq (.option (.seq .text))).read) ⟨0, [2, 0, 1, 1, 1, 97] ++ [7]⟩ =
      .ok (.list [.null, .list [.text "a"]]) ⟨6, [7]⟩ := by
  let item : Item := .seq [.option none, .option (some (.seq [.text "a"]))]
  have solid : (Schema.seq (.option (.seq .text))).Solid := by simp [Schema.Solid]
  have written : encode item = .ok [2, 0, 1, 1, 1, 97] := by
    have size (n : Nat) (digit : n < 128) : writeInteger n = ⟨[UInt8.ofNat n], none⟩ := by
      have small : n < varintBound := Nat.lt_trans digit (by decide)
      simp only [writeInteger, small, if_true, varint_of_lt digit]
    simp only [item, encode, write, writeAll, writeOctets]
    rw [size _ (by decide), size _ (by decide), size _ (by decide)]
    rfl
  exact ⟨solid, read_encode solid rfl written 0 [7]⟩

/-- Items without octets cannot be read back: their number is above that of the octets left. -/
example : (Schema.seq (.fixed 0)).read ⟨0, [2]⟩ = .error (.countTooLarge 2 0 1) ⟨1, []⟩ := by
  rfl

end ContentTracker.Wire
