import ReportServer.Database.ColumnType
import ReportServer.Proofs.Database.Wire

/-!
# Values, what is sent for them, and what cells show of them

For each type of a column there are the names the database has for it (`Named`), the bytes that are sent for a value
of it (`Sent`), and the cell that shows the value (`Shows`). All three are said type by type, without the functions
that go by them, and then compared with these.
-/

namespace ReportServer.Database

open Table (Cell Kind)

/-! ## Names -/

/-- `Named name t`: the database has this name for the type. Other names are not supported. -/
inductive Named : String → ColumnType → Prop where
  | int2 : Named "INT2" .int2
  | int4 : Named "INT4" .int4
  | int8 : Named "INT8" .int8
  | float4 : Named "FLOAT4" .float4
  | float8 : Named "FLOAT8" .float8
  | bool : Named "BOOL" .bool
  | text : Named "TEXT" .text
  | varchar : Named "VARCHAR" .text
  | bpchar : Named "BPCHAR" .text
  | name : Named "NAME" .text
  | citext : Named "CITEXT" .text
  | timestamp : Named "TIMESTAMP" .timestamp
  | timestamptz : Named "TIMESTAMPTZ" .timestamptz
  | date : Named "DATE" .date
  | uuid : Named "UUID" .uuid

namespace ColumnType

variable {name : String} {t : ColumnType}

theorem named_of_mem_names : ∀ x ∈ names, Named x.1 x.2 := by
  simp only [names, List.forall_mem_cons]
  exact ⟨.int2, .int4, .int8, .float4, .float8, .bool, .text, .varchar, .bpchar, .name, .citext, .timestamp,
    .timestamptz, .date, .uuid, nofun⟩

theorem ofName?_eq_some_iff : ofName? name = some t ↔ Named name t := by
  constructor
  · intro h
    obtain ⟨⟨name', t'⟩, hfind, rfl⟩ := Option.map_eq_some_iff.mp h
    obtain rfl : name' = name := by simpa using List.find?_some hfind
    exact named_of_mem_names _ (List.mem_of_find?_eq_some hfind)
  · intro h
    cases h <;> rfl

theorem ofName?_eq_none_iff : ofName? name = none ↔ ∀ t : ColumnType, ¬ Named name t := by
  simp only [← ofName?_eq_some_iff, Option.eq_none_iff_forall_ne_some, ne_eq]

end ColumnType

/-- A name is the name of one type only. -/
theorem Named.unique {name : String} {t t' : ColumnType} (h : Named name t) (h' : Named name t') : t = t' :=
  Option.some.inj ((ColumnType.ofName?_eq_some_iff.mpr h).symm.trans (ColumnType.ofName?_eq_some_iff.mpr h'))

/-! ## What is sent -/

/-- `t.Sent a bytes`: this is sent for the value `a` of a column of type `t`. Numbers have the width of their type,
moments count microseconds and dates days since the year 2000, and a text is its UTF-8. -/
def ColumnType.Sent : (t : ColumnType) → t.Value → List UInt8 → Prop
  | int2, i, bytes => bytes = bytesOfInt 2 i.toInt
  | int4, i, bytes => bytes = bytesOfInt 4 i.toInt
  | int8, i, bytes => bytes = bytesOfInt 8 i.toInt
  | float4, x, bytes => bytes = bytesOfNat 4 x.toNat
  | float8, x, bytes => bytes = bytesOfNat 8 x.bits.toNat
  | bool, b, bytes => bytes = [if b then 1 else 0]
  | text, s, bytes => bytes = Text.utf8 s
  | timestamp, m, bytes =>
    ∃ micros : Int64, Moment.ofMicrosSince2000 micros.toInt = some m ∧ bytes = bytesOfInt 8 micros.toInt
  | timestamptz, m, bytes =>
    ∃ micros : Int64, Moment.ofMicrosSince2000 micros.toInt = some m ∧ bytes = bytesOfInt 8 micros.toInt
  | date, d, bytes => ∃ days : Int32, Date.ofDaysSince2000 days.toInt = some d ∧ bytes = bytesOfInt 4 days.toInt
  | uuid, id, bytes => bytes = id.toList

/-! ## The written form of an id -/

/-- `HexOf bytes ds`: the bytes in hexadecimal digits, two for each. -/
inductive HexOf : List UInt8 → List Char → Prop where
  | nil : HexOf [] []
  | cons {b : UInt8} {bytes : List UInt8} {high low : Char} {ds : List Char} :
    "0123456789abcdef".toList[b.toNat / 16]? = some high → "0123456789abcdef".toList[b.toNat % 16]? = some low →
    HexOf bytes ds → HexOf (b :: bytes) (high :: low :: ds)

/-- `Written bytes s`: the digits of the bytes, with a hyphen behind the 8th, the 12th, the 16th and the 20th. -/
def Written (bytes : List UInt8) (s : String) : Prop :=
  ∃ ds : List Char, HexOf bytes ds ∧ s.toList = ds.take 8 ++ '-' :: (ds.drop 8).take 4 ++ '-' :: (ds.drop 12).take 4 ++
    '-' :: (ds.drop 16).take 4 ++ '-' :: ds.drop 20

theorem hexDigit_eq {n : Nat} (h : n < 16) : "0123456789abcdef".toList[n]? = some (lowerHexDigit n) := by
  have hall : ∀ n < 16, "0123456789abcdef".toList[n]? = some (lowerHexDigit n) := by decide
  exact hall n h

theorem hexOf_iff {bytes : List UInt8} {ds : List Char} : HexOf bytes ds ↔ ds = bytes.flatMap lowerHex := by
  have hhigh : ∀ b : UInt8, b.toNat / 16 < 16 := fun b => by have := b.toNat_lt; omega
  have hlow : ∀ b : UInt8, b.toNat % 16 < 16 := fun b => Nat.mod_lt _ (by decide)
  constructor
  · intro h
    induction h with
    | nil => rfl
    | @cons b bytes high low ds h1 h2 _ ih =>
        obtain rfl := Option.some.inj ((hexDigit_eq (hhigh b)).symm.trans h1)
        obtain rfl := Option.some.inj ((hexDigit_eq (hlow b)).symm.trans h2)
        rw [ih]
        rfl
  · rintro rfl
    induction bytes with
    | nil => exact .nil
    | cons b bytes ih => exact .cons (hexDigit_eq (hhigh b)) (hexDigit_eq (hlow b)) ih

theorem take_flatMap_lowerHex (bytes : List UInt8) (n : Nat) :
    (bytes.flatMap lowerHex).take (2 * n) = (bytes.take n).flatMap lowerHex := by
  induction n generalizing bytes with
  | zero => rfl
  | succ n ih =>
      cases bytes with
      | nil => rfl
      | cons b rest => simp [lowerHex, Nat.mul_add, ih]

theorem drop_flatMap_lowerHex (bytes : List UInt8) (n : Nat) :
    (bytes.flatMap lowerHex).drop (2 * n) = (bytes.drop n).flatMap lowerHex := by
  induction n generalizing bytes with
  | zero => rfl
  | succ n ih =>
      cases bytes with
      | nil => rfl
      | cons b rest => simp [lowerHex, Nat.mul_add, ih]

theorem written_iff {bytes : List UInt8} {s : String} (h : bytes.length = 16) :
    Written bytes s ↔ s = uuidText bytes := by
  have hlast : (bytes.drop 10).take 6 = bytes.drop 10 := List.take_of_length_le (by simp [h])
  have hgroups : ∀ start size : Nat, (((bytes.flatMap lowerHex).drop (2 * start)).take (2 * size))
      = ((bytes.drop start).take size).flatMap lowerHex := by
    intro start size
    rw [drop_flatMap_lowerHex, take_flatMap_lowerHex]
  have htext : (uuidText bytes).toList = (bytes.flatMap lowerHex).take 8 ++
      '-' :: ((bytes.flatMap lowerHex).drop 8).take 4 ++ '-' :: ((bytes.flatMap lowerHex).drop 12).take 4 ++
      '-' :: ((bytes.flatMap lowerHex).drop 16).take 4 ++ '-' :: (bytes.flatMap lowerHex).drop 20 := by
    rw [uuidText, String.toList_ofList]
    simp only [hlast, ← drop_flatMap_lowerHex bytes 10, ← hgroups]
    rfl
  simp only [Written, hexOf_iff, exists_eq_left, ← htext, String.toList_inj]

/-! ## What cells show -/

/-- `t.Shows a cell`: the cell shows the value `a` of a column of type `t`. -/
def ColumnType.Shows : (t : ColumnType) → t.Value → Cell → Prop
  | int2, i, cell => ∃ n : Int64, cell = .integer n ∧ n.toInt = i.toInt
  | int4, i, cell => ∃ n : Int64, cell = .integer n ∧ n.toInt = i.toInt
  | int8, i, cell => cell = .integer i
  | float4, x, cell => cell = .float (.ofBinary32 x)
  | float8, x, cell => cell = .float x
  | bool, b, cell => cell = .boolean b
  | text, s, cell => cell = .text s
  | timestamp, m, cell => cell = .timestamp m
  | timestamptz, m, cell => cell = .timestamp m
  | date, d, cell => cell = .date d
  | uuid, id, cell => ∃ s : String, cell = .text s ∧ Written id.toList s

/-- `t.ShowsValue value cell`: the same of a value that may be null. -/
def ColumnType.ShowsValue (t : ColumnType) : Option t.Value → Cell → Prop
  | none, cell => cell = .null
  | some a, cell => t.Shows a cell

namespace ColumnType

variable {t : ColumnType} {cell : Cell}

/-- The cell of a value is the one that shows it. -/
theorem shows_iff {a : t.Value} : t.Shows a cell ↔ cell = t.cellOf a := by
  cases t with
  | int2 =>
      have hsame : ∀ n : Int64, n.toInt = Int16.toInt a ↔ n = Int16.toInt64 a := fun n => by
        rw [← Int64.toInt_inj, Int16.toInt_toInt64]
      simp [Shows, cellOf, hsame]
  | int4 =>
      have hsame : ∀ n : Int64, n.toInt = Int32.toInt a ↔ n = Int32.toInt64 a := fun n => by
        rw [← Int64.toInt_inj, Int32.toInt_toInt64]
      simp [Shows, cellOf, hsame]
  | uuid => simp [Shows, cellOf, written_iff a.length_toList]
  | _ => rfl

theorem showsValue_iff {value : Option t.Value} : t.ShowsValue value cell ↔ cell = t.cell value := by
  cases value with
  | none => rfl
  | some a => exact shows_iff

/-- A cell is null where there is no value, and otherwise of the kind of its column. -/
theorem kind?_cell (t : ColumnType) (value : Option t.Value) : (t.cell value).kind? = value.map fun _ => t.kind := by
  cases value with
  | none => rfl
  | some a => cases t <;> rfl

end ColumnType

end ReportServer.Database
