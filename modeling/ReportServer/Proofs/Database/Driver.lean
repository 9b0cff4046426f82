import ReportServer.Database.Link
import ReportServer.Proofs.Database.Values
import ReportServer.Proofs.Text.Bytes

/-!
# What is known of the driver

The driver is not part of the server, and what it reads is known as far as it is documented: `Driver.Documented` says
it in four sentences, and nothing here relies on more. They are about what the database sends; of bytes that are not
sent for any value, such as a day beyond the calendar, nothing is known, and neither is it where two columns have the
name that is asked for. A driver here always answers with a value or with what is wrong, so what follows is about the
values for which it does not give up altogether.

The sentences can be kept: `plainDriver` reads what is sent and refuses everything else.
-/

namespace ReportServer.Database

/-- The values of a row at an index. -/
def ColumnIndex.values : ColumnIndex → Row → List WireValue
  | place i, row => row[i]?.toList
  | name s, row => row.filter (·.column.name == s)

/-- What the driver is documented to do. -/
structure Driver.Documented (d : Driver) : Prop where
  /-- Where there is no value, none is read. -/
  absent : ∀ (t : ColumnType) (row : Row) (index : ColumnIndex), index.values row = [] →
    ∃ detail : String, d.get t row index = .error detail
  /-- A null is read as null, whatever the type, and nothing else is. -/
  null : ∀ (t : ColumnType) (row : Row) (index : ColumnIndex) (v : WireValue), index.values row = [v] →
    (d.get t row index = .ok none ↔ v.bytes = none)
  /-- A value is read as what it was sent for, if it stands in a column of the type that is asked for, -/
  sent : ∀ (t : ColumnType) (row : Row) (index : ColumnIndex) (v : WireValue) (a : t.Value) (bytes : List UInt8),
    index.values row = [v] → Named v.column.typeName t → v.bytes = some bytes → t.Sent a bytes →
    d.get t row index = .ok (some a)
  /-- and is refused if it stands in a column of another. -/
  mistyped : ∀ (t t' : ColumnType) (row : Row) (index : ColumnIndex) (v : WireValue), index.values row = [v] →
    Named v.column.typeName t' → t' ≠ t → v.bytes ≠ none → ∃ detail : String, d.get t row index = .error detail

/-- The driver of a link, while there is one, does what it is documented to do. -/
def Link.Documented : Link → Prop
  | down _ => True
  | up _ d => d.Documented

/-- `t.Sends value v`: this is sent in a column of type `t`, for a value or for null. -/
inductive ColumnType.Sends (t : ColumnType) : Option t.Value → WireValue → Prop where
  | null {v : WireValue} : v.bytes = none → t.Sends none v
  | value {v : WireValue} {a : t.Value} {bytes : List UInt8} : Named v.column.typeName t → v.bytes = some bytes →
    t.Sent a bytes → t.Sends (some a) v

/-- What is sent is read as what it was sent for. -/
theorem Driver.Documented.get_of_sends {d : Driver} (hd : d.Documented) {t : ColumnType} {row : Row}
    {index : ColumnIndex} {v : WireValue} {value : Option t.Value} (hv : index.values row = [v])
    (h : t.Sends value v) : d.get t row index = .ok value := by
  cases h with
  | null hnull => exact (hd.null t row index v hv).mpr hnull
  | value htype hbytes hsent => exact hd.sent t row index v _ _ hv htype hbytes hsent

/-! ## A driver that does so -/

/-- Read what is sent for a value. -/
def ColumnType.read : (t : ColumnType) → List UInt8 → Option t.Value
  | int2, bytes => some (Int16.ofInt (intOfBytes bytes))
  | int4, bytes => some (Int32.ofInt (intOfBytes bytes))
  | int8, bytes => some (Int64.ofInt (intOfBytes bytes))
  | float4, bytes => some (UInt32.ofNat (natOfBytes bytes))
  | float8, bytes => some (Decimal.Binary64.mk (UInt64.ofNat (natOfBytes bytes)))
  | bool, bytes => some (natOfBytes bytes != 0)
  | text, bytes => Text.ofUtf8? bytes
  | timestamp, bytes => Moment.ofMicrosSince2000 (intOfBytes bytes)
  | timestamptz, bytes => Moment.ofMicrosSince2000 (intOfBytes bytes)
  | date, bytes => Date.ofDaysSince2000 (intOfBytes bytes)
  | uuid, bytes => if h : bytes.length = 16 then some ⟨bytes.toArray, h⟩ else none

theorem ColumnType.read_of_sent {t : ColumnType} {a : t.Value} {bytes : List UInt8} (h : t.Sent a bytes) :
    t.read bytes = some a := by
  cases t with
  | int2 =>
      obtain rfl := h
      rw [read, intOfBytes_bytesOfInt (fits_int16 a), Int16.ofInt_toInt]
  | int4 =>
      obtain rfl := h
      rw [read, intOfBytes_bytesOfInt (fits_int32 a), Int32.ofInt_toInt]
  | int8 =>
      obtain rfl := h
      rw [read, intOfBytes_bytesOfInt (fits_int64 a), Int64.ofInt_toInt]
  | float4 =>
      obtain rfl := h
      rw [read, natOfBytes_bytesOfNat_of_lt (UInt32.toNat_lt a), UInt32.ofNat_toNat]
  | float8 =>
      obtain rfl := h
      rw [read, natOfBytes_bytesOfNat_of_lt (UInt64.toNat_lt a.bits), UInt64.ofNat_toNat]
  | bool =>
      obtain rfl := h
      cases a <;> rfl
  | text =>
      obtain rfl := h
      exact Text.ofUtf8?_utf8 a
  | timestamp =>
      obtain ⟨micros, hm, rfl⟩ := h
      rw [read, intOfBytes_bytesOfInt (fits_int64 micros), hm]
  | timestamptz =>
      obtain ⟨micros, hm, rfl⟩ := h
      rw [read, intOfBytes_bytesOfInt (fits_int64 micros), hm]
  | date =>
      obtain ⟨days, hd, rfl⟩ := h
      rw [read, intOfBytes_bytesOfInt (fits_int32 days), hd]
  | uuid =>
      obtain rfl := h
      rw [read, dif_pos a.length_toList]
      rfl

/-- A driver that reads what is sent, in a column of the type that is asked for, and nothing else. -/
def plainDriver : Driver where
  get t row index :=
    match index.values row with
    | [⟨_, none⟩] => .ok none
    | [⟨column, some bytes⟩] =>
      if ColumnType.ofName? column.typeName = some t then
        match t.read bytes with
        | some a => .ok (some a)
        | none => .error "malformed value"
      else .error "mismatched types"
    | _ => .error "no such column"
  unexpectedNull _ := "unexpected null"

theorem documented_plainDriver : plainDriver.Documented where
  absent t row index h := ⟨"no such column", by simp only [plainDriver, h]⟩
  null t row index v h := by
    obtain ⟨column, bytes⟩ := v
    cases bytes with
    | none => simp [plainDriver, h]
    | some bytes =>
        simp only [plainDriver, h, reduceCtorEq, iff_false]
        split
        · cases t.read bytes <;> simp
        · simp
  sent t row index v a bytes h htype hbytes hsent := by
    obtain ⟨column, sent⟩ := v
    obtain rfl : sent = some bytes := hbytes
    simp only [plainDriver, h, ColumnType.ofName?_eq_some_iff.mpr htype, if_true, ColumnType.read_of_sent hsent]
  mistyped t t' row index v h htype hne hbytes := by
    obtain ⟨column, bytes⟩ := v
    obtain ⟨bytes, rfl⟩ := Option.ne_none_iff_exists'.mp hbytes
    have hother : ColumnType.ofName? column.typeName ≠ some t := fun htype' =>
      hne (htype.unique (ColumnType.ofName?_eq_some_iff.mp htype'))
    exact ⟨"mismatched types", by simp only [plainDriver, h, if_neg hother]⟩

end ReportServer.Database
