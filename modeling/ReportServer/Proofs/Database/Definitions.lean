import ReportServer.Database.Definitions
import ReportServer.Proofs.Database.Driver
import ReportServer.Proofs.Report.Extension
import ReportServer.Proofs.Traversal

/-!
# Listing and looking up agree

A definition can be reached on two ways, by listing and by its id, and both begin with a row in which anything may
stand for the extension. If the extension names a format, the row is listed, and under its id is found what is listed;
if not, the listing passes over it, and under its id is found what is wrong with it. So whoever lists never fails
because of a row, and whoever looks up is never told that a report is missing while there is a row for it.
-/

namespace ReportServer

open Report (Definition ExportError Extension Stored)

/-! ## Stored definitions -/

namespace Report

/-- `Carries x d`: the definition is the stored one, field by field, with the format its extension names. -/
structure Carries (x : Stored) (d : Definition) : Prop where
  id : d.id = x.id
  name : d.name = x.name
  query : d.query = x.query
  extension : Extension.parse x.extension = .ok d.extension
  sheetNumber : d.sheetNumber = x.sheetNumber
  createdBy : d.createdBy = x.createdBy
  createdAt : d.createdAt = x.createdAt

/-- Whether the extension names a format. -/
def Stored.isUsable (x : Stored) : Bool := (Extension.parse x.extension).isOk

theorem infix_toList_append (a b c : String) : b.toList <:+: (a ++ b ++ c).toList := by
  rw [String.toList_append, String.toList_append]
  exact List.infix_append _ _ _

theorem UnknownExtension.infix_message (e : UnknownExtension) : e.value.toList <:+: e.message.toList :=
  infix_toList_append _ e.value _

namespace Stored

variable {x : Stored} {d : Definition}

theorem definition_eq_ok_iff : x.definition = .ok d ↔ Carries x d := by
  rw [definition]
  constructor
  · intro h
    split at h
    · rename_i extension hparse
      injection h with h
      subst h
      exact ⟨rfl, rfl, rfl, hparse, rfl, rfl, rfl⟩
    · exact absurd h (by simp)
  · intro h
    rw [h.extension]
    obtain ⟨id, name, query, extension, sheetNumber, createdBy, createdAt⟩ := d
    obtain ⟨rfl, rfl, rfl, -, rfl, rfl, rfl⟩ := h
    rfl

/-- A stored definition is usable exactly if there is a definition that carries it. -/
theorem isUsable_iff : x.isUsable = true ↔ ∃ d : Definition, Carries x d := by
  simp only [← definition_eq_ok_iff, isUsable, definition]
  cases Extension.parse x.extension <;> simp [Except.isOk, Except.toBool]

/-- What is wrong with one that is not usable is said with the text that stands for its extension. -/
theorem definition_of_not_isUsable (h : ¬ x.isUsable = true) :
    ∃ said : String, x.definition = .error (.configuration said) ∧ x.extension.toList <:+: said.toList := by
  rw [isUsable] at h
  cases hparse : Extension.parse x.extension with
  | ok extension =>
      rw [hparse] at h
      exact absurd rfl h
  | error e =>
      have he : e = ⟨x.extension⟩ := Extension.eq_of_parse_eq_error hparse
      have hdefinition : x.definition = .error (.ofUnknownExtension ⟨x.extension⟩) := by rw [definition, hparse, he]
      exact ⟨_, hdefinition, UnknownExtension.infix_message ⟨x.extension⟩⟩

end Stored

end Report

namespace Database

open Report (Carries)

/-! ## Rows of definitions -/

/-- `InColumns x stands`: under the name of each column of the table of definitions, with its type, stands the field of
the stored definition. -/
structure InColumns (x : Stored) (stands : (t : ColumnType) → String → Option t.Value → Prop) : Prop where
  id : stands .int8 "id" (some x.id)
  name : stands .text "report_name" (some x.name)
  query : stands .text "query" (some x.query)
  extension : stands .text "file_extension" (some x.extension)
  sheetNumber : stands .int4 "sheet_number" (some x.sheetNumber)
  createdBy : stands .text "created_by" x.createdBy
  createdAt : stands .timestamptz "created_at" (some x.createdAt)

/-- `SentAs x row`: the row is what is sent for a stored definition; no two of its columns have the same name. -/
def SentAs (x : Stored) (row : Row) : Prop :=
  InColumns x fun t name value => ∃ v : WireValue, (ColumnIndex.name name).values row = [v] ∧ t.Sends value v

/-- `ReadAs d x row`: the driver reads the row as a stored definition. -/
def ReadAs (d : Driver) (x : Stored) (row : Row) : Prop :=
  InColumns x fun t name value => d.get t row (.name name) = .ok value

theorem InColumns.imp {x : Stored} {stands stands' : (t : ColumnType) → String → Option t.Value → Prop}
    (h : InColumns x stands) (himp : ∀ (t : ColumnType) (name : String) (value : Option t.Value),
      stands t name value → stands' t name value) : InColumns x stands' where
  id := himp _ _ _ h.id
  name := himp _ _ _ h.name
  query := himp _ _ _ h.query
  extension := himp _ _ _ h.extension
  sheetNumber := himp _ _ _ h.sheetNumber
  createdBy := himp _ _ _ h.createdBy
  createdAt := himp _ _ _ h.createdAt

/-- What is sent for a stored definition is read as that. -/
theorem SentAs.readAs {d : Driver} (hd : d.Documented) {x : Stored} {row : Row} (h : SentAs x row) : ReadAs d x row :=
  h.imp fun _ _ _ ⟨_, hv, hsends⟩ => hd.get_of_sends hv hsends

theorem Driver.required_eq_ok_iff {d : Driver} {row : Row} {t : ColumnType} {name : String} {a : t.Value} :
    d.required row t name = .ok a ↔ d.get t row (.name name) = .ok (some a) := by
  rw [Driver.required]
  cases d.get t row (.name name) with
  | error detail => simp [Bind.bind, Except.bind]
  | ok value => cases value <;> simp [Bind.bind, Except.bind, pure, Except.pure]

/-- **A row comes to a stored definition exactly if the driver reads it as that.** -/
theorem storedOfRow_eq_ok_iff {d : Driver} {x : Stored} {row : Row} : storedOfRow d row = .ok x ↔ ReadAs d x row := by
  constructor
  · intro h
    obtain ⟨id, hid, h⟩ := bind_eq_ok.mp h
    obtain ⟨name, hname, h⟩ := bind_eq_ok.mp h
    obtain ⟨query, hquery, h⟩ := bind_eq_ok.mp h
    obtain ⟨extension, hextension, h⟩ := bind_eq_ok.mp h
    obtain ⟨sheet, hsheet, h⟩ := bind_eq_ok.mp h
    obtain ⟨createdBy, hcreatedBy, h⟩ := bind_eq_ok.mp h
    obtain ⟨createdAt, hcreatedAt, h⟩ := bind_eq_ok.mp h
    obtain rfl := Except.ok.inj h
    exact {
      id := Driver.required_eq_ok_iff.mp hid
      name := Driver.required_eq_ok_iff.mp hname
      query := Driver.required_eq_ok_iff.mp hquery
      extension := Driver.required_eq_ok_iff.mp hextension
      sheetNumber := Driver.required_eq_ok_iff.mp hsheet
      createdBy := hcreatedBy
      createdAt := Driver.required_eq_ok_iff.mp hcreatedAt }
  · intro h
    rw [storedOfRow, Driver.required_eq_ok_iff.mpr h.id, Driver.required_eq_ok_iff.mpr h.name,
      Driver.required_eq_ok_iff.mpr h.query, Driver.required_eq_ok_iff.mpr h.extension,
      Driver.required_eq_ok_iff.mpr h.sheetNumber, Driver.optional, h.createdBy,
      Driver.required_eq_ok_iff.mpr h.createdAt]
    rfl

/-! ## Answers -/

variable {l : Link} {id : Int64} {group : Option String}

theorem value_listStored : (listStored l group).value
    = (l.run listStatement.sql [.text group]).value.bind (storedOfRows l.driver) := rfl

theorem value_findStored : (findStored l id).value
    = (l.run findStatement.sql [.integer id]).value.bind (storedOfFirst l.driver) := rfl

theorem value_list : (list l group).value = match (listStored l group).value with
    | .error detail => .error (.database detail)
    | .ok stored => .ok (usable stored).value := by
  rw [list, Trail.Traced.value_bind]
  cases (listStored l group).value <;> rfl

theorem value_find : (find l id).value = match (findStored l id).value with
    | .error detail => .error (.database detail)
    | .ok none => .ok none
    | .ok (some stored) => stored.definition.map some := by
  rw [find, Trail.Traced.value_bind]
  cases (findStored l id).value with
  | error detail => rfl
  | ok found => cases found <;> simp only [Trail.Traced.value_pure]

/-- What is usable of stored definitions are the definitions that carry them, in order. -/
theorem carries_usable (stored : List Stored) :
    List.Forall₂ Carries (stored.filter Stored.isUsable) (usable stored).value := by
  induction stored with
  | nil => exact .nil
  | cons x rest ih =>
      rw [usable]
      cases hx : x.definition with
      | ok d =>
          have hcarries : Carries x d := Stored.definition_eq_ok_iff.mp hx
          rw [List.filter_cons_of_pos (Stored.isUsable_iff.mpr ⟨d, hcarries⟩)]
          exact .cons hcarries ih
      | error e =>
          have hnot : ¬ x.isUsable = true := fun husable => by
            obtain ⟨d, hd⟩ := Stored.isUsable_iff.mp husable
            rw [Stored.definition_eq_ok_iff.mpr hd] at hx
            exact absurd hx (by simp)
          rw [List.filter_cons_of_neg hnot]
          exact ih

section Sent

variable {d : Driver} (hd : d.Documented) {rows : List Row}

include hd

/-- Rows that are sent for stored definitions are read as these. -/
theorem storedOfRows_of_sent {stored : List Stored} (h : List.Forall₂ SentAs stored rows) :
    storedOfRows d rows = .ok stored :=
  mapM_eq_ok_iff.mpr (h.flip.imp fun _ _ hsent => storedOfRow_eq_ok_iff.mpr (SentAs.readAs hd hsent))

/-- Of at most one row that row is read. -/
theorem storedOfFirst_of_sent {found : Option Stored} (h : List.Forall₂ SentAs found.toList rows) :
    storedOfFirst d rows = .ok found := by
  cases found with
  | none =>
      rw [List.forall₂_nil_left_iff.mp h]
      rfl
  | some x =>
      obtain ⟨row, rest, hsent, -, rfl⟩ := List.forall₂_cons_left_iff.mp h
      rw [storedOfFirst, storedOfRow_eq_ok_iff.mpr (hsent.readAs hd)]
      rfl

end Sent

/-! ## What a database holds -/

/-- The definitions a database holds, in the order it lists them in, and which groups they are in. -/
structure Holdings where
  stored : List Stored
  distinct : (stored.map Stored.id).Nodup
  inGroup : Stored → String → Bool

namespace Holdings

variable (held : Holdings)

/-- What is listed of a group, or of everything. -/
def listed : Option String → List Stored
  | none => held.stored
  | some group => held.stored.filter fun x => held.inGroup x group

/-- What is found under an id. -/
def find? (id : Int64) : Option Stored := held.stored.find? fun x => x.id == id

variable {held}

theorem mem_of_mem_listed {x : Stored} (h : x ∈ held.listed group) : x ∈ held.stored := by
  cases group with
  | none => exact h
  | some g => exact (List.mem_filter.mp h).1

end Holdings

/-- `Serves s held`: what the session answers is sent from these holdings. -/
structure Serves (s : Session) (held : Holdings) : Prop where
  listing : ∀ group : Option String, ∃ rows : List Row,
    s.run listStatement.sql [.text group] = .ok rows ∧ List.Forall₂ SentAs (held.listed group) rows
  lookup : ∀ id : Int64, ∃ rows : List Row,
    s.run findStatement.sql [.integer id] = .ok rows ∧ List.Forall₂ SentAs (held.find? id).toList rows

section Serves

variable {s : Session} {d : Driver} {held : Holdings} (hd : d.Documented) (hserves : Serves s held)

include hd hserves

/-- What is listed are the definitions that carry what is usable, in order. -/
theorem exists_list (group : Option String) : ∃ ds : List Definition, (list (.up s d) group).value = .ok ds
    ∧ List.Forall₂ Carries ((held.listed group).filter Stored.isUsable) ds := by
  obtain ⟨rows, hrun, hsent⟩ := hserves.listing group
  refine ⟨(usable (held.listed group)).value, ?_, carries_usable (held.listed group)⟩
  have hstored : (listStored (.up s d) group).value = .ok (held.listed group) := by
    have hanswer : ((Link.up s d).run listStatement.sql [.text group]).value = .ok rows := hrun
    rw [value_listStored, hanswer]
    exact storedOfRows_of_sent hd hsent
  rw [value_list, hstored]

/-- What is found is made of what is held. -/
theorem value_find_of_serves : (find (.up s d) id).value = match held.find? id with
    | none => .ok none
    | some x => x.definition.map some := by
  obtain ⟨rows, hrun, hsent⟩ := hserves.lookup id
  have hstored : (findStored (.up s d) id).value = .ok (held.find? id) := by
    have hanswer : ((Link.up s d).run findStatement.sql [.integer id]).value = .ok rows := hrun
    rw [value_findStored, hanswer]
    exact storedOfFirst_of_sent hd hsent
  rw [value_find, hstored]
  cases held.find? id <;> rfl

theorem value_find_of_mem {x : Stored} (hx : x ∈ held.stored) :
    (find (.up s d) x.id).value = x.definition.map some := by
  have hfound : held.find? x.id = some x := (find?_key_eq_some_iff held.distinct).mpr ⟨hx, rfl⟩
  rw [value_find_of_serves hd hserves, hfound]

/-- What is found under the id of a row is the definition that carries it, if there is one. -/
theorem value_find_eq_ok_some_iff {x : Stored} (hx : x ∈ held.stored) {definition : Definition} :
    (find (.up s d) x.id).value = .ok (some definition) ↔ Carries x definition := by
  rw [value_find_of_mem hd hserves hx, ← Stored.definition_eq_ok_iff]
  cases x.definition <;> simp [Except.map]

end Serves

/-! ## What is said of what is held -/

/-- `Agree l held`: over this link a listing and a look-up say the same of what is held. -/
structure Agree (l : Link) (held : Holdings) : Prop where
  /-- A listing shows what is usable, in order and with nothing changed, and does not fail. -/
  listed : ∀ group : Option String, ∃ ds : List Definition, (list l group).value = .ok ds
    ∧ List.Forall₂ Carries ((held.listed group).filter Stored.isUsable) ds
  /-- What is found under the id of a row is what is listed of it. -/
  found : ∀ (group : Option String) (x : Stored), x ∈ held.listed group → ∀ d : Definition,
    (find l x.id).value = .ok (some d) ↔
      ∃ ds : List Definition, (list l group).value = .ok ds ∧ d ∈ ds ∧ d.id = x.id
  /-- Under the id of a row that is not listed is found what is wrong with its extension, -/
  unlisted : ∀ (group : Option String) (x : Stored), x ∈ held.listed group →
    (∀ ds : List Definition, (list l group).value = .ok ds → ∀ d ∈ ds, d.id ≠ x.id) →
    ∃ said : String, (find l x.id).value = .error (.configuration said) ∧ x.extension.toList <:+: said.toList
  /-- and under an id that no row has nothing is found. -/
  missing : ∀ id : Int64, (∀ x ∈ held.stored, x.id ≠ id) → (find l id).value = .ok none

/-- `FailsAsDatabase l`: what goes wrong with the database is what a listing and a look-up over this link fail with. -/
structure FailsAsDatabase (l : Link) : Prop where
  listing : ∀ (group : Option String) (detail : String),
    (l.run listStatement.sql [.text group]).value = .error detail → (list l group).value = .error (.database detail)
  lookup : ∀ (id : Int64) (detail : String),
    (l.run findStatement.sql [.integer id]).value = .error detail → (find l id).value = .error (.database detail)
  /-- A row that is not read as a stored definition is a failure of the whole listing, -/
  unreadableListing : ∀ (group : Option String) (rows : List Row),
    (l.run listStatement.sql [.text group]).value = .ok rows →
    ∀ row ∈ rows, (∀ x : Stored, ¬ ReadAs l.driver x row) →
    ∃ detail : String, (list l group).value = .error (.database detail)
  /-- and of the look-up it was found in. -/
  unreadableLookup : ∀ (id : Int64) (row : Row) (rest : List Row),
    (l.run findStatement.sql [.integer id]).value = .ok (row :: rest) →
    (∀ x : Stored, ¬ ReadAs l.driver x row) → ∃ detail : String, (find l id).value = .error (.database detail)

theorem value_list_of_listStored_error {detail : String} (h : (listStored l group).value = .error detail) :
    (list l group).value = .error (.database detail) := by
  rw [value_list, h]

theorem value_find_of_findStored_error {detail : String} (h : (findStored l id).value = .error detail) :
    (find l id).value = .error (.database detail) := by
  rw [value_find, h]

theorem storedOfRow_error {d : Driver} {row : Row} (h : ∀ x : Stored, ¬ ReadAs d x row) :
    ∃ detail : String, storedOfRow d row = .error detail := by
  cases hrow : storedOfRow d row with
  | ok x => exact absurd (storedOfRow_eq_ok_iff.mp hrow) (h x)
  | error detail => exact ⟨detail, rfl⟩

theorem storedOfRows_error {d : Driver} {row : Row} {rows : List Row} (hrow : row ∈ rows)
    (h : ∀ x : Stored, ¬ ReadAs d x row) : ∃ detail : String, storedOfRows d rows = .error detail := by
  cases hrows : storedOfRows d rows with
  | error detail => exact ⟨detail, rfl⟩
  | ok stored =>
      obtain ⟨x, -, hx⟩ := exists_mem_of_forall₂ (mapM_eq_ok_iff.mp hrows).flip hrow
      exact absurd (storedOfRow_eq_ok_iff.mp hx) (h x)

theorem failsAsDatabase (l : Link) : FailsAsDatabase l where
  listing group detail hrun := value_list_of_listStored_error (by rw [value_listStored, hrun]; rfl)
  lookup id detail hrun := value_find_of_findStored_error (by rw [value_findStored, hrun]; rfl)
  unreadableListing group rows hrun row hrow hunread := by
    obtain ⟨detail, hrows⟩ := storedOfRows_error hrow hunread
    exact ⟨detail, value_list_of_listStored_error (by rw [value_listStored, hrun]; exact hrows)⟩
  unreadableLookup id row rest hrun hunread := by
    obtain ⟨detail, hrow⟩ := storedOfRow_error hunread
    refine ⟨detail, value_find_of_findStored_error ?_⟩
    rw [value_findStored, hrun, ok_bind, storedOfFirst, hrow]
    rfl

theorem agree_of_serves {s : Session} {d : Driver} {held : Holdings} (hd : d.Documented) (hserves : Serves s held) :
    Agree (.up s d) held where
  listed := exists_list hd hserves
  found group x hx definition := by
    obtain ⟨ds, hlist, hcarries⟩ := exists_list hd hserves group
    have hstored := Holdings.mem_of_mem_listed hx
    rw [value_find_eq_ok_some_iff hd hserves hstored]
    constructor
    · intro hdefinition
      have husable : x ∈ (held.listed group).filter Stored.isUsable :=
        List.mem_filter.mpr ⟨hx, Stored.isUsable_iff.mpr ⟨definition, hdefinition⟩⟩
      obtain ⟨listed, hlisted, hcarries'⟩ := exists_mem_of_forall₂ hcarries.flip husable
      obtain rfl : listed = definition := Except.ok.inj
        ((Stored.definition_eq_ok_iff.mpr hcarries').symm.trans (Stored.definition_eq_ok_iff.mpr hdefinition))
      exact ⟨ds, hlist, hlisted, hdefinition.id⟩
    · rintro ⟨ds', hlist', hlisted, hid⟩
      obtain rfl := Except.ok.inj (hlist.symm.trans hlist')
      -- the definition was made of a row with this id, and there is only one
      obtain ⟨y, hy, hydefinition⟩ := exists_mem_of_forall₂ hcarries hlisted
      have hy' := Holdings.mem_of_mem_listed (List.mem_filter.mp hy).1
      obtain rfl : y = x := List.inj_on_of_nodup_map held.distinct hy' hstored (hydefinition.id.symm.trans hid)
      exact hydefinition
  unlisted group x hx hunlisted := by
    obtain ⟨ds, hlist, hcarries⟩ := exists_list hd hserves group
    have hnot : ¬ x.isUsable = true := fun husable => by
      obtain ⟨listed, hlisted, hcarries'⟩ := exists_mem_of_forall₂ hcarries.flip (List.mem_filter.mpr ⟨hx, husable⟩)
      exact hunlisted ds hlist listed hlisted hcarries'.id
    obtain ⟨said, hsaid, hinfix⟩ := Stored.definition_of_not_isUsable hnot
    rw [value_find_of_mem hd hserves (Holdings.mem_of_mem_listed hx), hsaid]
    exact ⟨said, rfl, hinfix⟩
  missing id hnone := by
    have hfound : held.find? id = none := List.find?_eq_none.mpr fun x hx => by simpa using hnone x hx
    rw [value_find_of_serves hd hserves, hfound]

/-! ## A database that serves what it holds -/

/-- The row of a stored definition. -/
def rowOf (x : Stored) : Row :=
  [⟨⟨"id", "INT8"⟩, some (bytesOfInt 8 x.id.toInt)⟩, ⟨⟨"report_name", "VARCHAR"⟩, some (Text.utf8 x.name)⟩,
    ⟨⟨"query", "TEXT"⟩, some (Text.utf8 x.query)⟩, ⟨⟨"file_extension", "VARCHAR"⟩, some (Text.utf8 x.extension)⟩,
    ⟨⟨"sheet_number", "INT4"⟩, some (bytesOfInt 4 x.sheetNumber.toInt)⟩,
    ⟨⟨"created_by", "VARCHAR"⟩, x.createdBy.map Text.utf8⟩,
    ⟨⟨"created_at", "TIMESTAMPTZ"⟩, some (bytesOfInt 8 (Int64.ofInt x.createdAt.microsSince2000).toInt)⟩]

/-- A moment that is kept in microseconds. -/
def Keeps (m : Moment) : Prop := Moment.ofMicrosSince2000 (Int64.ofInt m.microsSince2000).toInt = some m

theorem sentAs_rowOf {x : Stored} (h : Keeps x.createdAt) : SentAs x (rowOf x) where
  id := ⟨_, rfl, .value .int8 rfl rfl⟩
  name := ⟨_, rfl, .value .varchar rfl rfl⟩
  query := ⟨_, rfl, .value .text rfl rfl⟩
  extension := ⟨_, rfl, .value .varchar rfl rfl⟩
  sheetNumber := ⟨_, rfl, .value .int4 rfl rfl⟩
  createdBy := by
    refine ⟨_, rfl, ?_⟩
    cases x.createdBy with
    | none => exact .null rfl
    | some name => exact .value .varchar rfl rfl
  createdAt := ⟨_, rfl, .value .timestamptz rfl ⟨_, h, rfl⟩⟩

/-- The session of a database that holds nothing else. -/
def Holdings.session (held : Holdings) : Session where
  prepare _ := .failed "no queries here"
  fetch _ := .failed "no queries here"
  run _ params := match params with
    | [.text group] => .ok ((held.listed group).map rowOf)
    | [.integer id] => .ok ((held.find? id).toList.map rowOf)
    | _ => .ok []

theorem serves_session {held : Holdings} (h : ∀ x ∈ held.stored, Keeps x.createdAt) : Serves held.session held := by
  have hsent : ∀ stored : List Stored, (∀ x ∈ stored, x ∈ held.stored) →
      List.Forall₂ SentAs stored (stored.map rowOf) := by
    intro stored hstored
    exact List.forall₂_map_right_iff.mpr (List.forall₂_same.mpr fun x hx => sentAs_rowOf (h x (hstored x hx)))
  constructor
  case listing =>
    intro group
    exact ⟨_, rfl, hsent _ fun x => Holdings.mem_of_mem_listed⟩
  case lookup =>
    intro id
    exact ⟨_, rfl, hsent _ fun x hx => List.mem_of_find?_eq_some (Option.mem_toList.mp hx)⟩

/-! ## At the top -/

/-- **A listing and a look-up agree**, whatever stands for the extensions, and both fail as the database does. -/
theorem list_find_agree {s : Session} {d : Driver} {held : Holdings} (hd : d.Documented) (hserves : Serves s held) :
    Agree (.up s d) held ∧ ∀ l : Link, FailsAsDatabase l :=
  ⟨agree_of_serves hd hserves, failsAsDatabase⟩

/-- Two reports, one of a group and one of none; the extension of the second names no format. -/
def twoReports : Holdings where
  stored :=
    [⟨7, "Weekly Orders", "SELECT 1", ".XLSX", 2, some "ops@example.com", ⟨⟨2024, 1, 1⟩, 9, 30, 0, 0⟩⟩,
      ⟨8, "Old Orders", "SELECT 2", "pdf", 1, none, ⟨⟨2024, 1, 1⟩, 9, 30, 0, 500000⟩⟩]
  distinct := by decide
  inGroup x group := x.id = 7 ∧ group = "sales"

theorem list_find_agree_two_reports : twoReports.stored.map Stored.isUsable = [true, false]
    ∧ plainDriver.Documented ∧ Serves twoReports.session twoReports
    ∧ Agree (.up twoReports.session plainDriver) twoReports := by
  have hkeeps : ∀ x ∈ twoReports.stored, Keeps x.createdAt := by
    unfold Keeps
    decide
  have hagree := list_find_agree documented_plainDriver (serves_session hkeeps)
  exact ⟨by decide, documented_plainDriver, serves_session hkeeps, hagree.1⟩

end Database

end ReportServer
