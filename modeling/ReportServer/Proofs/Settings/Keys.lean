import ReportServer.Proofs.Settings.Values

/-!
# The settings one by one

Settings are read section by section, and a section field by field. What comes of it can be said of each setting alone:
it has the value that is read from what is found at its key, and if nothing is found there, the value that the setting
has when nobody sets it (`has_of_read`). That there is no section at all is only a way to find nothing at the keys of
the section.
-/

namespace ReportServer.Settings

open Json (lookup?)

variable {S α : Type}

/-! ## What a setting is -/

/-- What a value is, if it is read from what is found, or else the value for when nothing is. -/
def Gives (read : Tree → Except ReadError α) (unset : Option α) (found : Option Tree) (a : α) : Prop :=
  match found with
  | some t => read t = .ok a
  | none => unset = some a

/-- A setting of a section. -/
structure Setting (S : Type) where
  Value : Type
  name : String
  kind : Kind Value
  /-- The value when nobody sets it, if there is one. -/
  unset : Option Value
  of : S → Value

/-- The setting has the value that is read from what is found for it. -/
def Setting.Has (k : Setting S) (found : Option Tree) (s : S) : Prop := Gives k.kind.read k.unset found (k.of s)

/-- The setting has the value that the word on it is read as, or without a word the value it has when nobody sets it. -/
def Setting.Made (k : Setting S) (word : Option Json.Value) (s : S) : Prop :=
  match word with
  | some v => k.kind.Says v (k.of s)
  | none => k.unset = some (k.of s)

theorem Setting.Has.made {k : Setting S} {origin : String} {word : Option Json.Value} {s : S}
    (h : k.Has (word.map (.ofValue origin)) s) : k.Made word s := by
  cases word with
  | none => exact h
  | some v => exact k.kind.read_eq_ok_iff.mp h

/-- A word gives a setting one value only. -/
theorem Setting.Made.unique {k : Setting S} {word : Option Json.Value} {s s' : S} (h : k.Made word s) (h' : k.Made word s') :
    k.of s = k.of s' := by
  cases word with
  | none => exact Option.some.inj (h.symm.trans h')
  | some v => exact k.kind.unique h h'

/-- The settings of the server section. -/
def Server.settings : List (Setting Server) := [
  ⟨String, "host", .text, some "0.0.0.0", Server.host⟩,
  ⟨UInt16, "port", .uint16, some 8080, Server.port⟩,
  ⟨UInt64, "request_timeout_secs", .uint64, some 30, Server.requestTimeoutSecs⟩]

/-- The settings of the database section. The address has to be set. -/
def Database.settings : List (Setting Database) := [
  ⟨String, "url", .text, none, Database.url⟩,
  ⟨UInt32, "max_connections", .uint32, some 20, Database.maxConnections⟩,
  ⟨UInt32, "min_connections", .uint32, some 2, Database.minConnections⟩,
  ⟨UInt64, "connect_timeout_secs", .uint64, some 10, Database.connectTimeoutSecs⟩,
  ⟨UInt64, "idle_timeout_secs", .uint64, some 600, Database.idleTimeoutSecs⟩]

/-- The settings of the logging section. -/
def Logging.settings : List (Setting Logging) := [
  ⟨String, "level", .text, some "info", Logging.level⟩,
  ⟨String, "format", .text, some "json", Logging.format⟩]

/-- The settings of the security section. -/
def Security.settings : List (Setting Security) := [
  ⟨List String, "cors_origins", .texts, some [], Security.corsOrigins⟩,
  ⟨Bool, "hsts_enabled", .truth, some false, Security.hstsEnabled⟩]

/-- The settings of the directory section. -/
def Users.settings : List (Setting Users) := [
  ⟨String, "provider", .text, some "graph", Users.provider⟩,
  ⟨String, "graph_base_url", .text, some "https://graph.microsoft.com/v1.0", Users.graphBaseUrl⟩,
  ⟨UInt64, "timeout_ms", .uint64, some 5000, Users.timeoutMs⟩,
  ⟨String, "stub_user_id", .text, some "00000000-0000-0000-0000-000000000000", Users.stubUserId⟩,
  ⟨String, "stub_display_name", .text, some "Local Developer", Users.stubDisplayName⟩,
  ⟨Option String, "stub_email", .optionalText, some none, Users.stubEmail⟩,
  ⟨String, "stub_user_principal_name", .text, some "developer@localhost", Users.stubPrincipalName⟩]

/-- The settings of the reports section. -/
def Reports.settings : List (Setting Reports) := [
  ⟨UInt64, "query_timeout_secs", .uint64, some 120, Reports.queryTimeoutSecs⟩,
  ⟨String, "output_base_url", .text, some "/reports", Reports.outputBaseUrl⟩]

/-! ## Reading a section -/

section Reading

variable {f : Fields Tree ReadError} {name : String} {read : Tree → Except ReadError α} {value a : α}

theorem readAt_eq_ok_iff {t : Tree} : f.readAt name read t = .ok a ↔ read t = .ok a := by
  unfold Fields.readAt
  cases read t <;> simp

theorem gives_of_withDefault (h : f.withDefault name read value = .ok a) :
    Gives read (some value) (f.find? name) a := by
  unfold Fields.withDefault at h
  cases hfound : f.find? name with
  | none =>
    rw [hfound] at h
    exact congrArg some (Except.ok.inj h)
  | some t =>
    rw [hfound] at h
    exact readAt_eq_ok_iff.mp h

theorem gives_of_required (h : f.required name read = .ok a) : Gives read none (f.find? name) a := by
  unfold Fields.required at h
  cases hfound : f.find? name with
  | none => rw [hfound] at h; cases h
  | some t =>
    rw [hfound] at h
    exact readAt_eq_ok_iff.mp h

/-- The fields of a table are its members, and a structure is read from them once they have been looked at. -/
theorem exists_fields {t : Tree} {ms : List (String × Tree)} {typeName : String} {names : List String}
    {checks : List (String × (Tree → Except ReadError Unit))} {rest : Fields Tree ReadError → Except ReadError α}
    (h : ((Tree.format.fields typeName names t).bind fun f => (f.check checks).bind fun _ => rest f) = .ok a)
    (ht : t.table? = some ms) : ∃ f : Fields Tree ReadError, f.find? = (lookup? · ms) ∧ rest f = .ok a := by
  obtain ⟨f, hf, h⟩ := bind_eq_ok.mp h
  obtain ⟨-, -, h⟩ := bind_eq_ok.mp h
  refine ⟨f, ?_, h⟩
  cases t with
  | leaf | list => cases ht
  | table o members =>
    obtain rfl := Except.ok.inj hf
    obtain rfl := Option.some.inj ht
    rfl

end Reading

variable {t : Tree} {ms : List (String × Tree)}

theorem Server.has_of_read {s : Server} (h : Server.read Tree.format t = .ok s) (ht : t.table? = some ms) :
    ∀ k ∈ Server.settings, k.Has (lookup? k.name ms) s := by
  obtain ⟨f, hfind, h⟩ := exists_fields h ht
  obtain ⟨host, hhost, h⟩ := bind_eq_ok.mp h
  obtain ⟨port, hport, h⟩ := bind_eq_ok.mp h
  obtain ⟨timeout, htimeout, h⟩ := bind_eq_ok.mp h
  obtain ⟨-, -, h⟩ := bind_eq_ok.mp h
  obtain rfl := Except.ok.inj h
  simp only [Server.settings, List.forall_mem_cons, ← congrFun hfind]
  exact ⟨gives_of_withDefault hhost, gives_of_withDefault hport, gives_of_withDefault htimeout, by simp⟩

theorem Database.has_of_read {s : Database} (h : Database.read Tree.format t = .ok s) (ht : t.table? = some ms) :
    ∀ k ∈ Database.settings, k.Has (lookup? k.name ms) s := by
  obtain ⟨f, hfind, h⟩ := exists_fields h ht
  obtain ⟨url, hurl, h⟩ := bind_eq_ok.mp h
  obtain ⟨most, hmost, h⟩ := bind_eq_ok.mp h
  obtain ⟨least, hleast, h⟩ := bind_eq_ok.mp h
  obtain ⟨connect, hconnect, h⟩ := bind_eq_ok.mp h
  obtain ⟨idle, hidle, h⟩ := bind_eq_ok.mp h
  obtain ⟨-, -, h⟩ := bind_eq_ok.mp h
  obtain rfl := Except.ok.inj h
  simp only [Database.settings, List.forall_mem_cons, ← congrFun hfind]
  exact ⟨gives_of_required hurl, gives_of_withDefault hmost, gives_of_withDefault hleast,
    gives_of_withDefault hconnect, gives_of_withDefault hidle, by simp⟩

theorem Logging.has_of_read {s : Logging} (h : Logging.read Tree.format t = .ok s) (ht : t.table? = some ms) :
    ∀ k ∈ Logging.settings, k.Has (lookup? k.name ms) s := by
  obtain ⟨f, hfind, h⟩ := exists_fields h ht
  obtain ⟨level, hlevel, h⟩ := bind_eq_ok.mp h
  obtain ⟨format, hformat, h⟩ := bind_eq_ok.mp h
  obtain ⟨-, -, h⟩ := bind_eq_ok.mp h
  obtain rfl := Except.ok.inj h
  simp only [Logging.settings, List.forall_mem_cons, ← congrFun hfind]
  exact ⟨gives_of_withDefault hlevel, gives_of_withDefault hformat, by simp⟩

theorem Security.has_of_read {s : Security} (h : Security.read Tree.format t = .ok s) (ht : t.table? = some ms) :
    ∀ k ∈ Security.settings, k.Has (lookup? k.name ms) s := by
  obtain ⟨f, hfind, h⟩ := exists_fields h ht
  obtain ⟨origins, horigins, h⟩ := bind_eq_ok.mp h
  obtain ⟨hsts, hhsts, h⟩ := bind_eq_ok.mp h
  obtain ⟨-, -, h⟩ := bind_eq_ok.mp h
  obtain rfl := Except.ok.inj h
  simp only [Security.settings, List.forall_mem_cons, ← congrFun hfind]
  exact ⟨gives_of_withDefault horigins, gives_of_withDefault hhsts, by simp⟩

theorem Users.has_of_read {s : Users} (h : Users.read Tree.format t = .ok s) (ht : t.table? = some ms) :
    ∀ k ∈ Users.settings, k.Has (lookup? k.name ms) s := by
  obtain ⟨f, hfind, h⟩ := exists_fields h ht
  obtain ⟨provider, hprovider, h⟩ := bind_eq_ok.mp h
  obtain ⟨base, hbase, h⟩ := bind_eq_ok.mp h
  obtain ⟨timeout, htimeout, h⟩ := bind_eq_ok.mp h
  obtain ⟨id, hid, h⟩ := bind_eq_ok.mp h
  obtain ⟨name, hname, h⟩ := bind_eq_ok.mp h
  obtain ⟨email, hemail, h⟩ := bind_eq_ok.mp h
  obtain ⟨principal, hprincipal, h⟩ := bind_eq_ok.mp h
  obtain ⟨-, -, h⟩ := bind_eq_ok.mp h
  obtain rfl := Except.ok.inj h
  simp only [Users.settings, List.forall_mem_cons, ← congrFun hfind]
  exact ⟨gives_of_withDefault hprovider, gives_of_withDefault hbase, gives_of_withDefault htimeout,
    gives_of_withDefault hid, gives_of_withDefault hname, gives_of_withDefault hemail,
    gives_of_withDefault hprincipal, by simp⟩

theorem Reports.has_of_read {s : Reports} (h : Reports.read Tree.format t = .ok s) (ht : t.table? = some ms) :
    ∀ k ∈ Reports.settings, k.Has (lookup? k.name ms) s := by
  obtain ⟨f, hfind, h⟩ := exists_fields h ht
  obtain ⟨timeout, htimeout, h⟩ := bind_eq_ok.mp h
  obtain ⟨base, hbase, h⟩ := bind_eq_ok.mp h
  obtain ⟨-, -, h⟩ := bind_eq_ok.mp h
  obtain rfl := Except.ok.inj h
  simp only [Reports.settings, List.forall_mem_cons, ← congrFun hfind]
  exact ⟨gives_of_withDefault htimeout, gives_of_withDefault hbase, by simp⟩

/-! ## Reading all sections -/

/-- Where each section comes from. -/
structure Parts (ms : List (String × Tree)) (s : Settings) : Prop where
  server : Gives (Server.read Tree.format) none (lookup? "server" ms) s.server
  database : Gives (Database.read Tree.format) none (lookup? "database" ms) s.database
  logging : Gives (Logging.read Tree.format) none (lookup? "logging" ms) s.logging
  security : Gives (Security.read Tree.format) (some .unset) (lookup? "security" ms) s.security
  directory : Gives (Users.read Tree.format) none (lookup? "directory" ms) s.directory
  reports : Gives (Reports.read Tree.format) (some .unset) (lookup? "reports" ms) s.reports

theorem parts_of_read {s : Settings} (h : Settings.read Tree.format t = .ok s) (ht : t.table? = some ms) :
    Parts ms s := by
  obtain ⟨f, hfind, h⟩ := exists_fields h ht
  obtain ⟨server, hserver, h⟩ := bind_eq_ok.mp h
  obtain ⟨database, hdatabase, h⟩ := bind_eq_ok.mp h
  obtain ⟨logging, hlogging, h⟩ := bind_eq_ok.mp h
  obtain ⟨security, hsecurity, h⟩ := bind_eq_ok.mp h
  obtain ⟨directory, hdirectory, h⟩ := bind_eq_ok.mp h
  obtain ⟨reports, hreports, h⟩ := bind_eq_ok.mp h
  obtain ⟨-, -, h⟩ := bind_eq_ok.mp h
  obtain rfl := Except.ok.inj h
  constructor <;> rw [← congrFun hfind]
  · exact gives_of_required hserver
  · exact gives_of_required hdatabase
  · exact gives_of_required hlogging
  · exact gives_of_withDefault hsecurity
  · exact gives_of_required hdirectory
  · exact gives_of_withDefault hreports

/-- A setting of a section as a setting of the whole. -/
def Setting.within (part : Settings → S) (k : Setting S) : Setting Settings :=
  ⟨k.Value, k.name, k.kind, k.unset, k.of ∘ part⟩

/-- The settings of a section with the name of the section. -/
def inSection (name : String) (part : Settings → S) (ks : List (Setting S)) : List (String × Setting Settings) :=
  ks.map fun k => (name, k.within part)

/-- All settings, each with the name of its section. -/
def allSettings : List (String × Setting Settings) :=
  inSection "server" Settings.server Server.settings ++ inSection "database" Settings.database Database.settings ++
    inSection "logging" Settings.logging Logging.settings ++
    inSection "security" Settings.security Security.settings ++
    inSection "directory" Settings.directory Users.settings ++ inSection "reports" Settings.reports Reports.settings

/-- They are all: settings that agree in them are the same. -/
theorem eq_of_allSettings {s s' : Settings} (h : ∀ k ∈ allSettings, k.2.of s = k.2.of s') : s = s' := by
  obtain ⟨⟨_, _, _⟩, ⟨_, _, _, _, _⟩, ⟨_, _⟩, ⟨_, _⟩, ⟨_, _, _, _, _, _, _⟩, ⟨_, _⟩⟩ := s
  obtain ⟨⟨_, _, _⟩, ⟨_, _, _, _, _⟩, ⟨_, _⟩, ⟨_, _⟩, ⟨_, _, _, _, _, _, _⟩, ⟨_, _⟩⟩ := s'
  simpa [and_assoc, allSettings, inSection, Setting.within, Server.settings, Database.settings, Logging.settings,
    Security.settings, Users.settings, Reports.settings] using h

/-- The settings of a section have the values of what is found for them, whether the section is there or not. -/
theorem has_inSection {name : String} {part : Settings → S} {ks : List (Setting S)} {s : Settings}
    {read : Tree → Except ReadError S} {unset : Option S} (hgives : Gives read unset (lookup? name ms) (part s))
    (hread : ∀ (t : Tree) (members : List (String × Tree)), read t = .ok (part s) → t.table? = some members →
      ∀ k ∈ ks, k.Has (lookup? k.name members) (part s))
    (hunset : unset = some (part s) → ∀ k ∈ ks, k.unset = some (k.of (part s))) :
    ∀ k ∈ inSection name part ks, ∀ x, Finds Tree.table? [k.2.name] (lookup? k.1 ms) x → k.2.Has x s := by
  intro pair hpair x hx
  obtain ⟨k, hk, rfl⟩ := List.mem_map.mp hpair
  simp only [Setting.within] at hx
  generalize lookup? name ms = found at hgives hx
  cases hx with
  | absent => exact hunset hgives k hk
  | @inside _ _ t members _ ht hx =>
    have hhas := hread t members hgives ht k hk
    generalize lookup? k.name members = inner at hhas hx
    cases hx <;> exact hhas

theorem Security.settings_unset : ∀ k ∈ Security.settings, k.unset = some (k.of .unset) := by
  simp [Security.settings, Security.unset]

theorem Reports.settings_unset : ∀ k ∈ Reports.settings, k.unset = some (k.of .unset) := by
  simp [Reports.settings, Reports.unset]

/-- **Every setting has the value of what is found at its key.** -/
theorem has_of_read {s : Settings} (h : Settings.read Tree.format t = .ok s) {k : String × Setting Settings}
    (hk : k ∈ allSettings) {x : Option Tree} (hx : Finds Tree.table? [k.1, k.2.name] (some t) x) : k.2.Has x s := by
  cases hx with
  | @inside _ _ _ ms _ ht hx =>
    have hparts := parts_of_read h ht
    simp only [allSettings, List.mem_append] at hk
    rcases hk with ((((hk | hk) | hk) | hk) | hk) | hk
    · exact has_inSection hparts.server (fun _ _ h ht => Server.has_of_read h ht) (fun h => nomatch h) k hk x hx
    · exact has_inSection hparts.database (fun _ _ h ht => Database.has_of_read h ht) (fun h => nomatch h) k hk x hx
    · exact has_inSection hparts.logging (fun _ _ h ht => Logging.has_of_read h ht) (fun h => nomatch h) k hk x hx
    · refine has_inSection hparts.security (fun _ _ h ht => Security.has_of_read h ht) (fun h => ?_) k hk x hx
      exact Option.some.inj h ▸ Security.settings_unset
    · exact has_inSection hparts.directory (fun _ _ h ht => Users.has_of_read h ht) (fun h => nomatch h) k hk x hx
    · refine has_inSection hparts.reports (fun _ _ h ht => Reports.has_of_read h ht) (fun h => ?_) k hk x hx
      exact Option.some.inj h ▸ Reports.settings_unset

end ReportServer.Settings
