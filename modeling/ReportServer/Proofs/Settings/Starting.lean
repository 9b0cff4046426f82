import ReportServer.Api.App
import ReportServer.Directory.Source
import ReportServer.Proofs.Net.SocketAddress
import ReportServer.Settings.Listen

/-!
# What checked settings are enough for

The server is started with settings that have passed the check. What is left to do with them is to choose the
directory, to read the address to listen on and to build the layers around the handlers. The check leaves nothing to
choose for the directory. It does not look at the host: the host is read together with the port when the address is
asked for, and that is where a host that is not an address is refused. The layers can be built for every list of
origins that does not hold the wildcard.
-/

namespace ReportServer.Settings

open Directory (MeReply MeRequest Source)
open Http (CorsPolicy)
open Net (SocketAddress)

variable {s : Settings}

/-! ## The check -/

/-- Settings that make sense. -/
structure Sensible (s : Settings) : Prop where
  url : s.database.url.isEmpty = false
  port : s.server.port ≠ 0
  connections : s.database.minConnections ≤ s.database.maxConnections
  provider : s.directory.provider = graphProvider ∧ (Text.trim s.directory.graphBaseUrl).isEmpty = false ∨
    s.directory.provider = stubProvider
  timeout : s.reports.queryTimeoutSecs ≠ 0

theorem check_eq_ok_iff : s.check = .ok () ↔ s.Sensible := by
  have hcheck : s.check = .ok () ↔ s.fault? = none := by
    unfold check
    cases s.fault? <;> simp
  rw [hcheck]
  unfold fault?
  constructor
  · intro h
    split_ifs at h with hurl hport hconnections hprovider hbase htimeout
    refine ⟨by simpa using hurl, hport, UInt32.not_lt.mp hconnections, ?_, htimeout⟩
    by_cases hgraph : s.directory.provider = graphProvider
    · exact .inl ⟨hgraph, by simpa [hgraph] using hbase⟩
    · exact .inr (by simpa [hgraph] using hprovider)
  · intro h
    rw [if_neg (by simp [h.url]), if_neg h.port, if_neg (UInt32.not_lt.mpr h.connections), if_neg, if_neg,
      if_neg h.timeout]
    · intro hbase
      rcases h.provider with hgraph | hstub
      · simp [hgraph.2] at hbase
      · exact absurd (hbase.1.symm.trans hstub) (by decide)
    · intro hother
      rcases h.provider with hgraph | hstub
      · exact hother.1 hgraph.1
      · exact hother.2 hstub

/-! ## The directory -/

/-- There is a directory for settings that make sense, the remote one or the stub. -/
theorem Sensible.directory (h : s.Sensible) (remote : MeRequest → MeReply) :
    ∃ d, (Source.ofSettings s.directory remote).value = .ok d := by
  unfold Source.ofSettings
  rcases h.provider with ⟨hgraph, -⟩ | hstub
  · rw [if_pos hgraph]
    exact ⟨_, rfl⟩
  · have hnot : ¬s.directory.provider = graphProvider := by
      rw [hstub]
      decide
    rw [if_neg hnot, if_pos hstub]
    exact ⟨_, rfl⟩

/-! ## The address -/

/-- An address is listened on if the host is an address, and it is the host's with the port. -/
theorem Server.address_eq_ok_iff {s : Server} {a : SocketAddress} :
    s.address = .ok a ↔ Net.Literal s.port.toNat s.host.toList a := by
  rw [← Net.parse?_append_iff s.port.toNat_lt, address, hostPort]
  cases SocketAddress.parse? (s.host ++ ":" ++ toString s.port.toNat) <;> simp

/-- A host that is not an address is refused, with what was read in the error. -/
theorem Server.address_eq_error {s : Server} (h : ∀ a, ¬Net.Literal s.port.toNat s.host.toList a) :
    s.address = .error
      (.invalid ("Invalid server address " ++ s.hostPort ++ ": invalid socket address syntax")) := by
  have hnone : SocketAddress.parse? s.hostPort = none := by
    rw [Option.eq_none_iff_forall_ne_some]
    intro a ha
    exact h a ((Net.parse?_append_iff s.port.toNat_lt).mp ha)
  rw [address, hnone]

/-! ## The layers -/

/-- The wildcard can be sent as a header, so it is never among the entries that are left out. -/
theorem ofList_eq_none_iff {origins : List String} :
    CorsPolicy.ofList origins = none ↔ CorsPolicy.wildcard ∈ origins := by
  have hsent : Http.isHeaderValue CorsPolicy.wildcard = true := by decide
  cases origins with
  | nil => simp [CorsPolicy.ofList]
  | cons o origins =>
    rcases eq_or_ne CorsPolicy.wildcard o with rfl | ho
    · simp [CorsPolicy.ofList, hsent]
    · simp [CorsPolicy.ofList, hsent, ho]

/-- The layers cannot be built exactly for a list with the wildcard. -/
theorem ofSettings_eq_none_iff {service : Export.Service} {lookUp : Api.LookUp} :
    Api.App.ofSettings s service lookUp = none ↔ CorsPolicy.wildcard ∈ s.security.corsOrigins := by
  rw [Api.App.ofSettings, Option.map_eq_none_iff, ofList_eq_none_iff]

theorem ofSettings_isSome (h : CorsPolicy.wildcard ∉ s.security.corsOrigins) (service : Export.Service)
    (lookUp : Api.LookUp) : ∃ a, Api.App.ofSettings s service lookUp = some a :=
  Option.ne_none_iff_exists'.mp (mt ofSettings_eq_none_iff.mp h)

/-! ## Starting -/

/--
Settings that pass the check have a directory, and the layers can be built for them if the wildcard is not among the
origins. The address is there exactly if the host is an IPv4 address or an IPv6 address in brackets; every other host
is the error that shows host and port.
-/
theorem started (h : s.check = .ok ()) :
    (∀ remote, ∃ d, (Source.ofSettings s.directory remote).value = .ok d) ∧
      (∀ a, s.server.address = .ok a ↔ Net.Literal s.server.port.toNat s.server.host.toList a) ∧
      ((∀ a, ¬Net.Literal s.server.port.toNat s.server.host.toList a) → s.server.address = .error
        (.invalid ("Invalid server address " ++ s.server.hostPort ++ ": invalid socket address syntax"))) ∧
      (CorsPolicy.wildcard ∉ s.security.corsOrigins →
        ∀ service lookUp, ∃ a, Api.App.ofSettings s service lookUp = some a) :=
  ⟨(check_eq_ok_iff.mp h).directory, fun _ => Server.address_eq_ok_iff, Server.address_eq_error, ofSettings_isSome⟩

/-- Settings in which nothing but the host and the address of the database is set. -/
def ofHost (host : String) : Settings :=
  ⟨{ Server.unset with host }, Database.unset "postgres://db/reports", Logging.unset, Security.unset, Users.unset,
    Reports.unset⟩

/-- The loopback address is written with most of its zeros left out. -/
theorem started_loopback :
    (ofHost "[::1]").check = .ok () ∧
      (ofHost "[::1]").server.address = .ok (.v6 [0, 0, 0, 0, 0, 0, 0, 1] 0 8080) ∧
      (∀ remote, ∃ d, (Source.ofSettings (ofHost "[::1]").directory remote).value = .ok d) ∧
      ∀ service lookUp, ∃ a, Api.App.ofSettings (ofHost "[::1]") service lookUp = some a := by
  have hcheck : (ofHost "[::1]").check = .ok () := by decide +kernel
  obtain ⟨hdirectory, haddress, -, hlayers⟩ := started hcheck
  have hdigits : ∀ c ∈ ['1'], (Net.digitIn 16 c).isSome = true := by
    intro c hc
    obtain rfl := List.mem_singleton.mp hc
    decide
  have hone : Net.Group ['1'] 1 := ⟨⟨by decide, hdigits, by decide, by decide⟩, by decide⟩
  have hliteral : Net.Literal 8080 "[::1]".toList (.v6 [0, 0, 0, 0, 0, 0, 0, 1] 0 8080) :=
    .v6 (.shortened .none (.cons hone .none) (by decide)) .none
  exact ⟨hcheck, (haddress _).mpr hliteral, hdirectory, hlayers (by decide)⟩

/-- The check lets a host name pass that cannot be listened on, so passing it is not enough to start. -/
theorem not_started_localhost :
    ¬∀ s : Settings, s.check = .ok () →
      (∃ a, s.server.address = .ok a) ∧
        (∀ remote, ∃ d, (Source.ofSettings s.directory remote).value = .ok d) ∧
        ∀ service lookUp, ∃ a, Api.App.ofSettings s service lookUp = some a := by
  intro h
  obtain ⟨⟨a, ha⟩, -⟩ := h (ofHost "localhost") (by decide +kernel)
  rcases (Server.address_eq_ok_iff.mp ha).head? with hbracket | hdigit
  · exact absurd hbracket (by decide)
  · exact absurd hdigit (by decide)

/-- The check does not look at the origins either, so with the wildcard among them it is passed and nothing is built. -/
theorem not_built_wildcard : ∃ s : Settings, s.check = .ok () ∧ s.security.corsOrigins = ["*"] ∧
    ∀ service lookUp, Api.App.ofSettings s service lookUp = none := by
  refine ⟨{ ofHost "[::1]" with security := { Security.unset with corsOrigins := ["*"] } }, by decide +kernel, rfl, ?_⟩
  exact fun service lookUp => ofSettings_eq_none_iff.mpr (by decide)

end ReportServer.Settings
