import ReportServer.Settings.Basic
import ReportServer.Text.Blank

/-!
# Checking settings

Settings that can be read may still make no sense. The rules are looked at in order and the first
that is broken is the error.
-/

namespace ReportServer.Settings

/-- What is wrong with settings. -/
inductive Fault where
  | missing (what : String)
  | invalid (what : String)
deriving DecidableEq, Repr

/-- The sentence that describes the fault. -/
def Fault.message : Fault → String
  | missing what => "Missing required configuration: " ++ what
  | invalid what => "Invalid configuration value: " ++ what

/-- The provider that asks the remote directory. -/
def graphProvider : String := "graph"

/-- The provider that knows one user. -/
def stubProvider : String := "stub"

/-- The first rule that settings break, if any. -/
def fault? (s : Settings) : Option Fault :=
  if s.database.url.isEmpty then
    some (.missing "RS__DATABASE__URL environment variable must be set")
  else if s.server.port = 0 then some (.invalid "Server port cannot be 0")
  else if s.database.maxConnections < s.database.minConnections then
    some (.invalid "min_connections cannot exceed max_connections")
  else if s.directory.provider ≠ graphProvider ∧ s.directory.provider ≠ stubProvider then
    some (.invalid ("directory.provider must be one of [\"graph\", \"stub\"], got '" ++
      s.directory.provider ++ "'"))
  else if s.directory.provider = graphProvider ∧ (Text.trim s.directory.graphBaseUrl).isEmpty then
    some (.missing "directory.graph_base_url is required for the graph provider")
  else if s.reports.queryTimeoutSecs = 0 then
    some (.invalid "reports.query_timeout_secs must be greater than 0")
  else none

/-- Check settings. -/
def check (s : Settings) : Except Fault Unit :=
  match s.fault? with
  | some f => .error f
  | none => .ok ()

end ReportServer.Settings
