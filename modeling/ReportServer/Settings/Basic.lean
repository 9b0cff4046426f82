import ReportServer.Decode.Fields

/-!
# Settings

What an operator can set, in six sections, with the value each setting has when nobody sets it.
The database address has none and must be set. The sections are read here from any kind of untyped
value; the names in errors are the names of the sections.
-/

namespace ReportServer.Settings

variable {V E : Type}

/-- Where the server listens and how long a request may take. -/
structure Server where
  host : String
  port : UInt16
  requestTimeoutSecs : UInt64
deriving DecidableEq, Repr

/-- How the database is reached. -/
structure Database where
  url : String
  maxConnections : UInt32
  minConnections : UInt32
  connectTimeoutSecs : UInt64
  idleTimeoutSecs : UInt64
deriving DecidableEq, Repr

/-- What is logged and in which form. -/
structure Logging where
  level : String
  format : String
deriving DecidableEq, Repr

/-- Which sites may call, and whether browsers are told to insist on encryption. -/
structure Security where
  corsOrigins : List String
  hstsEnabled : Bool
deriving DecidableEq, Repr

/-- Which directory knows the users, and the one user of the stub directory. -/
structure Users where
  provider : String
  graphBaseUrl : String
  timeoutMs : UInt64
  stubUserId : String
  stubDisplayName : String
  stubEmail : Option String
  stubPrincipalName : String
deriving DecidableEq, Repr

/-- How long a query may take and where exported files are said to be. -/
structure Reports where
  queryTimeoutSecs : UInt64
  outputBaseUrl : String
deriving DecidableEq, Repr

/-! ## Values when nothing is set -/

/-- The server section when nothing is set. -/
def Server.unset : Server := ⟨"0.0.0.0", 8080, 30⟩

/-- The logging section when nothing is set. -/
def Logging.unset : Logging := ⟨"info", "json"⟩

/-- The security section when nothing is set. -/
def Security.unset : Security := ⟨[], false⟩

/-- The directory section when nothing is set. -/
def Users.unset : Users :=
  ⟨"graph", "https://graph.microsoft.com/v1.0", 5000, "00000000-0000-0000-0000-000000000000",
    "Local Developer", none, "developer@localhost"⟩

/-- The reports section when nothing is set. -/
def Reports.unset : Reports := ⟨120, "/reports"⟩

/-- The database section of an address when nothing else is set. -/
def Database.unset (url : String) : Database := ⟨url, 20, 2, 10, 600⟩

/-! ## Reading -/

/-- Read the server section. -/
def Server.read (F : Format V E) (v : V) : Except E Server := do
  let f ← F.fields "ServerConfig" ["host", "port", "request_timeout_secs"] v
  f.check [("host", Fields.test F.string), ("port", Fields.test F.uint16),
    ("request_timeout_secs", Fields.test F.uint64)]
  let host ← f.withDefault "host" F.string unset.host
  let port ← f.withDefault "port" F.uint16 unset.port
  let timeout ← f.withDefault "request_timeout_secs" F.uint64 unset.requestTimeoutSecs
  f.finish
  return ⟨host, port, timeout⟩

/-- Read the database section. -/
def Database.read (F : Format V E) (v : V) : Except E Database := do
  let f ← F.fields "DatabaseConfig"
    ["url", "max_connections", "min_connections", "connect_timeout_secs", "idle_timeout_secs"] v
  f.check [("url", Fields.test F.string), ("max_connections", Fields.test F.uint32),
    ("min_connections", Fields.test F.uint32), ("connect_timeout_secs", Fields.test F.uint64),
    ("idle_timeout_secs", Fields.test F.uint64)]
  let url ← f.required "url" F.string
  let most ← f.withDefault "max_connections" F.uint32 (unset url).maxConnections
  let least ← f.withDefault "min_connections" F.uint32 (unset url).minConnections
  let connect ← f.withDefault "connect_timeout_secs" F.uint64 (unset url).connectTimeoutSecs
  let idle ← f.withDefault "idle_timeout_secs" F.uint64 (unset url).idleTimeoutSecs
  f.finish
  return ⟨url, most, least, connect, idle⟩

/-- Read the logging section. -/
def Logging.read (F : Format V E) (v : V) : Except E Logging := do
  let f ← F.fields "LoggingConfig" ["level", "format"] v
  f.check [("level", Fields.test F.string), ("format", Fields.test F.string)]
  let level ← f.withDefault "level" F.string unset.level
  let format ← f.withDefault "format" F.string unset.format
  f.finish
  return ⟨level, format⟩

/-- Read the security section. -/
def Security.read (F : Format V E) (v : V) : Except E Security := do
  let f ← F.fields "SecurityConfig" ["cors_origins", "hsts_enabled"] v
  f.check [("cors_origins", Fields.test F.strings), ("hsts_enabled", Fields.test F.bool)]
  let origins ← f.withDefault "cors_origins" F.strings unset.corsOrigins
  let hsts ← f.withDefault "hsts_enabled" F.bool unset.hstsEnabled
  f.finish
  return ⟨origins, hsts⟩

/-- Read the directory section. -/
def Users.read (F : Format V E) (v : V) : Except E Users := do
  let f ← F.fields "DirectoryConfig"
    ["provider", "graph_base_url", "timeout_ms", "stub_user_id", "stub_display_name", "stub_email",
      "stub_user_principal_name"] v
  f.check [("provider", Fields.test F.string), ("graph_base_url", Fields.test F.string),
    ("timeout_ms", Fields.test F.uint64), ("stub_user_id", Fields.test F.string),
    ("stub_display_name", Fields.test F.string), ("stub_email", Fields.test F.optionalString),
    ("stub_user_principal_name", Fields.test F.string)]
  let provider ← f.withDefault "provider" F.string unset.provider
  let base ← f.withDefault "graph_base_url" F.string unset.graphBaseUrl
  let timeout ← f.withDefault "timeout_ms" F.uint64 unset.timeoutMs
  let id ← f.withDefault "stub_user_id" F.string unset.stubUserId
  let displayName ← f.withDefault "stub_display_name" F.string unset.stubDisplayName
  let email ← f.withDefault "stub_email" F.optionalString unset.stubEmail
  let principal ← f.withDefault "stub_user_principal_name" F.string unset.stubPrincipalName
  f.finish
  return ⟨provider, base, timeout, id, displayName, email, principal⟩

/-- Read the reports section. -/
def Reports.read (F : Format V E) (v : V) : Except E Reports := do
  let f ← F.fields "ReportsConfig" ["query_timeout_secs", "output_base_url"] v
  f.check [("query_timeout_secs", Fields.test F.uint64), ("output_base_url", Fields.test F.string)]
  let timeout ← f.withDefault "query_timeout_secs" F.uint64 unset.queryTimeoutSecs
  let base ← f.withDefault "output_base_url" F.string unset.outputBaseUrl
  f.finish
  return ⟨timeout, base⟩

end Settings

/-- Everything an operator can set. -/
structure Settings where
  server : Settings.Server
  database : Settings.Database
  logging : Settings.Logging
  security : Settings.Security
  directory : Settings.Users
  reports : Settings.Reports
deriving DecidableEq, Repr

namespace Settings

variable {V E : Type}

/-- Read all sections. The security and reports sections may be left out. -/
def read (F : Format V E) (v : V) : Except E Settings := do
  let f ← F.fields "Config" ["server", "database", "logging", "security", "directory", "reports"] v
  f.check [("server", Fields.test (Server.read F)), ("database", Fields.test (Database.read F)),
    ("logging", Fields.test (Logging.read F)), ("security", Fields.test (Security.read F)),
    ("directory", Fields.test (Users.read F)), ("reports", Fields.test (Reports.read F))]
  let server ← f.required "server" (Server.read F)
  let database ← f.required "database" (Database.read F)
  let logging ← f.required "logging" (Logging.read F)
  let security ← f.withDefault "security" (Security.read F) .unset
  let directory ← f.required "directory" (Users.read F)
  let reports ← f.withDefault "reports" (Reports.read F) .unset
  f.finish
  return ⟨server, database, logging, security, directory, reports⟩

end Settings

end ReportServer
