import ReportServer.Settings.Check
import ReportServer.Settings.Layers

/-!
# Loading settings

Settings are loaded from a document that must be there, a local document that may be there, and the
environment. Names of the environment begin with `RS__`, and a double underscore separates the
names of a path. All names are taken in lower case.
-/

namespace ReportServer.Settings

/-- A document of settings and where it was found. -/
structure Document where
  origin : String
  content : Json.Value
deriving Repr

/-- Why settings could not be loaded. -/
inductive LoadError where
  /-- The document that must be there is not. -/
  | missingDocument (name : String)
  /-- The root of a document is not a table. -/
  | badRoot (found origin : String)
  | unreadable (e : ReadError)
  | rejected (f : Fault)
deriving DecidableEq, Repr

/-- The sentence that describes the error. -/
def LoadError.message : LoadError → String
  | missingDocument name => "configuration file " ++ Text.quoted name ++ " not found"
  | badRoot found origin =>
    "invalid type: " ++ found ++ ", expected a map in " ++ origin ++ " in " ++ origin
  | unreadable e => e.message
  | rejected f => f.message

mutual

/-- A value of a document as a tree. Whole numbers of 63 bits and a sign stay whole. -/
def Tree.ofJson (origin : String) : Json.Value → Tree
  | .null => .leaf (some origin) .null
  | .bool b => .leaf (some origin) (.bool b)
  | .int i => .leaf (some origin) (if Int64.minValue.toInt ≤ i ∧ i ≤ Int64.maxValue.toInt then .int i else .float (.ofInt i))
  | .float x => .leaf (some origin) (.float x)
  | .str s => .leaf (some origin) (.str s)
  | .arr items => .list (some origin) (treesOfJson origin items)
  | .obj ms => .table (some origin) (membersOfJson origin ms)

/-- The values of an array as trees. -/
def treesOfJson (origin : String) : List Json.Value → List Tree
  | [] => []
  | v :: rest => Tree.ofJson origin v :: treesOfJson origin rest

/-- The members of an object as trees, with names in lower case. -/
def membersOfJson (origin : String) : List (String × Json.Value) → List (String × Tree)
  | [] => []
  | (name, v) :: rest => (Text.lowercase name, Tree.ofJson origin v) :: membersOfJson origin rest

end

mutual

/-- A tree with the members of each table sorted and the last of equal names kept. -/
def Tree.sorted : Tree → Tree
  | .leaf o v => .leaf o v
  | .list o items => .list o (sortedItems items)
  | .table o ms => .table o (Json.canonicalMembers (sortedTables ms))

/-- The items of a list in canonical form. -/
def sortedItems : List Tree → List Tree
  | [] => []
  | t :: rest => t.sorted :: sortedItems rest

/-- The members of a table, each in canonical form. -/
def sortedTables : List (String × Tree) → List (String × Tree)
  | [] => []
  | (n, t) :: rest => (n, t.sorted) :: sortedTables rest

end

/-- How the error about a root names what was found there. -/
def describeRoot : Tree → String
  | .leaf _ v => v.describeTyped
  | t => t.describe

/-- The keys a document sets. -/
def Document.layer (d : Document) : Except LoadError Layer :=
  match (Tree.ofJson d.origin d.content.canonical).sorted with
  | .table _ ms => .ok ms
  | t => .error (.badRoot (describeRoot t) d.origin)

/-- What every variable of the environment that sets something begins with, in lower case. -/
def variablePrefix : List Char := ['r', 's', '_', '_']

/-- Write a dot for every two underscores, from left to right. -/
def dotted : List Char → List Char
  | '_' :: '_' :: rest => '.' :: dotted rest
  | c :: rest => c :: dotted rest
  | [] => []

/-- The key a variable of the environment sets, if it sets one. -/
def keyOfVariable (name : String) : Option String :=
  let s := (Text.lowercase name).toList
  if variablePrefix.isPrefixOf s then
    some (String.ofList (dotted (s.drop variablePrefix.length)))
  else none

/-- The origin of what the environment sets. -/
def environmentOrigin : String := "the environment"

/-- The keys the environment sets. -/
def environmentLayer (env : List (String × String)) : Layer :=
  Json.canonicalMembers <| env.filterMap fun (name, value) =>
    (keyOfVariable name).map fun key => (key, .leaf (some environmentOrigin) (.str value))

/-- The name of the document that must be there. -/
def defaultDocument : String := "config/default"

/-- The layers of a document that may be there. -/
def optionalLayer (d : Option Document) : Except LoadError (List Layer) :=
  match d with
  | some d => d.layer.map ([·])
  | none => .ok []

/-- Load settings: read what the sources say together, and check it. -/
def load (default local_ : Option Document) (env : List (String × String)) :
    Except LoadError Settings := do
  let bottom ← match default with
    | some d => d.layer
    | none => throw (.missingDocument defaultDocument)
  let middle ← optionalLayer local_
  let tree := merged ([bottom] ++ middle ++ [environmentLayer env])
  let settings ← match Settings.read Tree.format tree with
    | .ok s => .ok s
    | .error e => .error (LoadError.unreadable e)
  match settings.check with
  | .ok () => return settings
  | .error f => throw (.rejected f)

/-- The document that ships with the server. -/
def shipped : Document where
  origin := "config/default.toml"
  content := .obj [
    ("server", .obj [("host", .str "0.0.0.0"), ("port", .int 8080), ("request_timeout_secs", .int 30)]),
    ("database", .obj [("url", .str ""), ("max_connections", .int 20), ("min_connections", .int 2),
      ("connect_timeout_secs", .int 10), ("idle_timeout_secs", .int 600)]),
    ("logging", .obj [("level", .str "info"), ("format", .str "json")]),
    ("security", .obj [("cors_origins", .arr []), ("hsts_enabled", .bool false)]),
    ("directory", .obj [("provider", .str "graph"),
      ("graph_base_url", .str "https://graph.microsoft.com/v1.0"), ("timeout_ms", .int 5000)]),
    ("reports", .obj [("query_timeout_secs", .int 120), ("output_base_url", .str "/reports")])]

end ReportServer.Settings
