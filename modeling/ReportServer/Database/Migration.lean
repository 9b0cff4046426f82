/-!
# Migrations

A migration is a change to the tables of the database, known by its version and the checksum of its
text. The database keeps a ledger of the migrations it has been through. Before anything is
changed the ledger must agree with what the server ships: nothing half done, nothing unknown, and
nothing that has been edited since. Then what is missing from the ledger is applied, oldest first.
-/

namespace ReportServer.Database

/-- A migration. -/
structure Migration where
  version : Nat
  description : String
  /-- The checksum of its text, in hexadecimal. -/
  checksum : String
deriving DecidableEq, Repr

/-- What the ledger holds of a migration. -/
structure LedgerEntry where
  version : Nat
  checksum : String
deriving DecidableEq, Repr

/-- The ledger: the migrations the database has been through, and one that was not finished. -/
structure Ledger where
  applied : List LedgerEntry
  unfinished : Option Nat
deriving DecidableEq, Repr

/-- Why migrating failed. -/
inductive MigrationError where
  | unfinished (version : Nat)
  | unknown (version : Nat)
  | edited (version : Nat)
  | database (detail : String)
deriving DecidableEq, Repr

/-- The sentence that describes the error. -/
def MigrationError.message : MigrationError → String
  | unfinished v =>
    "migration " ++ toString v ++
      " is partially applied; fix and remove row from `_sqlx_migrations` table"
  | unknown v =>
    "migration " ++ toString v ++
      " was previously applied but is missing in the resolved migrations"
  | edited v => "migration " ++ toString v ++ " was previously applied but has been modified"
  | database detail => "while executing migrations: " ++ detail

namespace Ledger

/-- The checksum the ledger holds for a version. -/
def checksum? (l : Ledger) (version : Nat) : Option String :=
  (l.applied.find? (·.version == version)).map LedgerEntry.checksum

/-- The first entry of a version that is not shipped. -/
def firstUnknown (l : Ledger) (shipped : List Migration) : Option LedgerEntry :=
  l.applied.find? fun e => shipped.all (·.version != e.version)

/-- Whether the ledger holds another checksum than the one that is shipped. -/
def isEdited (l : Ledger) (m : Migration) : Bool := (l.checksum? m.version).any (· != m.checksum)

/-- The shipped migrations that are missing from the ledger, oldest first. -/
def pending (l : Ledger) (shipped : List Migration) : List Migration :=
  (shipped.filter fun m => (l.checksum? m.version).isNone).mergeSort
    fun a b => decide (a.version ≤ b.version)

/-- What is to be applied, if the ledger agrees with what is shipped. -/
def plan (l : Ledger) (shipped : List Migration) : Except MigrationError (List Migration) :=
  match l.unfinished, l.firstUnknown shipped, shipped.find? l.isEdited with
  | some version, _, _ => .error (.unfinished version)
  | none, some entry, _ => .error (.unknown entry.version)
  | none, none, some m => .error (.edited m.version)
  | none, none, none => .ok (l.pending shipped)

/-- The ledger after a migration. -/
def note (l : Ledger) (m : Migration) : Ledger :=
  { l with applied := l.applied ++ [⟨m.version, m.checksum⟩] }

end Ledger

/-- The migrations the server ships. -/
def shippedMigrations : List Migration :=
  [⟨20240101000001, "create reporting schema",
    "89cb59b185a10ffa2c432da2107a448c4f2e8f3a64d14752040fd0e951387b8ef8afd0b07721a896c72efc908e83bba2"⟩]

/-- Migrate a database whose ledger can be read or cannot: the ledger after it. -/
def migrate (ledger : Except String Ledger) (apply : Migration → Except String Unit) :
    Except MigrationError Ledger := do
  let l ← ledger.mapError .database
  let pending ← l.plan shippedMigrations
  pending.foldlM (fun l m => ((apply m).mapError .database).map fun _ => l.note m) l

end ReportServer.Database
