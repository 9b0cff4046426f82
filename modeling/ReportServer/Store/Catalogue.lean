import ReportServer.Report.Definition

/-!
# The catalogue

Report definitions held in memory, with the groups they belong to. A listing is sorted by name and
then by id; a look-up gives the first definition of an id.
-/

namespace ReportServer.Store

/-- Definitions and the groups they belong to. -/
structure Catalogue where
  definitions : List Report.Definition
  /-- Group names with the ids of their members. -/
  members : List (String × Int64)
deriving DecidableEq, Repr

/-- Sorted order of a listing: by name, then by id. -/
def listedBefore (a b : Report.Definition) : Bool :=
  a.name < b.name || (a.name == b.name && decide (a.id ≤ b.id))

namespace Catalogue

/-- A catalogue of definitions that belong to no group. -/
def ofDefinitions (ds : List Report.Definition) : Catalogue := ⟨ds, []⟩

/-- The catalogue with one more member of a group. -/
def addMember (c : Catalogue) (group : String) (id : Int64) : Catalogue :=
  { c with members := c.members ++ [(group, id)] }

/-- The first definition of an id. -/
def find? (c : Catalogue) (id : Int64) : Option Report.Definition :=
  c.definitions.find? (·.id == id)

/-- Whether a report belongs to a group. -/
def isMember (c : Catalogue) (group : String) (id : Int64) : Bool := (group, id) ∈ c.members

/-- The definitions of a group, or all of them. -/
def select (c : Catalogue) : Option String → List Report.Definition
  | some group => c.definitions.filter fun d => c.isMember group d.id
  | none => c.definitions

/-- The listing of a group, or of everything. -/
def list (c : Catalogue) (group : Option String) : List Report.Definition :=
  (c.select group).mergeSort listedBefore

end Catalogue

end ReportServer.Store
