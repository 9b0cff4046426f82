import ReportServer.Table.Basic

/-!
# Prepared answers to queries

An executor that knows its answers beforehand: one for each of some queries and one for all others.
A prepared failure is a failure of the database.
-/

namespace ReportServer.Store

/-- A prepared answer: a table, or the detail of a failure. -/
inductive Prepared where
  | table (t : Table)
  | failure (detail : String)
deriving DecidableEq, Repr

/-- The answer as the caller of a query sees it. -/
def Prepared.answer : Prepared → Except Report.ExportError Table
  | table t => .ok t
  | failure detail => .error (.database detail)

/-- An executor with prepared answers. -/
structure Executor where
  /-- The answers to particular queries. -/
  bySql : List (String × Prepared)
  /-- The answer to every other query. -/
  otherwise : Prepared
deriving DecidableEq, Repr

/-- The answer to a query. -/
def Executor.execute (e : Executor) (sql : String) : Except Report.ExportError Table :=
  (((e.bySql.find? (·.1 == sql)).map Prod.snd).getD e.otherwise).answer

end ReportServer.Store
