import ReportServer.Database.Definitions
import ReportServer.Database.Query
import ReportServer.Database.TrackingTable
import ReportServer.Export.Service

/-!
# The database behind the export service

A database can be all that the export service relies on: it holds the definitions, runs their
queries and keeps the tracking records.
-/

namespace ReportServer.Database

/-- The collaborators behind a link, with a limit for report queries in milliseconds. -/
def collaborators (l : Link) (timeoutMs : Nat) : Export.Collaborators :=
  ⟨find l, list l, (QueryRunner.mk l timeoutMs).execute, record l⟩

end ReportServer.Database
