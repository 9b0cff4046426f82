import ReportServer.Database.Collaborators

/-!
# What the database measures

The statements of the server's own are timed, each under its name, whatever comes of them. A report's query is
timed under the way it ended. Nothing else is measured on the way to the database.
-/

namespace ReportServer.Database

open Trail (Measure)

variable (l : Link)

theorem measures_statement (s : Statement) (params : List Trail.Param) :
    Trail.measures (s.run l params).trail = [.statementDuration s.name] := by
  cases l <;> simp [Statement.run, Link.run]

theorem measures_find (id : Int64) :
    Trail.measures (find l id).trail = [.statementDuration findStatement.name] := by
  have hstored : Trail.measures (findStored l id).trail = [.statementDuration findStatement.name] := by
    simp [findStored, measures_statement]
  simp only [find, Trail.Traced.trail_bind, Trail.measures_append, hstored]
  cases (findStored l id).value with
  | error detail => rfl
  | ok found => cases found <;> rfl

/-- Definitions that are left out are only warned about. -/
theorem measures_usable (stored : List Report.Stored) : Trail.measures (usable stored).trail = [] := by
  induction stored with
  | nil => rfl
  | cons s rest ih =>
      rw [usable]
      cases s.definition <;> simp [ih]

theorem measures_list (group : Option String) :
    Trail.measures (list l group).trail = [.statementDuration listStatement.name] := by
  have hstored : Trail.measures (listStored l group).trail = [.statementDuration listStatement.name] := by
    simp [listStored, measures_statement]
  simp only [list, Trail.Traced.trail_bind, Trail.measures_append, hstored]
  cases (listStored l group).value with
  | error detail => rfl
  | ok stored => simp [measures_usable]

theorem measures_record (entry : Report.Tracking) :
    Trail.measures (record l entry).trail = [.statementDuration insertStatement.name] := by
  simp only [record, Trail.Traced.trail_bind, Trail.measures_append, measures_statement]
  split <;> simp

end ReportServer.Database
