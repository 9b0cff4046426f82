import ReportServer.Directory.User
import ReportServer.Name.Fault
import ReportServer.Report.Error

/-!
# Errors of the service

What a caller is told when a request fails. There are five causes, each with its status and a code
for programs. An internal cause keeps its detail for the log and tells the caller nothing of it;
the others show their message.
-/

namespace ReportServer.Api

/-- Why a request failed. -/
inductive ApiError where
  | unauthorized (message : String)
  | notFound (message : String)
  | validation (message : String)
  | internal (detail : String)
  | unavailable (message : String)
deriving DecidableEq, Repr

namespace ApiError

/-- The status of the answer. -/
def status : ApiError → Nat
  | unauthorized _ => 401
  | notFound _ => 404
  | validation _ => 400
  | internal _ => 500
  | unavailable _ => 503

/-- The code programs tell the cause by. -/
def code : ApiError → String
  | unauthorized _ => "unauthorized"
  | notFound _ => "not_found"
  | validation _ => "validation_error"
  | internal _ => "internal_error"
  | unavailable _ => "service_unavailable"

/-- What the caller is told. -/
def shown : ApiError → String
  | unauthorized m => m
  | notFound m => m
  | validation m => m
  | internal _ => "An internal error occurred"
  | unavailable m => m

/-- The sentence that describes the failure to the operator. -/
def message : ApiError → String
  | unauthorized m => "Unauthorized: " ++ m
  | notFound m => "Not found: " ++ m
  | validation m => "Validation error: " ++ m
  | internal m => "Internal error: " ++ m
  | unavailable m => "Service unavailable: " ++ m

/-- The body of the answer. -/
def body (e : ApiError) : Json.Value := .obj [("error", .str e.code), ("message", .str e.shown)]

/-- A failed export: an unknown report is not found, anything else is internal. -/
def ofExport : Report.ExportError → ApiError
  | .notFound id => notFound (Report.ExportError.notFound id).message
  | e => internal e.message

/-- A failed look-up: whatever the cause, the caller is not authorized. -/
def ofLookup : Directory.LookupError → ApiError
  | .userNotFound => unauthorized "Invalid or expired token"
  | .unavailable _ => unauthorized "Unable to verify user identity"

/-- A fault of one value that was checked on its own. -/
def ofFault (f : Name.Fault) : ApiError := validation f.text

/--
Faults of the fields of a request: the sentence of the only one, which names the field if it has
none of its own, or how many there are.
-/
def ofFieldFaults : List (String × Name.Fault) → ApiError
  | [(field, f)] => validation (f.message.getD ("Invalid " ++ field))
  | faults => validation (toString faults.length ++ " validation errors")

/-- The error of a request that carries no usable token. -/
def missingToken : ApiError := unauthorized "Missing or invalid Authorization header"

end ApiError

end ReportServer.Api
