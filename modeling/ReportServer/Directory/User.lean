import ReportServer.Json.Decode

/-!
# Users

A user as the directory describes one. The identity is what tracking records carry: the email
address unless there is none or it is empty, and the principal name otherwise.
-/

namespace ReportServer.Directory

/-- A user of the directory. -/
structure User where
  id : String
  displayName : String
  email : Option String
  principalName : String
deriving DecidableEq, Repr

namespace User

/-- The name an export is tracked under. -/
def identity (u : User) : String :=
  match u.email with
  | some e => if e.isEmpty then u.principalName else e
  | none => u.principalName

/-- A user as JSON. -/
def toJson (u : User) : Json.Value :=
  .obj [("id", .str u.id), ("displayName", .str u.displayName),
    ("email", match u.email with | some e => .str e | none => .null),
    ("userPrincipalName", .str u.principalName)]

/-- Read a user. -/
def decode : Json.Decoder User := fun v => do
  let f ← Json.Decoder.fields "UserDetails" ["id", "displayName", "email", "userPrincipalName"] v
  f.check [("id", Fields.test Json.Decoder.string), ("displayName", Fields.test Json.Decoder.string),
    ("email", Fields.test Json.Decoder.string.nullable), ("userPrincipalName", Fields.test Json.Decoder.string)]
  let id ← f.required "id" Json.Decoder.string
  let displayName ← f.required "displayName" Json.Decoder.string
  let email ← f.optional "email" Json.Decoder.string.nullable
  let principalName ← f.required "userPrincipalName" Json.Decoder.string
  f.finish
  return ⟨id, displayName, email, principalName⟩

end User

/-- Why the directory did not answer with a user. -/
inductive LookupError where
  /-- Nobody holds the token. -/
  | userNotFound
  /-- The directory could not answer. -/
  | unavailable (detail : String)
deriving DecidableEq, Repr

/-- The sentence that describes the failure. -/
def LookupError.message : LookupError → String
  | userNotFound => "User not found in directory"
  | unavailable detail => "User directory unavailable: " ++ detail

end ReportServer.Directory
