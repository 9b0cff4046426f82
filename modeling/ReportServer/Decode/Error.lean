/-!
# Errors of reading typed values

Why an untyped value is not the value that was asked for. What was found is carried as the words
that name it, because two kinds of untyped values are read and they do not share all their words.
-/

namespace ReportServer

/-- Why a value is not the value that was asked for. -/
inductive DecodeError where
  | missingField (name : String)
  | invalidType (found expected : String)
  | invalidValue (found expected : String)
  | unknownVariant (name expected : String)
  | invalidLength (length : Nat) (expected : String)
deriving DecidableEq, Repr

/-- The sentence that describes the error. -/
def DecodeError.message : DecodeError → String
  | missingField name => "missing field `" ++ name ++ "`"
  | invalidType found expected => "invalid type: " ++ found ++ ", expected " ++ expected
  | invalidValue found expected => "invalid value: " ++ found ++ ", expected " ++ expected
  | unknownVariant name expected => "unknown variant `" ++ name ++ "`, expected " ++ expected
  | invalidLength length expected =>
    "invalid length " ++ toString length ++ ", expected " ++ expected

end ReportServer
