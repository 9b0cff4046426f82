import ReportServer.Net.Form
import ReportServer.Net.Url
import ReportServer.Text.Quoted
import ReportServer.Text.Utf8Fault

/-!
# Database addresses

Where the database is and how it is reached is said by a web address: the host, the port, the user
and the name of the database in their usual places, and anything that should differ in the query.
The scheme is not looked at.
-/

namespace ReportServer.Database

/-- How much the link insists on encryption. -/
inductive SslMode where
  | disable
  | allow
  | prefer
  | require
  | verifyCa
  | verifyFull
deriving DecidableEq, Repr

/-- What an address says about the link. -/
structure LinkOptions where
  host : Option String
  port : Nat
  username : Option String
  password : Option String
  database : Option String
  sslMode : SslMode
  statementCache : Nat
deriving DecidableEq, Repr

/-- Why an address is refused. -/
inductive AddressError where
  | notUrl (e : Net.UrlError)
  | sslMode (value : String)
  | notNumber (detail : String)
  | notIpAddress
  | notText (fault : Text.Utf8Fault)
deriving DecidableEq, Repr

/-- What is wrong with an address. -/
def AddressError.detail : AddressError → String
  | notUrl e => e.message
  | sslMode value =>
    "error with configuration: unknown value " ++ Text.quoted value ++ " for `ssl_mode`"
  | notNumber detail => detail
  | notIpAddress => "invalid IP address syntax"
  | notText fault => fault.message

/-- The sentence that describes the error. -/
def AddressError.message (e : AddressError) : String := "error with configuration: " ++ e.detail

namespace LinkOptions

/-- What an address that says nothing stands for. -/
def unset : LinkOptions := ⟨none, 5432, none, none, none, .prefer, 100⟩

/-- The names of the encryption modes. -/
def sslModes : List (String × SslMode) :=
  [("disable", .disable), ("allow", .allow), ("prefer", .prefer), ("require", .require),
    ("verify-ca", .verifyCa), ("verify-full", .verifyFull)]

/-- Read an encryption mode, in any case. -/
def sslModeOf (value : String) : Except AddressError SslMode :=
  match sslModes.find? (·.1 == value.toLower) with
  | some (_, mode) => .ok mode
  | none => .error (.sslMode value)

/-- Put one more digit behind a number that stays less than a bound. -/
def nextDigit (bound n : Nat) (c : Char) : Except AddressError Nat :=
  if !c.isDigit then .error (.notNumber "invalid digit found in string")
  else if n * 10 + (c.toNat - 48) < bound then .ok (n * 10 + (c.toNat - 48))
  else .error (.notNumber "number too large to fit in target type")

/-- Read a number in decimal that is less than a bound; a plus may stand in front. -/
def numberBelow (bound : Nat) (value : String) : Except AddressError Nat :=
  match value.toList with
  | [] => .error (.notNumber "cannot parse integer from empty string")
  | '+' :: c :: rest => (c :: rest).foldlM (nextDigit bound) 0
  | ds => ds.foldlM (nextDigit bound) 0

/-- Whether a text is an IP address, without brackets, scope and port. -/
def isIpAddress (s : String) : Bool :=
  match Net.ipv4 s.toList, Net.ipv6 s.toList with
  | some (_, []), _ => true
  | _, some (_, []) => true
  | _, _ => false

/-- A part of an address with percent signs decoded, which must be text. -/
def decodedPart (s : String) : Except AddressError String :=
  match Text.ofUtf8 (Net.percentDecoded s) with
  | .ok t => .ok t
  | .error fault => .error (.notText fault)

/-- The same, where an empty part says nothing. -/
def decodedUnlessEmpty (s : String) : Except AddressError (Option String) :=
  if s.isEmpty then .ok none else (decodedPart s).map some

/-- A host; one that begins with a slash is the path of a socket. -/
def hostOf : Option String → Except AddressError (Option String)
  | none => .ok none
  | some host =>
    if (Net.percentDecoded host).head? = some 0x2F then (decodedPart host).map some
    else .ok (some host)

/-- The options with what one pair of the query says; a name that is not known says nothing. -/
def withPair (o : LinkOptions) (pair : String × String) : Except AddressError LinkOptions := do
  let (name, value) := pair
  match name with
  | "sslmode" => return { o with sslMode := ← sslModeOf value }
  | "ssl-mode" => return { o with sslMode := ← sslModeOf value }
  | "statement-cache-capacity" => return { o with statementCache := ← numberBelow UInt64.size value }
  | "host" => return { o with host := some value }
  | "hostaddr" => if isIpAddress value then return { o with host := some value } else throw .notIpAddress
  | "port" => return { o with port := ← numberBelow UInt16.size value }
  | "dbname" => return { o with database := some value }
  | "user" => return { o with username := some value }
  | "password" => return { o with password := some value }
  | _ => return o

/-- What the parts of an address say, without its query. -/
def ofParts (url : Net.Url) : Except AddressError LinkOptions := do
  let host ← hostOf url.host
  let username ← decodedUnlessEmpty url.username
  let password ← decodedUnlessEmpty url.password
  let path := String.ofList (url.path.toList.dropWhile (· == '/'))
  return ⟨host, url.port.getD unset.port, username, password,
    if path.isEmpty then none else some path, unset.sslMode, unset.statementCache⟩

/-- What an address says about the link. -/
def parse (address : String) : Except AddressError LinkOptions := do
  let url ← (Net.Url.parse address).mapError .notUrl
  (Net.formPairs (url.query.getD "")).foldlM withPair (← ofParts url)

end LinkOptions

/-- What is known of a pool: how many connections it has. -/
structure Pool where
  options : LinkOptions
  size : Nat
deriving DecidableEq, Repr

/-- Why there is no pool. -/
inductive PoolError where
  | address (e : AddressError)
  | timedOut
  | unreachable (detail : String)
deriving DecidableEq, Repr

/-- The sentence that describes the error. -/
def PoolError.message : PoolError → String
  | address e => e.message
  | timedOut => "pool timed out while waiting for an open connection"
  | unreachable detail => detail

namespace Pool

/-- A pool that has not connected yet. -/
def lazy (address : String) : Except AddressError Pool :=
  (LinkOptions.parse address).map fun options => ⟨options, 0⟩

/-- A pool with its first connection, which must come about within some seconds. -/
def connect (address : String) (timeoutSecs : Nat) (attempt : LinkOptions → Except String Unit) :
    Except PoolError Pool := do
  let pool ← (Pool.lazy address).mapError .address
  if timeoutSecs = 0 then throw .timedOut
  match attempt pool.options with
  | .ok () => return { pool with size := 1 }
  | .error detail => throw (.unreachable detail)

end Pool

end ReportServer.Database
