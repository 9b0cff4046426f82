import ReportServer.Database.Address
import ReportServer.Text.Blank

/-!
# Outages

While no network is up, an attempt to reach a database fails at once, and the address alone decides
how. A path names a socket that is not there, a name other than that of the host itself cannot be
looked up, and an address finds no way out: IPv4 lacks a route, IPv6 an address to send from.
-/

namespace ReportServer.Database

/-- How an attempt to reach a database fails while no network is up. -/
inductive Outage where
  | noSocket
  | noLookup
  | noRoute
  | noSender
deriving DecidableEq, Repr

/-- What is wrong, in the words of the system. -/
def Outage.detail : Outage → String
  | noSocket => "No such file or directory (os error 2)"
  | noLookup => "failed to lookup address information: Temporary failure in name resolution"
  | noRoute => "Network is unreachable (os error 101)"
  | noSender => "Cannot assign requested address (os error 99)"

/-- The sentence that describes the outage. -/
def Outage.message (o : Outage) : String := "error communicating with database: " ++ o.detail

namespace LinkOptions

/-- How the host is reached that an address without one stands for. -/
def localHost : List Char := "localhost".toList

/-- How an attempt to reach the database fails while no network is up. -/
def outage (o : LinkOptions) : Outage :=
  let host := (o.host.map String.toList).getD localHost
  let bare := (Text.dropRight (· == ']') (host.dropWhile (· == '[')))
  match host.head? == some '/', Net.ipv4 bare, Net.ipv6 bare with
  | true, _, _ => .noSocket
  | _, some (_, []), _ => .noRoute
  | _, _, some (_, []) => .noSender
  | _, _, _ => if bare == localHost then .noRoute else .noLookup

end LinkOptions

end ReportServer.Database
