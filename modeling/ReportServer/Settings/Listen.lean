import ReportServer.Net.SocketAddress
import ReportServer.Settings.Check

/-!
# The listening address

Host and port are set apart and joined before they are read as one address, so a host may be an
IPv6 address in brackets but not a name.
-/

namespace ReportServer.Settings

/-- Host and port as one text. -/
def Server.hostPort (s : Server) : String := s.host ++ ":" ++ toString s.port.toNat

/-- The address to listen on. -/
def Server.address (s : Server) : Except Fault Net.SocketAddress :=
  match Net.SocketAddress.parse? s.hostPort with
  | some a => .ok a
  | none => .error (.invalid ("Invalid server address " ++ s.hostPort ++ ": invalid socket address syntax"))

end ReportServer.Settings
