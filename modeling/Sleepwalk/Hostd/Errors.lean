import Sleepwalk.Hostd.GuestLink
import Sleepwalk.Hostd.Net
import Sleepwalk.Hostd.Transfer

/-!
# Errors of a migration

`MigrateError`, with what its sources can be. The variants that no modelled function returns are
left out.
-/

namespace Sleepwalk.Hostd

open Proto

/-- The source of an I/O error. -/
inductive IoError where
  /-- The operating system. -/
  | os (detail : String)
  /-- A link to a guest that fails to read or write. -/
  | link (e : LinkError)
  /-- No connection was attempted before the deadline. -/
  | noAttempt
  /-- Firecracker rejected the `CONNECT`. -/
  | connectFailed (port : ℕ) (reply : String)
  /-- The first message of the guest was no `Hello`. -/
  | expectedHello (got : GuestToHost)
  /-- The network was not plumbed. -/
  | net (e : NetError)
  /-- `serde_json` rejected a text. -/
  | json
deriving DecidableEq, Repr

/-- A failure during a migration. -/
inductive MigrateError where
  /-- A Firecracker control operation failed. -/
  | firecracker (detail : String)
  /-- The snapshot transfer failed. -/
  | transfer (e : Transfer.TransferError)
  /-- A filesystem or socket operation failed. -/
  | io (context : String) (source : IoError)
  /-- The received snapshot was malformed. -/
  | snapshot (detail : String)
deriving DecidableEq, Repr

end Sleepwalk.Hostd
