import ControlPlane.Catalogue
import ControlPlane.Json.Reader
import ControlPlane.Region

/-!
The configuration of a provider: its accounts, the first of which is the default, the partitions it
serves, the capacity of its request queues and the quotas of every region. Each part has a default,
so the empty object is a configuration.
-/

namespace ControlPlane

inductive ConfigFault where
  | unreadable
  | noAccounts
  | zeroCapacity
  | unknownPartition (partition : String)
  deriving Repr, DecidableEq

namespace ConfigFault

def message : ConfigFault → String
  | unreadable => "Invalid config"
  | noAccounts => "At least one account id must be configured"
  | zeroCapacity => "Channel capacity must be greater than zero"
  | unknownPartition partition => "Unknown partition: " ++ partition

end ConfigFault

structure Configuration where
  accounts : List String
  partitions : List String
  channelCapacity : Nat
  quotas : Quotas
  deriving Repr, DecidableEq

namespace Configuration

def standardAccount : String := "123456789012"

def standard : Configuration := ⟨[standardAccount], Catalogue.partitions, 32, .standard⟩

def record : Record Configuration Configuration :=
  (Record.start Configuration.mk)
    |>.defaulted "account_ids" (.list .text) standard.accounts (·.accounts)
    |>.defaulted "partitions" (.list .text) standard.partitions (·.partitions)
    |>.defaulted "channel_capacity" .word64 standard.channelCapacity (·.channelCapacity)
    |>.defaulted "quotas" Quotas.record.codec .standard (·.quotas)

def defaultAccount (c : Configuration) : String := c.accounts.head?.getD standardAccount

def check (c : Configuration) : Except ConfigFault Unit :=
  if c.accounts = [] then .error .noAccounts
  else if c.channelCapacity = 0 then .error .zeroCapacity
  else
    match c.partitions.find? fun p => (Catalogue.regions? p).isNone with
    | some p => .error (.unknownPartition p)
    | none => .ok ()

/-- Reads a configuration; a member that comes twice makes the text unreadable. -/
def parse (text : String) : Except ConfigFault Configuration :=
  match Json.read text with
  | none => .error .unreadable
  | some j =>
    match record.decode j with
    | .error _ => .error .unreadable
    | .ok c => c.check.map fun _ => c

end Configuration

end ControlPlane
