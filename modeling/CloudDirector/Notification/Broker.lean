import CloudDirector.Session.Resources

/-!
# Message brokers

Where notifications come from. The settings of the broker are reached through the extension entry
point and two links.
-/
namespace CloudDirector
open Http Json

structure BrokerSettings where
  host : String
  port : Nat
  useTls : Bool
  acceptAll : Bool
  /-- The first part of the name of the exchange. -/
  start : String
  deriving DecidableEq, Repr, Inhabited

def BrokerSettings.ofDocument : Decoder BrokerSettings := fun d => do
  let r ← d.record? ["amqpHost", "amqpPort", "amqpUseSSL", "amqpSslAcceptAll", "amqpPrefix"]
  some {
    host := ← r.orElse "amqpHost" "" .text
    port := ← r.orElse "amqpPort" 0 (.natural (Nat.pow 2 16))
    useTls := ← r.orElse "amqpUseSSL" false .flag
    acceptAll := ← r.orElse "amqpSslAcceptAll" false .flag
    start := ← r.orElse "amqpPrefix" "" .text }

/-- How to connect with a message broker. -/
structure Broker where
  host : String
  port : Nat
  useTls : Bool
  acceptAll : Bool
  exchange : String
  deriving DecidableEq, Repr, Inhabited

def Broker.ofSettings (b : BrokerSettings) : Broker :=
  ⟨b.host, b.port, b.useTls, b.acceptAll, b.start ++ ".notifications20"⟩

def readBroker (s : Settings) : Action Broker := do
  let extension ← readEntity s .extension
  let system ← getLinked s Entity.ofDocument extension.data "down" Media.systemSettings
  let broker ← getLinked s BrokerSettings.ofDocument system.data "down" Media.amqpSettings
  return .ofSettings broker.data

end CloudDirector
