import Nearby.Lib.HashMap
import Nearby.Wire.Proto

/-! `client.rs`: the per-endpoint connection state the manager queries. -/

namespace Nearby.Bwu

open Lib

structure EndpointState where
  initiated : Bool := false
  connected : Bool := false
  localAccepted : Bool := false
  remoteAccepted : Bool := false
  isIncoming : Bool := false
  autoUpgradeBandwidth : Bool := false
  upgradeMediums : List Medium := []
  deriving DecidableEq, Repr

structure ClientProxy where
  localEndpointId : String
  lastLocalEndpointId : String
  endpoints : HashMap String EndpointState := ∅
  bandwidthChanged : List (String × Medium) := []

namespace ClientProxy

def new (localEndpointId : String) : ClientProxy where
  localEndpointId := localEndpointId
  lastLocalEndpointId := localEndpointId

def modifyEntry (client : ClientProxy) (endpointId : String)
    (f : EndpointState → EndpointState) : ClientProxy :=
  { client with
    endpoints := client.endpoints.insert endpointId
      (f ((client.endpoints.lookup endpointId).getD {})) }

def onConnectionInitiated (client : ClientProxy) (endpointId : String)
    (isIncoming autoUpgradeBandwidth : Bool) : ClientProxy :=
  client.modifyEntry endpointId fun e =>
    { e with
      initiated := true
      isIncoming := isIncoming
      autoUpgradeBandwidth := autoUpgradeBandwidth }

def localEndpointAcceptedConnection (client : ClientProxy) (endpointId : String) : ClientProxy :=
  client.modifyEntry endpointId fun e => { e with localAccepted := true }

def remoteEndpointAcceptedConnection (client : ClientProxy) (endpointId : String) : ClientProxy :=
  client.modifyEntry endpointId fun e => { e with remoteAccepted := true }

def onConnectionAccepted (client : ClientProxy) (endpointId : String) : ClientProxy :=
  client.modifyEntry endpointId fun e => { e with connected := true }

def onDisconnected (client : ClientProxy) (endpointId : String) : ClientProxy :=
  { client with endpoints := client.endpoints.erase endpointId }

def setUpgradeMediums (client : ClientProxy) (endpointId : String) (mediums : List Medium) :
    ClientProxy :=
  client.modifyEntry endpointId fun e => { e with upgradeMediums := mediums }

def isConnectedToEndpoint (client : ClientProxy) (endpointId : String) : Bool :=
  ((client.endpoints.lookup endpointId).map (·.connected)).getD false

def isIncomingConnection (client : ClientProxy) (endpointId : String) : Bool :=
  ((client.endpoints.lookup endpointId).map (·.isIncoming)).getD false

def getUpgradeMediums (client : ClientProxy) (endpointId : String) : List Medium :=
  ((client.endpoints.lookup endpointId).map (·.upgradeMediums)).getD []

def onBandwidthChanged (client : ClientProxy) (endpointId : String) (medium : Medium) :
    ClientProxy :=
  { client with bandwidthChanged := client.bandwidthChanged ++ [(endpointId, medium)] }

end ClientProxy

end Nearby.Bwu
