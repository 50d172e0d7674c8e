import Nearby.Lib.HashMap
import Nearby.Wire.Validator
import Mathlib.Logic.Function.Basic

/-! `channel.rs`: the channel seam.  A channel is an `Arc<dyn EndpointChannel>`, so it
has an identity; its state lives in the world, and what is called on it is recorded
in the trace. -/

namespace Nearby.Bwu

open Proto

/-- The identity of one `Arc<dyn EndpointChannel>`. -/
abbrev ChannelId := Nat

inductive DisconnectionReason : Type
  | unknownDisconnectionReason
  | localDisconnection
  | remoteDisconnection
  | ioError
  | upgraded
  | shutdown
  | unfinished
  | prevChannelDisconnectionInReconnect
  | authenticationFailure
  deriving DecidableEq, Repr

/-- The state of a channel that the upgrade reads or changes, as `StreamChannel` keeps it. -/
structure ChannelState where
  paused : Bool := false
  closed : Bool := false
  encrypted : Bool := false
  localEndpointId : String := ""
  deriving DecidableEq, Repr

/-- `StreamChannel::do_close`: the first close also releases a paused writer. -/
def ChannelState.doClose (c : ChannelState) : ChannelState :=
  if c.closed then c else { c with closed := true, paused := false }

@[simp] theorem ChannelState.doClose_closed (c : ChannelState) : c.doClose.closed = true := by
  cases h : c.closed <;> simp [ChannelState.doClose, h]

/-- What is handed to `EndpointChannel::write`: a handler's serialized
`UPGRADE_PATH_AVAILABLE`, or the output of a builder of `frames.rs`. -/
inductive Payload : Type
  | offer : Bytes → Payload
  | frame : OfflineFrame → Payload
  deriving DecidableEq, Repr

def Payload.bytes (P : Prost) : Payload → Bytes
  | .offer bytes => bytes
  | .frame f => P.encode f

/-- One entry of the trace.  The first group are the calls that leave the manager:
`write` carries the endpoint it is made for, the pause and encryption state of the
channel at that moment and the result.  The second group are marks of what the
manager does to its own books. -/
inductive Event : Type
  | write (owner : Option String) (c : ChannelId) (data : Payload)
      (paused encrypted : Bool) (result : Exception)
  | read (c : ChannelId)
  | close (c : ChannelId)
  | closeWithReason (c : ChannelId) (reason : DisconnectionReason)
  | pause (c : ChannelId)
  | resume (c : ChannelId)
  | setLocalEndpointId (c : ChannelId) (localEndpointId : String)
  | disableEncryption (c : ChannelId)
  | handleInitialize (m : Medium) (upgradeServiceId endpointId : String) (bytes : Bytes)
  | revertInitiatorState (m : Medium)
  | handleRevert (m : Medium) (serviceId : String)
  | createUpgraded (m : Medium) (serviceId endpointId : String) (info : UpgradePathInfo)
      (result : Option ChannelId)
  | handlerDisconnect (m : Medium) (endpointId : String)
  | bandwidthChanged (endpointId : String) (m : Medium)
  | registered (endpointId : String) (c : ChannelId)
  | incoming (c : ChannelId)
  | initiate (endpointId : String) (m : Medium)
  | started (endpointId : String)
  | lastWriteDispatched (endpointId : String)
  | parked (endpointId : String) (c : ChannelId)
  | retryScheduled (endpointId : String) (delay : Nat)
  deriving DecidableEq, Repr

/-- Everything the manager calls but does not decide: the codec, what a channel object
is, and the answers of channels and medium handlers.  An answer may depend on the whole
trace so far, so every behaviour of these objects is some `Env`. -/
structure Env where
  prost : Prost
  medium : ChannelId → Medium
  serviceId : ChannelId → String
  write : List Event → ChannelId → Payload → Exception
  read : List Event → ChannelId → Except Exception Bytes
  handleInitialize : List Event → Medium → String → String → Bytes
  createUpgraded : List Event → Medium → String → String → UpgradePathInfo → Option ChannelId

end Nearby.Bwu
