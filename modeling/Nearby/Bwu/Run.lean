import Nearby.Bwu.Manager
import Nearby.Lib.Transition

/-! Whole runs: the public operations of the manager, interleaved in any order with what
its owner does to the client, to the registry and to the channels. -/

namespace Nearby.Bwu

open Proto Lib

/-- One operation.  The first group are the `BwuManager` operations; the others are the
owner's: the client's connection lifecycle, the channel registry, and a channel that is
closed or given a cipher.  The owner never pauses a channel. -/
inductive Op : Type
  | initiateBwuForEndpoint (endpointId : String) (medium : Medium)
  | onIncomingFrame (frame : OfflineFrame) (endpointId : String)
  | onIncomingConnection (c : ChannelId)
  | fireRetryAlarm (endpointId : String)
  | resetUpgradeForEndpoint (endpointId : String)
  | onEndpointDisconnect (serviceId endpointId : String)
  | shutdown
  | onConnectionInitiated (endpointId : String) (isIncoming autoUpgradeBandwidth : Bool)
  | localEndpointAcceptedConnection (endpointId : String)
  | remoteEndpointAcceptedConnection (endpointId : String)
  | onConnectionAccepted (endpointId : String)
  | onDisconnected (endpointId : String)
  | setUpgradeMediums (endpointId : String) (mediums : List Medium)
  | registerChannelForEndpoint (endpointId : String) (c : ChannelId)
  | unregisterChannelForEndpoint (endpointId : String)
  | closeChannel (c : ChannelId)
  | enableEncryption (c : ChannelId)

/-- A frame passed `ensure_valid_offline_frame` before it was handed in. -/
def Op.Validated : Op → Prop
  | .onIncomingFrame frame _ => Validator.ensureValidOfflineFrame frame = .success
  | _ => True

instance : DecidablePred Op.Validated
  | .onIncomingFrame _ _ => inferInstanceAs (Decidable (_ = _))
  | .initiateBwuForEndpoint _ _ | .onIncomingConnection _ | .fireRetryAlarm _
  | .resetUpgradeForEndpoint _ | .onEndpointDisconnect _ _ | .shutdown
  | .onConnectionInitiated _ _ _ | .localEndpointAcceptedConnection _
  | .remoteEndpointAcceptedConnection _ | .onConnectionAccepted _ | .onDisconnected _
  | .setUpgradeMediums _ _ | .registerChannelForEndpoint _ _ | .unregisterChannelForEndpoint _
  | .closeChannel _ | .enableEncryption _ => isTrue trivial

namespace World

def apply (env : Env) (fuel : Nat) (s : World) : Op → Except Abort World
  | .initiateBwuForEndpoint e m => s.initiateBwuForEndpoint env fuel e m
  | .onIncomingFrame frame e => s.onIncomingFrame env fuel frame e
  | .onIncomingConnection c => .ok (s.onIncomingConnection env c)
  | .fireRetryAlarm e => s.fireRetryAlarm env fuel e
  | .resetUpgradeForEndpoint e => .ok (s.resetUpgradeForEndpoint e)
  | .onEndpointDisconnect serviceId e => .ok (s.onEndpointDisconnect serviceId e)
  | .shutdown => .ok s.shutdown
  | .onConnectionInitiated e isIncoming auto =>
    .ok { s with client := s.client.onConnectionInitiated e isIncoming auto }
  | .localEndpointAcceptedConnection e =>
    .ok { s with client := s.client.localEndpointAcceptedConnection e }
  | .remoteEndpointAcceptedConnection e =>
    .ok { s with client := s.client.remoteEndpointAcceptedConnection e }
  | .onConnectionAccepted e => .ok { s with client := s.client.onConnectionAccepted e }
  | .onDisconnected e => .ok { s with client := s.client.onDisconnected e }
  | .setUpgradeMediums e mediums => .ok { s with client := s.client.setUpgradeMediums e mediums }
  | .registerChannelForEndpoint e c => .ok (s.registerChannelForEndpoint e c)
  | .unregisterChannelForEndpoint e => .ok (s.unregisterChannelForEndpoint e)
  | .closeChannel c => .ok (s.modifyChannel c ChannelState.doClose)
  | .enableEncryption c => .ok (s.modifyChannel c fun st => { st with encrypted := true })

def Step (env : Env) (s : World) (op : Op) (t : World) : Prop :=
  ∃ fuel, s.apply env fuel op = .ok t

def ReachedBy (env : Env) (ok : World → Op → Prop) (s : World) : Prop :=
  ∃ config mediums localEndpointId,
    Reach (Step env) ok (World.new config mediums localEndpointId) s

abbrev Reachable (env : Env) : World → Prop := ReachedBy env fun _ _ => True

theorem ReachedBy.invariant {env : Env} {ok : World → Op → Prop} (Inv : World → Prop)
    (hnew : ∀ config mediums id, Inv (World.new config mediums id))
    (hstep : ∀ {s op t}, Inv s → ok s op → Step env s op t → Inv t)
    {s : World} (h : ReachedBy env ok s) : Inv s := by
  obtain ⟨config, mediums, id, h⟩ := h
  exact Reach.invariant Inv (hnew config mediums id) hstep h

/-! ### Scripts -/

def after (env : Env) (fuel : Nat) : World → List Op → World
  | s, [] => s
  | s, op :: ops =>
    match s.apply env fuel op with
    | .ok t => t.after env fuel ops
    | .error _ => s

def Admits (env : Env) (fuel : Nat) (ok : World → Op → Prop) (s : World) (ops : List Op) : Prop :=
  ∀ i (h : i < ops.length), ok (s.after env fuel (ops.take i)) ops[i]

theorem reach_after {env : Env} {fuel : Nat} {ok : World → Op → Prop} (ops : List Op) :
    ∀ {s : World}, s.Admits env fuel ok ops → Reach (Step env) ok s (s.after env fuel ops) := by
  induction ops with
  | nil => intro s _; exact .refl
  | cons op ops ih =>
    intro s h
    rw [after]
    split
    case h_1 t ht =>
      refine .head ⟨op, h 0 (by simp), fuel, ht⟩ (ih ?_)
      intro i hi
      have hok := h (i + 1) (by simpa using hi)
      rwa [List.take_succ_cons, after, ht] at hok
    case h_2 => exact .refl

theorem reachedBy_after {env : Env} {ok : World → Op → Prop} (config : BwuConfig)
    (mediums : List Medium) (id : String) (fuel : Nat) (ops : List Op)
    (h : (World.new config mediums id).Admits env fuel ok ops) :
    ReachedBy env ok ((World.new config mediums id).after env fuel ops) :=
  ⟨config, mediums, id, reach_after ops h⟩

theorem reachable_after {env : Env} (config : BwuConfig) (mediums : List Medium) (id : String)
    (fuel : Nat) (ops : List Op) :
    Reachable env ((World.new config mediums id).after env fuel ops) := by
  apply reachedBy_after
  exact fun _ _ => trivial

end World

/-- Two peers that never fail: channels 0 and 3 are Bluetooth, the others are WiFi LAN;
channel 7 introduces "X", the others "E". -/
def reliable : Env where
  prost :=
    { encode := fun _ => []
      decode := fun bytes =>
        some (forBwuIntroduction (if bytes = [7] then "X" else "E") "" false) }
  medium c := if c = 0 ∨ c = 3 then .bluetooth else .wifiLan
  serviceId _ := "S"
  write _ _ _ := .success
  read _ c := .ok (if c = 7 then [7] else [1])
  handleInitialize _ _ _ _ := [1]
  createUpgraded _ _ _ _ _ := some 5

def lanPath : UpgradePathInfo :=
  { upgradePathInfoForMedium .wifiLan with
    wifiLanSocket := some { ipAddress := some [192, 168, 0, 2], wifiPort := some 4242 } }

def connect (e : String) (c : ChannelId) : List Op :=
  [.onConnectionInitiated e false true, .onConnectionAccepted e, .registerChannelForEndpoint e c]

def upgrade : List Op :=
  [.initiateBwuForEndpoint "E" .wifiLan, .onIncomingConnection 1,
    .onIncomingFrame forBwuLastWrite "E", .onIncomingFrame forBwuSafeToClose "E"]

/-- A manager with a WiFi LAN handler, connected to "E" on channel 0, runs `ops`. -/
def scenario (ops : List Op) : World :=
  (World.new {} [.wifiLan] "L").after reliable 3 (connect "E" 0 ++ ops)

theorem scenario_reachable (ops : List Op) : World.Reachable reliable (scenario ops) :=
  World.reachable_after _ _ _ _ _

theorem scenario_reached {ok : World → Op → Prop} (ops : List Op)
    (h : (World.new {} [.wifiLan] "L").Admits reliable 3 ok (connect "E" 0 ++ ops)) :
    World.ReachedBy reliable ok (scenario ops) :=
  World.reachedBy_after _ _ _ _ _ h

theorem scenario_validated (ops : List Op) (h : ∀ op ∈ connect "E" 0 ++ ops, op.Validated) :
    World.ReachedBy reliable (fun _ op => op.Validated) (scenario ops) :=
  scenario_reached ops fun _ hi => h _ (List.getElem_mem hi)

end Nearby.Bwu
