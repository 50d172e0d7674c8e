import Nearby.Bwu.Channel
import Nearby.Lib.Trace
import Mathlib.Algebra.Ring.Int.Defs

/-! `wifi_hotspot.rs`: the medium handler that keeps a SoftAP and a listener for each service, and
on the other side joins the AP of a peer.  What it calls on the platform is logged. -/

namespace Nearby.Bwu

open Proto Lib

/-- `std::net::Ipv4Addr`. -/
structure Ipv4Addr where
  a : UInt8
  b : UInt8
  c : UInt8
  d : UInt8
  deriving DecidableEq, Repr

namespace Ipv4Addr

protected def toString (ip : Ipv4Addr) : String :=
  ".".intercalate [toString ip.a, toString ip.b, toString ip.c, toString ip.d]

/-- One to three decimal digits without a leading zero. -/
def parseOctet (digits : List Char) : Option UInt8 :=
  let value := digits.foldl (fun n digit => 10 * n + (digit.toNat - 48)) 0
  if digits = [] ∨ 3 < digits.length ∨ digits.any (!·.isDigit) ∨
      (digits.head? = some '0' ∧ 1 < digits.length) ∨ 256 ≤ value then none
  else some (UInt8.ofNat value)

/-- `Ipv4Addr::from_str`. -/
def parse (s : String) : Option Ipv4Addr :=
  match s.toList.splitOn '.' with
  | [a, b, c, d] => do
    return ⟨← parseOctet a, ← parseOctet b, ← parseOctet c, ← parseOctet d⟩
  | _ => none

end Ipv4Addr

structure SocketAddr where
  ip : Ipv4Addr
  port : UInt16
  deriving DecidableEq, Repr

structure HotspotCreds where
  ssid : String
  password : String
  frequency : Int32
  gateway : Ipv4Addr
  bindIp : Ipv4Addr
  deriving DecidableEq, Repr

inductive SoftApCall : Type
  | start (serviceId : String) (result : Option HotspotCreds)
  | stop (serviceId : String)
  | bind (ip : Ipv4Addr) (result : Option SocketAddr)
  | stopListener (addr : SocketAddr)
  | connectAsSta (creds : HotspotCreds) (joined : Bool)
  | dial (addr : SocketAddr) (result : Option ChannelId)
  | disconnectSta
  deriving DecidableEq

/-- The `SoftAp` seam and the sockets, which answer as they like: `bind` is `TcpListener::bind`
with `local_addr`, `dial` is `TcpStream::connect` with `tcp_channel`. -/
structure SoftAp where
  start : List SoftApCall → String → Option HotspotCreds
  bind : List SoftApCall → Ipv4Addr → Option SocketAddr
  connectAsSta : List SoftApCall → HotspotCreds → Bool
  dial : List SoftApCall → SocketAddr → Option ChannelId

/-- The listener's accept loop runs elsewhere; its address is what the handler reads. -/
structure HotspotListener where
  addr : SocketAddr
  creds : HotspotCreds
  deriving DecidableEq, Repr

structure WifiHotspotBwuHandler where
  listeners : HashMap String HotspotListener := ∅
  calls : List SoftApCall := []

namespace WifiHotspotBwuHandler

def log (h : WifiHotspotBwuHandler) (x : SoftApCall) : WifiHotspotBwuHandler :=
  { h with calls := x :: h.calls }

def offer (hl : HotspotListener) : OfflineFrame :=
  forBwuWifiHotspotPathAvailable
    { ssid := some hl.creds.ssid
      password := some hl.creds.password
      port := some (Int32.ofNat hl.addr.port.toNat)
      gateway := some hl.creds.gateway.toString
      frequency := some hl.creds.frequency }
    false

def handleInitializeUpgradedMediumForEndpoint (ap : SoftAp) (P : Prost)
    (h : WifiHotspotBwuHandler) (upgradeServiceId : String) : Bytes × WifiHotspotBwuHandler :=
  match h.listeners.lookup upgradeServiceId with
  | some hl => (P.encode (offer hl), h)
  | none =>
    let started := ap.start h.calls upgradeServiceId
    let h := h.log (.start upgradeServiceId started)
    match started with
    | none => ([], h)
    | some creds =>
      let bound := ap.bind h.calls creds.bindIp
      let h := h.log (.bind creds.bindIp bound)
      match bound with
      | none => ([], h.log (.stop upgradeServiceId))
      | some addr =>
        let hl := { addr := addr, creds := creds }
        (P.encode (offer hl), { h with listeners := h.listeners.insert upgradeServiceId hl })

def handleRevertInitiatorStateForService (h : WifiHotspotBwuHandler) (upgradeServiceId : String) :
    WifiHotspotBwuHandler :=
  match h.listeners.lookup upgradeServiceId with
  | some hl =>
    ({ h with listeners := h.listeners.erase upgradeServiceId }.log (.stopListener hl.addr)).log
      (.stop upgradeServiceId)
  | none => h

/-- `Drop`, with the services in the order the map yields them. -/
def drop (h : WifiHotspotBwuHandler) (serviceIds : List String) : WifiHotspotBwuHandler :=
  serviceIds.foldl handleRevertInitiatorStateForService h

/-- `u16::try_from` of an `i32`. -/
def tryPort (port : Int32) : Option UInt16 :=
  if 0 ≤ port.toInt ∧ port.toInt < 2 ^ 16 then some (UInt16.ofNat port.toInt.toNat) else none

def readCredentials (info : UpgradePathInfo) : Option (HotspotCreds × UInt16) := do
  let creds ← info.wifiHotspotCredentials
  let gateway ← Ipv4Addr.parse (← creds.gateway)
  let port ← tryPort (← creds.port)
  return (
    { ssid := creds.ssid.getD ""
      password := creds.password.getD ""
      frequency := creds.frequency.getD (-1)
      gateway := gateway
      bindIp := gateway },
    port)

def createUpgradedEndpointChannel (ap : SoftAp) (h : WifiHotspotBwuHandler)
    (info : UpgradePathInfo) : Option ChannelId × WifiHotspotBwuHandler :=
  match readCredentials info with
  | none => (none, h)
  | some (creds, port) =>
    let joined := ap.connectAsSta h.calls creds
    let h := h.log (.connectAsSta creds joined)
    if ¬ joined then (none, h)
    else
      let addr := { ip := creds.gateway, port := port }
      let channel := ap.dial h.calls addr
      (channel, h.log (.dial addr channel))

def onEndpointDisconnect (h : WifiHotspotBwuHandler) : WifiHotspotBwuHandler :=
  h.log .disconnectSta

/-! ### The SoftAP and the listener -/

def running (u : String) : List SoftApCall → Bool
  | [] => false
  | .start u' (some _) :: calls => u' = u || running u calls
  | .stop u' :: calls => u' ≠ u && running u calls
  | _ :: calls => running u calls

end WifiHotspotBwuHandler

def SoftApCall.Starts (u : String) : SoftApCall → Prop
  | .start u' _ => u' = u
  | _ => False

def SoftApCall.Fails : SoftApCall → Prop
  | .start _ result => result = none
  | .bind _ result => result = none
  | _ => False

inductive HotspotCall : Type
  | handleInitialize (upgradeServiceId : String)
  | handleRevert (upgradeServiceId : String)
  | createUpgraded (info : UpgradePathInfo)
  | endpointDisconnect

namespace WifiHotspotBwuHandler

def call (ap : SoftAp) (P : Prost) (h : WifiHotspotBwuHandler) : HotspotCall → WifiHotspotBwuHandler
  | .handleInitialize u => (h.handleInitializeUpgradedMediumForEndpoint ap P u).2
  | .handleRevert u => h.handleRevertInitiatorStateForService u
  | .createUpgraded info => (h.createUpgradedEndpointChannel ap info).2
  | .endpointDisconnect => h.onEndpointDisconnect

def after (ap : SoftAp) (P : Prost) (h : WifiHotspotBwuHandler) (calls : List HotspotCall) :
    WifiHotspotBwuHandler :=
  calls.foldl (call ap P) h

inductive Initialized (P : Prost) (h : WifiHotspotBwuHandler) (u : String) :
    Bytes × WifiHotspotBwuHandler → Prop
  | reused {hl : HotspotListener} : h.listeners.lookup u = some hl →
      Initialized P h u (P.encode (offer hl), h)
  | unstarted : u ∉ h.listeners → Initialized P h u ([], h.log (.start u none))
  | unbound (creds : HotspotCreds) : u ∉ h.listeners →
      Initialized P h u
        ([], ((h.log (.start u (some creds))).log (.bind creds.bindIp none)).log (.stop u))
  | bound (creds : HotspotCreds) (addr : SocketAddr) : u ∉ h.listeners →
      Initialized P h u
        (P.encode (offer ⟨addr, creds⟩),
          { (h.log (.start u (some creds))).log (.bind creds.bindIp (some addr)) with
            listeners := h.listeners.insert u ⟨addr, creds⟩ })

section

variable {ap : SoftAp} {P : Prost} {h : WifiHotspotBwuHandler} {u : String}

theorem handleInitialize_initialized (ap : SoftAp) (P : Prost) (h : WifiHotspotBwuHandler)
    (u : String) :
    Initialized P h u (h.handleInitializeUpgradedMediumForEndpoint ap P u) := by
  rw [handleInitializeUpgradedMediumForEndpoint]
  split
  case h_1 hl hl' => exact .reused hl'
  case h_2 hnone =>
    have hnot := AList.lookup_eq_none.mp hnone
    dsimp only
    split
    case h_1 hstart =>
      rw [hstart]
      exact .unstarted hnot
    case h_2 creds hstart =>
      rw [hstart]
      split
      case h_1 hbind =>
        rw [hbind]
        exact .unbound creds hnot
      case h_2 addr hbind =>
        rw [hbind]
        exact .bound creds addr hnot

/-- The APs that run are those listened for, and none was started while it ran. -/
structure InStep (h : WifiHotspotBwuHandler) : Prop where
  keys : ∀ u, running u h.calls = true ↔ u ∈ h.listeners
  started : ∀ u, Precedes (·.Starts u) (fun past => running u past = false) h.calls

theorem InStep.idle (hs : h.InStep) (hu : u ∉ h.listeners) : running u h.calls = false :=
  Bool.eq_false_iff.mpr fun hrun => hu ((hs.keys u).mp hrun)

theorem InStep.handleInitialize (hs : h.InStep) (u : String) :
    (h.handleInitializeUpgradedMediumForEndpoint ap P u).2.InStep := by
  have hi := handleInitialize_initialized ap P h u
  generalize h.handleInitializeUpgradedMediumForEndpoint ap P u = r at hi
  have hstart : u ∉ h.listeners → ∀ result u', Precedes (·.Starts u')
      (fun past => running u' past = false) (.start u result :: h.calls) := by
    intro hnot result u'
    refine (precedes_cons ..).mpr ⟨?_, hs.started u'⟩
    rintro rfl
    exact hs.idle hnot
  cases hi with
  | reused => exact hs
  | unstarted hnot => exact ⟨hs.keys, hstart hnot none⟩
  | unbound creds hnot =>
    refine ⟨fun u' => ?_, fun u' => ?_⟩
    · by_cases hu : u = u'
      · subst hu
        simp [running, log, hnot]
      · simp [running, log, hu, hs.keys u']
    · exact (precedes_cons ..).mpr ⟨nofun, (precedes_cons ..).mpr ⟨nofun, hstart hnot _ u'⟩⟩
  | bound creds addr hnot =>
    refine ⟨fun u' => ?_, fun u' => ?_⟩
    · by_cases hu : u = u'
      · subst hu
        simp [running, log]
      · simp [running, log, hu, hs.keys u', AList.mem_insert, Ne.symm hu]
    · exact (precedes_cons ..).mpr ⟨nofun, hstart hnot _ u'⟩

theorem InStep.handleRevert (hs : h.InStep) (u : String) :
    (h.handleRevertInitiatorStateForService u).InStep := by
  rw [handleRevertInitiatorStateForService]
  split
  case h_2 => exact hs
  case h_1 hl _ =>
    refine ⟨fun u' => ?_, fun u' => ?_⟩
    · by_cases hu : u = u'
      · subst hu
        simp [running, log]
      · simp [running, log, hu, hs.keys u', Ne.symm hu]
    · exact (precedes_cons ..).mpr ⟨nofun, (precedes_cons ..).mpr ⟨nofun, hs.started u'⟩⟩

theorem InStep.skip (hs : h.InStep) {x : SoftApCall}
    (hrun : ∀ u calls, running u (x :: calls) = running u calls) (hx : ∀ u, ¬ x.Starts u) :
    (h.log x).InStep := by
  refine ⟨fun u => ?_, fun u => (precedes_cons ..).mpr ⟨fun h => (hx u h).elim, hs.started u⟩⟩
  rw [log, hrun]
  exact hs.keys u

theorem InStep.call (hs : h.InStep) (x : HotspotCall) : (h.call ap P x).InStep := by
  cases x with
  | handleInitialize u => exact hs.handleInitialize u
  | handleRevert u => exact hs.handleRevert u
  | endpointDisconnect => exact hs.skip (fun _ _ => rfl) fun _ => id
  | createUpgraded info =>
    rw [WifiHotspotBwuHandler.call, createUpgradedEndpointChannel]
    split
    case h_1 => exact hs
    case h_2 =>
      have hjoin := fun creds joined =>
        hs.skip (x := .connectAsSta creds joined) (fun _ _ => rfl) fun _ => id
      dsimp only
      split
      case isTrue => exact hjoin _ _
      case isFalse => exact (hjoin _ _).skip (fun _ _ => rfl) fun _ => id

theorem InStep.after (hs : h.InStep) (calls : List HotspotCall) : (h.after ap P calls).InStep := by
  induction calls generalizing h with
  | nil => exact hs
  | cons x calls ih => exact ih (hs.call x)

theorem inStep_new : InStep {} :=
  ⟨fun u => by simp [running], fun u => precedes_nil _ _⟩

theorem InStep.answer (hs : h.InStep) (hoffer : ∀ hl, P.encode (offer hl) ≠ []) (u : String) :
    (∃ new, (h.handleInitializeUpgradedMediumForEndpoint ap P u).2.calls = new ++ h.calls ∧
        ((h.handleInitializeUpgradedMediumForEndpoint ap P u).1 = [] ↔ ∃ x ∈ new, x.Fails)) ∧
      ((h.handleInitializeUpgradedMediumForEndpoint ap P u).1 = [] →
        running u (h.handleInitializeUpgradedMediumForEndpoint ap P u).2.calls = false) := by
  have hi := handleInitialize_initialized ap P h u
  generalize h.handleInitializeUpgradedMediumForEndpoint ap P u = r at hi
  cases hi with
  | reused => exact ⟨⟨[], rfl, by simp [hoffer]⟩, fun he => (hoffer _ he).elim⟩
  | unstarted hnot => exact ⟨⟨[_], rfl, by simp [SoftApCall.Fails]⟩, fun _ => hs.idle hnot⟩
  | unbound creds hnot =>
    exact ⟨⟨[_, _, _], rfl, by simp [SoftApCall.Fails]⟩, fun _ => by simp [running, log]⟩
  | bound creds addr hnot =>
    exact ⟨⟨[_, _], rfl, by simp [SoftApCall.Fails, hoffer]⟩, fun he => (hoffer _ he).elim⟩

/-! ### Reuse and drop -/

theorem listens_of_answer
    (hne : (h.handleInitializeUpgradedMediumForEndpoint ap P u).1 ≠ []) :
    ∃ hl, (h.handleInitializeUpgradedMediumForEndpoint ap P u).1 = P.encode (offer hl) ∧
      (h.handleInitializeUpgradedMediumForEndpoint ap P u).2.listeners.lookup u = some hl := by
  have hi := handleInitialize_initialized ap P h u
  generalize h.handleInitializeUpgradedMediumForEndpoint ap P u = r at hi hne
  cases hi with
  | reused hhl => exact ⟨_, rfl, hhl⟩
  | unstarted | unbound => exact absurd rfl hne
  | bound creds addr => exact ⟨_, rfl, AList.lookup_insert _⟩

theorem answer_of_listens {hl : HotspotListener} (hhl : h.listeners.lookup u = some hl) :
    (h.handleInitializeUpgradedMediumForEndpoint ap P u).1 = P.encode (offer hl) := by
  rw [handleInitializeUpgradedMediumForEndpoint, hhl]

theorem answer_of_lookup {hl : HotspotListener}
    (hhl : (h.handleInitializeUpgradedMediumForEndpoint ap P u).2.listeners.lookup u = some hl) :
    (h.handleInitializeUpgradedMediumForEndpoint ap P u).1 = P.encode (offer hl) := by
  have hi := handleInitialize_initialized ap P h u
  generalize h.handleInitializeUpgradedMediumForEndpoint ap P u = r at hi hhl
  cases hi with
  | reused had =>
    cases had.symm.trans hhl
    rfl
  | unstarted hnot | unbound creds hnot => exact absurd (HashMap.mem_of_lookup hhl) hnot
  | bound creds addr =>
    cases (AList.lookup_insert h.listeners).symm.trans hhl
    rfl

theorem listeners_handleRevert (h : WifiHotspotBwuHandler) (u : String) :
    (h.handleRevertInitiatorStateForService u).listeners = h.listeners.erase u := by
  rw [handleRevertInitiatorStateForService]
  split
  case h_1 => rfl
  case h_2 hnone =>
    exact (AList.ext (List.kerase_of_notMem_keys (AList.lookup_eq_none.mp hnone))).symm

theorem lookup_call {hl : HotspotListener} {x : HotspotCall} (hx : x ≠ .handleRevert u)
    (hhl : h.listeners.lookup u = some hl) : (h.call ap P x).listeners.lookup u = some hl := by
  cases x with
  | handleInitialize u' =>
    have hi := handleInitialize_initialized ap P h u'
    rw [call]
    generalize h.handleInitializeUpgradedMediumForEndpoint ap P u' = r at hi
    cases hi with
    | reused | unstarted | unbound => exact hhl
    | bound creds addr hnot =>
      have hne : u ≠ u' := fun he => hnot (he ▸ HashMap.mem_of_lookup hhl)
      exact (AList.lookup_insert_ne hne).trans hhl
  | handleRevert u' =>
    have hne : u ≠ u' := fun he => hx (he ▸ rfl)
    rw [call, listeners_handleRevert, AList.lookup_erase_ne hne, hhl]
  | createUpgraded info =>
    rw [call, createUpgradedEndpointChannel]
    split
    case h_1 => exact hhl
    case h_2 =>
      dsimp only
      split <;> exact hhl
  | endpointDisconnect => exact hhl

theorem lookup_after {hl : HotspotListener} {calls : List HotspotCall}
    (hcalls : .handleRevert u ∉ calls) (hhl : h.listeners.lookup u = some hl) :
    (h.after ap P calls).listeners.lookup u = some hl := by
  induction calls generalizing h with
  | nil => exact hhl
  | cons x calls ih =>
    obtain ⟨hx, hcalls⟩ := not_or.mp (List.mem_cons.not.mp hcalls)
    exact ih hcalls (lookup_call (Ne.symm hx) hhl)

theorem InStep.drop (hs : h.InStep) (serviceIds : List String) :
    (h.drop serviceIds).InStep ∧
      ∀ u, u ∈ (h.drop serviceIds).listeners ↔ u ∈ h.listeners ∧ u ∉ serviceIds := by
  induction serviceIds generalizing h with
  | nil => exact ⟨hs, fun u => by simp [WifiHotspotBwuHandler.drop]⟩
  | cons u' serviceIds ih =>
    obtain ⟨hstep, hmem⟩ := ih (hs.handleRevert u')
    refine ⟨hstep, fun u => (hmem u).trans ?_⟩
    rw [listeners_handleRevert, AList.mem_erase, List.mem_cons]
    tauto

end

def Reached (ap : SoftAp) (P : Prost) (h : WifiHotspotBwuHandler) : Prop :=
  ∃ calls, after ap P {} calls = h

/-- The APs that run are at any time those the handler listens for.  An initialisation comes back
empty-handed when the AP or the listener could not be set up, and then the AP does not run; a
service that runs is offered as it was; and the drop stops everything. -/
theorem softAp_in_step {ap : SoftAp} {P : Prost} {h : WifiHotspotBwuHandler}
    (hencode : ∀ frame, frame.version ≠ none → P.encode frame ≠ []) (hh : h.Reached ap P) :
    (∀ u, running u h.calls = true ↔ u ∈ h.listeners) ∧
      (∀ u, Precedes (·.Starts u) (fun past => running u past = false) h.calls) ∧
      (∀ u, ((h.handleInitializeUpgradedMediumForEndpoint ap P u).1 = [] ↔
          ∃ new, (h.handleInitializeUpgradedMediumForEndpoint ap P u).2.calls = new ++ h.calls ∧
            ∃ x ∈ new, x.Fails) ∧
        ((h.handleInitializeUpgradedMediumForEndpoint ap P u).1 = [] →
          running u (h.handleInitializeUpgradedMediumForEndpoint ap P u).2.calls = false)) ∧
      (∀ u later, (h.handleInitializeUpgradedMediumForEndpoint ap P u).1 ≠ [] →
        .handleRevert u ∉ later → ∃ hl,
          (h.handleInitializeUpgradedMediumForEndpoint ap P u).1 = P.encode (offer hl) ∧
          (((h.handleInitializeUpgradedMediumForEndpoint ap P u).2.after ap P
            later).handleInitializeUpgradedMediumForEndpoint ap P u).1 = P.encode (offer hl)) ∧
      ∀ serviceIds, serviceIds.Perm h.listeners.keys → ∀ u,
        running u (h.drop serviceIds).calls = false := by
  obtain ⟨calls, rfl⟩ := hh
  have hs : (after ap P {} calls).InStep := inStep_new.after calls
  generalize after ap P {} calls = h at hs
  have hoffer : ∀ hl, P.encode (offer hl) ≠ [] := fun hl => hencode _ nofun
  refine ⟨hs.keys, hs.started, fun u => ?_, fun u later hne hlater => ?_,
    fun serviceIds hperm u => ?_⟩
  · obtain ⟨⟨new, hnew, hiff⟩, hidle⟩ := @InStep.answer ap P h hs hoffer u
    refine ⟨⟨fun he => ⟨new, hnew, hiff.mp he⟩, ?_⟩, hidle⟩
    rintro ⟨new', hnew', hx⟩
    cases (List.append_left_inj h.calls).mp (hnew.symm.trans hnew')
    exact hiff.mpr hx
  · obtain ⟨hl, hfirst, hhl⟩ := listens_of_answer hne
    exact ⟨hl, hfirst, answer_of_listens (lookup_after hlater hhl)⟩
  · obtain ⟨hstep, hmem⟩ := hs.drop serviceIds
    refine hstep.idle fun hu => ?_
    obtain ⟨hmem, hnot⟩ := (hmem u).mp hu
    exact hnot (hperm.mem_iff.mpr (AList.mem_keys.mp hmem))

def workingAp : SoftAp where
  start _ _ :=
    some { ssid := "DIRECT-nearby", password := "password", frequency := 2437
           gateway := ⟨192, 168, 49, 1⟩, bindIp := ⟨192, 168, 49, 1⟩ }
  bind _ ip := some ⟨ip, 4242⟩
  connectAsSta _ _ := true
  dial _ _ := some 5

theorem softAp_in_step_for_two :
    ∃ h : WifiHotspotBwuHandler,
      h.calls.length = 2 ∧ running "S_UPGRADE" h.calls = true ∧
        running "S_UPGRADE" (h.drop ["S_UPGRADE"]).calls = false := by
  have h := @softAp_in_step workingAp { encode := fun _ => [8, 1], decode := fun _ => none } _
    (fun _ _ => List.cons_ne_nil 8 [1])
    ⟨[.handleInitialize "S_UPGRADE", .handleInitialize "S_UPGRADE"], rfl⟩
  exact ⟨_, by decide, (h.1 "S_UPGRADE").mpr (by decide),
    h.2.2.2.2 ["S_UPGRADE"] (by decide) "S_UPGRADE"⟩

end WifiHotspotBwuHandler

end Nearby.Bwu
