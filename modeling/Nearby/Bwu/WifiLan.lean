import Nearby.Bwu.WifiHotspot

/-! `wifi_lan.rs`: the medium handler that keeps a TCP listener for each service, and on the other
side dials the listener of a peer.  The calls on the sockets are logged. -/

namespace Nearby.Bwu

open Proto Lib

namespace Ipv4Addr

def localhost : Ipv4Addr := ⟨127, 0, 0, 1⟩

def octets (ip : Ipv4Addr) : Bytes := [ip.a, ip.b, ip.c, ip.d]

/-- `Ipv4Addr::new` on the four bytes of an `ip_address`. -/
def ofBytes : Bytes → Option Ipv4Addr
  | [a, b, c, d] => some ⟨a, b, c, d⟩
  | _ => none

theorem ofBytes_eq_some {bytes : Bytes} {ip : Ipv4Addr} :
    ofBytes bytes = some ip ↔ bytes = ip.octets := by
  constructor
  · intro h
    unfold ofBytes at h
    split at h
    case h_1 => cases h; rfl
    case h_2 => cases h
  · rintro rfl
    rfl

end Ipv4Addr

inductive TcpCall : Type
  | bind (ip : Ipv4Addr) (result : Option SocketAddr)
  | stopListener (addr : SocketAddr)
  | dial (addr : SocketAddr) (result : Option ChannelId)
  deriving DecidableEq

/-- The sockets, which answer as they like: `bind` is `start_listener`, `dial` is
`TcpStream::connect` with `tcp_channel`. -/
structure Tcp where
  bind : List TcpCall → Ipv4Addr → Option SocketAddr
  dial : List TcpCall → SocketAddr → Option ChannelId

/-- The accept loops run elsewhere; of a listener the handler reads its address. -/
structure WifiLanBwuHandler where
  bindIp : Ipv4Addr
  advertiseIp : Ipv4Addr
  listeners : HashMap String SocketAddr := ∅
  calls : List TcpCall := []

namespace WifiLanBwuHandler

def withEndpoint (bindIp advertiseIp : Ipv4Addr) : WifiLanBwuHandler where
  bindIp := bindIp
  advertiseIp := advertiseIp

def new : WifiLanBwuHandler := withEndpoint .localhost .localhost

def log (h : WifiLanBwuHandler) (x : TcpCall) : WifiLanBwuHandler :=
  { h with calls := x :: h.calls }

/-- The offer of a listener: the advertised address, not the bound one, with its port. -/
def offer (h : WifiLanBwuHandler) (addr : SocketAddr) : OfflineFrame :=
  forBwuWifiLanPathAvailable
    [{ address := h.advertiseIp.octets, port := Int32.ofNat addr.port.toNat }]

def handleInitializeUpgradedMediumForEndpoint (tcp : Tcp) (P : Prost) (h : WifiLanBwuHandler)
    (upgradeServiceId : String) : Bytes × WifiLanBwuHandler :=
  match h.listeners.lookup upgradeServiceId with
  | some addr => (P.encode (h.offer addr), h)
  | none =>
    let bound := tcp.bind h.calls h.bindIp
    let h := h.log (.bind h.bindIp bound)
    match bound with
    | none => ([], h)
    | some addr =>
      (P.encode (h.offer addr), { h with listeners := h.listeners.insert upgradeServiceId addr })

def handleRevertInitiatorStateForService (h : WifiLanBwuHandler) (upgradeServiceId : String) :
    WifiLanBwuHandler :=
  match h.listeners.lookup upgradeServiceId with
  | some addr =>
    { h with listeners := h.listeners.erase upgradeServiceId }.log (.stopListener addr)
  | none => h

def drop (h : WifiLanBwuHandler) (serviceIds : List String) : WifiLanBwuHandler :=
  serviceIds.foldl handleRevertInitiatorStateForService h

/-- The address an offer is dialled at, read from the legacy fields. -/
def readSocket (info : UpgradePathInfo) : Option SocketAddr := do
  let socket ← info.wifiLanSocket
  let ip ← Ipv4Addr.ofBytes (← socket.ipAddress)
  let port ← WifiHotspotBwuHandler.tryPort (← socket.wifiPort)
  return ⟨ip, port⟩

def createUpgradedEndpointChannel (tcp : Tcp) (h : WifiLanBwuHandler) (info : UpgradePathInfo) :
    Option ChannelId × WifiLanBwuHandler :=
  match readSocket info with
  | none => (none, h)
  | some addr =>
    let channel := tcp.dial h.calls addr
    (channel, h.log (.dial addr channel))

def getUpgradeMedium : Medium := .wifiLan

theorem answer_of_lookup {tcp : Tcp} {P : Prost} {h : WifiLanBwuHandler} {u : String}
    {addr : SocketAddr}
    (hl : (h.handleInitializeUpgradedMediumForEndpoint tcp P u).2.listeners.lookup u = some addr) :
    (h.handleInitializeUpgradedMediumForEndpoint tcp P u).1 = P.encode (h.offer addr) := by
  rw [handleInitializeUpgradedMediumForEndpoint] at hl ⊢
  cases hhad : h.listeners.lookup u with
  | some had =>
    simp only [hhad, Option.some_inj] at hl ⊢
    rw [hl]
  | none =>
    cases hbind : tcp.bind h.calls h.bindIp with
    | none =>
      simp only [hhad, hbind, log] at hl
      cases hl
    | some bound =>
      simp only [hhad, hbind, AList.lookup_insert, Option.some_inj] at hl ⊢
      rw [hl]
      rfl

end WifiLanBwuHandler

end Nearby.Bwu
