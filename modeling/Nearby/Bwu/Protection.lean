import Nearby.Bwu.Attempts
import Nearby.Bwu.Dispatch

/-! What an operation calls.  The exchange over the channels calls no medium handler, and while
some channel is on WiFi LAN nothing sets up or joins a hotspot. -/

namespace Nearby.Bwu

open Proto Lib Relation

def Event.Exchanges : Event → Prop
  | .handleInitialize _ _ _ _ => False
  | .revertInitiatorState _ => False
  | .handleRevert _ _ => False
  | .createUpgraded _ _ _ _ _ => False
  | .handlerDisconnect _ _ => False
  | .initiate _ _ => False
  | .started _ => False
  | .retryScheduled _ _ => False
  | _ => True

/-- The handler of `m` is asked for an offer, or to dial one. -/
def Event.Wakes (m : Medium) : Event → Prop
  | .handleInitialize m' _ _ _ => m' = m
  | .createUpgraded m' _ _ _ _ => m' = m
  | _ => False

theorem Event.Exchanges.spares {x : Event} (h : x.Exchanges) (m : Medium) : ¬ x.Wakes m := by
  cases x <;> first | exact id | exact h.elim

theorem Event.Reverts.spares {x : Event} (h : x.Reverts) (m : Medium) : ¬ x.Wakes m := by
  cases x <;> first | exact id | exact h.elim

namespace World

/-! ### The exchange -/

abbrev Exchange (s t : World) : Prop := Adds Event.Exchanges s.trace t.trace

section

variable {env : Env} {s t v : World} {e : String} {m : Medium} {c : ChannelId}

theorem exchange_closeParked (s : World) (e : String) (reason : DisconnectionReason) :
    Exchange s (s.closeParked e reason) := by
  rw [closeParked]
  split
  case h_1 => exact .one _ trivial
  case h_2 => exact .refl _ _

theorem exchange_closeOutOfSync (s : World) (e : String) : Exchange s (s.closeOutOfSync e) := by
  have h₁ := exchange_closeParked s e .unfinished
  simp only [closeOutOfSync]
  split
  case h_1 => exact h₁.trans (.cons trivial (.one _ trivial))
  case h_2 => exact h₁

theorem exchange_processLastWriteToPriorChannelEvent (env : Env) (s : World) (e : String) :
    Exchange s (s.processLastWriteToPriorChannelEvent env e) := by
  rw [processLastWriteToPriorChannelEvent]
  split
  case h_1 => exact .refl _ _
  case h_2 =>
    dsimp only
    split
    case isTrue => exact .cons trivial (.one _ trivial)
    case isFalse => exact .one _ trivial

theorem exchange_runUpgradeProtocol (env : Env) (s : World) (e : String) (c : ChannelId)
    (b : Bool) : Exchange s (s.runUpgradeProtocol env e c b) := by
  have h₁ : Exchange s ((s.setLocalEndpointId c s.client.localEndpointId).pause c) :=
    .cons trivial (.one _ trivial)
  simp only [runUpgradeProtocol]
  generalize (s.setLocalEndpointId c s.client.localEndpointId).pause c = s₁ at h₁ ⊢
  split
  case h_1 => exact h₁
  case h_2 old _ =>
    have h₂ : Exchange s ((s₁.replaceChannelForEndpoint e c b).write env (some e) old
        (.frame forBwuLastWrite)).2 := h₁.trans (.one _ trivial)
    generalize (s₁.replaceChannelForEndpoint e c b).write env (some e) old
      (.frame forBwuLastWrite) = w at h₂ ⊢
    split
    case isTrue => exact h₂
    case isFalse =>
      have h₃ : Exchange s (w.2.park e old) := h₂.trans (.one _ trivial)
      split
      case isTrue =>
        exact h₃.trans
          (exchange_processLastWriteToPriorChannelEvent env ((w.2.park e old).unlatch e) e)
      case isFalse => exact h₃

theorem exchange_processSafeToClosePriorChannelEvent (env : Env) (s : World) (e : String) :
    Exchange s (s.processSafeToClosePriorChannelEvent env e) := by
  simp only [processSafeToClosePriorChannelEvent]
  split
  case h_1 => exact .refl _ _
  case h_2 =>
    split
    case h_1 => exact ⟨[_, _, _, _], rfl, by simp [Event.Exchanges]⟩
    case h_2 => exact ⟨[_, _, _, _, _, _], rfl, by simp [Event.Exchanges]⟩

theorem exchange_onIncomingConnection (env : Env) (s : World) (c : ChannelId) :
    Exchange s (s.onIncomingConnection env c) := by
  have hread : Exchange s (s.introduced env c) := .cons trivial (.one _ trivial)
  have hack : Exchange s (s.acknowledged env c) := .cons trivial (.cons trivial (.one _ trivial))
  have hs := onIncomingConnection_socket env s c
  generalize s.onIncomingConnection env c = t at hs
  cases hs with
  | unreadable => exact hread.trans (.one _ trivial)
  | unwritable => exact hack.trans (.one _ trivial)
  | unattributed => exact hack
  | attributed e b => exact hack.trans (exchange_runUpgradeProtocol ..)

/-! ### Offers and failures -/

abbrev Spared (m : Medium) (s t : World) : Prop := Adds (¬ ·.Wakes m) s.trace t.trace

theorem Exchange.spared (h : Exchange s t) (m : Medium) : Spared m s t :=
  Adds.mono h fun _ hx => hx.spares m

theorem spared_of_reverts (h : Adds Event.Reverts s.trace t.trace) (m : Medium) : Spared m s t :=
  Adds.mono h fun _ hx => hx.spares m

theorem spared_runUpgradeFailedProtocol (env : Env) (s : World) (e : String)
    (info : UpgradePathInfo) (m : Medium) : Spared m s (s.runUpgradeFailedProtocol env e info) := by
  have ht := runUpgradeFailedProtocol_told env s e info
  generalize s.runUpgradeFailedProtocol env e info = t at ht
  have hwrite : ∀ c, Exchange s (s.write env (some e) c (.frame (forBwuFailure info))).2 :=
    fun _ => .one _ trivial
  cases ht with
  | unregistered => exact .refl _ _
  | @unwritten c => exact ((hwrite c).spared m).trans (.one _ id)
  | @reverted c =>
    have hrevert := reverts_revertBwuMediumForEndpoint
      (s.write env (some e) c (.frame (forBwuFailure info))).2 (env.serviceId c) e
    exact ((hwrite c).spared m).trans (spared_of_reverts hrevert m)
  | @mediumless c => exact (hwrite c).spared m

theorem spared_dialUpgraded (env : Env) (s : World) (e : String) {info : UpgradePathInfo}
    (hm : upiMedium info ≠ m) : Spared m s (s.dialUpgraded env e info).2 := by
  simp only [dialUpgraded]
  split
  case isTrue => exact .refl _ _
  case isFalse =>
    split
    case isTrue => exact .refl _ _
    case isFalse =>
      split
      case h_1 => exact .refl _ _
      case h_2 c _ =>
        generalize (if (s.channels c).localEndpointId = "" then _ else _) = lastLocal
        split
        case h_1 => exact ⟨[_], rfl, by simp [Event.Wakes, hm]⟩
        case h_2 =>
          split
          case isTrue => exact ⟨[_, _, _], rfl, by simp [Event.Wakes, hm]⟩
          case isFalse => exact ⟨[_, _], rfl, by simp [Event.Wakes, hm]⟩

theorem Accepts.spared {info : UpgradePathInfo} (h : s.Accepts env e info)
    (hlan : s.isWifiLanConnected env = true) :
    Spared .wifiHotspot s ((s.adopted e (upiMedium info)).dialUpgraded env e info).2 := by
  obtain ⟨new, hnew, hx⟩ := spared_dialUpgraded env (s.adopted e (upiMedium info)) e
    fun hm => h.allowed ⟨hlan, hm⟩
  rw [adopted_trace] at hnew
  exact ⟨new, hnew, hx⟩

theorem Refused.spared {info : UpgradePathInfo} (h : Refused env s e info v)
    (hlan : s.isWifiLanConnected env = true) : Spared .wifiHotspot s v := by
  cases h with
  | stranger | barred => exact .refl _ _
  | mismatched => exact ⟨[], adopted_trace _, List.forall_mem_nil _⟩
  | undialled hacc _ hd =>
    have h := hacc.spared hlan
    rw [hd] at h
    exact h
  | unacknowledged hacc _ hd =>
    have h := hacc.spared hlan
    rw [hd] at h
    exact h.trans (.cons id (.one _ id))

theorem TakenUp.spared {info : UpgradePathInfo} (h : TakenUp env s e info c v)
    (hlan : s.isWifiLanConnected env = true) : Spared .wifiHotspot s v := by
  cases h with
  | acknowledged hacc _ hd =>
    have h := hacc.spared hlan
    rw [hd] at h
    exact h.trans (.one _ id)
  | unasked hacc _ hd =>
    have h := hacc.spared hlan
    rw [hd] at h
    exact h

theorem spared_asked (env : Env) (e : String) {m m' : Medium}
    (hh : s.hasHandlerForMedium m' = true) (hm : m' ≠ m) (c : ChannelId) :
    Spared m s (s.asked env e m' c).2 := by
  obtain ⟨u, bytes, htrace⟩ := asked_trace env e hh c
  exact ⟨[_, _], htrace, by simp [Event.Wakes, hm]⟩

theorem not_hotspot_of_passes (hlan : s.isWifiLanConnected env = true)
    (hp : s.InitiatePasses env e m) : m ≠ .wifiHotspot :=
  fun hm => hp.1 ⟨hlan, hm⟩

theorem chain_spared (env : Env) (e : String) (s₀ : World) :
    Chain env e
      (fun s _ => Spared .wifiHotspot s₀ s ∧ s.isWifiLanConnected env = true)
      (fun s => Spared .wifiHotspot s₀ s ∧ s.isWifiLanConnected env = true)
      (fun s => Spared .wifiHotspot s₀ s ∧ s.isWifiLanConnected env = true)
      (Spared .wifiHotspot s₀) where
  turnedAway hs ht := hs.1.trans ⟨[_], ht.trace, by simp [Event.Wakes]⟩
  unanswered := by
    rintro s m c ⟨hs, hlan⟩ hp - -
    refine ⟨hs.trans (spared_asked env e hp.2.1 (not_hotspot_of_passes hlan hp) c), ?_⟩
    rwa [isWifiLanConnected_congr env (asked_ecm env s e m c)]
  unwritten := by
    rintro s m c ⟨hs, hlan⟩ hp - -
    have hasked := hs.trans (spared_asked env e hp.2.1 (not_hotspot_of_passes hlan hp) c)
    refine ⟨hasked.trans (.one _ id), ?_⟩
    rwa [isWifiLanConnected_congr env (sameBearings_offered env s e m c).ecm]
  entered := by
    rintro s m c ⟨hs, hlan⟩ hp - - -
    have hasked := hs.trans (spared_asked env e hp.2.1 (not_hotspot_of_passes hlan hp) c)
    exact hasked.trans (.cons id (.one _ id))
  kept hs _ := hs.1
  abandoned := by
    rintro s ⟨hs, hlan⟩ -
    refine ⟨hs.trans (spared_of_reverts (reverts_abandoned env s e) _), ?_⟩
    rwa [isWifiLanConnected_congr env (abandoned_frame env s e).2]
  scheduled := by
    rintro s t ⟨hs, -⟩ - ht
    obtain ⟨_, rfl⟩ := retryUpgradesAfterDelay_ok ht
    exact hs.trans (.one _ id)
  settled hs := hs.1
  next := by
    rintro s mediums ⟨hs, hlan⟩ -
    rw [setBwuMediumForEndpoint_frame]
    exact ⟨hs, hlan⟩

/-! ### Operations -/

theorem Handled.spared {fuel : Nat} {frame : OfflineFrame} (h : Handled env fuel s frame e t)
    (hlan : s.isWifiLanConnected env = true) : Spared .wifiHotspot s t := by
  cases h with
  | ignored => exact .refl _ _
  | outOfSync => exact (exchange_closeOutOfSync s e).spared _
  | lastWrite =>
    have hmark : Spared .wifiHotspot s (s.emit (.lastWriteDispatched e)) :=
      .one _ id
    exact hmark.trans ((exchange_processLastWriteToPriorChannelEvent env _ e).spared _)
  | safeToClose => exact (exchange_processSafeToClosePriorChannelEvent env s e).spared _
  | refused _ hr => exact (hr.spared hlan).trans (spared_runUpgradeFailedProtocol ..)
  | @takenUp info c v _ ht =>
    have hmark : Spared .wifiHotspot v (v.enterInProgress e) := .one _ id
    have hrun := exchange_runUpgradeProtocol env (v.enterInProgress e) e c
      (!info.supportsDisablingEncryption.getD false)
    exact ((ht.spared hlan).trans hmark).trans (hrun.spared _)
  | failure _ _ hst => exact (chain_spared env e s).onFailure fuel ⟨.refl _ _, hlan⟩ hst

theorem spared_onEndpointDisconnect (s : World) (u e : String) (m : Medium) :
    Spared m s (s.onEndpointDisconnect u e) :=
  onEndpointDisconnect_rule (R := Spared m) (fun _ => .refl _ _) Adds.trans
    (fun _ _ => .one _ id) (fun s => (exchange_closeParked s e .shutdown).spared m)
    (fun _ => .refl _ _) (fun _ => .refl _ _) (fun _ => .refl _ _) (fun _ => .refl _ _)
    (fun s u => spared_of_reverts (reverts_revertBwuMediumForEndpoint s u e) m) s u

theorem spared_shutdown (s : World) (m : Medium) : Spared m s s.shutdown := by
  have hone : ∀ (v : World) m', Spared m v (v.revertInitiatorState m') := by
    intro v m'
    have hmark : Spared m v (v.emit (.revertInitiatorState m')) := .one _ id
    exact hmark.trans (spared_of_reverts (reverts_revertHandler _ _ _) m)
  exact foldl_revertInitiatorState (R := Spared m) (fun _ => .refl _ _) Adds.trans hone
    s.handlers.keys { s with retryUpgradeAlarms := ∅, retryDelays := ∅ }

theorem Step.spared {op : Op} (hst : Step env s op t) (hlan : s.isWifiLanConnected env = true) :
    Spared .wifiHotspot s t := by
  obtain ⟨fuel, hst⟩ := hst
  cases op with
  | initiateBwuForEndpoint e m => exact (chain_spared env e s).initiate fuel ⟨.refl _ _, hlan⟩ hst
  | onIncomingFrame frame e => exact (onIncomingFrame_handled hst).spared hlan
  | onIncomingConnection c => cases hst; exact (exchange_onIncomingConnection env s c).spared _
  | fireRetryAlarm e =>
    exact (chain_spared env e s).fireRetryAlarm (fun _ => .refl _ _) ⟨.refl _ _, hlan⟩ hst
  | onEndpointDisconnect u e => cases hst; exact spared_onEndpointDisconnect s u e _
  | shutdown => cases hst; exact spared_shutdown s _
  | registerChannelForEndpoint e c => cases hst; exact .one _ id
  | _ => cases hst; exact .refl _ _

/-! ### Requests of a chain that need not end -/

theorem Attempt.spared {x y : World × Medium} (h : Attempt env e x y)
    (hlan : x.1.isWifiLanConnected env = true) : Spared .wifiHotspot x.1 y.1 := by
  obtain ⟨v, hfailed, hback⟩ := h
  have hback' := spared_of_reverts hback.reverts .wifiHotspot
  refine Adds.trans ?_ hback'
  cases hfailed with
  | unanswered hp => exact spared_asked env e hp.2.1 (not_hotspot_of_passes hlan hp) _
  | unwritten hp =>
    exact (spared_asked env e hp.2.1 (not_hotspot_of_passes hlan hp) _).trans
      (.one _ id)

theorem Comes.spared {cause : Cause} {w : World} {n : Medium} (h : s.Comes env e cause w n)
    (hlan : s.isWifiLanConnected env = true) :
    Spared .wifiHotspot s w ∧ w.isWifiLanConnected env = true := by
  obtain ⟨w₀, n₀, hb, hrun⟩ := h
  have hstart : Spared .wifiHotspot s w₀ ∧ w₀.isWifiLanConnected env = true :=
    ⟨spared_of_reverts hb.reverts _, isWifiLanConnected_congr env hb.sameBearings.ecm ▸ hlan⟩
  refine ReflTransGen.trans_induction_on (motive := fun {x y} _ =>
    Spared .wifiHotspot s x.1 ∧ x.1.isWifiLanConnected env = true →
      Spared .wifiHotspot s y.1 ∧ y.1.isWifiLanConnected env = true) hrun ?_ ?_ ?_ hstart
  · exact fun _ => id
  · rintro x y h ⟨hs, hlan⟩
    exact ⟨hs.trans (h.spared hlan), isWifiLanConnected_congr env h.sameBearings.ecm ▸ hlan⟩
  · exact fun _ _ h h' hs => h' (h hs)

end

theorem isWifiLanConnected_of_channel {env : Env} {s : World} {e : String} {c : ChannelId}
    (hc : s.getChannelForEndpoint e = some c) (hm : env.medium c = .wifiLan) :
    s.isWifiLanConnected env = true := by
  rw [isWifiLanConnected, List.any_eq_true]
  exact ⟨⟨e, c⟩, AList.mem_lookup_iff.mp hc, by simpa using hm⟩

/-- While some endpoint is on WiFi LAN, no operation sets up a hotspot or joins one.  This holds of
every request of a failure chain as well, also of a chain that does not return. -/
theorem wifi_lan_protected {env : Env} {s : World} {e₀ : String} {c : ChannelId}
    (hc : s.getChannelForEndpoint e₀ = some c) (hm : env.medium c = .wifiLan) :
    (∀ op t, Step env s op t →
      ∃ new, t.trace = new ++ s.trace ∧ ∀ x ∈ new, ¬ x.Wakes .wifiHotspot) ∧
      ∀ e cause w n, s.Comes env e cause w n →
        (∃ new, w.trace = new ++ s.trace ∧ ∀ x ∈ new, ¬ x.Wakes .wifiHotspot) ∧
          (w.InitiatePasses env e n → n ≠ .wifiHotspot) := by
  have hlan := isWifiLanConnected_of_channel hc hm
  refine ⟨fun op t hst => hst.spared hlan, fun e cause w n hcomes => ?_⟩
  obtain ⟨hs, hlan'⟩ := hcomes.spared hlan
  exact ⟨hs, not_hotspot_of_passes hlan'⟩

def lanAndBluetooth : World :=
  (World.new {} [.wifiLan, .wifiHotspot] "L").after reliable 3
    (connect "E" 1 ++ connect "X" 3 ++ [.setUpgradeMediums "X" [.wifiLan, .wifiHotspot]])

theorem wifi_lan_protected_on_failure :
    ∃ t, Step reliable lanAndBluetooth (.onIncomingFrame (forBwuFailure lanPath) "X") t ∧
      ∃ new, t.trace = new ++ lanAndBluetooth.trace ∧ ∀ x ∈ new, ¬ x.Wakes .wifiHotspot := by
  have hst : ∃ t, Step reliable lanAndBluetooth (.onIncomingFrame (forBwuFailure lanPath) "X") t :=
    ⟨_, 3, rfl⟩
  obtain ⟨t, hst⟩ := hst
  have h := @wifi_lan_protected reliable lanAndBluetooth "E" 1 (by decide) (by decide)
  exact ⟨t, hst, h.1 _ t hst⟩

end World

end Nearby.Bwu
