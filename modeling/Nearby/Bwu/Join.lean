import Nearby.Bwu.Release
import Nearby.Bwu.WifiHotspot

/-! The responder's side of a hotspot upgrade.  The handler joins the peer's AP before it dials,
and the revert that follows a failure does not make it leave. -/

namespace Nearby.Bwu

open Proto Lib

namespace WifiHotspotBwuHandler

def joined : List SoftApCall → Bool
  | [] => false
  | .connectAsSta _ true :: _ => true
  | .disconnectSta :: _ => false
  | _ :: calls => joined calls

/-- What the manager's calls come to at the handler of the hotspot medium. -/
def hear (ap : SoftAp) (P : Prost) (h : WifiHotspotBwuHandler) : Event → WifiHotspotBwuHandler
  | .handleInitialize .wifiHotspot u _ _ => (h.handleInitializeUpgradedMediumForEndpoint ap P u).2
  | .handleRevert .wifiHotspot u => h.handleRevertInitiatorStateForService u
  | .createUpgraded .wifiHotspot _ _ info _ => (h.createUpgradedEndpointChannel ap info).2
  | .handlerDisconnect .wifiHotspot _ => h.onEndpointDisconnect
  | _ => h

def heard (ap : SoftAp) (P : Prost) : List Event → WifiHotspotBwuHandler
  | [] => {}
  | x :: tr => (heard ap P tr).hear ap P x

/-- The credentials of the offer can be read, and the AP they name is joined. -/
def Joins (ap : SoftAp) (h : WifiHotspotBwuHandler) (info : UpgradePathInfo) : Prop :=
  ∃ creds port, readCredentials info = some (creds, port) ∧ ap.connectAsSta h.calls creds = true

end WifiHotspotBwuHandler

open WifiHotspotBwuHandler

def Env.withHotspot (env : Env) (ap : SoftAp) : Env :=
  { env with
    handleInitialize := fun tr m u e =>
      if m = .wifiHotspot then
        ((heard ap env.prost tr).handleInitializeUpgradedMediumForEndpoint ap env.prost u).1
      else env.handleInitialize tr m u e
    createUpgraded := fun tr m u e info =>
      if m = .wifiHotspot then ((heard ap env.prost tr).createUpgradedEndpointChannel ap info).1
      else env.createUpgraded tr m u e info }

def Event.Moves : Event → Prop
  | .createUpgraded .wifiHotspot _ _ _ _ => True
  | .handlerDisconnect .wifiHotspot _ => True
  | _ => False

namespace WifiHotspotBwuHandler

variable {ap : SoftAp} {P : Prost} {h : WifiHotspotBwuHandler}

theorem joined_handleInitialize (ap : SoftAp) (P : Prost) (h : WifiHotspotBwuHandler) (u : String) :
    joined (h.handleInitializeUpgradedMediumForEndpoint ap P u).2.calls = joined h.calls := by
  have hi := handleInitialize_initialized ap P h u
  generalize h.handleInitializeUpgradedMediumForEndpoint ap P u = r at hi
  cases hi with
  | reused | unstarted | unbound | bound => rfl

theorem joined_handleRevert (h : WifiHotspotBwuHandler) (u : String) :
    joined (h.handleRevertInitiatorStateForService u).calls = joined h.calls := by
  rw [handleRevertInitiatorStateForService]
  split <;> rfl

theorem joined_createUpgraded (ap : SoftAp) (h : WifiHotspotBwuHandler) (info : UpgradePathInfo) :
    joined (h.createUpgradedEndpointChannel ap info).2.calls = true ↔
      h.Joins ap info ∨ joined h.calls = true := by
  rw [createUpgradedEndpointChannel]
  cases hread : readCredentials info with
  | none => simp [Joins, hread]
  | some x =>
    obtain ⟨creds, port⟩ := x
    have hjoins : h.Joins ap info ↔ ap.connectAsSta h.calls creds = true := by simp [Joins, hread]
    dsimp only
    rw [hjoins]
    cases ap.connectAsSta h.calls creds with
    | false => simp [log, joined]
    | true => simp [log, joined]

theorem joined_hear {x : Event} (hx : ¬ x.Moves) :
    joined (h.hear ap P x).calls = joined h.calls := by
  unfold hear
  split
  case h_1 => exact joined_handleInitialize ap P h _
  case h_2 => exact joined_handleRevert h _
  case h_3 | h_4 => exact (hx trivial).elim
  case h_5 => rfl

theorem joined_heard {new tr : List Event} (hnew : ∀ x ∈ new, ¬ x.Moves) :
    joined (heard ap P (new ++ tr)).calls = joined (heard ap P tr).calls := by
  induction new with
  | nil => rfl
  | cons x new ih =>
    obtain ⟨hx, hnew⟩ := List.forall_mem_cons.mp hnew
    exact (joined_hear hx).trans (ih hnew)

end WifiHotspotBwuHandler

namespace World

abbrev Stationary (s t : World) : Prop := Adds (¬ ·.Moves) s.trace t.trace

section

variable {env : Env} {ap : SoftAp} {s t v : World} {e : String} {info : UpgradePathInfo}
  {c : ChannelId}

theorem dialUpgraded_stationary (env : Env) (hm : upiMedium info = s.getBwuMediumForEndpoint e)
    (hhas : s.hasHandlerForMedium (upiMedium info) = true)
    (hc : s.getChannelForEndpoint e = some c) :
    ∃ result, Stationary (s.emit (.createUpgraded (upiMedium info) (env.serviceId c) e info result))
      (s.dialUpgraded env e info).2 := by
  simp only [dialUpgraded]
  rw [if_neg (not_not.mpr hm), if_neg (not_not.mpr hhas), hc]
  dsimp only
  generalize (if (s.channels c).localEndpointId = "" then _ else _) = lastLocal
  split
  case h_1 h =>
    rw [h]
    exact ⟨none, .refl _ _⟩
  case h_2 c' h =>
    rw [h]
    refine ⟨some c', ?_⟩
    split
    case isTrue => exact .cons id (.one _ id)
    case isFalse => exact .one _ id

theorem told_stationary (hflag : s.config.supportMultipleBwuMediums = true) :
    Stationary s (s.runUpgradeFailedProtocol env e info) := by
  have ht := runUpgradeFailedProtocol_told env s e info
  generalize s.runUpgradeFailedProtocol env e info = t at ht
  have hwrite : ∀ c, Stationary s (s.write env (some e) c (.frame (forBwuFailure info))).2 :=
    fun _ => .one _ id
  cases ht with
  | unregistered => exact .refl _ _
  | @unwritten c => exact (hwrite c).trans (.one _ id)
  | @mediumless c => exact hwrite c
  | @reverted c =>
    refine (hwrite c).trans ?_
    obtain ⟨new, hnew, hx⟩ := @calls_revertBwuMediumForEndpoint
      (s.write env (some e) c (.frame (forBwuFailure info))).2 (env.serviceId c) e hflag
    refine ⟨new, hnew, fun x hmem => ?_⟩
    rw [(hx x hmem).1]
    exact id

end

theorem refused_stationary {env : Env} {s v : World} {e : String} {info : UpgradePathInfo}
    {c : ChannelId} (hacc : s.Accepts env e info)
    (hmatch : upiMedium info = (s.adopted e (upiMedium info)).getBwuMediumForEndpoint e)
    (hhas : s.hasHandlerForMedium (upiMedium info) = true)
    (hc : s.getChannelForEndpoint e = some c) (hr : Refused env s e info v) :
    ∃ result, Stationary (s.emit (.createUpgraded (upiMedium info) (env.serviceId c) e info result))
      v := by
  have hframe := adopted_frame s e (upiMedium info)
  have hdial : ∃ result,
      Stationary (s.emit (.createUpgraded (upiMedium info) (env.serviceId c) e info result))
        ((s.adopted e (upiMedium info)).dialUpgraded env e info).2 := by
    obtain ⟨result, new, hnew, hx⟩ := @dialUpgraded_stationary (s.adopted e (upiMedium info)) e info
      c env hmatch (by rw [hframe]; exact hhas) (by rw [hframe]; exact hc)
    refine ⟨result, new, hnew.trans ?_, hx⟩
    rw [hframe]
    rfl
  cases hr with
  | stranger hstranger => exact absurd (hstranger.symm.trans hacc.connected) (by decide)
  | barred _ hlan => exact absurd hlan hacc.allowed
  | mismatched _ hm => exact absurd hmatch hm
  | undialled _ _ hd => rwa [hd] at hdial
  | @unacknowledged c' d _ _ hd =>
    rw [hd] at hdial
    obtain ⟨result, h⟩ := hdial
    refine ⟨result, h.trans ⟨[_, _], rfl, ?_⟩⟩
    simp [Event.Moves]

/-- An accepted hotspot offer that fails leaves the device joined when the join itself had
succeeded, and only then. -/
theorem failed_join_undone {env : Env} {ap : SoftAp} {s t v : World} {e : String}
    {info : UpgradePathInfo} {frame : OfflineFrame} {c : ChannelId}
    (hflag : s.config.supportMultipleBwuMediums = true)
    (hstart : joined (heard ap env.prost s.trace).calls = false)
    (hhandler : s.hasHandlerForMedium .wifiHotspot = true)
    (hev : eventOf frame = some (.upgradePathAvailable, some info))
    (hmedium : upiMedium info = .wifiHotspot) (hacc : s.Accepts (env.withHotspot ap) e info)
    (hmatch : (s.adopted e .wifiHotspot).getBwuMediumForEndpoint e = .wifiHotspot)
    (hr : Refused (env.withHotspot ap) s e info v) (hc : s.getChannelForEndpoint e = some c)
    (hst : Step (env.withHotspot ap) s (.onIncomingFrame frame e) t) :
    joined (heard ap env.prost t.trace).calls = false ↔
      ¬ (heard ap env.prost s.trace).Joins ap info := by
  obtain ⟨fuel, hst⟩ := hst
  cases (onIncomingFrame_refused fuel hev hr).symm.trans hst
  have hmatch' : upiMedium info = (s.adopted e (upiMedium info)).getBwuMediumForEndpoint e := by
    rw [hmedium, hmatch]
  obtain ⟨result, hv⟩ := refused_stationary hacc hmatch' (hmedium ▸ hhandler) hc hr
  have hvflag : v.config.supportMultipleBwuMediums = true := by
    rcases hr.aside.2 with ha | ⟨-, ha⟩
    · rw [ha.config, hflag]
    · rw [ha.config, adopted_frame, hflag]
  obtain ⟨new, hnew, hx⟩ := hv.trans (told_stationary hvflag)
  rw [hnew, joined_heard hx, emit, hmedium, heard, hear, ← Bool.not_eq_true, joined_createUpgraded,
    hstart]
  simp

def hotspotPath : UpgradePathInfo :=
  { upgradePathInfoForMedium .wifiHotspot with
    supportsClientIntroductionAck := some true
    wifiHotspotCredentials := some {
      ssid := some "DIRECT-nearby", password := some "password", port := some 4242
      gateway := some "192.168.49.1", frequency := some 2437 } }

def guest (ap : SoftAp) : World :=
  (World.new {} [.wifiHotspot] "L").after (reliable.withHotspot ap) 3 (connect "E" 0)

def invited (ap : SoftAp) : World :=
  (guest ap).after (reliable.withHotspot ap) 3
    [.onIncomingFrame (bwuUpgradePathAvailable hotspotPath) "E"]

def deafAp : SoftAp := { workingAp with connectAsSta := fun _ _ => false }

def silentAp : SoftAp := { workingAp with dial := fun _ _ => none }

theorem failed_join_undone_unjoined :
    joined (heard deafAp reliable.prost (invited deafAp).trace).calls = false := by
  refine (@failed_join_undone reliable deafAp (guest deafAp) (invited deafAp) _ "E" hotspotPath
    (bwuUpgradePathAvailable hotspotPath) 0 (by decide) (by decide) (by decide)
    (eventOf_bwuUpgradePathAvailable hotspotPath) (by decide)
    ⟨by decide, by decide, by decide, by decide⟩ (by decide)
    (.undialled ⟨by decide, by decide, by decide, by decide⟩ (by decide) rfl) (by decide)
    ⟨3, rfl⟩).mpr ?_
  rintro ⟨_, _, -, hjoin⟩
  cases hjoin

/-- The dial fails after the join, the failure is told to "E", and the device stays joined. -/
theorem failed_join_kept :
    ReachedBy (reliable.withHotspot silentAp) (fun _ op => op.Validated) (guest silentAp) ∧
      (guest silentAp).config.supportMultipleBwuMediums = true ∧
      joined (heard silentAp reliable.prost (guest silentAp).trace).calls = false ∧
      (Op.onIncomingFrame (bwuUpgradePathAvailable hotspotPath) "E").Validated ∧
      Step (reliable.withHotspot silentAp) (guest silentAp)
        (.onIncomingFrame (bwuUpgradePathAvailable hotspotPath) "E") (invited silentAp) ∧
      .write (some "E") 0 (.frame (forBwuFailure hotspotPath)) false false .success ∈
        (invited silentAp).trace ∧
      joined (heard silentAp reliable.prost (invited silentAp).trace).calls = true := by
  refine ⟨?_, by decide, by decide, by decide, ⟨3, rfl⟩, by decide, by decide⟩
  have hvalid : ∀ op ∈ connect "E" 0, op.Validated := by decide
  exact reachedBy_after _ _ _ _ _ fun i hi => hvalid _ (List.getElem_mem hi)

end World

end Nearby.Bwu
