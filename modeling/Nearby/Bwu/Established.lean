import Nearby.Bwu.Release

/-! Frames that come in for an endpoint whose upgrade is established.  LAST_WRITE and
SAFE_TO_CLOSE are dropped outside an upgrade; UPGRADE_FAILURE and an offer that is turned down
reach the revert. -/

namespace Nearby.Bwu

open Proto Lib

/-- Frames of `e`, new sockets, resets and what the owner does. -/
def Op.Passive (e : String) : Op → Prop
  | .onIncomingFrame _ e' => e' = e
  | .initiateBwuForEndpoint _ _ | .fireRetryAlarm _ | .onEndpointDisconnect _ _ | .shutdown => False
  | _ => True

namespace World

/-- The frame is one on which the handler of `m` may be told to revert `u`: a failure report,
or an offer turned down on a channel of `u` while `m` is remembered. -/
inductive Disturbs (env : Env) (s : World) (m : Medium) (u e : String) : Op → Prop
  | failure {frame : OfflineFrame} {info : UpgradePathInfo} :
      s.client.isConnectedToEndpoint e = true →
      eventOf frame = some (.upgradeFailure, some info) →
      Disturbs env s m u e (.onIncomingFrame frame e)
  | refusal {frame : OfflineFrame} {info : UpgradePathInfo} {v : World} {c : ChannelId} :
      eventOf frame = some (.upgradePathAvailable, some info) → Refused env s e info v →
      v.getChannelForEndpoint e = some c →
      (env.write v.trace c (.frame (forBwuFailure info))).ok = true →
      v.getBwuMediumForEndpoint e = m → env.serviceId c = u →
      Disturbs env s m u e (.onIncomingFrame frame e)

structure Keeps (m : Medium) (u e : String) (s t : World) : Prop where
  config : t.config = s.config
  tracks : s.TracksAt m u e → t.TracksAt m u e
  calls : ∃ new, t.trace = new ++ s.trace ∧ .handleRevert m u ∉ new

section

variable {env : Env} {s t v : World} {m : Medium} {u e : String}

theorem Keeps.refl (m : Medium) (u e : String) (s : World) : Keeps m u e s s :=
  ⟨rfl, id, [], rfl, List.not_mem_nil⟩

theorem Keeps.trans (h : Keeps m u e s t) (h' : Keeps m u e t v) : Keeps m u e s v := by
  obtain ⟨new, hnew, hx⟩ := h.calls
  obtain ⟨new', hnew', hx'⟩ := h'.calls
  refine ⟨h'.config.trans h.config, fun ht => h'.tracks (h.tracks ht), new' ++ new, ?_, ?_⟩
  · rw [hnew', hnew, List.append_assoc]
  · exact fun hmem => (List.mem_append.mp hmem).elim hx' hx

theorem Aside.keeps (h : Aside s t) : Keeps m u e s t := by
  obtain ⟨new, hnew, hx⟩ := h.calls
  exact ⟨h.config, (tracksAt_congr h.handlers m u e).mpr, new, hnew, fun hmem => hx _ hmem trivial⟩

theorem adopted_keeps (s : World) (m' : Medium) : Keeps m u e s (s.adopted e m') := by
  rw [adopted_frame]
  exact ⟨rfl, id, [], rfl, List.not_mem_nil⟩

theorem revert_keeps (hflag : s.config.supportMultipleBwuMediums = true) {u' : String}
    (hother : ¬ (s.getBwuMediumForEndpoint e = m ∧ u' = u)) :
    Keeps m u e s (s.revertBwuMediumForEndpoint u' e) := by
  obtain ⟨new, hnew, hx⟩ := @calls_revertBwuMediumForEndpoint s u' e hflag
  refine ⟨?_, fun ht => ?_, new, hnew, fun hmem => ?_⟩
  · rw [revertBwuMediumForEndpoint_frame]
  · refine (tracksAt_revertBwuMediumForEndpoint hflag).mpr ⟨ht, ?_⟩
    rintro ⟨-, hm, -, hu, -⟩
    exact hother ⟨hm.symm, hu.symm⟩
  · cases (hx _ hmem).1
    exact hother ⟨rfl, rfl⟩

theorem told_keeps {info : UpgradePathInfo} (hflag : s.config.supportMultipleBwuMediums = true)
    (hother : ∀ c, s.getChannelForEndpoint e = some c →
      (env.write s.trace c (.frame (forBwuFailure info))).ok = true →
      ¬ (s.getBwuMediumForEndpoint e = m ∧ env.serviceId c = u)) :
    Keeps m u e s (s.runUpgradeFailedProtocol env e info) := by
  have ht := runUpgradeFailedProtocol_told env s e info
  generalize s.runUpgradeFailedProtocol env e info = t at ht
  cases ht with
  | unregistered => exact .refl m u e s
  | @unwritten c hc =>
    exact ((aside_write env s _ c _).trans (aside_closeWithReason _ c _)).keeps
  | @reverted c hc hw =>
    have hwrite : Keeps m u e s (s.write env (some e) c (.frame (forBwuFailure info))).2 :=
      (aside_write env s _ c _).keeps
    have hrevert := @revert_keeps (s.write env (some e) c (.frame (forBwuFailure info))).2 m u e
      hflag (env.serviceId c) (hother c hc hw)
    exact (hwrite.trans hrevert).trans (aside_leaveInProgress _ e).keeps
  | @mediumless c hc =>
    exact ((aside_write env s _ c _).trans (aside_leaveInProgress _ e)).keeps

theorem dispatched_keeps {fuel : Nat} {frame : OfflineFrame}
    (hflag : s.config.supportMultipleBwuMediums = true)
    (hok : ¬ s.Disturbs env m u e (.onIncomingFrame frame e))
    (hd : Dispatched env fuel s frame e t) : Keeps m u e s t := by
  cases hd with
  | aside ha => exact ha.keeps
  | @refused info v hev hr =>
    have hv : Keeps m u e s v := by
      rcases hr.aside.2 with ha | ⟨-, ha⟩
      · exact ha.keeps
      · exact (adopted_keeps s _).trans ha.keeps
    refine hv.trans (told_keeps (hv.config ▸ hflag) fun c hc hw hsame => hok ?_)
    exact .refusal hev hr hc hw hsame.1 hsame.2
  | @takenUp info c v _ ht =>
    have henter : Keeps m u e v (v.enterInProgress e) :=
      ⟨rfl, id, [_], rfl, by simp⟩
    exact (((adopted_keeps s _).trans ht.aside.2.keeps).trans henter).trans
      (aside_runUpgradeProtocol ..).keeps
  | failure hc hev => exact absurd (.failure hc hev) hok

theorem passive_keeps {op : Op} (hflag : s.config.supportMultipleBwuMediums = true)
    (hop : op.Passive e) (hok : ¬ s.Disturbs env m u e op) (hst : Step env s op t) :
    Keeps m u e s t := by
  obtain ⟨fuel, hst⟩ := hst
  cases op with
  | onIncomingFrame frame e' =>
    cases hop
    exact dispatched_keeps hflag hok (onIncomingFrame_dispatched hst)
  | onIncomingConnection c =>
    cases hst
    rcases onIncomingConnection_aside env s c with ha | ⟨e', -, ha⟩
    · exact ha.keeps
    · exact ⟨ha.config, (tracksAt_congr ha.handlers m u e).mpr, (ha.keeps (e := e)).calls⟩
  | initiateBwuForEndpoint | fireRetryAlarm | onEndpointDisconnect | shutdown => exact hop.elim
  | registerChannelForEndpoint e' c =>
    cases hst
    exact ⟨rfl, id, [_], rfl, by simp⟩
  | resetUpgradeForEndpoint | onConnectionInitiated | localEndpointAcceptedConnection
  | remoteEndpointAcceptedConnection | onConnectionAccepted | onDisconnected | setUpgradeMediums
  | unregisterChannelForEndpoint | closeChannel | enableEncryption =>
    cases hst
    exact ⟨rfl, id, [], rfl, List.not_mem_nil⟩

end

/-- While no failure report comes in for the endpoint and no offer of it is turned down on a
channel of the upgraded service, the handler keeps the endpoint and the service stays up. -/
theorem established_medium_kept {env : Env} {s t : World} {m : Medium} {u e : String}
    (hflag : s.config.supportMultipleBwuMediums = true) (htracks : s.TracksAt m u e)
    (hrun : Reach (Step env) (fun s op => op.Passive e ∧ ¬ s.Disturbs env m u e op) s t) :
    t.TracksAt m u e ∧ ∃ new, t.trace = new ++ s.trace ∧ .handleRevert m u ∉ new := by
  have hkeeps : Keeps m u e s t := by
    induction hrun with
    | refl => exact .refl m u e s
    | tail _ hstep ih =>
      obtain ⟨op, ⟨hop, hok⟩, hst⟩ := hstep
      exact ih.trans (passive_keeps (ih.config ▸ hflag) hop hok hst)
  exact ⟨hkeeps.tracks htracks, hkeeps.calls⟩

def straggling (frames : List OfflineFrame) : World :=
  (scenario upgrade).after reliable 3 (frames.map (.onIncomingFrame · "E"))

theorem established_medium_kept_on_offer :
    (straggling [forBwuLastWrite, bwuUpgradePathAvailable lanPath]).TracksAt .wifiLan "S_UPGRADE"
      "E" := by
  have h := @established_medium_kept reliable (scenario upgrade)
    (straggling [forBwuLastWrite, bwuUpgradePathAvailable lanPath]) .wifiLan "S_UPGRADE" "E"
    (by decide) ⟨_, rfl, _, rfl, by decide⟩ (reach_after _ ?_)
  · exact h.1
  · intro i hi
    rcases i with _ | _ | i
    · refine ⟨rfl, ?_⟩
      rintro (⟨-, hev⟩ | hev)
      · cases eventOf_forBwuLastWrite.symm.trans hev
      · cases eventOf_forBwuLastWrite.symm.trans hev
    · refine ⟨rfl, ?_⟩
      rintro (⟨-, hev⟩ | ⟨-, -, -, -, -, hu⟩)
      · cases (eventOf_bwuUpgradePathAvailable lanPath).symm.trans hev
      · exact absurd (show "S" = "S_UPGRADE" from hu) (by decide)
    · exact absurd hi (by simp)

/-- "E" reports a failure after its upgrade is complete, and the listener is taken down. -/
theorem established_medium_reverted :
    ReachedBy reliable (fun _ op => op.Validated) (scenario upgrade) ∧
      (scenario upgrade).config.supportMultipleBwuMediums = true ∧
      .bandwidthChanged "E" .wifiLan ∈ (scenario upgrade).trace ∧
      "E" ∉ (scenario upgrade).inProgressUpgrades ∧
      (scenario upgrade).TracksAt .wifiLan "S_UPGRADE" "E" ∧
      (∀ op ∈ [forBwuFailure lanPath].map (Op.onIncomingFrame · "E"),
        op.Passive "E" ∧ op.Validated) ∧
      ¬ (straggling [forBwuFailure lanPath]).TracksAt .wifiLan "S_UPGRADE" "E" ∧
      .handleRevert .wifiLan "S_UPGRADE" ∈ (straggling [forBwuFailure lanPath]).trace := by
  refine ⟨scenario_validated _ (by decide), by decide, by decide, by decide,
    ⟨_, rfl, _, rfl, by decide⟩, ?_, ?_, by decide⟩
  · simp only [List.map_cons, List.map_nil, List.forall_mem_singleton]
    exact ⟨rfl, by decide⟩
  · rintro ⟨_, hl, _, hids, -⟩
    cases hl
    cases hids

end World

end Nearby.Bwu
