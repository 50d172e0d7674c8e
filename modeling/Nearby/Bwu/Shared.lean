import Nearby.Bwu.Disconnect

/-! One medium for all endpoints, where only one is supported.  A failed request and a disconnect
leave it alone while more than one endpoint is connected; an offer that is turned down does not
ask. -/

namespace Nearby.Bwu

open Proto Lib

namespace World

structure Undisturbed (s t : World) : Prop where
  calls : ∃ new, t.trace = new ++ s.trace ∧ ∀ m, .revertInitiatorState m ∉ new
  medium : t.medium = .unknownMedium → s.medium = .unknownMedium

/-- The frame is an offer that is turned down, and the failure is told to the peer while a
medium is in use: one that was before, or one just adopted that has a handler. -/
inductive TearsDown (env : Env) (s : World) : Op → Prop
  | refusal {frame : OfflineFrame} {e : String} {info : UpgradePathInfo} {v : World}
      {c : ChannelId} :
      eventOf frame = some (.upgradePathAvailable, some info) → Refused env s e info v →
      v.getChannelForEndpoint e = some c →
      (env.write v.trace c (.frame (forBwuFailure info))).ok = true →
      v.medium ≠ .unknownMedium →
      s.medium ≠ .unknownMedium ∨ s.hasHandlerForMedium v.medium = true →
      TearsDown env s (.onIncomingFrame frame e)

section

variable {env : Env} {s s₀ t v : World} {e : String}

theorem Undisturbed.refl (s : World) : Undisturbed s s :=
  ⟨⟨[], rfl, fun _ => List.not_mem_nil⟩, id⟩

theorem Undisturbed.trans (h : Undisturbed s t) (h' : Undisturbed t v) : Undisturbed s v := by
  obtain ⟨new, hnew, hx⟩ := h.calls
  obtain ⟨new', hnew', hx'⟩ := h'.calls
  refine ⟨⟨new' ++ new, ?_, fun m hmem => ?_⟩, fun hm => h.medium (h'.medium hm)⟩
  · rw [hnew', hnew, List.append_assoc]
  · exact (List.mem_append.mp hmem).elim (hx' m) (hx m)

theorem undisturbed_of_calls {new : List Event} (hm : t.medium = s.medium)
    (htrace : t.trace = new ++ s.trace) (hnew : ∀ x ∈ new, ¬ x.Negotiates) : Undisturbed s t :=
  ⟨⟨new, htrace, fun _ hmem => hnew _ hmem trivial⟩, fun h => hm ▸ h⟩

theorem Aside.undisturbed (h : Aside s t) : Undisturbed s t := by
  obtain ⟨new, hnew, hx⟩ := h.calls
  exact undisturbed_of_calls h.medium hnew hx

theorem undisturbed_emit (s : World) (x : Event) (hx : ∀ m, x ≠ .revertInitiatorState m) :
    Undisturbed s (s.emit x) :=
  ⟨⟨[x], rfl, fun m hmem => hx m (List.mem_singleton.mp hmem).symm⟩, id⟩

theorem undisturbed_setBwuMediumForEndpoint (s : World) (e : String) {m : Medium}
    (hm : m ≠ .unknownMedium) : Undisturbed s (s.setBwuMediumForEndpoint e m) := by
  rw [setBwuMediumForEndpoint]
  split
  · exact ⟨⟨[], rfl, fun _ => List.not_mem_nil⟩, id⟩
  · exact ⟨⟨[], rfl, fun _ => List.not_mem_nil⟩, fun h => absurd h hm⟩

theorem undisturbed_adopted (hflag : ¬ s.config.supportMultipleBwuMediums) (m : Medium) :
    Undisturbed s (s.adopted e m) := by
  rw [World.adopted]
  split
  case isTrue hunknown =>
    rw [getBwuMediumForEndpoint, if_neg hflag] at hunknown
    rw [setBwuMediumForEndpoint, if_neg hflag]
    exact ⟨⟨[], rfl, fun _ => List.not_mem_nil⟩, fun _ => hunknown⟩
  case isFalse => exact .refl s

theorem undisturbed_prepared (s : World) (e : String) {m : Medium} (hm : m ≠ .unknownMedium) :
    Undisturbed s (s.prepared e m) := by
  have hset : Undisturbed s ((s.emit (.initiate e m)).setBwuMediumForEndpoint e m) :=
    (undisturbed_emit s (.initiate e m) nofun).trans (undisturbed_setBwuMediumForEndpoint _ e hm)
  exact ⟨hset.calls, hset.medium⟩

theorem undisturbed_asked (env : Env) (s : World) (e : String) {m : Medium}
    (hm : m ≠ .unknownMedium) (c : ChannelId) : Undisturbed s (s.asked env e m c).2 := by
  refine (undisturbed_prepared s e hm).trans ?_
  rw [asked]
  obtain ⟨-, ht | ⟨u', bytes, ht⟩⟩ := initialize_calls env (s.prepared e m) m (env.serviceId c) e
  · refine ⟨⟨[], ht, fun _ => List.not_mem_nil⟩, ?_⟩
    rw [initializeUpgradedMediumForEndpoint_frame]
    exact id
  · refine ⟨⟨[_], ht, by simp⟩, ?_⟩
    rw [initializeUpgradedMediumForEndpoint_frame]
    exact id

/-! ### The chain -/

theorem chain_undisturbed (env : Env) (e : String) (s₀ : World) :
    Chain env e (fun s m => (Undisturbed s₀ s ∧ s.KeepsMedium) ∧ m ≠ .unknownMedium)
      (fun s => Undisturbed s₀ s ∧ s.KeepsMedium) (fun s => Undisturbed s₀ s ∧ s.KeepsMedium)
      (Undisturbed s₀) where
  turnedAway := by
    rintro s m t ⟨⟨hs, -⟩, hm⟩ ht
    have hemit := hs.trans (undisturbed_emit s (.initiate e m) nofun)
    cases ht with
    | barred => exact hemit
    | refused => exact hemit.trans (undisturbed_setBwuMediumForEndpoint _ e hm)
    | needless => exact hs.trans (undisturbed_prepared s e hm)
  unanswered := by
    rintro s m c ⟨⟨hs, hk⟩, hm⟩ - - -
    exact ⟨hs.trans (undisturbed_asked env s e hm c), hk.congr (asked_config ..) (asked_ecm ..)⟩
  unwritten := by
    rintro s m c ⟨⟨hs, hk⟩, hm⟩ - - -
    have hwrite := aside_write env (s.asked env e m c).2 (some e) c (.offer (s.asked env e m c).1)
    refine ⟨(hs.trans (undisturbed_asked env s e hm c)).trans hwrite.undisturbed, ?_⟩
    exact hk.congr (asked_config env s e m c) (asked_ecm env s e m c)
  entered := by
    rintro s m c ⟨⟨hs, -⟩, hm⟩ - - - -
    have hwrite := aside_write env (s.asked env e m c).2 (some e) c (.offer (s.asked env e m c).1)
    have hoffered := (hs.trans (undisturbed_asked env s e hm c)).trans hwrite.undisturbed
    exact hoffered.trans ⟨⟨[_], rfl, by simp⟩, id⟩
  kept := by
    rintro s ⟨hs, -⟩ -
    exact hs.trans (aside_leaveInProgress s e).undisturbed
  abandoned := by
    rintro s ⟨-, hk⟩ hnot
    exact absurd hk hnot
  scheduled := by
    rintro s t ⟨hs, -⟩ - ht
    obtain ⟨_, rfl⟩ := retryUpgradesAfterDelay_ok ht
    exact hs.trans ⟨⟨[_], rfl, by simp⟩, id⟩
  settled hs := hs.1
  next := by
    rintro s mediums ⟨hs, hk⟩ hhas
    have hm := (hasHandlerForMedium_iff.mp hhas).1
    refine ⟨⟨hs.trans (undisturbed_setBwuMediumForEndpoint s e hm), ?_⟩, hm⟩
    rw [setBwuMediumForEndpoint_frame]
    exact hk

/-! ### The coarse revert -/

theorem revertInitiatorState_calls (s : World) (m : Medium) :
    ∃ rest, (s.revertInitiatorState m).trace = rest ++ .revertInitiatorState m :: s.trace := by
  rw [revertInitiatorState]
  rcases revertHandler_eq (s.emit (.revertInitiatorState m)) m
    BaseBwuHandler.revertInitiatorState with
    h | ⟨_, -, h⟩
  · rw [h]
    exact ⟨[], rfl⟩
  · rw [h]
    exact ⟨_, rfl⟩

theorem revertBwuMediumForEndpoint_coarse (hflag : ¬ s.config.supportMultipleBwuMediums)
    (u e : String) :
    (s.revertBwuMediumForEndpoint u e).medium = .unknownMedium ∧
      ((s.hasHandlerForMedium s.medium = true ∧ ∃ rest, (s.revertBwuMediumForEndpoint u e).trace =
          rest ++ .revertInitiatorState s.medium :: s.trace) ∨
        (s.hasHandlerForMedium s.medium = false ∧
          (s.revertBwuMediumForEndpoint u e).trace = s.trace)) := by
  have hmed : s.getBwuMediumForEndpoint e = s.medium := if_neg hflag
  simp only [revertBwuMediumForEndpoint, if_pos hflag, hmed]
  generalize hs₁ : ({ s with medium := .unknownMedium } : World) = s₁
  have hs : s₁.medium = .unknownMedium ∧ s₁.trace = s.trace ∧
      s₁.hasHandlerForMedium s.medium = s.hasHandlerForMedium s.medium := by
    subst hs₁
    exact ⟨rfl, rfl, rfl⟩
  rw [hs.2.2]
  split
  case isTrue hhas =>
    refine ⟨?_, .inl ⟨hhas, ?_⟩⟩
    · rw [revertInitiatorState_frame]
      exact hs.1
    · rw [← hs.2.1]
      exact revertInitiatorState_calls s₁ s.medium
  case isFalse hhas => exact ⟨hs.1, .inr ⟨Bool.eq_false_of_not_eq_true hhas, hs.2.1⟩⟩

theorem Refused.undisturbed {info : UpgradePathInfo} (hflag : ¬ s.config.supportMultipleBwuMediums)
    (h : Refused env s e info v) :
    Undisturbed s v ∧ v.config = s.config ∧ v.handlers = s.handlers := by
  rcases h.aside.2 with ha | ⟨-, ha⟩
  · exact ⟨ha.undisturbed, ha.config, ha.handlers⟩
  · refine ⟨(undisturbed_adopted hflag _).trans ha.undisturbed, ha.config.trans ?_,
      ha.handlers.trans ?_⟩
    · rw [adopted_frame]
    · rw [adopted_frame]

theorem Refused.told_undisturbed {info : UpgradePathInfo}
    (hflag : ¬ s.config.supportMultipleBwuMediums) (h : Refused env s e info v)
    (hok : ∀ c, v.getChannelForEndpoint e = some c →
      (env.write v.trace c (.frame (forBwuFailure info))).ok = true → v.medium ≠ .unknownMedium →
      ¬ (s.medium ≠ .unknownMedium ∨ s.hasHandlerForMedium v.medium = true)) :
    Undisturbed s (v.runUpgradeFailedProtocol env e info) := by
  obtain ⟨hv, hconfig, hhandlers⟩ := h.undisturbed hflag
  have ht := runUpgradeFailedProtocol_told env v e info
  generalize v.runUpgradeFailedProtocol env e info = t at ht
  cases ht with
  | unregistered => exact hv
  | @unwritten c hc =>
    exact hv.trans ((aside_write env v _ c _).trans (aside_closeWithReason _ c _)).undisturbed
  | @mediumless c hc =>
    exact hv.trans ((aside_write env v _ c _).trans (aside_leaveInProgress _ e)).undisturbed
  | @reverted c hc hw hm =>
    have hvflag : ¬ v.config.supportMultipleBwuMediums := hconfig ▸ hflag
    rw [getBwuMediumForEndpoint, if_neg hvflag] at hm
    obtain ⟨hunset, hnone⟩ := not_or.mp (hok c hc hw hm)
    have hcoarse := revertBwuMediumForEndpoint_coarse
      (s := (v.write env (some e) c (.frame (forBwuFailure info))).2) hvflag (env.serviceId c) e
    have hno : v.hasHandlerForMedium v.medium = false := by
      rw [hasHandlerForMedium_congr hhandlers]
      exact Bool.eq_false_of_not_eq_true hnone
    rcases hcoarse.2 with ⟨hyes, -⟩ | ⟨-, htrace⟩
    · exact absurd (hno.symm.trans hyes) (by decide)
    · obtain ⟨new, hnew, hx⟩ := (hv.trans (aside_write env v (some e) c
        (.frame (forBwuFailure info))).undisturbed).calls
      exact ⟨⟨new, htrace.trans hnew, hx⟩, fun _ => not_not.mp hunset⟩

theorem TearsDown.disturbs {op : Op} (hflag : ¬ s.config.supportMultipleBwuMediums)
    (h : s.TearsDown env op) (hst : Step env s op t) : ¬ Undisturbed s t := by
  obtain ⟨fuel, hst⟩ := hst
  cases h with
  | @refusal frame e info v c hev hr hc hw hm hin =>
    obtain ⟨hv, hconfig, hhandlers⟩ := hr.undisturbed hflag
    cases (onIncomingFrame_refused fuel hev hr).symm.trans hst
    have hvflag : ¬ v.config.supportMultipleBwuMediums := hconfig ▸ hflag
    have hmed : v.getBwuMediumForEndpoint e ≠ .unknownMedium := by
      rwa [getBwuMediumForEndpoint, if_neg hvflag]
    have ht := runUpgradeFailedProtocol_told env v e info
    generalize v.runUpgradeFailedProtocol env e info = t at ht
    cases ht with
    | unregistered hnone => cases hnone.symm.trans hc
    | unwritten hc' hfail =>
      cases hc.symm.trans hc'
      exact absurd (hw.symm.trans hfail) (by decide)
    | mediumless _ _ hunknown => exact absurd hunknown hmed
    | reverted hc' =>
      cases hc.symm.trans hc'
      have hcoarse := revertBwuMediumForEndpoint_coarse
        (s := (v.write env (some e) c (.frame (forBwuFailure info))).2) hvflag (env.serviceId c) e
      intro hund
      have hset : s.medium = .unknownMedium := hund.medium hcoarse.1
      have hhas : v.hasHandlerForMedium v.medium = true := by
        rw [hasHandlerForMedium_congr hhandlers]
        exact hin.resolve_left (not_not.mpr hset)
      rcases hcoarse.2 with ⟨-, rest, htrace⟩ | ⟨hno, -⟩
      · obtain ⟨new, hnew, -⟩ := hv.calls
        obtain ⟨new', hnew', hx⟩ := hund.calls
        have hsame : rest ++ .revertInitiatorState v.medium :: .write (some e) c
            (.frame (forBwuFailure info)) (v.channels c).paused (v.channels c).encrypted
            (env.write v.trace c (.frame (forBwuFailure info))) :: new = new' := by
          apply (List.append_left_inj s.trace).mp
          rw [← hnew', List.append_assoc, List.cons_append, List.cons_append, ← hnew]
          exact htrace.symm
        exact hx v.medium (hsame ▸ List.mem_append_right _ List.mem_cons_self)
      · exact absurd (hno.symm.trans hhas) (by decide)

/-! ### Operations -/

theorem undisturbed_dispatched {fuel : Nat} {frame : OfflineFrame} (hk : s.KeepsMedium)
    (hok : ¬ s.TearsDown env (.onIncomingFrame frame e))
    (hd : Dispatched env fuel s frame e t) : Undisturbed s t := by
  cases hd with
  | aside ha => exact ha.undisturbed
  | refused hev hr =>
    exact hr.told_undisturbed hk.1 fun c hc hw hm hin => hok (.refusal hev hr hc hw hm hin)
  | @takenUp info c v _ ht =>
    have hv := (undisturbed_adopted hk.1 _).trans ht.aside.2.undisturbed
    have henter := hv.trans (⟨⟨[_], rfl, by simp⟩, id⟩ : Undisturbed v (v.enterInProgress e))
    exact henter.trans (aside_runUpgradeProtocol ..).undisturbed
  | failure _ _ hst => exact (chain_undisturbed env e s).onFailure fuel ⟨.refl s, hk⟩ hst

theorem undisturbed_step {op : Op} (hk : s.KeepsMedium) (hshutdown : op ≠ .shutdown)
    (hinitiate : ∀ e, op ≠ .initiateBwuForEndpoint e .unknownMedium)
    (hok : ¬ s.TearsDown env op) (hst : Step env s op t) : Undisturbed s t := by
  obtain ⟨fuel, hst⟩ := hst
  cases op with
  | initiateBwuForEndpoint e m =>
    have hm : m ≠ .unknownMedium := by
      rintro rfl
      exact hinitiate e rfl
    exact (chain_undisturbed env e s).initiate fuel ⟨⟨.refl s, hk⟩, hm⟩ hst
  | onIncomingFrame frame e => exact undisturbed_dispatched hk hok (onIncomingFrame_dispatched hst)
  | onIncomingConnection c =>
    cases hst
    rcases onIncomingConnection_aside env s c with ha | ⟨e, -, ha⟩
    · exact ha.undisturbed
    · exact ⟨ha.undisturbed.calls, ha.undisturbed.medium⟩
  | fireRetryAlarm e =>
    have hnext : Undisturbed s (s.cancelRetryUpgradeAlarm e) :=
      ⟨⟨[], rfl, fun _ => List.not_mem_nil⟩, id⟩
    exact (chain_undisturbed env e s).fireRetryAlarm (fun _ => .refl s) ⟨hnext, hk⟩ hst
  | onEndpointDisconnect u e =>
    cases hst
    obtain ⟨v, hv, heq⟩ := onEndpointDisconnect_cleared s u e
    have hguard :
        ¬ (s.config.supportMultipleBwuMediums = true ∨ s.getConnectedEndpointsCount ≤ 1) :=
      not_or.mpr ⟨hk.1, Nat.not_le.mpr hk.2⟩
    rw [heq, if_neg hguard]
    obtain ⟨new, hnew, hx⟩ := hv.calls
    exact undisturbed_of_calls hv.medium hnew hx
  | shutdown => exact absurd rfl hshutdown
  | registerChannelForEndpoint e c =>
    cases hst
    exact ⟨⟨[_], rfl, by simp⟩, id⟩
  | resetUpgradeForEndpoint | onConnectionInitiated | localEndpointAcceptedConnection
  | remoteEndpointAcceptedConnection | onConnectionAccepted | onDisconnected | setUpgradeMediums
  | unregisterChannelForEndpoint | closeChannel | enableEncryption =>
    cases hst
    exact ⟨⟨[], rfl, fun _ => List.not_mem_nil⟩, id⟩

end

/-- While more than one endpoint is connected the shared medium stays up, unless an offer is
turned down and the failure told to the peer that made it. -/
theorem shared_medium_kept {env : Env} {s t : World} {op : Op}
    (hflag : s.config.supportMultipleBwuMediums = false) (hcount : 1 < s.getConnectedEndpointsCount)
    (hshutdown : op ≠ .shutdown) (hinitiate : ∀ e, op ≠ .initiateBwuForEndpoint e .unknownMedium)
    (hst : Step env s op t) :
    ((∃ new, t.trace = new ++ s.trace ∧ ∀ m, .revertInitiatorState m ∉ new) ∧
        (t.medium = .unknownMedium → s.medium = .unknownMedium)) ↔ ¬ s.TearsDown env op := by
  have hk : s.KeepsMedium := ⟨by simp [hflag], hcount⟩
  constructor
  · rintro ⟨hcalls, hmedium⟩ hbad
    exact hbad.disturbs hk.1 hst ⟨hcalls, hmedium⟩
  · intro hok
    have hund := undisturbed_step hk hshutdown hinitiate hok hst
    exact ⟨hund.calls, hund.medium⟩

def sharedMedium : World :=
  (World.new { supportMultipleBwuMediums := false } [.wifiLan] "L").after reliable 3
    (connect "E" 0 ++ connect "X" 3 ++ [.initiateBwuForEndpoint "E" .wifiLan])

def bluetoothPath : UpgradePathInfo :=
  { upgradePathInfoForMedium .bluetooth with
    bluetoothCredentials := some {
      serviceName := some "S", macAddress := some "00:11:22:33:44:55" } }

theorem shared_medium_kept_on_disconnect :
    (∃ new, (sharedMedium.onEndpointDisconnect "S" "X").trace = new ++ sharedMedium.trace ∧
        ∀ m, .revertInitiatorState m ∉ new) ∧
      ((sharedMedium.onEndpointDisconnect "S" "X").medium = .unknownMedium →
        sharedMedium.medium = .unknownMedium) :=
  (@shared_medium_kept reliable sharedMedium _ (.onEndpointDisconnect "S" "X") (by decide)
    (by decide) nofun nofun ⟨0, rfl⟩).mpr nofun

/-- "X" offers another medium, and the one "E" is upgraded to is taken down. -/
theorem shared_medium_torn_down :
    ReachedBy reliable (fun _ op => op.Validated) sharedMedium ∧
      sharedMedium.config.supportMultipleBwuMediums = false ∧
      1 < sharedMedium.getConnectedEndpointsCount ∧ "E" ∈ sharedMedium.inProgressUpgrades ∧
      (Op.onIncomingFrame (bwuUpgradePathAvailable bluetoothPath) "X").Validated ∧
      ∃ t, Step reliable sharedMedium
          (.onIncomingFrame (bwuUpgradePathAvailable bluetoothPath) "X") t ∧
        sharedMedium.medium = .wifiLan ∧ t.medium = .unknownMedium ∧
        .revertInitiatorState .wifiLan ∉ sharedMedium.trace ∧
        .revertInitiatorState .wifiLan ∈ t.trace := by
  refine ⟨?_, by decide, by decide, by decide, by decide, _, ⟨3, rfl⟩, by decide, by decide,
    by decide, by decide⟩
  have hvalid : ∀ op ∈ connect "E" 0 ++ connect "X" 3 ++ [.initiateBwuForEndpoint "E" .wifiLan],
      op.Validated := by decide
  exact reachedBy_after _ _ _ _ _ fun i hi => hvalid _ (List.getElem_mem hi)

end World

end Nearby.Bwu
