import Nearby.Bwu.Disconnect

/-! What the handlers are told when an endpoint's medium is reverted, and whether that covers
every handler that was set up for the endpoint.  The manager remembers one medium per endpoint;
the handlers remember every endpoint they were asked for. -/

namespace Nearby.Bwu

open Proto Lib

namespace World

def LastAt (s : World) (m : Medium) (u e : String) : Prop :=
  s.TracksAt m u e ∧ ∀ e', s.TracksAt m u e' → e' = e

/-! ### One revert -/

section

variable {env : Env} {s t : World} {m m' : Medium} {u u' e e' : String}

theorem hasHandlerForMedium_of_tracksAt (h : s.TracksAt m u e) (hm : m ≠ .unknownMedium) :
    s.hasHandlerForMedium m = true := by
  obtain ⟨hd, hl, -⟩ := h
  exact hasHandlerForMedium_iff.mpr ⟨hm, hd, hl⟩

theorem tracksAt_iff {hd : BaseBwuHandler} (hl : s.handlers.lookup m = some hd) :
    s.TracksAt m u e ↔ hd.Tracks u e := by
  simp [TracksAt, hl]

inductive Ordered (s : World) (u e : String) : World → Prop
  | none : ¬ s.hasHandlerForMedium (s.getBwuMediumForEndpoint e) → Ordered s u e s
  | spared : isInitiatorUpgradeServiceId u = false →
      ¬ (s.getBwuMediumForEndpoint e = .wifiHotspot ∨ s.getBwuMediumForEndpoint e = .wifiDirect) →
      Ordered s u e s
  | responder {h : BaseBwuHandler} : isInitiatorUpgradeServiceId u = false →
      s.handlers.lookup (s.getBwuMediumForEndpoint e) = some h →
      Ordered s u e
        { s with
          handlers := s.handlers.insert (s.getBwuMediumForEndpoint e) h
          trace := .handleRevert (s.getBwuMediumForEndpoint e) u :: s.trace }
  | initiator {h : BaseBwuHandler} : isInitiatorUpgradeServiceId u = true →
      s.getBwuMediumForEndpoint e ≠ .unknownMedium →
      s.handlers.lookup (s.getBwuMediumForEndpoint e) = some h →
      Ordered s u e
        { s with
          handlers := s.handlers.insert (s.getBwuMediumForEndpoint e)
            (h.revertInitiatorStateForEndpoint u e).2
          trace := ((h.revertInitiatorStateForEndpoint u e).1.map
            (.handleRevert (s.getBwuMediumForEndpoint e))).reverse ++ s.trace }

theorem revertBwuMediumForEndpoint_ordered (hflag : s.config.supportMultipleBwuMediums = true)
    (u e : String) : ∃ v, Ordered s u e v ∧ s.revertBwuMediumForEndpoint u e =
      { v with endpointIdToBwuMedium := s.endpointIdToBwuMedium.erase e } := by
  simp only [revertBwuMediumForEndpoint, hflag, not_true_eq_false, if_false]
  split
  case isTrue hno => exact ⟨s, .none hno, rfl⟩
  case isFalse hhas =>
    obtain ⟨hm, h, hl⟩ := hasHandlerForMedium_iff.mp (not_not.mp hhas)
    split
    case isTrue hu =>
      have hu := Bool.eq_false_of_not_eq_true hu
      split
      case isTrue => exact ⟨_, .responder hu hl, revertHandler_of_lookup hl _⟩
      case isFalse hmed => exact ⟨s, .spared hu hmed, rfl⟩
    case isFalse hu =>
      exact ⟨_, .initiator (not_not.mp hu) hm hl, revertHandler_of_lookup hl _⟩

theorem tracksAt_revertBwuMediumForEndpoint (hflag : s.config.supportMultipleBwuMediums = true) :
    (s.revertBwuMediumForEndpoint u e).TracksAt m u' e' ↔ s.TracksAt m u' e' ∧
      ¬ (isInitiatorUpgradeServiceId u = true ∧ m = s.getBwuMediumForEndpoint e ∧
        m ≠ .unknownMedium ∧ u' = u ∧ e' = e) := by
  obtain ⟨v, hv, h⟩ := revertBwuMediumForEndpoint_ordered hflag u e
  have hvt : (s.revertBwuMediumForEndpoint u e).TracksAt m u' e' ↔ v.TracksAt m u' e' := by
    rw [h]
    rfl
  rw [hvt]
  cases hv with
  | none hno =>
    refine ⟨fun ht => ⟨ht, ?_⟩, And.left⟩
    rintro ⟨-, rfl, hm, -⟩
    exact hno (hasHandlerForMedium_of_tracksAt ht hm)
  | spared hu => simp [hu]
  | responder hu hl =>
    rw [tracksAt_insert rfl, hu]
    by_cases hm : m = s.getBwuMediumForEndpoint e
    · rw [if_pos hm, hm, tracksAt_iff hl]
      simp
    · simp [hm]
  | initiator hu hknown hl =>
    rw [tracksAt_insert rfl, hu]
    by_cases hm : m = s.getBwuMediumForEndpoint e
    · rw [if_pos hm, BaseBwuHandler.tracks_revertInitiatorStateForEndpoint, hm, tracksAt_iff hl]
      simp [hu, hknown]
    · simp [hm]

theorem calls_revertBwuMediumForEndpoint (hflag : s.config.supportMultipleBwuMediums = true) :
    ∃ new, (s.revertBwuMediumForEndpoint u e).trace = new ++ s.trace ∧ ∀ x ∈ new,
      x = .handleRevert (s.getBwuMediumForEndpoint e) u ∧
        (isInitiatorUpgradeServiceId u = true → s.LastAt (s.getBwuMediumForEndpoint e) u e) := by
  obtain ⟨v, hv, h⟩ := revertBwuMediumForEndpoint_ordered hflag u e
  rw [h]
  cases hv with
  | none | spared => exact ⟨[], rfl, List.forall_mem_nil _⟩
  | responder hu hl =>
    refine ⟨[_], rfl, List.forall_mem_singleton.mpr ⟨rfl, ?_⟩⟩
    rw [hu]
    nofun
  | @initiator hd hu hknown hl =>
    refine ⟨_, rfl, fun x hx => ?_⟩
    rcases hd.reverted_revertInitiatorStateForEndpoint u e with ⟨hr, -, ht, honly⟩ | ⟨hr, -⟩
    · rw [hr] at hx
      obtain rfl := List.mem_singleton.mp hx
      refine ⟨rfl, fun _ => ⟨(tracksAt_iff hl).mpr ht, fun e' ht' => ?_⟩⟩
      exact honly e' ((tracksAt_iff hl).mp ht')
    · rw [hr] at hx
      exact absurd hx List.not_mem_nil

theorem told_revertBwuMediumForEndpoint (hflag : s.config.supportMultipleBwuMediums = true)
    (hu : isInitiatorUpgradeServiceId u = true) (hm : s.getBwuMediumForEndpoint e ≠ .unknownMedium)
    (hlast : s.LastAt (s.getBwuMediumForEndpoint e) u e) :
    (s.revertBwuMediumForEndpoint u e).trace =
      .handleRevert (s.getBwuMediumForEndpoint e) u :: s.trace := by
  obtain ⟨v, hv, h⟩ := revertBwuMediumForEndpoint_ordered hflag u e
  rw [h]
  cases hv with
  | none hno => exact absurd (hasHandlerForMedium_of_tracksAt hlast.1 hm) hno
  | spared hraw | responder hraw => exact absurd (hu.symm.trans hraw) (by decide)
  | @initiator hd _ _ hl =>
    have hrev := hd.reverted_revertInitiatorStateForEndpoint u e
    have honly : hd.Tracks u e ∧ ∀ e', hd.Tracks u e' → e' = e :=
      ⟨(tracksAt_iff hl).mp hlast.1, fun e' ht => hlast.2 e' ((tracksAt_iff hl).mpr ht)⟩
    rcases hrev with ⟨hr, -⟩ | ⟨-, hnot⟩
    · dsimp only
      rw [hr]
      rfl
    · exact absurd ⟨hu, honly⟩ hnot

/-! ### The remembered medium covers the handlers -/

/-- A handler that has `e` under `u` is the handler of the medium remembered for `e`. -/
def Covered (u e : String) (s : World) : Prop :=
  ∀ m, s.TracksAt m u e → m = s.getBwuMediumForEndpoint e ∧ m ≠ .unknownMedium

def ServedAs (env : Env) (u e : String) (s : World) : Prop :=
  ∀ c, s.getChannelForEndpoint e = some c → wrapInitiatorUpgradeServiceId (env.serviceId c) = u

theorem getBwuMediumForEndpoint_congr (hc : t.config = s.config) (hm : t.medium = s.medium)
    (he : t.endpointIdToBwuMedium.lookup e = s.endpointIdToBwuMedium.lookup e) :
    t.getBwuMediumForEndpoint e = s.getBwuMediumForEndpoint e := by
  rw [getBwuMediumForEndpoint, getBwuMediumForEndpoint, hc, hm, he]

theorem Covered.mono (h : s.Covered u e) (ht : ∀ m, t.TracksAt m u e → s.TracksAt m u e)
    (hm : t.getBwuMediumForEndpoint e = s.getBwuMediumForEndpoint e) : t.Covered u e := by
  intro m hmt
  rw [hm]
  exact h m (ht m hmt)

theorem covered_of_untracked (h : ∀ m, ¬ s.TracksAt m u e) : s.Covered u e :=
  fun m ht => absurd ht (h m)

theorem Covered.aside (h : s.Covered u e) (ha : Aside s t) : t.Covered u e := by
  refine h.mono (fun m => (tracksAt_congr ha.handlers m u e).mp) ?_
  exact getBwuMediumForEndpoint_congr ha.config ha.medium (by rw [ha.mediums])

theorem Covered.revert (h : s.Covered u e) (hflag : s.config.supportMultipleBwuMediums = true)
    (hu : isInitiatorUpgradeServiceId u = true) (m : Medium) :
    ¬ (s.revertBwuMediumForEndpoint u e).TracksAt m u e := by
  rw [tracksAt_revertBwuMediumForEndpoint hflag]
  rintro ⟨ht, hnot⟩
  exact hnot ⟨hu, (h m ht).1, (h m ht).2, rfl, rfl⟩

structure Covering (env : Env) (u e : String) (s : World) : Prop where
  flag : s.config.supportMultipleBwuMediums = true
  served : s.ServedAs env u e
  covered : s.Covered u e

theorem Covering.congr (h : s.Covering env u e) (hconfig : t.config = s.config)
    (hecm : t.ecm = s.ecm) (hcovered : t.Covered u e) : t.Covering env u e := by
  refine ⟨hconfig ▸ h.flag, fun c hc => h.served c ?_, hcovered⟩
  rwa [← getChannelForEndpoint_congr hecm]

theorem covered_setBwuMediumForEndpoint
    (h : ∀ m', s.TracksAt m' u e → m' = m ∧ m' ≠ .unknownMedium) :
    (s.setBwuMediumForEndpoint e m).Covered u e := by
  intro m' ht
  rw [getBwuMediumForEndpoint_set]
  exact h m' ((tracksAt_congr (setBwuMediumForEndpoint_handlers s e m) m' u e).mp ht)

theorem covered_prepared (h : ∀ m', s.TracksAt m' u e → m' = m ∧ m' ≠ .unknownMedium) :
    (s.prepared e m).Covered u e :=
  @covered_setBwuMediumForEndpoint (s.emit (.initiate e m)) m u e h

theorem covered_asked {c : ChannelId}
    (h : ∀ m', s.TracksAt m' u e → m' = m ∧ m' ≠ .unknownMedium) (hm : m ≠ .unknownMedium) :
    (s.asked env e m c).2.Covered u e := by
  have hmed : (s.asked env e m c).2.getBwuMediumForEndpoint e = m := by
    have hp : (s.prepared e m).getBwuMediumForEndpoint e = m :=
      getBwuMediumForEndpoint_set (s.emit (.initiate e m)) e m
    rw [asked, initializeUpgradedMediumForEndpoint_frame]
    exact hp
  intro m' ht
  rw [hmed]
  rcases tracksAt_asked ht with ⟨rfl, -⟩ | ht
  · exact ⟨rfl, hm⟩
  · exact h m' ((tracksAt_congr
      (setBwuMediumForEndpoint_handlers (s.emit (.initiate e m)) e m) m' u e).mp ht)

theorem Covering.asked {c : ChannelId} (h : s.Covering env u e)
    (hsame : ¬ (s.isWifiLanConnected env ∧ m = .wifiHotspot) → ∀ m', s.TracksAt m' u e → m' = m)
    (hp : s.InitiatePasses env e m) : (s.asked env e m c).2.Covering env u e := by
  refine h.congr (asked_config ..) (asked_ecm ..) (covered_asked ?_ ?_)
  · exact fun m' ht => ⟨hsame hp.1 m' ht, (h.covered m' ht).2⟩
  · exact (hasHandlerForMedium_iff.mp hp.2.1).1

theorem Covering.abandoned (h : s.Covering env u e) (hu : isInitiatorUpgradeServiceId u = true)
    (hreg : s.getChannelForEndpoint e = none →
      wrapInitiatorUpgradeServiceId unknownServiceId = u ∨ ∀ m, ¬ s.TracksAt m u e) (m : Medium) :
    ¬ (s.abandoned env e).TracksAt m u e := by
  have hcov : (s.leaveInProgress e).Covered u e := h.covered
  rw [World.abandoned]
  split
  case isTrue =>
    cases hc : s.getChannelForEndpoint e with
    | some c =>
      rw [Option.map_some, Option.getD_some, h.served c hc]
      exact hcov.revert h.flag hu m
    | none =>
      rw [Option.map_none, Option.getD_none]
      rcases hreg hc with hunknown | hnone
      · rw [hunknown]
        exact hcov.revert h.flag hu m
      · exact fun ht =>
          hnone m (tracksAt_of_revertBwuMediumForEndpoint (s := s.leaveInProgress e) ht)
  case isFalse hm =>
    intro ht
    obtain ⟨hmed, hknown⟩ := hcov m ht
    exact hm (hmed ▸ hknown)

theorem chain_covered (hu : isInitiatorUpgradeServiceId u = true) (env : Env) (e : String) :
    Chain env e
      (fun s m => s.Covering env u e ∧ (¬ (s.isWifiLanConnected env ∧ m = .wifiHotspot) →
        ∀ m', s.TracksAt m' u e → m' = m))
      (fun s => s.Covering env u e ∧ (s.getChannelForEndpoint e = none →
        wrapInitiatorUpgradeServiceId unknownServiceId = u ∨ ∀ m, ¬ s.TracksAt m u e))
      (Covering env u e) (Covered u e) where
  turnedAway := by
    rintro s m t ⟨hs, hm⟩ ht
    cases ht with
    | barred => exact hs.covered
    | refused hw =>
      exact @covered_setBwuMediumForEndpoint (s.emit (.initiate e m)) m u e
        fun m' ht => ⟨hm hw m' ht, (hs.covered m' ht).2⟩
    | needless hw => exact covered_prepared fun m' ht => ⟨hm hw m' ht, (hs.covered m' ht).2⟩
  unanswered := by
    rintro s m c ⟨hs, hm⟩ hp hc -
    refine ⟨hs.asked hm hp, ?_⟩
    rw [getChannelForEndpoint_congr (asked_ecm ..), hc]
    nofun
  unwritten := by
    rintro s m c ⟨hs, hm⟩ hp hc -
    have hcov : (s.asked env e m c).2.Covering env u e := hs.asked hm hp
    refine ⟨hcov.congr rfl rfl hcov.covered, fun hnone => ?_⟩
    have hc' : (s.offered env e m c).2.getChannelForEndpoint e = some c :=
      (getChannelForEndpoint_congr (asked_ecm env s e m c) e).trans hc
    cases hnone.symm.trans hc'
  entered := by
    rintro s m c ⟨hs, hm⟩ hp - - -
    have hcov : (s.asked env e m c).2.Covering env u e := hs.asked hm hp
    exact hcov.covered
  kept := by
    rintro s ⟨hs, -⟩ -
    exact hs.covered
  abandoned := by
    rintro s ⟨hs, hreg⟩ -
    obtain ⟨hconfig, hecm⟩ := abandoned_frame env s e
    exact hs.congr hconfig hecm (covered_of_untracked (hs.abandoned hu hreg))
  scheduled := by
    intro s t hs _ ht
    obtain ⟨_, rfl⟩ := retryUpgradesAfterDelay_ok ht
    exact hs.covered
  settled hs := hs.covered
  next := by
    intro s mediums hs hhas
    generalize hn : s.chooseBestUpgradeMedium e mediums = n at hhas
    have hknown := (hasHandlerForMedium_iff.mp hhas).1
    -- A medium that is remembered is kept.
    have hsame : ∀ m', s.TracksAt m' u e → m' = n ∧ m' ≠ .unknownMedium := by
      intro m' ht
      obtain ⟨hmed, hm'⟩ := hs.covered m' ht
      refine ⟨?_, hm'⟩
      simp only [chooseBestUpgradeMedium, ← hmed, if_neg hm'] at hn
      split at hn
      case isTrue => exact hn
      case isFalse => exact absurd hn.symm hknown
    have hset := covered_setBwuMediumForEndpoint hsame
    refine ⟨hs.congr ?_ (setBwuMediumForEndpoint_ecm s e n) hset, fun _ m' ht => ?_⟩
    · rw [setBwuMediumForEndpoint_frame]
    · exact (hsame m' ((tracksAt_congr (setBwuMediumForEndpoint_handlers s e n) m' u e).mp ht)).1

/-! ### Operations -/

/-- `op` leaves a handler that has `e` under `u` without the medium that would revert it. -/
inductive Strays (env : Env) (s : World) (u e : String) : Op → Prop
  | request {m m' : Medium} : ¬ (s.isWifiLanConnected env ∧ m = .wifiHotspot) →
      s.TracksAt m' u e → m' ≠ m → Strays env s u e (.initiateBwuForEndpoint e m)
  | failure {frame : OfflineFrame} {info : UpgradePathInfo} {m : Medium} :
      s.client.isConnectedToEndpoint e = true →
      eventOf frame = some (.upgradeFailure, some info) → s.getChannelForEndpoint e = none →
      wrapInitiatorUpgradeServiceId unknownServiceId ≠ u → s.TracksAt m u e →
      Strays env s u e (.onIncomingFrame frame e)
  | refusal {frame : OfflineFrame} {info : UpgradePathInfo} {v : World} {c : ChannelId}
      {m : Medium} : eventOf frame = some (.upgradePathAvailable, some info) →
      Refused env s e info v → s.getChannelForEndpoint e = some c →
      (env.write v.trace c (.frame (forBwuFailure info))).ok = true →
      isInitiatorUpgradeServiceId (env.serviceId c) = false → s.TracksAt m u e →
      Strays env s u e (.onIncomingFrame frame e)
  | disconnect {u' : String} {m : Medium} : u' ≠ u → s.TracksAt m u e →
      Strays env s u e (.onEndpointDisconnect u' e)

theorem Covered.adopted (h : s.Covered u e) (m : Medium) : (s.adopted e m).Covered u e := by
  rw [World.adopted]
  split
  case isTrue hunknown =>
    apply covered_setBwuMediumForEndpoint
    intro m' ht
    obtain ⟨hmed, hm'⟩ := h m' ht
    exact absurd (hmed.trans hunknown) hm'
  case isFalse => exact h

theorem Covering.told {info : UpgradePathInfo} (h : s.Covering env u e)
    (hu : isInitiatorUpgradeServiceId u = true)
    (hraw : ∀ c, s.getChannelForEndpoint e = some c →
      (env.write s.trace c (.frame (forBwuFailure info))).ok = true →
      isInitiatorUpgradeServiceId (env.serviceId c) = false → ∀ m, ¬ s.TracksAt m u e) :
    (s.runUpgradeFailedProtocol env e info).Covered u e := by
  have ht := runUpgradeFailedProtocol_told env s e info
  generalize s.runUpgradeFailedProtocol env e info = t at ht
  cases ht with
  | unregistered | unwritten | mediumless => exact h.covered
  | @reverted c hc hw =>
    apply covered_of_untracked
    intro m ht
    generalize hs₁ : (s.write env (some e) c (.frame (forBwuFailure info))).2 = s₁ at ht
    have htracks : ∀ m, s₁.TracksAt m u e → s.TracksAt m u e := by
      subst hs₁
      exact fun _ => id
    have hcov : s₁.Covered u e ∧ s₁.config = s.config := by
      subst hs₁
      exact ⟨h.covered, rfl⟩
    have ht : (s₁.revertBwuMediumForEndpoint (env.serviceId c) e).TracksAt m u e := ht
    cases hid : isInitiatorUpgradeServiceId (env.serviceId c) with
    | false => exact hraw c hc hw hid m (htracks m (tracksAt_of_revertBwuMediumForEndpoint ht))
    | true =>
      have hserved : env.serviceId c = u := (wrap_of_isInitiator hid).symm.trans (h.served c hc)
      rw [hserved] at ht
      exact hcov.1.revert (hcov.2 ▸ h.flag) hu m ht

theorem Covering.dispatched {fuel : Nat} {frame : OfflineFrame} (h : s.Covering env u e)
    (hu : isInitiatorUpgradeServiceId u = true)
    (hok : ¬ s.Strays env u e (.onIncomingFrame frame e))
    (hd : Dispatched env fuel s frame e t) : t.Covered u e := by
  cases hd with
  | aside ha => exact h.covered.aside ha
  | @refused info v hev hr =>
    have hv : v.Covered u e ∧ v.config = s.config ∧ v.handlers = s.handlers := by
      rcases hr.aside.2 with ha | ⟨-, ha⟩
      · exact ⟨h.covered.aside ha, ha.config, ha.handlers⟩
      · refine ⟨(h.covered.adopted _).aside ha, ha.config.trans ?_, ha.handlers.trans ?_⟩
        · rw [adopted_frame]
        · rw [adopted_frame]
    refine (h.congr hv.2.1 hr.aside.1 hv.1).told hu fun c hc hw hraw m ht => hok ?_
    refine .refusal hev hr ?_ hw hraw ((tracksAt_congr hv.2.2 m u e).mp ht)
    rw [← hc]
    exact (getChannelForEndpoint_congr hr.aside.1 e).symm
  | @takenUp info c v _ ht =>
    have hv : v.Covered u e := (h.covered.adopted _).aside ht.aside.2
    exact Covered.aside (s := v.enterInProgress e) hv (aside_runUpgradeProtocol ..)
  | failure hc hev hst =>
    refine (chain_covered hu env e).onFailure fuel ⟨h, fun hnone => ?_⟩ hst
    by_contra hnot
    obtain ⟨hunknown, hm⟩ := not_or.mp hnot
    obtain ⟨m, ht⟩ := not_forall_not.mp hm
    exact hok (.failure hc hev hnone hunknown ht)

theorem Covered.elsewhere {Own : ChannelId → Prop} {asks : Prop} (h : s.Covered u e)
    (hflag : s.config.supportMultipleBwuMediums = true) (hk : s.Keyed e) (hne : e ≠ e')
    (ha : Actions env e' Own asks s t) : t.Covered u e := by
  have hcontained := ha.contained hflag hk hne
  refine h.mono (fun m => (hcontained.tracks m u).mp) ?_
  rw [getBwuMediumForEndpoint, getBwuMediumForEndpoint, hcontained.config,
    (ha.untouched hne).medium, if_pos hflag, if_pos hflag]

theorem tracksAt_onEndpointDisconnect (hflag : s.config.supportMultipleBwuMediums = true)
    (hu : isInitiatorUpgradeServiceId u = true) :
    (s.onEndpointDisconnect u e).TracksAt m u e ↔
      s.TracksAt m u e ∧ ¬ (m = s.getBwuMediumForEndpoint e ∧ m ≠ .unknownMedium) := by
  obtain ⟨v, hv, h⟩ := onEndpointDisconnect_eq hflag u e
  have hmed : v.getBwuMediumForEndpoint e = s.getBwuMediumForEndpoint e :=
    getBwuMediumForEndpoint_congr hv.config hv.medium (by rw [hv.mediums])
  rw [h, tracksAt_revertBwuMediumForEndpoint (hv.config ▸ hflag), tracksAt_congr hv.handlers, hmed]
  simp [hu]

theorem Covered.step {op : Op} (h : s.Covering env u e) (hu : isInitiatorUpgradeServiceId u = true)
    (hk : s.Keyed e) (hok : ¬ s.Strays env u e op) (hst : Step env s op t) : t.Covered u e := by
  have helse : ∀ {e'}, op.AddressedTo e' → e ≠ e' → t.Covered u e := by
    intro e' hop hne
    exact h.covered.elsewhere h.flag hk hne (hst.actions hop)
  obtain ⟨fuel, hst⟩ := hst
  cases op with
  | initiateBwuForEndpoint e' m =>
    by_cases he : e = e'
    case neg => exact helse (.initiateBwuForEndpoint m) he
    case pos =>
      subst he
      refine (chain_covered hu env e).initiate fuel ⟨h, fun hw m' ht => ?_⟩ hst
      by_contra hne
      exact hok (.request hw ht hne)
  | onIncomingFrame frame e' =>
    by_cases he : e = e'
    case neg => exact helse (.onIncomingFrame frame) he
    case pos =>
      subst he
      exact h.dispatched hu hok (onIncomingFrame_dispatched hst)
  | fireRetryAlarm e' =>
    by_cases he : e = e'
    case neg => exact helse .fireRetryAlarm he
    case pos =>
      subst he
      have hnext : (s.cancelRetryUpgradeAlarm e).Covering env u e := ⟨h.flag, h.served, h.covered⟩
      exact (chain_covered hu env e).fireRetryAlarm (fun _ => h.covered) hnext hst
  | onEndpointDisconnect u' e' =>
    by_cases he : e = e'
    case neg => exact helse (.onEndpointDisconnect u') he
    case pos =>
      subst he
      cases hst
      apply covered_of_untracked
      intro m ht
      by_cases huu : u' = u
      · subst huu
        obtain ⟨ht, hnot⟩ := (tracksAt_onEndpointDisconnect h.flag hu).mp ht
        exact hnot (h.covered m ht)
      · obtain ⟨v, hv, heq⟩ := onEndpointDisconnect_eq h.flag u' e
        rw [heq] at ht
        have ht := tracksAt_of_revertBwuMediumForEndpoint ht
        exact hok (.disconnect huu ((tracksAt_congr hv.handlers m u e).mp ht))
  | onIncomingConnection c =>
    cases hst
    rcases onIncomingConnection_aside env s c with ha | ⟨e', -, ha⟩
    · exact h.covered.aside ha
    · exact Covered.aside (s := s.cancelRetryUpgradeAlarm e') h.covered ha
  | shutdown =>
    cases hst
    refine h.covered.mono (fun m => tracksAt_of_shutdown) ?_
    rw [shutdown_frame]
    rfl
  | resetUpgradeForEndpoint | onConnectionInitiated | localEndpointAcceptedConnection
  | remoteEndpointAcceptedConnection | onConnectionAccepted | onDisconnected | setUpgradeMediums
  | registerChannelForEndpoint | unregisterChannelForEndpoint | closeChannel | enableEncryption =>
    cases hst
    exact h.covered

end

theorem ServedAs.namesService {env : Env} {s : World} {u e : String} (h : s.ServedAs env u e)
    (hu : isInitiatorUpgradeServiceId u = true) : s.NamesService env e := by
  intro c hc hempty
  have hw := h c hc
  rw [hempty] at hw
  rw [← hw] at hu
  exact absurd hu (by decide)

theorem ReachedBy.covered {env : Env} {s : World} {u e : String}
    (hu : isInitiatorUpgradeServiceId u = true)
    (h : ReachedBy env (fun s op => s.ServedAs env u e ∧ ¬ s.Strays env u e op) s)
    (hflag : s.config.supportMultipleBwuMediums = true) : s.Covered u e := by
  have hinv : s.Keyed e ∧ (s.config.supportMultipleBwuMediums = true → s.Covered u e) := by
    refine h.invariant
      (fun s => s.Keyed e ∧ (s.config.supportMultipleBwuMediums = true → s.Covered u e)) ?_ ?_
    · intro config mediums id
      refine ⟨keyed_new config mediums id, fun _ => ?_⟩
      exact covered_of_untracked fun m => not_tracksAt_new config mediums id m u e
    · rintro s op t ⟨hk, hcov⟩ ⟨hserved, hok⟩ hst
      refine ⟨hk.step (hserved.namesService hu) hst, fun hflag => ?_⟩
      have hflag : s.config.supportMultipleBwuMediums = true := hst.config_eq ▸ hflag
      exact Covered.step ⟨hflag, hserved, hcov hflag⟩ hu hk hok hst
  exact hinv.2 hflag

/-- While the remembered medium is not changed over a handler's head, a disconnect takes the
endpoint out of every handler, and each that had no other endpoint reverts the service. -/
theorem disconnect_releases {env : Env} {s : World} {serviceId e : String} (hid : serviceId ≠ "")
    (h : ReachedBy env (fun s op => s.ServedAs env (wrapInitiatorUpgradeServiceId serviceId) e ∧
      ¬ s.Strays env (wrapInitiatorUpgradeServiceId serviceId) e op) s)
    (hflag : s.config.supportMultipleBwuMediums = true) :
    (∀ m, ¬ (s.onEndpointDisconnect (wrapInitiatorUpgradeServiceId serviceId) e).TracksAt m
        (wrapInitiatorUpgradeServiceId serviceId) e) ∧
      ∀ m, s.LastAt m (wrapInitiatorUpgradeServiceId serviceId) e →
        ∃ new, (s.onEndpointDisconnect (wrapInitiatorUpgradeServiceId serviceId) e).trace =
            new ++ s.trace ∧
          .handleRevert m (wrapInitiatorUpgradeServiceId serviceId) ∈ new := by
  have hu := isInitiator_wrap hid
  generalize wrapInitiatorUpgradeServiceId serviceId = u at h hu ⊢
  have hcov := h.covered hu hflag
  constructor
  · intro m ht
    obtain ⟨ht, hnot⟩ := (tracksAt_onEndpointDisconnect hflag hu).mp ht
    exact hnot (hcov m ht)
  · intro m hlast
    obtain ⟨hmed, hm⟩ := hcov m hlast.1
    obtain ⟨v, hv, heq⟩ := onEndpointDisconnect_eq hflag u e
    have hvmed : v.getBwuMediumForEndpoint e = m := by
      rw [hmed]
      exact getBwuMediumForEndpoint_congr hv.config hv.medium (by rw [hv.mediums])
    have hvlast : v.LastAt m u e := by
      refine ⟨(tracksAt_congr hv.handlers m u e).mpr hlast.1, fun e' ht => hlast.2 e' ?_⟩
      exact (tracksAt_congr hv.handlers m u e').mp ht
    have htold := told_revertBwuMediumForEndpoint (hv.config ▸ hflag) hu (hvmed ▸ hm)
      (hvmed.symm ▸ hvlast)
    obtain ⟨new, hnew, -⟩ := hv.calls
    rw [heq, htold, hvmed, hnew]
    exact ⟨.handleRevert m u :: new, rfl, List.mem_cons_self⟩

def twoMediums (ops : List Op) : World :=
  (World.new {} [.wifiLan, .wifiDirect] "L").after reliable 3 (connect "E" 0 ++ ops)

theorem served_reliable (s : World) :
    s.ServedAs reliable (wrapInitiatorUpgradeServiceId "S") "E" :=
  fun _ _ => rfl

theorem disconnect_releases_upgraded :
    (¬ ((scenario upgrade).onEndpointDisconnect (wrapInitiatorUpgradeServiceId "S") "E").TracksAt
        .wifiLan (wrapInitiatorUpgradeServiceId "S") "E") ∧
      ∃ new,
        ((scenario upgrade).onEndpointDisconnect (wrapInitiatorUpgradeServiceId "S") "E").trace =
          new ++ (scenario upgrade).trace ∧
        .handleRevert .wifiLan (wrapInitiatorUpgradeServiceId "S") ∈ new := by
  have h := @disconnect_releases reliable (scenario upgrade) "S" "E" (by decide) ?_ (by decide)
  · refine ⟨h.1 _, h.2 .wifiLan ⟨⟨_, rfl, _, rfl, by decide⟩, ?_⟩⟩
    rintro e' ⟨_, hl, _, hids, hmem⟩
    cases hl
    cases hids
    exact HashSet.eq_of_len_one (by decide) hmem (by decide)
  · apply scenario_reached
    intro i hi
    refine ⟨served_reliable _, ?_⟩
    rcases i with _ | _ | _ | _ | _ | _ | _ | i
    · nofun
    · nofun
    · nofun
    · rintro ⟨-, ht, -⟩
      exact not_tracksAt_new {} [.wifiLan] "L" _ _ _ ht
    · nofun
    · rintro (_ | ⟨-, hev⟩ | hev)
      · cases eventOf_forBwuLastWrite.symm.trans hev
      · cases eventOf_forBwuLastWrite.symm.trans hev
    · rintro (_ | ⟨-, hev⟩ | hev)
      · cases eventOf_forBwuSafeToClose.symm.trans hev
      · cases eventOf_forBwuSafeToClose.symm.trans hev
    · exact absurd hi (by simp [connect, upgrade])

/-- After the upgrade to WiFi LAN "E" is offered WiFi Direct, and the LAN handler is forgotten. -/
theorem disconnect_leaves_first_medium :
    ReachedBy reliable
        (fun s op => op.Validated ∧ s.ServedAs reliable (wrapInitiatorUpgradeServiceId "S") "E")
        (twoMediums (upgrade ++ [.initiateBwuForEndpoint "E" .wifiDirect])) ∧
      (twoMediums
        (upgrade ++ [.initiateBwuForEndpoint "E" .wifiDirect])).config.supportMultipleBwuMediums =
          true ∧
      ((twoMediums (upgrade ++ [.initiateBwuForEndpoint "E" .wifiDirect])).onEndpointDisconnect
        (wrapInitiatorUpgradeServiceId "S") "E").TracksAt .wifiLan
          (wrapInitiatorUpgradeServiceId "S") "E" ∧
      .handleRevert .wifiLan (wrapInitiatorUpgradeServiceId "S") ∉
        ((twoMediums (upgrade ++ [.initiateBwuForEndpoint "E" .wifiDirect])).onEndpointDisconnect
          (wrapInitiatorUpgradeServiceId "S") "E").trace := by
  refine ⟨?_, by decide, ⟨_, rfl, _, rfl, by decide⟩, by decide⟩
  have hvalid : ∀ op ∈ connect "E" 0 ++ (upgrade ++ [.initiateBwuForEndpoint "E" .wifiDirect]),
      op.Validated := by decide
  exact reachedBy_after _ _ _ _ _ fun i hi =>
    ⟨hvalid _ (List.getElem_mem hi), served_reliable _⟩

end World

end Nearby.Bwu
