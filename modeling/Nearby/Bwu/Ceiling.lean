import Nearby.Bwu.Backoff
import Nearby.Bwu.Selection

/-! The ceiling of the retry delays.  The first retry takes the configured delay as it is, and the
later ones are cut off at the maximum only after the sum or the product has been formed. -/

namespace Nearby.Bwu

open Proto Lib

namespace BwuConfig

theorem resolve_delay_pos (config : BwuConfig) : 0 < config.resolve.bandwidthUpgradeRetryDelay := by
  dsimp only [resolve]
  split
  case isTrue => split <;> decide
  case isFalse h => exact Nat.pos_of_ne_zero h

theorem lt_grown {config : BwuConfig} (hpos : 0 < config.bandwidthUpgradeRetryDelay) (d : Duration)
    (hd : config.bandwidthUpgradeRetryDelay ≤ d) : d < config.grown d := by
  rw [grown]
  split
  · rw [Nat.mul_two]
    exact Nat.lt_add_of_pos_right (hpos.trans_le hd)
  · exact Nat.lt_add_of_pos_right hpos

end BwuConfig

namespace World

abbrev ReachedFrom (env : Env) (config : BwuConfig) (mediums : List Medium) (id : String) :
    World → Prop :=
  Reach (Step env) (fun _ _ => True) (World.new config mediums id)

structure UnderCeiling (env : Env) (cap : Duration) (s : World) : Prop where
  next : ∀ e, ∃ d, s.calculateNextRetryDelay e = some d ∧ d ≤ cap
  pending : ∀ e d, s.pendingRetryDelay e = some d → d ≤ cap
  scheduled : ∀ e d, .retryScheduled e d ∈ s.trace → d ≤ cap
  returns : ∀ fuel op, s.apply env fuel op ≠ .error .panic

structure Ceiled (e : String) (s : World) : Prop where
  first : s.config.bandwidthUpgradeRetryDelay ≤ s.config.bandwidthUpgradeRetryMaxDelay
  delay : ∀ d, s.retryDelays.lookup e = some d → d ≤ s.config.bandwidthUpgradeRetryMaxDelay
  pending : ∀ d, s.pendingRetryDelay e = some d → d ≤ s.config.bandwidthUpgradeRetryMaxDelay
  scheduled : ∀ d, .retryScheduled e d ∈ s.trace → d ≤ s.config.bandwidthUpgradeRetryMaxDelay

section

variable {env : Env} {s t : World} {e : String}

/-! ### Within the maximum -/

theorem Ceiled.next (h : Ceiled e s)
    (hmax : s.config.grown s.config.bandwidthUpgradeRetryMaxDelay ≤ Duration.max) :
    ∃ d, s.calculateNextRetryDelay e = some d ∧ d ≤ s.config.bandwidthUpgradeRetryMaxDelay := by
  rw [calculateNextRetryDelay]
  cases hlast : s.retryDelays.lookup e with
  | none => exact ⟨_, rfl, h.first⟩
  | some last =>
    have hgrown : s.config.grown last ≤ Duration.max :=
      (s.config.grown_mono (h.delay last hlast)).trans hmax
    have hfits : Duration.checked (s.config.grown last) = some (s.config.grown last) :=
      if_pos hgrown
    exact ⟨_, congrArg (Option.map _) hfits, min_le_right _ _⟩

theorem Ceiled.next_le (h : Ceiled e s) {d : Duration} (hd : s.calculateNextRetryDelay e = some d) :
    d ≤ s.config.bandwidthUpgradeRetryMaxDelay := by
  rw [calculateNextRetryDelay] at hd
  split at hd
  case h_1 =>
    cases hd
    exact h.first
  case h_2 =>
    obtain ⟨_, -, rfl⟩ := Option.map_eq_some_iff.mp hd
    exact min_le_right _ _

theorem Ceiled.silent (h : Ceiled e s) (hconfig : t.config = s.config) (hs : Silent e s t)
    (hdelay : t.retryDelays.lookup e = none ∨ t.retryDelays.lookup e = s.retryDelays.lookup e) :
    Ceiled e t := by
  obtain ⟨new, hnew, hlast, halarm⟩ := hs
  refine ⟨hconfig ▸ h.first, fun d hd => ?_, fun d hd => ?_, fun d hd => ?_⟩
  all_goals rw [hconfig]
  · rcases hdelay with hnone | hsame
    · rw [hnone] at hd
      cases hd
    · exact h.delay d (hsame ▸ hd)
  · rcases halarm with hnone | hsame
    · rw [hnone] at hd
      cases hd
    · exact h.pending d (hsame ▸ hd)
  · rw [hnew] at hd
    rcases List.mem_append.mp hd with hd | hd
    · have hnot := List.findSome?_eq_none_iff.mp hlast _ hd
      simp [Event.retryOf] at hnot
    · exact h.scheduled d hd

theorem Ceiled.retryUpgradesAfterDelay (h : Ceiled e s) (hr : s.retryUpgradesAfterDelay e = .ok t) :
    Ceiled e t := by
  obtain ⟨delay, hnext, rfl⟩ := retryUpgradesAfterDelay_next hr
  have hle := h.next_le hnext
  refine ⟨h.first, fun d hd => ?_, fun d hd => ?_, fun d hd => ?_⟩
  · rw [AList.lookup_insert] at hd
    exact Option.some.inj hd ▸ hle
  · rw [pendingRetryDelay, AList.lookup_insert] at hd
    exact Option.some.inj hd ▸ hle
  · rcases List.mem_cons.mp hd with hnew | hd
    · cases hnew
      exact hle
    · exact h.scheduled d hd

theorem Ceiled.step {op : Op} (h : Ceiled e s) (hst : Step env s op t) : Ceiled e t := by
  by_cases hop : op.resets e
  case pos =>
    obtain ⟨hsilent, hdelay, -⟩ := hst.reset hop
    exact h.silent hst.config_eq hsilent (.inl hdelay)
  case neg =>
    exact hst.retry_rule (R := fun s t => Ceiled e s → Ceiled e t) (fun hst htv hs => htv (hst hs))
      (fun hs h => h.silent hs.config hs.silent (.inr hs.delay))
      (fun hr h => h.retryUpgradesAfterDelay hr) hop h

/-! ### Overflow -/

theorem calculateNextRetryDelay_congr (hconfig : t.config = s.config)
    (hdelays : t.retryDelays = s.retryDelays) (e : String) :
    t.calculateNextRetryDelay e = s.calculateNextRetryDelay e := by
  rw [calculateNextRetryDelay, calculateNextRetryDelay, hconfig, hdelays]

theorem next_abandoned (env : Env) (s : World) (e : String) :
    (s.abandoned env e).calculateNextRetryDelay e = s.calculateNextRetryDelay e :=
  calculateNextRetryDelay_congr (abandoned_frame env s e).1 (abandoned_delays env s e) e

theorem next_setBwuMediumForEndpoint (s : World) (e : String) (m : Medium) :
    (s.setBwuMediumForEndpoint e m).calculateNextRetryDelay e = s.calculateNextRetryDelay e := by
  rw [setBwuMediumForEndpoint_frame]
  rfl

theorem next_asked (env : Env) (s : World) (e : String) (m : Medium) (c : ChannelId) :
    (s.asked env e m c).2.calculateNextRetryDelay e = s.calculateNextRetryDelay e := by
  rw [asked, initializeUpgradedMediumForEndpoint_frame, prepared, setBwuMediumForEndpoint_frame]
  rfl

theorem next_offered (env : Env) (s : World) (e : String) (m : Medium) (c : ChannelId) :
    (s.offered env e m c).2.calculateNextRetryDelay e = s.calculateNextRetryDelay e :=
  next_asked env s e m c

theorem retry_ne_panic (h : s.calculateNextRetryDelay e ≠ none) :
    s.retryUpgradesAfterDelay e ≠ .error .panic := by
  obtain ⟨delay, hdelay⟩ := Option.ne_none_iff_exists'.mp h
  rw [retryUpgradesAfterDelay, hdelay]
  simp

section

variable {start : World → String → Medium → Except Abort World}
  (hstart : ∀ {s m}, s.calculateNextRetryDelay e ≠ none → start s e m ≠ .error .panic)

include hstart

theorem processUpgradeFailureEvent_ne_panic (h : s.calculateNextRetryDelay e ≠ none)
    (info : UpgradePathInfo) :
    s.processUpgradeFailureEvent env start e info ≠ .error .panic := by
  rw [processUpgradeFailureEvent_decision]
  cases s.decision env e (upiMedium info) with
  | keep | rest => nofun
  | attempt n =>
    apply hstart
    rwa [next_setBwuMediumForEndpoint, next_abandoned]
  | retry =>
    apply retry_ne_panic
    rwa [next_abandoned]

theorem tryNextBestUpgradeMediums_ne_panic (h : s.calculateNextRetryDelay e ≠ none)
    (mediums : List Medium) :
    s.tryNextBestUpgradeMediums env start e mediums ≠ .error .panic := by
  simp only [tryNextBestUpgradeMediums]
  split
  case isTrue => exact retry_ne_panic h
  case isFalse =>
    split
    case isTrue => simp
    case isFalse =>
      apply hstart
      rwa [next_setBwuMediumForEndpoint]

end

theorem initiateBwuForEndpoint_ne_panic (env : Env) (fuel : Nat) :
    ∀ {s m}, calculateNextRetryDelay s e ≠ none →
      s.initiateBwuForEndpoint env fuel e m ≠ .error .panic := by
  induction fuel with
  | zero => simp [initiateBwuForEndpoint]
  | succ fuel ih =>
    intro s m h
    rw [initiateBwuForEndpoint]
    by_cases hp : s.InitiatePasses env e m
    case neg =>
      obtain ⟨t, -, ht⟩ := exists_turnedAway hp
      rw [ht]
      simp
    case pos =>
      obtain ⟨c, hc⟩ := Option.ne_none_iff_exists'.mp hp.2.2.2.2
      rw [initiateBody_passes hp hc]
      split
      case isTrue =>
        apply processUpgradeFailureEvent_ne_panic ih
        rwa [next_asked]
      case isFalse =>
        split
        case isTrue =>
          apply processUpgradeFailureEvent_ne_panic ih
          rwa [next_offered]
        case isFalse => simp

theorem onIncomingFrame_returns_or (env : Env) (fuel : Nat) (s : World) (frame : OfflineFrame)
    (e : String) : (∃ t, s.onIncomingFrame env fuel frame e = .ok t) ∨
      ∃ info, s.onIncomingFrame env fuel frame e =
        s.processUpgradeFailureEvent env (initiateBwuForEndpoint env fuel) e info := by
  cases hev : eventOf frame with
  | none => exact .inl ⟨s, onIncomingFrame_other hev env fuel s e⟩
  | some event =>
    obtain ⟨event, info⟩ := event
    obtain ⟨bwu, hframe, hevent, hinfo⟩ := onIncomingFrame_dispatch env fuel s e hev
    rw [hframe]
    simp only [onBwuNegotiationFrame, hevent, hinfo]
    split
    case isTrue => split <;> exact .inl ⟨_, rfl⟩
    case isFalse =>
      cases event with
      | upgradeFailure =>
        cases info with
        | none => exact .inl ⟨_, rfl⟩
        | some info => exact .inr ⟨info, rfl⟩
      | upgradePathAvailable => cases info <;> exact .inl ⟨_, rfl⟩
      | lastWriteToPriorChannel | safeToClosePriorChannel =>
        dsimp only
        split <;> exact .inl ⟨_, rfl⟩
      | _ => exact .inl ⟨_, rfl⟩

theorem apply_ne_panic (h : ∀ e, s.calculateNextRetryDelay e ≠ none) (env : Env) (fuel : Nat)
    (op : Op) : s.apply env fuel op ≠ .error .panic := by
  have hinitiate : ∀ e {s m}, calculateNextRetryDelay s e ≠ none →
      s.initiateBwuForEndpoint env fuel e m ≠ .error .panic :=
    fun e => initiateBwuForEndpoint_ne_panic env fuel
  cases op with
  | initiateBwuForEndpoint e m => exact hinitiate e (h e)
  | onIncomingFrame frame e =>
    rcases onIncomingFrame_returns_or env fuel s frame e with ⟨t, ht⟩ | ⟨info, ht⟩
    · rw [apply, ht]
      simp
    · rw [apply, ht]
      exact processUpgradeFailureEvent_ne_panic (hinitiate e) (h e) info
  | fireRetryAlarm e =>
    rw [apply, fireRetryAlarm]
    split
    case isTrue => simp
    case isFalse =>
      dsimp only
      split
      case isTrue => simp
      case isFalse =>
        exact tryNextBestUpgradeMediums_ne_panic (s := s.cancelRetryUpgradeAlarm e) (hinitiate e)
          (h e) _
  | _ => simp [apply]

/-! ### Up to the maximum -/

theorem next_of_last {last d : Duration} (hlast : s.retryDelays.lookup e = some last)
    (hd : s.calculateNextRetryDelay e = some d) : s.config.grown last ≤ Duration.max ∧
      d = capped s.config.grown s.config.bandwidthUpgradeRetryMaxDelay last := by
  rw [calculateNextRetryDelay, hlast] at hd
  obtain ⟨d', hd', rfl⟩ := Option.map_eq_some_iff.mp hd
  obtain ⟨hle, hd'⟩ := Option.ite_none_right_eq_some.mp hd'
  cases hd'
  exact ⟨hle, rfl⟩

/-- A retry of `e` is pending, and all it does when fired is to schedule the next. -/
structure Rearms (env : Env) (e : String) (s : World) : Prop where
  pending : e ∈ s.retryUpgradeAlarms
  connected : s.client.isConnectedToEndpoint e = true
  mediums : s.client.getUpgradeMediums e = []
  apart : s.currentMedium env e ≠ .wifiLan

theorem Rearms.fire (h : Rearms env e s) (fuel : Nat) :
    s.fireRetryAlarm env fuel e = (s.cancelRetryUpgradeAlarm e).retryUpgradesAfterDelay e := by
  have hconnected : (s.cancelRetryUpgradeAlarm e).client.isConnectedToEndpoint e = true :=
    h.connected
  have hapart : (s.cancelRetryUpgradeAlarm e).currentMedium env e ≠ .wifiLan := h.apart
  rw [fireRetryAlarm, if_neg (not_not.mpr h.pending)]
  dsimp only
  rw [if_neg (not_not.mpr hconnected), tryNextBestUpgradeMediums]
  exact if_pos ⟨hapart, .inr (.inr h.mediums)⟩

theorem exists_rearmed {delay : Duration} (hnext : s.calculateNextRetryDelay e = some delay)
    (hconnected : s.client.isConnectedToEndpoint e = true)
    (hmediums : s.client.getUpgradeMediums e = []) (hapart : s.currentMedium env e ≠ .wifiLan) :
    ∃ t, s.retryUpgradesAfterDelay e = .ok t ∧ Rearms env e t ∧ t.config = s.config ∧
      t.retryDelays.lookup e = some delay := by
  obtain ⟨-, hschedules⟩ := schedules_retryUpgradesAfterDelay s e
  obtain ⟨t, ht, -⟩ := hschedules delay hnext
  refine ⟨t, ht, ?_⟩
  obtain ⟨delay', hnext', rfl⟩ := retryUpgradesAfterDelay_next ht
  refine ⟨⟨(AList.mem_insert _).mpr (.inl rfl), hconnected, hmediums, hapart⟩, rfl, ?_⟩
  rw [← hnext, hnext']
  exact AList.lookup_insert _

theorem Rearms.next (h : Rearms env e s) {last : Duration}
    (hlast : s.retryDelays.lookup e = some last) (hnext : s.calculateNextRetryDelay e ≠ none) :
    ∃ t, Step env s (.fireRetryAlarm e) t ∧ Rearms env e t ∧ t.config = s.config ∧
      t.retryDelays.lookup e =
        some (capped s.config.grown s.config.bandwidthUpgradeRetryMaxDelay last) := by
  obtain ⟨delay, hdelay⟩ := Option.ne_none_iff_exists'.mp hnext
  obtain ⟨-, hcapped⟩ := next_of_last hlast hdelay
  obtain ⟨t, ht, hrearms, hconfig, hnew⟩ := exists_rearmed (s := s.cancelRetryUpgradeAlarm e) hdelay
    h.connected h.mediums h.apart
  rw [hcapped] at hnew
  exact ⟨t, ⟨0, (h.fire 0).trans ht⟩, hrearms, hconfig, hnew⟩

end

def accepted (config : BwuConfig) (mediums : List Medium) (id : String) : World :=
  { World.new config mediums id with client := (ClientProxy.new id).onConnectionAccepted "E" }

section

variable (env : Env) (config : BwuConfig) (mediums : List Medium) (id : String)

theorem accepted_failure :
    (accepted config mediums id).onIncomingFrame env 0 (forBwuFailure lanPath) "E" =
      ((accepted config mediums id).abandoned env "E").retryUpgradesAfterDelay "E" := by
  have hconnected : (accepted config mediums id).client.isConnectedToEndpoint "E" = true := rfl
  have hswitch : ¬ (accepted config mediums id).KeepsMedium := fun hk => Nat.not_lt_zero 1 hk.2
  have hnone : (accepted config mediums id).nextTried "E" (upiMedium lanPath) = none := rfl
  have hapart : (accepted config mediums id).currentMedium env "E" ≠ .wifiLan := nofun
  rw [onIncomingFrame_failure 0 hconnected (eventOf_forBwuFailure lanPath),
    processUpgradeFailureEvent_eq hswitch, hnone]
  exact if_neg hapart

theorem exists_first_retry : ∃ s,
    ReachedFrom env config mediums id s ∧ Rearms env "E" s ∧ s.config = config.resolve ∧
      s.retryDelays.lookup "E" = some config.resolve.bandwidthUpgradeRetryDelay := by
  have h : ReachedFrom env config mediums id (accepted config mediums id) :=
    .single ⟨.onConnectionAccepted "E", trivial, 0, rfl⟩
  have hb := sameBearings_abandoned env (accepted config mediums id) "E"
  have hnext : ((accepted config mediums id).abandoned env "E").calculateNextRetryDelay "E" =
      some config.resolve.bandwidthUpgradeRetryDelay :=
    (next_abandoned env (accepted config mediums id) "E").trans rfl
  have hfailure := accepted_failure env config mediums id
  generalize (accepted config mediums id).abandoned env "E" = v at hb hnext hfailure
  have hapart : v.currentMedium env "E" ≠ .wifiLan := by
    rw [hb.currentMedium]
    nofun
  obtain ⟨t, ht, hrearms, hconfig, hnew⟩ := exists_rearmed hnext
    (congrArg (ClientProxy.isConnectedToEndpoint · "E") hb.client)
    (congrArg (ClientProxy.getUpgradeMediums · "E") hb.client) hapart
  have hst : Step env (accepted config mediums id)
      (.onIncomingFrame (forBwuFailure lanPath) "E") t := ⟨0, hfailure.trans ht⟩
  exact ⟨t, h.snoc trivial hst, hrearms, hconfig.trans hb.config, hnew⟩

variable {env config mediums id}

theorem exists_nth_retry (hnext : ∀ s, ReachedFrom env config mediums id s →
      s.calculateNextRetryDelay "E" ≠ none) (n : Nat) :
    ∃ s, ReachedFrom env config mediums id s ∧ Rearms env "E" s ∧ s.config = config.resolve ∧
      s.retryDelays.lookup "E" =
        some ((capped config.resolve.grown config.resolve.bandwidthUpgradeRetryMaxDelay)^[n]
          config.resolve.bandwidthUpgradeRetryDelay) := by
  induction n with
  | zero => exact exists_first_retry env config mediums id
  | succ n ih =>
    obtain ⟨s, hs, hrearms, hconfig, hlast⟩ := ih
    obtain ⟨t, hst, ht, hsame, hdelay⟩ := hrearms.next hlast (hnext s hs)
    rw [hconfig] at hsame hdelay
    rw [Function.iterate_succ_apply']
    exact ⟨t, hs.snoc trivial hst, ht, hsame, hdelay⟩

theorem grown_max_le (hnext : ∀ s, ReachedFrom env config mediums id s →
      s.calculateNextRetryDelay "E" ≠ none)
    (hle : config.resolve.bandwidthUpgradeRetryDelay ≤
      config.resolve.bandwidthUpgradeRetryMaxDelay) :
    config.resolve.grown config.resolve.bandwidthUpgradeRetryMaxDelay ≤ Duration.max := by
  obtain ⟨n, hn⟩ := exists_capped_iterate_eq (BwuConfig.lt_grown config.resolve_delay_pos) hle
  obtain ⟨s, hs, -, hconfig, hlast⟩ := exists_nth_retry hnext n
  obtain ⟨d, hd⟩ := Option.ne_none_iff_exists'.mp (hnext s hs)
  rw [hn] at hlast
  rw [← hconfig]
  exact (next_of_last (hconfig ▸ hlast) hd).1

end

/-- Every delay of every run is within the maximum, and no operation overflows, just if the delay
of the first retry is within it and the maximum itself can be grown once more. -/
theorem retry_ceiling_iff (env : Env) (config : BwuConfig) (mediums : List Medium) (id : String) :
    (∀ s, ReachedFrom env config mediums id s →
      s.UnderCeiling env config.resolve.bandwidthUpgradeRetryMaxDelay) ↔
    config.resolve.bandwidthUpgradeRetryDelay ≤ config.resolve.bandwidthUpgradeRetryMaxDelay ∧
      (if config.useExpBackoffInBwuRetry then config.resolve.bandwidthUpgradeRetryMaxDelay * 2
        else config.resolve.bandwidthUpgradeRetryMaxDelay +
          config.resolve.bandwidthUpgradeRetryDelay) ≤ Duration.max := by
  constructor
  · intro h
    have hnext : ∀ s, ReachedFrom env config mediums id s →
        s.calculateNextRetryDelay "E" ≠ none := by
      intro s hs hnone
      obtain ⟨d, hd, -⟩ := (h s hs).next "E"
      exact nomatch hnone.symm.trans hd
    obtain ⟨d, hd, hle⟩ := (h _ .refl).next "E"
    cases hd
    exact ⟨hle, grown_max_le hnext hle⟩
  · rintro ⟨hfirst, hmax⟩ s hs
    have hinv : s.config = config.resolve ∧ ∀ e, Ceiled e s := by
      refine hs.invariant (fun s => s.config = config.resolve ∧ ∀ e, Ceiled e s) ?_ ?_
      · exact ⟨rfl, fun e => ⟨hfirst, nofun, nofun, nofun⟩⟩
      · rintro s op t ⟨hconfig, hs⟩ - hst
        exact ⟨hst.config_eq.trans hconfig, fun e => (hs e).step hst⟩
    obtain ⟨hconfig, hceiled⟩ := hinv
    have hnext : ∀ e, ∃ d, s.calculateNextRetryDelay e = some d ∧
        d ≤ s.config.bandwidthUpgradeRetryMaxDelay := by
      intro e
      apply (hceiled e).next
      rw [hconfig]
      exact hmax
    rw [← hconfig]
    refine ⟨hnext, fun e => (hceiled e).pending, fun e => (hceiled e).scheduled, ?_⟩
    apply apply_ne_panic
    intro e hnone
    obtain ⟨d, hd, -⟩ := hnext e
    exact nomatch hnone.symm.trans hd

/-- A first delay of twenty seconds under a maximum that is left to its default of ten; and a
maximum that cannot be doubled. -/
theorem retry_above_ceiling :
    (∃ s, ReachedFrom reliable
        { useExpBackoffInBwuRetry := false
          bandwidthUpgradeRetryDelay := Duration.ofSecs 20 } [] "L" s ∧
      s.config.bandwidthUpgradeRetryMaxDelay = Duration.ofSecs 10 ∧
      s.pendingRetryDelay "E" = some (Duration.ofSecs 20) ∧
      s.calculateNextRetryDelay "X" = some (Duration.ofSecs 20)) ∧
    ∃ s, ReachedFrom reliable
        { bandwidthUpgradeRetryDelay := Duration.max
          bandwidthUpgradeRetryMaxDelay := Duration.max } [] "L" s ∧
      s.calculateNextRetryDelay "E" = none := by
  have hrun : ∀ config, ReachedFrom reliable config [] "L"
      ((World.new config [] "L").after reliable 3
        [.onConnectionAccepted "E", .onIncomingFrame (forBwuFailure lanPath) "E"]) :=
    fun config => reach_after _ fun _ _ => trivial
  refine ⟨⟨_, hrun _, ?_⟩, _, hrun _, ?_⟩
  · decide
  · decide

end World

end Nearby.Bwu
