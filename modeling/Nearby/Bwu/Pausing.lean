import Nearby.Bwu.LastWrite
import Nearby.Bwu.Parking
import Nearby.Swap.Pause

/-! Channels that `run_upgrade_protocol` has paused: `write` on one blocks, and only the
completion of the upgrade resumes it. -/

namespace Nearby.Bwu

open Proto Lib

def Event.isBlocked : Event → Bool
  | .write _ _ _ paused _ _ => paused
  | _ => false

def Event.isFailed : Event → Bool
  | .write _ _ _ _ _ result => !result.ok
  | _ => false

theorem isBlocked_of_not_blocks {tr : List Event}
    (h : ∀ x ∈ tr.filterMap absEvent, ¬ x.Blocks) : ∀ x ∈ tr, x.isBlocked = false := by
  intro x hx
  cases x with
  | write owner c data paused encrypted result =>
    have hb := h _ (List.mem_filterMap.mpr ⟨_, hx, rfl⟩)
    exact Bool.eq_false_of_not_eq_true hb
  | _ => rfl

theorem not_failed_of_isFailed {tr : List Event} (h : ∀ x ∈ tr, x.isFailed = false) :
    ∀ x ∈ tr.filterMap absEvent, ¬ x.Failed := by
  intro y hy hfail
  obtain ⟨x, hx, hxy⟩ := List.mem_filterMap.mp hy
  have hok := h x hx
  cases x with
  | write owner c data paused encrypted result =>
    cases hxy
    rw [Event.isFailed, show result.ok = false from hfail] at hok
    cases hok
  | createUpgraded _ _ _ _ result =>
    cases result with
    | none => cases hxy
    | some c =>
      cases hxy
      exact hfail
  | _ =>
    cases hxy <;> exact hfail

namespace World

/-! ### Writing -/

/-- `op` makes the manager write on the channel registered for `e`. -/
inductive Addresses (env : Env) (s : World) (e : String) : Op → Prop
  | renegotiates {op : Op} : s.Renegotiates env e op → Addresses env s e op
  | answers {frame : OfflineFrame} {info : UpgradePathInfo} :
      eventOf frame = some (.upgradePathAvailable, some info) → s.Answered env e info →
      Addresses env s e (.onIncomingFrame frame e)
  | socket {c : ChannelId} : s.introducedEndpoint env c = some e →
      Addresses env s e (.onIncomingConnection c)

def AvoidsPaused (env : Env) (s : World) (op : Op) : Prop :=
  ∀ e c, s.getChannelForEndpoint e = some c → (s.channels c).paused = true →
    ¬ s.Addresses env e op

theorem AvoidsPaused.released {env : Env} {s : World} {op : Op} {e : String}
    {u : Swap.State String ChannelId} (h : s.AvoidsPaused env op) (ha : s.Addresses env e op)
    (hag : s.abs.Agrees u) : ∀ c, u.registered e = some c → (u.chan c).paused = false := by
  intro c hr
  rw [hag.registered] at hr
  rcases hag.chan c with hc | hc
  · rw [hc]
    apply Bool.eq_false_of_not_eq_true
    intro hp
    exact h e c hr hp ha
  · exact hc

theorem Occurs.audible {env : Env} {s : World} {op : Op} {u : Swap.State String ChannelId}
    {l : Swap.Label String ChannelId} (h : Occurs env s op u l) (hok : s.AvoidsPaused env op)
    (hs : (Swap.arrivals s.abs.trace).Nodup → s.abs.Booked)
    (hn : (Swap.arrivals u.trace).Nodup) : u.Audible l := by
  -- A channel that arrives is new, so nothing can have paused it.
  have hgreet : ∀ c, (Swap.arrivals (s.abs.next (.arrive c)).trace).Nodup →
      (s.abs.chan c).paused = false := by
    intro c hn
    apply Bool.eq_false_of_not_eq_true
    intro hp
    have hb := hs (Swap.State.nodup_of_next hn)
    exact (List.nodup_cons.mp hn).1 (hb.paused_arrived hp)
  cases h with
  | speak _ hr ha => exact hok.released (.renegotiates hr) ha
  | refuse _ hf hans ha => exact hok.released (.answers hf hans) ha
  | dialledSwap _ _ hf hacc ha => exact hok.released (.answers hf hacc.answered) ha.agrees
  | incomingSwap _ _ he ha => exact hok.released (.socket he) ha.agrees
  | introduce => exact hgreet _ hn
  | acknowledge => exact hgreet _ hn
  | _ => trivial

/-- Where no channel is handed in twice and no endpoint is addressed while its registered
channel is paused, no write finds its channel paused. -/
theorem no_write_on_paused {env : Env} {s : World} (h : ReachedBy env (AvoidsPaused env) s)
    (hn : (handedIn s.trace).Nodup) : ∀ x ∈ s.trace, x.isBlocked = false := by
  rw [← arrivals_filterMap] at hn
  have hinv := ReachedBy.lift
    (fun u => (Swap.arrivals u.trace).Nodup → u.Booked ∧ u.Calmed)
    (fun u l => (Swap.arrivals u.trace).Nodup → u.Placed l ∧ u.Audible l) ?_ ?_ ?_ h hn
  · exact isBlocked_of_not_blocks hinv.2.unblocked
  · intro u l hu hl _ hn
    have hn' := Swap.State.nodup_of_next hn
    exact ⟨(hu hn').1.next (hl hn').1 hn, (hu hn').2.next (hl hn').1 (hl hn').2⟩
  · intro s op u l hs hok _ hocc hn
    exact ⟨hocc.placed (fun h => (hs h).1) hn, hocc.audible hok (fun h => (hs h).1) hn⟩
  · intro config mediums id _
    rw [abs_new]
    exact ⟨⟨nofun, nofun, nofun, fun _ => rfl, nofun, nofun, nofun, nofun, nofun, nofun⟩,
      nofun, nofun⟩

theorem upgrade_unpaused {i : Nat} (hi : i < 5) {e : String} {c : ChannelId}
    (hc : ((World.new {} [.wifiLan] "L").after reliable 3
      ((connect "E" 0 ++ upgrade).take i)).getChannelForEndpoint e = some c) :
    (((World.new {} [.wifiLan] "L").after reliable 3
      ((connect "E" 0 ++ upgrade).take i)).channels c).paused = false := by
  have h : ∀ i < 5, ∀ x ∈ ((World.new {} [.wifiLan] "L").after reliable 3
      ((connect "E" 0 ++ upgrade).take i)).ecm.entries,
        (((World.new {} [.wifiLan] "L").after reliable 3
          ((connect "E" 0 ++ upgrade).take i)).channels x.2).paused = false := by decide
  exact h i hi ⟨e, c⟩ (AList.mem_lookup_iff.mp hc)

theorem no_write_on_paused_in_upgrade :
    (scenario upgrade).trace.all (fun x => !x.isBlocked) = true := by
  simp only [List.all_eq_true, Bool.not_eq_true']
  refine no_write_on_paused (scenario_reached upgrade ?_) (by decide)
  intro i hi e c hc hp ha
  by_cases h5 : i < 5
  · rw [upgrade_unpaused h5 hc] at hp
    cases hp
  · match i, hi, h5 with
    | 5, _, _ =>
      cases ha with
      | renegotiates h =>
        cases h with
        | failure _ h => cases eventOf_forBwuLastWrite.symm.trans h
      | answers h => cases eventOf_forBwuLastWrite.symm.trans h
    | 6, _, _ =>
      cases ha with
      | renegotiates h =>
        cases h with
        | failure _ h => cases eventOf_forBwuSafeToClose.symm.trans h
      | answers h => cases eventOf_forBwuSafeToClose.symm.trans h

/-- A second socket for an upgrade whose exchange is not over: LAST_WRITE goes to the
channel the first socket brought, which is still paused. -/
theorem write_on_paused_by_second_socket :
    ¬ ∀ s, Reachable reliable s → ∀ x ∈ s.trace, x.isBlocked = false := by
  intro h
  have hs := h (scenario (upgrade.take 2 ++ [.onIncomingConnection 2])) (scenario_reachable _)
  revert hs
  decide

/-! ### Resuming -/

def HeldOpen (s : World) (e : String) : Prop :=
  ∃ c, s.getChannelForEndpoint e = some c ∧ (s.channels c).paused = true ∧
    (s.channels c).closed = false

/-- `op` ends no upgrade whose registered channel is open and paused. -/
def FinishesHeld (env : Env) (s : World) (op : Op) : Prop :=
  ∀ e, s.HeldOpen e →
    ¬ s.Abandons env e op ∧ (∀ serviceId, op ≠ .onEndpointDisconnect serviceId e) ∧ op ≠ .shutdown

theorem held_of_agrees {s : World} {u : Swap.State String ChannelId} {e : String}
    (hag : s.abs.Agrees u) (h : u.Held e) : s.HeldOpen e := by
  obtain ⟨c, hr, hp, hcl⟩ := h
  rw [hag.registered] at hr
  rcases hag.chan c with hc | hc
  · rw [hc] at hp hcl
    exact ⟨c, hr, hp, hcl⟩
  · rw [hc] at hp
    cases hp

theorem Occurs.gentle {env : Env} {s : World} {op : Op} {u : Swap.State String ChannelId}
    {l : Swap.Label String ChannelId} (h : Occurs env s op u l) (hok : s.FinishesHeld env op) :
    u.Gentle l := by
  cases l with
  | leave e =>
    obtain ⟨hab, hag⟩ := h.abandons
    exact fun hheld => (hok e (held_of_agrees hag hheld)).1 hab
  | disconnect e =>
    cases h with
    | disconnect v => exact fun hheld => (hok e hheld).2.1 v rfl
  | shutdown =>
    cases h
    exact fun e hheld => (hok e hheld).2.2 rfl
  | _ => trivial

theorem awake {env : Env} {s : World} (h : ReachedBy env (FinishesHeld env) s)
    (hn : (handedIn s.trace).Nodup) (hok : ∀ x ∈ s.trace, x.isFailed = false) :
    s.abs.Awake := by
  rw [← arrivals_filterMap] at hn
  have hinv := ReachedBy.lift
    (fun u => (Swap.arrivals u.trace).Nodup →
      u.Booked ∧ ((∀ x ∈ u.trace, ¬ x.Failed) → u.Awake))
    (fun u l => ((Swap.arrivals u.trace).Nodup → u.Placed l) ∧ u.Gentle l) ?_ ?_ ?_ h hn
  · exact hinv.2 (not_failed_of_isFailed hok)
  · intro u l hu hl hen hn
    have hn' := Swap.State.nodup_of_next hn
    refine ⟨(hu hn').1.next (hl.1 hn') hn, fun hfail => ?_⟩
    obtain ⟨xs, hxs, -⟩ := Swap.State.grows_next u l
    have hfail' : ∀ x ∈ u.trace, ¬ x.Failed := by
      intro x hx
      exact hfail x (hxs ▸ List.mem_append_right _ hx)
    exact ((hu hn').2 hfail').next (hu hn').1 (hl.1 hn') hen hl.2 hn hfail
  · intro s op u l hs hok _ hocc
    exact ⟨hocc.placed fun h => (hs h).1, hocc.gentle hok⟩
  · intro config mediums id _
    rw [abs_new]
    exact ⟨⟨nofun, nofun, nofun, fun _ => rfl, nofun, nofun, nofun, nofun, nofun, nofun⟩,
      fun _ => nofun⟩

/-- Where no channel is handed in twice, no write fails and no upgrade is ended while it
holds its channel, a paused registered channel can still be resumed: its upgrade is in
progress with a channel parked, and SAFE_TO_CLOSE resumes it. -/
theorem paused_channel_can_resume {env : Env} {s : World}
    (h : ReachedBy env (FinishesHeld env) s) (hn : (handedIn s.trace).Nodup)
    (hok : ∀ x ∈ s.trace, x.isFailed = false) {e : String} {c : ChannelId}
    (hc : s.getChannelForEndpoint e = some c) (hp : (s.channels c).paused = true)
    (hcl : (s.channels c).closed = false) :
    e ∈ s.inProgressUpgrades ∧ e ∈ s.previousEndpointChannels ∧
      ∀ fuel frame info, s.client.isConnectedToEndpoint e = true →
        eventOf frame = some (.safeToClosePriorChannel, info) →
        ∃ t, s.onIncomingFrame env fuel frame e = .ok t ∧ t.getChannelForEndpoint e = some c ∧
          (t.channels c).paused = false := by
  obtain ⟨hin, hparked⟩ := awake h hn hok e ⟨c, hc, hp, hcl⟩
  obtain ⟨prev, hprev⟩ := Option.ne_none_iff_exists'.mp hparked
  have hin : e ∈ s.inProgressUpgrades := hin
  refine ⟨hin, HashMap.mem_of_lookup hprev, fun fuel frame info hconn hev => ?_⟩
  have hcomp := processSafeToClosePriorChannelEvent_completed env hprev hc
  refine ⟨_, onIncomingFrame_safeToClose hconn hev, ?_⟩
  rw [if_pos hin]
  exact ⟨hcomp.registered, hcomp.resumed⟩

theorem paused_channel_can_resume_in_upgrade :
    "E" ∈ (scenario (upgrade.take 2)).inProgressUpgrades ∧
      "E" ∈ (scenario (upgrade.take 2)).previousEndpointChannels := by
  have hreach : ReachedBy reliable (FinishesHeld reliable) (scenario (upgrade.take 2)) := by
    refine scenario_reached _ ?_
    rintro i hi e ⟨c, hc, hp, -⟩
    have hi' : i < 5 := hi
    have htake : (connect "E" 0 ++ upgrade.take 2).take i = (connect "E" 0 ++ upgrade).take i := by
      match i, hi with
      | 0, _ | 1, _ | 2, _ | 3, _ | 4, _ => rfl
    rw [htake] at hc hp
    rw [upgrade_unpaused hi' hc] at hp
    cases hp
  have h := paused_channel_can_resume (e := "E") (c := 1) hreach (by decide) (by decide)
    (by decide) (by decide) (by decide)
  exact ⟨h.1, h.2.1⟩

/-- An UPGRADE_FAILURE after the exchange, in a frame that passes validation: the registered
channel stays paused and nothing of the upgrade is left that could resume it. -/
theorem paused_channel_wedged :
    ¬ ∀ s, ReachedBy reliable (fun _ op => op.Validated) s →
      (∀ x ∈ s.trace, x.isFailed = false) → ∀ e c,
      s.getChannelForEndpoint e = some c → (s.channels c).paused = true →
      (s.channels c).closed = false →
        e ∈ s.inProgressUpgrades ∧ e ∈ s.previousEndpointChannels := by
  intro h
  have hs := h (scenario (upgrade.take 2 ++
    [.onIncomingFrame (forBwuFailure (upgradePathInfoForMedium .wifiLan)) "E"]))
    (scenario_validated _ (by decide)) (by decide) "E" 1 (by decide) (by decide) (by decide)
  revert hs
  decide

end World

end Nearby.Bwu
