import Nearby.Bwu.Termination
import Nearby.Bwu.Timers
import Nearby.Lib.Capped

/-! The delays of an endpoint's retries, one after the other: each is computed from the last, and
in a row they follow a closed form until the endpoint's backoff is reset. -/

namespace Nearby.Bwu

open Proto Lib

namespace BwuConfig

/-- The delay of the `k`-th retry in a row, counted from 1. -/
def backoff (config : BwuConfig) (k : Nat) : Duration :=
  if k = 1 then config.bandwidthUpgradeRetryDelay
  else if config.useExpBackoffInBwuRetry then
    min (config.bandwidthUpgradeRetryDelay * 2 ^ (k - 1)) config.bandwidthUpgradeRetryMaxDelay
  else min (config.bandwidthUpgradeRetryDelay * k) config.bandwidthUpgradeRetryMaxDelay

/-- No delay overflows when it is doubled. -/
def Fits (config : BwuConfig) : Prop :=
  2 * max config.bandwidthUpgradeRetryDelay config.bandwidthUpgradeRetryMaxDelay ≤ Duration.max

/-- The delay after `last`, before it is cut off at the maximum. -/
def grown (config : BwuConfig) (last : Duration) : Duration :=
  if config.useExpBackoffInBwuRetry then last * 2 else last + config.bandwidthUpgradeRetryDelay

section

variable (config : BwuConfig)

theorem le_grown (d : Duration) : d ≤ config.grown d := by
  rw [grown]
  split
  · exact Nat.le_mul_of_pos_right d Nat.two_pos
  · exact Nat.le_add_right d _

theorem grown_mono : Monotone config.grown := by
  intro d d' h
  rw [grown, grown]
  split
  · exact Nat.mul_le_mul_right 2 h
  · exact Nat.add_le_add_right h _

theorem grown_iterate (n : Nat) :
    config.grown^[n] config.bandwidthUpgradeRetryDelay =
      if config.useExpBackoffInBwuRetry then config.bandwidthUpgradeRetryDelay * 2 ^ n
      else config.bandwidthUpgradeRetryDelay * (n + 1) := by
  induction n with
  | zero => simp
  | succ n ih =>
    rw [Function.iterate_succ_apply', ih, grown]
    split
    · rw [Nat.pow_succ, Nat.mul_assoc]
    · rw [Nat.mul_add_one _ (n + 1)]

theorem backoff_succ (n : Nat) : config.backoff (n + 1) =
    (capped config.grown config.bandwidthUpgradeRetryMaxDelay)^[n]
      config.bandwidthUpgradeRetryDelay := by
  cases n with
  | zero => rfl
  | succ n =>
    rw [capped_iterate config.grown_mono (config.le_grown _), grown_iterate, backoff,
      if_neg (by omega)]
    split <;> rfl

theorem backoff_grown (n : Nat) : config.backoff (n + 2) =
    min (config.grown (config.backoff (n + 1))) config.bandwidthUpgradeRetryMaxDelay := by
  rw [backoff_succ, Function.iterate_succ_apply', ← backoff_succ]
  rfl

variable {config}

theorem Fits.grown_le (h : config.Fits) (n : Nat) :
    config.grown (config.backoff (n + 1)) ≤ Duration.max := by
  have hle := capped_iterate_le config.grown config.bandwidthUpgradeRetryMaxDelay n
    config.bandwidthUpgradeRetryDelay
  rw [← backoff_succ] at hle
  refine le_trans ?_ h
  rw [grown, Nat.two_mul]
  split
  · rw [Nat.mul_two]
    exact Nat.add_le_add hle hle
  · exact Nat.add_le_add hle (le_max_left _ _)

theorem Fits.resolve (h : config.Fits) : config.resolve.Fits := by
  have hmax : 600 * 10 ^ 9 ≤ Duration.max := by decide
  unfold Fits BwuConfig.resolve Duration.ofSecs at *
  unfold Duration at *
  dsimp only
  split_ifs <;> omega

end

def delays (config : BwuConfig) (n : Nat) : List Duration :=
  (List.range n).map fun k => config.backoff (k + 1)

theorem delays_succ (config : BwuConfig) (n : Nat) :
    config.delays (n + 1) = config.delays n ++ [config.backoff (n + 1)] := by
  rw [delays, List.range_succ, List.map_append]
  rfl

end BwuConfig

def Op.resets (e : String) : Op → Bool
  | .onEndpointDisconnect _ e' => e' = e
  | .shutdown => true
  | _ => false

namespace World

def delaysIn (e : String) (new : List Event) : List Duration :=
  (new.filterMap (Event.retryOf e)).reverse

def eventsSince (s t : World) : List Event := t.trace.take (t.trace.length - s.trace.length)

/-- One operation, with the delays of the retries of `e` scheduled since the last reset. -/
def Logged (env : Env) (e : String) (x : World × List Duration) (op : Op)
    (y : World × List Duration) : Prop :=
  Step env x.1 op y.1 ∧
    y.2 = if op.resets e then [] else x.2 ++ delaysIn e (eventsSince x.1 y.1)

structure Paced (e : String) (s : World) (ds : List Duration) : Prop where
  fits : s.config.Fits
  closed : ds = s.config.delays ds.length
  delay : s.retryDelays.lookup e = ds.getLast?
  pending : s.pendingRetryDelay e = none ∨ s.pendingRetryDelay e = ds.getLast?

def Continues (e : String) (s t : World) : Prop :=
  ∃ new, t.trace = new ++ s.trace ∧ ∀ {ds}, Paced e s ds → Paced e t (ds ++ delaysIn e new)

section

variable {env : Env} {s t v : World} {e e' : String} {ds : List Duration}

theorem eventsSince_of_append {new : List Event} (h : t.trace = new ++ s.trace) :
    eventsSince s t = new := by
  rw [eventsSince, h, List.length_append, Nat.add_sub_cancel, List.take_left]

theorem delaysIn_append (e : String) (new tr : List Event) :
    delaysIn e (new ++ tr) = delaysIn e tr ++ delaysIn e new := by
  rw [delaysIn, List.filterMap_append, List.reverse_append]
  rfl

theorem delaysIn_of_lastDelay {new : List Event} (h : lastDelay e new = none) :
    delaysIn e new = [] := by
  rw [delaysIn, List.filterMap_eq_nil_iff.mpr (List.findSome?_eq_none_iff.mp h)]
  rfl

/-! ### One delay after the other -/

theorem Paced.next (h : Paced e s ds) :
    s.calculateNextRetryDelay e = some (s.config.backoff (ds.length + 1)) := by
  have hdelay := h.delay
  rw [h.closed] at hdelay
  rw [calculateNextRetryDelay, hdelay]
  cases ds.length with
  | zero => rfl
  | succ n =>
    have hfits : Duration.checked (s.config.grown (s.config.backoff (n + 1))) =
        some (s.config.grown (s.config.backoff (n + 1))) := if_pos (h.fits.grown_le n)
    rw [BwuConfig.delays_succ, List.getLast?_concat, BwuConfig.backoff_grown]
    exact congrArg (Option.map _) hfits

theorem Continues.trans (h : Continues e s t) (h' : Continues e t v) : Continues e s v := by
  obtain ⟨new, hnew, hlog⟩ := h
  obtain ⟨new', hnew', hlog'⟩ := h'
  refine ⟨new' ++ new, by rw [hnew', hnew, List.append_assoc], fun {ds} hds => ?_⟩
  rw [delaysIn_append, ← List.append_assoc]
  exact hlog' (hlog hds)

theorem Steady.paced (h : Steady e s t) (hds : Paced e s ds) : Paced e t ds where
  fits := h.config.symm ▸ hds.fits
  closed := h.config.symm ▸ hds.closed
  delay := h.delay.trans hds.delay
  pending := by
    obtain ⟨_, -, -, hnone | hsame⟩ := h.silent
    · exact .inl hnone
    · rw [hsame]
      exact hds.pending

theorem Steady.continues (h : Steady e s t) : Continues e s t := by
  obtain ⟨new, hnew, hlast, -⟩ := h.silent
  refine ⟨new, hnew, fun {ds} hds => ?_⟩
  rw [delaysIn_of_lastDelay hlast, List.append_nil]
  exact h.paced hds

theorem Paced.snoc (h : Paced e s ds) : ds ++ [s.config.backoff (ds.length + 1)] =
    s.config.delays (ds ++ [s.config.backoff (ds.length + 1)]).length := by
  rw [List.length_append, List.length_singleton, BwuConfig.delays_succ, ← h.closed]

theorem continues_retryUpgradesAfterDelay (h : s.retryUpgradesAfterDelay e = .ok t) :
    Continues e s t := by
  obtain ⟨delay, hnext, rfl⟩ := retryUpgradesAfterDelay_next h
  refine ⟨[.retryScheduled e delay], rfl, fun {ds} hds => ?_⟩
  have hdelays : delaysIn e [.retryScheduled e delay] = [delay] := by
    simp [delaysIn, Event.retryOf]
  obtain rfl : s.config.backoff (ds.length + 1) = delay :=
    Option.some.inj (hds.next.symm.trans hnext)
  rw [hdelays]
  refine ⟨hds.fits, hds.snoc, ?_, .inr ?_⟩
  · rw [List.getLast?_concat]
    exact AList.lookup_insert _
  · rw [List.getLast?_concat]
    exact AList.lookup_insert _

/-! ### Operations -/

theorem Step.retry_rule {R : World → World → Prop} (trans : ∀ {s t v}, R s t → R t v → R s v)
    (steady : ∀ {s t}, Steady e s t → R s t)
    (retry : ∀ {s t}, s.retryUpgradesAfterDelay e = .ok t → R s t) {op : Op}
    (hst : Step env s op t) (hop : ¬ op.resets e) : R s t := by
  have hst' := hst
  obtain ⟨fuel, hst⟩ := hst
  cases op with
  | initiateBwuForEndpoint e' m =>
    exact (initiateBwuForEndpoint_moves fuel hst).retry_rule trans steady retry
  | onIncomingFrame frame e' =>
    rcases (onIncomingFrame_dispatched hst).steady_or e with hs | ⟨info, -, -, hst⟩
    · exact steady hs
    · have hleave := steady ((aside_leaveInProgress s e').steady e)
      exact trans hleave ((processUpgradeFailureEvent_moves hst).retry_rule trans steady retry)
  | onIncomingConnection c =>
    cases hst
    exact steady (steady_onIncomingConnection env s e c)
  | fireRetryAlarm e' => exact (fireRetryAlarm_moves hst).retry_rule trans steady retry
  | onEndpointDisconnect u e' =>
    have hne : e ≠ e' := fun he => hop (decide_eq_true he.symm)
    have hother := (hst'.actions (.onEndpointDisconnect u)).untouched hne
    cases hst
    exact steady ⟨hst'.config_eq, hother.delay, silent_onEndpointDisconnect s e u e'⟩
  | shutdown => exact absurd rfl hop
  | registerChannelForEndpoint e' c =>
    cases hst
    exact steady ⟨rfl, rfl, silent_emit _ rfl⟩
  | resetUpgradeForEndpoint e' =>
    cases hst
    exact steady ((aside_leaveInProgress s e').steady e)
  | onConnectionInitiated | localEndpointAcceptedConnection
  | remoteEndpointAcceptedConnection | onConnectionAccepted | onDisconnected | setUpgradeMediums
  | unregisterChannelForEndpoint | closeChannel | enableEncryption =>
    cases hst
    exact steady ⟨rfl, rfl, .refl e s⟩

theorem Step.continues {op : Op} (hst : Step env s op t) (hop : ¬ op.resets e) :
    Continues e s t :=
  hst.retry_rule Continues.trans Steady.continues continues_retryUpgradesAfterDelay hop

theorem Step.reset {op : Op} (hst : Step env s op t) (hop : op.resets e) :
    Silent e s t ∧ t.retryDelays.lookup e = none ∧ t.pendingRetryDelay e = none := by
  obtain ⟨fuel, hst⟩ := hst
  cases op with
  | onEndpointDisconnect u e' =>
    cases hst
    refine ⟨silent_onEndpointDisconnect s e u e', ?_⟩
    obtain rfl : e' = e := of_decide_eq_true hop
    obtain ⟨v, hv, ht⟩ := onEndpointDisconnect_cleared s u e'
    rw [ht]
    split
    case isTrue =>
      rw [revertBwuMediumForEndpoint_frame]
      exact ⟨hv.delay, hv.alarm⟩
    case isFalse => exact ⟨hv.delay, hv.alarm⟩
  | shutdown =>
    cases hst
    refine ⟨silent_shutdown s e, ?_⟩
    rw [shutdown_frame]
    exact ⟨rfl, rfl⟩
  | _ => cases hop

theorem Logged.paced {op : Op} {x y : World × List Duration} (h : Logged env e x op y)
    (hx : Paced e x.1 x.2) : Paced e y.1 y.2 := by
  obtain ⟨hst, hlog⟩ := h
  rw [hlog]
  split
  case isTrue hop =>
    obtain ⟨-, hdelay, halarm⟩ := hst.reset hop
    exact ⟨hst.config_eq.symm ▸ hx.fits, rfl, hdelay, .inl halarm⟩
  case isFalse hop =>
    obtain ⟨new, hnew, hcontinues⟩ := hst.continues hop
    rw [eventsSince_of_append hnew]
    exact hcontinues hx

theorem Paced.kth (h : Paced e s ds) {k : Nat} {d : Duration} (hk : ds[k]? = some d) :
    d = s.config.backoff (k + 1) := by
  obtain ⟨hlt, -⟩ := List.getElem?_eq_some_iff.mp hk
  rw [h.closed, BwuConfig.delays, List.getElem?_map, List.getElem?_range hlt] at hk
  exact (Option.some.inj hk).symm

end

/-- In every run the `k`-th retry of `e` since the last reset has the `k`-th delay, a retry that is
pending has the delay of the latest, and the next delay can be computed. -/
theorem backoff_closed_form {env : Env} {config : BwuConfig} {mediums : List Medium}
    {id e : String} {s : World} {ds : List Duration}
    (hfits : 2 * max config.bandwidthUpgradeRetryDelay config.bandwidthUpgradeRetryMaxDelay ≤
      Duration.max)
    (h : Reach (Logged env e) (fun _ _ => True) (World.new config mediums id, []) (s, ds)) :
    (∀ k d, ds[k]? = some d → d = config.resolve.backoff (k + 1)) ∧
      (∀ d, s.pendingRetryDelay e = some d → ds.getLast? = some d) ∧
      s.calculateNextRetryDelay e = some (config.resolve.backoff (ds.length + 1)) := by
  have hfits' : config.resolve.Fits := BwuConfig.Fits.resolve hfits
  obtain ⟨hconfig, hpaced⟩ : s.config = config.resolve ∧ Paced e s ds := by
    refine h.invariant (fun x => x.1.config = config.resolve ∧ Paced e x.1 x.2) ?_ ?_
    · exact ⟨rfl, hfits', rfl, rfl, .inl rfl⟩
    · rintro x op y ⟨hconfig, hx⟩ - hxy
      exact ⟨hxy.1.config_eq.trans hconfig, hxy.paced hx⟩
  rw [← hconfig]
  refine ⟨fun k d => hpaced.kth, fun d hd => ?_, hpaced.next⟩
  rcases hpaced.pending with hnone | hlast
  · rw [hnone] at hd
    cases hd
  · rw [← hlast, hd]

def registered : World := (World.new {} [.wifiLan] "L").registerChannelForEndpoint "E" 0

theorem backoff_closed_form_exponential :
    ∃ s, Reach (Logged unable "E") (fun _ _ => True) (World.new {} [.wifiLan] "L", [])
        (s, [Duration.ofSecs 3, Duration.ofSecs 6]) ∧
      Duration.ofSecs 6 = BwuConfig.backoff (BwuConfig.resolve {}) 2 := by
  have h₁ : Reach (Logged unable "E") (fun _ _ => True) (World.new {} [.wifiLan] "L", [])
      (registered, []) :=
    .single ⟨.registerChannelForEndpoint "E" 0, trivial, ⟨0, rfl⟩, rfl⟩
  have h₂ : ∃ s, Reach (Logged unable "E") (fun _ _ => True) (World.new {} [.wifiLan] "L", [])
      (s, [Duration.ofSecs 3, Duration.ofSecs 6]) := by
    have hfirst := fun u hu => h₁.snoc (a := .initiateBwuForEndpoint "E" .wifiLan)
      (u := (u, [Duration.ofSecs 3])) trivial hu
    refine ⟨_, (hfirst _ ⟨⟨2, rfl⟩, ?_⟩).snoc (a := .initiateBwuForEndpoint "E" .wifiLan) trivial
      ⟨⟨2, rfl⟩, ?_⟩⟩
    · decide
    · decide
  obtain ⟨s, h⟩ := h₂
  exact ⟨s, h, (backoff_closed_form (by decide) h).1 1 _ rfl⟩

end World

end Nearby.Bwu
