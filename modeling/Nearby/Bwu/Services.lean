import Nearby.Bwu.Join
import Nearby.Bwu.Protection
import Nearby.Bwu.WifiLan

/-! The medium handlers under a running manager.  `BaseBwuHandler` counts endpoints and the medium
handler keeps sockets and access points; what the two have on their books is the same services,
whatever the manager is asked to do. -/

namespace Nearby.Bwu

open Proto Lib Relation

def Event.SetsUp (m : Medium) : Event → Prop
  | .handleInitialize m' _ _ _ => m' = m
  | .handleRevert m' _ => m' = m
  | _ => False

theorem Event.Exchanges.not_setsUp {x : Event} (h : x.Exchanges) (m : Medium) : ¬ x.SetsUp m := by
  cases x <;> first | exact id | exact h.elim

/-- What the medium handler of `m` promises about the services it listens for, read off the calls
it gets: an offer takes a listener, and a revert ends it. -/
structure Listens (env : Env) (m : Medium) (listens : List Event → String → Prop) : Prop where
  new : ∀ u, ¬ listens [] u
  other : ∀ {x : Event} (tr u), ¬ x.SetsUp m → (listens (x :: tr) u ↔ listens tr u)
  asked : ∀ tr u e v,
    listens (.handleInitialize m u e (env.handleInitialize tr m u e) :: tr) v ↔
      listens tr v ∨ (v = u ∧ env.handleInitialize tr m u e ≠ [])
  reverted : ∀ tr u v, listens (.handleRevert m u :: tr) v ↔ listens tr v ∧ v ≠ u

theorem Listens.adds {env : Env} {m : Medium} {listens : List Event → String → Prop}
    (hl : Listens env m listens) {tr tr' : List Event} (h : Adds (¬ ·.SetsUp m) tr tr')
    (u : String) : listens tr' u ↔ listens tr u := by
  obtain ⟨new, rfl, hnew⟩ := h
  induction new with
  | nil => exact Iff.rfl
  | cons x new ih =>
    obtain ⟨hx, hnew⟩ := List.forall_mem_cons.mp hnew
    exact (hl.other _ u hx).trans (ih hnew)

theorem Listens.reverts {env : Env} {m : Medium} {listens : List Event → String → Prop}
    (hl : Listens env m listens) (us : List String) (tr : List Event)
    (u : String) :
    listens ((us.map (.handleRevert m)).reverse ++ tr) u ↔ listens tr u ∧ u ∉ us := by
  induction us generalizing tr with
  | nil => simp
  | cons v us ih =>
    rw [List.map_cons, List.reverse_cons, List.append_assoc, List.singleton_append, ih,
      hl.reverted, List.mem_cons, not_or, and_assoc]

theorem Listens.of_eq {env env' : Env} {m : Medium} {listens : List Event → String → Prop}
    (h : Listens env m listens)
    (heq : ∀ tr u e, env'.handleInitialize tr m u e = env.handleInitialize tr m u e) :
    Listens env' m listens where
  new := h.new
  other := h.other
  asked tr u e v := by
    rw [heq]
    exact h.asked tr u e v
  reverted := h.reverted

namespace World

def Serves (s : World) (m : Medium) (u : String) : Prop := ∃ e, s.TracksAt m u e

/-- A responder's revert goes past the active sets, to the mediums that join an access point and
under an id that is not wrapped. -/
def Counted (m : Medium) (u : String) : Prop :=
  isInitiatorUpgradeServiceId u = true ∨ ¬ (m = .wifiHotspot ∨ m = .wifiDirect)

structure InStep (m : Medium) (listens : List Event → String → Prop) (s : World) : Prop where
  serves : ∀ {u}, listens s.trace u → s.Serves m u
  listens : ∀ {u}, Counted m u → s.Serves m u → listens s.trace u

structure Apart (m : Medium) (s t : World) : Prop where
  handlers : t.handlers = s.handlers
  calls : Adds (¬ ·.SetsUp m) s.trace t.trace

section

variable {env : Env} {m : Medium} {s t v : World} {e : String}

theorem Apart.refl (m : Medium) (s : World) : Apart m s s := ⟨rfl, .refl _ _⟩

theorem Apart.trans (h : Apart m s t) (h' : Apart m t v) : Apart m s v :=
  ⟨h'.handlers.trans h.handlers, Adds.trans h.calls h'.calls⟩

theorem apart_emit (s : World) {x : Event} (hx : ¬ x.SetsUp m) : Apart m s (s.emit x) :=
  ⟨rfl, .one _ hx⟩

theorem apart_exchange (h : t.handlers = s.handlers) (hx : Exchange s t) : Apart m s t :=
  ⟨h, Adds.mono hx fun _ hx => hx.not_setsUp m⟩

theorem Prelude.apart (h : Prelude e s t) : Apart m s t := by
  cases h with
  | initiate => exact apart_emit s id
  | setMedium m' =>
    rw [setBwuMediumForEndpoint_frame]
    exact ⟨rfl, .refl _ _⟩
  | cancel => exact ⟨rfl, .refl _ _⟩
  | retry ht =>
    obtain ⟨delay, rfl⟩ := retryUpgradesAfterDelay_ok ht
    exact ⟨rfl, .one _ id⟩

theorem apart_adopted (s : World) (e : String) (m' : Medium) : Apart m s (s.adopted e m') := by
  rw [adopted_frame]
  exact ⟨rfl, .refl _ _⟩

theorem apart_dialUpgraded (env : Env) (s : World) (e : String) (info : UpgradePathInfo) :
    Apart m s (s.dialUpgraded env e info).2 := by
  refine ⟨(aside_dialUpgraded env s e info).1.handlers, ?_⟩
  simp only [dialUpgraded]
  split
  case isTrue => exact .refl _ _
  case isFalse =>
    split
    case isTrue => exact .refl _ _
    case isFalse =>
      split
      case h_1 => exact .refl _ _
      case h_2 c _ =>
        generalize (if (s.channels c).localEndpointId = "" then _ else _) = lastLocal
        split
        case h_1 => exact ⟨[_], rfl, by simp [Event.SetsUp]⟩
        case h_2 =>
          split
          case isTrue => exact ⟨[_, _, _], rfl, by simp [Event.SetsUp]⟩
          case isFalse => exact ⟨[_, _], rfl, by simp [Event.SetsUp]⟩

theorem Refused.apart {info : UpgradePathInfo} (h : Refused env s e info v) : Apart m s v := by
  have hdial : Apart m s ((s.adopted e (upiMedium info)).dialUpgraded env e info).2 :=
    (apart_adopted s e _).trans (apart_dialUpgraded env _ e info)
  cases h with
  | stranger | barred => exact .refl m s
  | mismatched => exact apart_adopted s e _
  | undialled _ _ hd => rwa [hd] at hdial
  | unacknowledged _ _ hd =>
    rw [hd] at hdial
    exact hdial.trans ⟨rfl, .cons id (.one _ id)⟩

theorem TakenUp.apart {info : UpgradePathInfo} {c : ChannelId} (h : TakenUp env s e info c v) :
    Apart m s v := by
  have hdial : Apart m s ((s.adopted e (upiMedium info)).dialUpgraded env e info).2 :=
    (apart_adopted s e _).trans (apart_dialUpgraded env _ e info)
  cases h with
  | acknowledged _ _ hd =>
    rw [hd] at hdial
    exact hdial.trans (apart_emit _ id)
  | unasked _ _ hd => rwa [hd] at hdial

theorem apart_onIncomingConnection (env : Env) (s : World) (c : ChannelId) :
    Apart m s (s.onIncomingConnection env c) := by
  refine apart_exchange ?_ (exchange_onIncomingConnection env s c)
  rcases onIncomingConnection_aside env s c with ha | ⟨_, -, ha⟩
  · exact ha.handlers
  · exact ha.handlers

end

section

variable {env : Env} {m : Medium} {listens : List Event → String → Prop} {s t v : World}
  {u e : String}

theorem serves_congr (h : t.handlers = s.handlers) (m : Medium) (u : String) :
    t.Serves m u ↔ s.Serves m u :=
  exists_congr fun e => tracksAt_congr h m u e

theorem serves_of_lookup {h : BaseBwuHandler} (hl : s.handlers.lookup m = some h) :
    s.Serves m u ↔ ∃ e, h.Tracks u e :=
  exists_congr fun _ => tracksAt_iff hl

theorem serves_insert {m' : Medium} {h : BaseBwuHandler}
    (ht : t.handlers = s.handlers.insert m' h) :
    t.Serves m u ↔ if m = m' then ∃ e, h.Tracks u e else s.Serves m u := by
  rw [Serves, exists_congr fun e => tracksAt_insert ht m u e]
  split <;> rfl

theorem serves_recordActive {h : BaseBwuHandler} {v : String} (hl : s.handlers.lookup m = some h)
    (ht : t.handlers = s.handlers.insert m (h.recordActive v e)) :
    t.Serves m u ↔ s.Serves m u ∨ u = v := by
  rw [serves_insert ht, if_pos rfl, serves_of_lookup hl]
  simp only [BaseBwuHandler.tracks_recordActive, exists_or, exists_and_left, exists_eq, and_true]
  exact or_comm

theorem InStep.of_iff (h : s.InStep m listens)
    (hlistens : ∀ u, listens t.trace u ↔ listens s.trace u)
    (hserves : ∀ u, t.Serves m u ↔ s.Serves m u) : t.InStep m listens where
  serves hu := (hserves _).mpr (h.serves ((hlistens _).mp hu))
  listens hc hu := (hlistens _).mpr (h.listens hc ((hserves _).mp hu))

theorem InStep.apart (h : s.InStep m listens) (hl : Listens env m listens) (ha : Apart m s t) :
    t.InStep m listens :=
  h.of_iff (hl.adds ha.calls) (serves_congr ha.handlers m)

theorem InStep.asked (h : s.InStep m listens) (hl : Listens env m listens) (m' : Medium)
    (serviceId e : String) :
    (s.initializeUpgradedMediumForEndpoint env m' serviceId e).2.InStep m listens := by
  rw [initializeUpgradedMediumForEndpoint]
  split
  case h_1 => exact h
  case h_2 hd hm' =>
    dsimp only
    generalize wrapInitiatorUpgradeServiceId serviceId = u
    by_cases hm : m' = m
    case neg =>
      have hother : ¬ Event.SetsUp m
          (.handleInitialize m' u e (env.handleInitialize s.trace m' u e)) := hm
      split
      case isTrue => exact h.apart hl (apart_emit s hother)
      case isFalse =>
        refine h.of_iff (fun v => hl.other _ v hother) fun v => ?_
        exact (serves_insert (s := s) rfl).trans (by rw [if_neg (Ne.symm hm)])
    case pos =>
      subst hm
      have hasked := hl.asked s.trace u e
      split
      case isTrue hempty =>
        refine h.of_iff (fun v => ?_) fun v => Iff.rfl
        exact (hasked v).trans (or_iff_left fun hnew => hnew.2 hempty)
      case isFalse hbytes =>
        refine ⟨fun {v} hv => (serves_recordActive hm' rfl).mpr ?_,
          fun {v} hc hv => (hasked v).mpr ?_⟩
        · exact ((hasked v).mp hv).imp h.serves And.left
        · exact ((serves_recordActive hm' rfl).mp hv).imp (h.listens hc) fun hvu => ⟨hvu, hbytes⟩

theorem InStep.revert (h : s.InStep m listens) (hl : Listens env m listens) {m' : Medium}
    {f : BaseBwuHandler → List String × BaseBwuHandler}
    (hkept : ∀ hd u, (∃ e, hd.Tracks u e) → u ∉ (f hd).1 → ∃ e, (f hd).2.Tracks u e)
    (hdropped : ∀ hd u, Counted m' u → (∃ e, (f hd).2.Tracks u e) →
      (∃ e, hd.Tracks u e) ∧ u ∉ (f hd).1) :
    (s.revertHandler m' f).InStep m listens := by
  rcases revertHandler_eq s m' f with hs | ⟨hd, hlookup, hs⟩
  · rwa [hs]
  · rw [hs]
    by_cases hm : m = m'
    case neg =>
      refine h.of_iff (hl.adds ⟨_, rfl, ?_⟩) fun u => ?_
      · intro x hx
        obtain ⟨v, -, rfl⟩ := List.mem_map.mp (List.mem_reverse.mp hx)
        exact Ne.symm hm
      · rw [serves_insert rfl, if_neg hm]
    case pos =>
      subst hm
      refine ⟨fun {u} hu => ?_, fun {u} hc hu => (hl.reverts _ _ u).mpr ?_⟩
      · rw [serves_insert rfl, if_pos rfl]
        obtain ⟨hu, hnot⟩ := (hl.reverts _ _ u).mp hu
        exact hkept hd u ((serves_of_lookup hlookup).mp (h.serves hu)) hnot
      · rw [serves_insert rfl, if_pos rfl] at hu
        obtain ⟨hu, hnot⟩ := hdropped hd u hc hu
        exact ⟨h.listens hc ((serves_of_lookup hlookup).mpr hu), hnot⟩

theorem InStep.revertInitiatorState (h : s.InStep m listens) (hl : Listens env m listens)
    (m' : Medium) : (s.revertInitiatorState m').InStep m listens := by
  refine (h.apart hl (apart_emit s id)).revert hl (fun hd u hu hnot => ?_) fun hd u _ hu => ?_
  · obtain ⟨_, ids, hids, -⟩ := hu
    exact absurd (AList.mem_keys.mpr (HashMap.mem_of_lookup hids)) hnot
  · obtain ⟨_, _, hnone, -⟩ := hu
    cases hnone

theorem InStep.revertInitiatorStateForEndpoint (h : s.InStep m listens)
    (hl : Listens env m listens) (m' : Medium) (v e : String) :
    (s.revertHandler m' (·.revertInitiatorStateForEndpoint v e)).InStep m listens := by
  refine h.revert hl (fun hd u hu hnot => ?_) fun hd u _ hu => ?_
  · obtain ⟨e', ht⟩ := hu
    simp only [BaseBwuHandler.tracks_revertInitiatorStateForEndpoint]
    by_cases hsame : isInitiatorUpgradeServiceId v = true ∧ u = v ∧ e' = e
    case neg => exact ⟨e', ht, hsame⟩
    case pos =>
      obtain ⟨hv, rfl, rfl⟩ := hsame
      rcases hd.reverted_revertInitiatorStateForEndpoint u e' with ⟨hr, -⟩ | ⟨-, hmore⟩
      · simp [hr] at hnot
      · -- `e` goes, and leaves another one behind.
        have hleft : ∃ e'', hd.Tracks u e'' ∧ e'' ≠ e' := by
          by_contra hnone
          push Not at hnone
          exact hmore ⟨hv, ht, hnone⟩
        obtain ⟨e'', ht', hne⟩ := hleft
        exact ⟨e'', ht', fun hsame => hne hsame.2.2⟩
  · simp only [BaseBwuHandler.tracks_revertInitiatorStateForEndpoint] at hu
    obtain ⟨e', ht, hne⟩ := hu
    refine ⟨⟨e', ht⟩, fun hu => ?_⟩
    rcases hd.reverted_revertInitiatorStateForEndpoint v e with ⟨hr, hv, -, honly⟩ | ⟨hr, -⟩
    · rw [hr, List.mem_singleton] at hu
      subst hu
      exact hne ⟨hv, rfl, honly e' ht⟩
    · simp [hr] at hu

theorem InStep.revertResponderState (h : s.InStep m listens) (hl : Listens env m listens)
    {m' : Medium} (hm' : m' = .wifiHotspot ∨ m' = .wifiDirect) {v : String}
    (hv : isInitiatorUpgradeServiceId v ≠ true) :
    (s.revertHandler m' (·.revertResponderState v)).InStep m listens := by
  refine h.revert hl (fun _ _ hu _ => hu) fun hd u hc hu => ⟨hu, ?_⟩
  rw [BaseBwuHandler.revertResponderState, List.mem_singleton]
  rintro rfl
  rcases hc with hu | hm
  · exact hv hu
  · exact hm hm'

theorem InStep.revertBwuMediumForEndpoint (h : s.InStep m listens) (hl : Listens env m listens)
    (v e : String) : (s.revertBwuMediumForEndpoint v e).InStep m listens := by
  have hcoarse : Apart m s { s with medium := .unknownMedium } := ⟨rfl, .refl _ _⟩
  have hfine : Apart m s { s with endpointIdToBwuMedium := s.endpointIdToBwuMedium.erase e } :=
    ⟨rfl, .refl _ _⟩
  simp only [World.revertBwuMediumForEndpoint]
  split
  case isTrue =>
    split
    case isTrue => exact (h.apart hl hcoarse).revertInitiatorState hl _
    case isFalse => exact h.apart hl hcoarse
  case isFalse =>
    split
    case isTrue => exact h.apart hl hfine
    case isFalse =>
      split
      case isTrue hv =>
        split
        case isTrue hm => exact (h.apart hl hfine).revertResponderState hl hm hv
        case isFalse => exact h.apart hl hfine
      case isFalse => exact (h.apart hl hfine).revertInitiatorStateForEndpoint hl _ v e

/-! ### Operations -/

theorem InStep.move (h : s.InStep m listens) (hl : Listens env m listens) (hm : Move env e s t) :
    t.InStep m listens := by
  cases hm with
  | quiet hp => exact h.apart hl hp.apart
  | askHandler m' => exact h.asked hl m' _ e
  | offer => exact h.apart hl (apart_emit s id)
  | enter => exact h.apart hl ⟨rfl, .one _ id⟩
  | revert v => exact h.revertBwuMediumForEndpoint hl v e

theorem InStep.moves (h : s.InStep m listens) (hl : Listens env m listens)
    (hm : Moves env e s t) : t.InStep m listens := by
  induction hm with
  | refl => exact h
  | tail _ hstep ih => exact ih.move hl hstep

theorem InStep.told (h : s.InStep m listens) (hl : Listens env m listens) (e : String)
    (info : UpgradePathInfo) : (s.runUpgradeFailedProtocol env e info).InStep m listens := by
  have htold := runUpgradeFailedProtocol_told env s e info
  generalize s.runUpgradeFailedProtocol env e info = t at htold
  have hwrite : ∀ c, (s.write env (some e) c (.frame (forBwuFailure info))).2.InStep m listens :=
    fun c => h.apart hl (apart_emit s id)
  cases htold with
  | unregistered => exact h
  | @unwritten c => exact (hwrite c).apart hl ⟨rfl, .one _ id⟩
  | @reverted c => exact ((hwrite c).revertBwuMediumForEndpoint hl _ e).apart hl ⟨rfl, .refl _ _⟩
  | @mediumless c => exact (hwrite c).apart hl ⟨rfl, .refl _ _⟩

theorem InStep.handled {fuel : Nat} {frame : OfflineFrame} (h : s.InStep m listens)
    (hl : Listens env m listens) (hh : Handled env fuel s frame e t) : t.InStep m listens := by
  cases hh with
  | ignored => exact h
  | outOfSync =>
    exact h.apart hl
      (apart_exchange (aside_closeOutOfSync s e).handlers (exchange_closeOutOfSync s e))
  | lastWrite =>
    have hmark := h.apart hl (apart_emit s (x := .lastWriteDispatched e) id)
    exact hmark.apart hl (apart_exchange
      (aside_processLastWriteToPriorChannelEvent env _ e).handlers
      (exchange_processLastWriteToPriorChannelEvent env _ e))
  | safeToClose =>
    exact h.apart hl (apart_exchange (aside_processSafeToClosePriorChannelEvent env s e).handlers
      (exchange_processSafeToClosePriorChannelEvent env s e))
  | refused _ hr => exact (h.apart hl hr.apart).told hl e _
  | @takenUp info c v _ ht =>
    have hentered : Apart m v (v.enterInProgress e) := ⟨rfl, .one _ id⟩
    exact ((h.apart hl ht.apart).apart hl hentered).apart hl
      (apart_exchange (aside_runUpgradeProtocol ..).handlers (exchange_runUpgradeProtocol ..))
  | failure _ _ hst =>
    have hleft : Apart m s (s.leaveInProgress e) := ⟨rfl, .refl _ _⟩
    exact (h.apart hl hleft).moves hl (processUpgradeFailureEvent_moves hst)

theorem InStep.onEndpointDisconnect (h : s.InStep m listens) (hl : Listens env m listens)
    (v e : String) : (s.onEndpointDisconnect v e).InStep m listens :=
  onEndpointDisconnect_rule (R := fun s t => s.InStep m listens → t.InStep m listens)
    (fun _ => id) (fun h h' => h' ∘ h) (fun s _ h => h.apart hl (apart_emit s id))
    (fun s h => h.apart hl (apart_exchange (aside_closeParked s e .shutdown).handlers
      (exchange_closeParked s e .shutdown)))
    (fun _ h => h.apart hl ⟨rfl, .refl _ _⟩) (fun _ h => h.apart hl ⟨rfl, .refl _ _⟩)
    (fun _ h => h.apart hl ⟨rfl, .refl _ _⟩) (fun _ h => h.apart hl ⟨rfl, .refl _ _⟩)
    (fun _ u h => h.revertBwuMediumForEndpoint hl u e) s v h

theorem InStep.shutdown (h : s.InStep m listens) (hl : Listens env m listens) :
    s.shutdown.InStep m listens := by
  have hcancel : Apart m s { s with retryUpgradeAlarms := ∅, retryDelays := ∅ } :=
    ⟨rfl, .refl _ _⟩
  have hreverted := foldl_revertInitiatorState
    (R := fun s t => s.InStep m listens → t.InStep m listens) (fun _ => id) (fun h h' => h' ∘ h)
    (fun _ m' h => h.revertInitiatorState hl m') s.handlers.keys _ (h.apart hl hcancel)
  exact hreverted.apart hl ⟨rfl, .refl _ _⟩

theorem InStep.step {op : Op} (h : s.InStep m listens) (hl : Listens env m listens)
    (hst : Step env s op t) : t.InStep m listens := by
  obtain ⟨fuel, hst⟩ := hst
  cases op with
  | initiateBwuForEndpoint e m' => exact h.moves hl (initiateBwuForEndpoint_moves fuel hst)
  | onIncomingFrame frame e => exact h.handled hl (onIncomingFrame_handled hst)
  | onIncomingConnection c => cases hst; exact h.apart hl (apart_onIncomingConnection env s c)
  | fireRetryAlarm e => exact h.moves hl (fireRetryAlarm_moves hst)
  | onEndpointDisconnect v e => cases hst; exact h.onEndpointDisconnect hl v e
  | shutdown => cases hst; exact h.shutdown hl
  | registerChannelForEndpoint e c => cases hst; exact h.apart hl ⟨rfl, .one _ id⟩
  | _ => cases hst; exact h.apart hl ⟨rfl, .refl _ _⟩

theorem ReachedBy.inStep {ok : World → Op → Prop} (h : ReachedBy env ok s)
    (hl : Listens env m listens) : s.InStep m listens := by
  refine h.invariant (InStep m listens) ?_ fun hs _ hst => hs.step hl hst
  intro config mediums id
  refine ⟨fun {u} hu => absurd hu (hl.new u), ?_⟩
  rintro u - ⟨e, ht⟩
  exact absurd ht (not_tracksAt_new config mediums id m u e)

theorem tracksAt_of_revertInitiatorState {m' : Medium}
    (h : (s.revertInitiatorState m').TracksAt m u e) : s.TracksAt m u e ∧ m ≠ m' := by
  rw [World.revertInitiatorState, revertHandler] at h
  split at h
  case h_1 hnone =>
    refine ⟨h, ?_⟩
    rintro rfl
    obtain ⟨hd, hl, -⟩ := h
    cases hnone.symm.trans hl
  case h_2 =>
    rw [emitAll_eq, tracksAt_insert rfl] at h
    split at h
    case isTrue => exact (not_tracks_revertInitiatorState _ _ _ h).elim
    case isFalse hm => exact ⟨h, hm⟩

theorem not_serves_shutdown (s : World) (m : Medium) (u : String) : ¬ s.shutdown.Serves m u := by
  rintro ⟨e, ht⟩
  have hgone : ∀ (ms : List Medium) (v : World),
      (ms.foldl World.revertInitiatorState v).TracksAt m u e → v.TracksAt m u e ∧ m ∉ ms := by
    intro ms
    induction ms with
    | nil => exact fun v hv => ⟨hv, List.not_mem_nil⟩
    | cons m' ms ih =>
      intro v hv
      obtain ⟨hv, hms⟩ := ih _ hv
      obtain ⟨hv, hm'⟩ := tracksAt_of_revertInitiatorState hv
      exact ⟨hv, fun h => (List.mem_cons.mp h).elim hm' hms⟩
  obtain ⟨⟨hd, hl, -⟩, hnot⟩ := hgone _ _ ht
  exact hnot (AList.mem_keys.mpr (HashMap.mem_of_lookup hl))

end

end World

/-! ### The WiFi LAN handler -/

namespace TcpCall

def bound : TcpCall → Option SocketAddr
  | .bind _ result => result
  | _ => none

def stopped : TcpCall → Option SocketAddr
  | .stopListener addr => some addr
  | _ => none

end TcpCall

namespace WifiLanBwuHandler

/-- What the manager's calls come to at the handler of the WiFi LAN medium. -/
def hear (tcp : Tcp) (P : Prost) (h : WifiLanBwuHandler) : Event → WifiLanBwuHandler
  | .handleInitialize .wifiLan u _ _ => (h.handleInitializeUpgradedMediumForEndpoint tcp P u).2
  | .handleRevert .wifiLan u => h.handleRevertInitiatorStateForService u
  | .createUpgraded .wifiLan _ _ info _ => (h.createUpgradedEndpointChannel tcp info).2
  | _ => h

def heard (tcp : Tcp) (P : Prost) (h : WifiLanBwuHandler) : List Event → WifiLanBwuHandler
  | [] => h
  | x :: tr => (heard tcp P h tr).hear tcp P x

inductive Initialized (P : Prost) (h : WifiLanBwuHandler) (u : String) :
    Bytes × WifiLanBwuHandler → Prop
  | reused {addr : SocketAddr} : h.listeners.lookup u = some addr →
      Initialized P h u (P.encode (h.offer addr), h)
  | unbound : u ∉ h.listeners → Initialized P h u ([], h.log (.bind h.bindIp none))
  | bound (addr : SocketAddr) : u ∉ h.listeners →
      Initialized P h u
        (P.encode (h.offer addr),
          { h.log (.bind h.bindIp (some addr)) with listeners := h.listeners.insert u addr })

/-- Every socket that was bound has been stopped since, or is the listener of a service. -/
def Accounted (h : WifiLanBwuHandler) : Prop :=
  (h.calls.filterMap TcpCall.bound).Perm
    (h.calls.filterMap TcpCall.stopped ++ h.listeners.entries.map Sigma.snd)

section

variable {tcp : Tcp} {P : Prost} {h : WifiLanBwuHandler} {u v : String}

theorem handleInitialize_initialized (tcp : Tcp) (P : Prost) (h : WifiLanBwuHandler) (u : String) :
    Initialized P h u (h.handleInitializeUpgradedMediumForEndpoint tcp P u) := by
  rw [handleInitializeUpgradedMediumForEndpoint]
  split
  case h_1 hl => exact .reused hl
  case h_2 hnone =>
    have hnot := AList.lookup_eq_none.mp hnone
    dsimp only
    split
    case h_1 hbind =>
      rw [hbind]
      exact .unbound hnot
    case h_2 addr hbind =>
      rw [hbind]
      exact .bound addr hnot

theorem mem_handleInitialize (hoffer : ∀ addr, P.encode (h.offer addr) ≠ []) (u v : String) :
    v ∈ (h.handleInitializeUpgradedMediumForEndpoint tcp P u).2.listeners ↔
      v ∈ h.listeners ∨
        (v = u ∧ (h.handleInitializeUpgradedMediumForEndpoint tcp P u).1 ≠ []) := by
  have hi := handleInitialize_initialized tcp P h u
  generalize h.handleInitializeUpgradedMediumForEndpoint tcp P u = r at hi
  cases hi with
  | reused hl =>
    refine ⟨.inl, ?_⟩
    rintro (hv | ⟨rfl, -⟩)
    · exact hv
    · exact HashMap.mem_of_lookup hl
  | unbound => simp [log]
  | bound addr hnot => simp [AList.mem_insert, hoffer, or_comm]

theorem mem_handleRevert (h : WifiLanBwuHandler) (u v : String) :
    v ∈ (h.handleRevertInitiatorStateForService u).listeners ↔ v ∈ h.listeners ∧ v ≠ u := by
  rw [handleRevertInitiatorStateForService]
  split
  case h_1 => simp [log, AList.mem_erase, and_comm]
  case h_2 hnone => exact (HashMap.mem_and_ne_iff hnone).symm

theorem createUpgraded_listeners (tcp : Tcp) (h : WifiLanBwuHandler) (info : UpgradePathInfo) :
    (h.createUpgradedEndpointChannel tcp info).2.listeners = h.listeners := by
  rw [createUpgradedEndpointChannel]
  split <;> rfl

theorem accounted_withEndpoint (bindIp advertiseIp : Ipv4Addr) :
    (withEndpoint bindIp advertiseIp).Accounted :=
  List.Perm.refl _

theorem Accounted.handleInitialize (hs : h.Accounted) (u : String) :
    (h.handleInitializeUpgradedMediumForEndpoint tcp P u).2.Accounted := by
  have hi := handleInitialize_initialized tcp P h u
  generalize h.handleInitializeUpgradedMediumForEndpoint tcp P u = r at hi
  cases hi with
  | reused => exact hs
  | unbound => exact hs
  | bound addr hnot => exact HashMap.perm_opened id hs hnot addr

theorem Accounted.handleRevert (hs : h.Accounted) (u : String) :
    (h.handleRevertInitiatorStateForService u).Accounted := by
  rw [handleRevertInitiatorStateForService]
  split
  case h_2 => exact hs
  case h_1 addr hl => exact HashMap.perm_closed id hs hl

theorem Accounted.createUpgraded (hs : h.Accounted) (info : UpgradePathInfo) :
    (h.createUpgradedEndpointChannel tcp info).2.Accounted := by
  rw [createUpgradedEndpointChannel]
  split
  case h_1 => exact hs
  case h_2 => exact hs

theorem Accounted.hear (hs : h.Accounted) (x : Event) : (h.hear tcp P x).Accounted := by
  unfold WifiLanBwuHandler.hear
  split
  case h_1 => exact hs.handleInitialize _
  case h_2 => exact hs.handleRevert _
  case h_3 => exact hs.createUpgraded _
  case h_4 => exact hs

theorem Accounted.heard (hs : h.Accounted) (tr : List Event) : (h.heard tcp P tr).Accounted := by
  induction tr with
  | nil => exact hs
  | cons x tr ih => exact ih.hear x

end

end WifiLanBwuHandler

def Env.withWifiLan (env : Env) (tcp : Tcp) (h : WifiLanBwuHandler) : Env :=
  { env with
    handleInitialize := fun tr m u e =>
      if m = .wifiLan then
        ((h.heard tcp env.prost tr).handleInitializeUpgradedMediumForEndpoint tcp env.prost u).1
      else env.handleInitialize tr m u e
    createUpgraded := fun tr m u e info =>
      if m = .wifiLan then ((h.heard tcp env.prost tr).createUpgradedEndpointChannel tcp info).1
      else env.createUpgraded tr m u e info }

theorem WifiLanBwuHandler.listens {env : Env} {tcp : Tcp} {h : WifiLanBwuHandler}
    (hnew : h.listeners = ∅)
    (hoffer : ∀ addresses, env.prost.encode (forBwuWifiLanPathAvailable addresses) ≠ []) :
    Listens (env.withWifiLan tcp h) .wifiLan
      fun tr u => u ∈ (h.heard tcp env.prost tr).listeners where
  new u := by simp [heard, hnew]
  other {x} tr u hx := by
    rw [heard]
    unfold hear
    split
    case h_1 | h_2 => exact (hx rfl).elim
    case h_3 => rw [createUpgraded_listeners]
    case h_4 => exact Iff.rfl
  asked tr u e v := mem_handleInitialize (fun _ => hoffer _) u v
  reverted tr u v := mem_handleRevert _ u v

/-! ### The hotspot handler -/

namespace SoftApCall

def bound : SoftApCall → Option SocketAddr
  | .bind _ result => result
  | _ => none

def stopped : SoftApCall → Option SocketAddr
  | .stopListener addr => some addr
  | _ => none

end SoftApCall

namespace WifiHotspotBwuHandler

def Accounted (h : WifiHotspotBwuHandler) : Prop :=
  (h.calls.filterMap SoftApCall.bound).Perm
    (h.calls.filterMap SoftApCall.stopped ++ h.listeners.entries.map (·.2.addr))

variable {ap : SoftAp} {P : Prost} {h : WifiHotspotBwuHandler}

theorem mem_handleInitialize (hoffer : ∀ hl, P.encode (offer hl) ≠ []) (u v : String) :
    v ∈ (h.handleInitializeUpgradedMediumForEndpoint ap P u).2.listeners ↔
      v ∈ h.listeners ∨
        (v = u ∧ (h.handleInitializeUpgradedMediumForEndpoint ap P u).1 ≠ []) := by
  have hi := handleInitialize_initialized ap P h u
  generalize h.handleInitializeUpgradedMediumForEndpoint ap P u = r at hi
  cases hi with
  | reused hl =>
    refine ⟨.inl, ?_⟩
    rintro (hv | ⟨rfl, -⟩)
    · exact hv
    · exact HashMap.mem_of_lookup hl
  | unstarted | unbound => simp [log]
  | bound creds addr => simp [AList.mem_insert, hoffer, or_comm]

theorem mem_handleRevert (h : WifiHotspotBwuHandler) (u v : String) :
    v ∈ (h.handleRevertInitiatorStateForService u).listeners ↔ v ∈ h.listeners ∧ v ≠ u := by
  rw [handleRevertInitiatorStateForService]
  split
  case h_1 => simp [log, AList.mem_erase, and_comm]
  case h_2 hnone => exact (HashMap.mem_and_ne_iff hnone).symm

theorem createUpgraded_listeners (ap : SoftAp) (h : WifiHotspotBwuHandler)
    (info : UpgradePathInfo) :
    (h.createUpgradedEndpointChannel ap info).2.listeners = h.listeners := by
  rw [createUpgradedEndpointChannel]
  split
  case h_1 => rfl
  case h_2 =>
    dsimp only
    split <;> rfl

theorem listens {env : Env}
    (hoffer : ∀ creds b, env.prost.encode (forBwuWifiHotspotPathAvailable creds b) ≠ []) :
    Listens (env.withHotspot ap) .wifiHotspot
      fun tr u => u ∈ (heard ap env.prost tr).listeners where
  new u := by simp [heard]
  other {x} tr u hx := by
    rw [heard]
    unfold hear
    split
    case h_1 | h_2 => exact (hx rfl).elim
    case h_3 => rw [createUpgraded_listeners]
    case h_4 | h_5 => exact Iff.rfl
  asked tr u e v := mem_handleInitialize (fun _ => hoffer _ _) u v
  reverted tr u v := mem_handleRevert _ u v

theorem Accounted.handleInitialize (hs : h.Accounted) (u : String) :
    (h.handleInitializeUpgradedMediumForEndpoint ap P u).2.Accounted := by
  have hi := handleInitialize_initialized ap P h u
  generalize h.handleInitializeUpgradedMediumForEndpoint ap P u = r at hi
  cases hi with
  | reused | unstarted | unbound => exact hs
  | bound creds addr hnot => exact HashMap.perm_opened HotspotListener.addr hs hnot ⟨addr, creds⟩

theorem Accounted.handleRevert (hs : h.Accounted) (u : String) :
    (h.handleRevertInitiatorStateForService u).Accounted := by
  rw [handleRevertInitiatorStateForService]
  split
  case h_1 hl hlookup => exact HashMap.perm_closed HotspotListener.addr hs hlookup
  case h_2 => exact hs

theorem Accounted.createUpgraded (hs : h.Accounted) (info : UpgradePathInfo) :
    (h.createUpgradedEndpointChannel ap info).2.Accounted := by
  rw [createUpgradedEndpointChannel]
  split
  case h_1 => exact hs
  case h_2 =>
    dsimp only
    split <;> exact hs

theorem accounted_heard (ap : SoftAp) (P : Prost) (tr : List Event) :
    (heard ap P tr).Accounted := by
  induction tr with
  | nil => exact List.Perm.refl _
  | cons x tr ih =>
    rw [heard]
    unfold hear
    split
    case h_1 u _ _ => exact ih.handleInitialize u
    case h_2 u => exact ih.handleRevert u
    case h_3 info _ => exact ih.createUpgraded info
    case h_4 | h_5 => exact ih

theorem inStep_heard (ap : SoftAp) (P : Prost) (tr : List Event) : (heard ap P tr).InStep := by
  induction tr with
  | nil => exact inStep_new
  | cons x tr ih =>
    rw [heard]
    unfold hear
    split
    case h_1 u _ _ => exact ih.handleInitialize u
    case h_2 u => exact ih.handleRevert u
    case h_3 info _ => exact ih.call (P := P) (.createUpgraded info)
    case h_4 => exact ih.skip (fun _ _ => rfl) fun _ => id
    case h_5 => exact ih

end WifiHotspotBwuHandler

/-! ### Both handlers under one manager -/

/-- `env` with the two handlers of the crate, as they come out of their constructors. -/
def Env.withHandlers (env : Env) (ap : SoftAp) (tcp : Tcp) (bindIp advertiseIp : Ipv4Addr) : Env :=
  (env.withHotspot ap).withWifiLan tcp (.withEndpoint bindIp advertiseIp)

namespace World

def wifiLan (s : World) (P : Prost) (tcp : Tcp) (bindIp advertiseIp : Ipv4Addr) :
    WifiLanBwuHandler :=
  (WifiLanBwuHandler.withEndpoint bindIp advertiseIp).heard tcp P s.trace

def wifiHotspot (s : World) (P : Prost) (ap : SoftAp) : WifiHotspotBwuHandler :=
  WifiHotspotBwuHandler.heard ap P s.trace

section

variable {env : Env} {ap : SoftAp} {tcp : Tcp} {bindIp advertiseIp : Ipv4Addr} {s : World}

theorem Reachable.inStep_wifiLan
    (hoffer : ∀ addresses, env.prost.encode (forBwuWifiLanPathAvailable addresses) ≠ [])
    (h : Reachable (env.withHandlers ap tcp bindIp advertiseIp) s) :
    s.InStep .wifiLan fun tr u =>
      u ∈ ((WifiLanBwuHandler.withEndpoint bindIp advertiseIp).heard tcp env.prost tr).listeners :=
  ReachedBy.inStep h (WifiLanBwuHandler.listens rfl hoffer)

theorem Reachable.inStep_wifiHotspot
    (hoffer : ∀ creds b, env.prost.encode (forBwuWifiHotspotPathAvailable creds b) ≠ [])
    (h : Reachable (env.withHandlers ap tcp bindIp advertiseIp) s) :
    s.InStep .wifiHotspot fun tr u =>
      u ∈ (WifiHotspotBwuHandler.heard ap env.prost tr).listeners :=
  ReachedBy.inStep h ((WifiHotspotBwuHandler.listens hoffer).of_eq fun _ _ _ => rfl)

theorem accounted_wifiLan (s : World) (P : Prost) (tcp : Tcp) (bindIp advertiseIp : Ipv4Addr) :
    (s.wifiLan P tcp bindIp advertiseIp).Accounted :=
  (WifiLanBwuHandler.accounted_withEndpoint bindIp advertiseIp).heard s.trace

theorem running_wifiHotspot (s : World) (P : Prost) (ap : SoftAp) (u : String) :
    WifiHotspotBwuHandler.running u (s.wifiHotspot P ap).calls = true ↔
      u ∈ (s.wifiHotspot P ap).listeners :=
  (WifiHotspotBwuHandler.inStep_heard ap P s.trace).keys u

end

/-- The listeners and access points in use are those of the services that have an active endpoint:
none is left over, and none is missing. -/
theorem listeners_match_endpoints {env : Env} {ap : SoftAp} {tcp : Tcp}
    {bindIp advertiseIp : Ipv4Addr} {s : World}
    (hlan : ∀ addresses, env.prost.encode (forBwuWifiLanPathAvailable addresses) ≠ [])
    (hap : ∀ creds b, env.prost.encode (forBwuWifiHotspotPathAvailable creds b) ≠ [])
    (h : Reachable (env.withHandlers ap tcp bindIp advertiseIp) s) :
    (s.wifiLan env.prost tcp bindIp advertiseIp).Accounted ∧
    (∀ u, u ∈ (s.wifiLan env.prost tcp bindIp advertiseIp).listeners ↔
      ∃ e, s.TracksAt .wifiLan u e) ∧
    (∀ u, isInitiatorUpgradeServiceId u = true →
      (WifiHotspotBwuHandler.running u (s.wifiHotspot env.prost ap).calls = true ↔
        ∃ e, s.TracksAt .wifiHotspot u e)) := by
  have hl := h.inStep_wifiLan hlan
  have ha := h.inStep_wifiHotspot hap
  refine ⟨accounted_wifiLan .., fun u => ⟨hl.serves, hl.listens (.inr (by decide))⟩, fun u hu => ?_⟩
  rw [running_wifiHotspot]
  exact ⟨ha.serves, ha.listens (.inl hu)⟩

/-- Nothing survives a shutdown: every socket that either handler ever bound has been stopped, each
once, and no access point is left running. -/
theorem shutdown_stops_listeners {env : Env} {ap : SoftAp} {tcp : Tcp}
    {bindIp advertiseIp : Ipv4Addr} {s : World}
    (hlan : ∀ addresses, env.prost.encode (forBwuWifiLanPathAvailable addresses) ≠ [])
    (hap : ∀ creds b, env.prost.encode (forBwuWifiHotspotPathAvailable creds b) ≠ [])
    (h : Reachable (env.withHandlers ap tcp bindIp advertiseIp) s) :
    let lan := (s.shutdown.wifiLan env.prost tcp bindIp advertiseIp).calls
    let hotspot := (s.shutdown.wifiHotspot env.prost ap).calls
    (lan.filterMap TcpCall.bound).Perm (lan.filterMap TcpCall.stopped) ∧
    (hotspot.filterMap SoftApCall.bound).Perm (hotspot.filterMap SoftApCall.stopped) ∧
    ∀ u, WifiHotspotBwuHandler.running u hotspot = false := by
  have hdown : Reachable (env.withHandlers ap tcp bindIp advertiseIp) s.shutdown := by
    obtain ⟨config, mediums, id, h⟩ := h
    exact ⟨config, mediums, id, h.tail ⟨.shutdown, trivial, 0, rfl⟩⟩
  have hlanNone : ∀ u, u ∉ (s.shutdown.wifiLan env.prost tcp bindIp advertiseIp).listeners :=
    fun u hu => not_serves_shutdown s .wifiLan u ((hdown.inStep_wifiLan hlan).serves hu)
  have hapNone : ∀ u, u ∉ (s.shutdown.wifiHotspot env.prost ap).listeners :=
    fun u hu => not_serves_shutdown s .wifiHotspot u ((hdown.inStep_wifiHotspot hap).serves hu)
  refine ⟨?_, ?_, fun u => ?_⟩
  · have haccounted := accounted_wifiLan s.shutdown env.prost tcp bindIp advertiseIp
    rwa [WifiLanBwuHandler.Accounted, HashMap.entries_eq_nil hlanNone, List.map_nil,
      List.append_nil] at haccounted
  · have haccounted : (s.shutdown.wifiHotspot env.prost ap).Accounted :=
      WifiHotspotBwuHandler.accounted_heard ap env.prost s.shutdown.trace
    rwa [WifiHotspotBwuHandler.Accounted, HashMap.entries_eq_nil hapNone, List.map_nil,
      List.append_nil] at haccounted
  · rw [← Bool.not_eq_true, running_wifiHotspot]
    exact hapNone u

/-! ### Two mediums, of which the second comes up -/

def barePlatform : SoftAp × Tcp :=
  ({ start := fun _ _ => none, bind := fun _ _ => none, connectAsSta := fun _ _ => false,
     dial := fun _ _ => none },
    { bind := fun _ ip => some ⟨ip, 4242⟩, dial := fun _ _ => none })

def wordy : Env := { reliable with prost := { reliable.prost with encode := fun _ => [1] } }

def secondTry : World :=
  (World.new {} [.wifiHotspot, .wifiLan] "L").after
    (wordy.withHandlers barePlatform.1 barePlatform.2 .localhost .localhost) 3
    (connect "E" 0 ++ [.setUpgradeMediums "E" [.wifiHotspot, .wifiLan],
      .initiateBwuForEndpoint "E" .wifiHotspot])

theorem reachable_secondTry :
    Reachable (wordy.withHandlers barePlatform.1 barePlatform.2 .localhost .localhost) secondTry :=
  reachable_after _ _ _ _ _

theorem listeners_match_endpoints_secondTry :
    "S_UPGRADE" ∈ (secondTry.wifiLan wordy.prost barePlatform.2 .localhost .localhost).listeners ∧
    (∃ e, secondTry.TracksAt .wifiLan "S_UPGRADE" e) ∧
    ¬ ∃ e, secondTry.TracksAt .wifiHotspot "S_UPGRADE" e := by
  have hmem : "S_UPGRADE" ∈
      (secondTry.wifiLan wordy.prost barePlatform.2 .localhost .localhost).listeners := by decide
  obtain ⟨-, hlan, hap⟩ := listeners_match_endpoints
    (fun _ => List.cons_ne_nil _ _) (fun _ _ => List.cons_ne_nil _ _) reachable_secondTry
  refine ⟨hmem, (hlan _).mp hmem, fun hserves => ?_⟩
  have hrunning := (hap _ (by decide)).mpr hserves
  revert hrunning
  decide

def bothUp : World :=
  (World.new {} [.wifiHotspot, .wifiLan] "L").after
    (wordy.withHandlers WifiHotspotBwuHandler.workingAp barePlatform.2 .localhost .localhost) 3
    (connect "E" 0 ++ connect "X" 3 ++
      [.initiateBwuForEndpoint "E" .wifiHotspot, .initiateBwuForEndpoint "X" .wifiLan])

theorem shutdown_stops_listeners_bothUp :
    let lan := (bothUp.shutdown.wifiLan wordy.prost barePlatform.2 .localhost .localhost).calls
    let hotspot := (bothUp.shutdown.wifiHotspot wordy.prost WifiHotspotBwuHandler.workingAp).calls
    (lan.filterMap TcpCall.bound).length = 1 ∧ (hotspot.filterMap SoftApCall.bound).length = 1 ∧
    WifiHotspotBwuHandler.running "S_UPGRADE"
      (bothUp.wifiHotspot wordy.prost WifiHotspotBwuHandler.workingAp).calls = true ∧
    (lan.filterMap TcpCall.bound).Perm (lan.filterMap TcpCall.stopped) ∧
    (hotspot.filterMap SoftApCall.bound).Perm (hotspot.filterMap SoftApCall.stopped) ∧
    ∀ u, WifiHotspotBwuHandler.running u hotspot = false := by
  refine ⟨by decide, by decide, by decide, ?_⟩
  exact shutdown_stops_listeners (fun _ => List.cons_ne_nil _ _) (fun _ _ => List.cons_ne_nil _ _)
    (reachable_after _ _ _ _ _)

end World

end Nearby.Bwu
