import Nearby.Bwu.Attribution

/-! Endpoints do not disturb each other: what an operation addressed to one endpoint leaves
alone of another, in the handlers and on the channels as well as in the books. -/

namespace Nearby.Bwu

open Proto Lib Relation

inductive Op.AddressedTo (e : String) : Op → Prop
  | initiateBwuForEndpoint (m : Medium) : AddressedTo e (.initiateBwuForEndpoint e m)
  | onIncomingFrame (frame : OfflineFrame) : AddressedTo e (.onIncomingFrame frame e)
  | fireRetryAlarm : AddressedTo e (.fireRetryAlarm e)
  | resetUpgradeForEndpoint : AddressedTo e (.resetUpgradeForEndpoint e)
  | onEndpointDisconnect (u : String) : AddressedTo e (.onEndpointDisconnect u e)

namespace World

def TracksAt (s : World) (m : Medium) (u e : String) : Prop :=
  ∃ h, s.handlers.lookup m = some h ∧ h.Tracks u e

theorem tracksAt_congr {s t : World} (h : t.handlers = s.handlers) (m : Medium) (u e : String) :
    t.TracksAt m u e ↔ s.TracksAt m u e := by
  rw [TracksAt, TracksAt, h]

theorem tracksAt_insert {s t : World} {m : Medium} {h : BaseBwuHandler}
    (ht : t.handlers = s.handlers.insert m h) (m' : Medium) (u e : String) :
    t.TracksAt m' u e ↔ if m' = m then h.Tracks u e else s.TracksAt m' u e := by
  rw [TracksAt, ht, HashMap.lookup_insert_eq]
  by_cases hm : m' = m
  · simp [hm]
  · simp [hm, TracksAt]

/-! ### What the handlers keep -/

theorem tracksAt_asked {env : Env} {s : World} {m m' : Medium} {u u' e e' : String}
    (h : (s.initializeUpgradedMediumForEndpoint env m u e).2.TracksAt m' u' e') :
    (m' = m ∧ u' = wrapInitiatorUpgradeServiceId u ∧ e' = e) ∨ s.TracksAt m' u' e' := by
  rw [initializeUpgradedMediumForEndpoint] at h
  split at h
  case h_1 => exact .inr h
  case h_2 hd hm =>
    dsimp only at h
    split at h
    case isTrue => exact .inr h
    case isFalse =>
      rw [tracksAt_insert rfl] at h
      split at h
      case isTrue heq =>
        subst heq
        rcases BaseBwuHandler.tracks_recordActive.mp h with h | h
        · exact .inl ⟨rfl, h⟩
        · exact .inr ⟨hd, hm, h⟩
      case isFalse => exact .inr h

theorem tracksAt_asked_mpr {env : Env} {s : World} {m m' : Medium} {u u' e e' : String}
    (h : s.TracksAt m' u' e') :
    (s.initializeUpgradedMediumForEndpoint env m u e).2.TracksAt m' u' e' := by
  rw [initializeUpgradedMediumForEndpoint]
  split
  case h_1 => exact h
  case h_2 hd hm =>
    dsimp only
    split
    case isTrue => exact h
    case isFalse =>
      rw [tracksAt_insert rfl]
      split
      case isTrue heq =>
        subst heq
        obtain ⟨_, hm', ht⟩ := h
        cases hm.symm.trans hm'
        exact BaseBwuHandler.tracks_recordActive.mpr (.inr ht)
      case isFalse => exact h

theorem tracksAt_of_revertHandler {s s₁ : World} {m m' : Medium}
    {revert : BaseBwuHandler → List String × BaseBwuHandler} {u e : String}
    (ht : (s₁.revertHandler m revert).TracksAt m' u e) (hs : s₁.handlers = s.handlers)
    (hr : ∀ {h}, (revert h).2.Tracks u e → h.Tracks u e) : s.TracksAt m' u e := by
  rw [← tracksAt_congr hs]
  rcases revertHandler_eq s₁ m revert with h | ⟨hd, hm, h⟩
  · rwa [h] at ht
  · rw [h, tracksAt_insert rfl] at ht
    split at ht
    case isTrue heq => exact ⟨hd, heq ▸ hm, hr ht⟩
    case isFalse => exact ht

theorem tracksAt_revertHandler_mpr {s s₁ : World} {m m' : Medium}
    {revert : BaseBwuHandler → List String × BaseBwuHandler} {u e : String}
    (hs : s₁.handlers = s.handlers) (hr : ∀ {h}, h.Tracks u e → (revert h).2.Tracks u e)
    (ht : s.TracksAt m' u e) : (s₁.revertHandler m revert).TracksAt m' u e := by
  rw [← tracksAt_congr hs] at ht
  rcases revertHandler_eq s₁ m revert with h | ⟨hd, hm, h⟩
  · rwa [h]
  · rw [h, tracksAt_insert rfl]
    split
    case isTrue heq =>
      obtain ⟨_, hm', ht⟩ := ht
      cases hm.symm.trans (heq ▸ hm')
      exact hr ht
    case isFalse => exact ht

theorem not_tracks_revertInitiatorState (h : BaseBwuHandler) (u e : String) :
    ¬ h.revertInitiatorState.2.Tracks u e := by
  rintro ⟨_, hl, -⟩
  cases hl

theorem tracksAt_of_revertBwuMediumForEndpoint {s : World} {m : Medium} {u u' e e' : String}
    (h : (s.revertBwuMediumForEndpoint u e).TracksAt m u' e') : s.TracksAt m u' e' := by
  simp only [revertBwuMediumForEndpoint] at h
  split at h
  case isTrue =>
    split at h
    case isTrue =>
      refine tracksAt_of_revertHandler h rfl ?_
      exact fun ht => (not_tracks_revertInitiatorState _ _ _ ht).elim
    case isFalse => exact h
  case isFalse =>
    split at h
    case isTrue => exact h
    case isFalse =>
      split at h
      case isTrue =>
        split at h
        case isTrue => exact tracksAt_of_revertHandler h rfl id
        case isFalse => exact h
      case isFalse =>
        exact tracksAt_of_revertHandler h rfl
          fun ht => (BaseBwuHandler.tracks_revertInitiatorStateForEndpoint.mp ht).1

/-! ### The active sets are keyed by initiator ids -/

def Keyed (e : String) (s : World) : Prop :=
  ∀ m u, s.TracksAt m u e → isInitiatorUpgradeServiceId u = true

def NamesService (env : Env) (e : String) (s : World) : Prop :=
  ∀ c, s.getChannelForEndpoint e = some c → env.serviceId c ≠ ""

theorem Keyed.of_tracks {e : String} {s t : World} (h : s.Keyed e)
    (hst : ∀ m u, t.TracksAt m u e → s.TracksAt m u e) : t.Keyed e :=
  fun m u ht => h m u (hst m u ht)

theorem Prelude.handlers_eq {e : String} {s t : World} (h : Prelude e s t) :
    t.handlers = s.handlers := by
  cases h with
  | initiate | cancel => rfl
  | setMedium m => exact setBwuMediumForEndpoint_handlers s e m
  | retry h =>
    obtain ⟨_, rfl⟩ := retryUpgradesAfterDelay_ok h
    rfl

section

variable {env : Env} {e e' : String} {Own : ChannelId → Prop} {asks : Prop} {s t : World}

theorem Keyed.action (h : s.Keyed e) (hs : asks → s.NamesService env e)
    (ha : Action env e' Own asks s t) : t.Keyed e := by
  cases ha with
  | quiet hq => exact h.of_tracks fun m u => (tracksAt_congr hq.handlers_eq m u e).mp
  | @ask c m hasks hc =>
    intro m' u ht
    rcases tracksAt_asked ht with ⟨-, rfl, rfl⟩ | ht
    · exact isInitiator_wrap (hs hasks c hc)
    · exact h m' u ht
  | revert u => exact h.of_tracks fun _ _ => tracksAt_of_revertBwuMediumForEndpoint
  | note | alter | replace | leave | enter | park | unpark | latch | unlatch | report
  | forgetDelay => exact h

theorem Keyed.actions (h : s.Keyed e) (ha : Actions env e' Own False s t) : t.Keyed e := by
  induction ha with
  | refl => exact h
  | tail _ ha ih => exact ih.action False.elim ha

theorem Move.ecm_eq (h : Move env e' s t) : t.ecm = s.ecm := by
  cases h with
  | quiet hq => exact hq.channels_eq.1
  | askHandler m _ => exact (initialize_channels env s m _ e').1
  | offer | enter => rfl
  | revert u => exact (revertBwuMediumForEndpoint_channels s u e').1

theorem Keyed.moves (h : s.Keyed e) (hs : s.NamesService env e) (hm : Moves env e' s t) :
    t.Keyed e ∧ t.NamesService env e := by
  induction hm with
  | refl => exact ⟨h, hs⟩
  | tail _ hm ih =>
    have ha : Action env e' (fun _ => True) True _ _ :=
      hm.action trivial ⟨fun _ => trivial, fun _ => trivial⟩
    refine ⟨ih.1.action (fun _ => ih.2) ha, fun c hc => ih.2 c ?_⟩
    rwa [← getChannelForEndpoint_congr hm.ecm_eq]

theorem tracksAt_of_shutdown {m : Medium} {u : String} (h : s.shutdown.TracksAt m u e) :
    s.TracksAt m u e := by
  have hrevert : ∀ v m', (revertInitiatorState v m').TracksAt m u e → v.TracksAt m u e := by
    intro v m' hv
    refine tracksAt_of_revertHandler hv rfl ?_
    exact fun ht => (not_tracks_revertInitiatorState _ _ _ ht).elim
  exact foldl_revertInitiatorState (R := fun v w => w.TracksAt m u e → v.TracksAt m u e)
    (fun _ => id) (fun hvw hwx hx => hvw (hwx hx)) hrevert s.handlers.keys
    { s with retryUpgradeAlarms := ∅, retryDelays := ∅ } h

theorem Keyed.step {op : Op} (h : s.Keyed e) (hs : s.NamesService env e) (hst : Step env s op t) :
    t.Keyed e := by
  obtain ⟨fuel, hst⟩ := hst
  have hown : ∀ (e : String) (v : World), v.Owns e fun _ => True :=
    fun _ _ => ⟨fun _ => trivial, fun _ => trivial⟩
  cases op with
  | initiateBwuForEndpoint => exact (h.moves hs (initiateBwuForEndpoint_moves fuel hst)).1
  | onIncomingFrame frame e' =>
    rcases onIncomingFrame_actions (hown e' s) (fun _ _ _ _ _ => trivial) hst with ha | hm
    · exact h.actions ha
    · exact (Keyed.moves (s := s.leaveInProgress e') h hs hm).1
  | onIncomingConnection c =>
    cases hst
    have hsocket := onIncomingConnection_socket env s c
    generalize s.onIncomingConnection env c = t at hsocket
    cases hsocket with
    | unreadable | unwritable | unattributed => exact h
    | attributed e' b =>
      have hk : ((s.acknowledged env c).cancelRetryUpgradeAlarm e').Keyed e := h
      exact hk.actions (runUpgradeProtocol_actions (hown e' _) trivial b)
  | fireRetryAlarm => exact (h.moves hs (fireRetryAlarm_moves hst)).1
  | onEndpointDisconnect u e' =>
    cases hst
    have ha : Actions env e' (fun _ => True) False s (s.onEndpointDisconnect u e') :=
      onEndpointDisconnect_actions (hown e' s) u
    exact h.actions ha
  | shutdown =>
    cases hst
    exact h.of_tracks fun _ _ => tracksAt_of_shutdown
  | resetUpgradeForEndpoint | onConnectionInitiated | localEndpointAcceptedConnection
  | remoteEndpointAcceptedConnection | onConnectionAccepted | onDisconnected | setUpgradeMediums
  | registerChannelForEndpoint | unregisterChannelForEndpoint | closeChannel | enableEncryption =>
    cases hst
    exact h

theorem not_tracksAt_new (config : BwuConfig) (mediums : List Medium) (id : String) (m : Medium)
    (u e : String) : ¬ (World.new config mediums id).TracksAt m u e := by
  rintro ⟨h, hm, _, hu, -⟩
  have hempty : h = {} := by
    revert hm
    rw [World.new]
    dsimp only
    induction mediums with
    | nil => intro hm; cases hm
    | cons m' ms ih =>
      rw [List.foldr_cons, HashMap.lookup_insert_eq]
      split
      case isTrue => exact fun hm => (Option.some.inj hm).symm
      case isFalse => exact ih
  subst hempty
  cases hu

theorem keyed_new (config : BwuConfig) (mediums : List Medium) (id : String) :
    (World.new config mediums id).Keyed e :=
  fun m u ht => absurd ht (not_tracksAt_new config mediums id m u e)

theorem ReachedBy.keyed (h : ReachedBy env (fun s _ => s.NamesService env e) s) : s.Keyed e :=
  h.invariant _ keyed_new fun hk hs hst => hk.step hs hst

/-! ### One endpoint's operation next to another endpoint -/

/-- The event calls no method of a channel outside `Own` and reverts no service under which
`e` is tracked. -/
def Spares (s : World) (e : String) (Own : ChannelId → Prop) (x : Event) : Prop :=
  (∀ c, x.ActsOn c → Own c) ∧ ∀ m u, x = .handleRevert m u → ¬ s.TracksAt m u e

structure Contained (e : String) (Own : ChannelId → Prop) (s t : World) : Prop where
  config : t.config = s.config
  tracks : ∀ m u, t.TracksAt m u e ↔ s.TracksAt m u e
  calls : ∃ new, t.trace = new ++ s.trace ∧ ∀ x ∈ new, s.Spares e Own x

theorem Contained.of_eq (hc : t.config = s.config) (hh : t.handlers = s.handlers)
    (ht : t.trace = s.trace) : Contained e Own s t :=
  ⟨hc, fun m u => tracksAt_congr hh m u e, [], ht, fun _ hx => absurd hx List.not_mem_nil⟩

theorem Contained.trans {v : World} (h : Contained e Own s t) (h' : Contained e Own t v) :
    Contained e Own s v := by
  obtain ⟨new, hnew, hx⟩ := h.calls
  obtain ⟨new', hnew', hx'⟩ := h'.calls
  refine ⟨h'.config.trans h.config, fun m u => (h'.tracks m u).trans (h.tracks m u),
    new' ++ new, ?_, ?_⟩
  · rw [hnew', hnew, List.append_assoc]
  · intro x hmem
    rcases List.mem_append.mp hmem with hmem | hmem
    · refine ⟨(hx' x hmem).1, fun m u hxe ht => (hx' x hmem).2 m u hxe ?_⟩
      rwa [h.tracks]
    · exact hx x hmem

theorem spares_of_not_revert {x : Event} (hx : ∀ c, x.ActsOn c → Own c) (hr : ¬ x.IsRevert) :
    s.Spares e Own x := by
  refine ⟨hx, ?_⟩
  rintro m u rfl
  exact absurd trivial hr

theorem Contained.of_emit {x : Event} (hc : t.config = s.config) (hh : t.handlers = s.handlers)
    (ht : t.trace = x :: s.trace) (hx : s.Spares e Own x) : Contained e Own s t :=
  ⟨hc, fun m u => tracksAt_congr hh m u e, [x], ht, fun _ hy => List.mem_singleton.mp hy ▸ hx⟩

theorem Prelude.contained (h : Prelude e' s t) : Contained e Own s t := by
  cases h with
  | initiate => exact .of_emit rfl rfl rfl (spares_of_not_revert (fun _ h => h.elim) id)
  | setMedium m =>
    rw [setBwuMediumForEndpoint]
    split <;> exact .of_eq rfl rfl rfl
  | cancel => exact .of_eq rfl rfl rfl
  | retry h =>
    obtain ⟨_, rfl⟩ := retryUpgradesAfterDelay_ok h
    exact .of_emit rfl rfl rfl (spares_of_not_revert (fun _ h => h.elim) id)

theorem initialize_calls (env : Env) (s : World) (m : Medium) (u e : String) :
    (s.initializeUpgradedMediumForEndpoint env m u e).2.config = s.config ∧
      ((s.initializeUpgradedMediumForEndpoint env m u e).2.trace = s.trace ∨
        ∃ u' bytes, (s.initializeUpgradedMediumForEndpoint env m u e).2.trace =
          .handleInitialize m u' e bytes :: s.trace) := by
  rw [initializeUpgradedMediumForEndpoint]
  split
  case h_1 => exact ⟨rfl, .inl rfl⟩
  case h_2 =>
    dsimp only
    split <;> exact ⟨rfl, .inr ⟨_, _, rfl⟩⟩

theorem initialize_contained (hne : e ≠ e') (m : Medium) (u : String) :
    Contained e Own s (s.initializeUpgradedMediumForEndpoint env m u e').2 := by
  have htracks : ∀ m' u', (s.initializeUpgradedMediumForEndpoint env m u e').2.TracksAt m' u' e ↔
      s.TracksAt m' u' e := by
    intro m' u'
    refine ⟨fun h => ?_, tracksAt_asked_mpr⟩
    exact (tracksAt_asked h).resolve_left fun h => hne h.2.2
  obtain ⟨hc, ht | ⟨u', bytes, ht⟩⟩ := initialize_calls env s m u e'
  · exact ⟨hc, htracks, [], ht, fun _ hx => absurd hx List.not_mem_nil⟩
  · refine ⟨hc, htracks, [_], ht, fun x hx => ?_⟩
    cases List.mem_singleton.mp hx
    exact spares_of_not_revert (fun _ h => h.elim) id

theorem revertHandler_contained {m : Medium}
    {revert : BaseBwuHandler → List String × BaseBwuHandler}
    (hkeep : ∀ h u, (revert h).2.Tracks u e ↔ h.Tracks u e)
    (hname : ∀ h u, s.handlers.lookup m = some h → u ∈ (revert h).1 → ¬ s.TracksAt m u e) :
    Contained e Own s (s.revertHandler m revert) := by
  have htracks : ∀ m' u, (s.revertHandler m revert).TracksAt m' u e ↔ s.TracksAt m' u e :=
    fun m' u => ⟨fun h => tracksAt_of_revertHandler h rfl (hkeep _ u).mp,
      tracksAt_revertHandler_mpr rfl (hkeep _ u).mpr⟩
  rcases revertHandler_eq s m revert with h | ⟨hd, hm, h⟩
  · rw [h]
    exact .of_eq rfl rfl rfl
  · rw [h] at htracks ⊢
    refine ⟨rfl, htracks, _, rfl, fun x hx => ?_⟩
    obtain ⟨u, hu, rfl⟩ : ∃ u ∈ (revert hd).1, Event.handleRevert m u = x := by simpa using hx
    refine ⟨fun _ h => h.elim, ?_⟩
    rintro _ _ ⟨⟩
    exact hname hd u hm hu

theorem revertBwuMediumForEndpoint_contained
    (hflag : s.config.supportMultipleBwuMediums = true) (hk : s.Keyed e) (hne : e ≠ e')
    (u : String) : Contained e Own s (s.revertBwuMediumForEndpoint u e') := by
  obtain ⟨s₁, hs₁, h⟩ := revertBwuMediumForEndpoint_eq hflag u e'
  have hstart : Contained e Own s s₁ := by
    subst hs₁
    exact .of_eq rfl rfl rfl
  rcases h with h | ⟨hu, m, h⟩ | ⟨m, h⟩
  · rwa [h]
  · -- A responder's revert names a raw id, under which nobody is tracked.
    rw [h]
    refine hstart.trans (revertHandler_contained (fun _ _ => Iff.rfl) ?_)
    rintro h u' - hu' ht
    obtain rfl : u' = u := by simpa [BaseBwuHandler.revertResponderState] using hu'
    rw [hstart.tracks] at ht
    simp [hk m u' ht] at hu
  · rw [h]
    refine hstart.trans (revertHandler_contained (fun h u' => ?_) ?_)
    · rw [BaseBwuHandler.tracks_revertInitiatorStateForEndpoint]
      exact ⟨And.left, fun ht => ⟨ht, fun h => hne h.2.2⟩⟩
    · rintro h u' hm hu' ⟨_, hm', ht⟩
      cases hm.symm.trans hm'
      rcases h.reverted_revertInitiatorStateForEndpoint u e' with ⟨hr, -, -, honly⟩ | ⟨hr, -⟩
      · obtain rfl : u' = u := by simpa [hr] using hu'
        exact hne (honly e ht)
      · simp [hr] at hu'

theorem Action.contained (hflag : s.config.supportMultipleBwuMediums = true) (hk : s.Keyed e)
    (hne : e ≠ e') (h : Action env e' Own asks s t) : Contained e Own s t := by
  cases h with
  | quiet hq => exact hq.contained
  | ask m _ _ => exact initialize_contained hne m _
  | revert u => exact revertBwuMediumForEndpoint_contained hflag hk hne u
  | note hx hr => exact .of_emit rfl rfl rfl (spares_of_not_revert hx hr)
  | alter | replace | leave | unpark | latch | unlatch | forgetDelay => exact .of_eq rfl rfl rfl
  | enter | park | report =>
    exact .of_emit rfl rfl rfl (spares_of_not_revert (fun _ h => h.elim) id)

theorem Actions.contained (hflag : s.config.supportMultipleBwuMediums = true) (hk : s.Keyed e)
    (hne : e ≠ e') (h : Actions env e' Own asks s t) : Contained e Own s t := by
  induction h with
  | refl => exact .of_eq rfl rfl rfl
  | tail _ ha ih =>
    refine ih.trans (ha.contained ?_ (hk.of_tracks fun m u => (ih.tracks m u).mp) hne)
    rwa [ih.config]

def Holds (s : World) (e : String) (c : ChannelId) : Prop :=
  s.getChannelForEndpoint e = some c ∨ s.previousEndpointChannels.lookup e = some c

theorem AddressedTo.actions {op : Op} (hop : op.AddressedTo e) (hown : s.Owns e Own)
    (hcreate : ∀ m u info c, env.createUpgraded s.trace m u e info = some c → Own c)
    (hst : Step env s op t) : Actions env e Own True s t := by
  obtain ⟨fuel, hst⟩ := hst
  cases hop with
  | initiateBwuForEndpoint m =>
    exact (initiateBwuForEndpoint_moves fuel hst).actions trivial hown
  | onIncomingFrame frame =>
    rcases onIncomingFrame_actions hown hcreate hst with ha | hm
    · exact ha
    · exact .head (.leave s) (hm.actions trivial ⟨hown.registered, hown.parked⟩)
  | fireRetryAlarm => exact (fireRetryAlarm_moves hst).actions trivial hown
  | resetUpgradeForEndpoint =>
    cases hst
    exact .single (.leave s)
  | onEndpointDisconnect u =>
    cases hst
    exact onEndpointDisconnect_actions hown u

end

theorem Step.actions {env : Env} {s t : World} {e : String} {op : Op} (hst : Step env s op t)
    (hop : op.AddressedTo e) : Actions env e (fun _ => True) True s t :=
  AddressedTo.actions hop ⟨fun _ => trivial, fun _ => trivial⟩ (fun _ _ _ _ _ => trivial) hst

inductive Touches (env : Env) (s : World) (e : String) : Op → Prop
  | addressed {op : Op} : op.AddressedTo e → Touches env s e op
  | socket {c : ChannelId} : s.introducedEndpoint env c = some e →
      Touches env s e (.onIncomingConnection c)
  | shutdown : Touches env s e .shutdown
  | register (c : ChannelId) : Touches env s e (.registerChannelForEndpoint e c)
  | unregister : Touches env s e (.unregisterChannelForEndpoint e)

theorem Step.untouched {env : Env} {s t : World} {e : String} {op : Op} (h : ¬ s.Touches env e op)
    (hst : Step env s op t) : Untouched e s t := by
  have haddressed : ∀ {e'}, op.AddressedTo e' → Untouched e s t := by
    intro e' hop
    have hne : e ≠ e' := by
      rintro rfl
      exact h (.addressed hop)
    exact (hst.actions hop).untouched hne
  obtain ⟨fuel, hst⟩ := hst
  cases op with
  | initiateBwuForEndpoint e' m => exact haddressed (.initiateBwuForEndpoint m)
  | onIncomingFrame frame e' => exact haddressed (.onIncomingFrame frame)
  | fireRetryAlarm e' => exact haddressed .fireRetryAlarm
  | resetUpgradeForEndpoint e' => exact haddressed .resetUpgradeForEndpoint
  | onEndpointDisconnect u e' => exact haddressed (.onEndpointDisconnect u)
  | onIncomingConnection c =>
    cases hst
    exact onIncomingConnection_untouched fun hc => h (.socket hc)
  | shutdown => exact (h .shutdown).elim
  | registerChannelForEndpoint e' c =>
    cases hst
    have hne : e ≠ e' := by
      rintro rfl
      exact h (.register c)
    exact ⟨Iff.rfl, rfl, Iff.rfl, rfl, rfl, rfl, AList.lookup_insert_ne hne⟩
  | unregisterChannelForEndpoint e' =>
    cases hst
    have hne : e ≠ e' := by
      rintro rfl
      exact h .unregister
    exact ⟨Iff.rfl, rfl, Iff.rfl, rfl, rfl, rfl, AList.lookup_erase_ne hne⟩
  | onConnectionInitiated | localEndpointAcceptedConnection | remoteEndpointAcceptedConnection
  | onConnectionAccepted | onDisconnected | setUpgradeMediums | closeChannel | enableEncryption =>
    cases hst
    exact ⟨Iff.rfl, rfl, Iff.rfl, rfl, rfl, rfl, rfl⟩

theorem Prelude.config_eq {e : String} {s t : World} (h : Prelude e s t) : t.config = s.config := by
  cases h with
  | initiate | cancel => rfl
  | setMedium m => rw [setBwuMediumForEndpoint_frame]
  | retry h =>
    obtain ⟨_, rfl⟩ := retryUpgradesAfterDelay_ok h
    rfl

theorem Actions.config_eq {env : Env} {e : String} {Own : ChannelId → Prop} {asks : Prop}
    {s t : World} (h : Actions env e Own asks s t) : t.config = s.config := by
  induction h with
  | refl => rfl
  | tail _ ha ih =>
    rw [← ih]
    cases ha with
    | quiet hq => exact hq.config_eq
    | ask => rw [initializeUpgradedMediumForEndpoint_frame]
    | revert => rw [revertBwuMediumForEndpoint_frame]
    | note | alter | replace | leave | enter | park | unpark | latch | unlatch | report
    | forgetDelay => rfl

theorem shutdown_frame (s : World) : s.shutdown = { s with
    handlers := s.shutdown.handlers
    trace := s.shutdown.trace
    inProgressUpgrades := ∅
    previousEndpointChannels := ∅
    successfullyUpgradedEndpoints := ∅
    retryUpgradeAlarms := ∅
    retryDelays := ∅ } := by
  have hfold := foldl_revertInitiatorState
    (R := fun v w => w = { v with handlers := w.handlers, trace := w.trace }) (fun _ => rfl)
    (fun hvw hwx => hwx.trans (by rw [hvw])) (fun v m => by rw [revertInitiatorState_frame])
  simp only [shutdown]
  rw [hfold]

theorem Step.config_eq {env : Env} {s t : World} {op : Op} (hst : Step env s op t) :
    t.config = s.config := by
  have haddressed : ∀ {e}, op.AddressedTo e → t.config = s.config :=
    fun hop => (hst.actions hop).config_eq
  obtain ⟨fuel, hst⟩ := hst
  cases op with
  | initiateBwuForEndpoint e m => exact haddressed (.initiateBwuForEndpoint m)
  | onIncomingFrame frame e => exact haddressed (.onIncomingFrame frame)
  | fireRetryAlarm e => exact haddressed .fireRetryAlarm
  | resetUpgradeForEndpoint e => exact haddressed .resetUpgradeForEndpoint
  | onEndpointDisconnect u e => exact haddressed (.onEndpointDisconnect u)
  | onIncomingConnection c =>
    cases hst
    have hsocket := onIncomingConnection_socket env s c
    generalize s.onIncomingConnection env c = t at hsocket
    cases hsocket with
    | unreadable | unwritable | unattributed => rfl
    | attributed e b =>
      have ha : Actions env e (fun _ => True) False
          ((s.acknowledged env c).cancelRetryUpgradeAlarm e)
          (((s.acknowledged env c).cancelRetryUpgradeAlarm e).runUpgradeProtocol env e c b) :=
        runUpgradeProtocol_actions ⟨fun _ => trivial, fun _ => trivial⟩ trivial b
      exact ha.config_eq
  | shutdown =>
    cases hst
    rw [shutdown_frame]
  | onConnectionInitiated | localEndpointAcceptedConnection | remoteEndpointAcceptedConnection
  | onConnectionAccepted | onDisconnected | setUpgradeMediums | registerChannelForEndpoint
  | unregisterChannelForEndpoint | closeChannel | enableEncryption =>
    cases hst
    rfl

/-- An operation addressed to one endpoint leaves the books of every other, its channels and
its place in the handlers as they are, and no handler is told to revert a service under which
it tracks another endpoint. -/
theorem endpoints_isolated {env : Env} {s t : World} {e₁ e₂ : String} {op : Op}
    (hs : ReachedBy env (fun s _ => s.NamesService env e₂) s)
    (hflag : s.config.supportMultipleBwuMediums = true) (hne : e₁ ≠ e₂)
    (hdistinct : ∀ c, s.Holds e₁ c → ¬ s.Holds e₂ c)
    (hcreate : ∀ m u info c, env.createUpgraded s.trace m u e₁ info = some c → ¬ s.Holds e₂ c)
    (hop : op.AddressedTo e₁) (hst : Step env s op t) :
    Untouched e₂ s t ∧ (∀ m u, t.TracksAt m u e₂ ↔ s.TracksAt m u e₂) ∧
      ∃ new, t.trace = new ++ s.trace ∧ ∀ x ∈ new,
        (∀ c, s.Holds e₂ c → ¬ x.ActsOn c) ∧
        ∀ m u, x = .handleRevert m u → ¬ s.TracksAt m u e₂ := by
  have hown : s.Owns e₁ fun c => ¬ s.Holds e₂ c :=
    ⟨fun hc => hdistinct _ (.inl hc), fun hc => hdistinct _ (.inr hc)⟩
  have ha : Actions env e₁ (fun c => ¬ s.Holds e₂ c) True s t :=
    AddressedTo.actions hop hown hcreate hst
  obtain ⟨-, htracks, new, hnew, hx⟩ := ha.contained hflag hs.keyed hne.symm
  refine ⟨ha.untouched hne.symm, htracks, new, hnew, fun x hmem => ⟨?_, (hx x hmem).2⟩⟩
  exact fun c hc hact => (hx x hmem).1 c hact hc

def twoUpgrades : World :=
  scenario (connect "X" 3 ++
    [.initiateBwuForEndpoint "E" .wifiLan, .initiateBwuForEndpoint "X" .wifiLan])

theorem holds_twoUpgrades_E (c : ChannelId) : twoUpgrades.Holds "E" c ↔ c = 0 := by
  have hreg : twoUpgrades.getChannelForEndpoint "E" = some 0 := by decide
  have hprev : twoUpgrades.previousEndpointChannels.lookup "E" = none := by decide
  simp [Holds, hreg, hprev, eq_comm]

theorem holds_twoUpgrades_X (c : ChannelId) : twoUpgrades.Holds "X" c ↔ c = 3 := by
  have hreg : twoUpgrades.getChannelForEndpoint "X" = some 3 := by decide
  have hprev : twoUpgrades.previousEndpointChannels.lookup "X" = none := by decide
  simp [Holds, hreg, hprev, eq_comm]

theorem endpoints_isolated_on_disconnect :
    Untouched "X" twoUpgrades (twoUpgrades.onEndpointDisconnect "S_UPGRADE" "E") ∧
      (twoUpgrades.onEndpointDisconnect "S_UPGRADE" "E").TracksAt .wifiLan "S_UPGRADE" "X" := by
  have h := @endpoints_isolated reliable twoUpgrades
    (twoUpgrades.onEndpointDisconnect "S_UPGRADE" "E") "E" "X"
    (.onEndpointDisconnect "S_UPGRADE" "E") ?_ (by decide) (by decide) ?_ ?_
    (.onEndpointDisconnect _) ⟨0, rfl⟩
  · refine ⟨h.1, (h.2.1 _ _).mpr ⟨_, rfl, _, rfl, ?_⟩⟩
    decide
  · apply scenario_reached
    intro i hi c hc
    exact (by decide : "S" ≠ "")
  · intro c hE hX
    rw [holds_twoUpgrades_E] at hE
    rw [holds_twoUpgrades_X, hE] at hX
    cases hX
  · rintro m u info c ⟨⟩ hX
    rw [holds_twoUpgrades_X] at hX
    cases hX

end World

end Nearby.Bwu
