import Nearby.Bwu.Simulation

/-! What an operation addressed to one endpoint is made of: every step of it is about that
endpoint's entries or about a channel from a set `Own` fixed at its start. -/

namespace Nearby.Bwu

open Proto Lib Relation

def Event.ActsOn (c : ChannelId) : Event → Prop
  | .write _ c' _ _ _ _ => c' = c
  | .read c' => c' = c
  | .close c' => c' = c
  | .closeWithReason c' _ => c' = c
  | .pause c' => c' = c
  | .resume c' => c' = c
  | .setLocalEndpointId c' _ => c' = c
  | .disableEncryption c' => c' = c
  | _ => False

def Event.IsRevert : Event → Prop
  | .handleRevert _ _ => True
  | _ => False

namespace World

inductive Action (env : Env) (e : String) (Own : ChannelId → Prop) (asks : Prop) :
    World → World → Prop
  | quiet {s t : World} : Prelude e s t → Action env e Own asks s t
  | ask {s : World} {c : ChannelId} (m : Medium) : asks → s.getChannelForEndpoint e = some c →
      Action env e Own asks s (s.initializeUpgradedMediumForEndpoint env m (env.serviceId c) e).2
  | revert (s : World) (u : String) : Action env e Own asks s (s.revertBwuMediumForEndpoint u e)
  | note (s : World) {x : Event} : (∀ c, x.ActsOn c → Own c) → ¬ x.IsRevert →
      Action env e Own asks s (s.emit x)
  | alter (s : World) {c : ChannelId} (f : ChannelState → ChannelState) : Own c →
      Action env e Own asks s (s.modifyChannel c f)
  | replace (s : World) {c : ChannelId} (b : Bool) : Own c →
      Action env e Own asks s (s.replaceChannelForEndpoint e c b)
  | leave (s : World) : Action env e Own asks s (s.leaveInProgress e)
  | enter (s : World) : Action env e Own asks s (s.enterInProgress e)
  | park (s : World) {c : ChannelId} : Own c → Action env e Own asks s (s.park e c)
  | unpark (s : World) : Action env e Own asks s (s.unpark e)
  | latch (s : World) : Action env e Own asks s (s.latch e)
  | unlatch (s : World) : Action env e Own asks s (s.unlatch e)
  | report (s : World) (m : Medium) : Action env e Own asks s (s.onBandwidthChanged e m)
  | forgetDelay (s : World) :
      Action env e Own asks s { s with retryDelays := s.retryDelays.erase e }

abbrev Actions (env : Env) (e : String) (Own : ChannelId → Prop) (asks : Prop) :
    World → World → Prop :=
  ReflTransGen (Action env e Own asks)

structure Owns (e : String) (Own : ChannelId → Prop) (s : World) : Prop where
  registered : ∀ {c}, s.getChannelForEndpoint e = some c → Own c
  parked : ∀ {c}, s.previousEndpointChannels.lookup e = some c → Own c

/-! ### What the medium handlers are told -/

theorem revertBwuMediumForEndpoint_eq {s : World}
    (hflag : s.config.supportMultipleBwuMediums = true)
    (u e : String) :
    ∃ s₁, s₁ = { s with endpointIdToBwuMedium := s.endpointIdToBwuMedium.erase e } ∧
      (s.revertBwuMediumForEndpoint u e = s₁ ∨
        (isInitiatorUpgradeServiceId u = false ∧ ∃ m,
          s.revertBwuMediumForEndpoint u e = s₁.revertHandler m (·.revertResponderState u)) ∨
        ∃ m, s.revertBwuMediumForEndpoint u e =
          s₁.revertHandler m (·.revertInitiatorStateForEndpoint u e)) := by
  refine ⟨_, rfl, ?_⟩
  simp only [revertBwuMediumForEndpoint, hflag, not_true_eq_false, if_false]
  split
  case isTrue => exact .inl rfl
  case isFalse =>
    split
    case isTrue hi =>
      split
      case isTrue => exact .inr (.inl ⟨Bool.eq_false_of_not_eq_true hi, _, rfl⟩)
      case isFalse => exact .inl rfl
    case isFalse => exact .inr (.inr ⟨_, rfl⟩)

/-! ### What stays as it is -/

structure Untouched (e : String) (s t : World) : Prop where
  inProgress : e ∈ t.inProgressUpgrades ↔ e ∈ s.inProgressUpgrades
  parked : t.previousEndpointChannels.lookup e = s.previousEndpointChannels.lookup e
  latched : e ∈ t.successfullyUpgradedEndpoints ↔ e ∈ s.successfullyUpgradedEndpoints
  medium : t.endpointIdToBwuMedium.lookup e = s.endpointIdToBwuMedium.lookup e
  alarm : t.retryUpgradeAlarms.lookup e = s.retryUpgradeAlarms.lookup e
  delay : t.retryDelays.lookup e = s.retryDelays.lookup e
  registered : t.ecm.lookup e = s.ecm.lookup e

theorem Untouched.refl (e : String) (s : World) : Untouched e s s :=
  ⟨Iff.rfl, rfl, Iff.rfl, rfl, rfl, rfl, rfl⟩

theorem Untouched.trans {e : String} {s t v : World} (h : Untouched e s t) (h' : Untouched e t v) :
    Untouched e s v :=
  ⟨h'.1.trans h.1, h'.2.trans h.2, h'.3.trans h.3, h'.4.trans h.4, h'.5.trans h.5, h'.6.trans h.6,
    h'.7.trans h.7⟩

theorem untouched_revertHandler (e : String) (s : World) (m : Medium)
    (revert : BaseBwuHandler → List String × BaseBwuHandler) :
    Untouched e s (s.revertHandler m revert) := by
  rcases revertHandler_eq s m revert with h | ⟨_, -, h⟩
  · rw [h]
    exact .refl e s
  · rw [h]
    exact ⟨Iff.rfl, rfl, Iff.rfl, rfl, rfl, rfl, rfl⟩

theorem untouched_revertInitiatorState (e : String) (s : World) (m : Medium) :
    Untouched e s (s.revertInitiatorState m) := by
  have hemit : Untouched e s (s.emit (.revertInitiatorState m)) :=
    ⟨Iff.rfl, rfl, Iff.rfl, rfl, rfl, rfl, rfl⟩
  exact hemit.trans (untouched_revertHandler e _ m _)

theorem untouched_setBwuMediumForEndpoint {e e' : String} (hne : e' ≠ e) (s : World) (m : Medium) :
    Untouched e' s (s.setBwuMediumForEndpoint e m) := by
  rw [setBwuMediumForEndpoint]
  split
  · exact ⟨Iff.rfl, rfl, Iff.rfl, AList.lookup_insert_ne hne, rfl, rfl, rfl⟩
  · exact ⟨Iff.rfl, rfl, Iff.rfl, rfl, rfl, rfl, rfl⟩

theorem untouched_asked (e : String) (env : Env) (s : World) (m : Medium) (u e' : String) :
    Untouched e s (s.initializeUpgradedMediumForEndpoint env m u e').2 := by
  rw [initializeUpgradedMediumForEndpoint]
  split
  case h_1 => exact .refl e s
  case h_2 =>
    dsimp only
    split_ifs <;> exact ⟨Iff.rfl, rfl, Iff.rfl, rfl, rfl, rfl, rfl⟩

theorem untouched_revertBwuMediumForEndpoint {e e' : String} (hne : e' ≠ e) (s : World)
    (u : String) : Untouched e' s (s.revertBwuMediumForEndpoint u e) := by
  have hmedium : Untouched e' s { s with medium := .unknownMedium } :=
    ⟨Iff.rfl, rfl, Iff.rfl, rfl, rfl, rfl, rfl⟩
  have herase : Untouched e' s
      { s with endpointIdToBwuMedium := s.endpointIdToBwuMedium.erase e } :=
    ⟨Iff.rfl, rfl, Iff.rfl, AList.lookup_erase_ne hne, rfl, rfl, rfl⟩
  simp only [revertBwuMediumForEndpoint]
  split_ifs <;> first
    | exact hmedium
    | exact herase
    | exact hmedium.trans (untouched_revertInitiatorState e' _ _)
    | exact herase.trans (untouched_revertHandler e' _ _ _)

theorem untouched_retryUpgradesAfterDelay {e e' : String} (hne : e' ≠ e) {s t : World}
    (h : s.retryUpgradesAfterDelay e = .ok t) : Untouched e' s t := by
  obtain ⟨_, rfl⟩ := retryUpgradesAfterDelay_ok h
  refine ⟨Iff.rfl, rfl, Iff.rfl, rfl, ?_, AList.lookup_insert_ne hne, rfl⟩
  exact (AList.lookup_insert_ne hne).trans (AList.lookup_erase_ne hne)

section

variable {env : Env} {e e' : String} {Own : ChannelId → Prop} {asks : Prop} {s t : World}
  {c : ChannelId}

theorem Prelude.untouched (hne : e' ≠ e) (h : Prelude e s t) : Untouched e' s t := by
  cases h with
  | initiate => exact ⟨Iff.rfl, rfl, Iff.rfl, rfl, rfl, rfl, rfl⟩
  | setMedium m => exact untouched_setBwuMediumForEndpoint hne s m
  | cancel => exact ⟨Iff.rfl, rfl, Iff.rfl, rfl, AList.lookup_erase_ne hne, rfl, rfl⟩
  | retry h => exact untouched_retryUpgradesAfterDelay hne h

theorem Action.untouched (hne : e' ≠ e) (h : Action env e Own asks s t) : Untouched e' s t := by
  cases h with
  | quiet hq => exact hq.untouched hne
  | ask m _ _ => exact untouched_asked e' env s m _ e
  | revert u => exact untouched_revertBwuMediumForEndpoint hne s u
  | note | alter | report => exact ⟨Iff.rfl, rfl, Iff.rfl, rfl, rfl, rfl, rfl⟩
  | replace => exact ⟨Iff.rfl, rfl, Iff.rfl, rfl, rfl, rfl, AList.lookup_insert_ne hne⟩
  | leave =>
    refine ⟨?_, rfl, Iff.rfl, rfl, rfl, rfl, rfl⟩
    simp [leaveInProgress, AList.mem_erase, hne]
  | enter =>
    refine ⟨?_, rfl, Iff.rfl, rfl, rfl, rfl, rfl⟩
    simp [enterInProgress, emit, AList.mem_insert, hne]
  | park => exact ⟨Iff.rfl, AList.lookup_insert_ne hne, Iff.rfl, rfl, rfl, rfl, rfl⟩
  | unpark => exact ⟨Iff.rfl, AList.lookup_erase_ne hne, Iff.rfl, rfl, rfl, rfl, rfl⟩
  | latch =>
    refine ⟨Iff.rfl, rfl, ?_, rfl, rfl, rfl, rfl⟩
    simp [World.latch, AList.mem_insert, hne]
  | unlatch =>
    refine ⟨Iff.rfl, rfl, ?_, rfl, rfl, rfl, rfl⟩
    simp [World.unlatch, AList.mem_erase, hne]
  | forgetDelay => exact ⟨Iff.rfl, rfl, Iff.rfl, rfl, rfl, AList.lookup_erase_ne hne, rfl⟩

theorem Actions.untouched (hne : e' ≠ e) (h : Actions env e Own asks s t) : Untouched e' s t := by
  induction h with
  | refl => exact .refl e' s
  | tail _ ha ih => exact ih.trans (ha.untouched hne)

/-! ### Ownership lasts -/

theorem Prelude.channels_eq (h : Prelude e s t) :
    t.ecm = s.ecm ∧ t.previousEndpointChannels = s.previousEndpointChannels := by
  cases h with
  | initiate | cancel => exact ⟨rfl, rfl⟩
  | setMedium m =>
    rw [setBwuMediumForEndpoint_frame]
    exact ⟨rfl, rfl⟩
  | retry h =>
    obtain ⟨_, rfl⟩ := retryUpgradesAfterDelay_ok h
    exact ⟨rfl, rfl⟩

theorem initialize_channels (env : Env) (s : World) (m : Medium) (u e : String) :
    (s.initializeUpgradedMediumForEndpoint env m u e).2.ecm = s.ecm ∧
      (s.initializeUpgradedMediumForEndpoint env m u e).2.previousEndpointChannels =
        s.previousEndpointChannels := by
  rw [initializeUpgradedMediumForEndpoint_frame]
  exact ⟨rfl, rfl⟩

theorem revertBwuMediumForEndpoint_channels (s : World) (u e : String) :
    (s.revertBwuMediumForEndpoint u e).ecm = s.ecm ∧
      (s.revertBwuMediumForEndpoint u e).previousEndpointChannels =
        s.previousEndpointChannels := by
  rw [revertBwuMediumForEndpoint_frame]
  exact ⟨rfl, rfl⟩

theorem Owns.congr (h : s.Owns e Own)
    (hst : t.ecm = s.ecm ∧ t.previousEndpointChannels = s.previousEndpointChannels) :
    t.Owns e Own := by
  refine ⟨fun hr => h.registered ?_, fun hp => h.parked ?_⟩
  · rwa [← getChannelForEndpoint_congr hst.1]
  · rwa [← hst.2]

theorem Owns.action (h : s.Owns e Own) (ha : Action env e Own asks s t) : t.Owns e Own := by
  cases ha with
  | quiet hq => exact h.congr hq.channels_eq
  | ask m _ _ => exact h.congr (initialize_channels env s m _ e)
  | revert u => exact h.congr (revertBwuMediumForEndpoint_channels s u e)
  | note | alter | leave | enter | latch | unlatch | report | forgetDelay =>
    exact ⟨h.registered, h.parked⟩
  | replace b hc =>
    refine ⟨fun hr => ?_, h.parked⟩
    rw [getChannelForEndpoint, replaceChannelForEndpoint, AList.lookup_insert] at hr
    exact Option.some.inj hr ▸ hc
  | park hc =>
    refine ⟨h.registered, fun hp => ?_⟩
    rw [World.park, emit, AList.lookup_insert] at hp
    exact Option.some.inj hp ▸ hc
  | unpark =>
    refine ⟨h.registered, fun hp => ?_⟩
    rw [World.unpark, AList.lookup_erase] at hp
    cases hp

theorem Owns.actions (h : s.Owns e Own) (ha : Actions env e Own asks s t) : t.Owns e Own := by
  induction ha with
  | refl => exact h
  | tail _ ha ih => exact ih.action ha

theorem Move.action (hasks : asks) (h : s.Owns e Own) (hm : Move env e s t) :
    Action env e Own asks s t := by
  cases hm with
  | quiet hq => exact .quiet hq
  | askHandler m hc => exact .ask m hasks hc
  | offer bytes hc => exact .note _ (fun _ hx => hx ▸ h.registered hc) id
  | enter => exact .enter _
  | revert u => exact .revert _ u

theorem Moves.actions (hasks : asks) (h : s.Owns e Own) (hm : Moves env e s t) :
    Actions env e Own asks s t := by
  induction hm with
  | refl => exact .refl
  | tail _ hm ih => exact ih.tail (hm.action hasks (h.actions ih))

/-! ### Channel methods -/

theorem write_actions (hc : Own c) (o : Option String) (data : Payload) :
    Actions env e Own asks s (s.write env o c data).2 :=
  .single (.note s (fun _ h => h ▸ hc) id)

theorem read_actions (hc : Own c) : Actions env e Own asks s (s.read env c).2 :=
  .single (.note s (fun _ h => h ▸ hc) id)

theorem close_actions (hc : Own c) : Actions env e Own asks s (s.close c) :=
  .head (.alter s _ hc) (.single (.note _ (fun _ h => h ▸ hc) id))

theorem closeWithReason_actions (hc : Own c) (reason : DisconnectionReason) :
    Actions env e Own asks s (s.closeWithReason c reason) :=
  .head (.alter s _ hc) (.single (.note _ (fun _ h => h ▸ hc) id))

theorem pause_actions (hc : Own c) : Actions env e Own asks s (s.pause c) :=
  .head (.alter s _ hc) (.single (.note _ (fun _ h => h ▸ hc) id))

theorem resume_actions (hc : Own c) : Actions env e Own asks s (s.resume c) :=
  .head (.alter s _ hc) (.single (.note _ (fun _ h => h ▸ hc) id))

theorem setLocalEndpointId_actions (hc : Own c) (id : String) :
    Actions env e Own asks s (s.setLocalEndpointId c id) :=
  .head (.alter s _ hc) (.single (.note _ (fun _ h => h ▸ hc) fun h => h))

theorem disableEncryption_actions (hc : Own c) : Actions env e Own asks s (s.disableEncryption c) :=
  .head (.alter s _ hc) (.single (.note _ (fun _ h => h ▸ hc) id))

theorem revert_actions (u : String) : Actions env e Own asks s (s.revertBwuMediumForEndpoint u e) :=
  .single (.revert s u)

/-! ### The exchange -/

theorem closeParked_actions (h : s.Owns e Own) (reason : DisconnectionReason) :
    Actions env e Own asks s (s.closeParked e reason) := by
  rw [closeParked]
  split
  case h_1 prev hp => exact .head (.unpark s) (closeWithReason_actions (h.parked hp) reason)
  case h_2 => exact .refl

theorem processLastWriteToPriorChannelEvent_actions (h : s.Owns e Own) :
    Actions env e Own asks s (s.processLastWriteToPriorChannelEvent env e) := by
  rw [processLastWriteToPriorChannelEvent]
  split
  case h_1 => exact .single (.latch s)
  case h_2 prev hp =>
    have hw : Actions env e Own asks s
        (s.write env (some e) prev (.frame forBwuSafeToClose)).2 :=
      write_actions (h.parked hp) _ _
    dsimp only
    split
    case isTrue =>
      exact (hw.trans (closeWithReason_actions (h.parked hp) .ioError)).tail (.unpark _)
    case isFalse => exact hw

theorem runUpgradeProtocol_actions (h : s.Owns e Own) (hc : Own c) (b : Bool) :
    Actions env e Own asks s (s.runUpgradeProtocol env e c b) := by
  simp only [runUpgradeProtocol]
  generalize hs₁ : (s.setLocalEndpointId c s.client.localEndpointId).pause c = s₁
  have h₁ : Actions env e Own asks s s₁ := by
    rw [← hs₁]
    exact (setLocalEndpointId_actions hc _).trans (pause_actions hc)
  split
  case h_1 => exact h₁
  case h_2 old hold =>
    have hown : Own old := (h.actions h₁).registered hold
    have h₂ : Actions env e Own asks s
        ((s₁.replaceChannelForEndpoint e c b).write env (some e) old (.frame forBwuLastWrite)).2 :=
      (h₁.tail (.replace s₁ b hc)).trans (write_actions hown _ _)
    generalize (s₁.replaceChannelForEndpoint e c b).write env (some e) old
      (.frame forBwuLastWrite) = w at h₂ ⊢
    split
    case isTrue => exact h₂
    case isFalse =>
      have h₃ := h₂.tail (.park w.2 hown)
      split
      case isTrue =>
        have h₄ := h₃.tail (.unlatch _)
        exact h₄.trans (processLastWriteToPriorChannelEvent_actions (h.actions h₄))
      case isFalse => exact h₃

theorem processSafeToClosePriorChannelEvent_actions (h : s.Owns e Own) :
    Actions env e Own asks s (s.processSafeToClosePriorChannelEvent env e) := by
  simp only [processSafeToClosePriorChannelEvent]
  split
  case h_1 => exact .refl
  case h_2 prev hp =>
    have hown := h.parked hp
    generalize hs₁ : (World.closeWithReason _ prev .upgraded) = s₁
    have h₁ : Actions env e Own asks s s₁ := by
      rw [← hs₁]
      exact (((ReflTransGen.single (.unpark s)).trans (disableEncryption_actions hown)).trans
        (write_actions hown _ _)).trans ((read_actions hown).trans
          (closeWithReason_actions hown _))
    split
    case h_1 => exact h₁
    case h_2 c hc =>
      have h₂ := h₁.trans (resume_actions ((h.actions h₁).registered hc))
      exact (h₂.tail (.report _ _)).tail (.leave _)

theorem runUpgradeFailedProtocol_actions (h : s.Owns e Own) (info : UpgradePathInfo) :
    Actions env e Own asks s (s.runUpgradeFailedProtocol env e info) := by
  simp only [runUpgradeFailedProtocol]
  split
  case h_1 => exact .refl
  case h_2 c hc =>
    have hown := h.registered hc
    have h₁ : Actions env e Own asks s (s.write env (some e) c (.frame (forBwuFailure info))).2 :=
      write_actions hown _ _
    split
    case isTrue => exact h₁.trans (closeWithReason_actions hown _)
    case isFalse =>
      refine .tail ?_ (.leave _)
      split
      case isTrue => exact h₁.trans (revert_actions _)
      case isFalse => exact h₁

theorem closeOutOfSync_actions (h : s.Owns e Own) :
    Actions env e Own asks s (s.closeOutOfSync e) := by
  have h₁ : Actions env e Own asks s (s.closeParked e .unfinished) := closeParked_actions h _
  simp only [closeOutOfSync]
  split
  case h_1 c hc =>
    have hown := (h.actions h₁).registered hc
    exact h₁.trans ((resume_actions hown).trans (closeWithReason_actions hown _))
  case h_2 => exact h₁

theorem dialUpgraded_actions {info : UpgradePathInfo}
    (hcreate : ∀ m u c, env.createUpgraded s.trace m u e info = some c → Own c) :
    Actions env e Own asks s (s.dialUpgraded env e info).2 ∧
      ∀ c, (s.dialUpgraded env e info).1 = some c → Own c := by
  have hd := dialUpgraded_dial env s e info
  generalize s.dialUpgraded env e info = d at hd
  have hnote : ∀ m u r, Actions env e Own asks s (s.emit (.createUpgraded m u e info r)) :=
    fun m u r => .single (.note s nofun id)
  cases hd with
  | unable => exact ⟨.refl, nofun⟩
  | unreachable m u => exact ⟨hnote m u none, nofun⟩
  | lost m u c intro _ hc =>
    have hown := hcreate m u c hc
    exact ⟨(hnote m u _).trans ((write_actions hown _ _).trans (close_actions hown)), nofun⟩
  | dialled m u c intro _ hc =>
    have hown := hcreate m u c hc
    refine ⟨(hnote m u _).trans (write_actions hown _ _), ?_⟩
    rintro _ ⟨⟩
    exact hown

theorem finishPathAvailable_actions (h : s.Owns e Own) (info : UpgradePathInfo) (hc : Own c) :
    Actions env e Own asks s (s.finishPathAvailable env e info c) := by
  simp only [finishPathAvailable]
  generalize hack : (if info.supportsClientIntroductionAck.getD false = true then
    s.readClientIntroductionAckFrame env c else (true, s)) = acked
  have h₁ : Actions env e Own asks s acked.2 := by
    rw [← hack]
    split
    · exact read_actions hc
    · exact .refl
  split
  case isTrue =>
    have h₂ := h₁.trans (close_actions hc)
    exact h₂.trans (runUpgradeFailedProtocol_actions (h.actions h₂) info)
  case isFalse =>
    have h₂ := h₁.tail (.enter _)
    exact h₂.trans (runUpgradeProtocol_actions (h.actions h₂) hc _)

theorem adopted_actions (m : Medium) : Actions env e Own asks s (s.adopted e m) := by
  rw [adopted]
  split
  · exact .single (.quiet (.setMedium s m))
  · exact .refl

theorem adopted_trace (m : Medium) : (s.adopted e m).trace = s.trace := by
  rw [adopted]
  split
  · rw [setBwuMediumForEndpoint]
    split <;> rfl
  · rfl

theorem processBwuPathAvailableEvent_actions (h : s.Owns e Own) {info : UpgradePathInfo}
    (hcreate : ∀ m u c, env.createUpgraded s.trace m u e info = some c → Own c) :
    Actions env e Own asks s (s.processBwuPathAvailableEvent env e info) := by
  have hb := beginPathAvailable_begun env s e info
  have ha : Actions env e Own asks s (s.adopted e (upiMedium info)) := adopted_actions _
  have hd : Actions env e Own asks (s.adopted e (upiMedium info))
        ((s.adopted e (upiMedium info)).dialUpgraded env e info).2 ∧
      ∀ c, ((s.adopted e (upiMedium info)).dialUpgraded env e info).1 = some c → Own c :=
    dialUpgraded_actions (by rwa [adopted_trace])
  rw [processBwuPathAvailableEvent]
  generalize s.beginPathAvailable env e info = p at hb
  cases hb with
  | barred => exact runUpgradeFailedProtocol_actions h info
  | incoming => exact .refl
  | outOfSync => exact closeOutOfSync_actions h
  | mismatched => exact ha.trans (runUpgradeFailedProtocol_actions (h.actions ha) info)
  | undialled _ _ _ hdial =>
    rw [hdial] at hd
    have h₁ := ha.trans hd.1
    exact h₁.trans (runUpgradeFailedProtocol_actions (h.actions h₁) info)
  | dialled _ _ _ hdial =>
    rw [hdial] at hd
    have h₁ := ha.trans hd.1
    exact h₁.trans (finishPathAvailable_actions (h.actions h₁) info (hd.2 _ rfl))

/-! ### Operations -/

theorem onIncomingFrame_actions {fuel : Nat} {frame : OfflineFrame} (h : s.Owns e Own)
    (hcreate : ∀ m u info c, env.createUpgraded s.trace m u e info = some c → Own c)
    (hst : s.onIncomingFrame env fuel frame e = .ok t) :
    Actions env e Own asks s t ∨ Moves env e (s.leaveInProgress e) t := by
  simp only [onIncomingFrame] at hst
  split at hst
  case isTrue => cases hst; exact .inl .refl
  case isFalse =>
    split at hst
    case h_1 => cases hst; exact .inl .refl
    case h_2 bwu _ =>
      simp only [onBwuNegotiationFrame] at hst
      split at hst
      case isTrue =>
        split at hst
        case h_1 => cases hst; exact .inl (runUpgradeFailedProtocol_actions h _)
        case h_2 => cases hst; exact .inl .refl
      case isFalse =>
        split at hst
        case h_1 =>
          split at hst
          case h_1 info _ =>
            cases hst
            exact .inl (processBwuPathAvailableEvent_actions h fun m u => hcreate m u info)
          case h_2 => cases hst; exact .inl .refl
        case h_2 =>
          split at hst
          case h_1 =>
            exact .inr (processUpgradeFailureEvent_moves hst)
          case h_2 => cases hst; exact .inl .refl
        case h_3 =>
          split at hst
          case isTrue => cases hst; exact .inl .refl
          case isFalse =>
            cases hst
            have h₁ : Actions env e Own asks s (s.emit (.lastWriteDispatched e)) :=
              .single (.note s (fun _ => False.elim) id)
            exact .inl (h₁.trans (processLastWriteToPriorChannelEvent_actions (h.actions h₁)))
        case h_4 =>
          split at hst
          case isTrue => cases hst; exact .inl .refl
          case isFalse => cases hst; exact .inl (processSafeToClosePriorChannelEvent_actions h)
        case h_5 => cases hst; exact .inl .refl

theorem onEndpointDisconnect_actions (h : s.Owns e Own) (u : String) :
    Actions env e Own asks s (s.onEndpointDisconnect u e) :=
  onEndpointDisconnect_rule (R := fun s t => s.Owns e Own → Actions env e Own asks s t)
    (fun _ _ => .refl) (fun h h' hs => (h hs).trans (h' (hs.actions (h hs))))
    (fun s _ _ => .single (.note s nofun id)) (fun _ hs => closeParked_actions hs .shutdown)
    (fun s _ => .single (.leave s)) (fun s _ => .single (.forgetDelay s))
    (fun s _ => .single (.quiet (.cancel s))) (fun s _ => .single (.unlatch s))
    (fun _ u _ => revert_actions u) s u h

end

end World

end Nearby.Bwu
