import Nearby.Bwu.Negotiation
import Nearby.Swap.Machine

/-! The manager refines the channel exchange of `Nearby.Swap`: `abs` forgets the medium
bookkeeping, the retries and the client, and every operation is a run of exchange labels. -/

namespace Nearby.Bwu

open Proto Lib

def absKind : Payload → Swap.Kind
  | .offer _ => .other
  | .frame f =>
    if f = forBwuLastWrite then .lastWrite
    else if f = forBwuSafeToClose then .safeToClose
    else if f = forDisconnection false false then .disconnection
    else .other

def absEvent : Event → Option (Swap.Event String ChannelId)
  | .write owner c data paused encrypted result =>
    some (.write owner c (absKind data) paused encrypted result.ok)
  | .close c => some (.close c false)
  | .closeWithReason c reason => some (.close c (reason = .upgraded))
  | .createUpgraded _ _ _ _ (some c) => some (.arrive c)
  | .registered _ c => some (.arrive c)
  | .incoming c => some (.arrive c)
  | .started e => some (.start e)
  | .lastWriteDispatched e => some (.lastWrite e)
  | .parked e c => some (.park e c)
  | .bandwidthChanged e _ => some (.report e)
  | _ => none

def absChan (st : ChannelState) : Swap.Chan := ⟨st.paused, st.closed, st.encrypted⟩

@[simp] theorem absKind_lastWrite : absKind (.frame forBwuLastWrite) = .lastWrite := by
  simp [absKind]

@[simp] theorem absKind_safeToClose : absKind (.frame forBwuSafeToClose) = .safeToClose := by
  rw [absKind, if_neg (by decide), if_pos rfl]

@[simp] theorem absKind_disconnection :
    absKind (.frame (forDisconnection false false)) = .disconnection := by
  rw [absKind, if_neg (by decide), if_neg (by decide), if_pos rfl]

theorem absKind_bwuFrame {sub : BandwidthUpgradeNegotiationFrame}
    (h₁ : sub.eventType ≠ some EventType.lastWriteToPriorChannel.number)
    (h₂ : sub.eventType ≠ some EventType.safeToClosePriorChannel.number) :
    absKind (.frame (bwuFrame sub)) = .other := by
  have hsub : ∀ sub', bwuFrame sub = bwuFrame sub' → sub = sub' := by
    intro sub' h
    simpa [bwuFrame, encodeV1] using h
  rw [absKind, if_neg, if_neg, if_neg]
  · intro h
    have := congrArg getFrameType h
    simp at this
  · intro h
    exact h₂ (congrArg (·.eventType) (hsub _ h))
  · intro h
    exact h₁ (congrArg (·.eventType) (hsub _ h))

@[simp] theorem absKind_failure (info : UpgradePathInfo) :
    absKind (.frame (forBwuFailure info)) = .other :=
  absKind_bwuFrame (by simp [EventType.number]) (by simp [EventType.number])

@[simp] theorem absKind_introduction (a b : String) (x : Bool) :
    absKind (.frame (forBwuIntroduction a b x)) = .other :=
  absKind_bwuFrame (by simp [EventType.number]) (by simp [EventType.number])

@[simp] theorem absKind_introductionAck : absKind (.frame forBwuIntroductionAck) = .other :=
  absKind_bwuFrame (by decide) (by decide)

@[simp] theorem absChan_doClose (st : ChannelState) :
    absChan st.doClose = (absChan st).shut := by
  by_cases h : st.closed <;> simp [ChannelState.doClose, Swap.Chan.shut, absChan, h]

namespace World

/-- The exchange state a world stands for. -/
def abs (s : World) : Swap.State String ChannelId where
  registered e := s.ecm.lookup e
  parked e := s.previousEndpointChannels.lookup e
  inProgress := { e | e ∈ s.inProgressUpgrades }
  latched := { e | e ∈ s.successfullyUpgradedEndpoints }
  chan c := absChan (s.channels c)
  trace := s.trace.filterMap absEvent

/-! ### Primitives -/

theorem lookup_insert_update (m : HashMap String V) (k : String) (v : V) :
    (fun e => (m.insert k v).lookup e) = Function.update (fun e => m.lookup e) k (some v) := by
  funext e
  rw [HashMap.lookup_insert_eq, Function.update_apply]

theorem lookup_erase_update (m : HashMap String V) (k : String) :
    (fun e => (m.erase k).lookup e) = Function.update (fun e => m.lookup e) k none := by
  funext e
  rw [HashMap.lookup_erase_eq, Function.update_apply]

theorem setOf_mem_insert (m : HashSet String) (k : String) :
    { e | e ∈ m.insert k () } = insert k { e | e ∈ m } := by
  ext e
  simp [AList.mem_insert]

theorem setOf_mem_erase (m : HashSet String) (k : String) :
    { e | e ∈ m.erase k } = { e | e ∈ m } \ {k} := by
  ext e
  simp [AList.mem_erase, and_comm]

theorem abs_emit_some {s : World} {x : Event} {y : Swap.Event String ChannelId}
    (h : absEvent x = some y) : (s.emit x).abs = s.abs.emit y := by
  simp [abs, emit, Swap.State.emit, h]

theorem abs_emit_none {s : World} {x : Event} (h : absEvent x = none) :
    (s.emit x).abs = s.abs := by
  simp [abs, emit, h]

theorem abs_modifyChannel {s : World} {c : ChannelId} {f : ChannelState → ChannelState}
    {g : Swap.Chan → Swap.Chan} (h : ∀ st, absChan (f st) = g (absChan st)) :
    (s.modifyChannel c f).abs = s.abs.modifyChan c g := by
  have hf : (fun x => absChan (Function.update s.channels c (f (s.channels c)) x)) =
      Function.update (fun x => absChan (s.channels x)) c (g (absChan (s.channels c))) := by
    funext x
    by_cases hx : x = c
    · subst hx
      simp [h]
    · simp [Function.update_of_ne hx]
  simp [abs, modifyChannel, Swap.State.modifyChan, hf]

theorem abs_modifyChannel_quiet {s : World} {c : ChannelId} {f : ChannelState → ChannelState}
    (h : ∀ st, absChan (f st) = absChan st) : (s.modifyChannel c f).abs = s.abs := by
  rw [abs_modifyChannel (g := id) h]
  simp [Swap.State.modifyChan]

@[simp] theorem abs_write (env : Env) (s : World) (owner : Option String) (c : ChannelId)
    (data : Payload) :
    (s.write env owner c data).2.abs =
      s.abs.write owner c (absKind data) (env.write s.trace c data).ok :=
  abs_emit_some rfl

@[simp] theorem abs_read (env : Env) (s : World) (c : ChannelId) :
    (s.read env c).2.abs = s.abs :=
  abs_emit_none rfl

@[simp] theorem abs_close (s : World) (c : ChannelId) :
    (s.close c).abs = s.abs.shut c false := by
  rw [close, abs_emit_some rfl, abs_modifyChannel absChan_doClose]
  rfl

@[simp] theorem abs_closeWithReason (s : World) (c : ChannelId) (reason : DisconnectionReason) :
    (s.closeWithReason c reason).abs = s.abs.shut c (reason = .upgraded) := by
  rw [closeWithReason, abs_emit_some rfl, abs_modifyChannel absChan_doClose]
  rfl

@[simp] theorem abs_pause (s : World) (c : ChannelId) :
    (s.pause c).abs = s.abs.hold c := by
  rw [pause, abs_emit_none rfl]
  exact abs_modifyChannel fun _ => rfl

@[simp] theorem abs_resume (s : World) (c : ChannelId) :
    (s.resume c).abs = s.abs.release c := by
  rw [resume, abs_emit_none rfl]
  exact abs_modifyChannel fun _ => rfl

@[simp] theorem abs_setLocalEndpointId (s : World) (c : ChannelId) (id : String) :
    (s.setLocalEndpointId c id).abs = s.abs := by
  rw [setLocalEndpointId, abs_emit_none rfl]
  exact abs_modifyChannel_quiet fun _ => rfl

@[simp] theorem abs_disableEncryption (s : World) (c : ChannelId) :
    (s.disableEncryption c).abs = s.abs.decipher c := by
  rw [disableEncryption, abs_emit_none rfl]
  exact abs_modifyChannel fun _ => rfl

@[simp] theorem abs_replaceChannelForEndpoint (s : World) (e : String) (c : ChannelId) (b : Bool) :
    (s.replaceChannelForEndpoint e c b).abs = s.abs.setRegistered e (some c) := by
  simp [abs, replaceChannelForEndpoint, Swap.State.setRegistered, lookup_insert_update]

@[simp] theorem abs_registerChannelForEndpoint (s : World) (e : String) (c : ChannelId) :
    (s.registerChannelForEndpoint e c).abs = s.abs.next (.register e c) := by
  rw [registerChannelForEndpoint, abs_emit_some rfl]
  simp [abs, Swap.State.next, Swap.State.setRegistered, lookup_insert_update]

@[simp] theorem abs_unregisterChannelForEndpoint (s : World) (e : String) :
    (s.unregisterChannelForEndpoint e).abs = s.abs.next (.unregister e) := by
  simp [abs, unregisterChannelForEndpoint, Swap.State.next, Swap.State.setRegistered,
    lookup_erase_update]

@[simp] theorem abs_enterInProgress (s : World) (e : String) :
    (s.enterInProgress e).abs = s.abs.next (.enter e) := by
  rw [enterInProgress, abs_emit_some rfl]
  simp only [abs, Swap.State.next, setOf_mem_insert]

@[simp] theorem abs_leaveInProgress (s : World) (e : String) :
    (s.leaveInProgress e).abs = s.abs.leave e := by
  simp only [abs, leaveInProgress, Swap.State.leave, setOf_mem_erase]

@[simp] theorem abs_park (s : World) (e : String) (c : ChannelId) :
    (s.park e c).abs = (s.abs.setParked e (some c)).emit (.park e c) := by
  rw [park, abs_emit_some rfl]
  simp [abs, Swap.State.setParked, lookup_insert_update]

@[simp] theorem abs_unpark (s : World) (e : String) :
    (s.unpark e).abs = s.abs.setParked e none := by
  simp [abs, unpark, Swap.State.setParked, lookup_erase_update]

@[simp] theorem abs_latch (s : World) (e : String) :
    (s.latch e).abs = { s.abs with latched := insert e s.abs.latched } := by
  simp only [abs, latch, setOf_mem_insert]

@[simp] theorem abs_unlatch (s : World) (e : String) :
    (s.unlatch e).abs = s.abs.unlatch e := by
  simp only [abs, unlatch, Swap.State.unlatch, setOf_mem_erase]

@[simp] theorem abs_onBandwidthChanged (s : World) (e : String) (m : Medium) :
    (s.onBandwidthChanged e m).abs = s.abs.emit (.report e) :=
  abs_emit_some rfl

/-! ### What the exchange does not see -/

@[simp] theorem abs_setBwuMediumForEndpoint (s : World) (e : String) (m : Medium) :
    (s.setBwuMediumForEndpoint e m).abs = s.abs := by
  unfold setBwuMediumForEndpoint
  split <;> rfl

theorem abs_emitAll {s : World} {xs : List Event} (h : ∀ x ∈ xs, absEvent x = none) :
    (s.emitAll xs).abs = s.abs := by
  induction xs generalizing s with
  | nil => rfl
  | cons x xs ih =>
    have hx : (s.emit x).abs = s.abs := abs_emit_none (h x (by simp))
    rw [← hx]
    exact ih fun y hy => h y (by simp [hy])

@[simp] theorem abs_revertHandler (s : World) (m : Medium)
    (revert : BaseBwuHandler → List String × BaseBwuHandler) :
    (s.revertHandler m revert).abs = s.abs := by
  unfold revertHandler
  split
  case h_1 => rfl
  case h_2 =>
    rw [abs_emitAll]
    · rfl
    · intro x hx
      obtain ⟨u, _, rfl⟩ := List.mem_map.mp hx
      rfl

@[simp] theorem abs_revertInitiatorState (s : World) (m : Medium) :
    (s.revertInitiatorState m).abs = s.abs := by
  rw [revertInitiatorState, abs_revertHandler]
  exact abs_emit_none rfl

@[simp] theorem abs_revertBwuMediumForEndpoint (s : World) (u e : String) :
    (s.revertBwuMediumForEndpoint u e).abs = s.abs := by
  unfold revertBwuMediumForEndpoint
  dsimp only
  split_ifs <;> first | rfl | exact abs_revertHandler _ _ _

@[simp] theorem abs_initializeUpgradedMediumForEndpoint (env : Env) (s : World) (m : Medium)
    (u e : String) : (s.initializeUpgradedMediumForEndpoint env m u e).2.abs = s.abs := by
  unfold initializeUpgradedMediumForEndpoint
  split
  case h_1 => rfl
  case h_2 =>
    dsimp only
    split_ifs
    · exact abs_emit_none rfl
    · exact abs_emit_none rfl

theorem abs_retryUpgradesAfterDelay {s t : World} {e : String}
    (h : s.retryUpgradesAfterDelay e = .ok t) : t.abs = s.abs := by
  unfold retryUpgradesAfterDelay at h
  split at h
  case h_1 => cases h
  case h_2 =>
    cases h
    exact abs_emit_none rfl

/-! ### The exchange -/

theorem abs_processLastWriteToPriorChannelEvent (env : Env) (s : World) (e : String) :
    ∃ ok, (s.processLastWriteToPriorChannelEvent env e).abs = s.abs.answer e ok := by
  unfold processLastWriteToPriorChannelEvent Swap.State.answer
  cases hp : s.previousEndpointChannels.lookup e with
  | none =>
    have hp' : s.abs.parked e = none := hp
    exact ⟨true, by simp [hp']⟩
  | some prev =>
    have hp' : s.abs.parked e = some prev := hp
    refine ⟨(env.write s.trace prev (.frame forBwuSafeToClose)).ok, ?_⟩
    by_cases hok : (env.write s.trace prev (.frame forBwuSafeToClose)).ok = true
    · have hw : (s.write env (some e) prev (.frame forBwuSafeToClose)).1.ok = true := hok
      simp [hw, hok, hp']
    · have hw : (s.write env (some e) prev (.frame forBwuSafeToClose)).1.ok = false :=
        Bool.eq_false_of_not_eq_true hok
      simp [hw, hok, hp']

theorem abs_runUpgradeProtocol (env : Env) (s : World) (e : String) (c : ChannelId) (b : Bool) :
    ∃ lastWriteOk safeOk,
      (s.runUpgradeProtocol env e c b).abs = s.abs.swap e c lastWriteOk safeOk := by
  simp only [runUpgradeProtocol, Swap.State.swap]
  generalize hs₁ : (s.setLocalEndpointId c s.client.localEndpointId).pause c = s₁
  have habs : s₁.abs = s.abs.hold c := by
    rw [← hs₁, abs_pause, abs_setLocalEndpointId]
  cases hr : s₁.getChannelForEndpoint e with
  | none =>
    have hr' : s.abs.registered e = none := by
      rw [← hr, ← hs₁]
      rfl
    exact ⟨true, true, by simp [hr', habs]⟩
  | some old =>
    have hr' : s.abs.registered e = some old := by
      rw [← hr, ← hs₁]
      rfl
    simp only [hr']
    generalize hw : (s₁.replaceChannelForEndpoint e c b).write env (some e) old
      (.frame forBwuLastWrite) = w
    have hwabs : w.2.abs = s.abs.displace e c old w.1.ok := by
      rw [← hw, abs_write, absKind_lastWrite, abs_replaceChannelForEndpoint, habs]
      rfl
    cases hok : w.1.ok with
    | false =>
      rw [hok] at hwabs
      exact ⟨false, true, by simpa using hwabs⟩
    | true =>
      rw [hok] at hwabs
      have hpark : (w.2.park e old).abs = (s.abs.displace e c old true).park e old := by
        rw [abs_park, hwabs]
        rfl
      have hlatch : e ∈ (w.2.park e old).successfullyUpgradedEndpoints ↔ e ∈ s.abs.latched := by
        change e ∈ (w.2.park e old).abs.latched ↔ _
        rw [hpark]
        rfl
      by_cases hl : e ∈ s.abs.latched
      · obtain ⟨ok, h⟩ := abs_processLastWriteToPriorChannelEvent env
          ((w.2.park e old).unlatch e) e
        rw [abs_unlatch, hpark] at h
        exact ⟨true, ok, by simp [hlatch, hl, h]⟩
      · exact ⟨true, true, by simp [hlatch, hl, hpark]⟩

theorem abs_processSafeToClosePriorChannelEvent (env : Env) (s : World) (e : String) :
    ∃ ok, (s.processSafeToClosePriorChannelEvent env e).abs = s.abs.complete e ok := by
  simp only [processSafeToClosePriorChannelEvent, Swap.State.complete]
  cases hp : s.previousEndpointChannels.lookup e with
  | none =>
    have hp' : s.abs.parked e = none := hp
    exact ⟨true, by simp [hp']⟩
  | some prev =>
    have hp' : s.abs.parked e = some prev := hp
    refine ⟨(env.write ((s.unpark e).disableEncryption prev).trace prev
      (.frame (forDisconnection false false))).ok, ?_⟩
    simp only [hp']
    generalize hs₁ : (World.closeWithReason _ prev .upgraded) = s₁
    have habs : s₁.abs = s.abs.drain e prev
        (env.write ((s.unpark e).disableEncryption prev).trace prev
          (.frame (forDisconnection false false))).ok := by
      rw [← hs₁, abs_closeWithReason, abs_read, abs_write, absKind_disconnection,
        abs_disableEncryption, abs_unpark]
      rfl
    have hr : s₁.getChannelForEndpoint e = s.abs.registered e := by
      change s₁.abs.registered e = _
      rw [habs]
      rfl
    cases hreg : s.abs.registered e with
    | none => simp [hr, hreg, habs]
    | some c =>
      simp only [hr, hreg]
      rw [abs_leaveInProgress, abs_onBandwidthChanged, abs_resume, habs]

theorem abs_closeParked (s : World) (e : String) (reason : DisconnectionReason)
    (h : reason ≠ .upgraded) : (s.closeParked e reason).abs = s.abs.dropParked e := by
  unfold closeParked Swap.State.dropParked
  cases hp : s.previousEndpointChannels.lookup e with
  | none =>
    have hp' : s.abs.parked e = none := hp
    simp [hp']
  | some prev =>
    have hp' : s.abs.parked e = some prev := hp
    simp [hp', h]

theorem abs_closeOutOfSync (s : World) (e : String) :
    (s.closeOutOfSync e).abs = s.abs.closeOutOfSync e := by
  simp only [closeOutOfSync, Swap.State.closeOutOfSync]
  rw [← abs_closeParked s e .unfinished (by decide)]
  generalize s.closeParked e .unfinished = s₁
  cases hr : s₁.getChannelForEndpoint e with
  | none =>
    have hr' : s₁.abs.registered e = none := hr
    simp [hr']
  | some c =>
    have hr' : s₁.abs.registered e = some c := hr
    simp only [hr']
    rw [abs_closeWithReason, abs_resume]
    rfl

theorem abs_onEndpointDisconnect (s : World) (u e : String) :
    (s.onEndpointDisconnect u e).abs = s.abs.next (.disconnect e) := by
  unfold onEndpointDisconnect Swap.State.next
  dsimp only
  generalize hs₁ : (if s.hasHandlerForMedium (s.getBwuMediumForEndpoint e) = true then
    s.emit (.handlerDisconnect (s.getBwuMediumForEndpoint e) e) else s) = s₁
  have h₁ : s₁.abs = s.abs := by
    rw [← hs₁]
    split
    · exact abs_emit_none rfl
    · rfl
  rw [← h₁, ← abs_closeParked s₁ e .shutdown (by decide), ← abs_leaveInProgress,
    ← abs_unlatch]
  split
  · exact abs_revertBwuMediumForEndpoint _ _ _
  · rfl

theorem abs_shutdown (s : World) : s.shutdown.abs = s.abs.next .shutdown := by
  have h := foldl_revertInitiatorState (R := fun v w => w.abs = v.abs) (fun _ => rfl)
    (fun hvw hwx => hwx.trans hvw) abs_revertInitiatorState s.handlers.keys
    { s with retryUpgradeAlarms := ∅, retryDelays := ∅ }
  unfold shutdown Swap.State.next
  dsimp only at h ⊢
  generalize List.foldl revertInitiatorState _ _ = s₁ at h ⊢
  have hs : s₁.abs = s.abs := h
  rw [← hs]
  simp [abs]

end World

end Nearby.Bwu
