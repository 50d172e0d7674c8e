import Nearby.Bwu.Parking
import Nearby.Swap.Handshake

/-! One side of an upgrade in which all goes well: how a manager passes through the stages of
the handshake, what it says on the old channel and on the new one, and what it reads there. -/

namespace Nearby.Bwu

open Proto Lib

/-- What a side of the handshake is: its surroundings, its name for the peer, and its ends of
the old channel and of the new one. -/
structure Side where
  env : Env
  peer : String
  old : ChannelId
  new : ChannelId

/-- The frame of a message; the offer is the medium handler's. -/
def messageFrame (offer : OfflineFrame) : Swap.Message → OfflineFrame
  | .offer => offer
  | .lastWrite => forBwuLastWrite
  | .safeToClose => forBwuSafeToClose
  | .disconnection => forDisconnection false false

def messagePayload (offer : Bytes) : Swap.Message → Payload
  | .offer => .offer offer
  | k => .frame (messageFrame {} k)

/-! ### Calls on one channel -/

/-- What was written on `c`, in order; the events are newest first. -/
def sentOn (c : ChannelId) (xs : List Event) : List Payload :=
  xs.reverse.filterMap fun
    | .write _ c' data _ _ result => if c' = c ∧ result = .success then some data else none
    | _ => none

def readsOn (c : ChannelId) (xs : List Event) : Nat := xs.count (.read c)

def Side.Through (x : Side) (xs : List Event) : Prop :=
  .closeWithReason x.old .upgraded ∈ xs ∨ .resume x.new ∈ xs

theorem Side.through_append {x : Side} {xs xs' : List Event} :
    x.Through (xs' ++ xs) ↔ x.Through xs' ∨ x.Through xs := by
  simp only [Through, List.mem_append]
  exact or_or_or_comm

/-! ### Stages of a manager -/

def Side.current (x : Side) : Swap.Stage → ChannelId
  | .swapped _ | .upgraded => x.new
  | _ => x.old

def Side.retired (x : Side) : Swap.Stage → Option ChannelId
  | .swapped _ => some x.old
  | _ => none

def busy : Swap.Stage → Bool
  | .offered _ | .swapped _ => true
  | _ => false

structure Side.Stands (x : Side) (stage : Swap.Stage) (w : World) : Prop where
  connected : w.client.isConnectedToEndpoint x.peer = true
  registered : w.getChannelForEndpoint x.peer = some (x.current stage)
  parked : w.previousEndpointChannels.lookup x.peer = x.retired stage
  latched : x.peer ∈ w.successfullyUpgradedEndpoints ↔ stage = .offered true
  inProgress : x.peer ∈ w.inProgressUpgrades ↔ busy stage = true

/-- The manager went from `stage` in `w` to `stage'` in `t`: what it wrote on its two
channels, and how often it read them. -/
structure Side.Passage (x : Side) (w : World) (stage stage' : Swap.Stage)
    (onOld onNew : List Payload) (drained taken : Nat) (t : World) : Prop where
  stands : x.Stands stage' t
  calls : ∃ xs, t.trace = xs ++ w.trace ∧ sentOn x.old xs = onOld ∧ sentOn x.new xs = onNew ∧
    readsOn x.old xs = drained ∧ readsOn x.new xs = taken ∧
    (x.Through xs → stage' = .upgraded) ∧
    (stage' = .upgraded → stage = .upgraded ∨
      (.closeWithReason x.old .upgraded ∈ xs ∧ .resume x.new ∈ xs))

namespace Side

variable {x : Side} {stage : Swap.Stage} {w : World} {env : Env} {fuel : Nat}

theorem Stands.stays (h : x.Stands stage w) : x.Passage w stage stage [] [] 0 0 w :=
  ⟨h, [], rfl, rfl, rfl, rfl, rfl, nofun, .inl⟩

end Side

namespace World

variable {s : World} {env : Env} {e : String}

theorem onIncomingFrame_lastWrite {fuel : Nat} (hc : s.client.isConnectedToEndpoint e = true) :
    s.onIncomingFrame env fuel forBwuLastWrite e =
      .ok (if e ∈ s.inProgressUpgrades then
        (s.emit (.lastWriteDispatched e)).processLastWriteToPriorChannelEvent env e else s) := by
  obtain ⟨bwu, h, het, -⟩ := onIncomingFrame_dispatch env fuel s e eventOf_forBwuLastWrite
  rw [h]
  simp only [onBwuNegotiationFrame, het, hc, not_true_eq_false, if_false]
  by_cases hin : e ∈ s.inProgressUpgrades
  · rw [if_neg (not_not.mpr hin), if_pos hin]
  · rw [if_pos hin, if_neg hin]

theorem unlatch_of_notMem (h : e ∉ s.successfullyUpgradedEndpoints) : s.unlatch e = s := by
  have herase : s.successfullyUpgradedEndpoints.erase e = s.successfullyUpgradedEndpoints :=
    AList.ext (List.kerase_of_notMem_keys h)
  rw [unlatch, herase]

theorem processSafeToClosePriorChannelEvent_frame :
    (s.processSafeToClosePriorChannelEvent env e).client.endpoints = s.client.endpoints ∧
      (s.processSafeToClosePriorChannelEvent env e).successfullyUpgradedEndpoints =
        s.successfullyUpgradedEndpoints := by
  simp only [processSafeToClosePriorChannelEvent]
  split
  case h_1 => exact ⟨rfl, rfl⟩
  case h_2 => split <;> exact ⟨rfl, rfl⟩

theorem onIncomingFrame_disconnection {fuel : Nat} :
    s.onIncomingFrame env fuel (forDisconnection false false) e = .ok s := by
  rw [onIncomingFrame, if_pos]
  simp

end World

namespace Side

variable {x : Side} {stage : Swap.Stage} {w : World} {env : Env} {fuel : Nat} {b : Bool}

theorem sentOn_append (c : ChannelId) (xs ys : List Event) :
    sentOn c (xs ++ ys) = sentOn c ys ++ sentOn c xs := by
  rw [sentOn, List.reverse_append, List.filterMap_append]
  rfl

theorem readsOn_append (c : ChannelId) (xs ys : List Event) :
    readsOn c (xs ++ ys) = readsOn c ys + readsOn c xs := by
  rw [readsOn, List.count_append, Nat.add_comm]
  rfl

theorem Passage.trans {v t : World} {stage₁ stage₂ stage₃ : Swap.Stage}
    {onOld onNew onOld' onNew' : List Payload} {drained taken drained' taken' : Nat}
    (h : x.Passage w stage₁ stage₂ onOld onNew drained taken v)
    (h' : x.Passage v stage₂ stage₃ onOld' onNew' drained' taken' t) (hmid : stage₂ ≠ .upgraded) :
    x.Passage w stage₁ stage₃ (onOld ++ onOld') (onNew ++ onNew') (drained + drained')
      (taken + taken') t := by
  obtain ⟨xs, htrace, hold, hnew, hd, ht, hthrough, -⟩ := h.calls
  obtain ⟨xs', htrace', hold', hnew', hd', ht', hthrough', hdone'⟩ := h'.calls
  refine ⟨h'.stands, xs' ++ xs, ?_, ?_, ?_, ?_, ?_, ?_, ?_⟩
  · rw [htrace', htrace, List.append_assoc]
  · rw [sentOn_append, hold, hold']
  · rw [sentOn_append, hnew, hnew']
  · rw [readsOn_append, hd, hd']
  · rw [readsOn_append, ht, ht']
  · intro hx
    rcases through_append.mp hx with hx | hx
    · exact hthrough' hx
    · exact absurd (hthrough hx) hmid
  · intro hup
    obtain ⟨hclose, hresume⟩ := (hdone' hup).resolve_left hmid
    exact .inr ⟨List.mem_append_left _ hclose, List.mem_append_left _ hresume⟩

theorem Stands.emit (h : x.Stands stage w) (ev : Event) (hev : ¬ x.Through [ev]) :
    x.Passage w stage stage (sentOn x.old [ev]) (sentOn x.new [ev]) (readsOn x.old [ev])
      (readsOn x.new [ev]) (w.emit ev) :=
  ⟨⟨h.connected, h.registered, h.parked, h.latched, h.inProgress⟩, [ev], rfl, rfl, rfl, rfl, rfl,
    fun hx => absurd hx hev, .inl⟩

theorem Stands.lastWrite_offered (h : x.Stands (.offered b) w) :
    x.Passage w (.offered b) (.offered true) [] [] 0 0
      ((w.emit (.lastWriteDispatched x.peer)).processLastWriteToPriorChannelEvent env x.peer) := by
  have hp : (w.emit (.lastWriteDispatched x.peer)).previousEndpointChannels.lookup x.peer = none :=
    h.parked
  rw [World.processLastWriteToPriorChannelEvent, hp]
  refine ⟨⟨h.connected, h.registered, h.parked, ?_, h.inProgress⟩,
    [.lastWriteDispatched x.peer], rfl, rfl, rfl, rfl, rfl, ?_, by simp⟩
  · simp [World.latch, World.emit, AList.mem_insert]
  · simp [Through]

theorem Stands.answer (hw : ∀ trace c data, env.write trace c data = .success)
    (hne : x.old ≠ x.new) (h : x.Stands (.swapped b) w) :
    x.Passage w (.swapped b) (.swapped true) [.frame forBwuSafeToClose] [] 0 0
      (w.processLastWriteToPriorChannelEvent env x.peer) := by
  have hp : w.previousEndpointChannels.lookup x.peer = some x.old := h.parked
  rw [World.processLastWriteToPriorChannelEvent, hp]
  simp only [World.write, hw, Exception.ok, not_true_eq_false, if_false]
  refine ⟨⟨h.connected, h.registered, h.parked, ?_, h.inProgress⟩, [_], rfl, ?_, ?_, rfl, rfl,
    ?_, by simp⟩
  · exact h.latched.trans (by simp)
  · simp [sentOn]
  · simp [sentOn, hne]
  · simp [Through]

theorem Stands.lastWrite_swapped (hw : ∀ trace c data, env.write trace c data = .success)
    (hne : x.old ≠ x.new) (h : x.Stands (.swapped b) w) :
    x.Passage w (.swapped b) (.swapped true) [.frame forBwuSafeToClose] [] 0 0
      ((w.emit (.lastWriteDispatched x.peer)).processLastWriteToPriorChannelEvent env x.peer) := by
  have hnote := h.emit (.lastWriteDispatched x.peer) (by simp [Through])
  exact hnote.trans (hnote.stands.answer hw hne) nofun

theorem Stands.safeToClose_swapped (hw : ∀ trace c data, env.write trace c data = .success)
    (hne : x.old ≠ x.new) (h : x.Stands (.swapped b) w) :
    x.Passage w (.swapped b) .upgraded [.frame (forDisconnection false false)] [] 1 0
      (w.processSafeToClosePriorChannelEvent env x.peer) := by
  have hcomp := World.processSafeToClosePriorChannelEvent_completed env h.parked h.registered
  have htrace := hcomp.trace
  rw [hw] at htrace
  refine ⟨⟨?_, hcomp.registered, hcomp.unparked, ?_, ?_⟩, [_, _, _, _, _, _], htrace, ?_, ?_, ?_,
    ?_, fun _ => rfl, fun _ => .inr ⟨?_, ?_⟩⟩
  · rw [ClientProxy.isConnectedToEndpoint, World.processSafeToClosePriorChannelEvent_frame.1]
    exact h.connected
  · rw [World.processSafeToClosePriorChannelEvent_frame.2]
    exact h.latched.trans (by simp)
  · simp [hcomp.left, busy]
  · simp [sentOn]
  · simp [sentOn, hne]
  · simp [readsOn]
  · simp [readsOn, hne]
  · simp
  · simp [current]

theorem Stands.hear (hw : ∀ trace c data, env.write trace c data = .success)
    (hne : x.old ≠ x.new) (h : x.Stands stage w) {k : Swap.Message} (hk : k ≠ .offer)
    (offer : OfflineFrame) (bytes : Bytes) :
    ∃ t, w.onIncomingFrame env fuel (messageFrame offer k) x.peer = .ok t ∧
      x.Passage w stage (stage.hear k).1 ((stage.hear k).2.map (messagePayload bytes)) []
        (stage.drains k) 0 t := by
  cases k with
  | offer => exact absurd rfl hk
  | lastWrite =>
    refine ⟨_, World.onIncomingFrame_lastWrite h.connected, ?_⟩
    cases stage with
    | idle | dialled | upgraded =>
      rw [if_neg (by simp [h.inProgress, busy])]
      exact h.stays
    | offered b =>
      rw [if_pos (by simp [h.inProgress, busy])]
      exact h.lastWrite_offered
    | swapped b =>
      rw [if_pos (by simp [h.inProgress, busy])]
      exact h.lastWrite_swapped hw hne
  | safeToClose =>
    refine ⟨_, World.onIncomingFrame_safeToClose h.connected eventOf_forBwuSafeToClose, ?_⟩
    cases stage with
    | idle | dialled | upgraded =>
      rw [if_neg (by simp [h.inProgress, busy])]
      exact h.stays
    | offered b =>
      rw [if_pos (by simp [h.inProgress, busy])]
      have hp : w.previousEndpointChannels.lookup x.peer = none := h.parked
      simp only [World.processSafeToClosePriorChannelEvent, hp]
      exact h.stays
    | swapped b =>
      rw [if_pos (by simp [h.inProgress, busy])]
      exact h.safeToClose_swapped hw hne
  | disconnection =>
    refine ⟨w, World.onIncomingFrame_disconnection, ?_⟩
    cases stage <;> exact h.stays

/-! ### The swap -/

theorem Stands.swap (hw : ∀ trace c data, env.write trace c data = .success)
    (hne : x.old ≠ x.new) (h : x.Stands (.offered b) w) (encrypt : Bool) (bytes : Bytes) :
    x.Passage w (.offered b) (.swapped b)
      ((Swap.Stage.swapped b).said.map (messagePayload bytes)) [] 0 0
      (w.runUpgradeProtocol env x.peer x.new encrypt) := by
  simp only [World.runUpgradeProtocol]
  generalize hs₁ : (w.setLocalEndpointId x.new w.client.localEndpointId).pause x.new = s₁
  have hr : s₁.getChannelForEndpoint x.peer = some x.old := by
    rw [← hs₁]
    exact h.registered
  simp only [hr, World.write, hw, Exception.ok, not_true_eq_false, if_false]
  generalize hs₂ : World.park _ x.peer x.old = s₂
  have hlatched : x.peer ∈ s₂.successfullyUpgradedEndpoints ↔ b = true := by
    rw [← hs₂, ← hs₁]
    exact h.latched.trans (by simp)
  have hparked : x.Passage w (.offered b) (.swapped false) [.frame forBwuLastWrite] [] 0 0
      (s₂.unlatch x.peer) := by
    rw [← hs₂, ← hs₁]
    refine ⟨⟨h.connected, ?_, ?_, ?_, h.inProgress⟩, [_, _, _, _], rfl, ?_, ?_, rfl, rfl, ?_,
      by simp⟩
    · exact AList.lookup_insert ..
    · exact AList.lookup_insert ..
    · simp [World.unlatch, AList.mem_erase]
    · simp [sentOn]
    · simp [sentOn, hne]
    · simp [Through]
  cases b with
  | false =>
    have hnot : x.peer ∉ s₂.successfullyUpgradedEndpoints := by simp [hlatched]
    rw [if_neg hnot]
    rwa [World.unlatch_of_notMem hnot] at hparked
  | true =>
    rw [if_pos (hlatched.mpr rfl)]
    exact hparked.trans (hparked.stands.answer hw hne) (by simp)

theorem Stands.socket (hw : ∀ trace c data, env.write trace c data = .success)
    (hne : x.old ≠ x.new) (h : x.Stands (.offered b) w) {data : Bytes}
    {introduction : ClientIntroduction} (hread : ∀ trace, env.read trace x.new = .ok data)
    (hdecode : World.decodeClientIntroduction env.prost data = some introduction)
    (hid : introduction.endpointId = some x.peer) (bytes : Bytes) :
    x.Passage w (.offered b) (.swapped b)
      ((Swap.Stage.swapped b).said.map (messagePayload bytes)) [.frame forBwuIntroductionAck] 0 1
      (w.onIncomingConnection env x.new) := by
  have hin : x.peer ∈ w.inProgressUpgrades := by simp [h.inProgress, busy]
  have hintro : w.introducedEndpoint env x.new = some x.peer := by
    simp [World.introducedEndpoint, hread, hdecode, hid, hw, Exception.ok,
      World.attributedEndpoint, hin]
  have hgreeted : x.Passage w (.offered b) (.offered b) [] [.frame forBwuIntroductionAck] 0 1
      ((w.acknowledged env x.new).cancelRetryUpgradeAlarm x.peer) := by
    have htrace : ((w.acknowledged env x.new).cancelRetryUpgradeAlarm x.peer).trace =
        [.write none x.new (.frame forBwuIntroductionAck) (w.channels x.new).paused
          (w.channels x.new).encrypted .success, .read x.new, .incoming x.new] ++ w.trace := by
      simp [World.acknowledged, World.introduced, World.cancelRetryUpgradeAlarm, World.write,
        World.read, World.emit, hw]
    refine ⟨⟨h.connected, h.registered, h.parked, h.latched, h.inProgress⟩, _, htrace,
      ?_, ?_, ?_, ?_, ?_, .inl⟩
    · simp [sentOn, hne.symm]
    · simp [sentOn]
    · simp [readsOn, hne.symm]
    · simp [readsOn]
    · simp [Through]
  have hsocket := World.onIncomingConnection_socket env w x.new
  generalize w.onIncomingConnection env x.new = t at hsocket
  cases hsocket with
  | unreadable hnone | unwritable hnone | unattributed hnone =>
    rw [hintro] at hnone
    cases hnone
  | attributed e encrypt he =>
    rw [hintro] at he
    cases he
    exact hgreeted.trans (hgreeted.stands.swap hw hne encrypt bytes) (by simp)

/-! ### The responder -/

def introduction (x : Side) (w : World) (info : UpgradePathInfo) : OfflineFrame :=
  forBwuIntroduction w.client.localEndpointId
    (if (w.channels x.old).localEndpointId = "" then w.client.lastLocalEndpointId
      else (w.channels x.old).localEndpointId)
    (info.supportsDisablingEncryption.getD false)

theorem Stands.dial (hw : ∀ trace c data, env.write trace c data = .success)
    (hne : x.old ≠ x.new) (h : x.Stands .idle w) {info : UpgradePathInfo}
    (hacc : w.Accepts env x.peer info)
    (hmedium : w.getBwuMediumForEndpoint x.peer = .unknownMedium)
    (hhandler : w.hasHandlerForMedium (upiMedium info) = true)
    (hcreate : env.createUpgraded w.trace (upiMedium info) (env.serviceId x.old) x.peer info =
      some x.new) :
    ∃ t, w.beginPathAvailable env x.peer info = .dialled x.new t ∧
      x.Passage w .idle .dialled [] [.frame (x.introduction w info)] 0 0 t := by
  generalize hs : w.setBwuMediumForEndpoint x.peer (upiMedium info) = s
  have hm : s.getBwuMediumForEndpoint x.peer = upiMedium info := by
    rw [← hs, World.getBwuMediumForEndpoint_set]
  have hh : s.hasHandlerForMedium (upiMedium info) = true := by
    rwa [← hs, World.hasHandlerForMedium_congr (World.setBwuMediumForEndpoint_handlers ..)]
  have hst : x.Stands .dialled s := by
    rw [← hs, World.setBwuMediumForEndpoint]
    split <;> exact ⟨h.connected, h.registered, h.parked, h.latched.trans (by simp), h.inProgress⟩
  have htrace : s.trace = w.trace ∧ x.introduction s info = x.introduction w info := by
    rw [← hs, World.setBwuMediumForEndpoint]
    split <;> exact ⟨rfl, rfl⟩
  have hr : s.getChannelForEndpoint x.peer = some x.old := hst.registered
  rw [← htrace.1] at hcreate
  simp only [World.beginPathAvailable, if_neg hacc.allowed, hacc.outgoing, if_neg hacc.idle,
    hmedium, hs, hm, World.dialUpgraded, hh, hr, hcreate, World.write, hw, Exception.ok,
    Bool.false_eq_true, if_false, if_true, ne_eq, not_true_eq_false]
  have hadopted : x.Passage w .idle .dialled [] [] 0 0 s :=
    ⟨hst, [], htrace.1, rfl, rfl, rfl, rfl, by simp [Through], by simp⟩
  have hcreated := hadopted.trans (hst.emit
    (.createUpgraded (upiMedium info) (env.serviceId x.old) x.peer info (some x.new))
    (by simp [Through])) (by simp)
  refine ⟨_, rfl, ?_⟩
  have hgreeted := hcreated.trans (hcreated.stands.emit
    (.write (some x.peer) x.new (.frame (x.introduction s info)) (s.channels x.new).paused
      (s.channels x.new).encrypted .success) (by simp [Through])) (by simp)
  rw [← htrace.2]
  simpa [sentOn, readsOn, hne.symm, World.emit, introduction] using hgreeted

theorem Stands.finish (hw : ∀ trace c data, env.write trace c data = .success)
    (hne : x.old ≠ x.new) (h : x.Stands .dialled w) {info : UpgradePathInfo}
    (hack : info.supportsClientIntroductionAck.getD false = true →
      ∃ data, (∀ trace, env.read trace x.new = .ok data) ∧
        env.prost.fromBytes data = .ok forBwuIntroductionAck) :
    x.Passage w .dialled (.swapped false) [.frame forBwuLastWrite] [] 0
      (if info.supportsClientIntroductionAck.getD false then 1 else 0)
      (w.finishPathAvailable env x.peer info x.new) := by
  simp only [World.finishPathAvailable]
  generalize hacked : (if info.supportsClientIntroductionAck.getD false = true then
    w.readClientIntroductionAckFrame env x.new else (true, w)) = acked
  have hread : acked.1 = true ∧ x.Passage w .dialled .dialled [] [] 0
      (if info.supportsClientIntroductionAck.getD false then 1 else 0) acked.2 := by
    rw [← hacked]
    by_cases ha : info.supportsClientIntroductionAck.getD false = true
    · obtain ⟨data, hdata, hparse⟩ := hack ha
      rw [if_pos ha, if_pos ha]
      refine ⟨?_, ?_⟩
      · simp only [World.readClientIntroductionAckFrame, World.read, hdata, hparse]
        rfl
      · have hnote := h.emit (.read x.new) (by simp [Through])
        change x.Passage w .dialled .dialled [] [] 0 1 (w.emit (.read x.new))
        simpa [sentOn, readsOn, hne.symm] using hnote
    · rw [if_neg ha, if_neg ha]
      exact ⟨rfl, h.stays⟩
  rw [if_neg (not_not.mpr hread.1)]
  have henter : x.Passage acked.2 .dialled (.offered false) [] [] 0 0
      (acked.2.enterInProgress x.peer) := by
    obtain ⟨hc, hr, hp, hl, -⟩ := hread.2.stands
    refine ⟨⟨hc, hr, hp, hl.trans (by simp), ?_⟩, [.started x.peer], rfl, rfl, rfl, rfl, rfl, ?_,
      by simp⟩
    · simp [World.enterInProgress, World.emit, AList.mem_insert, busy]
    · simp [Through]
  have hpre := hread.2.trans henter (by simp)
  exact hpre.trans (hpre.stands.swap hw hne _ []) (by simp)

/-! ### The initiator's offer -/

theorem Stands.prepared (h : x.Stands .idle w) (m : Medium) :
    x.Passage w .idle .idle [] [] 0 0 (w.prepared x.peer m) := by
  rw [World.prepared, World.setBwuMediumForEndpoint]
  split <;> exact ⟨⟨h.connected, h.registered, h.parked, h.latched, h.inProgress⟩,
    [.initiate x.peer m], rfl, rfl, rfl, rfl, rfl, by simp [Through], .inl⟩

theorem Stands.initiate (hw : ∀ trace c data, env.write trace c data = .success)
    (hne : x.old ≠ x.new) (h : x.Stands .idle w) {m : Medium}
    (hp : w.InitiatePasses env x.peer m) {bytes : Bytes} (hbytes : bytes ≠ [])
    (hhandle : env.handleInitialize (w.prepared x.peer m).trace m
      (wrapInitiatorUpgradeServiceId (env.serviceId x.old)) x.peer = bytes) {t : World}
    (hinit : w.initiateBwuForEndpoint env fuel x.peer m = .ok t) :
    x.Passage w .idle (.offered false) [.offer bytes] [] 0 0 t := by
  cases fuel with
  | zero => cases hinit
  | succ fuel =>
    have hprep := h.prepared m
    have hreg : w.getChannelForEndpoint x.peer = some x.old := h.registered
    have hhandler : m ∈ (w.prepared x.peer m).handlers := by
      have hm := hp.2.1
      rw [World.hasHandlerForMedium, Bool.and_eq_true] at hm
      simpa [World.prepared, World.cancelRetryUpgradeAlarm, World.emit] using hm.2
    rw [World.initiateBwuForEndpoint, World.initiateBody_passes hp hreg, World.offered,
      World.asked] at hinit
    obtain ⟨handler, hl⟩ := HashMap.lookup_of_mem hhandler
    generalize w.prepared x.peer m = v at hprep hhandle hl hinit
    simp only [World.initializeUpgradedMediumForEndpoint, hl, hhandle, hbytes, if_false,
      World.write, hw, Exception.ok, not_true_eq_false, Except.ok.injEq] at hinit
    obtain ⟨hc, hr, hpk, hlt, -⟩ := hprep.stands
    have hoffered : x.Passage v .idle (.offered false) [.offer bytes] [] 0 0 t := by
      rw [← hinit]
      refine ⟨⟨hc, hr, hpk, hlt.trans (by simp), ?_⟩, [_, _, _], rfl, ?_, ?_, rfl, rfl, ?_, by simp⟩
      · simp [World.enterInProgress, World.emit, AList.mem_insert, busy]
      · simp [sentOn]
      · simp [sentOn, hne]
      · simp [Through]
    exact hprep.trans hoffered (by simp)

end Side

end Nearby.Bwu
