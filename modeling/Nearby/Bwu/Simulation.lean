import Nearby.Bwu.Refinement

/-! The manager refines the exchange: each operation is a run of exchange labels, and
`Occurs` says which labels it can be, in which states, and for which endpoint. -/

namespace Nearby.Bwu

open Proto Lib Relation

/-- The negotiation event an incoming frame is dispatched on. -/
def eventOf (frame : OfflineFrame) : Option (EventType × Option UpgradePathInfo) :=
  if getFrameType frame ≠ .bandwidthUpgradeNegotiation then none
  else
    (frame.v1.bind (·.bandwidthUpgradeNegotiation)).map fun bwu =>
      ((bwu.eventType.bind EventType.tryFrom).getD .unknownEventType, bwu.upgradePathInfo)

theorem eventOf_forBwuLastWrite :
    eventOf forBwuLastWrite = some (.lastWriteToPriorChannel, none) := by decide

theorem eventOf_forBwuSafeToClose :
    eventOf forBwuSafeToClose = some (.safeToClosePriorChannel, none) := by decide

theorem eventOf_forBwuFailure (info : UpgradePathInfo) :
    eventOf (forBwuFailure info) = some (.upgradeFailure, some info) := by
  rw [eventOf, forBwuFailure, getFrameType_bwuFrame]
  rfl

theorem eventOf_bwuUpgradePathAvailable (info : UpgradePathInfo) :
    eventOf (bwuUpgradePathAvailable info) = some (.upgradePathAvailable, some info) := by
  rw [eventOf, bwuUpgradePathAvailable, getFrameType_bwuFrame]
  rfl

namespace World

/-- The endpoint a new socket is attributed to once its introduction is read and
acknowledged. -/
def introducedEndpoint (env : Env) (s : World) (c : ChannelId) : Option String :=
  match env.read (.incoming c :: s.trace) c with
  | .error _ => none
  | .ok data =>
    (decodeClientIntroduction env.prost data).bind fun introduction =>
      if (env.write (.read c :: .incoming c :: s.trace) c (.frame forBwuIntroductionAck)).ok then
        s.attributedEndpoint (introduction.endpointId.getD "")
      else none

inductive Renegotiates (env : Env) (s : World) (e : String) : Op → Prop
  | initiate {m : Medium} : s.InitiatePasses env e m →
      Renegotiates env s e (.initiateBwuForEndpoint e m)
  | retry : s.RetryPasses e → Renegotiates env s e (.fireRetryAlarm e)
  | failure {frame : OfflineFrame} {info : UpgradePathInfo} :
      s.client.isConnectedToEndpoint e = true → eventOf frame = some (.upgradeFailure, some info) →
      Renegotiates env s e (.onIncomingFrame frame e)

/-- The offer `info` is not dropped: it is refused, or passes the guards. -/
def Answered (env : Env) (s : World) (e : String) (info : UpgradePathInfo) : Prop :=
  s.client.isConnectedToEndpoint e = false ∨
    (s.isWifiLanConnected env ∧ upiMedium info = .wifiHotspot) ∨
    (s.client.isIncomingConnection e = false ∧ e ∉ s.inProgressUpgrades)

/-- The offer `info` passes the guards of `process_bwu_path_available_event`. -/
structure Accepts (env : Env) (s : World) (e : String) (info : UpgradePathInfo) : Prop where
  connected : s.client.isConnectedToEndpoint e = true
  allowed : ¬ (s.isWifiLanConnected env ∧ upiMedium info = .wifiHotspot)
  outgoing : s.client.isIncomingConnection e = false
  idle : e ∉ s.inProgressUpgrades

theorem Accepts.answered {env : Env} {s : World} {e : String} {info : UpgradePathInfo}
    (h : s.Accepts env e info) : s.Answered env e info :=
  .inr (.inr ⟨h.outgoing, h.idle⟩)

/-- `op` exchanges the channel of `e`, or is on the way to it. -/
inductive Swaps (env : Env) (s : World) (e : String) : Op → Prop
  | socket {c : ChannelId} : s.introducedEndpoint env c = some e →
      Swaps env s e (.onIncomingConnection c)
  | offer {frame : OfflineFrame} {info : UpgradePathInfo} :
      eventOf frame = some (.upgradePathAvailable, some info) → s.Accepts env e info →
      Swaps env s e (.onIncomingFrame frame e)

inductive Abandons (env : Env) (s : World) (e : String) : Op → Prop
  | reset : Abandons env s e (.resetUpgradeForEndpoint e)
  | failure {frame : OfflineFrame} {info : UpgradePathInfo} :
      s.client.isConnectedToEndpoint e = true → eventOf frame = some (.upgradeFailure, some info) →
      Abandons env s e (.onIncomingFrame frame e)
  | refused {frame : OfflineFrame} {info : UpgradePathInfo} :
      eventOf frame = some (.upgradePathAvailable, some info) → s.Answered env e info →
      Abandons env s e (.onIncomingFrame frame e)

/-- The label `l` can be part of what `op` does in `s`, at a moment when the exchange is
in state `u`. -/
inductive Occurs (env : Env) (s : World) :
    Op → Swap.State String ChannelId → Swap.Label String ChannelId → Prop
  | register (e c) : Occurs env s (.registerChannelForEndpoint e c) s.abs (.register e c)
  | unregister (e) : Occurs env s (.unregisterChannelForEndpoint e) s.abs (.unregister e)
  | ownerClose (c) : Occurs env s (.closeChannel c) s.abs (.ownerClose c)
  | ownerEncrypt (c) : Occurs env s (.enableEncryption c) s.abs (.ownerEncrypt c)
  | shutdown : Occurs env s .shutdown s.abs .shutdown
  | disconnect (u e) : Occurs env s (.onEndpointDisconnect u e) s.abs (.disconnect e)
  | reset (e) : Occurs env s (.resetUpgradeForEndpoint e) s.abs (.leave e)
  | speak {op e u} (ok) : Renegotiates env s e op → s.abs.Agrees u →
      Occurs env s op u (.speak e ok)
  | enter {op e} (u) : Renegotiates env s e op → Occurs env s op u (.enter e)
  | fail {frame e info} : s.client.isConnectedToEndpoint e = true →
      eventOf frame = some (.upgradeFailure, some info) →
      Occurs env s (.onIncomingFrame frame e) s.abs (.leave e)
  | lastWrite {frame e info} (ok) : s.client.isConnectedToEndpoint e = true →
      eventOf frame = some (.lastWriteToPriorChannel, info) →
      Occurs env s (.onIncomingFrame frame e) s.abs (.lastWrite e ok)
  | complete {frame e info} (ok) : s.client.isConnectedToEndpoint e = true →
      eventOf frame = some (.safeToClosePriorChannel, info) →
      Occurs env s (.onIncomingFrame frame e) s.abs (.complete e ok)
  | refuse {frame e info u} (ok) : eventOf frame = some (.upgradePathAvailable, some info) →
      s.Answered env e info → s.abs.Agrees u →
      Occurs env s (.onIncomingFrame frame e) u (.speak e ok)
  | refused {frame e info u} : eventOf frame = some (.upgradePathAvailable, some info) →
      s.Answered env e info → s.abs.Agrees u →
      Occurs env s (.onIncomingFrame frame e) u (.leave e)
  | outOfSync {frame e info} : eventOf frame = some (.upgradePathAvailable, some info) →
      Occurs env s (.onIncomingFrame frame e) s.abs (.closeOutOfSync e)
  | dialled {frame e c} :
      Occurs env s (.onIncomingFrame frame e) s.abs (.arrive c)
  | introduce {frame e c} (ok) :
      Occurs env s (.onIncomingFrame frame e) (s.abs.next (.arrive c)) (.greet (some e) c ok)
  | takeUp {frame e info} (u) : eventOf frame = some (.upgradePathAvailable, some info) →
      s.Accepts env e info → Occurs env s (.onIncomingFrame frame e) u (.enter e)
  | dialledSwap {frame e info c u} (ok ok') :
      eventOf frame = some (.upgradePathAvailable, some info) → s.Accepts env e info →
      s.abs.Arrived c u → Occurs env s (.onIncomingFrame frame e) u (.swap e c ok ok')
  | hangUp {op} (u c) : Occurs env s op u (.hangUp c)
  | incoming (c) : Occurs env s (.onIncomingConnection c) s.abs (.arrive c)
  | acknowledge (c ok) :
      Occurs env s (.onIncomingConnection c) (s.abs.next (.arrive c)) (.greet none c ok)
  | incomingSwap {c e u} (ok ok') : s.introducedEndpoint env c = some e → s.abs.Arrived c u →
      Occurs env s (.onIncomingConnection c) u (.swap e c ok ok')

abbrev Runs (env : Env) (s : World) (op : Op) : Swap.State String ChannelId → Prop :=
  Reach Swap.State.Step (Occurs env s op) s.abs

/-! ### The failure chain -/

theorem Preludes.abs_eq {e : String} {s t : World} (h : Preludes e s t) : t.abs = s.abs := by
  induction h with
  | refl => rfl
  | tail _ hm ih =>
    rw [← ih]
    cases hm with
    | initiate => exact abs_emit_none rfl
    | setMedium => exact abs_setBwuMediumForEndpoint _ _ _
    | cancel => rfl
    | retry h => exact abs_retryUpgradesAfterDelay h

theorem abs_speak (env : Env) {s : World} {e : String} {c : ChannelId} {data : Payload}
    (hc : s.getChannelForEndpoint e = some c) (hk : absKind data = .other) :
    (s.write env (some e) c data).2.abs =
      s.abs.next (.speak e (env.write s.trace c data).ok) := by
  have hr : s.abs.registered e = some c := hc
  rw [abs_write, hk, Swap.State.next, hr]

theorem Moves.runs {env : Env} {s s₁ t : World} {op : Op} {e : String}
    (hop : s.Renegotiates env e op) (h₁ : s.Runs env op s₁.abs) (ha : s.abs.Agrees s₁.abs)
    (h : Moves env e s₁ t) : s.Runs env op t.abs ∧ s.abs.Agrees t.abs := by
  induction h with
  | refl => exact ⟨h₁, ha⟩
  | tail _ hm ih =>
    obtain ⟨hr, ha⟩ := ih
    cases hm with
    | quiet hq =>
      rw [Preludes.abs_eq (.single hq)]
      exact ⟨hr, ha⟩
    | askHandler =>
      rw [abs_initializeUpgradedMediumForEndpoint]
      exact ⟨hr, ha⟩
    | offer bytes hc =>
      rw [abs_speak env hc rfl]
      exact ⟨hr.snoc (.speak _ hop ha) ⟨trivial, rfl⟩, ha.speak _ _⟩
    | enter hin =>
      rw [abs_enterInProgress]
      exact ⟨hr.snoc (.enter _ hop) ⟨hin, rfl⟩, ha.tail rfl rfl rfl fun _ => .inl rfl⟩
    | revert =>
      rw [abs_revertBwuMediumForEndpoint]
      exact ⟨hr, ha⟩

/-! ### Offers -/

section Offer

variable {env : Env} {s : World} {frame : OfflineFrame} {e : String} {info : UpgradePathInfo}

theorem runUpgradeFailedProtocol_runs {v : World}
    (hf : eventOf frame = some (.upgradePathAvailable, some info)) (hans : s.Answered env e info)
    (hv : s.Runs env (.onIncomingFrame frame e) v.abs) (ha : s.abs.Agrees v.abs) :
    s.Runs env (.onIncomingFrame frame e) (v.runUpgradeFailedProtocol env e info).abs := by
  rw [runUpgradeFailedProtocol]
  split
  case h_1 => exact hv
  case h_2 c hc =>
    have hw := abs_speak env hc (absKind_failure info)
    have h₁ := hv.snoc (.refuse _ hf hans ha) ⟨trivial, hw⟩
    have ha₁ : s.abs.Agrees (v.write env (some e) c (.frame (forBwuFailure info))).2.abs := by
      rw [hw]
      exact ha.speak _ _
    dsimp only
    split
    case isTrue =>
      rw [abs_closeWithReason]
      exact h₁.snoc (.hangUp _ c) ⟨trivial, rfl⟩
    case isFalse =>
      refine h₁.snoc (.refused hf hans ha₁) ⟨trivial, ?_⟩
      rw [abs_leaveInProgress]
      split
      case isTrue => rw [abs_revertBwuMediumForEndpoint]; rfl
      case isFalse => rfl

inductive Dial (env : Env) (v : World) (e : String) (info : UpgradePathInfo) :
    Option ChannelId × World → Prop
  | unable : Dial env v e info (none, v)
  | unreachable (m u) : Dial env v e info (none, v.emit (.createUpgraded m u e info none))
  | lost (m u c intro) : absKind (.frame intro) = .other →
      env.createUpgraded v.trace m u e info = some c →
      Dial env v e info (none,
        ((v.emit (.createUpgraded m u e info (some c))).write env (some e) c
          (.frame intro)).2.close c)
  | dialled (m u c intro) : absKind (.frame intro) = .other →
      env.createUpgraded v.trace m u e info = some c →
      Dial env v e info (some c,
        ((v.emit (.createUpgraded m u e info (some c))).write env (some e) c (.frame intro)).2)

theorem dialUpgraded_dial (env : Env) (v : World) (e : String) (info : UpgradePathInfo) :
    Dial env v e info (v.dialUpgraded env e info) := by
  simp only [dialUpgraded]
  split
  case isTrue => exact .unable
  split
  case isTrue => exact .unable
  split
  case h_1 => exact .unable
  case h_2 old _ =>
    generalize (if (v.channels old).localEndpointId = "" then _ else _) = lastLocal
    split
    case h_1 h =>
      rw [h]
      exact .unreachable _ _
    case h_2 c h =>
      rw [h]
      split
      case isTrue => exact .lost _ _ _ _ (absKind_introduction _ _ _) h
      case isFalse => exact .dialled _ _ _ _ (absKind_introduction _ _ _) h

theorem introduce_runs (env : Env) (frame : OfflineFrame) {v : World} (m : Medium) (u : String)
    {c : ChannelId} {intro : OfflineFrame} (hk : absKind (.frame intro) = .other)
    (hv : v.abs = s.abs) :
    s.Runs env (.onIncomingFrame frame e)
        ((v.emit (.createUpgraded m u e info (some c))).write env (some e) c (.frame intro)).2.abs ∧
      s.abs.Arrived c
        ((v.emit (.createUpgraded m u e info (some c))).write env (some e) c
          (.frame intro)).2.abs := by
  have h₁ : (v.emit (.createUpgraded m u e info (some c))).abs = s.abs.next (.arrive c) := by
    rw [abs_emit_some rfl, hv]
    rfl
  rw [abs_write, hk, h₁]
  constructor
  · have hr : s.Runs env (.onIncomingFrame frame e) (s.abs.next (.arrive c)) :=
      ReflTransGen.single ⟨_, .dialled, trivial, rfl⟩
    exact hr.snoc (.introduce _) ⟨trivial, rfl⟩
  · exact Swap.State.arrived_greet _ _ _ _

theorem dialUpgraded_runs (env : Env) (frame : OfflineFrame) (e : String)
    (info : UpgradePathInfo) {v : World} (hv : v.abs = s.abs) :
    s.Runs env (.onIncomingFrame frame e) (v.dialUpgraded env e info).2.abs ∧
      s.abs.Agrees (v.dialUpgraded env e info).2.abs ∧
      (v.dialUpgraded env e info).2.abs.inProgress = s.abs.inProgress ∧
      ∀ c, (v.dialUpgraded env e info).1 = some c →
        s.abs.Arrived c (v.dialUpgraded env e info).2.abs := by
  have hd := dialUpgraded_dial env v e info
  generalize v.dialUpgraded env e info = d at hd
  cases hd with
  | unable =>
    rw [hv]
    exact ⟨.refl, .refl _, rfl, fun _ h => nomatch h⟩
  | unreachable m u =>
    rw [abs_emit_none rfl, hv]
    exact ⟨.refl, .refl _, rfl, fun _ h => nomatch h⟩
  | lost m u c intro hk =>
    obtain ⟨hr, ha⟩ := introduce_runs env frame m u hk hv
    rw [abs_close]
    refine ⟨hr.snoc (.hangUp _ c) ⟨trivial, rfl⟩, ha.agrees.shut _ _, ?_, fun _ h => nomatch h⟩
    rw [← hv]
    rfl
  | dialled m u c intro hk =>
    obtain ⟨hr, ha⟩ := introduce_runs env frame m u hk hv
    refine ⟨hr, ha.agrees, ?_, ?_⟩
    · rw [← hv]
      rfl
    · rintro _ ⟨⟩
      exact ha

theorem finishPathAvailable_runs {v : World} {c : ChannelId}
    (hf : eventOf frame = some (.upgradePathAvailable, some info)) (hacc : s.Accepts env e info)
    (hin : v.abs.inProgress = s.abs.inProgress)
    (hv : s.Runs env (.onIncomingFrame frame e) v.abs) (ha : s.abs.Arrived c v.abs) :
    s.Runs env (.onIncomingFrame frame e) (v.finishPathAvailable env e info c).abs := by
  simp only [finishPathAvailable]
  generalize hack : (if info.supportsClientIntroductionAck.getD false = true then
    v.readClientIntroductionAckFrame env c else (true, v)) = acked
  have hacked : acked.2.abs = v.abs := by
    rw [← hack]
    split
    · exact abs_emit_none rfl
    · rfl
  rw [← hacked] at hv ha
  split
  case isTrue =>
    apply runUpgradeFailedProtocol_runs hf hacc.answered
    · rw [abs_close]
      exact hv.snoc (.hangUp _ c) ⟨trivial, rfl⟩
    · rw [abs_close]
      exact ha.agrees.shut _ _
  case isFalse =>
    have hin₂ : e ∉ acked.2.abs.inProgress := by
      rw [hacked, hin]
      exact hacc.idle
    obtain ⟨ok, ok', h⟩ := abs_runUpgradeProtocol env (acked.2.enterInProgress e) e c
      (!info.supportsDisablingEncryption.getD false)
    have h₁ := hv.snoc (.takeUp _ hf hacc) ⟨hin₂, rfl⟩
    rw [h, abs_enterInProgress]
    refine h₁.snoc (.dialledSwap ok ok' hf hacc (ha.enter e)) ⟨?_, rfl⟩
    exact Set.mem_insert _ _

/-- The medium entry an offer of `m` finds: its own, where there was none. -/
def adopted (s : World) (e : String) (m : Medium) : World :=
  if s.getBwuMediumForEndpoint e = .unknownMedium then s.setBwuMediumForEndpoint e m else s

theorem abs_adopted (s : World) (e : String) (m : Medium) : (s.adopted e m).abs = s.abs := by
  rw [adopted]
  split
  · exact abs_setBwuMediumForEndpoint _ _ _
  · rfl

inductive Begun (env : Env) (s : World) (e : String) (info : UpgradePathInfo) :
    PathAvailable → Prop
  | barred : s.isWifiLanConnected env ∧ upiMedium info = .wifiHotspot →
      Begun env s e info (.returned (s.runUpgradeFailedProtocol env e info))
  | incoming : Begun env s e info (.returned s)
  | outOfSync : e ∈ s.inProgressUpgrades → Begun env s e info (.returned (s.closeOutOfSync e))
  | mismatched : ¬ (s.isWifiLanConnected env ∧ upiMedium info = .wifiHotspot) →
      s.client.isIncomingConnection e = false → e ∉ s.inProgressUpgrades →
      Begun env s e info
        (.returned ((s.adopted e (upiMedium info)).runUpgradeFailedProtocol env e info))
  | undialled {d} : ¬ (s.isWifiLanConnected env ∧ upiMedium info = .wifiHotspot) →
      s.client.isIncomingConnection e = false → e ∉ s.inProgressUpgrades →
      (s.adopted e (upiMedium info)).dialUpgraded env e info = (none, d) →
      Begun env s e info (.returned (d.runUpgradeFailedProtocol env e info))
  | dialled {c d} : ¬ (s.isWifiLanConnected env ∧ upiMedium info = .wifiHotspot) →
      s.client.isIncomingConnection e = false → e ∉ s.inProgressUpgrades →
      (s.adopted e (upiMedium info)).dialUpgraded env e info = (some c, d) →
      Begun env s e info (.dialled c d)

theorem beginPathAvailable_begun (env : Env) (s : World) (e : String) (info : UpgradePathInfo) :
    Begun env s e info (s.beginPathAvailable env e info) := by
  simp only [beginPathAvailable]
  split
  case isTrue hw => exact .barred hw
  case isFalse hw =>
    split
    case isTrue => exact .incoming
    case isFalse hc =>
      split
      case isTrue hin => exact .outOfSync hin
      case isFalse hin =>
        have hc := Bool.eq_false_of_not_eq_true hc
        rw [← adopted]
        split
        case isTrue => exact .mismatched hw hc hin
        case isFalse =>
          split
          case h_1 h => exact .undialled hw hc hin (Prod.ext h rfl)
          case h_2 c h => exact .dialled hw hc hin (Prod.ext h rfl)

theorem processBwuPathAvailableEvent_runs (hconn : s.client.isConnectedToEndpoint e = true)
    (hf : eventOf frame = some (.upgradePathAvailable, some info)) :
    s.Runs env (.onIncomingFrame frame e) (s.processBwuPathAvailableEvent env e info).abs := by
  have hb := beginPathAvailable_begun env s e info
  have hd := dialUpgraded_runs env frame e info (abs_adopted s e (upiMedium info))
  rw [processBwuPathAvailableEvent]
  generalize s.beginPathAvailable env e info = p at hb
  cases hb with
  | barred hw => exact runUpgradeFailedProtocol_runs hf (.inr (.inl hw)) .refl (.refl _)
  | incoming => exact .refl
  | outOfSync hin =>
    dsimp only
    rw [abs_closeOutOfSync]
    exact ReflTransGen.single ⟨_, .outOfSync hf, hin, rfl⟩
  | mismatched hw hc hin =>
    have hacc : s.Accepts env e info := ⟨hconn, hw, hc, hin⟩
    apply runUpgradeFailedProtocol_runs hf hacc.answered
    · rw [abs_adopted]
    · rw [abs_adopted]
      exact Swap.State.Agrees.refl _
  | undialled hw hc hin hdial =>
    have hacc : s.Accepts env e info := ⟨hconn, hw, hc, hin⟩
    rw [hdial] at hd
    exact runUpgradeFailedProtocol_runs hf hacc.answered hd.1 hd.2.1
  | dialled hw hc hin hdial =>
    have hacc : s.Accepts env e info := ⟨hconn, hw, hc, hin⟩
    rw [hdial] at hd
    exact finishPathAvailable_runs hf hacc hd.2.2.1 hd.1 (hd.2.2.2 _ rfl)

end Offer

/-! ### Frames, sockets, operations -/

theorem onIncomingFrame_dispatch (env : Env) (fuel : Nat) (s : World) {frame : OfflineFrame}
    (e : String) {event : EventType} {info : Option UpgradePathInfo}
    (hev : eventOf frame = some (event, info)) :
    ∃ bwu, s.onIncomingFrame env fuel frame e = s.onBwuNegotiationFrame env fuel bwu e ∧
      (bwu.eventType.bind EventType.tryFrom).getD .unknownEventType = event ∧
      bwu.upgradePathInfo = info := by
  simp only [eventOf] at hev
  split at hev
  case isTrue => cases hev
  case isFalse hb =>
    obtain ⟨bwu, hv, he⟩ := Option.map_eq_some_iff.mp hev
    cases he
    exact ⟨bwu, by simp only [onIncomingFrame, if_neg hb, hv], rfl, rfl⟩

theorem onIncomingFrame_runs {env : Env} {fuel : Nat} {s t : World} {frame : OfflineFrame}
    {e : String} (h : s.onIncomingFrame env fuel frame e = .ok t) :
    s.Runs env (.onIncomingFrame frame e) t.abs := by
  simp only [onIncomingFrame] at h
  split at h
  case isTrue => cases h; exact .refl
  case isFalse hb =>
    split at h
    case h_1 => cases h; exact .refl
    case h_2 bwu hv =>
      have hev : eventOf frame = some
          ((bwu.eventType.bind EventType.tryFrom).getD .unknownEventType, bwu.upgradePathInfo) := by
        rw [eventOf, if_neg hb, hv, Option.map_some]
      simp only [onBwuNegotiationFrame] at h
      generalize (bwu.eventType.bind EventType.tryFrom).getD .unknownEventType = event at h hev
      by_cases hc : s.client.isConnectedToEndpoint e = true
      case neg =>
        rw [if_pos hc] at h
        split at h
        case h_1 hi =>
          rw [hi] at hev
          cases h
          exact runUpgradeFailedProtocol_runs hev
            (.inl (Bool.eq_false_of_not_eq_true hc)) .refl (.refl _)
        case h_2 => cases h; exact .refl
      case pos =>
        rw [if_neg (not_not.mpr hc)] at h
        split at h
        case h_1 =>
          split at h
          case h_1 hi =>
            rw [hi] at hev
            cases h
            exact processBwuPathAvailableEvent_runs hc hev
          case h_2 => cases h; exact .refl
        case h_2 =>
          split at h
          case h_1 hi =>
            rw [hi] at hev
            have hm := processUpgradeFailureEvent_moves h
            refine (hm.runs (.failure hc hev) ?_ ?_).1
            · rw [abs_leaveInProgress]
              exact ReflTransGen.single ⟨_, .fail hc hev, trivial, rfl⟩
            · rw [abs_leaveInProgress]
              exact ⟨rfl, rfl, rfl, fun _ => .inl rfl⟩
          case h_2 => cases h; exact .refl
        case h_3 =>
          split at h
          case isTrue => cases h; exact .refl
          case isFalse hin =>
            cases h
            obtain ⟨ok, ha⟩ := abs_processLastWriteToPriorChannelEvent env
              (s.emit (.lastWriteDispatched e)) e
            rw [ha, abs_emit_some rfl]
            exact ReflTransGen.single ⟨_, .lastWrite ok hc hev, not_not.mp hin, rfl⟩
        case h_4 =>
          split at h
          case isTrue => cases h; exact .refl
          case isFalse hin =>
            cases h
            obtain ⟨ok, ha⟩ := abs_processSafeToClosePriorChannelEvent env s e
            rw [ha]
            exact ReflTransGen.single ⟨_, .complete ok hc hev, not_not.mp hin, rfl⟩
        case h_5 => cases h; exact .refl

theorem attributedEndpoint_mem {s : World} {x e : String} (h : s.attributedEndpoint x = some e) :
    e ∈ s.inProgressUpgrades := by
  simp only [attributedEndpoint] at h
  split at h
  case isTrue hx =>
    cases h
    exact hx
  case isFalse =>
    split at h
    case isTrue => exact HashSet.only?_mem h
    case isFalse => cases h

def introduced (env : Env) (s : World) (c : ChannelId) : World :=
  ((s.emit (.incoming c)).read env c).2

def acknowledged (env : Env) (s : World) (c : ChannelId) : World :=
  ((s.introduced env c).write env none c (.frame forBwuIntroductionAck)).2

inductive Socket (env : Env) (s : World) (c : ChannelId) : World → Prop
  | unreadable : s.introducedEndpoint env c = none → Socket env s c ((s.introduced env c).close c)
  | unwritable : s.introducedEndpoint env c = none →
      Socket env s c ((s.acknowledged env c).close c)
  | unattributed : s.introducedEndpoint env c = none → Socket env s c (s.acknowledged env c)
  | attributed (e b) : s.introducedEndpoint env c = some e →
      Socket env s c
        (((s.acknowledged env c).cancelRetryUpgradeAlarm e).runUpgradeProtocol env e c b)

theorem onIncomingConnection_socket (env : Env) (s : World) (c : ChannelId) :
    Socket env s c (s.onIncomingConnection env c) := by
  cases hr : env.read (.incoming c :: s.trace) c with
  | error x =>
    have hr' : ((s.emit (.incoming c)).read env c).1 = .error x := hr
    simp only [onIncomingConnection, readClientIntroductionFrame, hr']
    exact .unreadable (by rw [introducedEndpoint, hr])
  | ok data =>
    have hr' : ((s.emit (.incoming c)).read env c).1 = .ok data := hr
    simp only [onIncomingConnection, readClientIntroductionFrame, hr']
    cases hd : decodeClientIntroduction env.prost data with
    | none => exact .unreadable (by simp [introducedEndpoint, hr, hd])
    | some introduction =>
      have hi : s.introducedEndpoint env c =
          if (env.write (.read c :: .incoming c :: s.trace) c
              (.frame forBwuIntroductionAck)).ok then
            s.attributedEndpoint (introduction.endpointId.getD "")
          else none := by
        simp only [introducedEndpoint, hr, hd, Option.bind_some]
      dsimp only
      rw [← introduced, ← acknowledged]
      split
      case isTrue hok => exact .unwritable (by rw [hi]; exact if_neg hok)
      case isFalse hok =>
        have hi := hi.trans (if_pos (not_not.mp hok))
        split
        case h_1 h => exact .unattributed (hi.trans h)
        case h_2 e h => exact .attributed e _ (hi.trans h)

theorem introducedEndpoint_mem {env : Env} {s : World} {c : ChannelId} {e : String}
    (h : s.introducedEndpoint env c = some e) : e ∈ s.inProgressUpgrades := by
  simp only [introducedEndpoint] at h
  split at h
  case h_1 => cases h
  case h_2 =>
    obtain ⟨introduction, -, h⟩ := Option.bind_eq_some_iff.mp h
    split at h
    case isTrue => exact attributedEndpoint_mem h
    case isFalse => cases h

theorem abs_introduced (env : Env) (s : World) (c : ChannelId) :
    (s.introduced env c).abs = s.abs.next (.arrive c) := by
  rw [introduced, abs_read, abs_emit_some rfl]
  rfl

theorem acknowledged_runs (env : Env) (s : World) (c : ChannelId) :
    s.Runs env (.onIncomingConnection c) (s.acknowledged env c).abs ∧
      s.abs.Arrived c (s.acknowledged env c).abs := by
  rw [acknowledged, abs_write, absKind_introductionAck, abs_introduced]
  constructor
  · have h : s.Runs env (.onIncomingConnection c) (s.abs.next (.arrive c)) :=
      ReflTransGen.single ⟨_, .incoming c, trivial, rfl⟩
    exact h.snoc (.acknowledge c _) ⟨trivial, rfl⟩
  · exact Swap.State.arrived_greet _ _ _ _

theorem onIncomingConnection_runs (env : Env) (s : World) (c : ChannelId) :
    s.Runs env (.onIncomingConnection c) (s.onIncomingConnection env c).abs := by
  have hs := onIncomingConnection_socket env s c
  obtain ⟨hr, ha⟩ := acknowledged_runs env s c
  generalize s.onIncomingConnection env c = t at hs
  cases hs with
  | unreadable =>
    have h : s.Runs env (.onIncomingConnection c) (s.abs.next (.arrive c)) :=
      ReflTransGen.single ⟨_, .incoming c, trivial, rfl⟩
    rw [abs_close, abs_introduced]
    exact h.snoc (.hangUp _ c) ⟨trivial, rfl⟩
  | unwritable =>
    rw [abs_close]
    exact hr.snoc (.hangUp _ c) ⟨trivial, rfl⟩
  | unattributed => exact hr
  | attributed e b he =>
    obtain ⟨ok, ok', h⟩ := abs_runUpgradeProtocol env
      ((s.acknowledged env c).cancelRetryUpgradeAlarm e) e c b
    have hin : e ∈ s.inProgressUpgrades := introducedEndpoint_mem he
    rw [h]
    exact hr.snoc (.incomingSwap ok ok' he ha) ⟨hin, rfl⟩

theorem apply_runs {env : Env} {s t : World} {op : Op} (h : Step env s op t) :
    s.Runs env op t.abs := by
  obtain ⟨fuel, h⟩ := h
  cases op with
  | initiateBwuForEndpoint e m =>
    by_cases hp : s.InitiatePasses env e m
    · exact ((initiateBwuForEndpoint_moves fuel h).runs (.initiate hp) .refl (.refl _)).1
    · rw [(initiateBwuForEndpoint_prelude hp h).abs_eq]
  | onIncomingFrame frame e => exact onIncomingFrame_runs h
  | onIncomingConnection c =>
    cases h
    exact onIncomingConnection_runs env s c
  | fireRetryAlarm e =>
    by_cases hp : s.RetryPasses e
    · exact ((fireRetryAlarm_moves h).runs (.retry hp) .refl (.refl _)).1
    · rw [(fireRetryAlarm_prelude hp h).abs_eq]
  | resetUpgradeForEndpoint e =>
    cases h
    rw [resetUpgradeForEndpoint, abs_leaveInProgress]
    exact ReflTransGen.single ⟨_, .reset e, trivial, rfl⟩
  | onEndpointDisconnect u e =>
    cases h
    rw [abs_onEndpointDisconnect]
    exact ReflTransGen.single ⟨_, .disconnect u e, trivial, rfl⟩
  | shutdown =>
    cases h
    rw [abs_shutdown]
    exact ReflTransGen.single ⟨_, .shutdown, trivial, rfl⟩
  | registerChannelForEndpoint e c =>
    cases h
    rw [abs_registerChannelForEndpoint]
    exact ReflTransGen.single ⟨_, .register e c, trivial, rfl⟩
  | unregisterChannelForEndpoint e =>
    cases h
    rw [abs_unregisterChannelForEndpoint]
    exact ReflTransGen.single ⟨_, .unregister e, trivial, rfl⟩
  | closeChannel c =>
    cases h
    rw [abs_modifyChannel absChan_doClose]
    exact ReflTransGen.single ⟨_, .ownerClose c, trivial, rfl⟩
  | enableEncryption c =>
    cases h
    have he : (s.modifyChannel c fun st => { st with encrypted := true }).abs =
        s.abs.modifyChan c fun st => { st with encrypted := true } :=
      abs_modifyChannel fun _ => rfl
    rw [he]
    exact ReflTransGen.single ⟨_, .ownerEncrypt c, trivial, rfl⟩
  -- The client's own bookkeeping is not part of the exchange.
  | onConnectionInitiated | localEndpointAcceptedConnection | remoteEndpointAcceptedConnection
  | onConnectionAccepted | onDisconnected | setUpgradeMediums =>
    cases h
    exact .refl

theorem abs_new (config : BwuConfig) (mediums : List Medium) (id : String) :
    (World.new config mediums id).abs =
      { registered := fun _ => none, parked := fun _ => none, inProgress := ∅, latched := ∅,
        chan := fun _ => ⟨false, false, false⟩, trace := [] } := by
  simp [World.new, abs, absChan]

theorem Occurs.swaps {env : Env} {s : World} {op : Op} {u : Swap.State String ChannelId}
    {e : String} {c : ChannelId} {ok ok' : Bool} (h : Occurs env s op u (.swap e c ok ok')) :
    s.Swaps env e op ∧ s.abs.Arrived c u := by
  cases h with
  | dialledSwap _ _ hf hacc ha => exact ⟨.offer hf hacc, ha⟩
  | incomingSwap _ _ he ha => exact ⟨.socket he, ha⟩

theorem Occurs.abandons {env : Env} {s : World} {op : Op} {u : Swap.State String ChannelId}
    {e : String} (h : Occurs env s op u (.leave e)) : s.Abandons env e op ∧ s.abs.Agrees u := by
  cases h with
  | reset => exact ⟨.reset, .refl _⟩
  | fail hc hf => exact ⟨.failure hc hf, .refl _⟩
  | refused hf hans ha => exact ⟨.refused hf hans, ha⟩

theorem ReachedBy.lift {env : Env} {ok : World → Op → Prop}
    (Inv : Swap.State String ChannelId → Prop)
    (ok' : Swap.State String ChannelId → Swap.Label String ChannelId → Prop)
    (hinv : ∀ {u l}, Inv u → ok' u l → u.Enabled l → Inv (u.next l))
    (hocc : ∀ {s op u l}, Inv s.abs → ok s op → Inv u → Occurs env s op u l → ok' u l)
    (h₀ : ∀ config mediums id, Inv (World.new config mediums id).abs)
    {s : World} (h : ReachedBy env ok s) : Inv s.abs := by
  obtain ⟨config, mediums, id, h⟩ := h
  refine Reach.lift Inv ok' (fun hst => apply_runs hst) ?_ hocc (h₀ config mediums id) h
  rintro u l _ hu hl ⟨he, rfl⟩
  exact hinv hu hl he

end World

end Nearby.Bwu
