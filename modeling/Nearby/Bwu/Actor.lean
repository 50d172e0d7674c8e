import Nearby.Bwu.Isolation

/-! `actor.rs`: the task that owns the manager.  `run` is a loop, so it is given as steps between
the points at which it waits, reads the clock, or calls the manager back. -/

namespace Nearby.Bwu

open Proto Lib

/-- `tokio::time::Instant`, in nanoseconds since some epoch. -/
abbrev Instant := Nat

/-- The frame's medium, the reasons and the results are accepted and not used. -/
inductive BwuCommand : Type
  | connectionInitiated (endpointId : String) (isIncoming autoUpgradeBandwidth : Bool)
  | connectionAccepted (endpointId : String)
  | localEndpointAccepted (endpointId : String)
  | remoteEndpointAccepted (endpointId : String)
  | disconnected (endpointId : String)
  | setUpgradeMediums (endpointId : String) (mediums : List Medium)
  | registerChannel (endpointId : String) (channel : ChannelId)
  | unregisterChannel (endpointId : String)
  | initiateBwu (endpointId : String) (medium : Medium)
  | resetUpgrade (endpointId : String)
  | incomingFrame (frame : OfflineFrame) (endpointId : String)
  | incomingConnection (connection : ChannelId)
  | endpointDisconnect (serviceId endpointId : String)
  | shutdown
  | isUpgradeOngoing (endpointId : String)
  | pendingRetryDelay (endpointId : String)
  | bandwidthChangedEvents
  | getUpgradedChannel (endpointId : String)

/-- The operation a command stands for.  A query has none, and `Shutdown` is not for `handle`. -/
def BwuCommand.op : BwuCommand → Option Op
  | .connectionInitiated e isIncoming auto => some (.onConnectionInitiated e isIncoming auto)
  | .connectionAccepted e => some (.onConnectionAccepted e)
  | .localEndpointAccepted e => some (.localEndpointAcceptedConnection e)
  | .remoteEndpointAccepted e => some (.remoteEndpointAcceptedConnection e)
  | .disconnected e => some (.onDisconnected e)
  | .setUpgradeMediums e mediums => some (.setUpgradeMediums e mediums)
  | .registerChannel e c => some (.registerChannelForEndpoint e c)
  | .unregisterChannel e => some (.unregisterChannelForEndpoint e)
  | .initiateBwu e m => some (.initiateBwuForEndpoint e m)
  | .resetUpgrade e => some (.resetUpgradeForEndpoint e)
  | .incomingFrame frame e => some (.onIncomingFrame frame e)
  | .incomingConnection c => some (.onIncomingConnection c)
  | .endpointDisconnect u e => some (.onEndpointDisconnect u e)
  | .shutdown | .isUpgradeOngoing _ | .pendingRetryDelay _ | .bandwidthChangedEvents
  | .getUpgradedChannel _ => none

inductive Reply : Type
  | ongoing : Bool → Reply
  | delay : Option Duration → Reply
  | events : List (String × Medium) → Reply
  | channel : Option ChannelId → Reply
  deriving DecidableEq, Repr

namespace World

def isUpgradeOngoing (s : World) (endpointId : String) : Bool :=
  decide (endpointId ∈ s.inProgressUpgrades)

def pendingRetryDelay (s : World) (endpointId : String) : Option Duration :=
  s.retryUpgradeAlarms.lookup endpointId

def pendingRetryDelays (s : World) : List (String × Duration) := HashMap.toList s.retryUpgradeAlarms

def handle (env : Env) (fuel : Nat) (s : World) (cmd : BwuCommand) :
    Except Abort (World × Option Reply) :=
  match cmd with
  | .isUpgradeOngoing e => .ok (s, some (.ongoing (s.isUpgradeOngoing e)))
  | .pendingRetryDelay e => .ok (s, some (.delay (s.pendingRetryDelay e)))
  | .bandwidthChangedEvents => .ok (s, some (.events s.client.bandwidthChanged))
  | .getUpgradedChannel e => .ok (s, some (.channel (s.getChannelForEndpoint e)))
  | cmd =>
    match cmd.op with
    | some op => (s.apply env fuel op).map (·, none)
    -- `Shutdown` is handled in `run`.
    | none => .error .panic

end World

/-- Where the actor is in `run`.  After its `for` loop `fire_due_retries` reconciles the timers, as
`run` does at its start and after a command. -/
inductive Phase : Type
  | head
  | due (endpointIds : List String)
  | firing (endpointId : String) (due : List String)
  | stopped
  deriving DecidableEq, Repr

structure BwuActor where
  world : World
  armed : HashMap String Instant := ∅
  phase : Phase := .due []
  /-- The moment of the last step, and the events of the manager with the moment at which the
  operation they belong to was over. -/
  clock : Instant := 0
  log : List (Instant × Event) := []

namespace BwuActor

/-- `BwuActor::build`, at the start of `run`. -/
def build (config : BwuConfig) (mediums : List Medium) (localEndpointId : String) : BwuActor where
  world := .new config mediums localEndpointId

def nextDeadline (a : BwuActor) : Option Instant := ((HashMap.toList a.armed).map Prod.snd).min?

/-- The endpoints `fire_due_retries` collects, in some order of the map. -/
def dueEndpoints (a : BwuActor) (now : Instant) : List String :=
  ((HashMap.toList a.armed).filter fun x => x.2 ≤ now).map Prod.fst

/-- `entry(ep).or_insert_with(|| now + delay)`; no instant is after `latest`. -/
def arm (latest now : Instant) (armed : HashMap String Instant) (x : String × Duration) :
    Except Abort (HashMap String Instant) :=
  if x.1 ∈ armed then .ok armed
  else if now + x.2 ≤ latest then .ok (armed.insert x.1 (now + x.2))
  else .error .panic

def reconcileTimers (latest now : Instant) (a : BwuActor) :
    Except Abort (HashMap String Instant) :=
  let pending := a.world.pendingRetryDelays
  let pendingEps := pending.map Prod.fst
  pending.foldlM (arm latest now) (HashMap.retain a.armed fun ep => ep ∈ pendingEps)

def advance (a : BwuActor) (world : World) (time : Instant) (phase : Phase) : BwuActor :=
  { a with
    world := world
    phase := phase
    clock := time
    log := (world.trace.take (world.trace.length - a.world.trace.length)).map (time, ·) ++ a.log }

/-- A step, with the moment it is taken.  The actor itself reads the clock where a timer is
found elapsed and where the timers are reconciled. -/
inductive Act : Type
  | command (cmd : BwuCommand) (time : Instant)
  | closed (time : Instant)
  | elapsed (due : List String) (now : Instant)
  | fire (time : Instant)
  | fired (time : Instant)
  | reconcile (now : Instant)

def Act.time : Act → Instant
  | .command _ time | .closed time | .elapsed _ time | .fire time | .fired time
  | .reconcile time => time

/-- `run`.  Between a timer that has elapsed and a command that has come in the choice is left
open: the order `select!` prefers is one of them. -/
inductive Turn (env : Env) (latest : Instant) (a : BwuActor) : Act → BwuActor → Prop
  | command (cmd : BwuCommand) (time : Instant) (fuel : Nat) {world : World}
      {reply : Option Reply} : a.phase = .head → a.world.handle env fuel cmd = .ok (world, reply) →
      Turn env latest a (.command cmd time) (a.advance world time (.due []))
  | shutdown (time : Instant) : a.phase = .head →
      Turn env latest a (.command .shutdown time) (a.advance a.world.shutdown time .stopped)
  | closed (time : Instant) : a.phase = .head →
      Turn env latest a (.closed time) (a.advance a.world time .stopped)
  | elapsed (due : List String) (now : Instant) {deadline : Instant} : a.phase = .head →
      a.nextDeadline = some deadline → deadline ≤ now → due.Perm (a.dueEndpoints now) →
      Turn env latest a (.elapsed due now) (a.advance a.world now (.due due))
  | fire (time : Instant) {ep : String} {due : List String} : a.phase = .due (ep :: due) →
      Turn env latest a (.fire time)
        { a.advance a.world time (.firing ep due) with armed := a.armed.erase ep }
  | fired (time : Instant) (fuel : Nat) {ep : String} {due : List String} {world : World} :
      a.phase = .firing ep due → a.world.fireRetryAlarm env fuel ep = .ok world →
      Turn env latest a (.fired time) (a.advance world time (.due due))
  | reconcile (now : Instant) {armed : HashMap String Instant} :
      a.phase = .due [] → a.reconcileTimers latest now = .ok armed →
      Turn env latest a (.reconcile now)
        { a.advance a.world now .head with armed := armed }

def ReachedBy (env : Env) (latest : Instant) (ok : BwuActor → Act → Prop) (a : BwuActor) : Prop :=
  ∃ config mediums localEndpointId,
    Reach (Turn env latest) ok (build config mediums localEndpointId) a

/-! ### The timers after a reconciliation -/

section

variable {env : Env} {latest now : Instant} {a b : BwuActor} {e : String}

theorem lookup_arm {armed armed' : HashMap String Instant} {pending : List (String × Duration)}
    (h : pending.foldlM (arm latest now) armed = .ok armed') (e : String) :
    armed'.lookup e = (armed.lookup e).or ((pending.lookup e).map (now + ·)) := by
  induction pending generalizing armed with
  | nil =>
    cases h
    simp
  | cons x pending ih =>
    obtain ⟨ep, delay⟩ := x
    rw [List.foldlM_cons] at h
    cases harm : arm latest now armed (ep, delay) with
    | error => rw [harm] at h; cases h
    | ok armed₁ =>
      rw [harm] at h
      rw [ih h, List.lookup_cons]
      simp only [arm] at harm
      split at harm
      case isTrue hmem =>
        cases harm
        by_cases he : e = ep
        · subst he
          obtain ⟨deadline, hd⟩ := HashMap.lookup_of_mem hmem
          simp [hd]
        · rw [beq_false_of_ne he]
      case isFalse hmem =>
        split at harm
        case isFalse => cases harm
        case isTrue =>
          cases harm
          rw [HashMap.lookup_insert_eq]
          by_cases he : e = ep
          · subst he
            simp [AList.lookup_eq_none.mpr hmem]
          · rw [if_neg he, beq_false_of_ne he]

theorem lookup_reconcileTimers {armed : HashMap String Instant}
    (h : a.reconcileTimers latest now = .ok armed) (e : String) :
    armed.lookup e =
      (a.world.pendingRetryDelay e).map fun delay => (a.armed.lookup e).getD (now + delay) := by
  rw [lookup_arm h e, HashMap.lookup_retain, World.pendingRetryDelays, HashMap.lookup_toList,
    World.pendingRetryDelay]
  simp only [decide_eq_true_eq, HashMap.mem_toList_keys]
  cases hd : a.world.retryUpgradeAlarms.lookup e with
  | none => simp [AList.lookup_eq_none.mp hd]
  | some delay =>
    rw [if_pos (HashMap.mem_of_lookup hd)]
    cases a.armed.lookup e <;> rfl

theorem nodup_dueEndpoints (a : BwuActor) (now : Instant) : (a.dueEndpoints now).Nodup :=
  (HashMap.nodup_toList_keys a.armed).sublist (List.filter_sublist.map Prod.fst)

theorem mem_dueEndpoints :
    e ∈ a.dueEndpoints now ↔ ∃ deadline, a.armed.lookup e = some deadline ∧ deadline ≤ now := by
  constructor
  · intro h
    obtain ⟨⟨ep, deadline⟩, hx, rfl⟩ := List.mem_map.mp h
    obtain ⟨hmem, hle⟩ := List.mem_filter.mp hx
    exact ⟨deadline, HashMap.mem_toList.mp hmem, of_decide_eq_true hle⟩
  · rintro ⟨deadline, hd, hle⟩
    refine List.mem_map.mpr ⟨(e, deadline), List.mem_filter.mpr ?_, rfl⟩
    exact ⟨HashMap.mem_toList.mpr hd, decide_eq_true hle⟩

/-! ### Every retry that is fired is pending -/

/-- What is known of the timers in each phase.  While retries are fired nothing is said of
`armed`: the reconciliation that follows rebuilds it. -/
def Tracked (a : BwuActor) : Prop :=
  match a.phase with
  | .head => ∀ e, e ∈ a.armed ↔ e ∈ a.world.retryUpgradeAlarms
  | .due due => due.Nodup ∧ ∀ e ∈ due, e ∈ a.world.retryUpgradeAlarms
  | .firing ep due => (ep :: due).Nodup ∧ ∀ e ∈ ep :: due, e ∈ a.world.retryUpgradeAlarms
  | .stopped => True

theorem fireRetryAlarm_pending {fuel : Nat} {ep : String} {s t : World}
    (h : s.fireRetryAlarm env fuel ep = .ok t) (hne : e ≠ ep) (he : e ∈ s.retryUpgradeAlarms) :
    e ∈ t.retryUpgradeAlarms := by
  have hst : World.Step env s (.fireRetryAlarm ep) t := ⟨fuel, h⟩
  have hu : World.Untouched e s t := hst.untouched (by
    rintro (hop | _)
    cases hop
    exact hne rfl)
  obtain ⟨d, hd⟩ := HashMap.lookup_of_mem he
  exact HashMap.mem_of_lookup (hu.alarm.trans hd)

theorem Tracked.turn {act : Act} (h : a.Tracked) (ht : Turn env latest a act b) : b.Tracked := by
  cases ht with
  | command | closed | shutdown => simp [Tracked, advance]
  | elapsed due now hp _ _ hdue =>
    rw [Tracked, hp] at h
    refine ⟨hdue.nodup_iff.mpr (a.nodup_dueEndpoints _), fun e he => (h e).mp ?_⟩
    obtain ⟨_, hd, -⟩ := mem_dueEndpoints.mp (hdue.mem_iff.mp he)
    exact HashMap.mem_of_lookup hd
  | fire time hp =>
    rw [Tracked, hp] at h
    exact h
  | fired time fuel hp hw =>
    rw [Tracked, hp] at h
    obtain ⟨hnot, hnodup⟩ := List.nodup_cons.mp h.1
    refine ⟨hnodup, fun e he => ?_⟩
    refine fireRetryAlarm_pending hw ?_ (h.2 e (List.mem_cons_of_mem _ he))
    rintro rfl
    exact hnot he
  | reconcile now hp harm =>
    intro e
    rw [← AList.lookup_isSome, ← AList.lookup_isSome, lookup_reconcileTimers harm e]
    simp [World.pendingRetryDelay, advance]

end

/-- At the head of the loop the timers are those of the pending retries, and a retry is pending
when it is fired, however many others were due with it. -/
theorem timers_track_retries {env : Env} {latest : Instant} {a : BwuActor}
    (h : a.ReachedBy env latest fun _ _ => True) :
    (a.phase = .head → ∀ e, e ∈ a.armed ↔ e ∈ a.world.retryUpgradeAlarms) ∧
      ∀ e due, a.phase = .firing e due → e ∈ a.world.retryUpgradeAlarms := by
  obtain ⟨config, mediums, id, h⟩ := h
  have hinv : a.Tracked := by
    refine Reach.invariant Tracked ?_ (fun ht _ hturn => ht.turn hturn) h
    exact ⟨.nil, List.forall_mem_nil _⟩
  refine ⟨fun hp => ?_, fun e due hp => ?_⟩
  · rwa [Tracked, hp] at hinv
  · rw [Tracked, hp] at hinv
    exact hinv.2 e List.mem_cons_self

theorem timers_track_retries_due_together :
    ∃ a : BwuActor, a.ReachedBy reliable (10 ^ 18) (fun _ _ => True) ∧ a.phase = .firing "X" [] ∧
      "X" ∈ a.world.retryUpgradeAlarms := by
  have h : Reach (Turn reliable (10 ^ 18)) (fun _ _ => True) (build {} [.wifiLan] "L") _ := .refl
  have h := h.snoc trivial (.reconcile 0 rfl rfl)
  have h := h.snoc trivial (.command (.connectionAccepted "E") 0 0 rfl rfl)
  have h := h.snoc trivial (.reconcile 0 rfl rfl)
  have h := h.snoc trivial (.command (.connectionAccepted "X") 0 0 rfl rfl)
  have h := h.snoc trivial (.reconcile 0 rfl rfl)
  have h := h.snoc trivial (.command (.incomingFrame (forBwuFailure lanPath) "E") 0 1 rfl rfl)
  have h := h.snoc trivial (.reconcile 0 rfl rfl)
  have h := h.snoc trivial (.command (.incomingFrame (forBwuFailure lanPath) "X") 0 1 rfl rfl)
  have h := h.snoc trivial (.reconcile 0 rfl rfl)
  have h := h.snoc trivial
    (.elapsed ["E", "X"] (Duration.ofSecs 3) rfl rfl (by decide) (by decide))
  have h := h.snoc trivial (.fire (Duration.ofSecs 3) rfl)
  have h := h.snoc trivial (.fired (Duration.ofSecs 3) 1 rfl rfl)
  have h := h.snoc trivial (.fire (Duration.ofSecs 3) rfl)
  exact ⟨_, ⟨_, _, _, h⟩, rfl, (timers_track_retries ⟨_, _, _, h⟩).2 "X" [] rfl⟩

end BwuActor

end Nearby.Bwu
