import Nearby.Bwu.Timers
import Nearby.Lib.Mailbox

/-! `actor.rs`: `BwuHandle`, and the bounded channel between its clones and the actor.  Any number
of tasks use the handle at once; what they get to see is what one of them would see that made all
the calls in turn. -/

namespace Nearby.Bwu

open Proto Lib

namespace BwuCommand

/-- The command carries the sender of a oneshot. -/
def isQuery : BwuCommand → Bool
  | .isUpgradeOngoing _ | .pendingRetryDelay _ | .bandwidthChangedEvents | .getUpgradedChannel _ =>
    true
  | _ => false

def answer (s : World) : BwuCommand → Option Reply
  | .isUpgradeOngoing e => some (.ongoing (s.isUpgradeOngoing e))
  | .pendingRetryDelay e => some (.delay (s.pendingRetryDelay e))
  | .bandwidthChangedEvents => some (.events s.client.bandwidthChanged)
  | .getUpgradedChannel e => some (.channel (s.getChannelForEndpoint e))
  | _ => none

/-- What the handle's method makes of a query that got no reply: `unwrap_or(false)`, `flatten` and
`unwrap_or_default`. -/
def fallback : BwuCommand → Option Reply
  | .isUpgradeOngoing _ => some (.ongoing false)
  | .pendingRetryDelay _ => some (.delay none)
  | .bandwidthChangedEvents => some (.events [])
  | .getUpgradedChannel _ => some (.channel none)
  | _ => none

end BwuCommand

def BwuHandle.result (cmd : BwuCommand) (reply : Option Reply) : Option Reply :=
  reply <|> cmd.fallback

section

variable {env : Env} {fuel : Nat} {s t : World} {cmd : BwuCommand} {reply : Option Reply}

theorem World.handle_of_isQuery (env : Env) (fuel : Nat) (s : World) (h : cmd.isQuery = true) :
    s.handle env fuel cmd = .ok (s, cmd.answer s) := by
  cases cmd <;> first | rfl | cases h

theorem BwuCommand.answer_of_op {op : Op} (h : cmd.op = some op) (s : World) :
    cmd.answer s = none := by
  cases cmd <;> first | rfl | cases h

theorem BwuCommand.eq_shutdown (hop : cmd.op = none) (hquery : cmd.isQuery ≠ true) :
    cmd = .shutdown := by
  cases cmd <;> first | rfl | exact absurd rfl hquery | cases hop

theorem World.handle_answer (h : s.handle env fuel cmd = .ok (t, reply)) :
    reply = cmd.answer s := by
  by_cases hquery : cmd.isQuery = true
  case pos =>
    rw [handle_of_isQuery env fuel s hquery] at h
    cases h
    rfl
  case neg =>
    cases hop : cmd.op with
    | some op =>
      rw [handle_op hop] at h
      rw [BwuCommand.answer_of_op hop]
      cases happly : s.apply env fuel op with
      | error => rw [happly] at h; cases h
      | ok => rw [happly] at h; cases h; rfl
    | none =>
      cases BwuCommand.eq_shutdown hop hquery
      cases h

end

theorem BwuCommand.isSome_answer (s : World) (cmd : BwuCommand) :
    (cmd.answer s).isSome = cmd.isQuery := by
  cases cmd <;> rfl

namespace BwuActor

/-- The actor takes a command off the channel.  A panic ends its task. -/
inductive Serves (env : Env) (a : BwuActor) : BwuCommand → BwuActor → Option Reply → Prop
  | command (cmd : BwuCommand) (time : Instant) (fuel : Nat) {world : World}
      {reply : Option Reply} : a.phase = .head → a.world.handle env fuel cmd = .ok (world, reply) →
      Serves env a cmd (a.advance world time (.due [])) reply
  | shutdown (time : Instant) : a.phase = .head →
      Serves env a .shutdown (a.advance a.world.shutdown time .stopped) none
  | panicked {cmd : BwuCommand} (fuel : Nat) : a.phase = .head → cmd ≠ .shutdown →
      a.world.handle env fuel cmd = .error .panic →
      Serves env a cmd { a with phase := .stopped } none

def Act.isOwn : Act → Bool
  | .command _ _ | .closed _ => false
  | _ => true

/-- The actor goes on without a command: a timer elapses, a retry is fired, or the timers are
reconciled. -/
inductive Proceeds (env : Env) (latest : Instant) (a : BwuActor) : BwuActor → Prop
  | turn {act : Act} {b : BwuActor} : Turn env latest a act b → act.isOwn = true →
      Proceeds env latest a b
  | unfired (fuel : Nat) {ep : String} {due : List String} : a.phase = .firing ep due →
      a.world.fireRetryAlarm env fuel ep = .error .panic →
      Proceeds env latest a { a with phase := .stopped }
  | unarmed (now : Instant) : a.phase = .due [] → a.reconcileTimers latest now = .error .panic →
      Proceeds env latest a { a with phase := .stopped }

def server (env : Env) (latest : Instant) : Server BwuActor BwuCommand Reply where
  serve := Serves env
  own := Proceeds env latest
  close a b := ∃ time, Turn env latest a (.closed time) b
  asks := BwuCommand.isQuery
  stopped a := a.phase = .stopped

section

variable {env : Env} {latest : Instant} {a b : BwuActor}

theorem server_lawful (env : Env) (latest : Instant) : (server env latest).Lawful where
  replies := by
    intro a cmd b reply h
    cases h with
    | command _ _ _ _ h =>
      rw [World.handle_answer h, BwuCommand.isSome_answer]
      exact Iff.rfl
    | shutdown => simp [server, BwuCommand.isQuery]
    | panicked fuel _ _ h =>
      refine ⟨fun hquery => ?_, fun hsome => by cases hsome⟩
      rw [World.handle_of_isQuery env fuel a.world hquery] at h
      cases h
  serves := by
    intro a cmd b reply h
    cases h with
    | command _ _ _ hp | shutdown _ hp | panicked _ hp => simp [server, hp]
  steps := by
    intro a b h
    cases h with
    | unfired _ hp | unarmed _ hp => simp [server, hp]
    | turn h hown =>
      cases h with
      | command | shutdown | closed => cases hown
      | elapsed _ _ hp | fire _ hp | fired _ _ hp | reconcile _ hp => simp [server, hp]
  closes := by
    rintro a b ⟨time, h⟩
    cases h with
    | closed => rfl

theorem reachedBy_of_ran {config : BwuConfig} {mediums : List Medium} {id : String}
    {cmds : List BwuCommand} (h : (server env latest).Ran (build config mediums id) cmds a)
    (hrunning : a.phase ≠ .stopped) : a.ReachedBy env latest fun _ _ => True := by
  refine ⟨config, mediums, id, ?_⟩
  induction h with
  | start => exact .refl
  | own _ hown ih =>
    cases hown with
    | turn hturn hown =>
      refine (ih ?_).snoc trivial hturn
      have hs := (server_lawful env latest).steps (.turn hturn hown)
      simpa [server] using hs
    | unfired | unarmed => exact absurd rfl hrunning
  | close _ hclose ih =>
    obtain ⟨_, hclose⟩ := hclose
    cases hclose with
    | closed => exact absurd rfl hrunning
  | serve _ hserve ih =>
    cases hserve with
    | command _ time fuel hp h =>
      exact (ih (by simp [hp])).snoc trivial (.command _ time fuel hp h)
    | shutdown | panicked => exact absurd rfl hrunning

theorem Serves.answer {cmd : BwuCommand} {reply : Reply} (h : Serves env a cmd b (some reply)) :
    cmd.answer a.world = some reply := by
  cases h with
  | command _ _ _ _ h => exact (World.handle_answer h).symm

end

end BwuActor

section

variable {ι : Type} [DecidableEq ι]

/-- `BwuActor::channel` and `build`, with a client for each clone of the handle and for each sink
that was made of it. -/
def BwuHandle.Reached (env : Env) (latest : Instant) (commandBuffer : Nat) (config : BwuConfig)
    (mediums : List Medium) (localEndpointId : String)
    (p : Mailbox BwuActor BwuCommand Reply ι) : Prop :=
  Mailbox.Reached (BwuActor.server env latest) (.build config mediums localEndpointId)
    (max commandBuffer 1) p

/-- The commands are served in the order in which they were accepted, each once, as in a run of the
actor alone.  A query returns what the manager says after all the commands that were accepted
before it, and those accepted before the call are among them; only of an actor that has stopped
does the handle make up the answer. -/
theorem BwuHandle.calls_in_turn {env : Env} {latest : Instant} {commandBuffer : Nat}
    {config : BwuConfig} {mediums : List Medium} {id : String}
    {p : Mailbox BwuActor BwuCommand Reply ι}
    (h : BwuHandle.Reached env latest commandBuffer config mediums id p) :
    p.queue.length ≤ max commandBuffer 1 ∧
    (p.server.phase ≠ .stopped → p.server.ReachedBy env latest (fun _ _ => True) ∧
      p.accepted = p.accepted.take p.served ++ p.queue) ∧
    (∀ i cmd seen ticket, p.callers i = .waiting cmd seen ticket →
      p.server.phase ≠ .stopped ∧ (i, cmd) ∈ p.queue) ∧
    ∀ i cmd seen reply, p.callers i = .answered cmd seen reply →
      (∃ ticket a, seen ≤ ticket ∧ p.accepted[ticket]? = some (i, cmd) ∧
        (BwuActor.server env latest).Ran (.build config mediums id)
          ((p.accepted.take ticket).map Prod.snd) a ∧
        BwuHandle.result cmd reply = cmd.answer a.world) ∨
      (p.server.phase = .stopped ∧ BwuHandle.result cmd reply = cmd.fallback) := by
  have hs := Mailbox.Reached.sound h (BwuActor.server_lawful env latest)
  have hstopped : ∀ a : BwuActor, (BwuActor.server env latest).stopped a = false ↔
      a.phase ≠ .stopped := by simp [BwuActor.server]
  refine ⟨?_, fun hrunning => ⟨?_, hs.queue ((hstopped _).mpr hrunning)⟩, ?_, ?_⟩
  · rw [← Mailbox.Reached.capacity_eq h]
    exact hs.bounded
  · exact BwuActor.reachedBy_of_ran hs.ran hrunning
  · intro i cmd seen ticket hi
    exact ⟨(hstopped _).mp (hs.awaited hi), hs.mem_queue hi⟩
  · intro i cmd seen reply hi
    have hknows := hs.callers i
    rw [hi] at hknows
    cases reply with
    | none => exact .inr ⟨by simpa [BwuActor.server, Caller.Knows] using hknows, rfl⟩
    | some r =>
      obtain ⟨ticket, a, b, hseen, hk, hran, hserve⟩ := hknows
      exact .inl ⟨ticket, a, hseen, hk, hran, (BwuActor.Serves.answer hserve).symm⟩

/-- Two tasks share a channel that holds one command.  One of them registers a channel and asks for
it; the other is still sending when the answer comes. -/
theorem BwuHandle.exists_registered :
    ∃ p : Mailbox BwuActor BwuCommand Reply Bool,
      BwuHandle.Reached reliable (10 ^ 18) 0 {} [.wifiLan] "L" p ∧ p.server.phase ≠ .stopped ∧
      p.callers true = .sending (.isUpgradeOngoing "E") 1 ∧
      p.callers false = .answered (.getUpgradedChannel "E") 1 (some (.channel (some 0))) := by
  have h : BwuHandle.Reached (ι := Bool) reliable (10 ^ 18) 0 {} [.wifiLan] "L" _ := .refl
  have h := h.snoc trivial (.own (.turn (.reconcile 0 rfl rfl) rfl))
  rw [Mailbox.settle_of_running rfl] at h
  have h := h.snoc trivial (.call (i := false) (c := .registerChannel "E" 0) rfl)
  have h := h.snoc trivial (.send (i := false) rfl rfl (by decide))
  have h := h.snoc trivial (.take rfl (.command _ 0 0 rfl rfl))
  rw [Mailbox.settle_of_running rfl] at h
  have h := h.snoc trivial (.own (.turn (.reconcile 0 rfl rfl) rfl))
  rw [Mailbox.settle_of_running rfl] at h
  have h := h.snoc trivial (.call (i := true) (c := .isUpgradeOngoing "E") rfl)
  have h := h.snoc trivial (.call (i := false) (c := .getUpgradedChannel "E") rfl)
  have h := h.snoc trivial (.send (i := false) rfl rfl (by decide))
  have h := h.snoc trivial (.take rfl (.command _ 0 0 rfl rfl))
  rw [Mailbox.settle_of_running rfl] at h
  exact ⟨_, h, by decide, rfl, rfl⟩

theorem BwuHandle.calls_in_turn_registered :
    ∃ (p : Mailbox BwuActor BwuCommand Reply Bool) (ticket : Nat) (a : BwuActor),
      p.callers false = .answered (.getUpgradedChannel "E") 1 (some (.channel (some 0))) ∧
      1 ≤ ticket ∧ p.accepted[ticket]? = some (false, .getUpgradedChannel "E") ∧
      (BwuActor.server reliable (10 ^ 18)).Ran (.build {} [.wifiLan] "L")
        ((p.accepted.take ticket).map Prod.snd) a ∧
      a.world.getChannelForEndpoint "E" = some 0 := by
  obtain ⟨p, h, hrunning, -, hi⟩ := BwuHandle.exists_registered
  rcases (BwuHandle.calls_in_turn h).2.2.2 false _ _ _ hi with
    ⟨ticket, a, hseen, hk, hran, hanswer⟩ | ⟨hstopped, -⟩
  · exact ⟨p, ticket, a, hi, hseen, hk, hran, (Reply.channel.inj (Option.some.inj hanswer)).symm⟩
  · exact absurd hstopped hrunning

end

end Nearby.Bwu
