import Nearby.Bwu.Simulation
import Nearby.Swap.Retire

/-! What is written on a channel after LAST_WRITE_TO_PRIOR_CHANNEL. -/

namespace Nearby.Bwu

open Proto Lib

/-- The channel object an event hands to the manager or registers. -/
def Event.handsIn : Event → Option ChannelId
  | .registered _ c => some c
  | .incoming c => some c
  | .createUpgraded _ _ _ _ result => result
  | _ => none

def handedIn (tr : List Event) : List ChannelId := tr.filterMap Event.handsIn

theorem arrivals_filterMap (tr : List Event) :
    Swap.arrivals (tr.filterMap absEvent) = handedIn tr := by
  rw [Swap.arrivals, List.filterMap_filterMap, handedIn]
  congr 1
  funext x
  cases x with
  | createUpgraded _ _ _ _ result => cases result <;> rfl
  | _ => rfl

/-- `later` holds nothing on `c` but SAFE_TO_CLOSE frames and, after them, at most one
DISCONNECTION in the clear. -/
structure ClosingOnly (c : ChannelId) (later : List Event) : Prop where
  frames : ∀ owner data paused encrypted result,
    .write owner c data paused encrypted result ∈ later →
      data = .frame forBwuSafeToClose ∨
        (data = .frame (forDisconnection false false) ∧ encrypted = false)
  last : ∀ after before owner paused encrypted result,
    later = after ++ .write owner c (.frame (forDisconnection false false)) paused encrypted result
      :: before →
    ∀ owner data paused encrypted result, .write owner c data paused encrypted result ∉ after

theorem filterMap_write (owner : Option String) (c : ChannelId) (data : Payload)
    (paused encrypted : Bool) (result : Exception) (tr : List Event) :
    (Event.write owner c data paused encrypted result :: tr).filterMap absEvent =
      .write owner c (absKind data) paused encrypted result.ok :: tr.filterMap absEvent := rfl

theorem eq_of_absKind_safeToClose {data : Payload} (h : absKind data = .safeToClose) :
    data = .frame forBwuSafeToClose := by
  cases data with
  | offer => cases h
  | frame f =>
    simp only [absKind] at h
    split_ifs at h with h₁ h₂ h₃
    rw [h₂]

theorem eq_of_absKind_disconnection {data : Payload} (h : absKind data = .disconnection) :
    data = .frame (forDisconnection false false) := by
  cases data with
  | offer => cases h
  | frame f =>
    simp only [absKind] at h
    split_ifs at h with h₁ h₂ h₃
    rw [h₃]

namespace World

theorem Occurs.placed {env : Env} {s : World} {op : Op} {u : Swap.State String ChannelId}
    {l : Swap.Label String ChannelId} (h : Occurs env s op u l)
    (hs : (Swap.arrivals s.abs.trace).Nodup → s.abs.Booked)
    (hn : (Swap.arrivals u.trace).Nodup) : u.Placed l := by
  have hgreet : ∀ c, (Swap.arrivals (s.abs.next (.arrive c)).trace).Nodup →
      (s.abs.next (.arrive c)).Loose c := fun c hn =>
    (hs (Swap.State.nodup_of_next hn)).loose_arrive (List.nodup_cons.mp hn).1
  have hswap : ∀ {c}, s.abs.Arrived c u → u.Loose c := by
    intro c ha
    obtain ⟨xs, hxs, -⟩ := ha.trace
    refine (hs ?_).loose_arrived ha hn
    rw [hxs, Swap.arrivals, List.filterMap_append] at hn
    exact (List.nodup_cons.mp hn.of_append_right).2
  cases h with
  | introduce => exact hgreet _ hn
  | acknowledge => exact hgreet _ hn
  | dialledSwap _ _ _ _ ha => exact hswap ha
  | incomingSwap _ _ _ ha => exact hswap ha
  | _ => trivial

theorem booked {env : Env} {s : World} (h : Reachable env s) (hn : (handedIn s.trace).Nodup) :
    s.abs.Booked := by
  rw [← arrivals_filterMap] at hn
  refine ReachedBy.lift (fun u => (Swap.arrivals u.trace).Nodup → u.Booked)
    (fun u l => (Swap.arrivals u.trace).Nodup → u.Placed l) ?_ ?_ ?_ h hn
  · intro u l hu hl _ hn
    have hn' := Swap.State.nodup_of_next hn
    exact (hu hn').next (hl hn') hn
  · intro s op u l hs _ _ hocc hn
    exact hocc.placed hs hn
  · intro config mediums id _
    rw [abs_new]
    exact ⟨nofun, nofun, nofun, fun _ => rfl, nofun, nofun, nofun, nofun, nofun, nofun⟩

theorem lastWrite_is_last {env : Env} {s : World} (h : Reachable env s)
    (hn : (handedIn s.trace).Nodup) {owner : Option String} {c : ChannelId}
    {paused encrypted : Bool} {later earlier : List Event}
    (ht : s.trace = later ++
      .write owner c (.frame forBwuLastWrite) paused encrypted .success :: earlier) :
    ClosingOnly c later := by
  have habs : Swap.phase c (later.filterMap absEvent ++
      .write owner c .lastWrite paused encrypted true :: earlier.filterMap absEvent) ≠ .broken := by
    have hb := (booked h hn).unbroken c
    simpa [abs, ht, absEvent, Exception.ok] using hb
  -- Each write on `c` is looked at where it stands, with the LAST_WRITE behind it.
  have hsplit : ∀ {l₁ l₂ o data p q r}, later = l₁ ++ .write o c data p q r :: l₂ →
      (absKind data = .safeToClose ∨ (absKind data = .disconnection ∧ q = false)) ∧
        ∀ o p q ok, .write o c .disconnection p q ok ∉ l₂.filterMap absEvent := by
    intro l₁ l₂ o data p q r hl
    rw [hl, List.filterMap_append, filterMap_write, List.append_assoc, List.cons_append] at habs
    exact Swap.write_after_lastWrite habs
  constructor
  · intro o data p q r hmem
    obtain ⟨l₁, l₂, hl⟩ := List.append_of_mem hmem
    rcases (hsplit hl).1 with hk | ⟨hk, hq⟩
    · exact .inl (eq_of_absKind_safeToClose hk)
    · exact .inr ⟨eq_of_absKind_disconnection hk, hq⟩
  · intro after before o p q r hl o' data p' q' r' hmem
    obtain ⟨l₁, l₂, rfl⟩ := List.append_of_mem hmem
    rw [List.append_assoc, List.cons_append] at hl
    apply (hsplit hl).2 o p q r.ok
    apply List.mem_filterMap.mpr
    exact ⟨_, List.mem_append_right _ List.mem_cons_self, by rw [absEvent, absKind_disconnection]⟩

theorem lastWrite_is_last_in_upgrade :
    ∃ later earlier, (scenario upgrade).trace =
        later ++ .write (some "E") 0 (.frame forBwuLastWrite) false false .success :: earlier ∧
      ClosingOnly 0 later := by
  obtain ⟨later, earlier, ht⟩ := List.append_of_mem
    (show Event.write (some "E") 0 (.frame forBwuLastWrite) false false .success ∈
      (scenario upgrade).trace by decide)
  exact ⟨later, earlier, ht, lastWrite_is_last (scenario_reachable upgrade) (by decide) ht⟩

end World

end Nearby.Bwu
