import Nearby.Bwu.LastWrite
import Nearby.Swap.Secrecy

/-! A channel the owner has encrypted, through everything the manager does with it. -/

namespace Nearby.Bwu

open Proto Lib

theorem eq_of_absEvent_close {x : Event} {c : ChannelId} (h : absEvent x = some (.close c true)) :
    x = .closeWithReason c .upgraded := by
  cases x with
  | closeWithReason c' reason =>
    simp only [absEvent, Option.some.injEq, Swap.Event.close.injEq, decide_eq_true_eq] at h
    rw [h.1, h.2]
  | createUpgraded _ _ _ _ result => cases result <;> simp [absEvent] at h
  | _ => simp [absEvent] at h

namespace World

theorem sealed_of_reach {env : Env} {s t : World} {c : ChannelId}
    (henc : (s.channels c).encrypted = true) (h : Reach (Step env) (fun _ _ => True) s t) :
    t.abs.Sealed c s.abs.trace := by
  refine Reach.lift (Swap.State.Sealed c s.abs.trace) (fun _ _ => True) (fun hst => apply_runs hst)
    ?_ (fun _ _ _ _ => trivial) (Swap.State.sealed_of_encrypted henc) h
  rintro u l _ hu - ⟨-, rfl⟩
  exact hu.next l

/-- From the moment a channel is encrypted it stays so until it is closed.  Nothing the manager
writes on it goes out in the clear but the DISCONNECTION, and what is written when an upgrade has
closed it. -/
theorem encrypted_until_closed {env : Env} {s t : World} {c : ChannelId}
    (henc : (s.channels c).encrypted = true) (h : Reach (Step env) (fun _ _ => True) s t) :
    ((t.channels c).encrypted = true ∨ (t.channels c).closed = true) ∧
    ∀ later mid owner data paused result,
      t.trace = later ++ .write owner c data paused false result :: (mid ++ s.trace) →
      data = .frame (forDisconnection false false) ∨ .closeWithReason c .upgraded ∈ mid := by
  obtain ⟨new, hnew, hsealed⟩ := sealed_of_reach henc h
  refine ⟨hsealed.encrypted.imp_right hsealed.closed, ?_⟩
  intro later mid owner data paused result ht
  have hsplit : new = later.filterMap absEvent ++
      .write owner c (absKind data) paused false result.ok :: mid.filterMap absEvent := by
    refine (List.append_left_inj (s.trace.filterMap absEvent)).mp ?_
    rw [← show t.trace.filterMap absEvent = new ++ s.trace.filterMap absEvent from hnew, ht]
    simp [absEvent]
  by_cases hkind : absKind data = .disconnection
  case pos => exact .inl (eq_of_absKind_disconnection hkind)
  case neg =>
    have hclosed := hsealed.leaks _ _ _ hsplit ⟨rfl, rfl, hkind⟩
    obtain ⟨x, hx, habs⟩ := List.mem_filterMap.mp hclosed
    exact .inr (eq_of_absEvent_close habs ▸ hx)

theorem encrypted_until_closed_in_upgrade :
    let t := (scenario [.enableEncryption 0]).after reliable 3 upgrade
    .write (some "E") 0 (.frame (forDisconnection false false)) false false .success ∈ t.trace ∧
    ((t.channels 0).encrypted = true ∨ (t.channels 0).closed = true) ∧
    ∀ later mid owner data paused result,
      t.trace = later ++ .write owner 0 data paused false result ::
        (mid ++ (scenario [.enableEncryption 0]).trace) →
      data = .frame (forDisconnection false false) ∨ .closeWithReason 0 .upgraded ∈ mid := by
  have hrun : Reach (Step reliable) (fun _ _ => True) (scenario [.enableEncryption 0])
      ((scenario [.enableEncryption 0]).after reliable 3 upgrade) :=
    reach_after upgrade fun _ _ => trivial
  exact ⟨by decide, encrypted_until_closed (by decide) hrun⟩

end World

end Nearby.Bwu
