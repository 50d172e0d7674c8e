import Nearby.Bwu.Attempts

/-! When the failure chain comes to an end: exactly if no medium of the list leads back to
itself. -/

namespace Nearby.Bwu

open Proto Lib Relation

def Env.behaving (env : Env) (handleInitialize : List Event → Medium → String → String → Bytes)
    (write : List Event → ChannelId → Payload → Exception) : Env :=
  { env with handleInitialize := handleInitialize, write := write }

namespace World

section

variable {env : Env} {s t w : World} {e : String} {m n : Medium} {cause : Cause}

/-! ### Lists without a circle -/

theorem acc_attempt (h : ¬ s.Circles env e) (m : Medium) :
    ∀ w, SameBearings s w → Acc (fun y x => Attempt env e x y) (w, m) := by
  have hwf := wellFounded_of_acyclic (not_exists.mp h)
  induction m using hwf.induction with
  | _ m ih =>
    intro w hb
    refine ⟨_, fun y hy => ?_⟩
    have htries : s.Tries env e m y.2 := hb.tries env e ▸ hy.tries
    exact ih y.2 htries y.1 (hb.trans hy.sameBearings)

structure Fresh (env : Env) (e : String) (s : World) (x : World × Medium) : Prop where
  bearings : SameBearings s x.1
  once : ∀ m, initializations m x.1.trace ≤ initializations m s.trace + 1
  leads : ∀ {m}, initializations m s.trace < initializations m x.1.trace →
    TransGen (s.Tries env e) m x.2

theorem Fresh.unasked {x : World × Medium} (h : Fresh env e s x) (hno : ¬ s.Circles env e) :
    initializations x.2 x.1.trace ≤ initializations x.2 s.trace :=
  not_lt.mp fun hlt => hno ⟨_, h.leads hlt⟩

theorem Fresh.attempt {x y : World × Medium} (h : Fresh env e s x) (hno : ¬ s.Circles env e)
    (hxy : Attempt env e x y) : Fresh env e s y := by
  have htries : s.Tries env e x.2 y.2 := h.bearings.tries env e ▸ hxy.tries
  refine ⟨h.bearings.trans hxy.sameBearings, fun m => ?_, fun {m} hlt => ?_⟩
  · rw [hxy.initializations]
    split
    case isTrue hm => exact hm ▸ Nat.add_le_add_right (h.unasked hno) 1
    case isFalse => exact h.once m
  · rw [hxy.initializations] at hlt
    split at hlt
    case isTrue hm => exact hm ▸ .single htries
    case isFalse => exact (h.leads hlt).tail htries

theorem Fresh.attempts {x y : World × Medium} (h : Fresh env e s x) (hno : ¬ s.Circles env e)
    (hxy : ReflTransGen (Attempt env e) x y) : Fresh env e s y := by
  induction hxy with
  | refl => exact h
  | tail _ hyz ih => exact ih.attempt hno hyz

theorem Begins.fresh (h : Begins env s e cause w n) : Fresh env e s (w, n) := by
  have hsame := fun m => initializations_of_reverts h.reverts m
  refine ⟨h.sameBearings, fun m => ?_, fun {m} hlt => ?_⟩
  · exact (hsame m).le.trans (Nat.le_succ _)
  · exact absurd (hsame m).le (not_le.mpr hlt)

theorem Comes.once {c : ChannelId} (h : s.Comes env e cause w n) (hno : ¬ s.Circles env e)
    (hp : w.InitiatePasses env e n) (m : Medium) :
    initializations m (w.asked env e n c).2.trace ≤ initializations m s.trace + 1 := by
  obtain ⟨w₀, n₀, hb, hrun⟩ := h
  have hfresh := hb.fresh.attempts hno hrun
  rw [initializations_asked hp.2.1]
  split
  case isTrue hm => exact hm ▸ Nat.add_le_add_right (hfresh.unasked hno) 1
  case isFalse => exact hfresh.once m

theorem chain_ends (hno : ¬ s.Circles env e) (cause : Cause) :
    (∃ fuel, cause.run env fuel s e ≠ .error .outOfFuel) ∧
      ∀ fuel t, cause.run env fuel s e = .ok t →
        ∀ m, initializations m t.trace ≤ initializations m s.trace + 1 := by
  by_cases hbegins : ∃ w n, Begins env s e cause w n
  case neg =>
    obtain ⟨r, hr, hrun, hsame⟩ := exists_over fun w n hb => hbegins ⟨w, n, hb⟩
    refine ⟨⟨0, by rwa [hrun]⟩, fun fuel t ht m => ?_⟩
    rw [hsame t ((hrun fuel).symm.trans ht) m]
    exact Nat.le_succ _
  case pos =>
    obtain ⟨w, n, hb⟩ := hbegins
    have hf := fuelled_initiate env e
    simp only [hb.run]
    refine ⟨hf.ends (acc_attempt hno n w hb.sameBearings), fun fuel t ht m => ?_⟩
    obtain ⟨x, hx, hstuck, hlast⟩ := hf.last (s := (w, n)) (n := fuel) (by rw [ht]; nofun)
    have hfresh := hb.fresh.attempts hno hx
    obtain ⟨r, hr, hrun⟩ := exists_lastRound hstuck
    have hrt : r = .ok t := (hrun 0).symm.trans ((hlast 0).trans ht)
    rw [hrt] at hr
    refine (hr.initializations m).trans ?_
    split
    case isTrue hm => exact hm ▸ Nat.add_le_add_right (hfresh.unasked hno) 1
    case isFalse => exact hfresh.once m

/-! ### Lists with one -/

theorem TransGen.head_of_circle {r : Medium → Medium → Prop} (h : TransGen r m m) :
    ∃ n, r m n ∧ TransGen r n n := by
  obtain ⟨n, hmn, hnm⟩ := TransGen.head'_iff.mp h
  exact ⟨n, hmn, .tail' hnm hmn⟩

theorem fallsBack_of_tries (hm : s.Tries env e m n) (hn : s.currentMedium env e ≠ n) :
    ∃ w, FallsBack env s e (reported m) w n :=
  ⟨_, .next hm.2.1 hm.2.2 fun hcur => absurd hcur hn⟩

theorem fallsBack_of_circle (hm : s.Tries env e m n) (hn : TransGen (s.Tries env e) n n) :
    ∃ w, FallsBack env s e (reported m) w n := by
  obtain ⟨_, hnext, -⟩ := TransGen.head_of_circle hn
  exact fallsBack_of_tries hm (Ne.symm hnext.1.2.2.1)

theorem asked_eq_nil (hfail : ∀ tr m u e, env.handleInitialize tr m u e = []) (c : ChannelId) :
    (s.asked env e m c).1 = [] := by
  rw [asked, initializeUpgradedMediumForEndpoint]
  split
  case h_1 => rfl
  case h_2 =>
    dsimp only
    split
    case isTrue h => exact h
    case isFalse h => exact hfail _ _ _ _

theorem initiate_never (hfail : ∀ tr m u e, env.handleInitialize tr m u e = [])
    (hin : e ∉ s.inProgressUpgrades) (hm : TransGen (s.Tries env e) m m) (fuel : Nat) :
    s.initiateBwuForEndpoint env fuel e m = .error .outOfFuel := by
  refine (fuelled_initiate env e).never
    (fun x => e ∉ x.1.inProgressUpgrades ∧ TransGen (x.1.Tries env e) x.2 x.2) ?_
    (s := (s, m)) ⟨hin, hm⟩ fuel
  rintro ⟨s, m⟩ ⟨hin, hm⟩
  obtain ⟨n, hmn, hn⟩ := TransGen.head_of_circle hm
  have hp := initiatePasses_iff.mpr ⟨hmn.1, hin⟩
  obtain ⟨c, hc⟩ := Option.ne_none_iff_exists'.mp hp.2.2.2.2
  have hb := sameBearings_asked env s e m c
  obtain ⟨w, hback⟩ := fallsBack_of_circle (hb.tries env e ▸ hmn) (hb.tries env e ▸ hn)
  refine ⟨(w, n), ⟨_, .unanswered hp hc (asked_eq_nil hfail c), hback⟩, hback.idle, ?_⟩
  exact (hb.trans hback.sameBearings).tries env e ▸ hn

end

/-- Whatever the handlers and channels do, the chain ends and asks no handler twice, if and only
if no medium comes again after itself. -/
theorem chain_ends_iff (env : Env) (s : World) (e : String) :
    (∀ handleInitialize write (cause : Cause),
      (∃ fuel, cause.run (env.behaving handleInitialize write) fuel s e ≠ .error .outOfFuel) ∧
      (∀ fuel t, cause.run (env.behaving handleInitialize write) fuel s e = .ok t →
        ∀ m, initializations m t.trace ≤ initializations m s.trace + 1) ∧
      ∀ w n c, s.Comes (env.behaving handleInitialize write) e cause w n →
        w.InitiatePasses (env.behaving handleInitialize write) e n →
        ∀ m, initializations m (w.asked (env.behaving handleInitialize write) e n c).2.trace ≤
          initializations m s.trace + 1) ↔
      ¬ s.Circles env e := by
  constructor
  · rintro h ⟨m, hm⟩
    obtain ⟨n, hmn, hn⟩ := TransGen.head_of_circle hm
    obtain ⟨⟨fuel, hfuel⟩, -⟩ := h (fun _ _ _ _ => []) env.write
      (.failure (upgradePathInfoForMedium m))
    have hmn' : s.Tries (env.behaving (fun _ _ _ _ => []) env.write) e m n := hmn
    obtain ⟨w, hback⟩ := fallsBack_of_circle hmn' hn
    apply hfuel
    rw [(Begins.failure hback).run]
    refine initiate_never (fun _ _ _ _ => rfl) hback.idle ?_ fuel
    exact hback.sameBearings.tries _ e ▸ hn
  · intro hno handleInitialize write cause
    have hno' : ¬ s.Circles (env.behaving handleInitialize write) e := hno
    obtain ⟨hends, hok⟩ := chain_ends hno' cause
    exact ⟨hends, hok, fun w n c hcomes hp => hcomes.once hno' hp⟩

def unable : Env := { reliable with handleInitialize := fun _ _ _ _ => [] }

def insistent : World :=
  (World.new {} [.wifiLan] "L").after unable 3
    (connect "E" 0 ++ [.setUpgradeMediums "E" [.wifiLan, .wifiLan]])

theorem chain_never_ends :
    Reachable unable insistent ∧
      ∀ fuel, insistent.initiateBwuForEndpoint unable fuel "E" .wifiLan = .error .outOfFuel := by
  refine ⟨reachable_after _ _ _ _ _, initiate_never (fun _ _ _ _ => rfl) (by decide) (.single ?_)⟩
  exact ⟨⟨by decide, by decide, by decide, by decide⟩, fun hk => hk.1 (by decide), by decide⟩

/-! ### Lists without repetitions -/

theorem reported_eq {m : Medium} (hm : m ≠ .bleL2cap) : reported m = m := by
  cases m <;> first | rfl | exact absurd rfl hm

theorem untriedAfter_split {last n : Medium} {mediums : List Medium}
    (h : n ∈ untriedAfter last mediums) :
    ∃ tried, mediums = tried ++ last :: untriedAfter last mediums ∧ last ∉ tried := by
  induction mediums with
  | nil => cases h
  | cons m mediums ih =>
    rw [untriedAfter_cons] at h ⊢
    split at h
    case isTrue hm => exact ⟨[], by simp [hm], List.not_mem_nil⟩
    case isFalse hm =>
      obtain ⟨tried, hsplit, hnot⟩ := ih h
      refine ⟨m :: tried, ?_, ?_⟩
      · rw [if_neg hm, List.cons_append, ← hsplit]
      · exact List.not_mem_cons_of_ne_of_not_mem (Ne.symm hm) hnot

/-- A list that names no medium with a handler twice leads nowhere back.  The exception is BLE
L2CAP, whose failure is taken for one of the unknown medium. -/
theorem not_circles_of_nodup {env : Env} {s : World} {e : String}
    (hnodup : ((s.client.getUpgradeMediums e).filter s.hasHandlerForMedium).Nodup)
    (hble : .unknownMedium ∉ s.client.getUpgradeMediums e ∨
      s.hasHandlerForMedium .bleL2cap = false) : ¬ s.Circles env e := by
  rintro ⟨m, hm⟩
  -- Each round moves on in the list.
  have hlt : ∀ {m n}, s.Tries env e m n →
      (s.client.getUpgradeMediums e).idxOf m < (s.client.getUpgradeMediums e).idxOf n := by
    rintro m n ⟨⟨-, hhas, -⟩, -, hnext⟩
    have hn := List.find?_some hnext
    obtain ⟨tried, hsplit, hnot⟩ := untriedAfter_split (List.mem_of_find?_eq_some hnext)
    have hreported : reported m = m := by
      refine reported_eq fun hm => ?_
      subst hm
      rcases hble with hunknown | hno
      · exact hunknown (hsplit ▸ List.mem_append_right tried List.mem_cons_self)
      · exact absurd hhas (Bool.eq_false_iff.mp hno)
    have hmem := List.mem_of_find?_eq_some hnext
    rw [hreported] at hsplit hnot hmem
    generalize untriedAfter m (s.client.getUpgradeMediums e) = rest at hsplit hmem
    rw [hsplit] at hnodup ⊢
    have hmem' : n ∈ rest.filter s.hasHandlerForMedium := List.mem_filter.mpr ⟨hmem, hn⟩
    rw [List.filter_append, List.filter_cons_of_pos hhas] at hnodup
    obtain ⟨-, hrest, hdisj⟩ := List.nodup_append.mp hnodup
    have hne : m ≠ n := fun h => (List.nodup_cons.mp hrest).1 (h ▸ hmem')
    have hnot' : n ∉ tried := fun h =>
      hdisj n (List.mem_filter.mpr ⟨h, hn⟩) n (List.mem_cons_of_mem m hmem') rfl
    rw [List.idxOf_append_of_notMem hnot, List.idxOf_append_of_notMem hnot', List.idxOf_cons_self,
      List.idxOf_cons_ne _ hne]
    omega
  have hall : ∀ {n}, TransGen (s.Tries env e) m n →
      (s.client.getUpgradeMediums e).idxOf m < (s.client.getUpgradeMediums e).idxOf n := by
    intro n h
    induction h with
    | single h => exact hlt h
    | tail _ h ih => exact ih.trans (hlt h)
  exact lt_irrefl _ (hall hm)

end World

end Nearby.Bwu
