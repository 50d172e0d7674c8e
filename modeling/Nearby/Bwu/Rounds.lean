import Nearby.Bwu.Backoff
import Nearby.Bwu.Fallback

/-! What comes after a bargain.  When it failed the retry goes through the whole list again, for as
many rounds as it takes; when it succeeded and another upgrade is asked for, the responder still
has the medium of the first on record. -/

namespace Nearby.Bwu

open Proto Lib Relation

theorem BwuConfig.length_delays (config : BwuConfig) (n : Nat) : (config.delays n).length = n := by
  simp [delays]

namespace World

variable {env : Env} {s t : World} {e : String} {n : Medium} {rest : List Medium}

/-- What a retry goes through: the usable part of the list, up to the medium `e` is on. -/
def preferences (env : Env) (s : World) (e : String) : List Medium :=
  ((s.client.getUpgradeMediums e).filter s.hasHandlerForMedium).takeWhile
    (· ≠ s.currentMedium env e)

theorem preferences_cons (h : s.preferences env e = n :: rest) : s.fallbacks env e n = rest := by
  rw [preferences] at h
  cases hf : (s.client.getUpgradeMediums e).filter s.hasHandlerForMedium with
  | nil =>
    rw [hf] at h
    cases h
  | cons x xs =>
    rw [hf, List.takeWhile_cons] at h
    split at h
    case isFalse => cases h
    case isTrue =>
      obtain ⟨rfl, rfl⟩ := List.cons.inj h
      rw [fallbacks, filter_untriedAfter hf]

theorem SameBearings.preferences (h : SameBearings s t) (env : Env) (e : String) :
    t.preferences env e = s.preferences env e := by
  have hhas : t.hasHandlerForMedium = s.hasHandlerForMedium := funext h.handlers
  rw [World.preferences, World.preferences, h.client, hhas, h.currentMedium]

theorem tryNextBestUpgradeMediums_preferences
    {start : World → String → Medium → Except Abort World}
    (hunset : s.getBwuMediumForEndpoint e = .unknownMedium)
    (hlan : s.currentMedium env e ≠ .wifiLan) :
    s.tryNextBestUpgradeMediums env start e (s.client.getUpgradeMediums e) =
      match s.preferences env e with
      | [] => s.retryUpgradesAfterDelay e
      | n :: _ => start (s.setBwuMediumForEndpoint e n) e n := by
  rw [tryNextBestUpgradeMediums_eq hunset, ← List.head?_filter, preferences]
  cases (s.client.getUpgradeMediums e).filter s.hasHandlerForMedium with
  | nil => exact if_neg hlan
  | cons n ns =>
    rw [List.takeWhile_cons]
    by_cases hn : s.currentMedium env e = n
    · simp [← hn, hlan]
    · simp [hn, Ne.symm hn]

theorem Paced.retriesIn {k : Nat} (h : Paced e s (s.config.delays k))
    (hconfig : t.config = s.config)
    (hr : t.RetriesIn e (s.config.backoff (k + 1))) : Paced e t (t.config.delays (k + 1)) := by
  have hlast : (s.config.delays (k + 1)).getLast? = some (s.config.backoff (k + 1)) := by
    rw [BwuConfig.delays_succ, List.getLast?_concat]
  rw [hconfig]
  refine ⟨hconfig.symm ▸ h.fits, ?_, hr.last.trans hlast.symm, .inr (hr.alarm.trans hlast.symm)⟩
  rw [hconfig, BwuConfig.length_delays]

end World

/-! ### The same bargain in another world -/

theorem Terms.serves_congr {T : Terms} {R : Side} {r r' : World} (h : World.SameBearings r r')
    (m : Medium) : T.serves R r' m = T.serves R r m := by
  rw [serves, serves, World.isWifiLanConnected_congr R.env h.ecm, h.handlers]

theorem Side.Abides.trans {x : Side} {s t w : World} {stage stage' : Swap.Stage}
    (h : x.Abides s stage t) (h' : x.Abides t stage' w) : x.Abides s stage' w :=
  ⟨h'.stands, h.bearings.trans h'.bearings, h'.channels.trans h.channels,
    h'.delays.trans h.delays⟩

namespace Bargain

variable {P : Prost} {T : Terms} {I R : Side} {pool : List Medium} {s r w v : World}
  {delay delay' : Duration}

theorem renew (h : Bargain P T I R pool s r) (hw : I.Stands .idle w)
    (hbearings : World.SameBearings s w) (hv : R.Abides r .idle v) :
    Bargain P T I R pool w v where
  initiatorLinks := h.initiatorLinks
  responderLinks := h.responderLinks
  initiator := hw
  responder := hv.stands
  switches := by
    rw [hbearings.keepsMedium]
    exact h.switches
  offLan := by
    rw [World.isWifiLanConnected_congr I.env hbearings.ecm]
    exact h.offLan
  nodup := by
    rw [hbearings.client]
    exact h.nodup
  usable m hm := by
    rw [hbearings.handlers, hbearings.currentMedium]
    exact h.usable m hm
  outgoing := by
    rw [hv.bearings.client]
    exact h.outgoing
  named := by
    rw [hv.bearings.client]
    exact h.named
  handles := h.handles
  medium := h.medium
  parses := h.parses
  event := h.event
  codec m hm f hf := by
    refine h.codec m hm f ?_
    simpa only [Side.spoken, Side.introduction, hv.bearings.client, hv.channels] using hf
  creates := h.creates

theorem reopens (h : Bargain P T I R pool s r) (hretry : s.RetriesIn I.peer delay)
    (hdelay : s.calculateNextRetryDelay I.peer = some delay')
    (hsub : ∀ k ∈ s.preferences I.env I.peer, k ∈ pool) (n : Node) :
    ∃ t, Bid P T I s delay' s .idle (s.preferences I.env I.peer) t ∧
      ComesTo (fun fuel => s.fireRetryAlarm (I.online P n) fuel I.peer) t := by
  have hw : I.Abides s .idle (s.cancelRetryUpgradeAlarm I.peer) := by
    obtain ⟨hc, hr, hp, hl, hi⟩ := h.initiator
    exact ⟨⟨hc, hr, hp, hl, hi⟩, ⟨rfl, rfl, rfl, fun _ => rfl⟩, rfl, rfl⟩
  have hunset : (s.cancelRetryUpgradeAlarm I.peer).getBwuMediumForEndpoint I.peer =
      .unknownMedium := hretry.unset
  have hpending : I.peer ∈ s.retryUpgradeAlarms :=
    AList.lookup_isSome.mp (Option.isSome_of_eq_some hretry.alarm)
  have hfire : ∀ fuel, s.fireRetryAlarm (I.online P n) fuel I.peer = _ := fun fuel =>
    (if_neg (not_not.mpr hpending)).trans <| (if_neg (not_not.mpr hw.stands.connected)).trans <|
      World.tryNextBestUpgradeMediums_preferences hunset h.currentMedium_ne
  have hprefs : (s.cancelRetryUpgradeAlarm I.peer).preferences (I.online P n) I.peer =
      s.preferences I.env I.peer := hw.bearings.preferences I.env I.peer
  simp only [hfire, hprefs]
  cases hms : s.preferences I.env I.peer with
  | nil =>
    -- Nothing was given up since, so the next retry is scheduled as after a failure.
    have hidle : (s.cancelRetryUpgradeAlarm I.peer).abandoned (I.online P n) I.peer =
        s.cancelRetryUpgradeAlarm I.peer := by
      have hnot : I.peer ∉ (s.cancelRetryUpgradeAlarm I.peer).inProgressUpgrades := by
        simp [hw.stands.inProgress, busy]
      rw [World.abandoned, World.leaveInProgress_of_notMem hnot]
      exact if_neg (not_not.mpr hunset)
    obtain ⟨t, ht, hbid⟩ := retries (P := P) (T := T) hdelay hw (.inl rfl) (I.online P n)
    rw [hidle] at ht
    refine ⟨t, hbid.after (.of_inaudible hw.stands (by simp) (.refl _ _)) (by simp), ⟨0, ht⟩,
      fun _ t' ht' => Except.ok.inj (ht'.symm.trans ht)⟩
  | cons k rest =>
    have hk : k ∈ pool := hsub k (hms ▸ List.mem_cons_self)
    have hrest := World.preferences_cons hms
    have hw₁ := hw.setBwuMediumForEndpoint I.peer k
    have hpass : I.Passage s .idle .idle [] [] 0 0
        ((s.cancelRetryUpgradeAlarm I.peer).setBwuMediumForEndpoint I.peer k) := by
      refine .of_inaudible hw₁.stands (by simp) ?_
      rw [World.setBwuMediumForEndpoint_frame]
      exact .refl _ _
    refine h.requests n hk hrest hw₁ hpass fun hv => ?_
    refine h.turns hdelay n hv (.inl rfl) ?_ fun k' hk' => hsub k' ?_
    · rw [h.reported_candidate hk, hrest]
    · exact hms ▸ List.mem_cons_of_mem _ hk'

end Bargain

/-! ### Round after round -/

section

variable {x : Side} {T : Terms} {s w : World} {stage : Swap.Stage}

theorem Side.Stands.under (h : x.Stands stage w) (T : Terms) : (x.under T).Stands stage w :=
  ⟨h.connected, h.registered, h.parked, h.latched, h.inProgress⟩

theorem Side.Stands.of_under (h : (x.under T).Stands stage w) : x.Stands stage w :=
  ⟨h.connected, h.registered, h.parked, h.latched, h.inProgress⟩

theorem Side.Abides.under (h : x.Abides s stage w) (T : Terms) : (x.under T).Abides s stage w :=
  ⟨h.stands.under T, h.bearings, h.channels, h.delays⟩

theorem Side.Abides.of_under (h : (x.under T).Abides s stage w) : x.Abides s stage w :=
  ⟨h.stands.of_under, h.bearings, h.channels, h.delays⟩

end

namespace Bargain

variable {P : Prost} {T : Terms} {I R : Side} {pool pool' : List Medium} {s r : World}

theorem mono (h : Bargain P T I R pool s r) (hsub : ∀ m ∈ pool', m ∈ pool) :
    Bargain P T I R pool' s r :=
  { h with
    usable := fun m hm => h.usable m (hsub m hm)
    handles := fun m hm => h.handles m (hsub m hm)
    medium := fun m hm => h.medium m (hsub m hm)
    parses := fun m hm => h.parses m (hsub m hm)
    event := fun m hm => h.event m (hsub m hm)
    codec := fun m hm => h.codec m (hsub m hm)
    creates := fun m hm => h.creates m (hsub m hm) }

theorem reaching (h : Bargain P T (I.under T) (R.under T) pool s r) (reaches : Medium → Bool) :
    Bargain P { T with reaches } (I.under { T with reaches }) (R.under { T with reaches }) pool
      s r :=
  { h with
    initiator := h.initiator.of_under.under _
    responder := h.responder.of_under.under _
    creates := fun _ _ _ => rfl }

end Bargain

def Side.prospects (I : Side) (s : World) (m : Medium) : List Medium :=
  I.candidates s m ++ s.preferences I.env I.peer

namespace Net

def retried (I : Side) (n : Net) (t : World) : Net :=
  { n with
    initiator := n.initiator.proceed I t
    responder := n.responder.receive I n.initiator.world t }

/-- The rounds of a bargain, with `k` retries behind them.  In the first the platforms do what `T`
says, and when the two have parted and the alarm goes off, what the next of the terms says. -/
def Unfolds (P : Prost) (I R : Side) (s r : World) :
    List Terms → Nat → Terms → List Medium → List Medium → Net → Prop
  | [], k, T, ms, tried, n =>
    Settles (Step P (I.under T) (R.under T))
      (Concluded T I R s r (s.config.backoff (k + 1)) ms tried) n
  | T' :: later, k, T, ms, tried, n =>
    Settles (Step P (I.under T) (R.under T))
      (fun n' => n'.Concluded T I R s r (s.config.backoff (k + 1)) ms tried ∧
        ((∀ m ∈ ms, ¬ T.serves R r m = true) → ∃ t,
          ComesTo (fun fuel => n'.initiator.world.fireRetryAlarm
            ((I.under T').online P n'.initiator) fuel I.peer) t ∧
          Unfolds P I R s r later (k + 1) T' (s.preferences I.env I.peer)
            (tried ++ ms.filter (T.bytes · ≠ [])) (n'.retried I t))) n

variable {P : Prost} {T : Terms} {I R : Side} {pool : List Medium} {s r w v : World}
  {delay : Duration} {k : Nat} {ms tried : List Medium} {n n' : Net}

theorem Concluded.rebase (h : n.Concluded T (I.under T) (R.under T) w v delay ms tried)
    (hw : World.SameBearings s w) (hv : R.Abides r .idle v) :
    n.Concluded T I R s r delay ms tried := by
  have hserves : T.serves (R.under T) v = T.serves R r := funext (Terms.serves_congr hv.bearings)
  rw [Concluded, hserves] at h
  rcases h with ⟨before, m, after, hms, hbefore, hm, hagreed⟩ | ⟨hnone, hparted⟩
  · obtain ⟨hini, hres, hknown, hfailed, hoffered⟩ := hagreed
    exact .inl ⟨before, m, after, hms, hbefore, hm, hini.of_under, hres.of_under, hknown, hfailed,
      hoffered⟩
  · obtain ⟨hquiet, hini, hbearings, hretry, hres, hknown, hfailed, hoffered⟩ := hparted
    exact .inr ⟨hnone, hquiet, hini.of_under, hw.trans hbearings, hretry, hv.trans hres.of_under,
      hknown, hfailed, hoffered⟩

theorem Concluded.parted (h : n.Concluded T I R s r delay ms tried)
    (hnone : ∀ m ∈ ms, ¬ T.serves R r m = true) :
    n.Parted I R s r .unknownMedium delay (tried ++ ms.filter (T.bytes · ≠ [])) := by
  rcases h with ⟨before, m, after, rfl, -, hm, -⟩ | ⟨-, hparted⟩
  · exact absurd hm (hnone m (by simp))
  · exact hparted

theorem Left.unfolds {later : List Terms}
    (h : ∀ T' ∈ T :: later, Bargain P T' (I.under T') (R.under T') pool s r)
    (hprefs : ∀ m ∈ s.preferences I.env I.peer, m ∈ pool) (hw : I.Stands .idle w)
    (hbearings : World.SameBearings s w) (hv : R.Abides r .idle v)
    (hpaced : World.Paced I.peer w (w.config.delays k)) (hsub : ∀ m ∈ ms, m ∈ pool)
    (hn : n.Left P T (I.under T) (R.under T) w v .unknownMedium (s.config.backoff (k + 1)) tried
      ms) :
    Unfolds P I R s r later k T ms tried n := by
  have hnext : w.calculateNextRetryDelay I.peer = some (s.config.backoff (k + 1)) := by
    have hnext := hpaced.next
    rwa [hbearings.config, BwuConfig.length_delays] at hnext
  induction later generalizing k T w v ms tried n with
  | nil =>
    have hT := (h T List.mem_cons_self).renew (hw.under T) hbearings (hv.under T)
    exact (hn.settles hT hnext hsub).mono fun hc => hc.rebase hbearings hv
  | cons T' later ih =>
    have hT := (h T List.mem_cons_self).renew (hw.under T) hbearings (hv.under T)
    refine (hn.settles hT hnext hsub).mono fun {n'} hc => ?_
    have hconcluded : n'.Concluded T I R s r (s.config.backoff (k + 1)) ms tried :=
      hc.rebase hbearings hv
    refine ⟨hconcluded, fun hnone => ?_⟩
    have hparted := hconcluded.parted hnone
    have hpaced' : World.Paced I.peer n'.initiator.world
        (n'.initiator.world.config.delays (k + 1)) := by
      refine hpaced.retriesIn (hparted.bearings.config.trans hbearings.config.symm) ?_
      rw [hbearings.config]
      exact hparted.retry
    have hnext' : n'.initiator.world.calculateNextRetryDelay I.peer =
        some (s.config.backoff (k + 2)) := by
      have hnext := hpaced'.next
      rwa [hparted.bearings.config, BwuConfig.length_delays] at hnext
    have hT' := (h T' (by simp)).renew (hparted.initiator.under T') hparted.bearings
      (hparted.responder.under T')
    have hprefs' : n'.initiator.world.preferences I.env I.peer = s.preferences I.env I.peer :=
      hparted.bearings.preferences I.env I.peer
    have hsub' : ∀ m ∈ n'.initiator.world.preferences I.env I.peer, m ∈ pool := by rwa [hprefs']
    obtain ⟨t, hbid, hcomes⟩ := hT'.reopens hparted.retry hnext' hsub' n'.initiator
    refine ⟨t, hcomes, ?_⟩
    rw [← hprefs']
    refine ih (fun T₁ hT₁ => h T₁ (List.mem_cons_of_mem _ hT₁)) hparted.initiator hparted.bearings
      hparted.responder hpaced' hsub' ?_ hnext'
    refine Turning.left hT' (a := n'.initiator) (b := n'.responder) ?_ hbid hsub' rfl rfl
      hparted.quiet.undialled
    exact ⟨hparted.responder.stands.abides.under T', hparted.known, hparted.quiet.toInitiator,
      hparted.quiet.toResponder, hparted.failed, hparted.offered⟩

/-- A request that fails is taken up again, with the delays of the backoff, until there is a medium
both can do.  Whatever the platforms can do in the rounds one after the other: each round ends, and
ends with the two upgraded over the first medium both can do, of those the request goes through in
the first round and of the preferences in the others; or there is none, and the next retry, which
is pending then, opens the next round. -/
theorem retries_until_common {P : Prost} {I R : Side} {m₀ : Medium} {s r : World} {k : Nat}
    {T : Terms} {later : List Terms}
    (h : ∀ T' ∈ T :: later,
      Bargain P T' (I.under T') (R.under T') (I.prospects s m₀) s r)
    (hunset : r.getBwuMediumForEndpoint R.peer = .unknownMedium)
    (hpaced : World.Paced I.peer s (s.config.delays k)) :
    ∃ s', ComesTo (fun fuel => s.initiateBwuForEndpoint
        ((I.under T).online P { world := s }) fuel I.peer m₀) s' ∧
      Unfolds P I R s r later k T (I.candidates s m₀) [] (Net.start I s s' r) := by
  have hT := h T List.mem_cons_self
  have hnext := hpaced.next
  rw [BwuConfig.length_delays] at hnext
  have hsub : ∀ m ∈ I.candidates s m₀, m ∈ I.prospects s m₀ := fun m => List.mem_append_left _
  obtain ⟨s', hbid, hcomes⟩ := hT.opens hnext hsub { world := s }
  refine ⟨s', hcomes, Left.unfolds h (fun m => List.mem_append_right _) hT.initiator.of_under
    (.refl s) hT.responder.of_under.abides hpaced hsub ?_⟩
  refine Turning.left hT (a := { world := s }) (b := { world := r }) ?_ hbid hsub rfl rfl ⟨rfl, rfl⟩
  exact ⟨hT.responder.abides, hunset, ⟨rfl, rfl⟩, ⟨rfl, rfl⟩, rfl, rfl⟩

/-! ### The responder comes within reach -/

theorem prospects_choosy :
    ∀ m ∈ initiatorSide.prospects choosyWorld .webRtc, m ∈ preferred := by decide

def outOfReach : Terms := { threeTerms with reaches := fun _ => false }

theorem retries_until_common_second :
    ∃ s' n t n', choosyWorld.initiateBwuForEndpoint
        ((initiatorSide.under outOfReach).online threeCodec { world := choosyWorld }) 2 "E"
          .webRtc = .ok s' ∧
      ReflTransGen
        (Step threeCodec (initiatorSide.under outOfReach) (responderSide.under outOfReach))
        (Net.start initiatorSide choosyWorld s' responderWorld) n ∧
      n.initiator.world.retryUpgradeAlarms.lookup "E" = some (Duration.ofSecs 3) ∧
      ReflTransGen (Step threeCodec choosySide lanOnlySide) (n.retried initiatorSide t) n' ∧
      n'.Agreed initiatorSide responderSide [.webRtc, .wifiLan, .webRtc] .wifiLan := by
  have hbargain : ∀ T ∈ [outOfReach, threeTerms], Bargain threeCodec T (initiatorSide.under T)
      (responderSide.under T) (initiatorSide.prospects choosyWorld .webRtc) choosyWorld
      responderWorld := by
    have hthree := bargain_choosy.mono prospects_choosy
    simp only [List.forall_mem_cons]
    exact ⟨Bargain.reaching hthree _, hthree, List.forall_mem_nil _⟩
  have hpaced : World.Paced "E" choosyWorld (choosyWorld.config.delays 0) :=
    ⟨by rw [BwuConfig.Fits]; decide, rfl, rfl, .inl rfl⟩
  obtain ⟨s', ⟨-, huniq⟩, hsettles⟩ := retries_until_common hbargain (by decide) hpaced
  obtain ⟨t, ht⟩ : ∃ t, choosyWorld.initiateBwuForEndpoint
      ((initiatorSide.under outOfReach).online threeCodec { world := choosyWorld }) 2 "E" .webRtc =
        .ok t := ⟨_, rfl⟩
  cases huniq 2 t ht
  obtain ⟨n, hrun, hstuck⟩ := exists_stuck hsettles.ends
  obtain ⟨hconcluded, hnext⟩ := hsettles.rests hrun hstuck
  have hnone : ∀ m ∈ initiatorSide.candidates choosyWorld .webRtc,
      ¬ outOfReach.serves responderSide responderWorld m = true := by decide
  obtain ⟨t', -, hsettles'⟩ := hnext hnone
  obtain ⟨n', hrun', hstuck'⟩ := exists_stuck hsettles'.ends
  refine ⟨_, n, t', n', ht, hrun, (hconcluded.parted hnone).retry.alarm, hrun', ?_⟩
  have hprefs : choosyWorld.preferences initiatorSide.env initiatorSide.peer = preferred := by
    decide
  have hend := hsettles'.rests hrun' hstuck'
  rw [hprefs] at hend
  rcases hend with ⟨before, m, after, hsplit, -, hm, hagreed⟩ | ⟨hnone, -⟩
  · rcases before with _ | ⟨a, _ | ⟨b, _ | ⟨c, before⟩⟩⟩
    · cases hsplit
      exact absurd hm (by decide)
    · cases hsplit
      exact absurd hm (by decide)
    · cases hsplit
      exact hagreed
    · simp [preferred] at hsplit
  · exact absurd (by decide) (hnone .wifiLan (by decide))

/-! ### One upgrade after another -/

theorem Bidding.unfolds {later : List Terms} {known m : Medium} {u : World}
    (h : ∀ T' ∈ T :: later, Bargain P T' (I.under T') (R.under T') pool s r)
    (hprefs : ∀ m ∈ s.preferences I.env I.peer, m ∈ pool)
    (hpaced : World.Paced I.peer s (s.config.delays k))
    (hn : n.Bidding P T (I.under T) (R.under T) s r known tried m u) (hbytes : T.bytes m ≠ [])
    (hm : m ∈ pool) (hms : s.fallbacks I.env I.peer m = ms) (hsub : ∀ m ∈ ms, m ∈ pool)
    (hno : Bargain.TurnsDown P T (R.under T) r m n.responder.world) :
    Unfolds P I R s r later k T ms (tried ++ [m]) n := by
  have hT := h T List.mem_cons_self
  have hnext := hpaced.next
  rw [BwuConfig.length_delays] at hnext
  have hleft : ∀ {n' : Net}, n'.Left P T (I.under T) (R.under T) s r .unknownMedium
      (s.config.backoff (k + 1)) (tried ++ [m]) ms →
        Unfolds P I R s r later k T ms (tried ++ [m]) n' := fun hleft =>
    hleft.unfolds h hprefs hT.initiator.of_under (.refl s) hT.responder.of_under.abides hpaced hsub
  cases later with
  | nil => exact hn.settles hT hnext hm hbytes hms hsub hno hleft
  | cons T' later => exact hn.settles hT hnext hm hbytes hms hsub hno hleft

/-- An upgrade leaves its medium on record with the responder.  When another is asked for later,
the first offer that goes out is lost, unless it is of that medium, whether both could do it or
not; only what comes after it is judged by what the two can do, and a retry by the whole list. -/
theorem first_offer_lost {P : Prost} {I R : Side} {m₀ m : Medium} {s r : World} {k : Nat}
    {T : Terms} {later : List Terms}
    (h : ∀ T' ∈ T :: later, Bargain P T' (I.under T') (R.under T') (I.prospects s m₀) s r)
    (hknown : r.getBwuMediumForEndpoint R.peer ≠ .unknownMedium)
    (hpaced : World.Paced I.peer s (s.config.delays k))
    (hfirst : (I.candidates s m₀).find? (T.bytes · ≠ []) = some m)
    (hother : m ≠ r.getBwuMediumForEndpoint R.peer) :
    ∃ s' skipped rest, ComesTo (fun fuel => s.initiateBwuForEndpoint
        ((I.under T).online P { world := s }) fuel I.peer m₀) s' ∧
      I.candidates s m₀ = skipped ++ m :: rest ∧ (∀ x ∈ skipped, T.bytes x = []) ∧
      Unfolds P I R s r later k T rest [m] (Net.start I s s' r) := by
  have hT := h T List.mem_cons_self
  have hnext := hpaced.next
  rw [BwuConfig.length_delays] at hnext
  have hsub : ∀ m ∈ I.candidates s m₀, m ∈ I.prospects s m₀ := fun m => List.mem_append_left _
  obtain ⟨s', hbid, hcomes⟩ := hT.opens hnext hsub { world := s }
  have hleft : (Net.start I s s' r).Left P T (I.under T) (R.under T) s r
      (r.getBwuMediumForEndpoint R.peer) (s.config.backoff (k + 1)) [] (I.candidates s m₀) := by
    refine Turning.left hT (a := { world := s }) (b := { world := r }) ?_ hbid hsub rfl rfl
      ⟨rfl, rfl⟩
    exact ⟨hT.responder.abides, rfl, ⟨rfl, rfl⟩, ⟨rfl, rfl⟩, rfl, rfl⟩
  generalize hms : I.candidates s m₀ = ms at hleft hfirst hsub
  cases hleft with
  | parted hnone =>
    have hbytes : T.bytes m ≠ [] := by simpa using List.find?_some hfirst
    exact absurd (hnone m (List.mem_of_find?_eq_some hfirst)) hbytes
  | @bidding skipped rest k' u hskipped hbytes hrest hbidding =>
    have hsame : k' = m := by
      have hnone : skipped.find? (T.bytes · ≠ []) = none := by
        rw [List.find?_eq_none]
        intro x hx
        simp [hskipped x hx]
      rw [List.find?_append, hnone, Option.none_or,
        List.find?_cons_of_pos (by simpa using hbytes)] at hfirst
      exact Option.some.inj hfirst
    subst hsame
    have hm : k' ∈ I.prospects s m₀ := hsub k' (by simp)
    refine ⟨s', skipped, rest, hcomes, rfl, hskipped, ?_⟩
    refine hbidding.unfolds h (fun m => List.mem_append_right _) hpaced hbytes hm hrest
      (fun x hx => hsub x (by simp [hx])) ?_
    refine hT.dismisses hm hbidding.responder ?_ ?_
    · rwa [hbidding.known]
    · rwa [hbidding.known]

/-! ### From Bluetooth to WiFi Aware, and then to WiFi LAN -/

def awareEnv : Env := { reliable with medium := fun c => if c = 0 then .bluetooth else .wifiAware }

def awareInitiator : Side := ⟨awareEnv, "E", 1, 2⟩

def awareResponder : Side := ⟨awareEnv, "L", 5, 6⟩

def awareInitiatorWorld : World :=
  (World.new {} (.wifiAware :: preferred) "L").after awareEnv 3
    (connect "E" 0 ++ [.setUpgradeMediums "E" preferred, .initiateBwuForEndpoint "E" .wifiAware,
      .onIncomingConnection 1, .onIncomingFrame forBwuLastWrite "E",
      .onIncomingFrame forBwuSafeToClose "E"])

def awareResponderWorld : World :=
  (World.new {} [.wifiAware, .wifiLan, .webRtc] "E").after awareEnv 3
    (connect "L" 0 ++ [.onIncomingFrame (bwuUpgradePathAvailable (upgradePathInfoForMedium
      .wifiAware)) "L", .onIncomingFrame forBwuLastWrite "L",
      .onIncomingFrame forBwuSafeToClose "L"])

def bothTerms : Terms := { threeTerms with reaches := fun _ => true }

def awareCodec : Prost := codebook (threeFrames awareResponder awareResponderWorld)

theorem bargain_aware :
    Bargain awareCodec bothTerms (awareInitiator.under bothTerms) (awareResponder.under bothTerms)
      preferred awareInitiatorWorld awareResponderWorld where
  initiatorLinks := by decide
  responderLinks := by decide
  initiator := ⟨by decide, by decide, by decide, by decide, by decide⟩
  responder := ⟨by decide, by decide, by decide, by decide, by decide⟩
  switches := by decide
  offLan := by decide
  nodup := by decide
  usable := by decide
  outgoing := by decide
  named := by decide
  handles _ _ _ := rfl
  medium := by decide
  parses _ := threeFrames_parses
  event := by decide
  codec m hm f hf := threeFrames_codec (by decide) hm hf
  creates _ _ _ := rfl

theorem candidates_aware :
    awareInitiator.candidates awareInitiatorWorld .webRtc = [.webRtc, .wifiLan] := by decide

theorem first_offer_lost_webRtc :
    bothTerms.serves awareResponder awareResponderWorld .webRtc = true ∧
    ∃ s' n, awareInitiatorWorld.initiateBwuForEndpoint ((awareInitiator.under bothTerms).online
        awareCodec { world := awareInitiatorWorld }) 2 "E" .webRtc = .ok s' ∧
      ReflTransGen (Step awareCodec (awareInitiator.under bothTerms)
          (awareResponder.under bothTerms))
        (Net.start awareInitiator awareInitiatorWorld s' awareResponderWorld) n ∧
      n.Agreed awareInitiator awareResponder [.webRtc] .wifiLan := by
  refine ⟨by decide, ?_⟩
  have hsub : ∀ m ∈ awareInitiator.prospects awareInitiatorWorld .webRtc, m ∈ preferred := by decide
  have hbargain : ∀ T ∈ [bothTerms], Bargain awareCodec T (awareInitiator.under T)
      (awareResponder.under T) (awareInitiator.prospects awareInitiatorWorld .webRtc)
      awareInitiatorWorld awareResponderWorld := by
    simp only [List.forall_mem_cons]
    exact ⟨bargain_aware.mono hsub, List.forall_mem_nil _⟩
  have hpaced : World.Paced "E" awareInitiatorWorld (awareInitiatorWorld.config.delays 0) :=
    ⟨by rw [BwuConfig.Fits]; decide, rfl, rfl, .inl rfl⟩
  obtain ⟨s', skipped, rest, ⟨-, huniq⟩, hsplit, hskipped, hsettles⟩ :=
    first_offer_lost hbargain (by decide) hpaced (m := .webRtc) (by decide) (by decide)
  obtain ⟨t, ht⟩ : ∃ t, awareInitiatorWorld.initiateBwuForEndpoint
      ((awareInitiator.under bothTerms).online awareCodec { world := awareInitiatorWorld }) 2 "E"
        .webRtc = .ok t := ⟨_, rfl⟩
  cases huniq 2 t ht
  obtain ⟨n, hrun, hstuck⟩ := exists_stuck hsettles.ends
  refine ⟨_, n, ht, hrun, ?_⟩
  rw [candidates_aware] at hsplit
  cases skipped with
  | cons a skipped =>
    obtain ⟨rfl, -⟩ := List.cons.inj hsplit
    exact absurd (hskipped _ List.mem_cons_self) (by decide)
  | nil =>
    cases hsplit
    have hend := hsettles.rests hrun hstuck
    rcases hend with ⟨before, m, after, hlast, -, hm, hagreed⟩ | ⟨hnone, -⟩
    · rcases before with _ | ⟨a, before⟩
      · cases hlast
        exact hagreed
      · simp at hlast
    · exact absurd (by decide) (hnone .wifiLan (by decide))

end Net

end Nearby.Bwu
