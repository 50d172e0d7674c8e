import Mathlib.Data.List.AList

/-! Finite maps and sets with decidable keys, on top of `AList`. -/

namespace Nearby.Lib

universe u v

abbrev HashMap (K : Type u) (V : Type v) := AList (fun _ : K => V)

abbrev HashSet (K : Type u) := HashMap K Unit

variable {K : Type u} {V : Type v}

namespace HashMap

def len (m : HashMap K V) : Nat := m.entries.length

variable [DecidableEq K]

theorem lookup_insert_eq (m : HashMap K V) (a k : K) (v : V) :
    (m.insert k v).lookup a = if a = k then some v else m.lookup a := by
  by_cases h : a = k
  · subst h
    simp
  · rw [AList.lookup_insert_ne h, if_neg h]

theorem lookup_erase_eq (m : HashMap K V) (a k : K) :
    (m.erase k).lookup a = if a = k then none else m.lookup a := by
  by_cases h : a = k
  · subst h
    simp
  · rw [AList.lookup_erase_ne h, if_neg h]

theorem mem_of_lookup {m : HashMap K V} {k : K} {v : V} (h : m.lookup k = some v) : k ∈ m :=
  AList.lookup_isSome.mp (by simp [h])

theorem not_mem_erase (m : HashMap K V) (k : K) : k ∉ m.erase k :=
  fun h => (AList.mem_erase.mp h).1 rfl

theorem mem_and_ne_iff {m : HashMap K V} {k a : K} (h : m.lookup k = none) :
    a ∈ m ∧ a ≠ k ↔ a ∈ m := by
  refine and_iff_left_of_imp ?_
  rintro ha rfl
  exact AList.lookup_eq_none.mp h ha

theorem lookup_of_mem {m : HashMap K V} {k : K} (h : k ∈ m) : ∃ v, m.lookup k = some v :=
  Option.isSome_iff_exists.mp (AList.lookup_isSome.mpr h)

/-- `HashMap::retain`, for a condition on the key. -/
def retain (m : HashMap K V) (p : K → Bool) : HashMap K V :=
  ⟨m.entries.filter fun x => p x.1, m.nodupKeys.sublist List.filter_sublist⟩

theorem lookup_retain (m : HashMap K V) (p : K → Bool) (a : K) :
    (m.retain p).lookup a = if p a = true then m.lookup a else none := by
  ext v
  have h : v ∈ (m.retain p).lookup a ↔ ⟨a, v⟩ ∈ m.entries ∧ p a = true := by
    rw [AList.lookup, List.mem_dlookup_iff (m.retain p).nodupKeys, retain, List.mem_filter]
  rw [← Option.mem_def, h]
  split
  case isTrue hp =>
    rw [← Option.mem_def, AList.lookup, List.mem_dlookup_iff m.nodupKeys]
    exact and_iff_left hp
  case isFalse hp => simp [hp]

theorem entries_perm_erase {m : HashMap K V} {k : K} {v : V} (h : m.lookup k = some v) :
    m.entries.Perm (⟨k, v⟩ :: (m.erase k).entries) := by
  obtain ⟨b, before, after, hnot, hm, herase⟩ :=
    List.exists_of_kerase (AList.mem_keys.mpr (mem_of_lookup h))
  have hb : b = v := by
    rw [AList.lookup, hm, List.dlookup_append, List.dlookup_eq_none.mpr hnot] at h
    simpa using h
  subst hb
  have herased : (m.erase k).entries = before ++ after := herase
  rw [hm, herased]
  exact List.perm_middle

/-! Things opened and closed again, while the map keeps those that are open: `f v` for the
value `v`. -/

theorem perm_opened {A : Type*} {m : HashMap K V} {k : K} (f : V → A) {opened closed : List A}
    (h : opened.Perm (closed ++ m.entries.map fun x => f x.2)) (hk : k ∉ m) (v : V) :
    (f v :: opened).Perm (closed ++ (m.insert k v).entries.map fun x => f x.2) := by
  have hentries : (m.insert k v).entries = ⟨k, v⟩ :: m.entries := AList.entries_insert_of_notMem hk
  rw [hentries, List.map_cons]
  exact (h.cons (f v)).trans List.perm_middle.symm

theorem perm_closed {A : Type*} {m : HashMap K V} {k : K} {v : V} (f : V → A)
    {opened closed : List A} (h : opened.Perm (closed ++ m.entries.map fun x => f x.2))
    (hk : m.lookup k = some v) :
    opened.Perm (f v :: closed ++ (m.erase k).entries.map fun x => f x.2) := by
  have hperm := (entries_perm_erase hk).map fun x => f x.2
  exact h.trans ((hperm.append_left closed).trans List.perm_middle)

def toList (m : HashMap K V) : List (K × V) := m.entries.map fun x => (x.1, x.2)

theorem lookup_toList (m : HashMap K V) (a : K) : m.toList.lookup a = m.lookup a := by
  rw [toList, AList.lookup]
  induction m.entries with
  | nil => rfl
  | cons x xs ih =>
    obtain ⟨k, v⟩ := x
    rw [List.map_cons, List.lookup_cons]
    by_cases h : a = k
    · subst h
      simp
    · rw [List.dlookup_cons_ne xs _ h, ← ih, beq_false_of_ne h]

theorem mem_toList {m : HashMap K V} {a : K} {v : V} : (a, v) ∈ m.toList ↔ m.lookup a = some v := by
  rw [← Option.mem_def, AList.mem_lookup_iff, toList, List.mem_map]
  constructor
  · rintro ⟨x, hx, he⟩
    cases he
    exact hx
  · exact fun h => ⟨⟨a, v⟩, h, rfl⟩

omit [DecidableEq K] in
theorem nodup_toList_keys (m : HashMap K V) : (m.toList.map Prod.fst).Nodup := by
  rw [toList, List.map_map]
  exact m.nodupKeys

omit [DecidableEq K] in
theorem mem_toList_keys {m : HashMap K V} {a : K} : a ∈ m.toList.map Prod.fst ↔ a ∈ m := by
  rw [toList, List.map_map]
  exact Iff.rfl

omit [DecidableEq K] in
theorem entries_eq_nil {m : HashMap K V} (h : ∀ k, k ∉ m) : m.entries = [] := by
  rw [List.eq_nil_iff_forall_not_mem]
  intro x hx
  exact h x.1 (AList.mem_keys.mpr (List.mem_map_of_mem hx))

omit [DecidableEq K] in
theorem not_mem_of_len_zero {m : HashMap K V} (h : m.len = 0) {k : K} : k ∉ m := by
  intro hk
  have hnil : m.entries = [] := List.length_eq_zero_iff.mp h
  have hkeys : k ∈ m.keys := AList.mem_keys.mpr hk
  simp [AList.keys, List.keys, hnil] at hkeys

omit [DecidableEq K] in
theorem exists_mem_of_len_ne_zero {m : HashMap K V} (h : m.len ≠ 0) : ∃ k, k ∈ m := by
  obtain ⟨x, hx⟩ := List.exists_mem_of_length_pos (Nat.pos_of_ne_zero h)
  exact ⟨x.1, AList.mem_keys.mpr (List.mem_map_of_mem hx)⟩

end HashMap

namespace HashSet

/-- The only element of a set of size one, as its iterator yields it. -/
def only? (s : HashSet K) : Option K := s.keys.head?

theorem only?_mem {s : HashSet K} {k : K} (h : s.only? = some k) : k ∈ s :=
  AList.mem_keys.mpr (List.mem_of_mem_head? h)

theorem eq_of_len_one {s : HashSet K} (h : s.len = 1) {a b : K} (ha : a ∈ s) (hb : b ∈ s) :
    a = b := by
  obtain ⟨x, hx⟩ := List.length_eq_one_iff.mp h
  have hk : s.keys = [x.1] := by simp [AList.keys, List.keys, hx]
  have ha' : a = x.1 := by simpa [hk] using AList.mem_keys.mp ha
  have hb' : b = x.1 := by simpa [hk] using AList.mem_keys.mp hb
  rw [ha', hb']

end HashSet

end Nearby.Lib
