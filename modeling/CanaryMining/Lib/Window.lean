import CanaryMining.Lib.AssocMap
import Mathlib.Data.List.DropRight

/-!
# Windows of a growing list

A bounded store keeps the newest entries of a list that only grows, in maps by one key or
another.  `List.rtake` is the window; what is added here is how a window slides, and what
it means that a map holds exactly the entries of one.

## Main definitions

* `AssocMap.Indexes key value l m` — `m` holds the entries of `l`, each under its key.
* `AssocMap.ListsKeys order m` — `order` lists the keys of `m`, each once.
-/

namespace CanaryMining

section Slide

variable {A : Type*} {n m : ℕ}

/-- **Sliding a window.**  The window of a list that grew is the window of what was kept and
what was added. -/
theorem rtake_rtake_append (a b : List A) (h : n ≤ m) :
    (a.rtake n ++ b.rtake m).rtake n = (a ++ b).rtake n := by
  simp only [List.rtake_eq_reverse_take_reverse, List.reverse_append, List.reverse_reverse,
    List.take_append, List.take_take, List.length_take, List.length_reverse, min_eq_left h]
  congr 2
  by_cases hb : b.length ≤ m
  · rw [min_eq_right hb]
    congr 1
    omega
  · have hzero : n - min m b.length = 0 ∧ n - b.length = 0 := by omega
    simp [hzero]

theorem rtake_subset (l : List A) : l.rtake n ⊆ l := List.drop_subset _ _

theorem rtake_sublist (l : List A) : (l.rtake n).Sublist l := List.drop_sublist _ _

end Slide

namespace AssocMap

variable {A K V : Type*} [DecidableEq K]

/-- The map holds exactly the entries of a list, each under its key. -/
def Indexes (key : A → K) (value : A → V) (l : List A) (m : AssocMap K V) : Prop :=
  ∀ k v, m.lookup k = some v ↔ ∃ a ∈ l, key a = k ∧ value a = v

namespace Indexes

variable {key : A → K} {value : A → V} {l : List A} {m : AssocMap K V} {x : A}

theorem empty (key : A → K) (value : A → V) : Indexes key value [] ∅ := by
  intro k v
  simp

/-- A key that no entry has is not in the map. -/
theorem lookup_eq_none (h : Indexes key value l m) {k : K} (hk : k ∉ l.map key) :
    m.lookup k = none := by
  rw [Option.eq_none_iff_forall_ne_some]
  intro v hv
  obtain ⟨a, ha, hkey, -⟩ := (h k v).1 hv
  exact hk (List.mem_map.2 ⟨a, ha, hkey⟩)

/-- An entry is found under its key, if it is the only one that has it. -/
theorem lookup_eq (h : Indexes key value l m) (hx : x ∈ l) :
    m.lookup (key x) = some (value x) := (h _ _).2 ⟨x, hx, rfl, rfl⟩

/-- An entry with a new key is added. -/
theorem insert (h : Indexes key value l m) (hx : key x ∉ l.map key) :
    Indexes key value (l ++ [x]) (AList.insert (key x) (value x) m) := by
  intro k v
  rw [lookup_insert_if]
  by_cases hk : k = key x
  · subst hk
    rw [if_pos rfl, Option.some.injEq]
    constructor
    · intro hv
      exact ⟨x, by simp, rfl, hv⟩
    · rintro ⟨a, ha, hkey, hv⟩
      rcases List.mem_append.1 ha with ha | ha
      · exact absurd (List.mem_map.2 ⟨a, ha, hkey⟩) hx
      · rw [← hv, List.mem_singleton.1 ha]
  · rw [if_neg hk, h k v]
    constructor
    · rintro ⟨a, ha, hrest⟩
      exact ⟨a, List.mem_append_left _ ha, hrest⟩
    · rintro ⟨a, ha, hkey, hv⟩
      rcases List.mem_append.1 ha with ha | ha
      · exact ⟨a, ha, hkey, hv⟩
      · rw [List.mem_singleton.1 ha] at hkey
        exact absurd hkey.symm hk

/-- The oldest entries are removed by their keys. -/
theorem drop (h : Indexes key value l m) (hnodup : (l.map key).Nodup) (n : ℕ) :
    Indexes key value (l.drop n)
      (((l.take n).map key).foldl (fun m k => AList.erase k m) m) := by
  intro k v
  have hdisjoint : ∀ a ∈ l.drop n, key a ∉ (l.take n).map key := by
    intro a ha hmem
    rw [← List.take_append_drop n l, List.map_append, List.nodup_append] at hnodup
    exact hnodup.2.2 _ hmem _ (List.mem_map_of_mem ha) rfl
  rw [lookup_foldl_erase]
  by_cases hk : k ∈ (l.take n).map key
  · rw [if_pos hk]
    constructor
    · intro hnone
      cases hnone
    · rintro ⟨a, ha, hkey, -⟩
      exact absurd (hkey ▸ hk) (hdisjoint a ha)
  · rw [if_neg hk, h k v]
    constructor
    · rintro ⟨a, ha, hkey, hv⟩
      rw [← List.take_append_drop n l, List.mem_append] at ha
      refine ⟨a, ha.resolve_left fun htake => hk ?_, hkey, hv⟩
      exact List.mem_map.2 ⟨a, htake, hkey⟩
    · rintro ⟨a, ha, hrest⟩
      exact ⟨a, List.mem_of_mem_drop ha, hrest⟩

/-- The oldest entry is removed. -/
theorem erase_head {a : A} (h : Indexes key value (a :: l) m)
    (hnodup : ((a :: l).map key).Nodup) : Indexes key value l (AList.erase (key a) m) :=
  h.drop hnodup 1

end Indexes

/-! ## Maps with an order of their keys -/

section ListsKeys

variable {K V : Type*} [DecidableEq K] {m : AssocMap K V} {order : List K} {k : K}

/-- The order lists the keys of the map, each once. -/
structure ListsKeys (order : List K) (m : AssocMap K V) : Prop where
  nodup : order.Nodup
  mem_iff : ∀ k, k ∈ order ↔ (m.lookup k).isSome

namespace ListsKeys

theorem nil : ListsKeys [] (∅ : AssocMap K V) := ⟨.nil, by simp⟩

/-- There are as many entries as the order lists. -/
theorem length_eq (h : ListsKeys order m) : m.keys.length = order.length := by
  refine List.Perm.length_eq ((List.perm_ext_iff_of_nodup m.keys_nodup h.nodup).2 fun k => ?_)
  rw [h.mem_iff, AList.lookup_isSome, AList.mem_keys]

/-- An inserted key is the newest of the order, wherever it was before. -/
theorem insert (h : ListsKeys order m) (k : K) (v : V) :
    ListsKeys (order.filter (· ≠ k) ++ [k]) (AList.insert k v m) := by
  constructor
  · rw [List.nodup_append]
    refine ⟨h.nodup.filter _, List.nodup_singleton k, ?_⟩
    rintro k' hk' _ hk rfl
    have hne := of_decide_eq_true (List.mem_filter.1 hk').2
    exact hne (List.mem_singleton.1 hk)
  · intro k'
    rw [lookup_insert_if, List.mem_append, List.mem_filter, List.mem_singleton,
      decide_eq_true_eq, h.mem_iff]
    by_cases hk : k' = k
    · simp [hk]
    · simp [hk]

/-- The oldest keys leave the order together with their entries. -/
theorem drop (h : ListsKeys order m) (n : ℕ) :
    ListsKeys (order.drop n) ((order.take n).foldl (fun m k => AList.erase k m) m) := by
  have hsplit := List.take_append_drop n order
  have hnodup := h.nodup
  rw [← hsplit, List.nodup_append] at hnodup
  refine ⟨hnodup.2.1, fun k => ?_⟩
  rw [lookup_foldl_erase]
  by_cases hk : k ∈ order.take n
  · rw [if_pos hk]
    constructor
    · intro hdrop
      exact absurd rfl (hnodup.2.2 k hk k hdrop)
    · intro hnone
      cases hnone
  · rw [if_neg hk, ← h.mem_iff]
    constructor
    · exact List.mem_of_mem_drop
    · intro hmem
      rw [← hsplit, List.mem_append] at hmem
      exact hmem.resolve_left hk

/-- Where an entry is recorded in place of others, no key is forgotten exactly if each of them
has its key. -/
theorem forall_recorded_iff {A : Type*} {key : A → K} {entries : List A}
    (h : ListsKeys (entries.map key) m) (stays : A → Bool) (x : A) (v : V) :
    (∀ k, (if k = key x then some v else m.lookup k).isSome →
      k ∈ (entries.filter stays ++ [x]).map key) ↔
        ∀ entry ∈ entries, stays entry = false → key entry = key x := by
  constructor
  · intro hkeeps entry hentry hreplaced
    by_contra hne
    have hfound : (if key entry = key x then some v else m.lookup (key entry)).isSome := by
      rw [if_neg hne, ← h.mem_iff]
      exact List.mem_map_of_mem hentry
    obtain ⟨other, hother, heq⟩ := List.mem_map.1 (hkeeps _ hfound)
    rcases List.mem_append.1 hother with hother | hother
    · obtain ⟨hold, hstays⟩ := List.mem_filter.1 hother
      rw [List.inj_on_of_nodup_map h.nodup hold hentry heq, hreplaced] at hstays
      cases hstays
    · rw [List.mem_singleton.1 hother] at heq
      exact hne heq.symm
  · intro hwhole k hk
    by_cases hnew : k = key x
    · rw [hnew]
      exact List.mem_map_of_mem (List.mem_append_right _ (List.mem_singleton_self x))
    · rw [if_neg hnew, ← h.mem_iff] at hk
      obtain ⟨entry, hentry, rfl⟩ := List.mem_map.1 hk
      have hstays : stays entry = true := by
        rw [← Bool.not_eq_false]
        exact fun hreplaced => hnew (hwhole entry hentry hreplaced)
      exact List.mem_map_of_mem (List.mem_append_left _ (List.mem_filter.2 ⟨hentry, hstays⟩))

end ListsKeys

/-- Where keys are dropped from a map and from the list of its keys, none is forgotten exactly if
none was before. -/
theorem forall_dropped_iff {dropped kept : List K} {found left : K → Option V}
    (hleft : ∀ k, left k = if k ∈ dropped then none else found k) :
    (∀ k, (left k).isSome → k ∈ kept) ↔ ∀ k, (found k).isSome → k ∈ dropped ++ kept := by
  refine forall_congr' fun k => ?_
  rw [hleft, List.mem_append]
  split
  · rename_i hdropped
    exact iff_of_true nofun fun _ => .inl hdropped
  · rename_i hstays
    rw [or_iff_right hstays]

end ListsKeys

end AssocMap

end CanaryMining
