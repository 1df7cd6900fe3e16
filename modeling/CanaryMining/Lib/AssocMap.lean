import Mathlib.Data.List.AList
import Mathlib.Data.List.Induction

/-!
# Finite maps with an iteration order

Maps are Mathlib's association lists with distinct keys.  Added here are the
operations of a hash map that visit every entry: keeping the entries that
satisfy a test, changing each value, looping over the entries until an error,
and listing them in an order the map does not promise.

## Main definitions

* `AssocMap K V` — a finite map from `K` to `V`.
* `AssocMap.retain`, `AssocMap.mapVals`, `AssocMap.modify`.
* `AssocMap.visit` — a loop over the entries, and `AssocMap.Visited`, what it does.
* `IterOrder` — an arbitrary order of visiting entries.
-/

namespace CanaryMining

/-- A finite map from `K` to `V`. -/
abbrev AssocMap (K V : Type*) := AList (fun _ : K => V)

namespace AssocMap

variable {K V : Type*} [DecidableEq K] {k k' : K} {v : V} {m : AssocMap K V}

theorem lookup_eq_some : m.lookup k = some v ↔ (⟨k, v⟩ : Σ _ : K, V) ∈ m.entries :=
  AList.mem_lookup_iff

@[simp] theorem lookup_insert_if (m : AssocMap K V) (k k' : K) (v : V) :
    (m.insert k v).lookup k' = if k' = k then some v else m.lookup k' := by
  by_cases h : k' = k
  · rw [h, AList.lookup_insert, if_pos rfl]
  · rw [AList.lookup_insert_ne h, if_neg h]

@[simp] theorem lookup_erase_if (m : AssocMap K V) (k k' : K) :
    (m.erase k).lookup k' = if k' = k then none else m.lookup k' := by
  by_cases h : k' = k
  · rw [h, AList.lookup_erase, if_pos rfl]
  · rw [AList.lookup_erase_ne h, if_neg h]

theorem erase_of_lookup_eq_none (h : m.lookup k = none) : m.erase k = m := by
  apply AList.ext
  rw [AList.lookup_eq_none] at h
  exact List.kerase_of_notMem_keys h

/-- Erasing keys one after the other. -/
theorem lookup_foldl_erase (keys : List K) (m : AssocMap K V) (k : K) :
    (keys.foldl (fun m k' => m.erase k') m).lookup k =
      if k ∈ keys then none else m.lookup k := by
  induction keys generalizing m with
  | nil => simp
  | cons k' keys ih =>
    rw [List.foldl_cons, ih, lookup_erase_if]
    by_cases hk : k = k'
    · simp [hk]
    · simp [hk]

/-- The map with the entries that satisfy `p`. -/
def retain (p : K → V → Bool) (m : AssocMap K V) : AssocMap K V :=
  ⟨m.entries.filter fun e => p e.1 e.2, m.nodupKeys.sublist List.filter_sublist⟩

@[simp] theorem lookup_retain (p : K → V → Bool) (m : AssocMap K V) (k : K) :
    (m.retain p).lookup k = (m.lookup k).filter (p k) := by
  ext v
  rw [lookup_eq_some, Option.filter_eq_some_iff, lookup_eq_some]
  simp [retain]

/-- The map with every value changed. -/
def mapVals {W : Type*} (f : K → V → W) (m : AssocMap K V) : AssocMap K W :=
  ⟨m.entries.map fun e => ⟨e.1, f e.1 e.2⟩, by
    have h := m.nodupKeys
    rw [List.NodupKeys, List.keys] at h ⊢
    rw [List.map_map]
    exact h⟩

@[simp] theorem lookup_mapVals {W : Type*} (f : K → V → W) (m : AssocMap K V) (k : K) :
    (m.mapVals f).lookup k = (m.lookup k).map (f k) := by
  ext w
  rw [lookup_eq_some, Option.map_eq_some_iff]
  simp only [mapVals, List.mem_map]
  constructor
  · rintro ⟨⟨k', v⟩, he, heq⟩
    simp only [Sigma.mk.injEq] at heq
    obtain ⟨rfl, heq⟩ := heq
    exact ⟨v, lookup_eq_some.2 he, eq_of_heq heq⟩
  · rintro ⟨v, hv, rfl⟩
    exact ⟨⟨k, v⟩, lookup_eq_some.1 hv, rfl⟩

omit [DecidableEq K] in
@[simp] theorem keys_mapVals {W : Type*} (f : K → V → W) (m : AssocMap K V) :
    (m.mapVals f).keys = m.keys := by
  rw [AList.keys, AList.keys, List.keys, List.keys, mapVals, List.map_map]
  rfl

theorem mapVals_erase {W : Type*} (f : K → V → W) (m : AssocMap K V) (k : K) :
    mapVals f (m.erase k) = (mapVals f m).erase k := by
  apply AList.ext
  have h := List.eraseP_map (f := fun e : Σ _ : K, V => (⟨e.1, f e.1 e.2⟩ : Σ _ : K, W))
    (p := fun e => decide (k = e.1)) (l := m.entries)
  exact h.symm

theorem mapVals_insert {W : Type*} (f : K → V → W) (m : AssocMap K V) (k : K) (v : V) :
    mapVals f (m.insert k v) = (mapVals f m).insert k (f k v) := by
  apply AList.ext
  exact congrArg (List.cons (⟨k, f k v⟩ : Σ _ : K, W))
    (congrArg AList.entries (mapVals_erase f m k))

theorem mapVals_foldl_erase {W : Type*} (f : K → V → W) (keys : List K) (m : AssocMap K V) :
    mapVals f (keys.foldl (fun m k => m.erase k) m) =
      keys.foldl (fun m k => m.erase k) (mapVals f m) := by
  induction keys generalizing m with
  | nil => rfl
  | cons k keys ih =>
    rw [List.foldl_cons, List.foldl_cons, ih, mapVals_erase]

/-- The map with the value of one key changed, if the key has one. -/
def modify (k : K) (f : V → V) (m : AssocMap K V) : AssocMap K V :=
  m.mapVals fun k' v => if k' = k then f v else v

@[simp] theorem lookup_modify (k : K) (f : V → V) (m : AssocMap K V) (k' : K) :
    (m.modify k f).lookup k' = (m.lookup k').map fun v => if k' = k then f v else v := by
  simp [modify]

/-- After some insertions, a key has the last value inserted under it, and the one it had
before if there is none. -/
theorem lookup_foldl_insert {A : Type*} (key : A → K) (value : A → V) (l : List A)
    (m : AssocMap K V) (k : K) :
    (l.foldl (fun m a => m.insert (key a) (value a)) m).lookup k =
      ((l.filter fun a => key a = k).getLast?.map value).or (m.lookup k) := by
  induction l using List.reverseRecOn with
  | nil => rfl
  | append_singleton l a ih =>
    rw [List.foldl_append, List.foldl_cons, List.foldl_nil, lookup_insert_if, ih,
      List.filter_append]
    by_cases hk : k = key a
    · have hlast : [a].filter (fun a => key a = k) = [a] := by simp [hk]
      rw [if_pos hk, hlast, List.getLast?_concat]
      rfl
    · have hnone : [a].filter (fun a => key a = k) = [] := by simp [Ne.symm hk]
      rw [if_neg hk, hnone, List.append_nil]

/-- What the entries of a map satisfy, and what is inserted satisfies, the entries
satisfy after all insertions. -/
theorem forall_foldl_insert {A : Type*} (key : A → K) (value : A → V) {P : K → V → Prop}
    {l : List A} (hm : ∀ k v, m.lookup k = some v → P k v) (hl : ∀ a ∈ l, P (key a) (value a)) :
    ∀ k v, (l.foldl (fun m a => m.insert (key a) (value a)) m).lookup k = some v → P k v := by
  intro k v hk
  rw [lookup_foldl_insert, Option.or_eq_some_iff] at hk
  rcases hk with hinserted | ⟨-, hold⟩
  · obtain ⟨a, ha, rfl⟩ := Option.map_eq_some_iff.1 hinserted
    obtain ⟨hmem, hkey⟩ := List.mem_filter.1 (List.mem_of_getLast? ha)
    rw [← of_decide_eq_true hkey]
    exact hl a hmem
  · exact hm k v hold

/-- The values of a map. -/
def values (m : AssocMap K V) : List V := m.entries.map (·.2)

theorem mem_values : v ∈ m.values ↔ ∃ k, m.lookup k = some v := by
  simp only [values, List.mem_map, lookup_eq_some]
  constructor
  · rintro ⟨e, he, rfl⟩
    exact ⟨e.1, he⟩
  · rintro ⟨k, hk⟩
    exact ⟨_, hk, rfl⟩

/-- Values that know their keys. -/
theorem map_values_eq_keys {f : V → K} (h : ∀ k v, m.lookup k = some v → f v = k) :
    m.values.map f = m.keys := by
  rw [values, List.map_map]
  exact List.map_congr_left fun e he => h e.1 e.2 (lookup_eq_some.2 he)

omit [DecidableEq K] in
theorem values_mapVals {W : Type*} (f : V → W) (m : AssocMap K V) :
    (m.mapVals fun _ v => f v).values = m.values.map f := by
  rw [values, values, mapVals, List.map_map, List.map_map]
  rfl

/-- Maps with the same entries have the same values. -/
theorem values_perm {m' : AssocMap K V} (h : ∀ k, m.lookup k = m'.lookup k) :
    m.values.Perm m'.values := by
  refine List.Perm.map _ (List.lookup_ext m.nodupKeys m'.nodupKeys fun k v => ?_)
  have hk : (m.entries.dlookup k) = m'.entries.dlookup k := h k
  rw [hk]

/-! ## Loops over the entries -/

variable {E M : Type*}

/-- One turn of a loop over the entries of a map. -/
def visitKey (f : K → V → Except E (V × List M)) (acc : AssocMap K V × List M) (k : K) :
    Except E (AssocMap K V × List M) :=
  match acc.1.lookup k with
  | none => .ok acc
  | some v =>
    match f k v with
    | .error e => .error e
    | .ok (v', messages) => .ok (acc.1.insert k v', acc.2 ++ messages)

/-- A loop over the entries of a map that changes each value, collects messages and
stops at the first error. -/
def visit (f : K → V → Except E (V × List M)) (keys : List K) (m : AssocMap K V) :
    Except E (AssocMap K V × List M) :=
  keys.foldlM (visitKey f) (m, [])

/-- What a loop without errors has done: every entry of a key in `keys` was changed
by `f`, and the messages are those of these changes. -/
structure Visited (f : K → V → Except E (V × List M)) (keys : List K) (m m' : AssocMap K V)
    (messages : List M) : Prop where
  other : ∀ k ∉ keys, m'.lookup k = m.lookup k
  absent : ∀ k, m.lookup k = none → m'.lookup k = none
  entry : ∀ k ∈ keys, ∀ v, m.lookup k = some v →
    ∃ v' sent, f k v = .ok (v', sent) ∧ m'.lookup k = some v' ∧ sent ⊆ messages
  message : ∀ msg ∈ messages, ∃ k ∈ keys, ∃ v v' sent,
    m.lookup k = some v ∧ f k v = .ok (v', sent) ∧ m'.lookup k = some v' ∧ msg ∈ sent

/-- The loop invariant: the keys visited so far are done, the others untouched. -/
theorem visited_of_foldlM {f : K → V → Except E (V × List M)} {keys : List K}
    (hkeys : keys.Nodup) {m m' : AssocMap K V} {before after : List M}
    (h : keys.foldlM (visitKey f) (m, before) = .ok (m', after)) :
    ∃ messages, after = before ++ messages ∧ Visited f keys m m' messages := by
  induction keys generalizing m before with
  | nil =>
    cases h
    exact ⟨[], (List.append_nil _).symm, fun _ _ => rfl, fun _ h => h,
      fun k hk => absurd hk List.not_mem_nil, fun msg hmsg => absurd hmsg List.not_mem_nil⟩
  | cons k keys ih =>
    obtain ⟨hk, hkeys⟩ := List.nodup_cons.1 hkeys
    rw [List.foldlM_cons] at h
    cases hl : m.lookup k with
    | none =>
      have hturn : visitKey f (m, before) k = .ok (m, before) := by simp [visitKey, hl]
      rw [hturn] at h
      obtain ⟨messages, rfl, hv⟩ := ih hkeys h
      refine ⟨messages, rfl, ?_, hv.absent, ?_, ?_⟩
      · exact fun k' hk' => hv.other k' fun hmem => hk' (List.mem_cons_of_mem _ hmem)
      · intro k' hk' v hv'
        rcases List.mem_cons.1 hk' with rfl | hk'
        · rw [hl] at hv'
          cases hv'
        · exact hv.entry k' hk' v hv'
      · intro msg hmsg
        obtain ⟨k', hk', hrest⟩ := hv.message msg hmsg
        exact ⟨k', List.mem_cons_of_mem _ hk', hrest⟩
    | some v =>
      cases hf : f k v with
      | error e =>
        have hturn : visitKey f (m, before) k = .error e := by simp [visitKey, hl, hf]
        rw [hturn] at h
        cases h
      | ok changed =>
        obtain ⟨v', sent⟩ := changed
        have hturn : visitKey f (m, before) k = .ok (m.insert k v', before ++ sent) := by
          simp [visitKey, hl, hf]
        rw [hturn] at h
        obtain ⟨messages, rfl, hv⟩ := ih hkeys h
        have hlast : m'.lookup k = some v' := by
          rw [hv.other k hk, lookup_insert_if, if_pos rfl]
        refine ⟨sent ++ messages, List.append_assoc _ _ _, ?_, ?_, ?_, ?_⟩
        · intro k' hk'
          have hne : k' ≠ k := fun heq => hk' (heq ▸ List.mem_cons_self)
          rw [hv.other k' fun hmem => hk' (List.mem_cons_of_mem _ hmem), lookup_insert_if,
            if_neg hne]
        · intro k' hk'
          have hne : k' ≠ k := by
            rintro rfl
            rw [hl] at hk'
            cases hk'
          exact hv.absent k' (by rw [lookup_insert_if, if_neg hne, hk'])
        · intro k' hk' w hw
          by_cases heq : k' = k
          · subst heq
            rw [hl, Option.some.injEq] at hw
            subst hw
            exact ⟨v', sent, hf, hlast, List.subset_append_left _ _⟩
          · have hmem := (List.mem_cons.1 hk').resolve_left heq
            obtain ⟨w', sent', hf', hw', hsub⟩ :=
              hv.entry k' hmem w (by rw [lookup_insert_if, if_neg heq, hw])
            exact ⟨w', sent', hf', hw', List.subset_append_of_subset_right _ hsub⟩
        · intro msg hmsg
          rcases List.mem_append.1 hmsg with hmsg | hmsg
          · exact ⟨k, List.mem_cons_self, v, v', sent, hl, hf, hlast, hmsg⟩
          · obtain ⟨k', hk', w, w', sent', hw, hf', hw', hmem⟩ := hv.message msg hmsg
            have hne : k' ≠ k := by
              rintro rfl
              exact hk hk'
            rw [lookup_insert_if, if_neg hne] at hw
            exact ⟨k', List.mem_cons_of_mem _ hk', w, w', sent', hw, hf', hw', hmem⟩

theorem visited_of_visit {f : K → V → Except E (V × List M)} {keys : List K}
    (hkeys : keys.Nodup) {m m' : AssocMap K V} {messages : List M}
    (h : visit f keys m = .ok (m', messages)) : Visited f keys m m' messages := by
  obtain ⟨sent, hsent, hv⟩ := visited_of_foldlM hkeys h
  rw [List.nil_append] at hsent
  exact hsent ▸ hv

/-- The error of a loop is the error of one of its turns. -/
theorem exists_of_visit_error {f : K → V → Except E (V × List M)} {keys : List K}
    {m : AssocMap K V} {e : E} (h : visit f keys m = .error e) : ∃ k v, f k v = .error e := by
  suffices key : ∀ acc, keys.foldlM (visitKey f) acc = .error e → ∃ k v, f k v = .error e from
    key _ h
  clear h
  induction keys with
  | nil =>
    intro acc h
    cases h
  | cons k keys ih =>
    intro acc h
    rw [List.foldlM_cons] at h
    cases hl : acc.1.lookup k with
    | none =>
      have hturn : visitKey f acc k = .ok acc := by simp [visitKey, hl]
      rw [hturn] at h
      exact ih _ h
    | some v =>
      cases hf : f k v with
      | error e' =>
        have hturn : visitKey f acc k = .error e' := by simp [visitKey, hl, hf]
        rw [hturn] at h
        cases h
        exact ⟨k, v, hf⟩
      | ok changed =>
        have hturn : visitKey f acc k = .ok (acc.1.insert k changed.1, acc.2 ++ changed.2) := by
          simp [visitKey, hl, hf]
        rw [hturn] at h
        exact ih _ h

end AssocMap

/-- The order in which a hash map yields its entries: any, and a new one each
time. -/
structure IterOrder (E : Type*) where
  order : List E → List E
  perm : ∀ l, (order l).Perm l

namespace IterOrder

/-- The order the entries are stored in. -/
def stored (E : Type*) : IterOrder E := ⟨id, fun _ => .refl _⟩

instance (E : Type*) : Inhabited (IterOrder E) := ⟨stored E⟩

/-- Every order of a list is one in which its elements may come. -/
theorem exists_order {E : Type*} {l l' : List E} (h : l'.Perm l) :
    ∃ o : IterOrder E, o.order l = l' := by
  classical
  refine ⟨⟨fun x => if x = l then l' else x, fun x => ?_⟩, if_pos rfl⟩
  by_cases hx : x = l
  · rw [if_pos hx, hx]
    exact h
  · rw [if_neg hx]

/-- Two elements may come first, in either order. -/
theorem exists_swap {E : Type*} {l : List E} {a b : E} (ha : a ∈ l) (hb : b ∈ l) (hne : a ≠ b) :
    ∃ (o o' : IterOrder E) (r : List E), o.order l = a :: b :: r ∧ o'.order l = b :: a :: r := by
  obtain ⟨before, after, rfl⟩ := List.append_of_mem ha
  have hb' : b ∈ before ++ after := by
    rw [List.mem_append, List.mem_cons] at hb
    rw [List.mem_append]
    rcases hb with hb | hb | hb
    · exact .inl hb
    · exact absurd hb.symm hne
    · exact .inr hb
  obtain ⟨before', after', hsplit⟩ := List.append_of_mem hb'
  have hperm : (a :: b :: (before' ++ after')).Perm (before ++ a :: after) := by
    refine List.Perm.trans ?_ List.perm_middle.symm
    rw [hsplit]
    exact List.perm_middle.symm.cons a
  obtain ⟨o, ho⟩ := exists_order hperm
  obtain ⟨o', ho'⟩ := exists_order ((List.Perm.swap a b (before' ++ after')).trans hperm)
  exact ⟨o, o', _, ho, ho'⟩

@[simp] theorem mem_order {E : Type*} (o : IterOrder E) {e : E} {l : List E} :
    e ∈ o.order l ↔ e ∈ l := (o.perm l).mem_iff

@[simp] theorem order_nil {E : Type*} (o : IterOrder E) : o.order [] = [] :=
  (o.perm []).eq_nil

@[simp] theorem length_order {E : Type*} (o : IterOrder E) (l : List E) :
    (o.order l).length = l.length := (o.perm l).length_eq

end IterOrder

end CanaryMining
