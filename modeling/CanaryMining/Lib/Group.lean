import CanaryMining.Lib.AssocMap
import Mathlib.Data.List.Induction

/-!
# Grouping by key

A loop that puts each element of a list into the entry of its key.  What it leaves at
one key depends only on the elements with this key, in their order, and together the
entries hold every element once.

## Main definitions

* `AssocMap.updateAll key f l m` — each element of `l` updates the entry of its key by `f`.
-/

namespace CanaryMining

namespace AssocMap

variable {A B K V : Type*} [DecidableEq K]

/-- Each element updates the entry of its key, which it may be the first of. -/
def updateAll (key : A → K) (f : Option V → A → V) (l : List A) (m : AssocMap K V) :
    AssocMap K V :=
  l.foldl (fun m a => m.insert (key a) (f (m.lookup (key a)) a)) m

variable {key : A → K} {f : Option V → A → V} {m : AssocMap K V}

theorem updateAll_append (l l' : List A) :
    updateAll key f (l ++ l') m = updateAll key f l' (updateAll key f l m) :=
  List.foldl_append

/-- **Grouping.**  The entry of a key is what its own elements made of it. -/
theorem lookup_updateAll (l : List A) (m : AssocMap K V) (k : K) :
    (updateAll key f l m).lookup k =
      (l.filter fun a => key a = k).foldl (fun v a => some (f v a)) (m.lookup k) := by
  induction l generalizing m with
  | nil => rfl
  | cons a l ih =>
    have hstep : updateAll key f (a :: l) m =
        updateAll key f l (m.insert (key a) (f (m.lookup (key a)) a)) := rfl
    rw [hstep, ih, lookup_insert_if, List.filter_cons]
    by_cases hk : key a = k
    · subst hk
      simp
    · simp [hk, Ne.symm hk]

/-! ## What the entries hold together -/

variable (contents : K → V → List B)

/-- Everything the entries of a map hold. -/
def contentsOf (m : AssocMap K V) : List B := m.entries.flatMap fun e => contents e.1 e.2

theorem contentsOf_insert (k : K) (v : V) (m : AssocMap K V) :
    contentsOf contents (m.insert k v) = contents k v ++ contentsOf contents (m.erase k) := by
  have hentries : (m.insert k v).entries = ⟨k, v⟩ :: (m.erase k).entries := rfl
  rw [contentsOf, hentries, List.flatMap_cons, contentsOf]

/-- The entry of a key, apart from the others. -/
theorem contentsOf_perm_erase (k : K) (m : AssocMap K V) :
    (contentsOf contents m).Perm
      (((m.lookup k).elim [] (contents k)) ++ contentsOf contents (m.erase k)) := by
  cases hk : m.lookup k with
  | none =>
    rw [erase_of_lookup_eq_none hk]
    exact List.Perm.refl _
  | some v =>
    have hmem : k ∈ m.entries.keys := List.mem_keys_of_mem (lookup_eq_some.1 hk)
    obtain ⟨v', before, after, hbefore, hentries, herase⟩ := List.exists_of_kerase hmem
    have hv : v' = v := by
      have hv' : m.lookup k = some v' := by
        rw [lookup_eq_some, hentries]
        simp
      exact Option.some.inj (hv'.symm.trans hk)
    have herased : (m.erase k).entries = before ++ after := herase
    simp only [contentsOf, herased, hentries, hv, Option.elim_some, List.flatMap_append,
      List.flatMap_cons]
    rw [← List.append_assoc, ← List.append_assoc]
    exact List.perm_append_comm.append_right _

/-- **Conservation.**  Where an update adds one element to its entry, the entries hold in the
end what they held and every element once. -/
theorem contentsOf_updateAll {b : A → B}
    (hf : ∀ v a, contents (key a) (f v a) = v.elim [] (contents (key a)) ++ [b a])
    (l : List A) (m : AssocMap K V) :
    (contentsOf contents (updateAll key f l m)).Perm (contentsOf contents m ++ l.map b) := by
  induction l using List.reverseRecOn with
  | nil => simp [updateAll]
  | append_singleton l a ih =>
    have hstep : updateAll key f (l ++ [a]) m = (updateAll key f l m).insert (key a)
        (f ((updateAll key f l m).lookup (key a)) a) := by
      rw [updateAll_append]
      rfl
    have herase := contentsOf_perm_erase contents (key a) (updateAll key f l m)
    rw [hstep, contentsOf_insert, hf, List.map_append, ← List.append_assoc, List.append_assoc]
    refine List.Perm.trans ?_ ((herase.symm.trans ih).append_right _)
    rw [List.append_assoc, List.map_singleton]
    exact List.perm_append_comm.append_left _

end AssocMap

end CanaryMining
