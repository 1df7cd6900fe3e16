import Mathlib.Data.List.Basic

/-!
# Stable sorting

A stable sort keeps the elements that tie in the order in which they came, so its result
is determined by the lists of tied elements: two lists are sorted alike exactly if every
element ties with the same elements in the same order in both.

## Main definitions

* `StableSort.tied` — the elements of a list that tie with a given one, in order.
* `StableSort.sort_eq_iff` — two lists are sorted alike exactly if their ties are alike.
* `StableSort.sort_eq_of_perm` — without ties only the elements matter.
-/

namespace CanaryMining

namespace StableSort

variable {α : Type*} (cmp : α → α → Ordering)

/-- The stable sort by a comparison. -/
def sort (l : List α) : List α := l.mergeSort fun a b => (cmp a b).isLE

/-- The elements that tie with `a`, in their order. -/
def tied (a : α) (l : List α) : List α := l.filter fun b => cmp a b = .eq

variable {cmp} {l l' : List α} {a b : α}

variable (cmp) in
theorem sort_perm (l : List α) : (sort cmp l).Perm l := List.mergeSort_perm _ _

@[simp] theorem tied_append (l l' : List α) :
    tied cmp a (l ++ l') = tied cmp a l ++ tied cmp a l' :=
  List.filter_append ..

theorem mem_tied : b ∈ tied cmp a l ↔ b ∈ l ∧ cmp a b = .eq := by
  rw [tied, List.mem_filter, decide_eq_true_eq]

variable [Std.TransCmp cmp]

theorem le_trans (a b c : α) : (cmp a b).isLE = true → (cmp b c).isLE = true →
    (cmp a c).isLE = true :=
  Std.TransCmp.isLE_trans

theorem le_total (a b : α) : ((cmp a b).isLE || (cmp b a).isLE) = true := by
  have hswap : cmp b a = (cmp a b).swap := Std.OrientedCmp.eq_swap
  rw [hswap]
  cases cmp a b <;> rfl

theorem tie_refl (a : α) : cmp a a = .eq := Std.ReflCmp.compare_self

theorem le_refl (a : α) : (cmp a a).isLE = true := Std.ReflCmp.isLE_rfl

theorem tie_symm (h : cmp a b = .eq) : cmp b a = .eq := Std.OrientedCmp.eq_symm h

theorem tie_trans {c : α} (hab : cmp a b = .eq) (hbc : cmp b c = .eq) : cmp a c = .eq :=
  Std.TransCmp.eq_trans hab hbc

theorem tie_of_le (hab : (cmp a b).isLE = true) (hba : (cmp b a).isLE = true) :
    cmp a b = .eq := by
  have hswap : cmp b a = (cmp a b).swap := Std.OrientedCmp.eq_swap
  rw [hswap] at hba
  cases hcmp : cmp a b with
  | lt =>
    rw [hcmp] at hba
    cases hba
  | eq => rfl
  | gt =>
    rw [hcmp] at hab
    cases hab

theorem pairwise_sort (l : List α) : (sort cmp l).Pairwise fun a b => (cmp a b).isLE = true :=
  List.pairwise_mergeSort le_trans le_total l

/-- **Stability.**  Sorting keeps the order of the elements that tie. -/
theorem tied_sort (a : α) (l : List α) : tied cmp a (sort cmp l) = tied cmp a l := by
  have hpairwise : (tied cmp a l).Pairwise fun b c => (cmp b c).isLE = true := by
    refine List.pairwise_of_forall_mem_list fun b hb c hc => ?_
    have htie := tie_trans (tie_symm (mem_tied.1 hb).2) (mem_tied.1 hc).2
    rw [htie]
    rfl
  have hsublist : (tied cmp a l).Sublist (sort cmp l) :=
    List.sublist_mergeSort le_trans le_total hpairwise List.filter_sublist
  have htied : (tied cmp a l).Sublist (tied cmp a (sort cmp l)) := by
    have hfilter := hsublist.filter fun b => decide (cmp a b = .eq)
    rw [tied, List.filter_filter] at hfilter
    simpa [tied] using hfilter
  exact (htied.eq_of_length ((sort_perm cmp l).filter _).length_eq.symm).symm

/-- A sorted list is determined by its ties. -/
theorem eq_of_tied (hl : l.Pairwise fun a b => (cmp a b).isLE = true)
    (hl' : l'.Pairwise fun a b => (cmp a b).isLE = true)
    (h : ∀ a, tied cmp a l = tied cmp a l') : l = l' := by
  have hmem : ∀ a, a ∈ l ↔ a ∈ l' := by
    intro a
    have hrefl : cmp a a = .eq := tie_refl a
    have ha : a ∈ tied cmp a l ↔ a ∈ tied cmp a l' := by rw [h]
    simpa [mem_tied, hrefl] using ha
  induction l generalizing l' with
  | nil =>
    cases l' with
    | nil => rfl
    | cons b l' => exact absurd ((hmem b).2 List.mem_cons_self) List.not_mem_nil
  | cons a l ih =>
    cases l' with
    | nil => exact absurd ((hmem a).1 List.mem_cons_self) List.not_mem_nil
    | cons b l' =>
      -- Each head is least in its own list and occurs in the other, so the heads tie.
      have htie : cmp a b = .eq := by
        have hab : (cmp a b).isLE = true := by
          rcases List.mem_cons.1 ((hmem b).2 List.mem_cons_self) with heq | hmem
          · rw [heq]
            exact le_refl _
          · exact List.rel_of_pairwise_cons hl hmem
        have hba : (cmp b a).isLE = true := by
          rcases List.mem_cons.1 ((hmem a).1 List.mem_cons_self) with heq | hmem
          · rw [heq]
            exact le_refl _
          · exact List.rel_of_pairwise_cons hl' hmem
        exact tie_of_le hab hba
      have hself : cmp a a = .eq := tie_refl a
      have hheads := h a
      simp only [tied, List.filter_cons, hself, htie, decide_true, if_true] at hheads
      have hab : a = b := (List.cons.inj hheads).1
      subst hab
      have hrest : ∀ c, tied cmp c l = tied cmp c l' := by
        intro c
        have hc := h c
        simp only [tied, List.filter_cons] at hc ⊢
        by_cases hca : cmp c a = .eq
        · simp only [hca, decide_true, if_true] at hc
          exact (List.cons.inj hc).2
        · simpa [hca] using hc
      rw [ih hl.of_cons hl'.of_cons hrest fun c => ?_]
      have hrefl : cmp c c = .eq := tie_refl c
      have hc : c ∈ tied cmp c l ↔ c ∈ tied cmp c l' := by rw [hrest]
      simpa [mem_tied, hrefl] using hc

/-- **Two lists are sorted alike** exactly if their ties are alike. -/
theorem sort_eq_iff : sort cmp l = sort cmp l' ↔ ∀ a, tied cmp a l = tied cmp a l' := by
  constructor
  · intro h a
    rw [← tied_sort a l, h, tied_sort]
  · intro h
    refine eq_of_tied (pairwise_sort l) (pairwise_sort l') fun a => ?_
    rw [tied_sort, tied_sort, h]

/-- Where no two elements tie, the order in which they came makes no difference. -/
theorem sort_eq_of_perm (hperm : l.Perm l')
    (hties : ∀ a ∈ l, ∀ b ∈ l, cmp a b = .eq → a = b) : sort cmp l = sort cmp l' := by
  refine List.Perm.eq_of_pairwise (fun a b ha hb hab hba => ?_) (pairwise_sort l)
    (pairwise_sort l') (((sort_perm cmp l).trans hperm).trans (sort_perm cmp l').symm)
  have ha' := (sort_perm cmp l).mem_iff.1 ha
  have hb' := hperm.mem_iff.2 ((sort_perm cmp l').mem_iff.1 hb)
  exact hties a ha' b hb' (tie_of_le hab hba)

/-- Elements that tie and may come in either order are the same. -/
theorem eq_of_sort_swap {r : List α} (h : sort cmp (a :: b :: r) = sort cmp (b :: a :: r))
    (htie : cmp a b = .eq) : a = b := by
  have hself : cmp a a = .eq := tie_refl a
  have hties := sort_eq_iff.1 h a
  simp only [tied, List.filter_cons, hself, htie, decide_true, if_true] at hties
  exact (List.cons.inj hties).1

end StableSort

end CanaryMining
