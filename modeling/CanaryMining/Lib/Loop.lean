import Mathlib.Data.List.Induction
import Mathlib.Data.List.Perm.Basic

/-!
# Loops that change each key by itself

A loop over the keys of a map often changes, in each turn, only what the state says of that
key, and says something about it.  Seen through a `view` of the state by key, such a loop
changes every key once, from what it was at the start, and neither the final views nor,
up to their order, the messages depend on the order of the keys.

## Main definitions

* `loop turn keys s` — the turns for `keys`, one after the other, with their messages.
* `andThen` — two turns, one after the other.
* `ByKey view turn change` — a turn changes the view of its own key by `change`.
-/

namespace CanaryMining

variable {S K A M : Type*}

/-- The turns for some keys, one after the other, with what they send. -/
def loop (turn : K → S → S × List M) (keys : List K) (s : S) : S × List M :=
  keys.foldl (fun acc k => ((turn k acc.1).1, acc.2 ++ (turn k acc.1).2)) (s, [])

/-- A turn changes the view of its own key by `change`, and sends what that sends. -/
structure ByKey (view : S → K → A) (turn : K → S → S × List M) (change : K → A → A × List M) :
    Prop where
  own : ∀ k s, view (turn k s).1 k = (change k (view s k)).1
  other : ∀ k k' s, k' ≠ k → view (turn k s).1 k' = view s k'
  sent : ∀ k s, (turn k s).2 = (change k (view s k)).2

/-- Two turns, one after the other. -/
def andThen (first second : K → S → S × List M) (k : K) (s : S) : S × List M :=
  ((second k (first k s).1).1, (first k s).2 ++ (second k (first k s).1).2)

/-- Turns that change only their own key do so one after the other. -/
theorem ByKey.andThen {view : S → K → A} {first second : K → S → S × List M}
    {change change' : K → A → A × List M} (h : ByKey view first change)
    (h' : ByKey view second change') :
    ByKey view (andThen first second) (CanaryMining.andThen change change') where
  own k s := by rw [CanaryMining.andThen, CanaryMining.andThen, h'.own, h.own]
  other k k' s hne := by rw [CanaryMining.andThen, h'.other _ _ _ hne, h.other _ _ _ hne]
  sent k s := by rw [CanaryMining.andThen, CanaryMining.andThen, h'.sent, h.own, h.sent]

section

variable {turn : K → S → S × List M} {k : K} {keys keys' : List K} {s : S}

/-- The loop with messages sent before. -/
theorem foldl_eq_loop (turn : K → S → S × List M) (keys : List K) (s : S) (sent : List M) :
    keys.foldl (fun acc k => ((turn k acc.1).1, acc.2 ++ (turn k acc.1).2)) (s, sent) =
      ((loop turn keys s).1, sent ++ (loop turn keys s).2) := by
  induction keys using List.reverseRecOn with
  | nil => simp [loop]
  | append_singleton keys k ih =>
    simp only [loop, List.foldl_append, List.foldl_cons, List.foldl_nil] at ih ⊢
    rw [ih]
    simp

theorem loop_cons : loop turn (k :: keys) s =
    ((loop turn keys (turn k s).1).1, (turn k s).2 ++ (loop turn keys (turn k s).1).2) := by
  rw [loop, List.foldl_cons, foldl_eq_loop]
  rfl

/-- What every turn keeps, the loop keeps. -/
theorem loop_invariant {P : S → Prop} (hs : P s) (hturn : ∀ k s, P s → P (turn k s).1) :
    P (loop turn keys s).1 := by
  induction keys generalizing s with
  | nil => exact hs
  | cons k keys ih =>
    rw [loop_cons]
    exact ih (hturn k s hs)

namespace ByKey

variable {view : S → K → A} {change : K → A → A × List M} (h : ByKey view turn change)

include h

/-- A key that is not visited keeps its view. -/
theorem view_loop_of_notMem (hk : k ∉ keys) : view (loop turn keys s).1 k = view s k := by
  induction keys generalizing s with
  | nil => rfl
  | cons k' keys ih =>
    rw [List.mem_cons, not_or] at hk
    obtain ⟨hne, hk⟩ := hk
    rw [loop_cons, ih hk, h.other k' k s hne]

/-- **A visited key** changes once. -/
theorem view_loop_of_mem (hkeys : keys.Nodup) (hk : k ∈ keys) :
    view (loop turn keys s).1 k = (change k (view s k)).1 := by
  induction keys generalizing s with
  | nil => cases hk
  | cons k' keys ih =>
    obtain ⟨hk', hkeys⟩ := List.nodup_cons.1 hkeys
    rw [loop_cons]
    rcases List.mem_cons.1 hk with rfl | hk
    · rw [h.view_loop_of_notMem hk', h.own]
    · have hne : k ≠ k' := fun heq => hk' (heq ▸ hk)
      rw [ih hkeys hk, h.other k' k s hne]

/-- **The messages** of a loop are those of its keys, each changed from the start. -/
theorem sent_loop (hkeys : keys.Nodup) :
    (loop turn keys s).2 = keys.flatMap fun k => (change k (view s k)).2 := by
  induction keys generalizing s with
  | nil => rfl
  | cons k keys ih =>
    obtain ⟨hk, hkeys⟩ := List.nodup_cons.1 hkeys
    have hrest : keys.flatMap (fun k' => (change k' (view (turn k s).1 k')).2) =
        keys.flatMap fun k' => (change k' (view s k')).2 :=
      List.flatMap_congr fun k' hk' => by rw [h.other k k' s fun heq => hk (heq ▸ hk')]
    rw [loop_cons, ih hkeys, List.flatMap_cons, h.sent, hrest]

/-- **The order does not matter**: all views are the same, and the same messages are sent. -/
theorem loop_perm (hkeys : keys.Nodup) (hperm : keys.Perm keys') :
    (∀ k, view (loop turn keys s).1 k = view (loop turn keys' s).1 k) ∧
      (loop turn keys s).2.Perm (loop turn keys' s).2 := by
  have hkeys' := hperm.nodup_iff.1 hkeys
  refine ⟨fun k => ?_, ?_⟩
  · by_cases hk : k ∈ keys
    · rw [h.view_loop_of_mem hkeys hk, h.view_loop_of_mem hkeys' (hperm.mem_iff.1 hk)]
    · rw [h.view_loop_of_notMem hk, h.view_loop_of_notMem fun hk' => hk (hperm.mem_iff.2 hk')]
  · rw [h.sent_loop hkeys, h.sent_loop hkeys']
    exact hperm.flatMap_right _

end ByKey

end

end CanaryMining
