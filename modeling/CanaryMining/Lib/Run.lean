import Mathlib.Data.List.Induction

/-!
# Runs of a transition system

A transition system is a predicate on initial states and a relation between a
state, an action and the next state.  A run remembers every transition it took,
so a property can speak of the actions and the states met on the way.

## Main definitions

* `Transition` — a state, an action and the state it leads to.
* `Run init step ts s` — the transitions `ts` lead from an initial state to `s`.
* `Computes next` — the step relation of an executable system.
-/

namespace CanaryMining

variable {σ α : Type*}

/-- One transition of a run. -/
structure Transition (σ α : Type*) where
  before : σ
  action : α
  after : σ

/-- The transitions `ts`, taken in order from an initial state, lead to `s`. -/
inductive Run (init : σ → Prop) (step : σ → α → σ → Prop) :
    List (Transition σ α) → σ → Prop
  | start {s : σ} : init s → Run init step [] s
  | next {ts : List (Transition σ α)} {s s' : σ} {a : α} :
      Run init step ts s → step s a s' → Run init step (ts ++ [⟨s, a, s'⟩]) s'

/-- The step relation of a system whose next state is computed, where there is one. -/
def Computes (next : σ → α → Option σ) (s : σ) (a : α) (s' : σ) : Prop :=
  next s a = some s'

/-- The transitions that actions take, as far as they are enabled. -/
def trace (next : σ → α → Option σ) : σ → List α → List (Transition σ α)
  | _, [] => []
  | s, a :: actions =>
    match next s a with
    | some s' => ⟨s, a, s'⟩ :: trace next s' actions
    | none => []

namespace Run

variable {init : σ → Prop} {step : σ → α → σ → Prop} {ts : List (Transition σ α)} {s : σ}

/-- **The induction rule for invariants.**  What holds initially and is preserved
by every step holds wherever a run leads. -/
theorem invariant {I : σ → Prop} (hinit : ∀ s, init s → I s)
    (hstep : ∀ s a s', I s → step s a s' → I s') (h : Run init step ts s) : I s := by
  induction h with
  | start h0 => exact hinit _ h0
  | next _ hs ih => exact hstep _ _ _ ih hs

/-- A step of the run, with a property of each transition given, may rely on the
transitions before it. -/
theorem invariant_of {I : σ → Prop} {P : Transition σ α → Prop}
    (hinit : ∀ s, init s → I s)
    (hstep : ∀ s a s', I s → step s a s' → P ⟨s, a, s'⟩ → I s')
    (h : Run init step ts s) (hok : ∀ t ∈ ts, P t) : I s := by
  induction h with
  | start h0 => exact hinit _ h0
  | next _ hs ih =>
    refine hstep _ _ _ (ih fun t ht => hok t ?_) hs (hok _ ?_)
    · exact List.mem_append_left _ ht
    · exact List.mem_append_right _ (List.mem_singleton.2 rfl)

/-- Every transition of such a run is a step between states that satisfy the
invariant. -/
theorem forall_transition_of {I : σ → Prop} {P : Transition σ α → Prop}
    (hinit : ∀ s, init s → I s)
    (hstep : ∀ s a s', I s → step s a s' → P ⟨s, a, s'⟩ → I s')
    (h : Run init step ts s) (hok : ∀ t ∈ ts, P t) :
    ∀ t ∈ ts, I t.before ∧ step t.before t.action t.after ∧ I t.after := by
  induction h with
  | start _ => simp
  | next h hs ih =>
    have hpre : ∀ t ∈ _, P t := fun t ht => hok t (List.mem_append_left _ ht)
    intro t ht
    rcases List.mem_append.1 ht with ht | ht
    · exact ih hpre t ht
    · rw [List.mem_singleton.1 ht]
      exact ⟨invariant_of hinit hstep h hpre, hs, invariant_of hinit hstep (h.next hs) hok⟩

/-- **The rule for bounds.**  If no transition raises a measure and those that are counted
lower it, the measure bounds how many are counted. -/
theorem count_add_le {I : σ → Prop} {P : Transition σ α → Prop} {counts : α → Bool}
    {measure : σ → ℕ} {mid : σ} (hmid : I mid)
    (hstep : ∀ s a s', I s → step s a s' → P ⟨s, a, s'⟩ →
      I s' ∧ measure s' + (if counts a then 1 else 0) ≤ measure s)
    (h : Run (fun s => s = mid) step ts s) (hok : ∀ t ∈ ts, P t) :
    I s ∧ (ts.filter fun t => counts t.action).length + measure s ≤ measure mid := by
  induction h with
  | start hs =>
    subst hs
    exact ⟨hmid, by simp⟩
  | @next ts s s' a _ hs ih =>
    obtain ⟨hinv, hle⟩ := ih fun t ht => hok t (List.mem_append_left _ ht)
    obtain ⟨hinv', hlower⟩ := hstep s a s' hinv hs
      (hok _ (List.mem_append_right _ (List.mem_singleton.2 rfl)))
    refine ⟨hinv', ?_⟩
    rw [List.filter_append, List.length_append]
    cases ha : counts a with
    | false =>
      simp only [ha, Bool.false_eq_true, if_false] at hlower
      simp only [List.filter_cons, ha, Bool.false_eq_true, if_false, List.filter_nil,
        List.length_nil]
      omega
    | true =>
      simp only [ha, if_true] at hlower
      simp only [List.filter_cons, ha, if_true, List.filter_nil, List.length_cons,
        List.length_nil]
      omega

/-- A run goes on with a run from where it led. -/
theorem append {ts' : List (Transition σ α)} {mid : σ} (h : Run init step ts mid)
    (h' : Run (fun s => s = mid) step ts' s) : Run init step (ts ++ ts') s := by
  induction h' with
  | start hs =>
    rw [List.append_nil, hs]
    exact h
  | next _ hs ih =>
    rw [← List.append_assoc]
    exact ih.next hs

/-- A run from `s` starts with a step from `s`. -/
theorem cons {s s' final : σ} {a : α} (hs : step s a s')
    (h : Run (fun x => x = s') step ts final) :
    Run (fun x => x = s) step (⟨s, a, s'⟩ :: ts) final := by
  have hfirst : Run (fun x => x = s) step [] s := .start rfl
  exact (hfirst.next hs).append h

/-- A run goes through the state between two parts of its transitions. -/
theorem split {ts' : List (Transition σ α)} (h : Run init step (ts ++ ts') s) :
    ∃ mid, Run init step ts mid ∧ Run (fun s => s = mid) step ts' s := by
  induction ts' using List.reverseRecOn generalizing s with
  | nil => exact ⟨s, List.append_nil ts ▸ h, .start rfl⟩
  | append_singleton ts' t ih =>
    rw [← List.append_assoc] at h
    generalize hall : ts ++ ts' ++ [t] = all at h
    cases h with
    | start _ => simp at hall
    | next h hs =>
      obtain ⟨hpre, ht⟩ := List.append_inj' hall rfl
      subst hpre
      obtain ⟨mid, hbefore, hafter⟩ := ih h
      rw [List.singleton_inj.1 ht]
      exact ⟨mid, hbefore, hafter.next hs⟩

/-- A run without transitions stays where it starts. -/
theorem init_of_nil (h : Run init step [] s) : init s := by
  generalize hnil : [] = ts at h
  cases h with
  | start hinit => exact hinit
  | next _ _ => simp at hnil

/-- A run goes on from the state its first transition leads to. -/
theorem tail {t : Transition σ α} (h : Run init step (t :: ts) s) :
    init t.before ∧ step t.before t.action t.after ∧ Run (fun s => s = t.after) step ts s := by
  have happ : Run init step ([t] ++ ts) s := h
  obtain ⟨mid, hfirst, hrest⟩ := happ.split
  generalize hone : [t] = one at hfirst
  cases hfirst with
  | start _ => cases hone
  | next hstart hs =>
    obtain ⟨hnil, ht⟩ := List.append_inj' (show [] ++ [t] = _ from hone) rfl
    rw [List.singleton_inj.1 ht]
    exact ⟨init_of_nil (hnil ▸ hstart), hs, hrest⟩

/-- A transition of a run is a step from the state that the ones before it lead to. -/
theorem reaches {before after : List (Transition σ α)} {t : Transition σ α}
    (h : Run init step (before ++ t :: after) s) :
    Run init step before t.before ∧ step t.before t.action t.after := by
  obtain ⟨mid, hbefore, hrest⟩ := h.split
  obtain ⟨hmid, hs, -⟩ := hrest.tail
  exact ⟨hmid ▸ hbefore, hs⟩

/-- **The simulation rule.**  Where another system matches each step by some of its own, it
matches each run.  `I` is whatever the states of a run satisfy. -/
theorem simulate {τ β : Type*} {init' : τ → Prop} {step' : τ → β → τ → Prop} {R : σ → τ → Prop}
    {I : σ → Prop} (hI : ∀ ts s, Run init step ts s → I s)
    (hinit : ∀ s, init s → ∃ u, init' u ∧ R s u)
    (hstep : ∀ s a s' u, I s → R s u → step s a s' →
      ∃ us u', Run (fun x => x = u) step' us u' ∧ R s' u')
    (h : Run init step ts s) : ∃ us u, Run init' step' us u ∧ R s u := by
  induction h with
  | start h0 =>
    obtain ⟨u, hu, hR⟩ := hinit _ h0
    exact ⟨[], u, .start hu, hR⟩
  | next h hs ih =>
    obtain ⟨us, u, hrun, hR⟩ := ih
    obtain ⟨us', u', hrun', hR'⟩ := hstep _ _ _ u (hI _ _ h) hR hs
    exact ⟨us ++ us', u', hrun.append hrun', hR'⟩

/-- **The exact-guard rule.**  Where, in a good state, a step leads to a good
state exactly if it meets its guard, a run passes through good states only
exactly if all its steps meet theirs.  `I` is whatever else the step needs and
every step preserves. -/
theorem forall_good_iff_guard {I Good : σ → Prop} {guard : σ → α → Prop}
    (hinit : ∀ s, init s → I s ∧ Good s)
    (hinv : ∀ s a s', I s → step s a s' → I s')
    (hgood : ∀ s a s', I s → Good s → step s a s' → (Good s' ↔ guard s a))
    (h : Run init step ts s) :
    (∀ t ∈ ts, Good t.after) ↔ ∀ t ∈ ts, guard t.before t.action := by
  -- Either side also gives that the last state is good, which the next step needs.
  suffices key : ((∀ t ∈ ts, Good t.after) ↔ ∀ t ∈ ts, guard t.before t.action) ∧
      ((∀ t ∈ ts, Good t.after) → Good s) from key.1
  induction h with
  | start h0 => exact ⟨by simp, fun _ => (hinit _ h0).2⟩
  | @next ts s s' a h hs ih =>
    have hs' : I s := invariant (fun s h0 => (hinit s h0).1) hinv h
    simp only [List.mem_append, List.mem_singleton, or_imp, forall_and, forall_eq]
    refine ⟨⟨?_, ?_⟩, fun hg => hg.2⟩
    · rintro ⟨hts, hlast⟩
      exact ⟨ih.1.1 hts, (hgood _ _ _ hs' (ih.2 hts) hs).1 hlast⟩
    · rintro ⟨hts, hlast⟩
      have hts' := ih.1.2 hts
      exact ⟨hts', (hgood _ _ _ hs' (ih.2 hts') hs).2 hlast⟩

/-! ## Runs of executable systems -/

/-- A run goes on with any actions that are enabled one after the other. -/
theorem replay {next : σ → α → Option σ} {s' : σ} (h : Run init (Computes next) ts s)
    (actions : List α) (ha : actions.foldlM next s = some s') :
    Run init (Computes next) (ts ++ trace next s actions) s' := by
  induction actions generalizing ts s with
  | nil =>
    cases ha
    simpa [trace] using h
  | cons a actions ih =>
    rw [List.foldlM_cons, Option.bind_eq_bind, Option.bind_eq_some_iff] at ha
    obtain ⟨s₁, h₁, ha⟩ := ha
    simpa [trace, h₁] using ih (h.next h₁) ha

/-- The run of actions from an initial state. -/
theorem ofActions {next : σ → α → Option σ} {s' : σ} (h : init s) (actions : List α)
    (ha : actions.foldlM next s = some s') :
    Run init (Computes next) (trace next s actions) s' := by
  simpa using (Run.start h).replay actions ha

end Run

end CanaryMining
