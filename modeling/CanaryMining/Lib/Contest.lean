import Mathlib.Data.List.Basic

/-!
# Contests for a flag

Several contenders search at the same time, each with a value of its own.  They share a
flag: a contender stops where it finds the flag set, and one that has a hit sets the flag
by an atomic swap, and has won only if it was the first to do so.  Anyone else may set the
flag as well, to call the contest off.

However the steps interleave, a contest has one winner at most, and none after it was
closed; a closed contest is over after one more step of each contender.

## Main definitions

* `Contender`, `Contest` — where a contender is; a flag and its contenders.
* `Contest.step` — the next step of a contender, with the hit it makes known.
* `Contest.Claimed c k` — the winners of the contest, with the `k` hits made known before.
* `Contest.Along P c` — what every value of a contender satisfies.
-/

namespace CanaryMining

variable {α : Type*}

/-- A contender is about to look at the flag, about to claim a hit, or to make it known. -/
inductive Contender (α : Type*)
  | running (a : α)
  | claiming (a : α)
  | winner (a : α)
  | done
  deriving DecidableEq

namespace Contender

/-- The contender has claimed its hit first, and not made it known. -/
def isWinner : Contender α → Bool
  | .winner _ => true
  | _ => false

/-- The contender takes another step. -/
def isActive : Contender α → Bool
  | .done => false
  | _ => true

variable {a : α}

@[simp] theorem isWinner_running : (running a).isWinner = false := rfl

@[simp] theorem isWinner_claiming : (claiming a).isWinner = false := rfl

@[simp] theorem isWinner_winner : (winner a).isWinner = true := rfl

@[simp] theorem isWinner_done : (done : Contender α).isWinner = false := rfl

@[simp] theorem isActive_winner : (winner a).isActive = true := rfl

@[simp] theorem isActive_done : (done : Contender α).isActive = false := rfl

end Contender

/-- A flag and its contenders. -/
structure Contest (α : Type*) where
  closed : Bool
  contenders : List (Contender α)
  deriving DecidableEq

namespace Contest

variable {c c' : Contest α} {hit : α → Bool} {turn : α → α} {j k : ℕ} {out : Option α}

/-- The contest with a contender at its next place. -/
def move (c : Contest α) (j : ℕ) (place : Contender α) : Contest α :=
  { c with contenders := c.contenders.set j place }

/-- The flag is set. -/
def close (c : Contest α) : Contest α := { c with closed := true }

/-- The next step of a contender, and the hit it makes known. -/
def step (hit : α → Bool) (turn : α → α) (c : Contest α) (j : ℕ) :
    Option (Contest α × Option α) :=
  match c.contenders[j]? with
  | some (.running a) =>
    if c.closed then some (c.move j .done, none)
    else if hit a then some (c.move j (.claiming a), none)
    else some (c.move j (.running (turn a)), none)
  | some (.claiming a) =>
    if c.closed then some (c.move j .done, none)
    else some (c.close.move j (.winner a), none)
  | some (.winner a) => some (c.move j .done, some a)
  | some .done | none => none

/-- The winners that have not made their hit known. -/
def winners (c : Contest α) : ℕ := c.contenders.countP Contender.isWinner

/-- The contenders that are not done. -/
def active (c : Contest α) : ℕ := c.contenders.countP Contender.isActive

/-- The steps that a contender of a closed contest has left. -/
def remaining (c : Contest α) (j : ℕ) : ℕ :=
  if c.contenders[j]?.any Contender.isActive then 1 else 0

@[simp] theorem winners_close : c.close.winners = c.winners := rfl

@[simp] theorem remaining_close : c.close.remaining = c.remaining := rfl

@[simp] theorem closed_close : c.close.closed = true := rfl

@[simp] theorem closed_move (place : Contender α) : (c.move j place).closed = c.closed := rfl

/-- The places before and after a move, counted. -/
theorem countP_move {p : Contender α → Bool} {old : Contender α}
    (h : c.contenders[j]? = some old) (new : Contender α) :
    (c.move j new).contenders.countP p + (if p old then 1 else 0) =
      c.contenders.countP p + if p new then 1 else 0 := by
  obtain ⟨hj, hold⟩ := List.getElem?_eq_some_iff.1 h
  have hpos : p old = true → 0 < c.contenders.countP p := by
    intro hp
    exact List.countP_pos_iff.2 ⟨old, hold ▸ List.getElem_mem hj, hp⟩
  simp only [move, List.countP_set hj, hold]
  split
  · rename_i hp
    have := hpos hp
    omega
  · omega

/-- The winners after a move. -/
theorem winners_move {old : Contender α} (h : c.contenders[j]? = some old)
    (new : Contender α) :
    (c.move j new).winners + (if old.isWinner then 1 else 0) =
      c.winners + if new.isWinner then 1 else 0 := countP_move h new

/-- What the contenders have left after one of them is done. -/
theorem remaining_move_done {old : Contender α} (h : c.contenders[j]? = some old)
    (hactive : old.isActive = true) (k : ℕ) :
    (c.move j .done).remaining k + (if j = k then 1 else 0) = c.remaining k := by
  unfold remaining move
  by_cases hk : j = k
  · subst hk
    rw [List.getElem?_set_self (List.getElem?_eq_some_iff.1 h).1, h]
    simp [hactive]
  · rw [List.getElem?_set_ne hk, if_neg hk, Nat.add_zero]

theorem remaining_le_one (c : Contest α) (k : ℕ) : c.remaining k ≤ 1 := by
  unfold remaining
  split <;> omega

/-! ## The steps of a contender -/

/-- What a step of a contender does. -/
inductive Stepped (hit : α → Bool) (turn : α → α) (c : Contest α) (j : ℕ) :
    Contest α → Option α → Prop
  | stopped {old : Contender α} (hplace : c.contenders[j]? = some old)
      (hactive : old.isActive = true) (hlost : old.isWinner = false) (hclosed : c.closed = true) :
      Stepped hit turn c j (c.move j .done) none
  | found {a : α} (hplace : c.contenders[j]? = some (.running a)) (hopen : c.closed = false)
      (hhit : hit a = true) : Stepped hit turn c j (c.move j (.claiming a)) none
  | turned {a : α} (hplace : c.contenders[j]? = some (.running a)) (hopen : c.closed = false) :
      Stepped hit turn c j (c.move j (.running (turn a))) none
  | won {a : α} (hplace : c.contenders[j]? = some (.claiming a)) (hopen : c.closed = false) :
      Stepped hit turn c j (c.close.move j (.winner a)) none
  | told {a : α} (hplace : c.contenders[j]? = some (.winner a)) :
      Stepped hit turn c j (c.move j .done) (some a)

theorem stepped_of_step (h : c.step hit turn j = some (c', out)) :
    Stepped hit turn c j c' out := by
  unfold step at h
  split at h
  · rename_i a hplace
    by_cases hclosed : c.closed = true
    · rw [if_pos hclosed] at h
      cases h
      exact .stopped hplace rfl rfl hclosed
    · rw [if_neg hclosed] at h
      rw [Bool.not_eq_true] at hclosed
      split at h
      · rename_i hhit
        cases h
        exact .found hplace hclosed hhit
      · cases h
        exact .turned hplace hclosed
  · rename_i a hplace
    split at h
    · rename_i hclosed
      cases h
      exact .stopped hplace rfl rfl hclosed
    · rename_i hopen
      cases h
      exact .won hplace (by simpa using hopen)
  · rename_i a hplace
    cases h
    exact .told hplace
  · cases h
  · cases h

/-! ## One winner -/

/-- The winners of a contest, with the `k` hits made known before: one at most, and none as
long as the flag is not set. -/
def Claimed (c : Contest α) (k : ℕ) : Prop :=
  c.winners + k ≤ if c.closed then 1 else 0

theorem Claimed.close (h : c.Claimed k) : c.close.Claimed k := by
  unfold Claimed at h ⊢
  split at h <;> simp <;> omega

theorem Claimed.mono {k' : ℕ} (h : c.Claimed k) (hle : k' ≤ k) : c.Claimed k' := by
  unfold Claimed at h ⊢
  omega

theorem Claimed.le_one (h : c.Claimed k) : k ≤ 1 := by
  unfold Claimed at h
  split at h <;> omega

/-- **One winner at most**, in every order of steps. -/
theorem Claimed.step (h : c.Claimed k) (hs : c.step hit turn j = some (c', out)) :
    c'.Claimed (k + out.toList.length) := by
  unfold Claimed at h ⊢
  cases stepped_of_step hs with
  | stopped hplace hactive hlost hclosed =>
    have hwinners := winners_move hplace .done
    simp [hlost] at hwinners
    simpa [hclosed, hwinners] using h
  | found hplace hopen hhit =>
    rename_i a
    have hwinners := winners_move hplace (.claiming a)
    simp at hwinners
    simpa [hopen, hwinners] using h
  | turned hplace hopen =>
    rename_i a
    have hwinners := winners_move hplace (.running (turn a))
    simp at hwinners
    simpa [hopen, hwinners] using h
  | won hplace hopen =>
    rename_i a
    have hwinners := winners_move (c := c.close) hplace (.winner a)
    simp [hopen] at hwinners h ⊢
    omega
  | told hplace =>
    have hwinners := winners_move hplace .done
    simp at hwinners
    change (c.move j .done).winners + (k + 1) ≤ if c.closed then 1 else 0
    omega

/-! ## The end of a contest -/

/-- **A closed contest is over after one more step of each contender.** -/
theorem remaining_step_of_closed (hclosed : c.closed = true)
    (hs : c.step hit turn j = some (c', out)) :
    c'.closed = true ∧ (∀ k, c'.remaining k + (if j = k then 1 else 0) = c.remaining k) ∧
      c'.winners ≤ c.winners := by
  cases stepped_of_step hs with
  | stopped hplace hactive hlost _ =>
    have hwinners := winners_move hplace .done
    simp [hlost] at hwinners
    exact ⟨hclosed, remaining_move_done hplace hactive, by omega⟩
  | found hplace hopen hhit => simp [hclosed] at hopen
  | turned hplace hopen => simp [hclosed] at hopen
  | won hplace hopen => simp [hclosed] at hopen
  | told hplace =>
    have hwinners := winners_move hplace .done
    simp at hwinners
    exact ⟨hclosed, remaining_move_done hplace rfl, by omega⟩

/-- A contest stays closed. -/
theorem closed_step (hclosed : c.closed = true) (hs : c.step hit turn j = some (c', out)) :
    c'.closed = true := (remaining_step_of_closed hclosed hs).1

/-- A step does not change the number of contenders. -/
theorem length_step (hs : c.step hit turn j = some (c', out)) :
    c'.contenders.length = c.contenders.length := by
  cases stepped_of_step hs <;> simp [move, Contest.close]

/-! ## The values of the contenders -/

/-- Every contender searches along `P`, and claims only hits. -/
def Along (P : α → Prop) (hit : α → Bool) (c : Contest α) : Prop :=
  ∀ place ∈ c.contenders, match place with
    | .running a => P a
    | .claiming a | .winner a => P a ∧ hit a = true
    | .done => True

variable {P : α → Prop}

theorem Along.close (h : c.Along P hit) : c.close.Along P hit := h

theorem Along.move (h : c.Along P hit) {place : Contender α}
    (hplace : match place with
      | .running a => P a
      | .claiming a | .winner a => P a ∧ hit a = true
      | .done => True) : (c.move j place).Along P hit := by
  intro other hother
  rcases List.mem_or_eq_of_mem_set hother with hold | rfl
  · exact h other hold
  · exact hplace

/-- **What is made known is a hit along `P`**, and the contenders stay along it. -/
theorem Along.step (h : c.Along P hit) (hturn : ∀ a, P a → P (turn a))
    (hs : c.step hit turn j = some (c', out)) :
    c'.Along P hit ∧ ∀ a ∈ out, P a ∧ hit a = true := by
  cases stepped_of_step hs with
  | stopped hplace hactive hlost hclosed => exact ⟨h.move trivial, nofun⟩
  | found hplace hopen hhit =>
    have hrunning := h _ (List.mem_of_getElem? hplace)
    exact ⟨h.move ⟨hrunning, hhit⟩, nofun⟩
  | turned hplace hopen =>
    have hrunning := h _ (List.mem_of_getElem? hplace)
    exact ⟨h.move (hturn _ hrunning), nofun⟩
  | won hplace hopen =>
    have hclaiming := h _ (List.mem_of_getElem? hplace)
    exact ⟨h.close.move hclaiming, nofun⟩
  | told hplace =>
    have hwinner := h _ (List.mem_of_getElem? hplace)
    refine ⟨h.move trivial, fun a ha => ?_⟩
    cases ha
    exact hwinner

end Contest

end CanaryMining
