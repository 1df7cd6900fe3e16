import CanaryMining.TestMiner.Loop

/-!
# The accepted blocks of the test miner

The miner counts the shares the pool accepted, and stops after as many as it was told, but
not before the first.

## Main definitions

* `RunTestMiner.acceptances` — the accepted shares that the frames of a run told of.
* `LoopPhase.accepting` — the miner has enough of them.

**Main result:** `accepted_of_run`.
-/

namespace CanaryMining

namespace TestMiner

variable {B : TargetLib}

/-! ## Accepted blocks -/

/-- The loop has enough accepted blocks: it stops the workers, lingers or returns. -/
def LoopPhase.accepting : LoopPhase B → Bool
  | .stopping _ .accept | .lingering | .finished (.accepted _) => true
  | _ => false

namespace RunTestMiner

variable {cfg : TestMinerConfig} {isMetBy : B.Target → Header → Bool} {s s' : RunTestMiner B}
  {a : LoopAction} {ts : List (Transition (RunTestMiner B) LoopAction)}

/-- The number of accepted shares the frames told of. -/
def acceptances (ts : List (Transition (RunTestMiner B) LoopAction)) : ℕ :=
  ts.countP fun t =>
    match t.action with
    | .frame .submitSharesSuccess _ => true
    | _ => false

/-- The accepted shares a miner stops after. -/
def enough (cfg : TestMinerConfig) : ℕ := max 1 cfg.stopAfterAcceptedBlocks.toNat

/-- The miner has counted `n` accepted shares. -/
structure Counting (cfg : TestMinerConfig) (n : ℕ) (s : RunTestMiner B) : Prop where
  acceptedBlocks : s.acceptedBlocks.toNat = n
  phase : if s.phase.accepting then n = enough cfg else n < enough cfg
  returned : ∀ blocks, s.phase = .finished (.accepted blocks) → blocks = s.acceptedBlocks
  bail : ∀ i blocks, s.phase ≠ .stopping i (.bail (.accepted blocks))

namespace Counting

variable {n : ℕ}

theorem start : Counting cfg 0 (RunTestMiner.start cfg : RunTestMiner B) :=
  ⟨rfl, show 0 < enough cfg by simp [enough], nofun, nofun⟩

theorem lt_enough (h : Counting cfg n s) (hphase : s.phase.accepting = false) :
    n < enough cfg := by
  have := h.phase
  rwa [hphase, if_neg (by simp)] at this

/-- The next accepted block is counted without overflow. -/
theorem toNat_acceptedBlocks_succ (h : Counting cfg n s) (hn : n < enough cfg) :
    (s.acceptedBlocks + 1).toNat = n + 1 := by
  have hstop := cfg.stopAfterAcceptedBlocks.toNat_lt
  unfold enough at hn
  rw [UInt32.toNat_add, h.acceptedBlocks]
  exact Nat.mod_eq_of_lt (show n + 1 < 2 ^ 32 by omega)

/-- A phase in which the loop has not enough. -/
theorem same (h : Counting cfg n s) (hbefore : s.phase.accepting = false)
    (hblocks : s'.acceptedBlocks = s.acceptedBlocks) (hafter : s'.phase.accepting = false)
    (hbail : ∀ i blocks, s'.phase ≠ .stopping i (.bail (.accepted blocks))) :
    Counting cfg n s' := by
  refine ⟨hblocks ▸ h.acceptedBlocks, ?_, fun blocks hphase => ?_, hbail⟩
  · rw [hafter, if_neg (by simp)]
    exact h.lt_enough hbefore
  · rw [hphase] at hafter
    cases hafter

/-- A stop, and what comes after it: with enough accepted blocks, or without. -/
theorem afterStop (h : s.acceptedBlocks.toNat = n) (next : AfterStop B)
    (hbail : ∀ blocks, next ≠ .bail (.accepted blocks))
    (hn : if (LoopPhase.stopping 0 next).accepting then n = enough cfg else n < enough cfg) :
    Counting cfg n (s.afterStop cfg next) := by
  cases next with
  | spawn work => exact ⟨h, hn, nofun, nofun⟩
  | accept =>
    refine ⟨h, ?_, fun blocks hphase => ?_, ?_⟩
    · unfold RunTestMiner.afterStop
      dsimp only
      split <;> exact hn
    · unfold RunTestMiner.afterStop at hphase ⊢
      dsimp only at hphase
      split at hphase <;> cases hphase
      rfl
    · unfold RunTestMiner.afterStop
      dsimp only
      split <;> nofun
  | bail outcome =>
    refine ⟨h, ?_, fun blocks hphase => ?_, nofun⟩
    · cases outcome with
      | accepted blocks => exact absurd rfl (hbail blocks)
      | _ => exact hn
    · cases hphase
      exact absurd rfl (hbail blocks)

theorem stops (h : s.acceptedBlocks.toNat = n) (next : AfterStop B)
    (hbail : ∀ blocks, next ≠ .bail (.accepted blocks))
    (hn : if (LoopPhase.stopping 0 next).accepting then n = enough cfg else n < enough cfg) :
    Counting cfg n (s.stopWorkers cfg next) := by
  unfold stopWorkers
  split
  · exact afterStop h next hbail hn
  · refine ⟨h, ?_, nofun, fun i blocks hphase => ?_⟩
    · cases next <;> exact hn
    · cases hphase
      exact hbail blocks rfl

end Counting

theorem accepting_of_selecting (h : s.phase = .selecting) : s.phase.accepting = false := by
  rw [h]
  rfl

theorem acceptances_append (t : Transition (RunTestMiner B) LoopAction) :
    acceptances (ts ++ [t]) = acceptances ts + acceptances [t] := List.countP_append

/-- **A step counts** what it is told of. -/
theorem Counting.next {n : ℕ} (h : Counting cfg n s) (hs : s.next cfg isMetBy a = some s') :
    Counting cfg (n + acceptances [⟨s, a, s'⟩]) s' := by
  cases loopStep_of_next hs with
  | worker hsearch hstep => exact ⟨h.acceptedBlocks, h.phase, h.returned, h.bail⟩
  | frameFailed hphase hframe =>
    rename_i message now e
    have hother : acceptances [⟨s, .frame message now, s.fail e⟩] = 0 := by
      cases message with
      | submitSharesSuccess => cases hframe
      | _ => rfl
    rw [hother]
    exact h.same (accepting_of_selecting hphase) rfl rfl nofun
  | noWork hphase hframe =>
    rename_i message now miner
    have hother : acceptances [⟨s, .frame message now, { s with miner := miner }⟩] = 0 := by
      cases message with
      | submitSharesSuccess => cases hframe
      | _ => rfl
    rw [hother]
    refine h.same (accepting_of_selecting hphase) rfl (accepting_of_selecting hphase) ?_
    exact h.bail
  | newWork hphase hframe =>
    rename_i message now work miner
    have hother : acceptances [⟨s, .frame message now,
        { s with miner := miner }.stopWorkers cfg (.spawn work)⟩] = 0 := by
      cases message with
      | submitSharesSuccess => cases hframe
      | _ => rfl
    rw [hother]
    have hn := h.lt_enough (accepting_of_selecting hphase)
    exact stops (s := { s with miner := miner }) h.acceptedBlocks (.spawn work)
      (fun blocks => nofun) hn
  | accepted hphase hfewer =>
    have hlt := UInt32.lt_iff_toNat_lt.1 hfewer
    have hn := h.lt_enough (accepting_of_selecting hphase)
    have hsucc := toNat_acceptedBlocks_succ h hn
    refine ⟨hsucc, ?_, fun blocks hp => ?_, ?_⟩
    · dsimp only
      rw [hphase]
      rw [hsucc] at hlt
      exact lt_max_of_lt_right hlt
    · dsimp only at hp
      rw [hphase] at hp
      cases hp
    · exact h.bail
  | acceptedEnough hphase henough =>
    have hle := UInt32.le_iff_toNat_le.1 henough
    have hn := h.lt_enough (accepting_of_selecting hphase)
    have hsucc := toNat_acceptedBlocks_succ h hn
    refine stops hsucc .accept (fun blocks => nofun) (show n + 1 = enough cfg from ?_)
    rw [hsucc] at hle
    unfold enough at hn ⊢
    omega
  | badFrame hphase => exact h.same (accepting_of_selecting hphase) rfl rfl nofun
  | submitted hphase hshares =>
    exact h.same (accepting_of_selecting hphase) rfl (accepting_of_selecting hphase) h.bail
  | notSubmitted hphase hshares => exact h.same (accepting_of_selecting hphase) rfl rfl nofun
  | stops ha houtcome hphase =>
    rename_i outcome
    have hother : acceptances [⟨s, a, s.stopWorkers cfg (.bail outcome)⟩] = 0 := by
      obtain rfl | ⟨heard, rfl⟩ := ha <;> rfl
    have hn := h.lt_enough (accepting_of_selecting hphase)
    rw [hother]
    exact stops h.acceptedBlocks (.bail outcome)
      (fun blocks heq => houtcome blocks (by injection heq)) hn
  | stopped ha hphase =>
    rename_i i next
    have hother : acceptances [⟨s, a, s.afterStop cfg next⟩] = 0 := by
      obtain rfl | rfl := ha <;> rfl
    have hn := h.phase
    rw [hphase] at hn
    rw [hother]
    refine afterStop h.acceptedBlocks next (fun blocks heq => ?_) ?_
    · rw [heq] at hphase
      exact h.bail i blocks hphase
    · cases next <;> exact hn
  | lingered hphase =>
    have hn := h.phase
    rw [hphase] at hn
    exact ⟨h.acceptedBlocks, hn, fun blocks hp => by cases hp; rfl, nofun⟩

/-- **When the miner stops.**  It never counts more accepted shares than it needs; as soon as
it has them it is on its way to return, and what it returns is their number. -/
theorem accepted_of_run (h : Run (· = start cfg) (Computes (next cfg isMetBy)) ts s) :
    acceptances ts ≤ enough cfg ∧ (acceptances ts = enough cfg ↔ s.phase.accepting = true) ∧
      ∀ blocks, s.phase = .finished (.accepted blocks) → blocks.toNat = enough cfg := by
  have hcounting : Counting cfg (acceptances ts) s := by
    induction h with
    | start hs =>
      rw [hs]
      exact Counting.start
    | next _ hs ih =>
      rw [acceptances_append]
      exact ih.next hs
  have hphase := hcounting.phase
  split at hphase
  · rename_i haccepting
    refine ⟨hphase.le, iff_of_true hphase haccepting, fun blocks hfinished => ?_⟩
    rw [hcounting.returned blocks hfinished, hcounting.acceptedBlocks, hphase]
  · rename_i haccepting
    refine ⟨hphase.le, iff_of_false hphase.ne haccepting, fun blocks hfinished => ?_⟩
    rw [hfinished] at haccepting
    exact absurd rfl haccepting

theorem accepted_of_run_table :
    acceptances (tableMinerTrace tableAccepts) ≤ enough tableConfig ∧
      (acceptances (tableMinerTrace tableAccepts) = enough tableConfig ↔
        (tableMinerAfter tableAccepts).phase.accepting = true) ∧
      ∀ blocks, (tableMinerAfter tableAccepts).phase = .finished (.accepted blocks) →
        blocks.toNat = enough tableConfig :=
  accepted_of_run (tableMinerRun tableAccepts (by rfl))

end RunTestMiner

end TestMiner

end CanaryMining
