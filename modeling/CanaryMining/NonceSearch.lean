import CanaryMining.TestMiner

/-!
# The nonce search of the test miner

The workers of the test miner share the search for a nonce: each starts at its own index,
adds the number of workers at every turn, and counts the time up when the nonce wraps around.
When the number of workers does not divide `2 ^ 32`, a worker changes its residue class at
each wrap-around.

The turns of all workers are the natural numbers all the same: worker `i` is at position
`i + k * n` at turn `k`, the nonce is the position modulo `2 ^ 32`, and the pass the rest.
`searches_once` draws from this that each header is tried once.

## Main definitions

* `mineWorker` — the loop of one worker, as the headers it tries and the share it finds.
* `passNumber` — how often a worker's nonce has wrapped around before a turn.
* `SearchesOnce` — in the first `2 ^ 32` passes, each nonce is tried once for each time.
-/

namespace CanaryMining

namespace TestMiner

variable {B : TargetLib}

/-- `Header`. -/
structure Header where
  version : UInt32
  prevBlockhash : Bytes32
  merkleRoot : Bytes32
  time : UInt32
  bits : UInt32
  nonce : UInt32
  deriving DecidableEq

/-- `build_header`. -/
def buildHeader (work : MiningWork B) (nonce ntime : UInt32) : Header :=
  ⟨work.version, work.prevHash, work.merkleRoot, ntime, work.nbits, nonce⟩

/-- `FoundShare`. -/
structure FoundShare where
  channelId : UInt32
  sequenceNumber : UInt32
  jobId : UInt32
  nonce : UInt32
  ntime : UInt32
  version : UInt32
  deriving DecidableEq

/-- What the loop of a worker meets: whether it is cancelled when it looks, at each turn and
when it has found a share, and which headers meet which targets. -/
structure SearchEnv (B : TargetLib) where
  cancelled : ℕ → Bool
  cancelledAtHit : Bool
  isMetBy : B.Target → Header → Bool

/-- The nonce of the next turn. -/
def nextNonce (workerCount nonce : UInt32) : UInt32 := nonce + workerCount

/-- The time of the next turn. -/
def nextNtime (workerCount nonce ntime : UInt32) : UInt32 :=
  if nextNonce workerCount nonce < nonce then ntime + 1 else ntime

/-- The loop of `mine_worker`, from turn `turn` on and for so many turns at most: the headers
it tries, and the share it sends. -/
def mineLoop (env : SearchEnv B) (work : MiningWork B) (workerCount : UInt32) :
    ℕ → ℕ → UInt32 → UInt32 → List Header × Option FoundShare
  | 0, _, _, _ => ([], none)
  | fuel + 1, turn, nonce, ntime =>
    if env.cancelled turn then ([], none)
    else
      let header := buildHeader work nonce ntime
      if env.isMetBy work.target header then
        ([header], if env.cancelledAtHit then none
          else some ⟨work.channelId, 0, work.jobId, nonce, ntime, work.version⟩)
      else
        let rest := mineLoop env work workerCount fuel (turn + 1) (nextNonce workerCount nonce)
          (nextNtime workerCount nonce ntime)
        (header :: rest.1, rest.2)

/-- `mine_worker`, for so many turns at most. -/
def mineWorker (env : SearchEnv B) (work : MiningWork B) (workerIndex workerCount : UInt32)
    (turns : ℕ) : List Header × Option FoundShare :=
  mineLoop env work workerCount turns 0 workerIndex work.ntime

/-- `spawn_mining_workers`: the index of each worker, with their number. -/
def spawnMiningWorkers (cores : UInt32) : List (UInt32 × UInt32) :=
  let workers := max cores 1
  (List.range workers.toNat).map fun index => (UInt32.ofNat index, workers)

/-- The workers are those with an index below their number, and there is at least one. -/
theorem mem_spawnMiningWorkers {cores workerIndex workerCount : UInt32} :
    (workerIndex, workerCount) ∈ spawnMiningWorkers cores ↔
      workerCount = max cores 1 ∧ workerIndex < workerCount := by
  simp only [spawnMiningWorkers, List.mem_map, List.mem_range, Prod.mk.injEq]
  constructor
  · rintro ⟨index, hlt, rfl, rfl⟩
    refine ⟨rfl, ?_⟩
    rw [UInt32.lt_iff_toNat_lt, UInt32.toNat_ofNat_of_lt' (hlt.trans (max cores 1).toNat_lt)]
    exact hlt
  · rintro ⟨rfl, hlt⟩
    exact ⟨workerIndex.toNat, UInt32.lt_iff_toNat_lt.1 hlt, UInt32.ofNat_toNat, rfl⟩

/-- No worker is cancelled or meets the target. -/
structure Undisturbed (env : SearchEnv B) (work : MiningWork B) : Prop where
  cancelled : ∀ turn, env.cancelled turn = false
  isMetBy : ∀ nonce ntime, env.isMetBy work.target (buildHeader work nonce ntime) = false

/-! ## Turns -/

/-- The nonce and the time of a worker at a turn. -/
def turnState (workerCount workerIndex start : UInt32) : ℕ → UInt32 × UInt32
  | 0 => (workerIndex, start)
  | turn + 1 =>
    let state := turnState workerCount workerIndex start turn
    (nextNonce workerCount state.1, nextNtime workerCount state.1 state.2)

/-- How often the nonce of a worker has wrapped around before a turn. -/
def passNumber (workerCount workerIndex start : UInt32) (turn : ℕ) : ℕ :=
  (List.range turn).countP fun earlier =>
    let nonce := (turnState workerCount workerIndex start earlier).1
    nextNonce workerCount nonce < nonce

/-- An undisturbed worker tries the header of each turn. -/
theorem mineLoop_of_undisturbed {env : SearchEnv B} {work : MiningWork B}
    (h : Undisturbed env work) (workerCount workerIndex start : UInt32) (fuel turn : ℕ) :
    (mineLoop env work workerCount fuel turn
      (turnState workerCount workerIndex start turn).1
      (turnState workerCount workerIndex start turn).2).1 =
      (List.range' turn fuel).map fun k =>
        buildHeader work (turnState workerCount workerIndex start k).1
          (turnState workerCount workerIndex start k).2 := by
  induction fuel generalizing turn with
  | zero => rfl
  | succ fuel ih =>
    rw [mineLoop, h.cancelled]
    simp only [h.isMetBy, Bool.false_eq_true, if_false]
    rw [List.range'_succ, List.map_cons]
    exact congrArg _ (ih (turn + 1))

/-- **An undisturbed worker** tries the headers of its turns, for as long as it runs. -/
theorem mineWorker_of_undisturbed {env : SearchEnv B} {work : MiningWork B}
    (h : Undisturbed env work) (workerIndex workerCount : UInt32) (turns : ℕ) :
    (mineWorker env work workerIndex workerCount turns).1 =
      (List.range turns).map fun turn =>
        buildHeader work (turnState workerCount workerIndex work.ntime turn).1
          (turnState workerCount workerIndex work.ntime turn).2 := by
  rw [List.range_eq_range']
  exact mineLoop_of_undisturbed h workerCount workerIndex work.ntime turns 0

/-- The header that a worker tries at a turn, if it gets there. -/
def triedHeader (env : SearchEnv B) (work : MiningWork B) (workerCount workerIndex : UInt32)
    (turn : ℕ) : Option Header :=
  (mineWorker env work workerIndex workerCount (turn + 1)).1[turn]?

theorem triedHeader_of_undisturbed {env : SearchEnv B} {work : MiningWork B}
    (h : Undisturbed env work) (workerCount workerIndex : UInt32) (turn : ℕ) :
    triedHeader env work workerCount workerIndex turn =
      some (buildHeader work (turnState workerCount workerIndex work.ntime turn).1
        (turnState workerCount workerIndex work.ntime turn).2) := by
  rw [triedHeader, mineWorker_of_undisturbed h, List.getElem?_map,
    List.getElem?_range (Nat.lt_succ_self turn)]
  rfl

/-! ## Positions -/

/-- The position of a turn among the turns of all workers. -/
def position (workerCount workerIndex : UInt32) (turn : ℕ) : ℕ :=
  workerIndex.toNat + turn * workerCount.toNat

theorem position_succ (workerCount workerIndex : UInt32) (turn : ℕ) :
    position workerCount workerIndex (turn + 1) =
      position workerCount workerIndex turn + workerCount.toNat := by
  rw [position, position, Nat.succ_mul, Nat.add_assoc]

/-- A nonce wraps around exactly where its position enters a new pass. -/
theorem div_add_eq {p n : ℕ} (hn : n < 2 ^ 32) :
    (p + n) / 2 ^ 32 =
      p / 2 ^ 32 + if (p % 2 ^ 32 + n) % 2 ^ 32 < p % 2 ^ 32 then 1 else 0 := by
  split <;> omega

theorem nextNonce_lt_iff {nonce workerCount : UInt32} {p : ℕ} (h : nonce.toNat = p % 2 ^ 32) :
    nextNonce workerCount nonce < nonce ↔
      (p % 2 ^ 32 + workerCount.toNat) % 2 ^ 32 < p % 2 ^ 32 := by
  rw [UInt32.lt_iff_toNat_lt, nextNonce, UInt32.toNat_add, h]

/-- **The nonce at a turn** is its position, modulo `2 ^ 32`. -/
theorem toNat_turnState_fst (workerCount workerIndex start : UInt32) (turn : ℕ) :
    (turnState workerCount workerIndex start turn).1.toNat =
      position workerCount workerIndex turn % 2 ^ 32 := by
  induction turn with
  | zero =>
    rw [position, Nat.zero_mul, Nat.add_zero]
    exact (Nat.mod_eq_of_lt workerIndex.toNat_lt).symm
  | succ turn ih =>
    rw [position_succ, turnState, nextNonce, UInt32.toNat_add, ih, Nat.mod_add_mod]

/-- **The pass of a turn** is the rest of its position. -/
theorem passNumber_eq (workerCount workerIndex start : UInt32) (turn : ℕ) :
    passNumber workerCount workerIndex start turn =
      position workerCount workerIndex turn / 2 ^ 32 := by
  induction turn with
  | zero =>
    rw [position, Nat.zero_mul, Nat.add_zero]
    exact (Nat.div_eq_of_lt workerIndex.toNat_lt).symm
  | succ turn ih =>
    have hwraps := @nextNonce_lt_iff _ workerCount _
      (toNat_turnState_fst workerCount workerIndex start turn)
    rw [position_succ, div_add_eq workerCount.toNat_lt, ← ih, passNumber, List.range_succ,
      List.countP_append, List.countP_singleton, passNumber]
    simp only [decide_eq_true_eq, hwraps]

/-- The time at a turn is the start plus the pass. -/
theorem turnState_snd (workerCount workerIndex start : UInt32) (turn : ℕ) :
    (turnState workerCount workerIndex start turn).2 =
      start + UInt32.ofNat (passNumber workerCount workerIndex start turn) := by
  induction turn with
  | zero => exact (UInt32.add_zero start).symm
  | succ turn ih =>
    rw [turnState, nextNtime, ih, passNumber, passNumber, List.range_succ, List.countP_append,
      List.countP_singleton]
    split
    · rename_i hwraps
      rw [if_pos (decide_eq_true hwraps), UInt32.ofNat_add, UInt32.add_assoc]
      rfl
    · rename_i hwraps
      rw [if_neg (by simpa using hwraps), Nat.add_zero]

/-- Headers of one work are equal where nonce and time are. -/
theorem buildHeader_inj {work : MiningWork B} {nonce nonce' ntime ntime' : UInt32} :
    buildHeader work nonce ntime = buildHeader work nonce' ntime' ↔
      nonce = nonce' ∧ ntime = ntime' := by
  unfold buildHeader
  rw [Header.mk.injEq]
  constructor
  · rintro ⟨-, -, -, htime, -, hnonce⟩
    exact ⟨hnonce, htime⟩
  · rintro ⟨rfl, rfl⟩
    exact ⟨rfl, rfl, rfl, rfl, rfl, rfl⟩

/-- Times that are counted up from one start are equal where the counts are, modulo
`2 ^ 32`. -/
theorem add_ofNat_inj {start : UInt32} {a b : ℕ} :
    start + UInt32.ofNat a = start + UInt32.ofNat b ↔ a % 2 ^ 32 = b % 2 ^ 32 := by
  rw [UInt32.add_right_inj, ← UInt32.toNat_inj, UInt32.toNat_ofNat', UInt32.toNat_ofNat']

section Undisturbed

variable {env : SearchEnv B} {work : MiningWork B} {workerCount : UInt32}

/-- **What is tried at a turn**, by its position. -/
theorem triedHeader_eq_some_iff (h : Undisturbed env work) {workerIndex nonce : UInt32}
    {turn w : ℕ} :
    triedHeader env work workerCount workerIndex turn =
        some (buildHeader work nonce (work.ntime + UInt32.ofNat w)) ↔
      position workerCount workerIndex turn % 2 ^ 32 = nonce.toNat ∧
        position workerCount workerIndex turn / 2 ^ 32 % 2 ^ 32 = w % 2 ^ 32 := by
  rw [triedHeader_of_undisturbed h, Option.some.injEq, buildHeader_inj, turnState_snd,
    add_ofNat_inj, ← UInt32.toNat_inj, toNat_turnState_fst, passNumber_eq]

/-- **A header is tried again** only after all `2 ^ 64` headers: where the positions agree
modulo their number. -/
theorem triedHeader_eq_iff (h : Undisturbed env work) {i j : UInt32} {k l : ℕ} :
    triedHeader env work workerCount i k = triedHeader env work workerCount j l ↔
      position workerCount i k % 2 ^ 64 = position workerCount j l % 2 ^ 64 := by
  rw [triedHeader_of_undisturbed h workerCount j, turnState_snd, triedHeader_eq_some_iff h,
    toNat_turnState_fst, passNumber_eq]
  omega

end Undisturbed

/-- Every position is that of one turn of one worker. -/
theorem existsUnique_position {workerCount : UInt32} (hcount : workerCount ≠ 0) (p : ℕ) :
    ∃! t : UInt32 × ℕ, t.1 < workerCount ∧ position workerCount t.1 t.2 = p := by
  have hpos : 0 < workerCount.toNat :=
    Nat.pos_of_ne_zero fun hzero => hcount (UInt32.toNat_inj.1 hzero)
  have hmod : p % workerCount.toNat < workerCount.toNat := Nat.mod_lt _ hpos
  have hindex : (UInt32.ofNat (p % workerCount.toNat)).toNat = p % workerCount.toNat :=
    UInt32.toNat_ofNat_of_lt' (hmod.trans workerCount.toNat_lt)
  refine ⟨(UInt32.ofNat (p % workerCount.toNat), p / workerCount.toNat), ⟨?_, ?_⟩, ?_⟩
  · rw [UInt32.lt_iff_toNat_lt, hindex]
    exact hmod
  · rw [position, hindex, Nat.mod_add_div']
  · rintro ⟨index, turn⟩ ⟨hindexLt, heq⟩
    rw [UInt32.lt_iff_toNat_lt] at hindexLt
    rw [Prod.mk.injEq, ← UInt32.toNat_inj, hindex, ← heq, position]
    constructor
    · rw [Nat.add_mul_mod_self_right, Nat.mod_eq_of_lt hindexLt]
    · rw [Nat.add_mul_div_right _ _ hpos, Nat.div_eq_of_lt hindexLt, Nat.zero_add]

/-- In the first `2 ^ 32` passes of the spawned workers, each nonce is tried at one turn of one
of them for the time of each pass; so no two turns try the same header, and none is left out. -/
structure SearchesOnce (env : SearchEnv B) (work : MiningWork B) (workerCount : UInt32) :
    Prop where
  partition : ∀ w < 2 ^ 32, ∀ nonce, ∃! t : UInt32 × ℕ,
    (t.1, workerCount) ∈ spawnMiningWorkers workerCount ∧
      passNumber workerCount t.1 work.ntime t.2 < 2 ^ 32 ∧
        triedHeader env work workerCount t.1 t.2 =
          some (buildHeader work nonce (work.ntime + UInt32.ofNat w))
  disjoint : ∀ t t' : UInt32 × ℕ, (t.1, workerCount) ∈ spawnMiningWorkers workerCount →
    (t'.1, workerCount) ∈ spawnMiningWorkers workerCount →
      passNumber workerCount t.1 work.ntime t.2 < 2 ^ 32 →
        passNumber workerCount t'.1 work.ntime t'.2 < 2 ^ 32 →
          triedHeader env work workerCount t.1 t.2 = triedHeader env work workerCount t'.1 t'.2 →
            t = t'
  complete : ∀ nonce ntime, ∃ t : UInt32 × ℕ,
    (t.1, workerCount) ∈ spawnMiningWorkers workerCount ∧
      passNumber workerCount t.1 work.ntime t.2 < 2 ^ 32 ∧
        triedHeader env work workerCount t.1 t.2 = some (buildHeader work nonce ntime)

/-- As many workers are spawned as asked for. -/
theorem mem_spawnMiningWorkers_self {workerIndex workerCount : UInt32} (hcount : workerCount ≠ 0) :
    (workerIndex, workerCount) ∈ spawnMiningWorkers workerCount ↔ workerIndex < workerCount := by
  have hpos : 1 ≤ workerCount := by
    rw [← UInt32.toNat_inj.ne, UInt32.toNat_zero] at hcount
    rw [UInt32.le_iff_toNat_le, UInt32.toNat_one]
    omega
  have hmax : max workerCount 1 = workerCount := by
    change (if workerCount ≤ 1 then 1 else workerCount) = workerCount
    split
    · rename_i hle
      exact UInt32.le_antisymm hpos hle
    · rfl
  rw [mem_spawnMiningWorkers, hmax, eq_self_iff_true, true_and]

/-- **The nonce search is a partition**, whatever the number of workers. -/
theorem searches_once {env : SearchEnv B} {work : MiningWork B} {workerCount : UInt32}
    (h : Undisturbed env work) (hcount : workerCount ≠ 0) :
    SearchesOnce env work workerCount := by
  have hmem : ∀ workerIndex, (workerIndex, workerCount) ∈ spawnMiningWorkers workerCount ↔
      workerIndex < workerCount := fun _ => mem_spawnMiningWorkers_self hcount
  have hpartition : ∀ w < 2 ^ 32, ∀ nonce, ∃! t : UInt32 × ℕ,
      (t.1, workerCount) ∈ spawnMiningWorkers workerCount ∧
        passNumber workerCount t.1 work.ntime t.2 < 2 ^ 32 ∧
          triedHeader env work workerCount t.1 t.2 =
            some (buildHeader work nonce (work.ntime + UInt32.ofNat w)) := by
    intro w hw nonce
    have hnonce : nonce.toNat < 2 ^ 32 := nonce.toNat_lt
    -- The turn is the one at the position of pass `w` that has this nonce.
    refine (existsUnique_congr fun t : UInt32 × ℕ => and_congr (hmem t.1).symm ?_).1
      (existsUnique_position hcount (w * 2 ^ 32 + nonce.toNat))
    rw [triedHeader_eq_some_iff h, passNumber_eq]
    omega
  constructor
  case partition => exact hpartition
  case disjoint =>
    intro t t' ht ht' hpass hpass' heq
    rw [passNumber_eq] at hpass hpass'
    rw [triedHeader_eq_iff h] at heq
    refine (existsUnique_position hcount (position workerCount t.1 t.2)).unique
      ⟨(hmem t.1).1 ht, rfl⟩ ⟨(hmem t'.1).1 ht', ?_⟩
    omega
  case complete =>
    intro nonce ntime
    have hw : (ntime - work.ntime).toNat < 2 ^ 32 := (ntime - work.ntime).toNat_lt
    have htime : work.ntime + UInt32.ofNat (ntime - work.ntime).toNat = ntime := by
      rw [UInt32.ofNat_toNat, UInt32.add_comm, UInt32.sub_add_cancel]
    obtain ⟨t, ht, -⟩ := hpartition _ hw nonce
    rw [htime] at ht
    exact ⟨t, ht⟩

/-! ## Three workers -/

/-- Work whose target no header meets. -/
def idleWork : MiningWork plainTargets where
  channelId := 1
  jobId := 1
  version := 0x20000000
  prevHash := ⟨List.replicate 32 7, rfl⟩
  merkleRoot := ⟨List.replicate 32 1, rfl⟩
  nbits := 0x207fffff
  ntime := 100
  target := .inr 0x207fffff

/-- A search that nothing disturbs. -/
def quietEnv : SearchEnv plainTargets := ⟨fun _ => false, false, fun _ _ => false⟩

/-- Three does not divide the number of nonces. -/
theorem searchesOnce_three : SearchesOnce quietEnv idleWork 3 :=
  searches_once ⟨fun _ => rfl, fun _ _ => rfl⟩ (by decide)

end TestMiner

end CanaryMining
