import CanaryMining.Lib.Text
import Mathlib.Data.List.Range
import Mathlib.Data.List.Sort

/-!
# The recent blocks of the dashboard

Every status request shows the newest blocks of the chain.  They are fetched from the
node one height after the other and kept in a cache, which also remembers for which
chain height it is complete.  A fetch may fail; what was had so far is then shown and
kept, and the height in the cache is cleared.

Heights are natural numbers: the additions of the source saturate, but far above every
height a chain reaches.

## Main definitions

* `NodeRpc` — what the node answers.
* `RecentBlocksCache` — the cache.
* `recentBlocksResponse` — one request, `BlockPoll` — what it meets.
* `cacheAfter` — the cache after some requests.
* `FetchesHeights` — a node that answers for a height with a block of that height.
-/

namespace CanaryMining

/-- `VerboseBlock`. -/
structure VerboseBlock (Tx : Type) where
  hash : Text
  height : ℕ
  time : UInt64
  weight : Option UInt64
  nTx : Option ℕ
  tx : List Tx

/-- `BlockTimelineItem`. -/
structure BlockTimelineItem (Pool : Type) where
  height : ℕ
  hash : Text
  timestamp : UInt64
  weight : Option UInt64
  transactionCount : Option ℕ
  rewardSats : Option UInt64
  pool : Pool

/-- The two requests to the node, which have no answer when they fail or time out. -/
structure NodeRpc (Tx : Type) where
  blockHash : ℕ → Option Text
  verboseBlock : Text → Option (VerboseBlock Tx)

/-- What is read off a coinbase transaction: `coinbase_reward_sats` and
`detect_block_pool`. -/
structure CoinbaseReader (Tx Pool : Type) where
  coinbaseRewardSats : Tx → Option UInt64
  detectBlockPool : Option Tx → Pool

/-- Nothing is read off a coinbase transaction. -/
def noReader : CoinbaseReader Unit Unit := ⟨fun _ => none, fun _ => ()⟩

/-- `RecentBlocksCache`. -/
structure RecentBlocksCache (Pool : Type) where
  chainHeight : Option ℕ
  blocks : List (BlockTimelineItem Pool)

/-- A request meets a chain height, if it is known, and the node as it answers while the
block of each height is fetched. -/
structure BlockPoll (Tx : Type) where
  chainHeight : Option ℕ
  rpc : ℕ → NodeRpc Tx

/-- What a request shows, the heights it asked the node for, and the cache it leaves. -/
structure BlockAnswer (Pool : Type) where
  response : List (BlockTimelineItem Pool)
  asked : List ℕ
  cache : RecentBlocksCache Pool

/-- `RECENT_BLOCK_LIMIT`. -/
def recentBlockLimit : ℕ := 6

/-- `first_recent_block_height`. -/
def firstRecentBlockHeight (chainHeight : ℕ) : ℕ :=
  let count := min recentBlockLimit (chainHeight + 1)
  chainHeight + 1 - count

variable {Tx Pool : Type}

/-- `recent_blocks_complete`. -/
def recentBlocksComplete (chainHeight : Option ℕ) (blocks : List (BlockTimelineItem Pool)) : Bool :=
  match chainHeight with
  | some height => blocks.any fun block => decide (block.height = height)
  | none => blocks.isEmpty

/-- `fetch_recent_block`. -/
def fetchRecentBlock (reader : CoinbaseReader Tx Pool) (rpc : NodeRpc Tx) (height : ℕ) :
    Option (BlockTimelineItem Pool) := do
  let hash ← rpc.blockHash height
  let block ← rpc.verboseBlock hash
  let coinbase := block.tx.head?
  return {
    height := block.height
    hash := block.hash
    timestamp := block.time
    weight := block.weight
    transactionCount := block.nTx.or (some block.tx.length)
    rewardSats := coinbase.bind reader.coinbaseRewardSats
    pool := reader.detectBlockPool coinbase }

/-- The loop of `fetch_recent_blocks`, for as many turns as there are heights left up to
the chain height.  The second list is of the heights it asks for. -/
def fetchLoop (fetch : ℕ → Option (BlockTimelineItem Pool)) (chainHeight : ℕ) :
    ℕ → ℕ → List (BlockTimelineItem Pool) → List (BlockTimelineItem Pool) × List ℕ
  | 0, _, blocks => (blocks, [])
  | turns + 1, nextHeight, blocks =>
    if nextHeight ≤ chainHeight then
      match fetch nextHeight with
      | some block =>
        let rest := fetchLoop fetch chainHeight turns (nextHeight + 1) (blocks ++ [block])
        (rest.1, nextHeight :: rest.2)
      | none => (blocks, [nextHeight])
    else (blocks, [])

/-- The test of `fetch_recent_blocks` on the blocks of the cache. -/
def inRecentWindow (chainHeight : ℕ) (block : BlockTimelineItem Pool) : Bool :=
  decide (firstRecentBlockHeight chainHeight ≤ block.height) && decide (block.height ≤ chainHeight)

/-- `sort_by_key(|block| block.height)`. -/
def sortByHeight (blocks : List (BlockTimelineItem Pool)) : List (BlockTimelineItem Pool) :=
  blocks.insertionSort fun a b => a.height ≤ b.height

/-- The blocks of the cache that are kept for a chain height. -/
def keptBlocks (cache : RecentBlocksCache Pool) (chainHeight : ℕ) :
    List (BlockTimelineItem Pool) :=
  sortByHeight (cache.blocks.filter (inRecentWindow chainHeight))

/-- The height after the last block that is kept, which the loop starts at. -/
def firstMissingHeight (cache : RecentBlocksCache Pool) (chainHeight : ℕ) : ℕ :=
  match (keptBlocks cache chainHeight).getLast? with
  | some block => block.height + 1
  | none => firstRecentBlockHeight chainHeight

/-- `fetch_recent_blocks`. -/
def fetchRecentBlocks (reader : CoinbaseReader Tx Pool) (rpc : ℕ → NodeRpc Tx)
    (cache : RecentBlocksCache Pool) (chainHeight : ℕ) :
    List (BlockTimelineItem Pool) × List ℕ :=
  let nextHeight := firstMissingHeight cache chainHeight
  let fetched := fetchLoop (fun height => fetchRecentBlock reader (rpc height) height) chainHeight
    (chainHeight + 1 - nextHeight) nextHeight (keptBlocks cache chainHeight)
  (sortByHeight (fetched.1.filter (inRecentWindow chainHeight)), fetched.2)

/-- `recent_blocks_response`. -/
def recentBlocksResponse (reader : CoinbaseReader Tx Pool) (poll : BlockPoll Tx)
    (cache : RecentBlocksCache Pool) : BlockAnswer Pool :=
  if cache.chainHeight = poll.chainHeight then ⟨cache.blocks, [], cache⟩
  else
    match poll.chainHeight with
    | none => ⟨cache.blocks, [], cache⟩
    | some chainHeight =>
      let fetched := fetchRecentBlocks reader poll.rpc cache chainHeight
      if !recentBlocksComplete (some chainHeight) fetched.1 then
        if fetched.1.isEmpty then ⟨cache.blocks, fetched.2, cache⟩
        else ⟨fetched.1, fetched.2, ⟨none, fetched.1⟩⟩
      else ⟨fetched.1, fetched.2, ⟨some chainHeight, fetched.1⟩⟩

/-- The cache after some requests, empty at first. -/
def cacheAfter (reader : CoinbaseReader Tx Pool) (polls : List (BlockPoll Tx)) :
    RecentBlocksCache Pool :=
  polls.foldl (fun cache poll => (recentBlocksResponse reader poll cache).cache) ⟨none, []⟩

/-- The heights of some blocks. -/
def heights (blocks : List (BlockTimelineItem Pool)) : List ℕ := blocks.map (·.height)

/-- A node that answers for a height with a block of that height. -/
def FetchesHeights (reader : CoinbaseReader Tx Pool) (rpc : ℕ → NodeRpc Tx) : Prop :=
  ∀ height block, fetchRecentBlock reader (rpc height) height = some block →
    block.height = height

/-- A request has no block for its chain height, neither in the cache nor from the node. -/
def ObtainsNone (reader : CoinbaseReader Tx Pool) (rpc : ℕ → NodeRpc Tx)
    (cache : RecentBlocksCache Pool) (chainHeight : ℕ) : Prop :=
  (∀ block ∈ cache.blocks, inRecentWindow chainHeight block = false) ∧
    fetchRecentBlock reader (rpc (firstRecentBlockHeight chainHeight))
      (firstRecentBlockHeight chainHeight) = none

/-! ## What is kept and fetched -/

variable {reader : CoinbaseReader Tx Pool} {fetch : ℕ → Option (BlockTimelineItem Pool)}
  {blocks : List (BlockTimelineItem Pool)} {chainHeight : ℕ}

theorem mem_sortByHeight {block : BlockTimelineItem Pool} :
    block ∈ sortByHeight blocks ↔ block ∈ blocks :=
  List.mem_insertionSort _

theorem mem_keptBlocks {cache : RecentBlocksCache Pool} {block : BlockTimelineItem Pool} :
    block ∈ keptBlocks cache chainHeight ↔
      block ∈ cache.blocks ∧ firstRecentBlockHeight chainHeight ≤ block.height ∧
        block.height ≤ chainHeight := by
  rw [keptBlocks, mem_sortByHeight, List.mem_filter, inRecentWindow, Bool.and_eq_true,
    decide_eq_true_eq, decide_eq_true_eq]

theorem keptBlocks_eq_nil {cache : RecentBlocksCache Pool} :
    (∀ block ∈ cache.blocks, inRecentWindow chainHeight block = false) ↔
      keptBlocks cache chainHeight = [] := by
  constructor
  · intro h
    rw [List.eq_nil_iff_forall_not_mem]
    intro block hblock
    obtain ⟨hmem, hin⟩ := mem_keptBlocks.1 hblock
    have hout := h block hmem
    simp [inRecentWindow, hin] at hout
  · intro h block hmem
    rw [Bool.eq_false_iff]
    intro hin
    rw [inRecentWindow, Bool.and_eq_true, decide_eq_true_eq, decide_eq_true_eq] at hin
    have hblock := mem_keptBlocks.2 ⟨hmem, hin⟩
    rw [h] at hblock
    cases hblock

theorem firstMissingHeight_of_keptBlocks_eq_nil {cache : RecentBlocksCache Pool}
    (h : keptBlocks cache chainHeight = []) :
    firstMissingHeight cache chainHeight = firstRecentBlockHeight chainHeight := by
  rw [firstMissingHeight, h, List.getLast?_nil]

theorem firstRecentBlockHeight_le (chainHeight : ℕ) :
    firstRecentBlockHeight chainHeight ≤ chainHeight := by
  simp only [firstRecentBlockHeight, recentBlockLimit]
  omega

theorem firstMissingHeight_le (cache : RecentBlocksCache Pool) (chainHeight : ℕ) :
    firstMissingHeight cache chainHeight ≤ chainHeight + 1 := by
  rw [firstMissingHeight]
  split
  · rename_i block hlast
    have hblock := mem_keptBlocks.1 (List.mem_of_getLast? hlast)
    omega
  · have hfirst := firstRecentBlockHeight_le chainHeight
    omega

/-- **The loop** appends the blocks that it fetched, one for each height from the next one
on, and stops before its last turn only where a fetch fails. -/
theorem fetchLoop_spec (fetch : ℕ → Option (BlockTimelineItem Pool)) (turns nextHeight : ℕ)
    (blocks : List (BlockTimelineItem Pool))
    (hturns : nextHeight + turns = chainHeight + 1) :
    ∃ fetched,
      (fetchLoop fetch chainHeight turns nextHeight blocks).1 = blocks ++ fetched ∧
      List.Forall₂ (fun height block => fetch height = some block)
        (List.range' nextHeight fetched.length) fetched ∧
      (fetched.length = turns ∨
        fetched.length < turns ∧ fetch (nextHeight + fetched.length) = none) ∧
      (fetchLoop fetch chainHeight turns nextHeight blocks).2.length ≤ turns := by
  induction turns generalizing nextHeight blocks with
  | zero => exact ⟨[], by simp [fetchLoop]⟩
  | succ turns ih =>
    have hle : nextHeight ≤ chainHeight := by omega
    simp only [fetchLoop, if_pos hle]
    cases hfetch : fetch nextHeight with
    | none => exact ⟨[], by simp [hfetch]⟩
    | some block =>
      have hrest : nextHeight + 1 + turns = chainHeight + 1 := by omega
      obtain ⟨fetched, heq, hall, hstop, hasked⟩ := ih (nextHeight + 1) (blocks ++ [block]) hrest
      refine ⟨block :: fetched, ?_, ?_, ?_, ?_⟩
      · rw [heq, List.append_assoc, List.singleton_append]
      · rw [List.length_cons, List.range'_succ]
        exact .cons hfetch hall
      · have hnext : nextHeight + 1 + fetched.length = nextHeight + (fetched.length + 1) := by
          omega
        rw [hnext] at hstop
        simpa using hstop
      · simpa using hasked

/-- The heights of fetched blocks are the ones asked for. -/
theorem heights_of_forall₂
    (hfetch : ∀ height block, fetch height = some block → block.height = height) {l : List ℕ}
    (h : List.Forall₂ (fun height block => fetch height = some block) l blocks) :
    heights blocks = l := by
  induction h with
  | nil => rfl
  | cons hblock _ ih =>
    rw [heights, List.map_cons, hfetch _ _ hblock]
    exact congrArg _ ih

/-- Every fetched block answers some height. -/
theorem exists_fetch_of_forall₂ {l : List ℕ}
    (h : List.Forall₂ (fun height block => fetch height = some block) l blocks) :
    ∀ block ∈ blocks, ∃ height, fetch height = some block := by
  induction h with
  | nil => exact fun _ hblock => nomatch hblock
  | cons hblock _ ih => exact List.forall_mem_cons.2 ⟨⟨_, hblock⟩, ih⟩

theorem firstRecentBlockHeight_le_firstMissingHeight (cache : RecentBlocksCache Pool)
    (chainHeight : ℕ) :
    firstRecentBlockHeight chainHeight ≤ firstMissingHeight cache chainHeight := by
  rw [firstMissingHeight]
  split
  · rename_i block hlast
    have hblock := mem_keptBlocks.1 (List.mem_of_getLast? hlast)
    omega
  · exact le_rfl

/-- **The blocks for a chain height** are the ones that were kept and a fetched one for each
height after them, up to the first fetch that fails. -/
theorem fetchRecentBlocks_spec {rpc : ℕ → NodeRpc Tx} (hfetch : FetchesHeights reader rpc)
    (cache : RecentBlocksCache Pool) (chainHeight : ℕ) :
    ∃ fetched,
      (fetchRecentBlocks reader rpc cache chainHeight).1 =
        sortByHeight (keptBlocks cache chainHeight ++ fetched) ∧
      (∀ block ∈ fetched, ∃ height, fetchRecentBlock reader (rpc height) height = some block) ∧
      heights fetched = List.range' (firstMissingHeight cache chainHeight) fetched.length ∧
      (ObtainsNone reader rpc cache chainHeight ↔ keptBlocks cache chainHeight ++ fetched = []) ∧
      (firstMissingHeight cache chainHeight + fetched.length = chainHeight + 1 ∨
        firstMissingHeight cache chainHeight + fetched.length < chainHeight + 1 ∧
        ∃ height, height = firstMissingHeight cache chainHeight + fetched.length ∧
          fetchRecentBlock reader (rpc height) height = none) ∧
      (fetchRecentBlocks reader rpc cache chainHeight).2.length ≤
        chainHeight + 1 - firstMissingHeight cache chainHeight := by
  have hle := firstMissingHeight_le cache chainHeight
  have hge := firstRecentBlockHeight_le_firstMissingHeight cache chainHeight
  have hturns : firstMissingHeight cache chainHeight +
      (chainHeight + 1 - firstMissingHeight cache chainHeight) = chainHeight + 1 := by omega
  obtain ⟨fetched, heq, hall, hstop, hasked⟩ := fetchLoop_spec
    (fun height => fetchRecentBlock reader (rpc height) height) _ _
    (keptBlocks cache chainHeight) hturns
  have hheights := heights_of_forall₂ hfetch hall
  have hin : (keptBlocks cache chainHeight ++ fetched).filter (inRecentWindow chainHeight) =
      keptBlocks cache chainHeight ++ fetched := by
    rw [List.filter_eq_self]
    intro block hblock
    rw [inRecentWindow, Bool.and_eq_true, decide_eq_true_eq, decide_eq_true_eq]
    rcases List.mem_append.1 hblock with hblock | hblock
    · exact (mem_keptBlocks.1 hblock).2
    · have hheight : block.height ∈ heights fetched := List.mem_map_of_mem hblock
      rw [hheights, List.mem_range'_1] at hheight
      omega
  refine ⟨fetched, ?_, exists_fetch_of_forall₂ hall, hheights, ?_, ?_, hasked⟩
  · rw [fetchRecentBlocks, heq, hin]
  · rw [List.append_eq_nil_iff, ← keptBlocks_eq_nil]
    refine and_congr_right fun hkept => ?_
    have hmissing := firstMissingHeight_of_keptBlocks_eq_nil (keptBlocks_eq_nil.1 hkept)
    have hfirst := firstRecentBlockHeight_le chainHeight
    rw [hmissing] at hall hstop
    constructor
    · intro hnone
      cases fetched with
      | nil => rfl
      | cons block rest =>
        rw [List.length_cons, List.range'_succ, List.forall₂_cons, hnone] at hall
        cases hall.1
    · intro hnil
      rw [hnil, List.length_nil, Nat.add_zero] at hstop
      rcases hstop with hstop | ⟨-, hnone⟩
      · omega
      · exact hnone
  · rcases hstop with hstop | ⟨hlt, hnone⟩
    · left
      omega
    · right
      exact ⟨by omega, _, rfl, hnone⟩

end CanaryMining
