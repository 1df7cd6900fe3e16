import CanaryMining.Blocks.Timeline
import CanaryMining.Lib.Run

/-!
# Recent blocks and reorganisations

The active chain of the node is a list of block hashes.  Between two requests it may be
extended or reorganised in any way; during a request it stays the same, and the node
answers from it or fails.  The cache knows blocks by their height only, so a request shows
blocks of the active chain exactly if the cached blocks it reuses are still on it.

## Main definitions

* `BlockState`, `BlockStep` — the chain and the cache, and what may happen to them.
* `reusedBlocks` — the cached blocks that a request shows again.
* `ReusesActive`, `ShowsActive` — the condition on a request, and what is asked of it.
-/

namespace CanaryMining

variable {Tx Pool : Type}

/-- The hashes of the active chain, from the first block on. -/
abbrev Chain := List Text

/-- A block is the one of the chain at its height. -/
def BlockTimelineItem.OnChain (chain : Chain) (block : BlockTimelineItem Pool) : Prop :=
  chain[block.height]? = some block.hash

/-- A node that fails or answers from the chain: for a height with its hash, and for this
hash with its block. -/
def NodeRpc.AnswersFrom (chain : Chain) (rpc : NodeRpc Tx) : Prop :=
  ∀ height hash, rpc.blockHash height = some hash → chain[height]? = some hash ∧
    ∀ block, rpc.verboseBlock hash = some block → block.hash = hash ∧ block.height = height

/-- The active chain and the cache of the dashboard. -/
structure BlockState (Pool : Type) where
  chain : Chain
  cache : RecentBlocksCache Pool

/-- What happens: the chain changes, or a request is made. -/
inductive BlockAction (Tx : Type) where
  | change (chain : Chain)
  | request (poll : BlockPoll Tx)

/-- One step.  A request meets the height of the chain, or none where the node did not
tell it. -/
inductive BlockStep (reader : CoinbaseReader Tx Pool) :
    BlockState Pool → BlockAction Tx → BlockState Pool → Prop
  | change (s : BlockState Pool) (chain : Chain) : chain ≠ [] →
      BlockStep reader s (.change chain) { s with chain := chain }
  | request (s : BlockState Pool) (poll : BlockPoll Tx) :
      poll.chainHeight = none ∨ poll.chainHeight = some (s.chain.length - 1) →
      (∀ height, (poll.rpc height).AnswersFrom s.chain) →
      BlockStep reader s (.request poll)
        { s with cache := (recentBlocksResponse reader poll s.cache).cache }

/-- The dashboard starts with an empty cache, whatever the chain is. -/
def BlockStart (s : BlockState Pool) : Prop := s.chain ≠ [] ∧ s.cache = ⟨none, []⟩

/-- The cached blocks that a request shows again: those of the window of the polled height,
and all of them where the height is unknown or the one of the cache, or where no block of the
window is to be had. -/
def reusedBlocks (reader : CoinbaseReader Tx Pool) (poll : BlockPoll Tx)
    (cache : RecentBlocksCache Pool) (block : BlockTimelineItem Pool) : Prop :=
  block ∈ cache.blocks ∧
    match poll.chainHeight with
    | none => True
    | some chainHeight => inRecentWindow chainHeight block = true ∨
        cache.chainHeight = some chainHeight ∨ ObtainsNone reader poll.rpc cache chainHeight

/-- The condition on a request: the cached blocks that it shows again are on the chain. -/
def ReusesActive (reader : CoinbaseReader Tx Pool) (s : BlockState Pool) :
    BlockAction Tx → Prop
  | .change _ => True
  | .request poll => ∀ block, reusedBlocks reader poll s.cache block → block.OnChain s.chain

/-- Every block that a request shows is the one of the active chain at its height. -/
def ShowsActive (reader : CoinbaseReader Tx Pool) (s : BlockState Pool) : BlockAction Tx → Prop
  | .change _ => True
  | .request poll => ∀ block ∈ (recentBlocksResponse reader poll s.cache).response,
      block.OnChain s.chain

/-- A change of the chain leaves the cached blocks on it. -/
def KeepsCached (s : BlockState Pool) : BlockAction Tx → Prop
  | .change chain => ∀ block ∈ s.cache.blocks, block.OnChain chain
  | .request _ => True

variable {reader : CoinbaseReader Tx Pool} {s s' : BlockState Pool} {poll : BlockPoll Tx}

/-! ## One request -/

/-- What the node answers is on the chain. -/
theorem onChain_of_fetch {rpc : NodeRpc Tx} {chain : Chain} (h : rpc.AnswersFrom chain)
    {height : ℕ} {block : BlockTimelineItem Pool}
    (hfetch : fetchRecentBlock reader rpc height = some block) :
    block.height = height ∧ block.OnChain chain := by
  rw [fetchRecentBlock, Option.bind_eq_bind, Option.bind_eq_some_iff] at hfetch
  obtain ⟨hash, hhash, hfetch⟩ := hfetch
  rw [Option.bind_eq_bind, Option.bind_eq_some_iff] at hfetch
  obtain ⟨verbose, hverbose, hblock⟩ := hfetch
  obtain ⟨hchain, hanswer⟩ := h height hash hhash
  obtain ⟨hhash', hheight⟩ := hanswer verbose hverbose
  have heq := Option.some.inj hblock
  subst heq
  refine ⟨hheight, ?_⟩
  simp only [BlockTimelineItem.OnChain, hheight, hhash', hchain]

theorem fetchesHeights_of_answersFrom {chain : Chain} {rpc : ℕ → NodeRpc Tx}
    (h : ∀ height, (rpc height).AnswersFrom chain) : FetchesHeights reader rpc :=
  fun height _ hfetch => (onChain_of_fetch (h height) hfetch).1

/-- **What a request shows** are the blocks it reuses and blocks the node answered with. -/
theorem response_spec (hfetch : FetchesHeights reader poll.rpc)
    (cache : RecentBlocksCache Pool) :
    (∀ block, reusedBlocks reader poll cache block →
      block ∈ (recentBlocksResponse reader poll cache).response) ∧
    ∀ block ∈ (recentBlocksResponse reader poll cache).response,
      reusedBlocks reader poll cache block ∨
        ∃ height, fetchRecentBlock reader (poll.rpc height) height = some block := by
  cases hpoll : poll.chainHeight with
  | none =>
    have hresponse : (recentBlocksResponse reader poll cache).response = cache.blocks := by
      rw [recentBlocksResponse, hpoll]
      split <;> rfl
    simp only [hresponse, reusedBlocks, hpoll, and_true]
    exact ⟨fun _ hblock => hblock, fun _ hblock => .inl hblock⟩
  | some chainHeight =>
    by_cases hsame : cache.chainHeight = some chainHeight
    · have hresponse : (recentBlocksResponse reader poll cache).response = cache.blocks := by
        rw [recentBlocksResponse, hpoll, if_pos hsame]
      simp only [hresponse, reusedBlocks, hpoll, hsame, true_or, or_true, and_true]
      exact ⟨fun _ hblock => hblock, fun _ hblock => .inl hblock⟩
    · obtain ⟨fetched, heq, hfetched, -, hnone, -⟩ :=
        fetchRecentBlocks_spec hfetch cache chainHeight
      by_cases hempty : keptBlocks cache chainHeight ++ fetched = []
      · have hobtains := hnone.2 hempty
        rw [hempty] at heq
        have hresponse : (recentBlocksResponse reader poll cache).response = cache.blocks := by
          simp [recentBlocksResponse, hpoll, hsame, heq, recentBlocksComplete, sortByHeight]
        simp only [hresponse, reusedBlocks, hpoll, hobtains, or_true, and_true]
        exact ⟨fun _ hblock => hblock, fun _ hblock => .inl hblock⟩
      · have hobtains : ¬ ObtainsNone reader poll.rpc cache chainHeight :=
          fun h => hempty (hnone.1 h)
        have hsorted : sortByHeight (keptBlocks cache chainHeight ++ fetched) ≠ [] := by
          intro hnil
          rw [List.eq_nil_iff_forall_not_mem] at hnil
          refine hempty (List.eq_nil_iff_forall_not_mem.2 fun block hblock => ?_)
          exact hnil block (mem_sortByHeight.2 hblock)
        have hresponse : (recentBlocksResponse reader poll cache).response =
            sortByHeight (keptBlocks cache chainHeight ++ fetched) := by
          simp only [recentBlocksResponse, hpoll, if_neg hsame, heq, List.isEmpty_iff,
            if_neg hsorted]
          split <;> rfl
        simp only [hresponse, reusedBlocks, hpoll, hsame, hobtains, or_false, mem_sortByHeight,
          List.mem_append, mem_keptBlocks, inRecentWindow, Bool.and_eq_true, decide_eq_true_eq]
        exact ⟨fun _ hblock => .inl hblock, fun block hblock =>
          hblock.imp_right (hfetched block)⟩

/-- A request shows blocks of the active chain exactly if it reuses such blocks. -/
theorem showsActive_iff {a : BlockAction Tx} (hstep : BlockStep reader s a s') :
    ShowsActive reader s a ↔ ReusesActive reader s a := by
  cases hstep with
  | change chain _ => exact Iff.rfl
  | request poll _ hrpc =>
    obtain ⟨hreused, hshown⟩ := response_spec (fetchesHeights_of_answersFrom hrpc) s.cache
    constructor
    · intro hactive block hblock
      exact hactive block (hreused block hblock)
    · intro hactive block hblock
      rcases hshown block hblock with hblock | ⟨height, hfetch⟩
      · exact hactive block hblock
      · exact (onChain_of_fetch (hrpc height) hfetch).2

/-- A request leaves the cache as it is or keeps what it shows. -/
theorem response_cache (reader : CoinbaseReader Tx Pool) (poll : BlockPoll Tx)
    (cache : RecentBlocksCache Pool) :
    (recentBlocksResponse reader poll cache).cache.blocks = cache.blocks ∨
      (recentBlocksResponse reader poll cache).cache.blocks =
        (recentBlocksResponse reader poll cache).response := by
  rw [recentBlocksResponse]
  split
  · exact .inl rfl
  · split
    · exact .inl rfl
    · simp only
      split
      · split
        · exact .inl rfl
        · exact .inr rfl
      · exact .inr rfl

/-! ## Runs -/

variable {ts : List (Transition (BlockState Pool) (BlockAction Tx))}

/-- **Recent blocks follow the active chain exactly if the reused ones are on it.**  In every
run the requests show only blocks of the chain of the time, and so never blocks of two
branches, exactly if each reuses only blocks that are on this chain. -/
theorem showsActive_iff_reusesActive (h : Run BlockStart (BlockStep reader) ts s) :
    (∀ t ∈ ts, ShowsActive reader t.before t.action) ↔
      ∀ t ∈ ts, ReusesActive reader t.before t.action := by
  have hsteps := h.forall_transition_of (I := fun _ => True) (P := fun _ => True)
    (fun _ _ => trivial) (fun _ _ _ _ _ _ => trivial) fun _ _ => trivial
  constructor
  · intro hshows t ht
    exact (showsActive_iff (hsteps t ht).2.1).1 (hshows t ht)
  · intro hreuses t ht
    exact (showsActive_iff (hsteps t ht).2.1).2 (hreuses t ht)

/-- As long as every change leaves the cached blocks on the chain, the requests follow it. -/
theorem showsActive_of_keepsCached (h : Run BlockStart (BlockStep reader) ts s)
    (hkeeps : ∀ t ∈ ts, KeepsCached t.before t.action) :
    ∀ t ∈ ts, ShowsActive reader t.before t.action := by
  have hreuses (s : BlockState Pool) (a : BlockAction Tx)
      (hcache : ∀ block ∈ s.cache.blocks, block.OnChain s.chain) : ReusesActive reader s a := by
    cases a with
    | change chain => trivial
    | request poll => exact fun block hblock => hcache block hblock.1
  have hsteps := h.forall_transition_of
    (I := fun s => ∀ block ∈ s.cache.blocks, block.OnChain s.chain)
    (P := fun t => KeepsCached t.before t.action) ?_ ?_ hkeeps
  · intro t ht
    obtain ⟨hcache, hstep, -⟩ := hsteps t ht
    exact (showsActive_iff hstep).2 (hreuses _ _ hcache)
  · intro s hstart block hblock
    rw [hstart.2] at hblock
    cases hblock
  · intro s a s' hcache hstep hkeep
    have hshows := (showsActive_iff hstep).2 (hreuses s a hcache)
    cases hstep with
    | change chain _ => exact hkeep
    | request poll _ _ =>
      rcases response_cache reader poll s.cache with heq | heq
      · simp only [heq]
        exact hcache
      · simp only [heq]
        exact hshows

/-! ## A chain that changes once -/

instance (chain : Chain) (block : BlockTimelineItem Pool) : Decidable (block.OnChain chain) :=
  inferInstanceAs (Decidable (_ = _))

/-- A node that never fails. -/
def chainNode (chain : Chain) : NodeRpc Unit where
  blockHash height := chain[height]?
  verboseBlock hash := some ⟨hash, chain.idxOf hash, 0, none, none, []⟩

theorem answersFrom_chainNode {chain : Chain} (h : chain.Nodup) :
    (chainNode chain).AnswersFrom chain := by
  intro height hash hhash
  refine ⟨hhash, ?_⟩
  intro block hblock
  obtain ⟨hlt, hget⟩ := List.getElem?_eq_some_iff.1 hhash
  have heq := Option.some.inj hblock
  subst heq
  refine ⟨rfl, ?_⟩
  simp only [← hget]
  exact h.idxOf_getElem height hlt

/-- A request to a node that never fails. -/
def chainPoll (chain : Chain) : BlockPoll Unit :=
  ⟨some (chain.length - 1), fun _ => chainNode chain⟩

/-- The cache after a first request. -/
def firstCache (chain : Chain) : RecentBlocksCache Unit :=
  (recentBlocksResponse noReader (chainPoll chain) ⟨none, []⟩).cache

/-- A request, a change of the chain and a second request. -/
def changeRun (old new : Chain) : List (Transition (BlockState Unit) (BlockAction Unit)) :=
  [⟨⟨old, ⟨none, []⟩⟩, .request (chainPoll old), ⟨old, firstCache old⟩⟩,
    ⟨⟨old, firstCache old⟩, .change new, ⟨new, firstCache old⟩⟩,
    ⟨⟨new, firstCache old⟩, .request (chainPoll new),
      ⟨new, (recentBlocksResponse noReader (chainPoll new) (firstCache old)).cache⟩⟩]

theorem run_changeRun {old new : Chain} (hold : old.Nodup ∧ old ≠ [])
    (hnew : new.Nodup ∧ new ≠ []) :
    Run BlockStart (BlockStep noReader) (changeRun old new)
      ⟨new, (recentBlocksResponse noReader (chainPoll new) (firstCache old)).cache⟩ := by
  have hstart : Run BlockStart (BlockStep noReader) [] (⟨old, ⟨none, []⟩⟩ : BlockState Unit) :=
    .start ⟨hold.2, rfl⟩
  have hfirst := hstart.next (BlockStep.request _ (chainPoll old) (.inr rfl)
    fun _ => answersFrom_chainNode hold.1)
  have hchange := hfirst.next (BlockStep.change _ new hnew.2)
  exact hchange.next (BlockStep.request _ (chainPoll new) (.inr rfl)
    fun _ => answersFrom_chainNode hnew.1)

/-- The chain is extended by one block. -/
theorem showsActive_iff_extended :
    Run BlockStart (BlockStep noReader) (changeRun [['g'], ['a']] [['g'], ['a'], ['b']])
        ⟨[['g'], ['a'], ['b']], (recentBlocksResponse noReader
          (chainPoll [['g'], ['a'], ['b']]) (firstCache [['g'], ['a']])).cache⟩ ∧
      ((∀ t ∈ changeRun [['g'], ['a']] [['g'], ['a'], ['b']],
          ShowsActive noReader t.before t.action) ↔
        ∀ t ∈ changeRun [['g'], ['a']] [['g'], ['a'], ['b']],
          ReusesActive noReader t.before t.action) := by
  have hold : [['g'], ['a']].Nodup ∧ [['g'], ['a']] ≠ [] := by decide
  have hnew : [['g'], ['a'], ['b']].Nodup ∧ [['g'], ['a'], ['b']] ≠ [] := by decide
  have hrun := run_changeRun hold hnew
  exact ⟨hrun, showsActive_iff_reusesActive hrun⟩

/-- After a reorganisation to a longer branch, a block of the old branch is shown together
with one of the new branch. -/
theorem showsActive_fails_reorg :
    ¬ ∀ (ts : List (Transition (BlockState Unit) (BlockAction Unit))) (s : BlockState Unit),
      Run BlockStart (BlockStep noReader) ts s →
        ∀ t ∈ ts, ShowsActive noReader t.before t.action := by
  intro h
  have hold : [['g'], ['a']].Nodup ∧ [['g'], ['a']] ≠ [] := by decide
  have hnew : [['g'], ['b'], ['c']].Nodup ∧ [['g'], ['b'], ['c']] ≠ [] := by decide
  have hrun := run_changeRun hold hnew
  have hlast := h _ _ hrun _ (List.mem_cons_of_mem _ (List.mem_cons_of_mem _ List.mem_cons_self))
  have hshown : ∃ block ∈ (recentBlocksResponse noReader (chainPoll [['g'], ['b'], ['c']])
      (firstCache [['g'], ['a']])).response, ¬ block.OnChain [['g'], ['b'], ['c']] := by
    decide +kernel
  obtain ⟨block, hblock, hoff⟩ := hshown
  exact hoff (hlast block hblock)

end CanaryMining
