import CanaryMining.Blocks.Timeline

/-!
# The window of recent blocks

As long as the chain does not get shorter, a request shows a run of consecutive heights
that starts where the window of the newest blocks starts, however many fetches fail.

## Main definitions

* `RecentBlocksCache.Windowed` — the cache holds the first heights of some window.
* `WindowAnswer` — what a request shows and leaves in the cache.
-/

namespace CanaryMining

variable {Tx Pool : Type}

/-- All heights of the window of a chain height. -/
def recentWindow (chainHeight : ℕ) : List ℕ :=
  List.range' (firstRecentBlockHeight chainHeight) (min recentBlockLimit (chainHeight + 1))

/-- The first heights of the window of a chain height, at least one of them. -/
def StartsWindow (chainHeight : ℕ) (l : List ℕ) : Prop :=
  ∃ n, 0 < n ∧ firstRecentBlockHeight chainHeight + n ≤ chainHeight + 1 ∧
    l = List.range' (firstRecentBlockHeight chainHeight) n

/-- What a request for a chain height shows and leaves in the cache. -/
structure WindowAnswer (reader : CoinbaseReader Tx Pool) (poll : BlockPoll Tx)
    (cache : RecentBlocksCache Pool) (chainHeight : ℕ) (answer : BlockAnswer Pool) : Prop where
  nothing : ObtainsNone reader poll.rpc cache chainHeight →
    answer.response = cache.blocks ∧ answer.cache = cache
  consecutive : ¬ ObtainsNone reader poll.rpc cache chainHeight →
    StartsWindow chainHeight (heights answer.response)
  complete_iff : ¬ ObtainsNone reader poll.rpc cache chainHeight →
    (chainHeight ∈ heights answer.response ↔ heights answer.response = recentWindow chainHeight)
  asked : answer.asked.length ≤ 6
  recorded : ∀ height, answer.cache.chainHeight = some height →
    heights answer.cache.blocks = recentWindow height
  kept : ∀ block ∈ cache.blocks, inRecentWindow chainHeight block = true →
    block ∈ answer.response ∧ block ∈ answer.cache.blocks
  distinct : (heights answer.response).Nodup ∧ (heights answer.cache.blocks).Nodup
  completes : (∀ height ∈ recentWindow chainHeight,
      fetchRecentBlock reader (poll.rpc height) height ≠ none) →
    heights answer.response = recentWindow chainHeight ∧ answer.cache.blocks = answer.response ∧
      answer.cache.chainHeight = some chainHeight

namespace RecentBlocksCache

/-- The cache holds the first heights of the window of a chain height, all of them if it is
marked as complete. -/
structure Windowed (cache : RecentBlocksCache Pool) (top : ℕ) : Prop where
  starts : ∃ n, firstRecentBlockHeight top + n ≤ top + 1 ∧
    heights cache.blocks = List.range' (firstRecentBlockHeight top) n
  complete : ∀ height, cache.chainHeight = some height →
    height = top ∧ heights cache.blocks = recentWindow top

end RecentBlocksCache

/-! ## Sorted blocks -/

section Heights

variable {blocks : List (BlockTimelineItem Pool)} {chainHeight n : ℕ}

theorem window_end (chainHeight : ℕ) :
    firstRecentBlockHeight chainHeight + min recentBlockLimit (chainHeight + 1) =
      chainHeight + 1 := by
  simp only [firstRecentBlockHeight, recentBlockLimit]
  omega

theorem firstRecentBlockHeight_mono {h h' : ℕ} (hle : h ≤ h') :
    firstRecentBlockHeight h ≤ firstRecentBlockHeight h' := by
  simp only [firstRecentBlockHeight, recentBlockLimit]
  omega

/-- Consecutive blocks are in order already. -/
theorem sortByHeight_eq {start : ℕ} (h : heights blocks = List.range' start n) :
    sortByHeight blocks = blocks := by
  apply List.Pairwise.insertionSort_eq
  have hpairwise : (heights blocks).Pairwise (· ≤ ·) := by
    rw [h]
    exact List.pairwise_le_range' 1
  exact List.pairwise_map.1 hpairwise

/-- There are as many blocks as heights. -/
theorem length_of_heights {start : ℕ} (h : heights blocks = List.range' start n) :
    blocks.length = n := by
  simpa [heights] using congrArg List.length h

/-- The start of a window is complete exactly if it is all of it. -/
theorem recentBlocksComplete_iff
    (h : heights blocks = List.range' (firstRecentBlockHeight chainHeight) n)
    (hn : firstRecentBlockHeight chainHeight + n ≤ chainHeight + 1) :
    recentBlocksComplete (some chainHeight) blocks = true ↔
      firstRecentBlockHeight chainHeight + n = chainHeight + 1 := by
  have hfirst := firstRecentBlockHeight_le chainHeight
  have hmem : recentBlocksComplete (some chainHeight) blocks = true ↔
      chainHeight ∈ heights blocks := by
    simp [recentBlocksComplete, heights]
  rw [hmem, h, List.mem_range'_1]
  omega

/-- The part of a range from some number on. -/
theorem filter_le_range' {a b : ℕ} (hab : a ≤ b) (n : ℕ) :
    (List.range' a n).filter (fun k => decide (b ≤ k)) = List.range' b (a + n - b) := by
  induction n with
  | zero =>
    have hzero : a - b = 0 := by omega
    simp [hzero]
  | succ n ih =>
    rw [List.range'_1_concat, List.filter_append, ih]
    by_cases hb : b ≤ a + n
    · have hsucc : a + (n + 1) - b = a + n - b + 1 := by omega
      have hlast : b + (a + n - b) = a + n := by omega
      rw [hsucc, List.range'_1_concat, hlast]
      simp [hb]
    · have hzero : a + (n + 1) - b = 0 ∧ a + n - b = 0 := by omega
      simp [hzero, hb]

end Heights

section Answer

variable {reader : CoinbaseReader Tx Pool} {poll : BlockPoll Tx}
  {cache : RecentBlocksCache Pool} {top chainHeight : ℕ}

/-! ## One request -/

/-- What is kept of a window starts the window of any later chain height. -/
theorem RecentBlocksCache.Windowed.kept_starts (h : cache.Windowed top) (hle : top ≤ chainHeight) :
    ∃ n, heights (keptBlocks cache chainHeight) =
        List.range' (firstRecentBlockHeight chainHeight) n ∧
      firstMissingHeight cache chainHeight = firstRecentBlockHeight chainHeight + n ∧
      firstRecentBlockHeight chainHeight + n ≤ chainHeight + 1 := by
  obtain ⟨n, hn, hheights⟩ := h.starts
  have hmono := firstRecentBlockHeight_mono hle
  have hfirst := firstRecentBlockHeight_le chainHeight
  have hfilter : heights (cache.blocks.filter (inRecentWindow chainHeight)) =
      List.range' (firstRecentBlockHeight chainHeight)
        (firstRecentBlockHeight top + n - firstRecentBlockHeight chainHeight) := by
    rw [← filter_le_range' hmono, ← hheights, heights, heights, List.filter_map]
    congr 1
    apply List.filter_congr
    intro block hblock
    have hheight : block.height ∈ heights cache.blocks := List.mem_map_of_mem hblock
    rw [hheights, List.mem_range'_1] at hheight
    have hlast : block.height ≤ chainHeight := by omega
    simp [inRecentWindow, hlast]
  have hkept : keptBlocks cache chainHeight =
      cache.blocks.filter (inRecentWindow chainHeight) := by
    rw [keptBlocks, sortByHeight_eq hfilter]
  rw [← hkept] at hfilter
  refine ⟨_, hfilter, ?_, by omega⟩
  rw [firstMissingHeight]
  generalize firstRecentBlockHeight top + n - firstRecentBlockHeight chainHeight = m at hfilter ⊢
  cases hlast : (keptBlocks cache chainHeight).getLast? with
  | none =>
    rw [List.getLast?_eq_none_iff] at hlast
    rw [hlast] at hfilter
    have hm : 0 = m := length_of_heights hfilter
    simp [← hm]
  | some block =>
    have hmap : (heights (keptBlocks cache chainHeight)).getLast? =
        some block.height := by rw [heights, List.getLast?_map, hlast, Option.map_some]
    rw [hfilter, List.getLast?_range'] at hmap
    split at hmap
    · cases hmap
    · have hheight := Option.some.inj hmap
      simp only
      omega

/-- The blocks fetched for a later chain height start its window, and they are the kept
ones and what the node adds. -/
theorem RecentBlocksCache.Windowed.fetched_starts (h : cache.Windowed top)
    (hle : top ≤ chainHeight) {rpc : ℕ → NodeRpc Tx} (hfetch : FetchesHeights reader rpc) :
    ∃ n fetched, (fetchRecentBlocks reader rpc cache chainHeight).1 =
        keptBlocks cache chainHeight ++ fetched ∧
      heights (keptBlocks cache chainHeight ++ fetched) =
        List.range' (firstRecentBlockHeight chainHeight) n ∧
      (ObtainsNone reader rpc cache chainHeight ↔ n = 0) ∧
      (firstRecentBlockHeight chainHeight + n = chainHeight + 1 ∨
        firstRecentBlockHeight chainHeight + n < chainHeight + 1 ∧
        fetchRecentBlock reader (rpc (firstRecentBlockHeight chainHeight + n))
          (firstRecentBlockHeight chainHeight + n) = none) ∧
      (fetchRecentBlocks reader rpc cache chainHeight).2.length ≤ 6 := by
  obtain ⟨kept, hkept, hnext, hend⟩ := h.kept_starts hle
  obtain ⟨fetched, heq, -, hfetched, hnone, hstop, hasked⟩ :=
    fetchRecentBlocks_spec hfetch cache chainHeight
  rw [hnext] at hfetched hstop hasked
  have hheights : heights (keptBlocks cache chainHeight ++ fetched) =
      List.range' (firstRecentBlockHeight chainHeight) (kept + fetched.length) := by
    rw [heights, List.map_append, ← heights, ← heights, hkept, hfetched]
    exact List.range'_append_1
  have hzero : keptBlocks cache chainHeight ++ fetched = [] ↔ kept + fetched.length = 0 := by
    rw [← List.length_eq_zero_iff, length_of_heights hheights]
  refine ⟨kept + fetched.length, fetched, ?_, hheights, hnone.trans hzero, ?_, ?_⟩
  · rw [heq, sortByHeight_eq hheights]
  · rw [← Nat.add_assoc]
    rcases hstop with hstop | ⟨hlt, height, hheight, hnone⟩
    · exact .inl hstop
    · exact .inr ⟨hlt, hheight ▸ hnone⟩
  · have hfirst : chainHeight + 1 ≤ firstRecentBlockHeight chainHeight + 6 := by
      simp only [firstRecentBlockHeight, recentBlockLimit]
      omega
    omega

/-- A complete cache has the last block of its window. -/
theorem RecentBlocksCache.Windowed.exists_inRecentWindow (h : cache.Windowed top)
    (hcomplete : cache.chainHeight = some chainHeight) :
    ∃ block ∈ cache.blocks, inRecentWindow chainHeight block = true := by
  obtain ⟨rfl, hwindow⟩ := h.complete chainHeight hcomplete
  have hend := window_end chainHeight
  have hfirst := firstRecentBlockHeight_le chainHeight
  have hlast : chainHeight ∈ heights cache.blocks := by
    rw [hwindow, recentWindow, List.mem_range'_1]
    omega
  obtain ⟨block, hblock, hheight⟩ := List.mem_map.1 hlast
  refine ⟨block, hblock, ?_⟩
  rw [inRecentWindow, hheight]
  simp [hfirst]

/-- The answer where the cache is not of this chain height. -/
theorem recentBlocksResponse_of_ne (reader : CoinbaseReader Tx Pool)
    (hpoll : poll.chainHeight = some chainHeight) (hne : cache.chainHeight ≠ some chainHeight)
    {blocks : List (BlockTimelineItem Pool)} {asked : List ℕ}
    (hfetched : fetchRecentBlocks reader poll.rpc cache chainHeight = (blocks, asked)) :
    recentBlocksResponse reader poll cache =
      if recentBlocksComplete (some chainHeight) blocks = true then
        ⟨blocks, asked, ⟨some chainHeight, blocks⟩⟩
      else if blocks = [] then ⟨cache.blocks, asked, cache⟩
      else ⟨blocks, asked, ⟨none, blocks⟩⟩ := by
  simp only [recentBlocksResponse, hpoll, if_neg hne, hfetched, List.isEmpty_iff]
  by_cases hcomplete : recentBlocksComplete (some chainHeight) blocks = true
  · simp [hcomplete]
  · simp [hcomplete]

/-- **The cases of a request.**  Nothing is had and nothing changes, or the start of the
window is shown and kept, or all of it is shown and the cache is complete. -/
theorem RecentBlocksCache.Windowed.answer_cases (h : cache.Windowed top)
    (hle : top ≤ chainHeight) (hpoll : poll.chainHeight = some chainHeight)
    (hfetch : FetchesHeights reader poll.rpc) {answer : BlockAnswer Pool}
    (hanswer : recentBlocksResponse reader poll cache = answer) :
    answer.asked.length ≤ 6 ∧
      (ObtainsNone reader poll.rpc cache chainHeight ∧ answer.response = cache.blocks ∧
          answer.cache = cache ∨
        ¬ ObtainsNone reader poll.rpc cache chainHeight ∧
        (∀ block ∈ cache.blocks, inRecentWindow chainHeight block = true →
          block ∈ answer.response) ∧
        ((∃ n, 0 < n ∧ firstRecentBlockHeight chainHeight + n < chainHeight + 1 ∧
            fetchRecentBlock reader (poll.rpc (firstRecentBlockHeight chainHeight + n))
              (firstRecentBlockHeight chainHeight + n) = none ∧
            heights answer.response = List.range' (firstRecentBlockHeight chainHeight) n ∧
            answer.cache = ⟨none, answer.response⟩) ∨
          heights answer.response = recentWindow chainHeight ∧
            answer.cache = ⟨some chainHeight, answer.response⟩)) := by
  subst hanswer
  by_cases hsame : cache.chainHeight = some chainHeight
  · obtain ⟨htop, hwindow⟩ := h.complete chainHeight hsame
    obtain ⟨block, hblock, hin⟩ := h.exists_inRecentWindow hsame
    simp only [recentBlocksResponse, if_pos (hsame.trans hpoll.symm)]
    refine ⟨by simp, .inr ⟨?_, fun block hblock _ => hblock, .inr ⟨htop ▸ hwindow, ?_⟩⟩⟩
    · intro hnone
      rw [hnone.1 block hblock] at hin
      cases hin
    · rw [← hsame]
  · obtain ⟨n, fetched, heq, hheights, hnone, hstop, hasked⟩ :=
      h.fetched_starts hle hfetch
    have hanswer := recentBlocksResponse_of_ne reader hpoll hsame (Prod.eta _).symm
    rw [← heq] at hheights
    have hkept : ∀ block ∈ cache.blocks, inRecentWindow chainHeight block = true →
        block ∈ (fetchRecentBlocks reader poll.rpc cache chainHeight).1 := by
      intro block hblock hin
      rw [inRecentWindow, Bool.and_eq_true, decide_eq_true_eq, decide_eq_true_eq] at hin
      rw [heq, List.mem_append]
      exact .inl (mem_keptBlocks.2 ⟨hblock, hin⟩)
    have hcomplete := recentBlocksComplete_iff hheights (by omega)
    have hempty : (fetchRecentBlocks reader poll.rpc cache chainHeight).1 = [] ↔ n = 0 := by
      rw [← List.length_eq_zero_iff, length_of_heights hheights]
    rcases hstop with hstop | ⟨hlt, hfails⟩
    · have hend := window_end chainHeight
      have hfirst := firstRecentBlockHeight_le chainHeight
      have hn : n = min recentBlockLimit (chainHeight + 1) := by omega
      rw [hanswer, if_pos (hcomplete.2 hstop)]
      refine ⟨hasked, .inr ⟨fun hobtain => ?_, hkept, .inr ⟨?_, rfl⟩⟩⟩
      · have hzero := hnone.1 hobtain
        omega
      · rw [hheights, recentWindow, hn]
    · rw [hanswer, if_neg fun htrue => hlt.ne (hcomplete.1 htrue)]
      by_cases hzero : n = 0
      · rw [if_pos (hempty.2 hzero)]
        exact ⟨hasked, .inl ⟨hnone.2 hzero, rfl, rfl⟩⟩
      · rw [if_neg fun hnil => hzero (hempty.1 hnil)]
        refine ⟨hasked, .inr ⟨fun hobtain => hzero (hnone.1 hobtain), hkept, .inl ?_⟩⟩
        exact ⟨n, by omega, hlt, hfails, hheights, rfl⟩

/-- A request leaves a cache that holds the start of the window of its chain height or,
where it had nothing, the cache it met. -/
theorem RecentBlocksCache.Windowed.answer_cache (h : cache.Windowed top)
    (hle : top ≤ chainHeight) (hpoll : poll.chainHeight = some chainHeight)
    (hfetch : FetchesHeights reader poll.rpc) :
    ∃ top', top' ≤ chainHeight ∧
      (recentBlocksResponse reader poll cache).cache.Windowed top' := by
  obtain ⟨-, hcases⟩ := h.answer_cases hle hpoll hfetch rfl
  rcases hcases with ⟨-, -, hcache⟩ | ⟨-, -, ⟨n, -, hlt, -, hheights, hcache⟩ | ⟨hall, hcache⟩⟩
  · refine ⟨top, hle, ?_⟩
    rw [hcache]
    exact h
  · refine ⟨chainHeight, le_rfl, ⟨⟨n, by omega, ?_⟩, ?_⟩⟩
    · rw [hcache]
      exact hheights
    · intro height hheight
      rw [hcache] at hheight
      cases hheight
  · refine ⟨chainHeight, le_rfl, ⟨⟨_, (window_end chainHeight).le, ?_⟩, ?_⟩⟩
    · rw [hcache]
      exact hall
    · intro height hheight
      rw [hcache] at hheight ⊢
      exact ⟨(Option.some.inj hheight).symm, hall⟩

/-- What a request shows, where the cache holds the start of a window. -/
theorem RecentBlocksCache.Windowed.windowAnswer (h : cache.Windowed top)
    (hle : top ≤ chainHeight) (hpoll : poll.chainHeight = some chainHeight)
    (hfetch : FetchesHeights reader poll.rpc) :
    WindowAnswer reader poll cache chainHeight (recentBlocksResponse reader poll cache) := by
  obtain ⟨hasked, hcases⟩ := h.answer_cases hle hpoll hfetch rfl
  have hfirst := firstRecentBlockHeight_le chainHeight
  have hend := window_end chainHeight
  have hfirstMem : firstRecentBlockHeight chainHeight ∈ recentWindow chainHeight := by
    rw [recentWindow, List.mem_range'_1]
    omega
  rcases hcases with ⟨hnone, hresponse, hcache⟩ |
    ⟨hsome, hkept, ⟨n, hpos, hlt, hfails, hheights, hcache⟩ | ⟨hall, hcache⟩⟩
  · have hdistinct : (heights cache.blocks).Nodup := by
      obtain ⟨n, -, hheights⟩ := h.starts
      rw [hheights]
      exact List.nodup_range'
    constructor
    case nothing => exact fun _ => ⟨hresponse, hcache⟩
    case consecutive => exact fun hsome => absurd hnone hsome
    case complete_iff => exact fun hsome => absurd hnone hsome
    case asked => exact hasked
    case recorded =>
      intro height hheight
      rw [hcache] at hheight ⊢
      obtain ⟨htop, hwindow⟩ := h.complete height hheight
      rw [hwindow, htop]
    case kept =>
      intro block hblock hin
      rw [hnone.1 block hblock] at hin
      cases hin
    case distinct => rw [hresponse, hcache]; exact ⟨hdistinct, hdistinct⟩
    case completes => exact fun hfetches => absurd hnone.2 (hfetches _ hfirstMem)
  · have hnotMem : chainHeight ∉ heights (recentBlocksResponse reader poll cache).response := by
      rw [hheights, List.mem_range'_1]
      omega
    have hnodup : (heights (recentBlocksResponse reader poll cache).response).Nodup := by
      rw [hheights]
      exact List.nodup_range'
    constructor
    case nothing => exact fun hnone => absurd hnone hsome
    case consecutive => exact fun _ => ⟨n, hpos, by omega, hheights⟩
    case complete_iff =>
      intro _
      refine ⟨fun hmem => absurd hmem hnotMem, fun hwindow => ?_⟩
      rw [hwindow, recentWindow, List.mem_range'_1]
      omega
    case asked => exact hasked
    case recorded =>
      intro height hheight
      rw [hcache] at hheight
      cases hheight
    case kept =>
      intro block hblock hin
      rw [hcache]
      exact ⟨hkept block hblock hin, hkept block hblock hin⟩
    case distinct => rw [hcache]; exact ⟨hnodup, hnodup⟩
    case completes =>
      intro hfetches
      refine absurd hfails (hfetches _ ?_)
      rw [recentWindow, List.mem_range'_1]
      omega
  · have hmem : chainHeight ∈ heights (recentBlocksResponse reader poll cache).response := by
      rw [hall, recentWindow, List.mem_range'_1]
      omega
    have hnodup : (heights (recentBlocksResponse reader poll cache).response).Nodup := by
      rw [hall]
      exact List.nodup_range'
    constructor
    case nothing => exact fun hnone => absurd hnone hsome
    case consecutive => exact fun _ => ⟨_, by omega, hend.le, hall⟩
    case complete_iff => exact fun _ => ⟨fun _ => hall, fun _ => hmem⟩
    case asked => exact hasked
    case recorded =>
      intro height hheight
      rw [hcache] at hheight ⊢
      rw [← Option.some.inj hheight]
      exact hall
    case kept =>
      intro block hblock hin
      rw [hcache]
      exact ⟨hkept block hblock hin, hkept block hblock hin⟩
    case distinct => rw [hcache]; exact ⟨hnodup, hnodup⟩
    case completes =>
      intro _
      rw [hcache]
      exact ⟨hall, rfl, rfl⟩

end Answer

/-! ## Runs of requests -/

/-- The cache always holds the start of the window of a chain height that was reached. -/
theorem windowed_cacheAfter (reader : CoinbaseReader Tx Pool) {polls : List (BlockPoll Tx)}
    (hsorted : (polls.filterMap (·.chainHeight)).Pairwise (· ≤ ·))
    (hfetch : ∀ poll ∈ polls, FetchesHeights reader poll.rpc) {bound : ℕ}
    (hbound : ∀ height ∈ polls.filterMap (·.chainHeight), height ≤ bound) :
    ∃ top, top ≤ bound ∧ (cacheAfter reader polls).Windowed top := by
  induction polls using List.reverseRecOn generalizing bound with
  | nil => exact ⟨0, Nat.zero_le _, ⟨⟨0, by decide, rfl⟩, fun _ hheight => nomatch hheight⟩⟩
  | append_singleton polls poll ih =>
    rw [List.filterMap_append] at hsorted hbound
    have hfetch' : ∀ p ∈ polls, FetchesHeights reader p.rpc := fun p hp =>
      hfetch p (List.mem_append_left _ hp)
    have hafter : cacheAfter reader (polls ++ [poll]) =
        (recentBlocksResponse reader poll (cacheAfter reader polls)).cache := by
      simp [cacheAfter]
    rw [hafter]
    cases hpoll : poll.chainHeight with
    | none =>
      have hsame : (recentBlocksResponse reader poll (cacheAfter reader polls)).cache =
          cacheAfter reader polls := by
        rw [recentBlocksResponse, hpoll]
        split <;> rfl
      rw [hsame]
      exact ih (List.pairwise_append.1 hsorted).1 hfetch' fun height hheight =>
        hbound height (List.mem_append_left _ hheight)
    | some chainHeight =>
      have hmem : chainHeight ∈ [poll].filterMap (·.chainHeight) := by simp [hpoll]
      obtain ⟨top, htop, hwindowed⟩ := ih (List.pairwise_append.1 hsorted).1 hfetch'
        fun height hheight => (List.pairwise_append.1 hsorted).2.2 height hheight chainHeight hmem
      have hone := hfetch poll (List.mem_append_right _ (List.mem_singleton_self poll))
      obtain ⟨top', htop', hwindowed'⟩ := hwindowed.answer_cache htop hpoll hone
      exact ⟨top', htop'.trans (hbound _ (List.mem_append_right _ hmem)), hwindowed'⟩

/-- **The window of recent blocks is exact.**  As long as the chain heights do not decrease,
whatever fetches fail, a request shows consecutive heights from the start of its window on,
all of them exactly if the last is shown; it loses no block of the window, and without
failures it completes it. -/
theorem recentBlocks_windowAnswer (reader : CoinbaseReader Tx Pool) (polls : List (BlockPoll Tx))
    (poll : BlockPoll Tx) {chainHeight : ℕ} (hpoll : poll.chainHeight = some chainHeight)
    (hsorted : ((polls ++ [poll]).filterMap (·.chainHeight)).Pairwise (· ≤ ·))
    (hfetch : ∀ p ∈ polls ++ [poll], FetchesHeights reader p.rpc) :
    WindowAnswer reader poll (cacheAfter reader polls) chainHeight
      (recentBlocksResponse reader poll (cacheAfter reader polls)) := by
  have hmem : chainHeight ∈ [poll].filterMap (·.chainHeight) := by simp [hpoll]
  rw [List.filterMap_append, List.pairwise_append] at hsorted
  obtain ⟨top, htop, hwindowed⟩ := windowed_cacheAfter reader hsorted.1
    (fun p hp => hfetch p (List.mem_append_left _ hp))
    fun height hheight => hsorted.2.2 height hheight chainHeight hmem
  exact hwindowed.windowAnswer htop hpoll
    (hfetch poll (List.mem_append_right _ (List.mem_singleton_self poll)))

/-- A node whose block hashes spell out the height, or that does not answer. -/
def unaryNode (up : Bool) : NodeRpc Unit where
  blockHash height := if up then some (List.replicate height 'a') else none
  verboseBlock hash := some ⟨hash, hash.length, 0, none, none, []⟩

theorem fetchesHeights_unaryNode (reader : CoinbaseReader Unit Pool) (up : ℕ → Bool) :
    FetchesHeights reader fun height => unaryNode (up height) := by
  intro height block hblock
  cases hup : up height with
  | false => simp [fetchRecentBlock, unaryNode, hup] at hblock
  | true =>
    simp only [fetchRecentBlock, unaryNode, hup, if_true, Option.bind_eq_bind,
      Option.bind_some, Option.pure_def, Option.some.injEq] at hblock
    rw [← hblock]
    exact List.length_replicate

/-- The block of height 5 is not had at first. -/
def failingPoll : BlockPoll Unit := ⟨some 7, fun height => unaryNode (height ≠ 5)⟩

/-- Every block is had. -/
def workingPoll : BlockPoll Unit := ⟨some 8, fun _ => unaryNode true⟩

theorem recentBlocks_windowAnswer_failingPoll :
    workingPoll.chainHeight = some 8 ∧
      (([failingPoll] ++ [workingPoll]).filterMap (·.chainHeight)).Pairwise (· ≤ ·) ∧
      (∀ p ∈ [failingPoll] ++ [workingPoll], FetchesHeights noReader p.rpc) ∧
      WindowAnswer noReader workingPoll (cacheAfter noReader [failingPoll]) 8
        (recentBlocksResponse noReader workingPoll (cacheAfter noReader [failingPoll])) := by
  have hsorted : (([failingPoll] ++ [workingPoll]).filterMap (·.chainHeight)).Pairwise
      (· ≤ ·) := by decide
  have hfetch : ∀ p ∈ [failingPoll] ++ [workingPoll], FetchesHeights noReader p.rpc := by
    intro p hp
    simp only [List.mem_append, List.mem_singleton] at hp
    rcases hp with hp | hp <;> subst hp <;> exact fetchesHeights_unaryNode _ _
  exact ⟨rfl, hsorted, hfetch,
    recentBlocks_windowAnswer noReader [failingPoll] workingPoll rfl hsorted hfetch⟩

/-- The second request goes on where the first one failed. -/
example : heights (recentBlocksResponse noReader workingPoll
      (cacheAfter noReader [failingPoll])).response = [3, 4, 5, 6, 7, 8] ∧
    (recentBlocksResponse noReader workingPoll
      (cacheAfter noReader [failingPoll])).asked = [5, 6, 7, 8] := by
  decide +kernel

end CanaryMining
