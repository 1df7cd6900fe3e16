import CanaryMining.Lib.Loop
import CanaryMining.Manager.State

/-!
# Variable difficulty

Once a minute the manager goes through its vardiff controllers, in the order of a hash map,
and lets each one look at the channel it belongs to.  Where the controller proposes another
hashrate and the channel accepts it, the connection is told the channel's new target.

## Main definitions

* `VardiffLib` — what is taken from the vardiff and channel libraries for this.
* `runVardiffOnChannel`, `runVardiffOnStandardChannel`, `runVardiffOnExtendedChannel`.
* `runVardiff` — one cycle.
* `ChannelView`, `retargeted` — what the state says of one key, and what a cycle makes of it.

**Main result:** `runVardiff_spec`.
-/

namespace CanaryMining

variable {F : Type} {X : ChannelsSv2 F}

/-- What the vardiff cycle takes from the libraries. -/
structure VardiffLib (X : ChannelsSv2 F) where
  getNominalHashrate : ∀ {kind}, X.Channel kind → F
  getSharesPerMinute : ∀ {kind}, X.Channel kind → F
  /-- `Vardiff::try_vardiff`. -/
  tryVardiff : X.Vardiff → (hashrate : F) → X.Target → (sharesPerMinute : F) →
    Except Text (Option F) × X.Vardiff

variable (V : VardiffLib X)

/-- `run_vardiff_on_standard_channel` and `run_vardiff_on_extended_channel`, which differ in
their log messages only.  An error of the controller or the channel is logged. -/
def runVardiffOnChannel {kind : MinerChannelKind} (d : DownstreamId) (id : ChannelId)
    (channel : X.Channel kind) (vardiff : X.Vardiff) :
    X.Channel kind × X.Vardiff × List (RouteMessageTo X) :=
  let tried := V.tryVardiff vardiff (V.getNominalHashrate channel) (X.target channel)
    (V.getSharesPerMinute channel)
  match tried.1 with
  | .error _ => (channel, tried.2, [])
  | .ok none => (channel, tried.2, [])
  | .ok (some newHashrate) =>
    let updated := X.updateChannel channel newHashrate none
    match updated.1 with
    | .ok () => (updated.2, tried.2, [.downstream d (.setTarget id (X.target updated.2))])
    | .error _ => (updated.2, tried.2, [])

/-- `run_vardiff_on_standard_channel`. -/
def runVardiffOnStandardChannel (d : DownstreamId) (id : ChannelId)
    (channel : X.Channel .standard) (vardiff : X.Vardiff) :
    X.Channel .standard × X.Vardiff × List (RouteMessageTo X) :=
  runVardiffOnChannel V d id channel vardiff

/-- `run_vardiff_on_extended_channel`. -/
def runVardiffOnExtendedChannel (d : DownstreamId) (id : ChannelId)
    (channel : X.Channel .extended) (vardiff : X.Vardiff) :
    X.Channel .extended × X.Vardiff × List (RouteMessageTo X) :=
  runVardiffOnChannel V d id channel vardiff

/-- The channel of one kind that belongs to a controller, if there is one. -/
def vardiffOnKind (kind : MinerChannelKind)
    (run : DownstreamId → ChannelId → X.Channel kind → X.Vardiff →
      X.Channel kind × X.Vardiff × List (RouteMessageTo X))
    (key : DownstreamId × ChannelId) (s : ManagerState X) :
    ManagerState X × List (RouteMessageTo X) :=
  match s.channel? key.1 kind key.2, s.data.vardiff.lookup key with
  | some channel, some vardiff =>
    let r := run key.1 key.2 channel vardiff
    ((s.insertChannel key.1 kind key.2 r.1).insertVardiff key.1 key.2 r.2.1, r.2.2)
  | _, _ => (s, [])

/-- One turn of the cycle. -/
def vardiffTurn : DownstreamId × ChannelId → ManagerState X →
    ManagerState X × List (RouteMessageTo X) :=
  andThen (vardiffOnKind .standard (runVardiffOnStandardChannel V))
    (vardiffOnKind .extended (runVardiffOnExtendedChannel V))

/-- `run_vardiff`, up to the messages it then forwards. -/
def runVardiff (order : IterOrder (DownstreamId × ChannelId)) (s : ManagerState X) :
    ManagerState X × List (RouteMessageTo X) :=
  loop (vardiffTurn V) (order.order s.data.vardiff.keys) s

/-! ## What a cycle does to a key -/

/-- What the state says of one key: its channels and its controller. -/
structure ChannelView (X : ChannelsSv2 F) where
  channel? : (kind : MinerChannelKind) → Option (X.Channel kind)
  vardiff? : Option X.Vardiff

/-- The view of a key. -/
def ManagerState.view (s : ManagerState X) (key : DownstreamId × ChannelId) : ChannelView X :=
  ⟨fun kind => s.channel? key.1 kind key.2, s.data.vardiff.lookup key⟩

/-- The view after the channel of a kind was looked at. -/
def retargetedKind (kind : MinerChannelKind) (key : DownstreamId × ChannelId)
    (view : ChannelView X) : ChannelView X × List (RouteMessageTo X) :=
  match view.channel? kind, view.vardiff? with
  | some channel, some vardiff =>
    let r := runVardiffOnChannel V key.1 key.2 channel vardiff
    (⟨Function.update view.channel? kind (some r.1), some r.2.1⟩, r.2.2)
  | _, _ => (view, [])

/-- The view after a cycle, with the messages about it. -/
def retargeted : DownstreamId × ChannelId → ChannelView X →
    ChannelView X × List (RouteMessageTo X) :=
  andThen (retargetedKind V .standard) (retargetedKind V .extended)

variable {V} {s : ManagerState X} {key key' : DownstreamId × ChannelId}

theorem view_insert (kind : MinerChannelKind) (hd : (s.downstream? key.1).isSome)
    (c : X.Channel kind) (v : X.Vardiff) :
    ((s.insertChannel key.1 kind key.2 c).insertVardiff key.1 key.2 v).view key =
      ⟨Function.update (s.view key).channel? kind (some c), some v⟩ := by
  simp only [ManagerState.view, ManagerState.channel?_insertVardiff, ChannelView.mk.injEq]
  refine ⟨funext fun kind' => ?_, ?_⟩
  · by_cases hkind : kind' = kind
    · subst hkind
      rw [ManagerState.channel?_insertChannel _ _ _ _ _ _ _ hd, if_pos ⟨rfl, rfl⟩,
        Function.update_self]
    · rw [ManagerState.channel?_insertChannel_ne _ _ _ _ _ _ _ _ hkind,
        Function.update_of_ne hkind]
  · simp [ManagerState.insertVardiff]

theorem view_insert_ne (kind : MinerChannelKind) (hd : (s.downstream? key.1).isSome)
    (c : X.Channel kind) (v : X.Vardiff) (hne : key' ≠ key) :
    ((s.insertChannel key.1 kind key.2 c).insertVardiff key.1 key.2 v).view key' =
      s.view key' := by
  have hkey : ¬ (key'.1 = key.1 ∧ key'.2 = key.2) := fun h => hne (Prod.ext h.1 h.2)
  simp only [ManagerState.view, ManagerState.channel?_insertVardiff, ChannelView.mk.injEq]
  refine ⟨funext fun kind' => ?_, ?_⟩
  · by_cases hkind : kind' = kind
    · subst hkind
      rw [ManagerState.channel?_insertChannel _ _ _ _ _ _ _ hd, if_neg hkey]
    · rw [ManagerState.channel?_insertChannel_ne _ _ _ _ _ _ _ _ hkind]
  · simp only [ManagerState.insertVardiff, AssocMap.lookup_insert_if]
    exact if_neg hne

theorem vardiffOnKind_of_none {kind : MinerChannelKind}
    (h : s.channel? key.1 kind key.2 = none ∨ s.data.vardiff.lookup key = none) :
    vardiffOnKind kind (runVardiffOnChannel V) key s = (s, []) := by
  unfold vardiffOnKind
  split
  · rename_i hc hv
    rw [hc, hv] at h
    simp at h
  · rfl

theorem retargetedKind_of_none {kind : MinerChannelKind} {view : ChannelView X}
    (h : view.channel? kind = none ∨ view.vardiff? = none) :
    retargetedKind V kind key view = (view, []) := by
  unfold retargetedKind
  split
  · rename_i hc hv
    rw [hc, hv] at h
    simp at h
  · rfl

/-- A turn for one kind changes the view of its key. -/
theorem byKey_vardiffOnKind (kind : MinerChannelKind) :
    ByKey ManagerState.view (vardiffOnKind kind (runVardiffOnChannel V))
      (retargetedKind V kind) := by
  have hturn : ∀ (key : DownstreamId × ChannelId) (s : ManagerState X),
      vardiffOnKind kind (runVardiffOnChannel V) key s = (s, []) ∧
        retargetedKind V kind key (s.view key) = (s.view key, []) ∨
      ∃ c v, (s.downstream? key.1).isSome ∧
        vardiffOnKind kind (runVardiffOnChannel V) key s =
          ((s.insertChannel key.1 kind key.2
              (runVardiffOnChannel V key.1 key.2 c v).1).insertVardiff key.1 key.2
                (runVardiffOnChannel V key.1 key.2 c v).2.1,
            (runVardiffOnChannel V key.1 key.2 c v).2.2) ∧
        retargetedKind V kind key (s.view key) =
          (⟨Function.update (s.view key).channel? kind
            (some (runVardiffOnChannel V key.1 key.2 c v).1),
            some (runVardiffOnChannel V key.1 key.2 c v).2.1⟩,
            (runVardiffOnChannel V key.1 key.2 c v).2.2) := by
    intro key s
    cases hc : s.channel? key.1 kind key.2 with
    | none => exact .inl ⟨vardiffOnKind_of_none (.inl hc), retargetedKind_of_none (.inl hc)⟩
    | some c =>
      cases hv : s.data.vardiff.lookup key with
      | none => exact .inl ⟨vardiffOnKind_of_none (.inr hv), retargetedKind_of_none (.inr hv)⟩
      | some v =>
        refine .inr ⟨c, v, s.isSome_downstream?_of_channel? key.1 kind key.2 (by rw [hc]; rfl),
          ?_, ?_⟩
        · simp only [vardiffOnKind, hc, hv]
        · simp only [retargetedKind, ManagerState.view, hc, hv]
  refine ⟨fun key s => ?_, fun key key' s hne => ?_, fun key s => ?_⟩
  · rcases hturn key s with ⟨hs, hview⟩ | ⟨c, v, hd, hs, hview⟩
    · rw [hs, hview]
    · rw [hs, hview]
      exact view_insert kind hd _ _
  · rcases hturn key s with ⟨hs, -⟩ | ⟨c, v, hd, hs, -⟩
    · rw [hs]
    · rw [hs]
      exact view_insert_ne kind hd _ _ hne
  · rcases hturn key s with ⟨hs, hview⟩ | ⟨c, v, -, hs, hview⟩
    · rw [hs, hview]
    · rw [hs, hview]

theorem byKey_vardiffTurn : ByKey ManagerState.view (vardiffTurn V) (retargeted V) :=
  (byKey_vardiffOnKind .standard).andThen (byKey_vardiffOnKind .extended)

/-- A key without a controller stays as it is. -/
theorem retargeted_of_vardiff?_eq_none {view : ChannelView X} (h : view.vardiff? = none) :
    retargeted V key view = (view, []) := by
  have hkind : ∀ kind, retargetedKind V kind key view = (view, []) :=
    fun kind => retargetedKind_of_none (.inr h)
  rw [retargeted, andThen, hkind, hkind]
  rfl

/-! ## What a cycle does -/

/-- What a cycle leaves alone: the registry, what came from the template provider, and of
each connection everything but its channels. -/
structure SameButChannels (s s' : ManagerState X) : Prop where
  minerStats : s'.minerStats = s.minerStats
  lastNewPrevHash : s'.data.lastNewPrevHash = s.data.lastNewPrevHash
  lastFutureTemplate : s'.data.lastFutureTemplate = s.data.lastFutureTemplate
  coinbaseOutputs : s'.data.coinbaseOutputs = s.data.coinbaseOutputs
  downstreamIdFactory : s'.data.downstreamIdFactory = s.data.downstreamIdFactory
  downstream : ∀ d, (s'.downstream? d).map (fun downstream => (downstream.requiresStandardJobs,
      downstream.requiresCustomWork, downstream.downstreamData.groupChannel,
      downstream.downstreamData.channelIdFactory, downstream.downstreamData.payoutMode)) =
    (s.downstream? d).map fun downstream => (downstream.requiresStandardJobs,
      downstream.requiresCustomWork, downstream.downstreamData.groupChannel,
      downstream.downstreamData.channelIdFactory, downstream.downstreamData.payoutMode)

namespace SameButChannels

theorem refl (s : ManagerState X) : SameButChannels s s := ⟨rfl, rfl, rfl, rfl, rfl, fun _ => rfl⟩

theorem trans {s s' s'' : ManagerState X} (h : SameButChannels s s')
    (h' : SameButChannels s' s'') : SameButChannels s s'' :=
  ⟨h'.1.trans h.1, h'.2.trans h.2, h'.3.trans h.3, h'.4.trans h.4, h'.5.trans h.5,
    fun d => (h'.6 d).trans (h.6 d)⟩

theorem insertChannel (s : ManagerState X) (d : DownstreamId) (kind : MinerChannelKind)
    (id : ChannelId) (c : X.Channel kind) : SameButChannels s (s.insertChannel d kind id c) := by
  refine ⟨rfl, rfl, rfl, rfl, rfl, fun d' => ?_⟩
  rw [ManagerState.insertChannel, ManagerState.downstream?_modifyDownstream, Option.map_map]
  congr 1
  funext downstream
  by_cases hd : d' = d
  · cases kind <;> simp [hd, DownstreamData.setChannels]
  · simp [hd]

end SameButChannels

theorem sameButChannels_vardiffOnKind (kind : MinerChannelKind)
    (key : DownstreamId × ChannelId) (s : ManagerState X) :
    SameButChannels s (vardiffOnKind kind (runVardiffOnChannel V) key s).1 := by
  unfold vardiffOnKind
  split
  · exact .trans (.insertChannel s _ _ _ _) ⟨rfl, rfl, rfl, rfl, rfl, fun _ => rfl⟩
  · exact .refl s

theorem sameButChannels_runVardiff (order : IterOrder (DownstreamId × ChannelId))
    (s : ManagerState X) : SameButChannels s (runVardiff V order s).1 :=
  loop_invariant (P := SameButChannels s) (.refl s) fun key _ h =>
    (h.trans (sameButChannels_vardiffOnKind .standard key _)).trans
      (sameButChannels_vardiffOnKind .extended key _)

/-- Whatever order the controllers are visited in, a cycle changes each key once. -/
theorem view_runVardiff (order : IterOrder (DownstreamId × ChannelId)) (s : ManagerState X)
    (key : DownstreamId × ChannelId) :
    (runVardiff V order s).1.view key = (retargeted V key (s.view key)).1 := by
  have hkeys : (order.order s.data.vardiff.keys).Nodup :=
    (order.perm _).nodup_iff.2 s.data.vardiff.keys_nodup
  cases hv : s.data.vardiff.lookup key with
  | none =>
    have hmem : key ∉ order.order s.data.vardiff.keys := by
      rw [IterOrder.mem_order]
      exact AList.lookup_eq_none.1 hv
    rw [runVardiff, byKey_vardiffTurn.view_loop_of_notMem hmem,
      retargeted_of_vardiff?_eq_none hv]
  | some v =>
    have hmem : key ∈ order.order s.data.vardiff.keys := by
      rw [IterOrder.mem_order]
      exact AList.mem_keys.1 (AList.lookup_isSome.1 (by rw [hv]; rfl))
    rw [runVardiff, byKey_vardiffTurn.view_loop_of_mem hkeys hmem]

/-- A controller's messages announce the target of the channel it leaves. -/
theorem setTarget_of_mem_runVardiffOnChannel {kind : MinerChannelKind} {d : DownstreamId}
    {id : ChannelId} {c : X.Channel kind} {v : X.Vardiff} {msg : RouteMessageTo X}
    (h : msg ∈ (runVardiffOnChannel V d id c v).2.2) :
    msg = .downstream d (.setTarget id (X.target (runVardiffOnChannel V d id c v).1)) := by
  unfold runVardiffOnChannel at h ⊢
  dsimp only at h ⊢
  split at h
  · cases h
  · cases h
  · split at h
    · exact List.mem_singleton.1 h
    · cases h

theorem setTarget_of_mem_retargetedKind {kind : MinerChannelKind} {view : ChannelView X}
    {msg : RouteMessageTo X} (h : msg ∈ (retargetedKind V kind key view).2) :
    ∃ c, msg = .downstream key.1 (.setTarget key.2 (X.target c)) ∧
      (retargetedKind V kind key view).1.channel? kind = some c := by
  unfold retargetedKind at h ⊢
  split at h
  · exact ⟨_, setTarget_of_mem_runVardiffOnChannel h, Function.update_self _ _ _⟩
  · cases h

/-- A turn for one kind leaves the channels of the other. -/
theorem channel?_retargetedKind_ne {kind kind' : MinerChannelKind} {view : ChannelView X}
    (hne : kind' ≠ kind) :
    (retargetedKind V kind key view).1.channel? kind' = view.channel? kind' := by
  unfold retargetedKind
  split
  · exact Function.update_of_ne hne _ _
  · rfl

/-- The messages of a cycle are those of its keys. -/
theorem sent_runVardiff (order : IterOrder (DownstreamId × ChannelId)) (s : ManagerState X) :
    (runVardiff V order s).2 = (order.order s.data.vardiff.keys).flatMap
      fun key => (retargeted V key (s.view key)).2 :=
  byKey_vardiffTurn.sent_loop ((order.perm _).nodup_iff.2 s.data.vardiff.keys_nodup)

/-- Each message announces the target that its channel has after the cycle. -/
theorem setTarget_of_mem_runVardiff {order : IterOrder (DownstreamId × ChannelId)}
    {msg : RouteMessageTo X} (hmsg : msg ∈ (runVardiff V order s).2) :
    ∃ d id kind c, msg = .downstream d (.setTarget id (X.target c)) ∧
      (runVardiff V order s).1.channel? d kind id = some c := by
  rw [sent_runVardiff] at hmsg
  obtain ⟨key, -, hmem⟩ := List.mem_flatMap.1 hmsg
  have hafter : ∀ kind, (runVardiff V order s).1.channel? key.1 kind key.2 =
      (retargeted V key (s.view key)).1.channel? kind := by
    intro kind
    rw [← view_runVardiff]
    rfl
  rcases List.mem_append.1 hmem with hmem | hmem
  · obtain ⟨c, hset, hc⟩ := setTarget_of_mem_retargetedKind hmem
    refine ⟨key.1, key.2, .standard, c, hset, ?_⟩
    rw [hafter, retargeted, andThen, channel?_retargetedKind_ne (by decide), hc]
  · obtain ⟨c, hset, hc⟩ := setTarget_of_mem_retargetedKind hmem
    exact ⟨key.1, key.2, .extended, c, hset, (hafter .extended).trans hc⟩

/-- A cycle opens and closes no channel. -/
theorem isSome_retargetedKind (key : DownstreamId × ChannelId) (kind : MinerChannelKind)
    (view : ChannelView X) :
    (∀ kind', ((retargetedKind V kind key view).1.channel? kind').isSome =
      (view.channel? kind').isSome) ∧
      (retargetedKind V kind key view).1.vardiff?.isSome = view.vardiff?.isSome := by
  unfold retargetedKind
  split
  · rename_i hc hv
    refine ⟨fun kind' => ?_, by rw [hv]; rfl⟩
    dsimp only
    by_cases hkind : kind' = kind
    · subst hkind
      rw [hc, Function.update_self]
      rfl
    · rw [Function.update_of_ne hkind]
  · exact ⟨fun _ => rfl, rfl⟩

theorem isSome_runVardiff (order : IterOrder (DownstreamId × ChannelId)) (s : ManagerState X)
    (d : DownstreamId) (id : ChannelId) :
    (∀ kind, ((runVardiff V order s).1.channel? d kind id).isSome =
      (s.channel? d kind id).isSome) ∧
      ((runVardiff V order s).1.data.vardiff.lookup (d, id)).isSome =
        (s.data.vardiff.lookup (d, id)).isSome := by
  have hview := view_runVardiff (V := V) order s (d, id)
  obtain ⟨hc, hv⟩ := isSome_retargetedKind (V := V) (d, id) .standard (s.view (d, id))
  obtain ⟨hc', hv'⟩ := isSome_retargetedKind (V := V) (d, id) .extended
    (retargetedKind V .standard (d, id) (s.view (d, id))).1
  have hafter : ((runVardiff V order s).1.view (d, id)) =
      (retargetedKind V .extended (d, id)
        (retargetedKind V .standard (d, id) (s.view (d, id))).1).1 := hview
  refine ⟨fun kind => ?_, ?_⟩
  · have hkind := (hc' kind).trans (hc kind)
    rw [← hafter] at hkind
    exact hkind
  · have hvardiff := hv'.trans hv
    rw [← hafter] at hvardiff
    exact hvardiff

end CanaryMining
