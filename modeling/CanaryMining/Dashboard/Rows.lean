import CanaryMining.MinerStats
import CanaryMining.MinerIdentity

/-!
# The miner rows of the dashboard

Every status request asks the monitoring server for its clients and the channels
of each, and turns what it answers into rows.  The rows seen so far are kept by
worker id: a sample marks those it does not contain as disconnected, a request
the monitoring server does not answer leaves them as they are.

## Main definitions

* `MinerRow` — a row.
* `workerIdOf` — the worker an identity is shown as.
* `fetchCurrentMiners` — the rows of a sample.
* `mergeSeenMiners`, `sortedMinerRows` — the rows seen so far.
* `mem_connectedMiners_sampled` — which of them are connected.
-/

namespace CanaryMining

variable {Addr F : Type} (lib : AddressLib Addr)

/-- `MinerRow`. -/
structure MinerRow (F : Type) where
  id : Text
  clientId : DownstreamId
  channelId : ChannelId
  channelKind : Text
  connected : Bool
  label : Text
  payoutAddress : Text
  userIdentity : Text
  nominalHashrate : F
  sharesAccepted : UInt64
  bestDiff : F
  blocksFound : UInt64
  targetHex : Option Text
  poolDiff : Option F
  lastSeenAt : Option UInt64

/-! ## Worker ids -/

/-- The label and the address an identity is shown with. -/
def displayIdentity (network : Network) (userIdentity : Text) : Text × Text :=
  match parseMinerIdentity lib userIdentity network with
  | .ok identity => (identity.label, identity.payoutAddress)
  | .error _ => ("invalid identity".toList, "-".toList)

/-- `miner_row_id`. -/
def minerRowId (network : Network) (userIdentity label payoutAddress : Text) : Text :=
  if payoutAddress ≠ "-".toList then minerId network payoutAddress label
  else if userIdentity.trim ≠ [] then userIdentity
  else payoutAddress ++ ':' :: label

/-- The id of the worker an identity is shown as. -/
def workerIdOf (network : Network) (userIdentity : Text) : Text :=
  minerRowId network userIdentity (displayIdentity lib network userIdentity).1
    (displayIdentity lib network userIdentity).2

/-! ## A sample of the monitoring server -/

/-- A channel as the monitoring server describes it; each member may be missing. -/
structure MonitoredChannel (F : Type) where
  userIdentity : Option Text
  channelId : Option UInt64
  nominalHashrate : Option F
  sharesAccepted : Option UInt64
  bestDiff : Option F
  blocksFound : Option UInt64
  targetHex : Option Text

/-- The channels of a client. -/
structure MonitoredChannels (F : Type) where
  standardChannels : Option (List (MonitoredChannel F))
  extendedChannels : Option (List (MonitoredChannel F))

/-- An item of the list of clients, with the answer to the request for its channels. -/
structure MonitoredClient (F : Type) where
  clientId : Option DownstreamId
  channels : Option (MonitoredChannels F)

section Sample

variable [Double F] (targetHexToDifficulty : Text → Option F)

/-- The row of one channel. -/
def channelRow (network : Network) (clientId : DownstreamId) (channelKind : Text)
    (channel : MonitoredChannel F) : MinerRow F :=
  let userIdentity := channel.userIdentity.getD []
  let display := displayIdentity lib network userIdentity
  { id := minerRowId network userIdentity display.1 display.2
    clientId := clientId
    channelId := (channel.channelId.getD 0).toUInt32
    channelKind := channelKind
    connected := true
    label := display.1
    payoutAddress := display.2
    userIdentity := userIdentity
    nominalHashrate := channel.nominalHashrate.getD Double.zero
    sharesAccepted := channel.sharesAccepted.getD 0
    bestDiff := channel.bestDiff.getD Double.zero
    blocksFound := channel.blocksFound.getD 0
    targetHex := channel.targetHex
    poolDiff := channel.targetHex.bind targetHexToDifficulty
    lastSeenAt := none }

/-- `append_channel_rows`. -/
def appendChannelRows (network : Network) (clientId : DownstreamId) (channelKind : Text)
    (channels : Option (List (MonitoredChannel F))) (miners : List (MinerRow F)) :
    List (MinerRow F) :=
  match channels with
  | none => miners
  | some channels =>
    miners ++ channels.map (channelRow lib targetHexToDifficulty network clientId channelKind)

/-- The rows of the clients not asked yet, after the rows so far.  A client without an
id is left out; one whose channels are not answered ends the sample. -/
def fetchClients (network : Network) (miners : List (MinerRow F)) :
    List (MonitoredClient F) → Option (List (MinerRow F))
  | [] => some miners
  | item :: items =>
    match item.clientId with
    | none => fetchClients network miners items
    | some clientId =>
      match item.channels with
      | none => none
      | some channels =>
        let miners := appendChannelRows lib targetHexToDifficulty network clientId
          "standard".toList channels.standardChannels miners
        fetchClients network
          (appendChannelRows lib targetHexToDifficulty network clientId "extended".toList
            channels.extendedChannels miners) items

/-- `fetch_current_miners`, given the items of the answer to the request for the
clients. -/
def fetchCurrentMiners (network : Network) (items : Option (List (MonitoredClient F))) :
    Option (List (MinerRow F)) :=
  items.bind (fetchClients lib targetHexToDifficulty network [])

end Sample

/-! ## The rows seen so far -/

/-- The rows seen so far, by worker id. -/
abbrev SeenMiners (F : Type) := AssocMap Text (MinerRow F)

/-- The row of a miner that a sample contains. -/
def MinerRow.sampled (miner : MinerRow F) (now : UInt64) : MinerRow F :=
  { miner with lastSeenAt := some now }

/-- The row of a miner that a sample does not contain. -/
def MinerRow.missed [Double F] (miner : MinerRow F) : MinerRow F :=
  { miner with connected := false, nominalHashrate := Double.zero }

/-- `merge_seen_miners`. -/
def mergeSeenMiners [Double F] (seenMiners : SeenMiners F)
    (currentMiners : Option (List (MinerRow F))) (now : UInt64) : SeenMiners F :=
  match currentMiners with
  | none => seenMiners
  | some currentMiners =>
    currentMiners.foldl (fun seen miner => seen.insert miner.id (miner.sampled now))
      (seenMiners.mapVals fun _ miner => miner.missed)

/-- The order of the rows: connected ones first, then by label and address. -/
def compareMinerRows (left right : MinerRow F) : Ordering :=
  (compare right.connected left.connected).then <| (compare left.label right.label).then <|
    compare left.payoutAddress right.payoutAddress

/-- `sorted_miner_rows`. -/
def sortedMinerRows (miners : List (MinerRow F)) : List (MinerRow F) :=
  miners.mergeSort fun left right => (compareMinerRows left right).isLE

/-- The rows `fetch_connected_miners` returns. -/
def connectedMiners (seenMiners : SeenMiners F) (order : IterOrder (MinerRow F)) :
    List (MinerRow F) :=
  sortedMinerRows (order.order seenMiners.values)

/-- Every row seen after a sample was seen before, or is one of the sample. -/
theorem userIdentity_of_mergeSeenMiners [Double F] {seen : SeenMiners F}
    {current : Option (List (MinerRow F))} {now : UInt64} {P : Text → Prop}
    (hseen : ∀ id row, seen.lookup id = some row → P row.userIdentity)
    (hcurrent : ∀ rows ∈ current, ∀ row ∈ rows, P row.userIdentity) {id : Text} {row : MinerRow F}
    (h : (mergeSeenMiners seen current now).lookup id = some row) : P row.userIdentity := by
  cases current with
  | none => exact hseen id row h
  | some rows =>
    have hmissed : ∀ id row, (seen.mapVals fun _ miner => miner.missed).lookup id = some row →
        P row.userIdentity := by
      intro id row hrow
      rw [AssocMap.lookup_mapVals, Option.map_eq_some_iff] at hrow
      obtain ⟨old, hold, rfl⟩ := hrow
      exact hseen id old hold
    exact AssocMap.forall_foldl_insert MinerRow.id (·.sampled now) hmissed (hcurrent rows rfl)
      id row h

theorem mem_connectedMiners {seen : SeenMiners F} {order : IterOrder (MinerRow F)}
    {row : MinerRow F} :
    row ∈ connectedMiners seen order ↔ ∃ id, seen.lookup id = some row := by
  simp only [connectedMiners, sortedMinerRows, List.mem_mergeSort, IterOrder.mem_order,
    AssocMap.mem_values]

/-! ## The rows that are connected -/

section Connected

variable [Double F] {lib : AddressLib Addr} {targetHexToDifficulty : Text → Option F}
  {network : Network} {rows : List (MinerRow F)}

theorem connected_appendChannelRows {clientId : DownstreamId} {channelKind : Text}
    {channels : Option (List (MonitoredChannel F))} (h : ∀ row ∈ rows, row.connected = true) :
    ∀ row ∈ appendChannelRows lib targetHexToDifficulty network clientId channelKind channels rows,
      row.connected = true := by
  intro row hrow
  cases channels with
  | none => exact h row hrow
  | some channels =>
    rw [appendChannelRows, List.mem_append, List.mem_map] at hrow
    rcases hrow with hold | ⟨channel, -, rfl⟩
    · exact h row hold
    · rfl

/-- Every row of a sample is connected. -/
theorem connected_fetchClients {miners : List (MinerRow F)} {items : List (MonitoredClient F)}
    (hminers : ∀ row ∈ miners, row.connected = true)
    (h : fetchClients lib targetHexToDifficulty network miners items = some rows) :
    ∀ row ∈ rows, row.connected = true := by
  induction items generalizing miners with
  | nil =>
    cases h
    exact hminers
  | cons item items ih =>
    rw [fetchClients] at h
    split at h
    · exact ih hminers h
    · split at h
      · cases h
      · exact ih (connected_appendChannelRows (connected_appendChannelRows hminers)) h

/-- **The connected rows** after a sample are, of each id, the last row of the sample. -/
theorem mem_connectedMiners_sampled {items : Option (List (MonitoredClient F))}
    (hsample : fetchCurrentMiners lib targetHexToDifficulty network items = some rows)
    {seen : SeenMiners F} {now : UInt64} {order : IterOrder (MinerRow F)} {row : MinerRow F} :
    row ∈ connectedMiners (mergeSeenMiners seen (some rows) now) order ∧ row.connected = true ↔
      ∃ id current, (rows.filter fun row => row.id = id).getLast? = some current ∧
        row = current.sampled now := by
  obtain ⟨clients, -, hclients⟩ := Option.bind_eq_some_iff.1 hsample
  have hconnected := connected_fetchClients (fun _ hrow => absurd hrow List.not_mem_nil) hclients
  have hlookup : ∀ id, (mergeSeenMiners seen (some rows) now).lookup id =
      ((rows.filter fun row => row.id = id).getLast?.map (·.sampled now)).or
        ((seen.lookup id).map MinerRow.missed) := by
    intro id
    have hmissed := AssocMap.lookup_mapVals (fun _ (miner : MinerRow F) => miner.missed) seen id
    rw [mergeSeenMiners, AssocMap.lookup_foldl_insert MinerRow.id (·.sampled now), hmissed]
  rw [mem_connectedMiners]
  constructor
  · rintro ⟨⟨id, hid⟩, hrow⟩
    rw [hlookup, Option.or_eq_some_iff] at hid
    rcases hid with hsampled | ⟨-, hmissed⟩
    · obtain ⟨current, hcurrent, heq⟩ := Option.map_eq_some_iff.1 hsampled
      exact ⟨id, current, hcurrent, heq.symm⟩
    · -- A row the sample does not contain was marked as disconnected.
      obtain ⟨old, -, heq⟩ := Option.map_eq_some_iff.1 hmissed
      rw [← heq] at hrow
      cases hrow
  · rintro ⟨id, current, hcurrent, rfl⟩
    have hmem : current ∈ rows := List.mem_of_mem_filter (List.mem_of_getLast? hcurrent)
    refine ⟨⟨id, ?_⟩, hconnected current hmem⟩
    rw [hlookup, hcurrent]
    rfl

end Connected

end CanaryMining
