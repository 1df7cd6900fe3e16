import CanaryMining.History.Writer
import CanaryMining.Lib.Run

/-!
# The connected flag

A row of the history says whether its miner is connected.  The session map
knows which channels are open, and several channels may belong to one miner,
while the flag is cleared by the first of them that closes.

`connectedMeansOpen_iff_lastClose` says exactly when the flag and the map agree
throughout a run: whenever every close that is applied closes the last session of
its miner.

## Main definitions

* `HistoryAction`, `HistoryStep` — events and deletions, none of which fails.
* `ConnectedMeansOpen` — the flag and the session map agree.
* `ClosesLast` — the close an event makes leaves its miners without a session.
-/

namespace CanaryMining

/-- What happens to the history of a running server. -/
inductive HistoryAction (F : Type)
  | event (event : MinerStatsEvent F) (order : SessionOrder)
  | delete (minerId : Text)

variable {Addr F : Type} [Double F] (lib : AddressLib Addr)

/-- One event or deletion, no statement of which fails.  A channel is opened under
a key that is not open. -/
def HistoryStep (network : Network) (s : HistoryState F) (a : HistoryAction F)
    (s' : HistoryState F) : Prop :=
  match a with
  | .event event order =>
    (∀ d c k u h t, event = .channelOpened d c k u h t → s.sessions.lookup ⟨d, c, k⟩ = none) ∧
      applyEvent lib network order event s = (.ok (), s')
  | .delete minerId =>
    ∃ deleted db, deleteOfflineMiner s.db minerId = (.ok deleted, db) ∧ s' = { s with db := db }

/-- The state after `MinerHistory::open`, on whatever database it found. -/
def HistoryOpened (s : HistoryState F) : Prop :=
  ∃ db : Db F, openHistory db = (.ok (), s.db) ∧ s.sessions = ∅

/-- A row is connected exactly if a session belongs to its miner, and every miner
with a session has a row. -/
structure ConnectedMeansOpen (s : HistoryState F) : Prop where
  connected_iff : ∀ m row, s.db.knownMiners.lookup m = some row →
    (row.connected = 1 ↔ ∃ key, s.sessions.lookup key = some m)
  row_isSome : ∀ key m, s.sessions.lookup key = some m → (s.db.knownMiners.lookup m).isSome

/-- A close leaves no other session to the miners it closes. -/
def ClosesLast (s : HistoryState F) : HistoryAction F → Prop
  | .event (.channelClosed d c k _) _ =>
    ∀ m, s.sessions.lookup ⟨d, c, k⟩ = some m →
      ∀ key, s.sessions.lookup key = some m → key = ⟨d, c, k⟩
  | .event (.downstreamClosed d _) _ =>
    ∀ m, ownsSession s.sessions d m → ∀ key, s.sessions.lookup key = some m → key.isOf d
  | _ => True

theorem connectedMeansOpen_of_opened {s : HistoryState F} (h : HistoryOpened s) :
    ConnectedMeansOpen s := by
  obtain ⟨db, hdb, hs⟩ := h
  refine ⟨fun m row hrow => ?_, fun key m hkey => ?_⟩
  · rw [lookup_of_openHistory hdb, Option.map_eq_some_iff] at hrow
    obtain ⟨row, -, rfl⟩ := hrow
    simp [hs, KnownMinerRow.disconnected]
  · simp [hs] at hkey

/-! ## The steps that close nothing -/

section Steps

variable {lib} {network : Network} {s s' : HistoryState F}

theorem ConnectedMeansOpen.delete {minerId : Text} (h : ConnectedMeansOpen s)
    (hs : HistoryStep lib network s (.delete minerId) s') : ConnectedMeansOpen s' := by
  obtain ⟨deleted, db, hd, rfl⟩ := hs
  obtain ⟨hdel, hrows⟩ := deleteOfflineMiner_eq_ok hd
  refine ⟨fun m row hrow => ?_, fun key m hkey => ?_⟩
  · rw [hrows] at hrow
    split at hrow
    · cases hrow
    · exact h.connected_iff m row hrow
  · rw [hrows]
    split
    · -- The deleted row is disconnected, so no session is mapped to it.
      rename_i hm
      obtain ⟨row, hrow, hc⟩ := hdel.1 hm.1
      have h1 := (h.connected_iff minerId row hrow).2 ⟨key, hm.2 ▸ hkey⟩
      omega
    · exact h.row_isSome key m hkey

/-- An opened channel gives its miner a connected row. -/
theorem ConnectedMeansOpen.opened {d : DownstreamId} {c : ChannelId} {k u : Text} {hash : F}
    {t : UInt64} {order : SessionOrder} (h : ConnectedMeansOpen s)
    (hs : HistoryStep lib network s (.event (.channelOpened d c k u hash t) order) s') :
    ConnectedMeansOpen s' := by
  obtain ⟨hfresh, happ⟩ := hs
  have hfree := hfresh _ _ _ _ _ _ rfl
  obtain ⟨hsess, hrows⟩ := applyEvent_eq_ok lib happ
  cases hp : parseMinerIdentity lib u network with
  | error e =>
    simp only [sessionsAfter, rowAfter, minerIdFromIdentity, hp] at hsess hrows
    refine ⟨fun m row hrow => ?_, fun key m hkey => ?_⟩
    · rw [hrows] at hrow
      rw [hsess]
      exact h.connected_iff m row hrow
    · rw [hsess] at hkey
      rw [hrows]
      exact h.row_isSome key m hkey
  | ok identity =>
    simp only [sessionsAfter, rowAfter, minerIdFromIdentity, hp] at hsess hrows
    -- The key was free, so the sessions of every other miner are as before.
    have hold : ∀ m key, s.sessions.lookup key = some m → s'.sessions.lookup key = some m := by
      intro m key hkey
      have hne : key ≠ ⟨d, c, k⟩ := by
        rintro rfl
        rw [hfree] at hkey
        cases hkey
      rw [hsess, AssocMap.lookup_insert_if, if_neg hne, hkey]
    refine ⟨fun m row hrow => ?_, fun key m hkey => ?_⟩
    · rw [hrows] at hrow
      split at hrow
      · rename_i hm
        cases hrow
        refine ⟨fun _ => ⟨⟨d, c, k⟩, ?_⟩, fun _ => rfl⟩
        rw [hsess, AssocMap.lookup_insert_if, if_pos rfl, hm]
      · rename_i hm
        rw [h.connected_iff m row hrow]
        constructor
        · rintro ⟨key, hkey⟩
          exact ⟨key, hold m key hkey⟩
        · rintro ⟨key, hkey⟩
          rw [hsess, AssocMap.lookup_insert_if] at hkey
          split at hkey
          · exact absurd (Option.some.inj hkey).symm hm
          · exact ⟨key, hkey⟩
    · rw [hrows]
      split
      · rfl
      · rename_i hm
        rw [hsess, AssocMap.lookup_insert_if] at hkey
        split at hkey
        · exact absurd (Option.some.inj hkey).symm hm
        · exact h.row_isSome key m hkey

omit [Double F] in
/-- A step that keeps the session map, the rows' keys and their flags keeps the
agreement. -/
theorem ConnectedMeansOpen.of_sameFlags (h : ConnectedMeansOpen s)
    (hsess : s'.sessions = s.sessions)
    (hrows : ∀ m, (s'.db.knownMiners.lookup m).map (·.connected) =
      (s.db.knownMiners.lookup m).map (·.connected)) : ConnectedMeansOpen s' := by
  refine ⟨fun m row hrow => ?_, fun key m hkey => ?_⟩
  · have hm := hrows m
    rw [hrow, Option.map_some, eq_comm, Option.map_eq_some_iff] at hm
    obtain ⟨row', hrow', hc⟩ := hm
    rw [hsess, ← hc]
    exact h.connected_iff m row' hrow'
  · rw [hsess] at hkey
    have hm := congrArg Option.isSome (hrows m)
    rw [Option.isSome_map, Option.isSome_map] at hm
    rw [hm]
    exact h.row_isSome key m hkey

/-! ## The steps that close sessions -/

/-- Closing the sessions of a set `G` of keys, with the rows of their miners,
keeps the agreement exactly if those miners have no other session. -/
theorem connectedMeansOpen_close_iff (h : ConnectedMeansOpen s) {G : SessionKey → Prop}
    [DecidablePred G] {closedAt : ℤ} {C : Text → Prop} [DecidablePred C]
    (hclosing : ∀ m, C m ↔ ∃ key, s.sessions.lookup key = some m ∧ G key)
    (hsess : ∀ key, s'.sessions.lookup key = if G key then none else s.sessions.lookup key)
    (hrows : ∀ m, s'.db.knownMiners.lookup m =
      if C m then (s.db.knownMiners.lookup m).map (·.closed closedAt)
      else s.db.knownMiners.lookup m) :
    ConnectedMeansOpen s' ↔
      ∀ m, C m → ∀ key, s.sessions.lookup key = some m → G key := by
  constructor
  · -- A session that stays would need its row connected, but the row was closed.
    intro h' m hm key hkey
    by_contra hstay
    obtain ⟨row, hrow⟩ := Option.isSome_iff_exists.1 (h.row_isSome key m hkey)
    have hrow' : s'.db.knownMiners.lookup m = some (row.closed closedAt) := by
      rw [hrows, if_pos hm, hrow, Option.map_some]
    have hkey' : s'.sessions.lookup key = some m := by
      rw [hsess, if_neg hstay, hkey]
    have hconn := (h'.connected_iff m _ hrow').2 ⟨key, hkey'⟩
    simp [KnownMinerRow.closed] at hconn
  · intro hlast
    refine ⟨fun m row hrow => ?_, fun key m hkey => ?_⟩
    · rw [hrows] at hrow
      split at hrow
      · rename_i hm
        rw [Option.map_eq_some_iff] at hrow
        obtain ⟨row, -, rfl⟩ := hrow
        refine ⟨fun hc => by simp [KnownMinerRow.closed] at hc, fun ⟨key, hkey⟩ => ?_⟩
        rw [hsess] at hkey
        split at hkey
        · cases hkey
        · exact absurd (hlast m hm key hkey) ‹_›
      · rename_i hm
        rw [h.connected_iff m row hrow]
        refine ⟨fun ⟨key, hkey⟩ => ⟨key, ?_⟩, fun ⟨key, hkey⟩ => ⟨key, ?_⟩⟩
        · rw [hsess, if_neg fun hg => hm ((hclosing m).2 ⟨key, hkey, hg⟩), hkey]
        · rw [hsess] at hkey
          split at hkey
          · cases hkey
          · exact hkey
    · rw [hsess] at hkey
      split at hkey
      · cases hkey
      · rw [hrows]
        split
        · rw [Option.isSome_map]
          exact h.row_isSome key m hkey
        · exact h.row_isSome key m hkey

/-- **One step.**  From a state in which flag and sessions agree, a step leads to
one in which they agree exactly if what it closes is closed last. -/
theorem connectedMeansOpen_step_iff {a : HistoryAction F} (h : ConnectedMeansOpen s)
    (hs : HistoryStep lib network s a s') : ConnectedMeansOpen s' ↔ ClosesLast s a := by
  cases a with
  | delete minerId => exact iff_of_true (h.delete hs) trivial
  | event event order =>
    cases event with
    | channelOpened d c k u hash t => exact iff_of_true (h.opened hs) trivial
    | channelClosed d c k t =>
      obtain ⟨hsess, hrows⟩ := applyEvent_eq_ok lib hs.2
      simp only [sessionsAfter, rowAfter] at hsess hrows
      refine connectedMeansOpen_close_iff h (G := (· = ⟨d, c, k⟩))
        (C := (s.sessions.lookup ⟨d, c, k⟩ = some ·)) (fun m => ?_) (fun key => ?_) hrows
      · simp
      · rw [hsess, AssocMap.lookup_erase_if]
    | downstreamClosed d t =>
      obtain ⟨hsess, hrows⟩ := applyEvent_eq_ok lib hs.2
      simp only [sessionsAfter, rowAfter] at hsess hrows
      refine connectedMeansOpen_close_iff h (G := (·.isOf d))
        (C := (ownsSession s.sessions d ·)) (fun m => ownsSession_iff) (fun key => ?_) hrows
      rw [hsess, AssocMap.lookup_retain]
      by_cases hk : key.isOf d <;> cases s.sessions.lookup key <;> simp [hk]
    | shareAccepted d c k accepted diff blocks seen =>
      obtain ⟨hsess, hrows⟩ := applyEvent_eq_ok lib hs.2
      refine iff_of_true (h.of_sameFlags hsess fun m => ?_) trivial
      rw [hrows]
      simp only [rowAfter]
      split
      · cases s.db.knownMiners.lookup m <;> rfl
      · rfl
    | shareRejected d c k reason rejected seen =>
      obtain ⟨hsess, hrows⟩ := applyEvent_eq_ok lib hs.2
      refine iff_of_true (h.of_sameFlags hsess fun m => ?_) trivial
      rw [hrows]
      simp only [rowAfter]
      split
      · cases s.db.knownMiners.lookup m <;> rfl
      · rfl
    | blockFound d c k hash blocks foundAt =>
      obtain ⟨hsess, hrows⟩ := applyEvent_eq_ok lib hs.2
      exact iff_of_true (h.of_sameFlags hsess fun m => by rw [hrows]; rfl) trivial

end Steps

/-! ## Whole runs -/

/-- **The connected flag over a run.**  From the opening of the history on, the
flag and the sessions agree after every step exactly if every close that is
applied closes the last session of its miner. -/
theorem connectedMeansOpen_iff_lastClose (network : Network)
    {ts : List (Transition (HistoryState F) (HistoryAction F))} {s : HistoryState F}
    (h : Run HistoryOpened (HistoryStep lib network) ts s) :
    (∀ t ∈ ts, ConnectedMeansOpen t.after) ↔ ∀ t ∈ ts, ClosesLast t.before t.action :=
  Run.forall_good_iff_guard (I := fun _ => True)
    (fun _ h0 => ⟨trivial, connectedMeansOpen_of_opened h0⟩) (fun _ _ _ _ _ => trivial)
    (fun _ _ _ _ hg hs => connectedMeansOpen_step_iff hg hs) h

/-! ## Two sessions of one miner -/

/-- The history of a new data directory, just opened. -/
def newHistory : HistoryState ExactDouble := ⟨(openHistory ⟨∅, []⟩).2, ∅⟩

/-- The history after one more event, on the regression network. -/
def HistoryState.next (s : HistoryState ExactDouble) (event : MinerStatsEvent ExactDouble) :
    HistoryState ExactDouble :=
  (applyEvent tableLib .regtest default event s).2

theorem historyOpened_new : HistoryOpened newHistory := ⟨⟨∅, []⟩, rfl, rfl⟩

theorem historyStep_next (s : HistoryState ExactDouble) (event : MinerStatsEvent ExactDouble)
    (hfresh : ∀ d c k u h t, event = .channelOpened d c k u h t →
      s.sessions.lookup ⟨d, c, k⟩ = none)
    (hok : (applyEvent tableLib .regtest default event s).1 = .ok ()) :
    HistoryStep tableLib .regtest s (.event event default) (s.next event) :=
  ⟨hfresh, Prod.ext hok rfl⟩

/-- A channel of Alice's opens. -/
def aliceOpens (channelId : ChannelId) : MinerStatsEvent ExactDouble :=
  .channelOpened 1 channelId "standard".toList aliceAddress (.num 0) 10

/-- A channel of the same connection closes. -/
def aliceCloses (channelId : ChannelId) : MinerStatsEvent ExactDouble :=
  .channelClosed 1 channelId "standard".toList 20

/-- The step an event takes, on the regression network. -/
def transition (s : HistoryState ExactDouble) (event : MinerStatsEvent ExactDouble) :
    Transition (HistoryState ExactDouble) (HistoryAction ExactDouble) :=
  ⟨s, .event event default, s.next event⟩

/-- Alice's first channel opens and closes. -/
def openClose : List (Transition (HistoryState ExactDouble) (HistoryAction ExactDouble)) :=
  [transition newHistory (aliceOpens 2),
    transition (newHistory.next (aliceOpens 2)) (aliceCloses 2)]

theorem run_openClose :
    Run HistoryOpened (HistoryStep tableLib .regtest) openClose
      ((newHistory.next (aliceOpens 2)).next (aliceCloses 2)) := by
  have h1 := historyStep_next newHistory (aliceOpens 2)
    (by rintro _ _ _ _ _ _ ⟨⟩; rfl) rfl
  have h2 := historyStep_next (newHistory.next (aliceOpens 2)) (aliceCloses 2)
    (by rintro _ _ _ _ _ _ ⟨⟩) rfl
  exact ((Run.start historyOpened_new).next h1).next h2

/-- On that run the flag follows the session. -/
theorem connectedMeansOpen_openClose :
    Run HistoryOpened (HistoryStep tableLib .regtest) openClose
        ((newHistory.next (aliceOpens 2)).next (aliceCloses 2)) ∧
      ∀ t ∈ openClose, ConnectedMeansOpen t.after := by
  refine ⟨run_openClose, ?_⟩
  refine (connectedMeansOpen_iff_lastClose tableLib .regtest run_openClose).2 ?_
  have hopen : (newHistory.next (aliceOpens 2)).sessions =
      (∅ : SessionMap).insert ⟨1, 2, "standard".toList⟩
        (minerId .regtest aliceAddress "default".toList) := rfl
  simp only [openClose, List.forall_mem_cons, List.not_mem_nil, false_implies, implies_true,
    and_true]
  refine ⟨trivial, fun m _ key hkey => ?_⟩
  rw [transition, hopen, AssocMap.lookup_insert_if] at hkey
  split at hkey
  · assumption
  · cases hkey

/-- **Two sessions of one miner.**  Alice opens two channels and closes the first:
the row says she is not connected, while her second channel is open. -/
theorem connectedMeansOpen_fails_twoSessions :
    ¬ ∀ ts s, Run HistoryOpened (HistoryStep (F := ExactDouble) tableLib .regtest) ts s →
      ∀ t ∈ ts, ConnectedMeansOpen t.after := by
  intro hall
  have h1 := historyStep_next newHistory (aliceOpens 2)
    (by rintro _ _ _ _ _ _ ⟨⟩; rfl) rfl
  have h2 := historyStep_next (newHistory.next (aliceOpens 2)) (aliceOpens 3)
    (by rintro _ _ _ _ _ _ ⟨⟩; rfl) rfl
  have h3 := historyStep_next ((newHistory.next (aliceOpens 2)).next (aliceOpens 3)) (aliceCloses 2)
    (by rintro _ _ _ _ _ _ ⟨⟩) rfl
  have hgood := hall _ _ ((((Run.start historyOpened_new).next h1).next h2).next h3) _
    (List.mem_append_right _ (List.mem_singleton.2 rfl))
  have hconn := (hgood.connected_iff (minerId .regtest aliceAddress "default".toList) _ rfl).2
    ⟨⟨1, 3, "standard".toList⟩, rfl⟩
  exact absurd hconn (by decide)

end CanaryMining
