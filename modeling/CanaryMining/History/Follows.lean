import CanaryMining.History.Live

/-!
# The history follows the live sessions

As long as no two live sessions belong to one miner, the history refines the
view of them too: it maps exactly the live sessions whose identity parses, and
the row of each one's miner shows it.

## Main definitions

* `OnePerMiner` — no two live sessions belong to one miner.
* `Shows` — a row shows what is known of a session.
* `Follows` — the history holds the view.
-/

namespace CanaryMining

variable {Addr F : Type} [Double F] (lib : AddressLib Addr)

omit [Double F] in
/-- The miner of a session whose identity parses. -/
def LiveSession.miner (network : Network) (l : LiveSession F) : Option Text :=
  minerIdFromIdentity lib network l.userIdentity

omit [Double F] in
/-- No two live sessions belong to one miner. -/
def OnePerMiner (network : Network) (live : LiveView F) : Prop :=
  ∀ key key' l l' m, live key = some l → live key' = some l' →
    l.miner lib network = some m → l'.miner lib network = some m → key = key'

omit [Double F] in
/-- An opened channel was not open. -/
def OpensFresh (live : LiveView F) (event : MinerStatsEvent F) : Prop :=
  ∀ d c k u hash t, event = .channelOpened d c k u hash t → live ⟨d, c, k⟩ = none

/-- The row shows what is known of the session. -/
structure Shows (l : LiveSession F) (row : KnownMinerRow F) : Prop where
  connected : row.connected = 1
  userIdentity : row.userIdentity = l.userIdentity
  openedAt : row.openedAt = some (asI64 l.openedAt)
  nominalHashrate : row.nominalHashrate = l.nominalHashrate
  sharesAccepted : row.sharesAccepted = asI64 l.sharesAccepted
  bestDiff : row.bestDiff = l.bestDiff
  blocksFound : row.blocksFound = asI64 l.blocksFound
  sharesRejected : row.sharesRejected = asI64 l.sharesRejected

/-- The history maps exactly the live sessions that have a miner, and the row of
the miner shows the session. -/
structure Follows (network : Network) (s : HistoryState F) (live : LiveView F) : Prop where
  sessions_eq : ∀ k, s.sessions.lookup k = (live k).bind (·.miner lib network)
  exists_row : ∀ k l m, live k = some l → l.miner lib network = some m →
    ∃ row, s.db.knownMiners.lookup m = some row ∧ Shows l row

variable {lib} {network : Network} {s s' : HistoryState F} {live : LiveView F}
  {order : SessionOrder}

omit [Double F] in
/-- The session a miner has is live. -/
theorem Follows.exists_live (h : Follows lib network s live) {k : SessionKey} {m : Text}
    (hk : s.sessions.lookup k = some m) : ∃ l, live k = some l ∧ l.miner lib network = some m := by
  rw [h.sessions_eq, Option.bind_eq_some_iff] at hk
  exact hk

omit [Double F] in
/-- A miner has no session but its live one. -/
theorem Follows.lookup_ne (h : Follows lib network s live) (hone : OnePerMiner lib network live)
    {k k' : SessionKey} {l : LiveSession F} {m : Text} (hl : live k = some l)
    (hm : l.miner lib network = some m) (hne : k ≠ k') : s.sessions.lookup k' ≠ some m := by
  intro hk'
  obtain ⟨l', hl', hm'⟩ := h.exists_live hk'
  exact hne (hone k k' l l' m hl hl' hm hm')

theorem Follows.opened {d : DownstreamId} {c : ChannelId} {k u : Text} {hash : F} {t : UInt64}
    (h : Follows lib network s live) (hfresh : live ⟨d, c, k⟩ = none)
    (hone : OnePerMiner lib network (liveAfter (.channelOpened d c k u hash t) live))
    (happ : applyEvent lib network order (.channelOpened d c k u hash t) s = (.ok (), s')) :
    Follows lib network s' (liveAfter (.channelOpened d c k u hash t) live) := by
  obtain ⟨hsess, hrows⟩ := applyEvent_eq_ok lib happ
  have hnew : liveAfter (.channelOpened d c k u hash t) live ⟨d, c, k⟩ =
      some ⟨u, t, hash, 0, Double.zero, 0, 0⟩ := by
    simp [liveAfter]
  have hold : ∀ key, key ≠ ⟨d, c, k⟩ →
      liveAfter (.channelOpened d c k u hash t) live key = live key := by
    intro key hkey
    simp [liveAfter, hkey]
  cases hp : parseMinerIdentity lib u network with
  | error e =>
    have hminer : minerIdFromIdentity lib network u = none := by simp [minerIdFromIdentity, hp]
    simp only [sessionsAfter, rowAfter, hminer, hp] at hsess hrows
    refine ⟨fun key => ?_, fun key l m hl hm => ?_⟩
    · rw [hsess, h.sessions_eq]
      by_cases hkey : key = ⟨d, c, k⟩
      · rw [hkey, hnew, hfresh]
        exact hminer.symm
      · rw [hold key hkey]
    · rw [hrows]
      by_cases hkey : key = ⟨d, c, k⟩
      · rw [hkey, hnew, Option.some.injEq] at hl
        rw [← hl] at hm
        exact absurd (hminer.symm.trans hm) (by simp)
      · rw [hold key hkey] at hl
        exact h.exists_row key l m hl hm
  | ok identity =>
    have hminer : minerIdFromIdentity lib network u =
        some (minerId network identity.payoutAddress identity.label) := by
      simp [minerIdFromIdentity, hp]
    simp only [sessionsAfter, rowAfter, hminer, hp] at hsess hrows
    refine ⟨fun key => ?_, fun key l m hl hm => ?_⟩
    · rw [hsess, AssocMap.lookup_insert_if, h.sessions_eq]
      by_cases hkey : key = ⟨d, c, k⟩
      · rw [if_pos hkey, hkey, hnew]
        exact hminer.symm
      · rw [if_neg hkey, hold key hkey]
    · rw [hrows]
      by_cases hkey : key = ⟨d, c, k⟩
      · rw [hkey, hnew, Option.some.injEq] at hl
        rw [← hl] at hm
        rw [if_pos (Option.some.inj (hm.symm.trans hminer)), ← hl]
        exact ⟨_, rfl, rfl, rfl, rfl, rfl, rfl, rfl, rfl, rfl⟩
      · -- Another session's miner is another miner, whose row the event leaves alone.
        have hne : m ≠ minerId network identity.payoutAddress identity.label := by
          intro he
          exact hkey (hone key ⟨d, c, k⟩ l _ m hl hnew hm (he ▸ hminer))
        rw [if_neg hne]
        rw [hold key hkey] at hl
        exact h.exists_row key l m hl hm

omit [Double F] in
/-- A close removes sessions and leaves the rows of the others alone. -/
theorem Follows.closed {live' : LiveView F} {G : SessionKey → Prop} [DecidablePred G]
    (h : Follows lib network s live) (hone : OnePerMiner lib network live)
    (hlive : ∀ k, live' k = if G k then none else live k)
    (hsess : ∀ k, s'.sessions.lookup k = if G k then none else s.sessions.lookup k)
    (hrows : ∀ m, (∀ k, s.sessions.lookup k = some m → ¬ G k) →
      s'.db.knownMiners.lookup m = s.db.knownMiners.lookup m) :
    Follows lib network s' live' := by
  refine ⟨fun k => ?_, fun k l m hl hm => ?_⟩
  · rw [hsess, hlive, h.sessions_eq]
    split <;> rfl
  · rw [hlive] at hl
    split at hl
    · cases hl
    · rename_i hk
      rw [hrows m fun k' hk' => ?_]
      · exact h.exists_row k l m hl hm
      · intro hg
        have hne : k ≠ k' := fun he => hk (he ▸ hg)
        exact h.lookup_ne hone hl hm hne hk'

omit [Double F] in
/-- A share changes the session of its key and the row that shows it. -/
theorem Follows.updated {live' : LiveView F} {key : SessionKey}
    {f : LiveSession F → LiveSession F} {g : KnownMinerRow F → KnownMinerRow F}
    (h : Follows lib network s live) (hone : OnePerMiner lib network live)
    (hlive : ∀ k, live' k = if k = key then (live k).map f else live k)
    (hf : ∀ l, (f l).userIdentity = l.userIdentity)
    (hshows : ∀ l row, Shows l row → Shows (f l) (g row))
    (hsess : s'.sessions = s.sessions)
    (hrows : ∀ m, s'.db.knownMiners.lookup m =
      if s.sessions.lookup key = some m then (s.db.knownMiners.lookup m).map g
      else s.db.knownMiners.lookup m) : Follows lib network s' live' := by
  have hminer : ∀ l : LiveSession F, (f l).miner lib network = l.miner lib network := by
    intro l
    rw [LiveSession.miner, hf, LiveSession.miner]
  refine ⟨fun k => ?_, fun k l m hl hm => ?_⟩
  · rw [hsess, hlive, h.sessions_eq]
    split
    · cases live k <;> simp [hminer]
    · rfl
  · rw [hlive] at hl
    split at hl
    · rename_i hk
      rw [Option.map_eq_some_iff] at hl
      obtain ⟨l, hl, rfl⟩ := hl
      rw [hminer] at hm
      obtain ⟨row, hrow, hshow⟩ := h.exists_row k l m hl hm
      have hmap : s.sessions.lookup key = some m := by
        rw [← hk, h.sessions_eq, hl]
        exact hm
      exact ⟨g row, by rw [hrows, if_pos hmap, hrow, Option.map_some], hshows l row hshow⟩
    · rename_i hk
      rw [hrows, if_neg (h.lookup_ne hone hl hm hk)]
      exact h.exists_row k l m hl hm

/-- **The history follows the view.**  An event that is applied leaves the history
with the view after it. -/
theorem Follows.event {event : MinerStatsEvent F} (h : Follows lib network s live)
    (hone : OnePerMiner lib network live)
    (hone' : OnePerMiner lib network (liveAfter event live)) (hfresh : OpensFresh live event)
    (happ : applyEvent lib network order event s = (.ok (), s')) :
    Follows lib network s' (liveAfter event live) := by
  cases event with
  | channelOpened d c k u hash t => exact h.opened (hfresh _ _ _ _ _ _ rfl) hone' happ
  | channelClosed d c k t =>
    obtain ⟨hsess, hrows⟩ := applyEvent_eq_ok lib happ
    simp only [sessionsAfter, rowAfter] at hsess hrows
    refine h.closed (G := (· = ⟨d, c, k⟩)) hone (fun _ => rfl) (fun key => ?_) (fun m hm => ?_)
    · rw [hsess, AssocMap.lookup_erase_if]
    · rw [hrows, if_neg fun hk => hm _ hk rfl]
  | downstreamClosed d t =>
    obtain ⟨hsess, hrows⟩ := applyEvent_eq_ok lib happ
    simp only [sessionsAfter, rowAfter] at hsess hrows
    refine h.closed (G := (·.isOf d)) hone (fun _ => rfl) (fun key => ?_) (fun m hm => ?_)
    · rw [hsess, AssocMap.lookup_retain]
      by_cases hk : key.isOf d <;> cases s.sessions.lookup key <;> simp [hk]
    · rw [hrows, if_neg]
      rw [ownsSession_iff]
      rintro ⟨key, hk, hd⟩
      exact hm key hk hd
  | shareAccepted d c k accepted diff blocks seen =>
    obtain ⟨hsess, hrows⟩ := applyEvent_eq_ok lib happ
    exact h.updated hone
      (g := (·.accepted (asI64 accepted) diff (asI64 blocks) (asI64 seen)))
      (fun _ => rfl) (fun _ => rfl)
      (fun l row hs => ⟨hs.1, hs.2, hs.3, hs.4, rfl, rfl, rfl, hs.8⟩) hsess hrows
  | shareRejected d c k reason rejected seen =>
    obtain ⟨hsess, hrows⟩ := applyEvent_eq_ok lib happ
    exact h.updated hone (g := (·.rejected (asI64 rejected) (asI64 seen)))
      (fun _ => rfl) (fun _ => rfl)
      (fun l row hs => ⟨hs.1, hs.2, hs.3, hs.4, hs.5, hs.6, hs.7, rfl⟩) hsess hrows
  | blockFound d c k hash blocks foundAt =>
    obtain ⟨hsess, hrows⟩ := applyEvent_eq_ok lib happ
    refine ⟨fun key => ?_, fun key l m hl hm => ?_⟩
    · rw [hsess]
      exact h.sessions_eq key
    · rw [hrows]
      exact h.exists_row key l m hl hm

end CanaryMining
