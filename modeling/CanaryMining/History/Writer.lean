import CanaryMining.History.Table
import CanaryMining.MinerStats

/-!
# The history writer

The writer thread takes the events of the registry one by one.  It remembers
which miner each open channel belongs to and translates an event into statements
on the table of known miners.

What an event does when no statement of it fails is said once, by
`applyEvent_eq_ok`: the session map becomes `sessionsAfter` and every row becomes
`rowAfter`.

## Main definitions

* `SessionKey`, `HistoryState` — the session map and the database.
* `applyEvent` — the function of the source.
* `sessionsAfter`, `rowAfter` — the effect of an event.
-/

namespace CanaryMining

/-- `SessionKey` of the history module. -/
structure SessionKey where
  downstreamId : DownstreamId
  channelId : ChannelId
  channelKind : Text
  deriving DecidableEq, Repr

/-- The miner of each open channel. -/
abbrev SessionMap := AssocMap SessionKey Text

/-- The order in which `extract_if` yields the sessions it removes. -/
abbrev SessionOrder := IterOrder (Σ _ : SessionKey, Text)

/-- What the writer thread works on. -/
structure HistoryState (F : Type) where
  db : Db F
  sessions : SessionMap

variable {Addr F : Type} [Double F] (lib : AddressLib Addr)

/-- The closes of `DownstreamClosed`, one miner after the other up to the first
that fails. -/
def closeMiners (db : Db F) (closedAt : UInt64) : List Text → Except HistoryError Unit × Db F
  | [] => (.ok (), db)
  | minerId :: minerIds =>
    match closeMiner db minerId closedAt with
    | (.error e, db) => (.error e, db)
    | (.ok (), db) => closeMiners db closedAt minerIds

omit [Double F] in
/-- `update_known_session`. -/
def updateKnownSession (s : HistoryState F) (key : SessionKey)
    (f : Text → Db F → Except HistoryError Unit × Db F) :
    Except HistoryError Unit × HistoryState F :=
  match s.sessions.lookup key with
  | none => (.ok (), s)
  | some minerId =>
    let (result, db) := f minerId s.db
    (result, { s with db := db })

/-- The statement of `ShareAccepted`.  A difficulty that is no number is bound as
`NULL`, which the column refuses in a row the statement reaches. -/
def acceptShares (minerId : Text) (sharesAccepted : ℤ) (bestDiff : F) (blocksFound : ℤ)
    (lastSeenAt : ℤ) (t : Table F) : Except HistoryError (Table F × ℕ) :=
  if Double.isNan bestDiff ∧ minerId ∈ t then .error (.notNull "best_diff".toList)
  else updateRow minerId (·.accepted sharesAccepted bestDiff blocksFound lastSeenAt) t

/-- The keys of a downstream. -/
def SessionKey.isOf (downstreamId : DownstreamId) (key : SessionKey) : Bool :=
  key.downstreamId == downstreamId

/-- `apply_event`. -/
def applyEvent (network : Network) (order : SessionOrder) (event : MinerStatsEvent F)
    (s : HistoryState F) : Except HistoryError Unit × HistoryState F :=
  match event with
  | .channelOpened downstreamId channelId channelKind userIdentity nominalHashrate openedAt =>
    match minerIdFromIdentity lib network userIdentity with
    | none => (.ok (), s)
    | some minerId =>
      let sessions := s.sessions.insert ⟨downstreamId, channelId, channelKind⟩ minerId
      let (result, db) :=
        upsertOpenMiner lib s.db network minerId userIdentity nominalHashrate openedAt
      (result, ⟨db, sessions⟩)
  | .channelClosed downstreamId channelId channelKind closedAt =>
    let key := ⟨downstreamId, channelId, channelKind⟩
    match s.sessions.lookup key with
    | none => (.ok (), s)
    | some minerId =>
      let (result, db) := closeMiner s.db minerId closedAt
      (result, ⟨db, s.sessions.erase key⟩)
  | .downstreamClosed downstreamId closedAt =>
    let removed := s.sessions.retain fun key _ => key.isOf downstreamId
    let minerIds := (order.order removed.entries).map (·.2)
    let (result, db) := closeMiners s.db closedAt minerIds
    (result, ⟨db, s.sessions.retain fun key _ => !key.isOf downstreamId⟩)
  | .shareAccepted downstreamId channelId channelKind sharesAccepted bestDiff blocksFound
      lastSeenAt =>
    updateKnownSession s ⟨downstreamId, channelId, channelKind⟩ fun minerId db =>
      match tryI64 sharesAccepted with
      | none =>
        (.error (.outOfRange "shares_accepted exceeds SQLite integer range".toList), db)
      | some sharesAccepted =>
        match tryI64 blocksFound with
        | none => (.error (.outOfRange "blocks_found exceeds SQLite integer range".toList), db)
        | some blocksFound =>
          db.executeUnit
            (acceptShares minerId sharesAccepted bestDiff blocksFound (asI64 lastSeenAt))
  | .shareRejected downstreamId channelId channelKind _ sharesRejected lastSeenAt =>
    updateKnownSession s ⟨downstreamId, channelId, channelKind⟩ fun minerId db =>
      match tryI64 sharesRejected with
      | none =>
        (.error (.outOfRange "shares_rejected exceeds SQLite integer range".toList), db)
      | some sharesRejected =>
        db.executeUnit (updateRow minerId (·.rejected sharesRejected (asI64 lastSeenAt)))
  | .blockFound .. => (.ok (), s)

/-! ## The effect of an event -/

omit [Double F] in
/-- The session map after an event. -/
def sessionsAfter (network : Network) (event : MinerStatsEvent F) (sessions : SessionMap) :
    SessionMap :=
  match event with
  | .channelOpened downstreamId channelId channelKind userIdentity _ _ =>
    match minerIdFromIdentity lib network userIdentity with
    | none => sessions
    | some minerId => sessions.insert ⟨downstreamId, channelId, channelKind⟩ minerId
  | .channelClosed downstreamId channelId channelKind _ =>
    sessions.erase ⟨downstreamId, channelId, channelKind⟩
  | .downstreamClosed downstreamId _ => sessions.retain fun key _ => !key.isOf downstreamId
  | _ => sessions

/-- Whether some session of a downstream belongs to a miner. -/
def ownsSession (sessions : SessionMap) (downstreamId : DownstreamId) (minerId : Text) : Bool :=
  sessions.entries.any fun e => e.1.isOf downstreamId && e.2 == minerId

/-- The row of a miner after an event, given the session map before it. -/
def rowAfter (network : Network) (event : MinerStatsEvent F) (sessions : SessionMap)
    (minerId : Text) (old : Option (KnownMinerRow F)) : Option (KnownMinerRow F) :=
  match event with
  | .channelOpened _ _ _ userIdentity nominalHashrate openedAt =>
    match parseMinerIdentity lib userIdentity network with
    | .error _ => old
    | .ok identity =>
      if minerId = CanaryMining.minerId network identity.payoutAddress identity.label then
        some (.opened old identity userIdentity nominalHashrate (asI64 openedAt))
      else old
  | .channelClosed downstreamId channelId channelKind closedAt =>
    if sessions.lookup ⟨downstreamId, channelId, channelKind⟩ = some minerId then
      old.map (·.closed (asI64 closedAt))
    else old
  | .downstreamClosed downstreamId closedAt =>
    if ownsSession sessions downstreamId minerId then old.map (·.closed (asI64 closedAt)) else old
  | .shareAccepted downstreamId channelId channelKind sharesAccepted bestDiff blocksFound
      lastSeenAt =>
    if sessions.lookup ⟨downstreamId, channelId, channelKind⟩ = some minerId then
      old.map (·.accepted (asI64 sharesAccepted) bestDiff (asI64 blocksFound) (asI64 lastSeenAt))
    else old
  | .shareRejected downstreamId channelId channelKind _ sharesRejected lastSeenAt =>
    if sessions.lookup ⟨downstreamId, channelId, channelKind⟩ = some minerId then
      old.map (·.rejected (asI64 sharesRejected) (asI64 lastSeenAt))
    else old
  | .blockFound .. => old

theorem ownsSession_iff {sessions : SessionMap} {d : DownstreamId} {m : Text} :
    ownsSession sessions d m = true ↔ ∃ key, sessions.lookup key = some m ∧ key.isOf d := by
  simp only [ownsSession, List.any_eq_true, Bool.and_eq_true, beq_iff_eq, AssocMap.lookup_eq_some]
  constructor
  · rintro ⟨⟨key, m'⟩, he, hd, rfl⟩
    exact ⟨key, he, hd⟩
  · rintro ⟨key, he, hd⟩
    exact ⟨_, he, hd, rfl⟩

/-! ## What an event does when nothing fails -/

theorem lookup_of_closeMiner {db db' : Db F} {m : Text} {c : UInt64} {u : Unit}
    (h : closeMiner db m c = (.ok u, db')) (m' : Text) :
    db'.knownMiners.lookup m' =
      if m' = m then (db.knownMiners.lookup m').map (·.closed (asI64 c))
      else db.knownMiners.lookup m' := by
  obtain ⟨n, hs⟩ := Db.executeUnit_eq_ok h
  simp only [updateRow, Except.ok.injEq, Prod.mk.injEq] at hs
  rw [← hs.1, AssocMap.lookup_modify]
  split <;> simp

theorem lookup_of_upsertOpenMiner {db db' : Db F} {network : Network} {id userIdentity : Text}
    {hashrate : F} {openedAt : UInt64} {identity : MinerIdentity} {u : Unit}
    (hp : parseMinerIdentity lib userIdentity network = .ok identity)
    (h : upsertOpenMiner lib db network id userIdentity hashrate openedAt = (.ok u, db'))
    (m : Text) :
    db'.knownMiners.lookup m =
      if m = id then some (.opened (db.knownMiners.lookup m) identity userIdentity hashrate
        (asI64 openedAt))
      else db.knownMiners.lookup m := by
  simp only [upsertOpenMiner, hp] at h
  obtain ⟨n, hs⟩ := Db.executeUnit_eq_ok h
  by_cases hnan : Double.isNan hashrate
  · simp [hnan] at hs
  · simp only [hnan, Bool.false_eq_true, if_false, Except.ok.injEq, Prod.mk.injEq] at hs
    rw [← hs.1, AssocMap.lookup_insert_if]
    by_cases hm : m = id
    · rw [if_pos hm, if_pos hm, hm]
    · rw [if_neg hm, if_neg hm]

theorem lookup_of_acceptShares {t t' : Table F} {id : Text} {accepted blocks seen : ℤ} {diff : F}
    {n : ℕ} (h : acceptShares id accepted diff blocks seen t = .ok (t', n)) (m : Text) :
    t'.lookup m =
      if m = id then (t.lookup m).map (·.accepted accepted diff blocks seen) else t.lookup m := by
  unfold acceptShares at h
  split at h
  · cases h
  · simp only [updateRow, Except.ok.injEq, Prod.mk.injEq] at h
    rw [← h.1, AssocMap.lookup_modify]
    by_cases hm : m = id <;> simp [hm]

/-- Closing several miners closes each of their rows, those named twice as well. -/
theorem lookup_of_closeMiners {db db' : Db F} {c : UInt64} {ids : List Text} {u : Unit}
    (h : closeMiners db c ids = (.ok u, db')) (m : Text) :
    db'.knownMiners.lookup m =
      if m ∈ ids then (db.knownMiners.lookup m).map (·.closed (asI64 c))
      else db.knownMiners.lookup m := by
  induction ids generalizing db with
  | nil =>
    simp only [closeMiners, Prod.mk.injEq] at h
    simp [h.2]
  | cons id ids ih =>
    unfold closeMiners at h
    split at h
    · cases h
    · rename_i db₁ h₁
      rw [ih h, lookup_of_closeMiner h₁]
      by_cases hm : m = id
      · by_cases hi : id ∈ ids <;> simp [hm, hi, Option.map_map, Function.comp_def]
      · by_cases hi : m ∈ ids <;> simp [hm, hi]

/-- The miners whose sessions a downstream takes with it. -/
theorem mem_removed_iff {sessions : SessionMap} {order : SessionOrder} {d : DownstreamId}
    {m : Text} :
    m ∈ (order.order (sessions.retain fun key _ => key.isOf d).entries).map (·.2) ↔
      ownsSession sessions d m = true := by
  rw [ownsSession_iff, List.mem_map]
  constructor
  · rintro ⟨⟨key, m'⟩, he, rfl⟩
    rw [IterOrder.mem_order, ← AssocMap.lookup_eq_some, AssocMap.lookup_retain,
      Option.filter_eq_some_iff] at he
    exact ⟨key, he⟩
  · rintro ⟨key, he⟩
    refine ⟨⟨key, m⟩, ?_, rfl⟩
    rw [IterOrder.mem_order, ← AssocMap.lookup_eq_some, AssocMap.lookup_retain,
      Option.filter_eq_some_iff]
    exact he

/-- **The effect of an event.**  When no statement fails, the session map and the
rows are what `sessionsAfter` and `rowAfter` say, whatever order the sessions of
a closed downstream come in. -/
theorem applyEvent_eq_ok {network : Network} {order : SessionOrder} {event : MinerStatsEvent F}
    {s s' : HistoryState F} {u : Unit}
    (h : applyEvent lib network order event s = (.ok u, s')) :
    s'.sessions = sessionsAfter lib network event s.sessions ∧
      ∀ m, s'.db.knownMiners.lookup m =
        rowAfter lib network event s.sessions m (s.db.knownMiners.lookup m) := by
  cases event with
  | channelOpened d c k userIdentity hashrate openedAt =>
    simp only [applyEvent, sessionsAfter, rowAfter, minerIdFromIdentity] at h ⊢
    cases hp : parseMinerIdentity lib userIdentity network with
    | error e =>
      simp only [hp, Prod.mk.injEq] at h
      simp [h.2]
    | ok identity =>
      simp only [hp, Prod.mk.injEq] at h
      obtain ⟨hr, rfl⟩ := h
      exact ⟨rfl, lookup_of_upsertOpenMiner lib hp (Prod.ext hr rfl)⟩
  | channelClosed d c k closedAt =>
    simp only [applyEvent, sessionsAfter, rowAfter] at h ⊢
    cases hl : s.sessions.lookup ⟨d, c, k⟩ with
    | none =>
      simp only [hl, Prod.mk.injEq] at h
      rw [← h.2, AssocMap.erase_of_lookup_eq_none hl]
      simp
    | some m₀ =>
      simp only [hl, Prod.mk.injEq] at h
      obtain ⟨hr, rfl⟩ := h
      refine ⟨rfl, fun m => ?_⟩
      rw [lookup_of_closeMiner (Prod.ext hr rfl)]
      simp [eq_comm]
  | downstreamClosed d closedAt =>
    simp only [applyEvent, sessionsAfter, rowAfter, Prod.mk.injEq] at h ⊢
    obtain ⟨hr, rfl⟩ := h
    refine ⟨rfl, fun m => ?_⟩
    rw [lookup_of_closeMiners (Prod.ext hr rfl)]
    simp only [mem_removed_iff]
  | shareAccepted d c k accepted diff blocks seen =>
    simp only [applyEvent, sessionsAfter, rowAfter, updateKnownSession] at h ⊢
    cases hl : s.sessions.lookup ⟨d, c, k⟩ with
    | none =>
      simp only [hl, Prod.mk.injEq] at h
      simp [h.2]
    | some m₀ =>
      simp only [hl] at h
      cases ha : tryI64 accepted with
      | none => simp [ha] at h
      | some a =>
        cases hb : tryI64 blocks with
        | none => simp [ha, hb] at h
        | some b =>
          simp only [ha, hb, Prod.mk.injEq] at h
          obtain ⟨hr, rfl⟩ := h
          obtain ⟨n, hs⟩ := Db.executeUnit_eq_ok (Prod.ext hr rfl)
          refine ⟨rfl, fun m => ?_⟩
          rw [lookup_of_acceptShares hs, tryI64_eq_some ha, tryI64_eq_some hb]
          simp only [Option.some.injEq, eq_comm]
  | shareRejected d c k reason rejected seen =>
    simp only [applyEvent, sessionsAfter, rowAfter, updateKnownSession] at h ⊢
    cases hl : s.sessions.lookup ⟨d, c, k⟩ with
    | none =>
      simp only [hl, Prod.mk.injEq] at h
      simp [h.2]
    | some m₀ =>
      simp only [hl] at h
      cases ha : tryI64 rejected with
      | none => simp [ha] at h
      | some a =>
        simp only [ha, Prod.mk.injEq] at h
        obtain ⟨hr, rfl⟩ := h
        obtain ⟨n, hs⟩ := Db.executeUnit_eq_ok (Prod.ext hr rfl)
        simp only [updateRow, Except.ok.injEq, Prod.mk.injEq] at hs
        refine ⟨rfl, fun m => ?_⟩
        rw [← hs.1, AssocMap.lookup_modify, tryI64_eq_some ha]
        by_cases hm : m = m₀
        · simp [hm]
        · simp [hm, Ne.symm hm]
  | blockFound d c k hash blocks foundAt =>
    simp only [applyEvent, Prod.mk.injEq] at h
    simp [sessionsAfter, rowAfter, h.2]

/-! ## Events that are applied -/

/-- The numbers of an event fit the columns they are written to. -/
def Fits : MinerStatsEvent F → Prop
  | .channelOpened _ _ _ _ hash _ => Double.isNan hash = false
  | .shareAccepted _ _ _ accepted diff blocks _ =>
    accepted.toNat < 2 ^ 63 ∧ Double.isNan diff = false ∧ blocks.toNat < 2 ^ 63
  | .shareRejected _ _ _ _ rejected _ => rejected.toNat < 2 ^ 63
  | _ => True

theorem closeMiners_of_faultFree {db : Db F} (hf : db.faults = []) (c : UInt64)
    (ids : List Text) : ∃ t, closeMiners db c ids = (.ok (), ⟨t, []⟩) := by
  induction ids generalizing db with
  | nil => exact ⟨db.knownMiners, by rw [closeMiners, ← hf]⟩
  | cons id ids ih =>
    have h₁ : closeMiner db id c = (.ok (), ⟨_, []⟩) := Db.executeUnit_of_faultFree hf rfl
    simp only [closeMiners, h₁]
    exact ih rfl

/-- An event whose numbers fit is applied by a database with no fault to come. -/
theorem applyEvent_of_fits (network : Network) (order : SessionOrder)
    {event : MinerStatsEvent F} {s : HistoryState F} (hf : s.db.faults = []) (h : Fits event) :
    ∃ s', applyEvent lib network order event s = (.ok (), s') ∧ s'.db.faults = [] := by
  cases event with
  | channelOpened d c k u hash t =>
    have hnan : Double.isNan hash = false := h
    simp only [applyEvent, minerIdFromIdentity]
    cases hp : parseMinerIdentity lib u network with
    | error e => exact ⟨_, rfl, hf⟩
    | ok identity =>
      simp only [upsertOpenMiner, hp]
      rw [Db.executeUnit_of_faultFree hf (by simp only [hnan, Bool.false_eq_true, if_false]; rfl)]
      exact ⟨_, rfl, rfl⟩
  | channelClosed d c k t =>
    simp only [applyEvent]
    cases s.sessions.lookup ⟨d, c, k⟩ with
    | none => exact ⟨_, rfl, hf⟩
    | some m =>
      simp only [closeMiner]
      rw [Db.executeUnit_of_faultFree hf rfl]
      exact ⟨_, rfl, rfl⟩
  | downstreamClosed d t =>
    simp only [applyEvent]
    obtain ⟨table, ht⟩ := closeMiners_of_faultFree hf t
      ((order.order (s.sessions.retain fun key _ => key.isOf d).entries).map (·.2))
    rw [ht]
    exact ⟨_, rfl, rfl⟩
  | shareAccepted d c k accepted diff blocks seen =>
    obtain ⟨ha, hnan, hb⟩ := h
    simp only [applyEvent, updateKnownSession]
    cases s.sessions.lookup ⟨d, c, k⟩ with
    | none => exact ⟨_, rfl, hf⟩
    | some m =>
      simp only [tryI64_of_lt ha, tryI64_of_lt hb]
      have hs : acceptShares m (asI64 accepted) diff (asI64 blocks) (asI64 seen)
          s.db.knownMiners = updateRow m _ s.db.knownMiners := if_neg (by simp [hnan])
      rw [Db.executeUnit_of_faultFree hf hs]
      exact ⟨_, rfl, rfl⟩
  | shareRejected d c k reason rejected seen =>
    simp only [applyEvent, updateKnownSession]
    cases s.sessions.lookup ⟨d, c, k⟩ with
    | none => exact ⟨_, rfl, hf⟩
    | some m =>
      simp only [tryI64_of_lt h]
      rw [Db.executeUnit_of_faultFree hf rfl]
      exact ⟨_, rfl, rfl⟩
  | blockFound d c k hash blocks foundAt => exact ⟨_, rfl, hf⟩

/-! ## What an event keeps in every row -/

section Rows

variable {Q : Text → KnownMinerRow F → Prop}

theorem closeMiners_allKeyed {db : Db F} {c : UInt64} (ids : List Text)
    (h : db.knownMiners.AllKeyed Q) (hclose : ∀ m row c, Q m row → Q m (row.closed c)) :
    (closeMiners db c ids).2.knownMiners.AllKeyed Q := by
  induction ids generalizing db with
  | nil => exact h
  | cons id ids ih =>
    have h₁ : (closeMiner db id c).2.knownMiners.AllKeyed Q :=
      Db.executeUnit_preserves h fun t n ht => by
        cases ht
        exact h.modify id fun m row => hclose m row _
    unfold closeMiners
    split
    · rename_i he
      rw [he] at h₁
      exact h₁
    · rename_i he
      rw [he] at h₁
      exact ih h₁

/-- A property of rows that opened rows have and the other statements keep holds of
all rows after an event, whichever of its statements fail. -/
theorem applyEvent_allKeyed {network : Network} {order : SessionOrder}
    {event : MinerStatsEvent F} {s : HistoryState F} (h : s.db.knownMiners.AllKeyed Q)
    (hopen : ∀ d c k u hash t, event = .channelOpened d c k u hash t →
      ∀ id, minerIdFromIdentity lib network u = some id →
        ∀ old identity, Q id (.opened old identity u hash (asI64 t)))
    (hclose : ∀ m row c, Q m row → Q m (row.closed c))
    (haccept : ∀ m row n d b t, Q m row → Q m (row.accepted n d b t))
    (hreject : ∀ m row n t, Q m row → Q m (row.rejected n t)) :
    (applyEvent lib network order event s).2.db.knownMiners.AllKeyed Q := by
  cases event with
  | channelOpened d c k u hash t =>
    simp only [applyEvent, upsertOpenMiner]
    split
    · exact h
    · rename_i id hid
      split
      · exact h
      · refine Db.executeUnit_preserves h fun t n ht => ?_
        split at ht
        · cases ht
        · cases ht
          exact h.insert (hopen _ _ _ _ _ _ rfl id hid _ _)
  | channelClosed d c k t =>
    simp only [applyEvent]
    split
    · exact h
    · refine Db.executeUnit_preserves h fun t n ht => ?_
      cases ht
      exact h.modify _ fun m row => hclose m row _
  | downstreamClosed d t => exact closeMiners_allKeyed _ h hclose
  | shareAccepted d c k accepted diff blocks seen =>
    simp only [applyEvent, updateKnownSession]
    repeat' split
    all_goals try exact h
    refine Db.executeUnit_preserves h fun t n ht => ?_
    unfold acceptShares at ht
    split at ht
    · cases ht
    · cases ht
      exact h.modify _ fun m row => haccept m row _ _ _ _
  | shareRejected d c k reason rejected seen =>
    simp only [applyEvent, updateKnownSession]
    repeat' split
    all_goals try exact h
    refine Db.executeUnit_preserves h fun t n ht => ?_
    cases ht
    exact h.modify _ fun m row => hreject m row _ _
  | blockFound d c k hash blocks foundAt => exact h

/-- The same for a property that does not depend on the key of the row. -/
theorem applyEvent_all {Q : KnownMinerRow F → Prop} {network : Network} {order : SessionOrder}
    {event : MinerStatsEvent F} {s : HistoryState F} (h : s.db.knownMiners.All Q)
    (hopen : ∀ d c k u hash t, event = .channelOpened d c k u hash t →
      ∀ old identity, Q (.opened old identity u hash (asI64 t)))
    (hclose : ∀ row c, Q row → Q (row.closed c))
    (haccept : ∀ row n d b t, Q row → Q (row.accepted n d b t))
    (hreject : ∀ row n t, Q row → Q (row.rejected n t)) :
    (applyEvent lib network order event s).2.db.knownMiners.All Q :=
  applyEvent_allKeyed (Q := fun _ => Q) lib h
    (fun d c k u hash t he _ _ => hopen d c k u hash t he) (fun _ => hclose) (fun _ => haccept)
    fun _ => hreject

end Rows

end CanaryMining
