import CanaryMining.History.Writer

/-!
# Events that fail

The writer thread logs an event whose statement fails and goes on with the next one.
A share or a reject that fails changes nothing.  An open that fails has already put its
session into the map, a close that fails has already taken it out, and the closing of a
downstream that fails has taken out all its sessions and may have closed some of its
miners: their rows stay connected, and no later event finds them.

## Main definitions

* `Unchanged` — the table and the session map are as they were.
* `FailsCleanly` — the condition on an event and the statements to come.
* `failureKeeps_iff_failsCleanly` — an event that fails changes nothing exactly then.
-/

namespace CanaryMining

/-! ## When a statement fails -/

namespace Db

variable {F : Type} {db db' : Db F} {statement : Table F → Except HistoryError (Table F × ℕ)}

/-- Every statement meets one of the outcomes to come. -/
theorem executeUnit_faults (db : Db F)
    (statement : Table F → Except HistoryError (Table F × ℕ)) :
    (db.executeUnit statement).2.faults = db.faults.tail := by
  have hexecute : (db.execute statement).2.faults = db.faults.tail := by
    unfold execute
    split
    · rename_i faults hfaults
      rw [hfaults]
      rfl
    · split <;> rfl
  unfold executeUnit
  split <;> rename_i he <;> rw [he] at hexecute <;> exact hexecute

/-- A statement fails if that is the outcome to come, or if the table refuses it. -/
theorem executeUnit_fails_iff :
    (∃ e, (db.executeUnit statement).1 = .error e) ↔
      db.faults.head? = some true ∨ ∃ e, statement db.knownMiners = .error e := by
  unfold executeUnit execute
  match hfaults : db.faults with
  | true :: faults => simp
  | false :: faults =>
    cases hs : statement db.knownMiners with
    | error e => simp
    | ok changed => simp
  | [] =>
    cases hs : statement db.knownMiners with
    | error e => simp
    | ok changed => simp

/-- A statement that fails leaves the table as it was. -/
theorem executeUnit_eq_error {e : HistoryError} (h : db.executeUnit statement = (.error e, db')) :
    db'.knownMiners = db.knownMiners := by
  unfold executeUnit at h
  split at h
  · rename_i e' db'' he
    cases h
    exact execute_eq_error he
  · cases h

end Db

variable {Addr F : Type} [Double F] (lib : AddressLib Addr)

theorem closeMiner_fails_iff (db : Db F) (m : Text) (c : UInt64) :
    (∃ e, (closeMiner db m c).1 = .error e) ↔ db.faults.head? = some true := by
  rw [closeMiner, Db.executeUnit_fails_iff]
  simp [updateRow]

/-- Closing several miners fails exactly if one of as many statements does. -/
theorem closeMiners_fails_iff (db : Db F) (c : UInt64) (ids : List Text) :
    (∃ e, (closeMiners db c ids).1 = .error e) ↔ true ∈ db.faults.take ids.length := by
  induction ids generalizing db with
  | nil => simp [closeMiners]
  | cons id ids ih =>
    have hfails := closeMiner_fails_iff db id c
    have hfaults : (closeMiner db id c).2.faults = db.faults.tail := Db.executeUnit_faults _ _
    unfold closeMiners
    rcases he : closeMiner db id c with ⟨e | u, db'⟩
    · rw [he] at hfails
      have hhead := hfails.1 ⟨e, rfl⟩
      cases hdb : db.faults with
      | nil => simp [hdb] at hhead
      | cons fault faults =>
        rw [hdb, List.head?_cons, Option.some.injEq] at hhead
        simp [hhead]
    · rw [he] at hfails hfaults
      have hhead : ¬ db.faults.head? = some true := by
        intro hhead
        obtain ⟨e, hok⟩ := hfails.2 hhead
        cases hok
      simp only
      rw [ih, hfaults]
      cases hdb : db.faults with
      | nil => simp
      | cons fault faults =>
        rw [hdb, List.head?_cons, Option.some.injEq] at hhead
        simp [Ne.symm hhead]

/-! ## When an event that fails changes nothing -/

/-- The table and the session map of `s'` are those of `s`. -/
def Unchanged (s s' : HistoryState F) : Prop :=
  (∀ m, s'.db.knownMiners.lookup m = s.db.knownMiners.lookup m) ∧
    ∀ key, s'.sessions.lookup key = s.sessions.lookup key

/-- If the event fails, it changes nothing. -/
def FailureKeeps (network : Network) (order : SessionOrder) (event : MinerStatsEvent F)
    (s : HistoryState F) : Prop :=
  ∀ e s', applyEvent lib network order event s = (.error e, s') → Unchanged s s'

/-- The sessions of a downstream. -/
def sessionsOf (sessions : SessionMap) (d : DownstreamId) : SessionMap :=
  sessions.retain fun key _ => key.isOf d

/-- An open reopens a session of the same miner or does not fail, a close is of a session
that is not in the map or does not fail, and none of the closes of a downstream fails. -/
def FailsCleanly (network : Network) (event : MinerStatsEvent F) (s : HistoryState F) : Prop :=
  match event with
  | .channelOpened d c kind u hash _ => ∀ m, minerIdFromIdentity lib network u = some m →
      s.sessions.lookup ⟨d, c, kind⟩ = some m ∨
        s.db.faults.head? ≠ some true ∧ Double.isNan hash = false
  | .channelClosed d c kind _ =>
    s.sessions.lookup ⟨d, c, kind⟩ = none ∨ s.db.faults.head? ≠ some true
  | .downstreamClosed d _ => true ∉ s.db.faults.take (sessionsOf s.sessions d).entries.length
  | _ => True

section Events

variable {lib} {network : Network} {order : SessionOrder} {s : HistoryState F}

omit [Double F] in
/-- What an event does to the session map matters if the event fails. -/
theorem unchanged_iff {db' : Db F} {sessions : SessionMap}
    (h : db'.knownMiners = s.db.knownMiners) :
    Unchanged s ⟨db', sessions⟩ ↔ ∀ key, sessions.lookup key = s.sessions.lookup key := by
  simp [Unchanged, h]

theorem failureKeeps_iff {event : MinerStatsEvent F} :
    FailureKeeps lib network order event s ↔
      ((∃ e, (applyEvent lib network order event s).1 = .error e) →
        Unchanged s (applyEvent lib network order event s).2) := by
  constructor
  · intro h hfails
    obtain ⟨e, he⟩ := hfails
    exact h e _ (Prod.ext he rfl)
  · intro h e s' he
    rw [he] at h
    exact h ⟨e, rfl⟩

theorem upsertOpenMiner_fails_iff (db : Db F) (id u : Text) (hash : F) (t : UInt64)
    {identity : MinerIdentity} (hp : parseMinerIdentity lib u network = .ok identity) :
    (∃ e, (upsertOpenMiner lib db network id u hash t).1 = .error e) ↔
      db.faults.head? = some true ∨ Double.isNan hash = true := by
  simp only [upsertOpenMiner, hp]
  rw [Db.executeUnit_fails_iff]
  by_cases hnan : Double.isNan hash = true
  · simp [hnan]
  · simp [hnan]

theorem upsertOpenMiner_eq_error {db db' : Db F} {id u : Text} {hash : F} {t : UInt64}
    {e : HistoryError} (h : upsertOpenMiner lib db network id u hash t = (.error e, db')) :
    db'.knownMiners = db.knownMiners := by
  unfold upsertOpenMiner at h
  split at h
  · cases h
    rfl
  · exact Db.executeUnit_eq_error h

/-- An open that fails has put its session into the map. -/
theorem failureKeeps_opened_iff {d : DownstreamId} {c : ChannelId} {kind u : Text} {hash : F}
    {t : UInt64} :
    FailureKeeps lib network order (.channelOpened d c kind u hash t) s ↔
      FailsCleanly lib network (.channelOpened d c kind u hash t) s := by
  rw [failureKeeps_iff]
  simp only [FailsCleanly, applyEvent, minerIdFromIdentity]
  cases hp : parseMinerIdentity lib u network with
  | error e => simp
  | ok identity =>
    simp only [Option.some.injEq, forall_eq']
    have hfails := upsertOpenMiner_fails_iff s.db
      (minerId network identity.payoutAddress identity.label) u hash t hp
    rcases hr : upsertOpenMiner lib s.db network
      (minerId network identity.payoutAddress identity.label) u hash t with ⟨e | v, db'⟩
    · rw [hr] at hfails
      have hcause := hfails.1 ⟨e, rfl⟩
      have hnot : ¬ (s.db.faults.head? ≠ some true ∧ Double.isNan hash = false) := by
        intro h
        rcases hcause with hhead | hnan
        · exact h.1 hhead
        · simp [h.2] at hnan
      simp only [unchanged_iff (upsertOpenMiner_eq_error hr), AssocMap.lookup_insert_if]
      constructor
      · intro h
        have hkey := h ⟨e, rfl⟩ ⟨d, c, kind⟩
        rw [if_pos rfl] at hkey
        exact .inl hkey.symm
      · intro h _ key
        by_cases hkey : key = ⟨d, c, kind⟩
        · rw [if_pos hkey, hkey]
          exact (h.resolve_right hnot).symm
        · rw [if_neg hkey]
    · rw [hr] at hfails
      have hcause : ¬ (s.db.faults.head? = some true ∨ Double.isNan hash = true) := by
        intro h
        obtain ⟨e, he⟩ := hfails.2 h
        cases he
      constructor
      · intro _
        refine .inr ⟨fun h => hcause (.inl h), ?_⟩
        rw [Bool.eq_false_iff]
        exact fun h => hcause (.inr h)
      · intro _ h
        obtain ⟨e, he⟩ := h
        cases he

/-- A close that fails has taken its session out of the map. -/
theorem failureKeeps_closed_iff {d : DownstreamId} {c : ChannelId} {kind : Text} {t : UInt64} :
    FailureKeeps lib network order (.channelClosed d c kind t) s ↔
      FailsCleanly lib network (.channelClosed d c kind t) s := by
  rw [failureKeeps_iff]
  simp only [FailsCleanly, applyEvent]
  cases hl : s.sessions.lookup ⟨d, c, kind⟩ with
  | none => simp
  | some m =>
    simp only [reduceCtorEq, false_or]
    rw [ne_eq, ← closeMiner_fails_iff s.db m t]
    rcases hr : closeMiner s.db m t with ⟨e | v, db'⟩
    · have hlost : ¬ Unchanged s ⟨db', s.sessions.erase ⟨d, c, kind⟩⟩ := by
        intro h
        have hkey := h.2 ⟨d, c, kind⟩
        simp [hl] at hkey
      simp [hlost]
    · simp

/-- A close of a downstream that fails has taken all its sessions out of the map. -/
theorem failureKeeps_downstreamClosed_iff {d : DownstreamId} {t : UInt64} :
    FailureKeeps lib network order (.downstreamClosed d t) s ↔
      FailsCleanly lib network (.downstreamClosed d t) s := by
  rw [failureKeeps_iff]
  simp only [FailsCleanly, applyEvent]
  have hlength : ((order.order (sessionsOf s.sessions d).entries).map (·.2)).length =
      (sessionsOf s.sessions d).entries.length := by
    rw [List.length_map, IterOrder.length_order]
  rw [← hlength, ← closeMiners_fails_iff s.db t]
  rcases hr : closeMiners s.db t ((order.order (sessionsOf s.sessions d).entries).map (·.2)) with
    ⟨e | v, db'⟩
  · have hlost : ¬ Unchanged s ⟨db', s.sessions.retain fun key _ => !key.isOf d⟩ := by
      intro h
      -- A close has failed, so there was a session to close.
      cases hentries : (sessionsOf s.sessions d).entries with
      | nil => simp [hentries, closeMiners] at hr
      | cons entry entries =>
        have hmem : (⟨entry.1, entry.2⟩ : Σ _ : SessionKey, Text) ∈
            (sessionsOf s.sessions d).entries := by simp [hentries]
        rw [← AssocMap.lookup_eq_some, sessionsOf, AssocMap.lookup_retain,
          Option.filter_eq_some_iff] at hmem
        have hkey := h.2 entry.1
        rw [AssocMap.lookup_retain, hmem.1] at hkey
        simp [Option.filter, hmem.2] at hkey
    unfold sessionsOf at hr hlost ⊢
    rw [hr]
    simp [hlost]
  · unfold sessionsOf at hr ⊢
    rw [hr]
    simp

omit [Double F] in
/-- An update of a known session that fails changes nothing if its statement does. -/
theorem unchanged_of_updateKnownSession {key : SessionKey} {e : HistoryError}
    {s' : HistoryState F} {f : Text → Db F → Except HistoryError Unit × Db F}
    (hf : ∀ m e db', f m s.db = (.error e, db') → db'.knownMiners = s.db.knownMiners)
    (h : updateKnownSession s key f = (.error e, s')) : Unchanged s s' := by
  unfold updateKnownSession at h
  cases hl : s.sessions.lookup key with
  | none =>
    simp only [hl] at h
    cases h
  | some m =>
    simp only [hl] at h
    rcases hr : f m s.db with ⟨result, db'⟩
    rw [hr] at h
    cases h
    exact (unchanged_iff (hf m e db' hr)).2 fun _ => rfl

/-- A share that fails changes nothing. -/
theorem failureKeeps_shareAccepted {d : DownstreamId} {c : ChannelId} {kind : Text}
    {accepted blocks seen : UInt64} {diff : F} :
    FailureKeeps lib network order (.shareAccepted d c kind accepted diff blocks seen) s := by
  intro e s' h
  simp only [applyEvent] at h
  refine unchanged_of_updateKnownSession (fun m e db' hf => ?_) h
  cases ha : tryI64 accepted with
  | none =>
    simp only [ha] at hf
    cases hf
    rfl
  | some a =>
    cases hb : tryI64 blocks with
    | none =>
      simp only [ha, hb] at hf
      cases hf
      rfl
    | some b =>
      simp only [ha, hb] at hf
      exact Db.executeUnit_eq_error hf

/-- A reject that fails changes nothing. -/
theorem failureKeeps_shareRejected {d : DownstreamId} {c : ChannelId} {kind reason : Text}
    {rejected seen : UInt64} :
    FailureKeeps lib network order (.shareRejected d c kind reason rejected seen) s := by
  intro e s' h
  simp only [applyEvent] at h
  refine unchanged_of_updateKnownSession (fun m e db' hf => ?_) h
  cases hr : tryI64 rejected with
  | none =>
    simp only [hr] at hf
    cases hf
    rfl
  | some r =>
    simp only [hr] at hf
    exact Db.executeUnit_eq_error hf

end Events

/-- **Which failures change nothing.**  An event that fails leaves the table and the
session map as they were exactly if it fails cleanly. -/
theorem failureKeeps_iff_failsCleanly (network : Network) (order : SessionOrder)
    (event : MinerStatsEvent F) (s : HistoryState F) :
    FailureKeeps lib network order event s ↔ FailsCleanly lib network event s := by
  cases event with
  | channelOpened d c kind u hash t => exact failureKeeps_opened_iff
  | channelClosed d c kind t => exact failureKeeps_closed_iff
  | downstreamClosed d t => exact failureKeeps_downstreamClosed_iff
  | shareAccepted d c kind accepted diff blocks seen =>
    exact iff_of_true failureKeeps_shareAccepted trivial
  | shareRejected d c kind reason rejected seen =>
    exact iff_of_true failureKeeps_shareRejected trivial
  | blockFound d c kind hash blocks t =>
    refine iff_of_true (fun e s' h => ?_) trivial
    cases h

/-- **A close that fails.**  Alice's channel is open and the statement of its close fails:
her row stays connected, and her session is gone from the map. -/
theorem failureKeeps_fails_close :
    ¬ ∀ network order event (s : HistoryState ExactDouble),
      FailureKeeps tableLib network order event s := by
  intro hall
  let s : HistoryState ExactDouble :=
    (applyEvent tableLib .regtest default
      (.channelOpened 1 2 "standard".toList aliceAddress (.num 0) 10) ⟨⟨∅, [false, true]⟩, ∅⟩).2
  have hkeeps := hall .regtest default (.channelClosed 1 2 "standard".toList 20) s .sqlite _ rfl
  have hsession := hkeeps.2 ⟨1, 2, "standard".toList⟩
  cases hsession

end CanaryMining
