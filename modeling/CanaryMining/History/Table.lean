import CanaryMining.Lib.AssocMap
import CanaryMining.Lib.Double
import CanaryMining.Lib.SqlInt
import CanaryMining.MinerIdentity
import Mathlib.Data.Char
import Mathlib.Data.List.Lex

/-!
# The table of known miners

The history database has one table, keyed by miner id, and one function for each
statement run on it.  A statement either takes effect as a whole or fails and
changes nothing; which ones fail is not up to the program, so the database
carries the outcomes the statements to come will meet.

## Main definitions

* `KnownMinerRow`, `Table` — a row, and the table.
* `Db` — the table together with the outcomes of the statements to come.
* `upsertOpenMiner`, `closeMiner`, `markMinersDisconnected`,
  `deleteOfflineMiner`, `queryMiners` — the functions of the source.
-/

namespace CanaryMining

/-- A row of `known_miners`, less its key. -/
structure KnownMinerRow (F : Type) where
  userIdentity : Text
  payoutAddress : Text
  label : Text
  connected : ℤ
  firstSeenAt : ℤ
  lastSeenAt : ℤ
  openedAt : Option ℤ
  closedAt : Option ℤ
  uptimeSeconds : Option ℤ
  nominalHashrate : F
  sharesAccepted : ℤ
  bestDiff : F
  blocksFound : ℤ
  sharesRejected : ℤ

/-- `known_miners`, by `miner_id`. -/
abbrev Table (F : Type) := AssocMap Text (KnownMinerRow F)

/-- What the functions of the history module fail with. -/
inductive HistoryError
  | sqlite
  | notNull (column : Text)
  | outOfRange (context : Text)
  | identity (source : MinerIdentityError)
  deriving DecidableEq, Repr

/-- The database: its table, and for each statement to come whether it fails.  No
statement after the listed ones fails. -/
structure Db (F : Type) where
  knownMiners : Table F
  faults : List Bool

namespace Db

variable {F : Type}

/-- Runs one statement.  The statement reports the rows it changed, or is
refused by a constraint of the table. -/
def execute (db : Db F) (statement : Table F → Except HistoryError (Table F × ℕ)) :
    Except HistoryError ℕ × Db F :=
  match db.faults with
  | true :: faults => (.error .sqlite, { db with faults := faults })
  | faults =>
    match statement db.knownMiners with
    | .error e => (.error e, { db with faults := faults.tail })
    | .ok (table, changed) => (.ok changed, ⟨table, faults.tail⟩)

/-- Runs one statement whose row count is not looked at. -/
def executeUnit (db : Db F) (statement : Table F → Except HistoryError (Table F × ℕ)) :
    Except HistoryError Unit × Db F :=
  match db.execute statement with
  | (.error e, db) => (.error e, db)
  | (.ok _, db) => (.ok (), db)

/-- A statement that returns ran on the table. -/
theorem execute_eq_ok {db db' : Db F} {n : ℕ}
    {statement : Table F → Except HistoryError (Table F × ℕ)}
    (h : db.execute statement = (.ok n, db')) :
    statement db.knownMiners = .ok (db'.knownMiners, n) := by
  unfold execute at h
  split at h
  · cases h
  · split at h
    · cases h
    · rename_i hs
      rw [hs]
      cases h
      rfl

/-- A failed statement leaves the table as it was. -/
theorem execute_eq_error {db db' : Db F} {e : HistoryError}
    {statement : Table F → Except HistoryError (Table F × ℕ)}
    (h : db.execute statement = (.error e, db')) : db'.knownMiners = db.knownMiners := by
  unfold execute at h
  split at h
  · cases h
    rfl
  · split at h
    · cases h
      rfl
    · cases h

/-- What the table satisfies before a statement and after its effect, it satisfies
after running it, whether or not the statement fails. -/
theorem execute_preserves {P : Table F → Prop} {db : Db F}
    {statement : Table F → Except HistoryError (Table F × ℕ)} (h : P db.knownMiners)
    (hs : ∀ t n, statement db.knownMiners = .ok (t, n) → P t) :
    P (db.execute statement).2.knownMiners := by
  rcases he : db.execute statement with ⟨_ | n, db'⟩
  · rw [execute_eq_error he]
    exact h
  · exact hs _ _ (execute_eq_ok he)

/-- On a database with no fault to come, a statement the table accepts runs. -/
theorem execute_of_faultFree {db : Db F} (hf : db.faults = []) {t : Table F} {n : ℕ}
    {statement : Table F → Except HistoryError (Table F × ℕ)}
    (h : statement db.knownMiners = .ok (t, n)) : db.execute statement = (.ok n, ⟨t, []⟩) := by
  simp only [execute, hf, h, List.tail_nil]

theorem executeUnit_eq_ok {db db' : Db F} {u : Unit}
    {statement : Table F → Except HistoryError (Table F × ℕ)}
    (h : db.executeUnit statement = (.ok u, db')) :
    ∃ n, statement db.knownMiners = .ok (db'.knownMiners, n) := by
  unfold executeUnit at h
  split at h
  · cases h
  · rename_i n db'' he
    cases h
    exact ⟨n, execute_eq_ok he⟩

theorem executeUnit_preserves {P : Table F → Prop} {db : Db F}
    {statement : Table F → Except HistoryError (Table F × ℕ)} (h : P db.knownMiners)
    (hs : ∀ t n, statement db.knownMiners = .ok (t, n) → P t) :
    P (db.executeUnit statement).2.knownMiners := by
  have hp := execute_preserves h hs
  unfold executeUnit
  split <;> simpa [*] using hp

theorem executeUnit_of_faultFree {db : Db F} (hf : db.faults = []) {t : Table F} {n : ℕ}
    {statement : Table F → Except HistoryError (Table F × ℕ)}
    (h : statement db.knownMiners = .ok (t, n)) :
    db.executeUnit statement = (.ok (), ⟨t, []⟩) := by
  simp only [executeUnit, execute_of_faultFree hf h]

end Db

/-! ## The statements -/

namespace KnownMinerRow

variable {F : Type} [Double F]

/-- The row an opened channel inserts, over the row it replaces if there is one. -/
def opened (old : Option (KnownMinerRow F)) (identity : MinerIdentity) (userIdentity : Text)
    (nominalHashrate : F) (openedAt : ℤ) : KnownMinerRow F :=
  { userIdentity := userIdentity
    payoutAddress := identity.payoutAddress
    label := identity.label
    connected := 1
    firstSeenAt := match old with
      | some row => row.firstSeenAt
      | none => openedAt
    lastSeenAt := openedAt
    openedAt := some openedAt
    closedAt := none
    uptimeSeconds := none
    nominalHashrate := nominalHashrate
    sharesAccepted := 0
    bestDiff := Double.zero
    blocksFound := 0
    sharesRejected := 0 }

/-- The row of a miner whose channel closed.  Times are seconds since the epoch, whose
differences the column holds. -/
def closed (row : KnownMinerRow F) (closedAt : ℤ) : KnownMinerRow F :=
  { row with
    connected := 0
    lastSeenAt := closedAt
    closedAt := some closedAt
    uptimeSeconds := match row.openedAt with
      | none => row.uptimeSeconds
      | some openedAt => some (max (closedAt - openedAt) 0)
    nominalHashrate := Double.zero }

/-- The row when a server starts. -/
def disconnected (row : KnownMinerRow F) : KnownMinerRow F :=
  { row with
    connected := 0
    nominalHashrate := Double.zero
    closedAt := some (row.closedAt.getD row.lastSeenAt) }

omit [Double F] in
/-- The row after accepted shares. -/
def accepted (row : KnownMinerRow F) (sharesAccepted : ℤ) (bestDiff : F) (blocksFound : ℤ)
    (lastSeenAt : ℤ) : KnownMinerRow F :=
  { row with
    sharesAccepted := sharesAccepted
    bestDiff := bestDiff
    blocksFound := blocksFound
    lastSeenAt := lastSeenAt }

omit [Double F] in
/-- The row after a rejected share. -/
def rejected (row : KnownMinerRow F) (sharesRejected : ℤ) (lastSeenAt : ℤ) : KnownMinerRow F :=
  { row with
    sharesRejected := sharesRejected
    lastSeenAt := lastSeenAt }

/-- Closing a row twice at one time is closing it once. -/
@[simp] theorem closed_closed (row : KnownMinerRow F) (c : ℤ) :
    (row.closed c).closed c = row.closed c := by
  unfold closed
  cases row.openedAt <;> rfl

end KnownMinerRow

section Statements

variable {Addr F : Type} [Double F] (lib : AddressLib Addr)

/-- `UPDATE known_miners SET … WHERE miner_id = …`. -/
def updateRow (minerId : Text) (f : KnownMinerRow F → KnownMinerRow F) (t : Table F) :
    Except HistoryError (Table F × ℕ) :=
  .ok (t.modify minerId f, if minerId ∈ t then 1 else 0)

/-- `initialize`, which creates the table if there is none. -/
def initializeDb (db : Db F) : Except HistoryError Unit × Db F :=
  db.executeUnit fun t => .ok (t, 0)

/-- `mark_miners_disconnected`. -/
def markMinersDisconnected (db : Db F) : Except HistoryError Unit × Db F :=
  db.executeUnit fun t => .ok (t.mapVals fun _ row => row.disconnected, t.entries.length)

/-- `MinerHistory::open`, on the database found at the path. -/
def openHistory (db : Db F) : Except HistoryError Unit × Db F :=
  match initializeDb db with
  | (.error e, db) => (.error e, db)
  | (.ok (), db) => markMinersDisconnected db

/-- `upsert_open_miner`.  A hashrate that is no number is bound as `NULL`, which
the column refuses. -/
def upsertOpenMiner (db : Db F) (network : Network) (minerId userIdentity : Text)
    (nominalHashrate : F) (openedAt : UInt64) : Except HistoryError Unit × Db F :=
  match parseMinerIdentity lib userIdentity network with
  | .error source => (.error (.identity source), db)
  | .ok identity =>
    db.executeUnit fun t =>
      if Double.isNan nominalHashrate then .error (.notNull "nominal_hashrate".toList)
      else .ok (t.insert minerId (.opened (t.lookup minerId) identity userIdentity
        nominalHashrate (asI64 openedAt)), 1)

/-- `close_miner`. -/
def closeMiner (db : Db F) (minerId : Text) (closedAt : UInt64) :
    Except HistoryError Unit × Db F :=
  db.executeUnit (updateRow minerId fun row => row.closed (asI64 closedAt))

omit [Double F] in
/-- `DELETE FROM known_miners WHERE miner_id = … AND connected = 0`. -/
def deleteOffline (minerId : Text) (t : Table F) : Except HistoryError (Table F × ℕ) :=
  match t.lookup minerId with
  | some row => if row.connected = 0 then .ok (t.erase minerId, 1) else .ok (t, 0)
  | none => .ok (t, 0)

omit [Double F] in
/-- `delete_offline_miner`. -/
def deleteOfflineMiner (db : Db F) (minerId : Text) : Except HistoryError Bool × Db F :=
  match db.execute (deleteOffline minerId) with
  | (.error e, db) => (.error e, db)
  | (.ok deleted, db) => (.ok (0 < deleted), db)

/-- `MinerHistory::delete_miner`. -/
def deleteMiner (db : Db F) (minerId : Text) : Except HistoryError Bool × Db F :=
  match initializeDb db with
  | (.error e, db) => (.error e, db)
  | (.ok (), db) => deleteOfflineMiner db minerId

end Statements

/-! ## What the statements do -/

section Effects

variable {F : Type}

/-- A property of every row of a table and its key. -/
def Table.AllKeyed (Q : Text → KnownMinerRow F → Prop) (t : Table F) : Prop :=
  ∀ m row, t.lookup m = some row → Q m row

namespace Table.AllKeyed

variable {Q : Text → KnownMinerRow F → Prop} {t : Table F}

theorem insert (h : t.AllKeyed Q) {m : Text} {row : KnownMinerRow F} (hrow : Q m row) :
    Table.AllKeyed Q (AList.insert m row t) := by
  intro m' row' h'
  rw [AssocMap.lookup_insert_if] at h'
  by_cases hm : m' = m
  · rw [if_pos hm, Option.some.injEq] at h'
    rw [hm, ← h']
    exact hrow
  · rw [if_neg hm] at h'
    exact h m' row' h'

theorem erase (h : t.AllKeyed Q) (m : Text) : Table.AllKeyed Q (AList.erase m t) := by
  intro m' row' h'
  rw [AssocMap.lookup_erase_if] at h'
  split at h'
  · cases h'
  · exact h m' row' h'

theorem mapVals (h : t.AllKeyed Q) {f : Text → KnownMinerRow F → KnownMinerRow F}
    {Q' : Text → KnownMinerRow F → Prop} (hf : ∀ m row, Q m row → Q' m (f m row)) :
    Table.AllKeyed Q' (AssocMap.mapVals f t) := by
  intro m row' h'
  rw [AssocMap.lookup_mapVals, Option.map_eq_some_iff] at h'
  obtain ⟨row, hrow, rfl⟩ := h'
  exact hf m row (h m row hrow)

theorem modify (h : t.AllKeyed Q) (m : Text) {f : KnownMinerRow F → KnownMinerRow F}
    (hf : ∀ m row, Q m row → Q m (f row)) : Table.AllKeyed Q (AssocMap.modify m f t) := by
  refine h.mapVals fun m' row hrow => ?_
  split
  · exact hf m' row hrow
  · exact hrow

end Table.AllKeyed

/-- A property of every row of a table. -/
def Table.All (Q : KnownMinerRow F → Prop) (t : Table F) : Prop :=
  ∀ m row, t.lookup m = some row → Q row

/-- A server that starts has marked every row it found as disconnected. -/
theorem lookup_of_openHistory [Double F] {db db' : Db F} {u : Unit}
    (h : openHistory db = (.ok u, db')) (m : Text) :
    db'.knownMiners.lookup m = (db.knownMiners.lookup m).map (·.disconnected) := by
  unfold openHistory at h
  split at h
  · cases h
  · rename_i db₁ h₁
    obtain ⟨n₁, hs₁⟩ := Db.executeUnit_eq_ok h₁
    obtain ⟨n₂, hs₂⟩ := Db.executeUnit_eq_ok h
    simp only [Except.ok.injEq, Prod.mk.injEq] at hs₁ hs₂
    rw [← hs₂.1, ← hs₁.1, AssocMap.lookup_mapVals]

/-- A deletion reports and removes exactly a row that is not connected. -/
theorem deleteOfflineMiner_eq_ok {db db' : Db F} {minerId : Text} {deleted : Bool}
    (h : deleteOfflineMiner db minerId = (.ok deleted, db')) :
    (deleted = true ↔ ∃ row, db.knownMiners.lookup minerId = some row ∧ row.connected = 0) ∧
      ∀ m, db'.knownMiners.lookup m =
        if deleted = true ∧ m = minerId then none else db.knownMiners.lookup m := by
  unfold deleteOfflineMiner at h
  split at h
  · cases h
  · rename_i n db₁ he
    have hs := Db.execute_eq_ok he
    unfold deleteOffline at hs
    cases h
    cases hl : db.knownMiners.lookup minerId with
    | none =>
      simp only [hl, Except.ok.injEq, Prod.mk.injEq] at hs
      simp [← hs.1, ← hs.2]
    | some row =>
      by_cases hc : row.connected = 0
      · simp only [hl, hc, if_true, Except.ok.injEq, Prod.mk.injEq] at hs
        simp [← hs.1, ← hs.2, hc]
      · simp only [hl, hc, if_false, Except.ok.injEq, Prod.mk.injEq] at hs
        simp [← hs.1, ← hs.2, hc]

theorem deleteOfflineMiner_of_faultFree {db : Db F} (hf : db.faults = []) (minerId : Text) :
    ∃ deleted t, deleteOfflineMiner db minerId = (.ok deleted, ⟨t, []⟩) := by
  have hs : ∃ t n, deleteOffline minerId db.knownMiners = .ok (t, n) := by
    unfold deleteOffline
    repeat' split
    all_goals exact ⟨_, _, rfl⟩
  obtain ⟨t, n, hs⟩ := hs
  simp only [deleteOfflineMiner, Db.execute_of_faultFree hf hs]
  exact ⟨_, _, rfl⟩

/-- A deletion keeps a property of rows, whether or not its statement fails. -/
theorem deleteOfflineMiner_allKeyed {Q : Text → KnownMinerRow F → Prop} {db : Db F} (m : Text)
    (h : db.knownMiners.AllKeyed Q) : (deleteOfflineMiner db m).2.knownMiners.AllKeyed Q := by
  have hp : (db.execute (deleteOffline m)).2.knownMiners.AllKeyed Q := by
    refine Db.execute_preserves h fun t n ht => ?_
    unfold deleteOffline at ht
    repeat' split at ht
    all_goals cases ht
    · exact h.erase m
    · exact h
    · exact h
  unfold deleteOfflineMiner
  rcases he : db.execute (deleteOffline m) with ⟨_ | n, db'⟩ <;> simpa [he] using hp

theorem deleteOfflineMiner_all {Q : KnownMinerRow F → Prop} {db : Db F} (m : Text)
    (h : db.knownMiners.All Q) : (deleteOfflineMiner db m).2.knownMiners.All Q :=
  deleteOfflineMiner_allKeyed (Q := fun _ => Q) m h

end Effects

/-! ## The miners read back -/

/-- `KnownMiner`. -/
structure KnownMiner (F : Type) where
  minerId : Text
  userIdentity : Text
  payoutAddress : Text
  label : Text
  connected : Bool
  firstSeenAt : UInt64
  lastSeenAt : UInt64
  openedAt : Option UInt64
  closedAt : Option UInt64
  uptimeSeconds : Option UInt64
  nominalHashrate : F
  sharesAccepted : UInt64
  bestDiff : F
  blocksFound : UInt64
  sharesRejected : UInt64

variable {F : Type}

/-- The miner a row of the table is read as. -/
def KnownMinerRow.toKnownMiner (minerId : Text) (row : KnownMinerRow F) : KnownMiner F :=
  { minerId := minerId
    userIdentity := row.userIdentity
    payoutAddress := row.payoutAddress
    label := row.label
    connected := row.connected != 0
    firstSeenAt := asU64 row.firstSeenAt
    lastSeenAt := asU64 row.lastSeenAt
    openedAt := row.openedAt.map asU64
    closedAt := row.closedAt.map asU64
    uptimeSeconds := row.uptimeSeconds.map asU64
    nominalHashrate := row.nominalHashrate
    sharesAccepted := asU64 row.sharesAccepted
    bestDiff := row.bestDiff
    blocksFound := asU64 row.blocksFound
    sharesRejected := asU64 row.sharesRejected }

/-- Whether `a` is listed no later than `b` by `ORDER BY connected DESC,
last_seen_at DESC, label ASC, payout_address ASC`. -/
def rowLe (a b : KnownMinerRow F) : Bool :=
  if a.connected ≠ b.connected then b.connected < a.connected
  else if a.lastSeenAt ≠ b.lastSeenAt then b.lastSeenAt < a.lastSeenAt
  else if a.label ≠ b.label then a.label < b.label
  else a.payoutAddress ≤ b.payoutAddress

/-- `query_miners`.  Rows that compare equal may come in any order. -/
def queryMiners (t : Table F) (order : IterOrder (Σ _ : Text, KnownMinerRow F)) :
    List (KnownMiner F) :=
  ((order.order t.entries).mergeSort fun a b => rowLe a.2 b.2).map fun e =>
    e.2.toKnownMiner e.1

/-- The miners read back are those of the table. -/
theorem mem_queryMiners {t : Table F} {order : IterOrder (Σ _ : Text, KnownMinerRow F)}
    {m : KnownMiner F} :
    m ∈ queryMiners t order ↔ ∃ k row, t.lookup k = some row ∧ m = row.toKnownMiner k := by
  simp only [queryMiners, List.mem_map, List.mem_mergeSort, IterOrder.mem_order,
    AssocMap.lookup_eq_some]
  constructor
  · rintro ⟨e, he, rfl⟩
    exact ⟨e.1, e.2, he, rfl⟩
  · rintro ⟨k, row, he, rfl⟩
    exact ⟨_, he, rfl⟩

end CanaryMining
