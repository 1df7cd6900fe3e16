import CanaryMining.Lib.AssocMap
import CanaryMining.TemplateStatus

/-!
# The mempool mirror of the job validator

A declared job names its transactions by their ids only.  The validator looks them up in a
mirror of the node's mempool, which is fed by the blocks of the templates and by the
transactions a client delivers, and emptied when a template builds on another block.

`Offered` says which transactions that leaves, without a map: those of an event after which
no template changed the tip.  `isSome_lookup_mirrorOf` says that the mirror knows exactly
their ids.

## Main definitions

* `BitcoinTransaction`, `Block` — what is read of a transaction and of a block.
* `decodeBip34Height` — the height in a coinbase script.
* `MempoolMirror`, with `update`, `addTransactions`, `verify`, `getTxdata`.
* `MirrorEvent`, `mirrorOf`, `Offered` — the history of a mirror, and what it offers.
-/

namespace CanaryMining

/-! ## The height of a declared job -/

/-- `u32::from_le_bytes`. -/
def fromLeBytes32 (bytes : List UInt8) : UInt32 := UInt32.ofNat (ofLeBytes bytes)

/-- `decode_bip34_height_from_coinbase_script_sig`. -/
def decodeBip34Height (scriptSig : List UInt8) : Option UInt32 :=
  match scriptSig.head? with
  | none => none
  | some first =>
    if first = 0 then some 0
    else if 0x51 ≤ first ∧ first ≤ 0x60 then some (UInt32.ofNat (first - 0x50).toNat)
    else
      let pushLen := first.toNat
      if pushLen = 0 ∨ 4 < pushLen ∨ scriptSig.length < 1 + pushLen then none
      else
        let pushed := (scriptSig.drop 1).take pushLen
        some (fromLeBytes32 (pushed ++ List.replicate (4 - pushLen) 0))

/-- A push of one to four bytes is read as a number. -/
theorem decodeBip34Height_push {data : List UInt8} (hpos : 0 < data.length)
    (hle : data.length ≤ 4) (trailing : List UInt8) :
    decodeBip34Height (UInt8.ofNat data.length :: data ++ trailing) =
      some (fromLeBytes32 data) := by
  have hlen : (UInt8.ofNat data.length).toNat = data.length :=
    UInt8.toNat_ofNat_of_lt' (show data.length < 256 by omega)
  have hne : UInt8.ofNat data.length ≠ 0 := by
    intro hzero
    rw [hzero] at hlen
    simp at hlen
    omega
  have hop : ¬ (0x51 ≤ UInt8.ofNat data.length ∧ UInt8.ofNat data.length ≤ 0x60) := by
    rw [UInt8.le_iff_toNat_le, hlen]
    intro h
    have hlow : 0x51 ≤ data.length := h.1
    omega
  have hdrop : (UInt8.ofNat data.length :: data ++ trailing).drop 1 = data ++ trailing := rfl
  have hzeros := ofLeBytes_append_replicate_zero data (4 - data.length)
  simp only [decodeBip34Height, List.cons_append, List.head?_cons, if_neg hne, if_neg hop, hlen]
  rw [if_neg (by simp only [List.length_cons, List.length_append]; omega)]
  rw [← List.cons_append, hdrop, List.take_left, fromLeBytes32, fromLeBytes32, hzeros]

/-- An opcode is read as the number it stands for. -/
theorem decodeBip34Height_opcode {h : ℕ} (hle : h ≤ 16) (trailing : List UInt8) :
    decodeBip34Height (pushHeight h ++ trailing) = some (UInt32.ofNat h) := by
  by_cases hzero : h = 0
  · rw [pushHeight, if_pos hzero, hzero]
    rfl
  · have hop : (UInt8.ofNat (0x50 + h)).toNat = 0x50 + h :=
      UInt8.toNat_ofNat_of_lt' (show 0x50 + h < 256 by omega)
    have hne : UInt8.ofNat (0x50 + h) ≠ 0 := by
      intro heq
      rw [heq, UInt8.toNat_zero] at hop
      omega
    have hrange : 0x51 ≤ UInt8.ofNat (0x50 + h) ∧ UInt8.ofNat (0x50 + h) ≤ 0x60 := by
      rw [UInt8.le_iff_toNat_le, UInt8.le_iff_toNat_le, hop]
      exact ⟨show 0x51 ≤ 0x50 + h by omega, show 0x50 + h ≤ 0x60 by omega⟩
    have hsub : (UInt8.ofNat (0x50 + h) - 0x50).toNat = h := by
      rw [UInt8.toNat_sub_of_le _ _ (UInt8.le_iff_toNat_le.2 (by
        rw [hop]
        exact show 0x50 ≤ 0x50 + h by omega)), hop]
      exact Nat.add_sub_cancel_left ..
    rw [pushHeight, if_neg hzero, if_pos hle, List.singleton_append]
    simp only [decodeBip34Height, List.head?_cons, if_neg hne, if_pos hrange, hsub]

/-- **The decoder inverts the encoding** of every height, whatever follows the push.  Unlike
`blockHeightFromCoinbaseScriptSig` it also knows the opcodes. -/
theorem decodeBip34Height_pushHeight {h : ℕ} (hh : h < 2 ^ 31) (trailing : List UInt8) :
    decodeBip34Height (pushHeight h ++ trailing) = some (UInt32.ofNat h) := by
  by_cases hlow : h ≤ 16
  · exact decodeBip34Height_opcode hlow trailing
  · have hpos : 0 < (scriptNum h).length := length_scriptNum_pos (by omega)
    have hle : (scriptNum h).length ≤ 4 :=
      length_scriptNum_le_of_lt (show h < 128 * 256 ^ 3 by omega)
    have hpush : pushHeight h = UInt8.ofNat (scriptNum h).length :: scriptNum h := by
      rw [pushHeight, if_neg (by omega), if_neg (by omega)]
    rw [hpush, decodeBip34Height_push hpos hle, fromLeBytes32, ofLeBytes_scriptNum]

theorem decodeBip34Height_pushHeight_table :
    decodeBip34Height (pushHeight 840000 ++ [0x2f, 0x63]) = some (UInt32.ofNat 840000) :=
  decodeBip34Height_pushHeight (by omega) [0x2f, 0x63]

/-! ## Transactions and blocks -/

/-- A `Txid` or `Wtxid`. -/
abbrev TxHash := BitVec 256

/-- A `BlockHash`. -/
abbrev BlockHash := BitVec 256

/-- What the validator reads of a `Transaction`.  The ids are hashes of its bytes. -/
class BitcoinTransaction (Tx : Type) where
  computeTxid : Tx → TxHash
  computeWtxid : Tx → TxHash
  /-- The scripts of its inputs. -/
  scriptSigs : Tx → List (List UInt8)
  lockTime : Tx → UInt32

open BitcoinTransaction

/-- `block::Header`. -/
structure BlockHeader where
  version : Int32
  prevBlockhash : BlockHash
  merkleRoot : BitVec 256
  time : UInt32
  bits : UInt32
  nonce : UInt32
  deriving DecidableEq, Repr

/-- `Block`. -/
structure Block (Tx : Type) where
  header : BlockHeader
  txdata : List Tx
  deriving DecidableEq, Repr

/-! ## The history of a mirror -/

variable {Tx : Type}

/-- What a mirror is fed with. -/
inductive MirrorEvent (Tx : Type)
  /-- The block of a template. -/
  | template (block : Block Tx)
  /-- The transactions a client delivers. -/
  | delivered (transactions : List Tx)

namespace MirrorEvent

/-- The transactions of an event. -/
def transactions : MirrorEvent Tx → List Tx
  | template block => block.txdata.drop 1
  | delivered transactions => transactions

/-- The block that an event builds on. -/
def prevHash? : MirrorEvent Tx → Option BlockHash
  | template block => some block.header.prevBlockhash
  | delivered _ => none

end MirrorEvent

/-- The tip of a history: the block its last template builds on. -/
def tipOf (events : List (MirrorEvent Tx)) : Option BlockHash :=
  (events.filterMap MirrorEvent.prevHash?).getLast?

/-- No event of a history builds on another block than `tip`. -/
def StaysOn (tip : Option BlockHash) (events : List (MirrorEvent Tx)) : Prop :=
  ∀ e ∈ events, ∀ prevHash, e.prevHash? = some prevHash → tip = some prevHash

/-- A transaction is offered by an event after which the tip never changed. -/
def Offered (events : List (MirrorEvent Tx)) (tx : Tx) : Prop :=
  ∃ before e after, events = before ++ e :: after ∧ tx ∈ e.transactions ∧
    StaysOn (tipOf (before ++ [e])) after

variable {events : List (MirrorEvent Tx)} {e : MirrorEvent Tx} {tx : Tx}

theorem tipOf_concat (events : List (MirrorEvent Tx)) (e : MirrorEvent Tx) :
    tipOf (events ++ [e]) = e.prevHash?.or (tipOf events) := by
  rw [tipOf, tipOf, List.filterMap_append]
  cases e with
  | template block => simp [MirrorEvent.prevHash?]
  | delivered transactions => simp [MirrorEvent.prevHash?]

/-- A history that stays on its tip keeps it. -/
theorem tipOf_append_of_staysOn {after : List (MirrorEvent Tx)} (h : StaysOn (tipOf events) after) :
    tipOf (events ++ after) = tipOf events := by
  induction after using List.reverseRecOn with
  | nil => rw [List.append_nil]
  | append_singleton after e ih =>
    have hkept := ih fun e' he' => h e' (List.mem_append_left _ he')
    rw [← List.append_assoc, tipOf_concat, hkept]
    cases hprev : e.prevHash? with
    | none => rfl
    | some prevHash =>
      rw [h e (List.mem_append_right _ (List.mem_singleton.2 rfl)) prevHash hprev]
      rfl

/-- What is offered after one more event: its own transactions, and what was offered before
if it does not change the tip. -/
theorem offered_concat : Offered (events ++ [e]) tx ↔
    tx ∈ e.transactions ∨ Offered events tx ∧ StaysOn (tipOf events) [e] := by
  constructor
  · rintro ⟨before, e', after, heq, htx, hstays⟩
    rcases List.eq_nil_or_concat after with rfl | ⟨after, last, rfl⟩
    · obtain ⟨rfl, hlast⟩ := List.append_inj' heq rfl
      rw [List.singleton_inj.1 hlast]
      exact .inl htx
    · right
      rw [List.concat_eq_append] at heq hstays
      have hsplit : events ++ [e] = (before ++ e' :: after) ++ [last] := by
        rw [heq]
        simp
      obtain ⟨rfl, hlast⟩ := List.append_inj' hsplit rfl
      rw [List.singleton_inj.1 hlast]
      have hafter : StaysOn (tipOf (before ++ [e'])) after :=
        fun e he => hstays e (List.mem_append_left _ he)
      refine ⟨⟨before, e', after, rfl, htx, hafter⟩, fun e he prevHash hprev => ?_⟩
      rw [List.append_cons, tipOf_append_of_staysOn hafter]
      exact hstays e (List.mem_append_right _ he) prevHash hprev
  · rintro (htx | ⟨⟨before, e', after, rfl, htx, hstays⟩, hlast⟩)
    · exact ⟨events, e, [], rfl, htx, fun _ he => absurd he List.not_mem_nil⟩
    · refine ⟨before, e', after ++ [e], by simp, htx, fun e'' he prevHash hprev => ?_⟩
      rcases List.mem_append.1 he with he | he
      · exact hstays e'' he prevHash hprev
      · rw [List.append_cons, tipOf_append_of_staysOn hstays] at hlast
        exact hlast e'' he prevHash hprev

/-- What is offered stays so as long as the tip does. -/
theorem Offered.append {after : List (MirrorEvent Tx)} (h : Offered events tx)
    (hstays : StaysOn (tipOf events) after) : Offered (events ++ after) tx := by
  induction after using List.reverseRecOn with
  | nil => rwa [List.append_nil]
  | append_singleton after e ih =>
    have hbefore : StaysOn (tipOf events) after :=
      fun e' he' => hstays e' (List.mem_append_left _ he')
    rw [← List.append_assoc, offered_concat, tipOf_append_of_staysOn hbefore]
    exact .inr ⟨ih hbefore, fun e' he' => hstays e' (List.mem_append_right _ he')⟩

/-! ## The mirror -/

variable [BitcoinTransaction Tx]

/-- The height of a coinbase transaction, or its lock time where the script has none. -/
def coinbaseHeight (coinbase : Tx) : UInt32 :=
  ((scriptSigs coinbase).head?.bind decodeBip34Height).getD (lockTime coinbase)

/-- `MempoolMirror`. -/
structure MempoolMirror (Tx : Type) where
  txdata : AssocMap TxHash Tx
  currentPrevHash : Option BlockHash
  currentNbits : Option UInt32
  currentMinNtime : Option UInt32
  currentBip34Height : Option UInt32

namespace MempoolMirror

/-- `MempoolMirror::new`. -/
def new : MempoolMirror Tx := ⟨∅, none, none, none, none⟩

/-- `MempoolMirror::add_transactions`. -/
def addTransactions (m : MempoolMirror Tx) (transactions : List Tx) : MempoolMirror Tx :=
  { m with txdata := transactions.foldl (fun data tx => data.insert (computeWtxid tx) tx) m.txdata }

/-- `MempoolMirror::update`.  The first transaction of a block is its coinbase. -/
def update (m : MempoolMirror Tx) (block : Block Tx) : MempoolMirror Tx :=
  let prevHash := block.header.prevBlockhash
  let kept := if m.currentPrevHash = some prevHash then m.txdata else ∅
  addTransactions
    { txdata := kept
      currentPrevHash := some prevHash
      currentNbits := some block.header.bits
      currentMinNtime := some block.header.time
      currentBip34Height := block.txdata.head?.map coinbaseHeight }
    (block.txdata.drop 1)

/-- `MempoolMirror::get_txdata`. -/
def getTxdata (m : MempoolMirror Tx) (wtxids : List TxHash) : List Tx :=
  wtxids.filterMap fun wtxid => m.txdata.lookup wtxid

/-- `MempoolMirror::verify`. -/
def verify (m : MempoolMirror Tx) (wtxids : List TxHash) : List TxHash :=
  wtxids.filter fun wtxid => (m.txdata.lookup wtxid).isNone

/-- Every transaction is stored under its id. -/
def WellKeyed (m : MempoolMirror Tx) : Prop :=
  ∀ wtxid tx, m.txdata.lookup wtxid = some tx → computeWtxid tx = wtxid

variable {m : MempoolMirror Tx}

theorem wellKeyed_new : (new : MempoolMirror Tx).WellKeyed := by
  intro wtxid tx h
  cases h

theorem WellKeyed.addTransactions (h : m.WellKeyed) (transactions : List Tx) :
    (m.addTransactions transactions).WellKeyed :=
  AssocMap.forall_foldl_insert (P := fun wtxid tx => computeWtxid tx = wtxid) _ _ h fun _ _ => rfl

theorem WellKeyed.update (h : m.WellKeyed) (block : Block Tx) : (m.update block).WellKeyed := by
  unfold MempoolMirror.update
  refine WellKeyed.addTransactions ?_ _
  intro wtxid tx htx
  dsimp only at htx
  split at htx
  · exact h wtxid tx htx
  · cases htx

/-- After an insertion the mirror knows the ids it knew and those of the insertion. -/
theorem isSome_lookup_addTransactions (transactions : List Tx) (wtxid : TxHash) :
    ((m.addTransactions transactions).txdata.lookup wtxid).isSome ↔
      (∃ tx ∈ transactions, computeWtxid tx = wtxid) ∨ (m.txdata.lookup wtxid).isSome := by
  rw [addTransactions, AssocMap.lookup_foldl_insert, Option.isSome_or, Bool.or_eq_true,
    Option.isSome_map, List.getLast?_isSome, ne_eq,
    List.filter_eq_nil_iff]
  simp

/-- After a template the mirror knows the ids of its transactions, and those it knew if the
template builds on the same block. -/
theorem isSome_lookup_update (block : Block Tx) (wtxid : TxHash) :
    ((m.update block).txdata.lookup wtxid).isSome ↔
      (∃ tx ∈ block.txdata.drop 1, computeWtxid tx = wtxid) ∨
        m.currentPrevHash = some block.header.prevBlockhash ∧ (m.txdata.lookup wtxid).isSome := by
  rw [update, isSome_lookup_addTransactions]
  refine or_congr_right ?_
  dsimp only
  split
  · rename_i hsame
    simp [hsame]
  · rename_i hother
    simp [hother]

/-- A list whose ids are all known is found as a whole, in its order. -/
theorem map_getTxdata (h : m.WellKeyed) {wtxids : List TxHash} (hall : m.verify wtxids = []) :
    (m.getTxdata wtxids).map computeWtxid = wtxids := by
  induction wtxids with
  | nil => rfl
  | cons wtxid wtxids ih =>
    rw [verify, List.filter_cons] at hall
    split at hall
    · cases hall
    · rename_i hknown
      have hsome : (m.txdata.lookup wtxid).isSome :=
        Option.ne_none_iff_isSome.1 (by simpa using hknown)
      obtain ⟨tx, htx⟩ := Option.isSome_iff_exists.1 hsome
      have hcons : m.getTxdata (wtxid :: wtxids) = tx :: m.getTxdata wtxids := by
        simp [getTxdata, htx]
      rw [hcons, List.map_cons, h wtxid tx htx, ih hall]

end MempoolMirror

/-- The mirror after an event. -/
def MempoolMirror.apply (m : MempoolMirror Tx) : MirrorEvent Tx → MempoolMirror Tx
  | .template block => m.update block
  | .delivered transactions => m.addTransactions transactions

/-- The mirror after a history. -/
def mirrorOf (events : List (MirrorEvent Tx)) : MempoolMirror Tx :=
  events.foldl MempoolMirror.apply .new

theorem mirrorOf_concat (events : List (MirrorEvent Tx)) (e : MirrorEvent Tx) :
    mirrorOf (events ++ [e]) = (mirrorOf events).apply e := by
  rw [mirrorOf, List.foldl_append]
  rfl

theorem currentPrevHash_mirrorOf (events : List (MirrorEvent Tx)) :
    (mirrorOf events).currentPrevHash = tipOf events := by
  induction events using List.reverseRecOn with
  | nil => rfl
  | append_singleton events e ih =>
    rw [mirrorOf_concat, tipOf_concat, ← ih]
    cases e <;> rfl

theorem wellKeyed_mirrorOf (events : List (MirrorEvent Tx)) : (mirrorOf events).WellKeyed := by
  induction events using List.reverseRecOn with
  | nil => exact MempoolMirror.wellKeyed_new
  | append_singleton events e ih =>
    rw [mirrorOf_concat]
    cases e with
    | template block => exact ih.update block
    | delivered transactions => exact ih.addTransactions transactions

/-- **What the mirror knows** is what its history offers. -/
theorem isSome_lookup_mirrorOf (events : List (MirrorEvent Tx)) (wtxid : TxHash) :
    ((mirrorOf events).txdata.lookup wtxid).isSome ↔
      ∃ tx, Offered events tx ∧ computeWtxid tx = wtxid := by
  induction events using List.reverseRecOn with
  | nil =>
    constructor
    · intro h
      cases h
    · rintro ⟨tx, ⟨before, e, after, hnil, -⟩, -⟩
      simp at hnil
  | append_singleton events e ih =>
    simp only [mirrorOf_concat, offered_concat, or_and_right, exists_or]
    cases e with
    | template block =>
      rw [MempoolMirror.apply, MempoolMirror.isSome_lookup_update, ih, currentPrevHash_mirrorOf]
      simp only [MirrorEvent.transactions, StaysOn, MirrorEvent.prevHash?, List.mem_singleton,
        forall_eq, Option.some.injEq, forall_eq']
      refine or_congr_right ⟨?_, ?_⟩
      · rintro ⟨htip, tx, hoffered, hid⟩
        exact ⟨tx, ⟨hoffered, htip⟩, hid⟩
      · rintro ⟨tx, ⟨hoffered, htip⟩, hid⟩
        exact ⟨htip, tx, hoffered, hid⟩
    | delivered transactions =>
      rw [MempoolMirror.apply, MempoolMirror.isSome_lookup_addTransactions, ih]
      simp [MirrorEvent.transactions, StaysOn, MirrorEvent.prevHash?]

end CanaryMining
