import CanaryMining.JobDeclaration.Mirror
import CanaryMining.Lib.Merkle
import CanaryMining.Manager.State

/-!
# Templates and solutions

A template is announced without its transactions: a `NewTemplate` message carries what a pool
needs to build a coinbase transaction, and the branch that leads from it to the merkle root.
A solution comes back as a coinbase transaction and header fields.  Before a solved block is
written to disk, its coinbase is compared with that of the template, its header is made from
the branch, and the proof of work is checked; the block is the node's own, with coinbase and
header replaced.

## Main definitions

* `BitcoinLib` — hashes and encodings of the Bitcoin library.
* `TemplateData`, `coinbaseTxFromIpc` — a template, as the node describes it.
* `TemplateData.getNewTemplateMessage` — the announcement, or why there is none.
* `TemplateData.solutionHeader`, `solutionBlock` — the two halves of
  `dump_solution_to_disk`, before and after the node's block is there.

**Main results:** `solutionBlock_valid`, `solutionBlock_of_builtFrom`.
-/

namespace CanaryMining

namespace Tdp

/-! ## Transactions -/

/-- `TxOut`. -/
structure TxOut where
  value : UInt64
  scriptPubkey : List UInt8
  deriving DecidableEq, Repr

/-- `OutPoint`. -/
structure OutPoint where
  txid : TxHash
  vout : UInt32
  deriving DecidableEq, Repr

/-- `OutPoint::null`. -/
def OutPoint.null : OutPoint := ⟨0, 0xffffffff⟩

/-- `TxIn`. -/
structure TxIn where
  previousOutput : OutPoint
  scriptSig : List UInt8
  sequence : UInt32
  witness : List (List UInt8)
  deriving DecidableEq, Repr

/-- `Transaction`. -/
structure Transaction where
  version : Int32
  lockTime : UInt32
  input : List TxIn
  output : List TxOut
  deriving DecidableEq, Repr

/-- What is used of the Bitcoin library's hashes and encodings. -/
structure BitcoinLib where
  sha256d : List UInt8 → TxHash
  toByteArray : TxHash → List UInt8
  computeTxid : Transaction → TxHash
  blockHash : BlockHeader → BlockHash
  /-- The header meets the target of its own bits. -/
  validatePow : BlockHeader → Bool
  /-- `Target::from` the bits. -/
  targetOf : UInt32 → BitVec 256
  serialize : Transaction → List UInt8
  serializeBlock : Block Transaction → List UInt8
  deserialize : List UInt8 → Option Transaction
  serializeTxOut : TxOut → List UInt8
  decodeTxOut : List UInt8 → Option TxOut

variable (L : BitcoinLib)

/-- The node above two nodes of a merkle tree. -/
def BitcoinLib.combine (a b : TxHash) : TxHash := L.sha256d (L.toByteArray a ++ L.toByteArray b)

/-! ## Templates -/

/-- The errors of templates and of the protocol. -/
inductive TdpError
  | invalidCoinbaseTx
  | invalidBlockVersion
  | invalidCoinbaseTxVersion
  | invalidCoinbaseScriptSig
  | failedToSerializeCoinbaseOutputs
  | failedToConvertMerklePathHashToU256
  | failedToCreateMerklePathSeq
  | failedIpcSubmitSolution
  | invalidBlockRewardRemaining (value : Int64)
  | capnp
  deriving DecidableEq, Repr

/-- `CoinbaseTx` of the node's interface. -/
structure IpcCoinbaseTx where
  version : UInt32
  sequence : UInt32
  scriptSigPrefix : List UInt8
  witness : List UInt8
  blockRewardRemaining : Int64
  requiredOutputs : List (List UInt8)
  lockTime : UInt32
  deriving DecidableEq, Repr

/-- The conversion of the remaining reward. -/
def tryU64 (reward : Int64) : Except TdpError UInt64 :=
  if reward < 0 then .error (.invalidBlockRewardRemaining reward) else .ok reward.toUInt64

/-- The required outputs. -/
def decodeOutputs (outputs : List (List UInt8)) : Except TdpError (List TxOut) :=
  match outputs.mapM L.decodeTxOut with
  | some outputs => .ok outputs
  | none => .error .invalidCoinbaseTx

/-- The witness of the coinbase input. -/
def IpcCoinbaseTx.witnessStack (tx : IpcCoinbaseTx) : List (List UInt8) :=
  if tx.witness = [] then [] else [tx.witness]

/-- `coinbase_tx_from_ipc`: the coinbase transaction and the reward that remains. -/
def coinbaseTxFromIpc (tx : IpcCoinbaseTx) : Except TdpError (Transaction × UInt64) := do
  let blockRewardRemaining ← tryU64 tx.blockRewardRemaining
  let outputs ← decodeOutputs L tx.requiredOutputs
  let input := ⟨.null, tx.scriptSigPrefix, tx.sequence, tx.witnessStack⟩
  .ok (⟨tx.version.toInt32, tx.lockTime, [input], outputs⟩, blockRewardRemaining)

/-- `TemplateData`.  `Client` are the handles of the node's templates. -/
structure TemplateData (Client : Type) where
  templateId : UInt64
  header : BlockHeader
  coinbaseTx : Transaction
  blockRewardRemaining : UInt64
  merklePath : List (List UInt8)
  templateIpcClient : Client

/-- `NewTemplate`. -/
structure NewTemplate where
  templateId : UInt64
  futureTemplate : Bool
  version : UInt32
  coinbaseTxVersion : UInt32
  coinbasePrefix : List UInt8
  coinbaseTxInputSequence : UInt32
  coinbaseTxValueRemaining : UInt64
  coinbaseTxOutputsCount : UInt32
  coinbaseTxOutputs : List UInt8
  coinbaseTxLocktime : UInt32
  merklePath : List (List UInt8)
  deriving DecidableEq, Repr

/-- `SetNewPrevHash`. -/
structure SetNewPrevHash where
  templateId : UInt64
  prevHash : BlockHash
  headerTimestamp : UInt32
  nBits : UInt32
  target : BitVec 256
  deriving DecidableEq, Repr

/-- The conversion of a version number. -/
def tryU32 (version : Int32) (e : TdpError) : Except TdpError UInt32 :=
  if version < 0 then .error e else .ok version.toUInt32

namespace TemplateData

variable {Client : Type} (data : TemplateData Client)

/-- `get_coinbase_script_sig`, at most 255 bytes of the first input. -/
def getCoinbaseScriptSig : Except TdpError (List UInt8) :=
  match data.coinbaseTx.input with
  | input :: _ =>
    if input.scriptSig.length ≤ 255 then .ok input.scriptSig else .error .invalidCoinbaseScriptSig
  | [] => .error .invalidCoinbaseScriptSig

/-- `get_coinbase_input_sequence`. -/
def getCoinbaseInputSequence : UInt32 := (data.coinbaseTx.input.head?.map (·.sequence)).getD 0

/-- `get_serialized_required_coinbase_outputs`, at most 65535 bytes. -/
def getSerializedRequiredCoinbaseOutputs : Except TdpError (List UInt8) :=
  let outputs := data.coinbaseTx.output.flatMap L.serializeTxOut
  if outputs.length ≤ 65535 then .ok outputs else .error .failedToSerializeCoinbaseOutputs

/-- `get_merkle_path`: at most 255 hashes of 32 bytes. -/
def getMerklePath : Except TdpError (List (List UInt8)) :=
  if data.merklePath.all (·.length = 32) then
    if data.merklePath.length ≤ 255 then .ok data.merklePath
    else .error .failedToCreateMerklePathSeq
  else .error .failedToConvertMerklePathHashToU256

/-- `get_new_template_message`. -/
def getNewTemplateMessage (futureTemplate : Bool) : Except TdpError NewTemplate := do
  let version ← tryU32 data.header.version .invalidBlockVersion
  let coinbaseTxVersion ← tryU32 data.coinbaseTx.version .invalidCoinbaseTxVersion
  let coinbasePrefix ← data.getCoinbaseScriptSig
  let coinbaseTxOutputs ← data.getSerializedRequiredCoinbaseOutputs L
  let merklePath ← data.getMerklePath
  .ok
    { templateId := data.templateId
      futureTemplate := futureTemplate
      version := version
      coinbaseTxVersion := coinbaseTxVersion
      coinbasePrefix := coinbasePrefix
      coinbaseTxInputSequence := data.getCoinbaseInputSequence
      coinbaseTxValueRemaining := data.blockRewardRemaining
      coinbaseTxOutputsCount := UInt32.ofNat data.coinbaseTx.output.length
      coinbaseTxOutputs := coinbaseTxOutputs
      coinbaseTxLocktime := data.coinbaseTx.lockTime
      merklePath := merklePath }

/-- `get_prev_hash`. -/
def getPrevHash : BlockHash := data.header.prevBlockhash

/-- `get_set_new_prev_hash_message`. -/
def getSetNewPrevHashMessage : SetNewPrevHash :=
  ⟨data.templateId, data.getPrevHash, data.header.time, data.header.bits,
    L.targetOf data.header.bits⟩

/-! ## Solutions -/

/-- The solution's coinbase is congruent with that of the template. -/
def congruent (solutionCoinbaseTx : Transaction) : Bool :=
  solutionCoinbaseTx.version = data.coinbaseTx.version &&
    solutionCoinbaseTx.lockTime = data.coinbaseTx.lockTime &&
      match solutionCoinbaseTx.input, data.coinbaseTx.input with
      | [solved], template :: _ => solved.sequence = template.sequence &&
          solved.witness = template.witness && solved.previousOutput = template.previousOutput
      | _, _ => false

/-- The header of a solution: its merkle root is computed along the template's path. -/
def solvedHeader (solutionCoinbaseTx : Transaction) (solution : SubmitSolution) : BlockHeader where
  version := solution.version.toInt32
  prevBlockhash := data.header.prevBlockhash
  merkleRoot := data.merklePath.foldl
    (fun hash sibling => L.sha256d (L.toByteArray hash ++ sibling))
    (L.computeTxid solutionCoinbaseTx)
  time := solution.headerTimestamp
  bits := data.header.bits
  nonce := solution.headerNonce

/-- The first half of `dump_solution_to_disk`: the header, if coinbase and proof of work are
right. -/
def solutionHeader (solutionCoinbaseTx : Transaction) (solution : SubmitSolution) :
    Option BlockHeader :=
  if data.congruent solutionCoinbaseTx then
    let header := data.solvedHeader L solutionCoinbaseTx solution
    if L.validatePow header then some header else none
  else none

end TemplateData

/-- The second half of `dump_solution_to_disk`: the node's block with the solution in it.  A
block without a transaction panics. -/
def solutionBlock (header : BlockHeader) (solutionCoinbaseTx : Transaction)
    (templateBlock : Block Transaction) : Option (Block Transaction) :=
  match templateBlock.txdata with
  | [] => none
  | _ :: txdata => some ⟨header, solutionCoinbaseTx :: txdata⟩

variable {L} {Client : Type} {data : TemplateData Client} {tx : Transaction}
  {solution : SubmitSolution} {header : BlockHeader} {templateBlock block : Block Transaction}

theorem solutionHeader_eq_some : data.solutionHeader L tx solution = some header ↔
    data.congruent tx = true ∧ L.validatePow header = true ∧
      header = data.solvedHeader L tx solution := by
  unfold TemplateData.solutionHeader
  dsimp only
  split
  · rename_i hcongruent
    split
    · rename_i hpow
      simp only [Option.some.injEq, hcongruent, true_and]
      constructor
      · rintro rfl
        exact ⟨hpow, rfl⟩
      · rintro ⟨-, rfl⟩
        rfl
    · rename_i hpow
      refine iff_of_false nofun ?_
      rintro ⟨-, hvalid, rfl⟩
      exact hpow hvalid
  · rename_i hcongruent
    exact iff_of_false nofun fun h => hcongruent h.1

theorem solutionBlock_eq_some (h : solutionBlock header tx templateBlock = some block) :
    templateBlock.txdata ≠ [] ∧ block = ⟨header, tx :: templateBlock.txdata.tail⟩ := by
  unfold solutionBlock at h
  split at h
  · cases h
  · rename_i first txdata htxdata
    cases h
    rw [htxdata]
    exact ⟨nofun, rfl⟩

/-! ## Solved blocks -/

/-- What the node says of a template: the branch of the first transaction among those of the
block. -/
def DescribedBy (L : BitcoinLib) (data : TemplateData Client) (templateBlock : Block Transaction) :
    Prop :=
  data.merklePath =
    (firstBranch L.combine (templateBlock.txdata.tail.map L.computeTxid)).map L.toByteArray

/-- A block with the transactions of the template and the solution's coinbase, whose header
commits to them, builds on the template's tip and has its proof of work. -/
structure ValidSolution (L : BitcoinLib) (data : TemplateData Client) (tx : Transaction)
    (templateBlock block : Block Transaction) : Prop where
  txdata : block.txdata = tx :: templateBlock.txdata.tail
  merkleRoot : merkleRoot L.combine (block.txdata.map L.computeTxid) = some block.header.merkleRoot
  pow : L.validatePow block.header = true
  prevBlockhash : block.header.prevBlockhash = data.header.prevBlockhash
  bits : block.header.bits = data.header.bits

/-- The path of a template leads from any coinbase to the merkle root. -/
theorem merkleRoot_of_describedBy (h : DescribedBy L data templateBlock)
    (solution : SubmitSolution) :
    merkleRoot L.combine (L.computeTxid tx :: templateBlock.txdata.tail.map L.computeTxid) =
      some (data.solvedHeader L tx solution).merkleRoot := by
  rw [merkleRoot_cons, TemplateData.solvedHeader, h, List.foldl_map]
  rfl

/-- **A solved block is valid**: its header commits to its transactions. -/
theorem solutionBlock_valid (hnode : DescribedBy L data templateBlock)
    (hheader : data.solutionHeader L tx solution = some header)
    (hblock : solutionBlock header tx templateBlock = some block) :
    ValidSolution L data tx templateBlock block := by
  obtain ⟨-, hpow, rfl⟩ := solutionHeader_eq_some.1 hheader
  obtain ⟨-, rfl⟩ := solutionBlock_eq_some hblock
  exact ⟨rfl, merkleRoot_of_describedBy hnode solution, hpow, rfl, rfl⟩

/-! ## Coinbase transactions built from an announcement -/

/-- A coinbase transaction that a pool builds from an announcement: the announced version,
lock time and sequence, a script that starts with the announced one, and the witness. -/
structure BuiltFrom (template : NewTemplate) (witness : List (List UInt8)) (tx : Transaction) :
    Prop where
  version : tx.version = template.coinbaseTxVersion.toInt32
  lockTime : tx.lockTime = template.coinbaseTxLocktime
  input : ∃ extranonce, tx.input = [⟨.null, template.coinbasePrefix ++ extranonce,
    template.coinbaseTxInputSequence, witness⟩]

theorem tryU32_eq_ok {version : Int32} {e : TdpError} {v : UInt32}
    (h : tryU32 version e = .ok v) : v.toInt32 = version := by
  unfold tryU32 at h
  split at h
  · cases h
  · cases h
    exact Int32.toInt32_toUInt32 version

/-- A step that succeeds, before one that does. -/
theorem exists_of_bind_eq_ok {α β : Type} {x : Except TdpError α} {f : α → Except TdpError β}
    {b : β} (h : x >>= f = .ok b) : ∃ a, x = .ok a ∧ f a = .ok b := by
  cases x with
  | error e => cases h
  | ok a => exact ⟨a, rfl, h⟩

/-- What an announcement says of the template. -/
structure Announces (data : TemplateData Client) (futureTemplate : Bool) (template : NewTemplate) :
    Prop where
  templateId : template.templateId = data.templateId
  futureTemplate : template.futureTemplate = futureTemplate
  coinbaseTxValueRemaining : template.coinbaseTxValueRemaining = data.blockRewardRemaining
  coinbaseTxVersion : template.coinbaseTxVersion.toInt32 = data.coinbaseTx.version
  coinbaseTxLocktime : template.coinbaseTxLocktime = data.coinbaseTx.lockTime
  coinbaseTxInputSequence : template.coinbaseTxInputSequence = data.getCoinbaseInputSequence
  merklePath : template.merklePath = data.merklePath

theorem announces_of_getNewTemplateMessage {template : NewTemplate} {futureTemplate : Bool}
    (h : data.getNewTemplateMessage L futureTemplate = .ok template) :
    Announces data futureTemplate template := by
  unfold TemplateData.getNewTemplateMessage at h
  obtain ⟨version, -, h⟩ := exists_of_bind_eq_ok h
  obtain ⟨coinbaseTxVersion, hversion, h⟩ := exists_of_bind_eq_ok h
  obtain ⟨coinbasePrefix, -, h⟩ := exists_of_bind_eq_ok h
  obtain ⟨coinbaseTxOutputs, -, h⟩ := exists_of_bind_eq_ok h
  obtain ⟨merklePath, hpath, h⟩ := exists_of_bind_eq_ok h
  cases h
  refine ⟨rfl, rfl, rfl, tryU32_eq_ok hversion, rfl, rfl, ?_⟩
  unfold TemplateData.getMerklePath at hpath
  split at hpath
  · split at hpath
    · cases hpath
      rfl
    · cases hpath
  · cases hpath

/-- The coinbase transaction of a template that the node described. -/
theorem coinbaseTxFromIpc_eq_ok {ipc : IpcCoinbaseTx} {reward : UInt64}
    (h : coinbaseTxFromIpc L ipc = .ok (tx, reward)) :
    ∃ outputs, tx = ⟨ipc.version.toInt32, ipc.lockTime,
      [⟨.null, ipc.scriptSigPrefix, ipc.sequence, ipc.witnessStack⟩], outputs⟩ := by
  unfold coinbaseTxFromIpc at h
  obtain ⟨remaining, -, h⟩ := exists_of_bind_eq_ok h
  obtain ⟨outputs, -, h⟩ := exists_of_bind_eq_ok h
  cases h
  exact ⟨outputs, rfl⟩

/-- **A coinbase built from the announcement is congruent** with that of the template. -/
theorem congruent_of_builtFrom {ipc : IpcCoinbaseTx} {reward : UInt64} {template : NewTemplate}
    {futureTemplate : Bool} (hipc : coinbaseTxFromIpc L ipc = .ok (data.coinbaseTx, reward))
    (htemplate : data.getNewTemplateMessage L futureTemplate = .ok template)
    (hbuilt : BuiltFrom template ipc.witnessStack tx) :
    data.congruent tx = true := by
  obtain ⟨outputs, hcoinbase⟩ := coinbaseTxFromIpc_eq_ok hipc
  have hannounces := announces_of_getNewTemplateMessage htemplate
  obtain ⟨extranonce, hinput⟩ := hbuilt.input
  have hsequence : template.coinbaseTxInputSequence = ipc.sequence := by
    rw [hannounces.coinbaseTxInputSequence, TemplateData.getCoinbaseInputSequence, hcoinbase]
    rfl
  have hversion : tx.version = data.coinbaseTx.version := by
    rw [hbuilt.version, hannounces.coinbaseTxVersion]
  have hlockTime : tx.lockTime = data.coinbaseTx.lockTime := by
    rw [hbuilt.lockTime, hannounces.coinbaseTxLocktime]
  unfold TemplateData.congruent
  rw [hversion, hlockTime, hinput]
  rw [show data.coinbaseTx.input = _ from congrArg Transaction.input hcoinbase]
  simp [hsequence]

/-! ## A table library -/

/-- A hash for small tables. -/
def tableHash (bytes : List UInt8) : TxHash :=
  BitVec.ofNat 256 (bytes.foldl (fun hash byte => hash * 257 + byte.toNat + 1) 1)

/-- The bytes of a hash. -/
def tableBytes (hash : TxHash) : List UInt8 :=
  (List.range 32).map fun i => UInt8.ofNat (hash.toNat / 256 ^ i)

/-- The transactions of the table are told apart by their lock times. -/
def tableTransaction (lockTime : UInt32) : Transaction := ⟨2, lockTime, [], []⟩

/-- The coinbase transaction that the node describes. -/
def tableIpc : IpcCoinbaseTx := ⟨2, 0xfffffffe, [3, 10, 20], [], 5000, [[7]], 9⟩

/-- The coinbase transaction of a pool. -/
def tableCoinbase : Transaction :=
  ⟨2, 9, [⟨.null, [3, 10, 20, 99], 0xfffffffe, []⟩], [⟨5000, [1]⟩]⟩

/-- The table library. -/
def tableBitcoin : BitcoinLib where
  sha256d := tableHash
  toByteArray := tableBytes
  computeTxid tx := tableHash [tx.lockTime.toUInt8]
  blockHash header := tableHash (tableBytes header.merkleRoot)
  validatePow header := header.nonce = 42
  targetOf bits := BitVec.ofNat 256 bits.toNat
  serialize tx := [tx.lockTime.toUInt8]
  serializeBlock block := block.header.nonce.toUInt8 :: block.txdata.map (·.lockTime.toUInt8)
  deserialize bytes := if bytes = [9] then some tableCoinbase else none
  serializeTxOut output := output.scriptPubkey
  decodeTxOut bytes := some ⟨0, bytes⟩

/-- The node's block of the template, with a coinbase of its own. -/
def tableBlock : Block Transaction :=
  ⟨⟨2, 5, 0, 100, 7, 0⟩, [tableTransaction 8, tableTransaction 1, tableTransaction 2]⟩

/-- The path of the table's coinbase. -/
def tablePath : List (List UInt8) :=
  let other := tableHash [2]
  [tableBytes (tableHash [1]), tableBytes (tableBitcoin.combine other other)]

/-- The template of the table. -/
def tableData : TemplateData Unit :=
  ⟨0, tableBlock.header, ⟨2, 9, [⟨.null, [3, 10, 20], 0xfffffffe, []⟩], [⟨0, [7]⟩]⟩, 5000,
    tablePath, ()⟩

/-- The path and the transactions are those of the table. -/
def tableDescribes (data : TemplateData Unit) (block : Block Transaction) : Bool :=
  data.merklePath = tablePath && block.txdata = tableBlock.txdata

theorem describedBy_of_tableDescribes {data : TemplateData Unit} {block : Block Transaction}
    (h : tableDescribes data block = true) : DescribedBy tableBitcoin data block := by
  rw [tableDescribes, Bool.and_eq_true, decide_eq_true_eq, decide_eq_true_eq] at h
  rw [DescribedBy, h.1, h.2]
  simp [tableBlock, tablePath, firstBranch, merkleLevel, tableBitcoin, tableTransaction]

/-- The announcement of the table's template. -/
def tableNewTemplate : NewTemplate :=
  { templateId := 0
    futureTemplate := true
    version := 2
    coinbaseTxVersion := 2
    coinbasePrefix := [3, 10, 20]
    coinbaseTxInputSequence := 0xfffffffe
    coinbaseTxValueRemaining := 5000
    coinbaseTxOutputsCount := 1
    coinbaseTxOutputs := [7]
    coinbaseTxLocktime := 9
    merklePath := tablePath }

/-- A solution of the table's template. -/
def tableSolution : SubmitSolution := ⟨0, 2, 101, 42, [9]⟩

/-! ## Solved announcements -/

/-- **A solved announcement gives a block.**  A coinbase built from what was announced, with
header fields that give it the proof of work, makes a valid block of the template's. -/
theorem solutionBlock_of_builtFrom {ipc : IpcCoinbaseTx} {reward : UInt64}
    {template : NewTemplate} {futureTemplate : Bool}
    (hipc : coinbaseTxFromIpc L ipc = .ok (data.coinbaseTx, reward))
    (htemplate : data.getNewTemplateMessage L futureTemplate = .ok template)
    (hbuilt : BuiltFrom template ipc.witnessStack tx)
    (hnode : DescribedBy L data templateBlock) (hblock : templateBlock.txdata ≠ [])
    (hpow : L.validatePow (data.solvedHeader L tx solution) = true) :
    ∃ header block, data.solutionHeader L tx solution = some header ∧
      solutionBlock header tx templateBlock = some block ∧
        ValidSolution L data tx templateBlock block := by
  have hcongruent := congruent_of_builtFrom hipc htemplate hbuilt
  have hheader := solutionHeader_eq_some.2 ⟨hcongruent, hpow, rfl⟩
  obtain ⟨first, txdata, htxdata⟩ := List.exists_cons_of_ne_nil hblock
  have hsolved : solutionBlock (data.solvedHeader L tx solution) tx templateBlock =
      some ⟨data.solvedHeader L tx solution, tx :: txdata⟩ := by
    rw [solutionBlock, htxdata]
  exact ⟨_, _, hheader, hsolved, solutionBlock_valid hnode hheader hsolved⟩

/-- A coinbase for the announcement of the table. -/
theorem solutionBlock_of_builtFrom_table : ∃ header block,
    tableData.solutionHeader tableBitcoin tableCoinbase tableSolution = some header ∧
      solutionBlock header tableCoinbase tableBlock = some block ∧
        ValidSolution tableBitcoin tableData tableCoinbase tableBlock block := by
  have hipc : coinbaseTxFromIpc tableBitcoin tableIpc = .ok (tableData.coinbaseTx, 5000) := rfl
  have htemplate : tableData.getNewTemplateMessage tableBitcoin true = .ok tableNewTemplate := by
    decide +kernel
  exact solutionBlock_of_builtFrom hipc htemplate ⟨rfl, rfl, [99], rfl⟩
    (describedBy_of_tableDescribes (by decide +kernel)) (by decide) rfl

end Tdp

end CanaryMining
