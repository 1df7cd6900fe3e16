import CanaryMining.Lib.Double
import CanaryMining.Lib.ScriptNum
import CanaryMining.Lib.Text

/-!
# The status of the current template

The dashboard and the health endpoint show the last template the node sent over IPC.  Its
height is read from the script of the coinbase input, which starts with the height as a
push; a template whose height cannot be read is published without a status.

The decoder knows pushes of data only.  The heights below 17 are pushed by opcodes of their
own, so `reportsTemplate_iff` says that a template is reported exactly from height 17 on.

## Main definitions

* `pushHeight` — a height as it is pushed in a coinbase script.
* `blockHeightFromCoinbaseScriptSig` — the decoder.
* `templateStatusSnapshotFromIpc` — the status of a template.
* `apiHealth` — the health endpoint.
* `ReportsTemplate` — the template's height is decoded and its status reported.
-/

namespace CanaryMining

variable {F E : Type} [Double F]

/-! ## The height in the coinbase script -/

/-- A block height as the node pushes it: `OP_0`, one of `OP_1` to `OP_16`, or a length byte
and a script number. -/
def pushHeight (h : ℕ) : List UInt8 :=
  if h = 0 then [0]
  else if h ≤ 16 then [UInt8.ofNat (0x50 + h)]
  else UInt8.ofNat (scriptNum h).length :: scriptNum h

/-- `u64::from_le_bytes`. -/
def fromLeBytes (bytes : List UInt8) : UInt64 := UInt64.ofNat (ofLeBytes bytes)

/-- `block_height_from_coinbase_script_sig`. -/
def blockHeightFromCoinbaseScriptSig (scriptSig : List UInt8) : Option UInt64 :=
  match scriptSig.head? with
  | none => none
  | some first =>
    let pushLen := first.toNat
    if pushLen = 0 ∨ 8 < pushLen ∨ scriptSig.length < 1 + pushLen then none
    else
      let pushed := (scriptSig.drop 1).take pushLen
      some (fromLeBytes (pushed ++ List.replicate (8 - pushLen) 0))

/-- A push of one to eight bytes is read as a number. -/
theorem blockHeightFromCoinbaseScriptSig_push {data : List UInt8} (hpos : 0 < data.length)
    (hle : data.length ≤ 8) (trailing : List UInt8) :
    blockHeightFromCoinbaseScriptSig (UInt8.ofNat data.length :: data ++ trailing) =
      some (fromLeBytes data) := by
  have hlen : (UInt8.ofNat data.length).toNat = data.length :=
    UInt8.toNat_ofNat_of_lt' (show data.length < 256 by omega)
  have hdrop : (UInt8.ofNat data.length :: data ++ trailing).drop 1 = data ++ trailing := rfl
  have hzeros := ofLeBytes_append_replicate_zero data (8 - data.length)
  simp only [blockHeightFromCoinbaseScriptSig, List.cons_append, List.head?_cons, hlen]
  rw [if_neg (by simp only [List.length_cons, List.length_append]; omega)]
  rw [← List.cons_append, hdrop, List.take_left, fromLeBytes, fromLeBytes, hzeros]

/-- An opcode is read as a push that is empty or too long. -/
theorem blockHeightFromCoinbaseScriptSig_opcode {h : ℕ} (hle : h ≤ 16) (trailing : List UInt8) :
    blockHeightFromCoinbaseScriptSig (pushHeight h ++ trailing) = none := by
  by_cases hzero : h = 0
  · rw [pushHeight, if_pos hzero]
    rfl
  · rw [pushHeight, if_neg hzero, if_pos hle]
    have hop : (UInt8.ofNat (0x50 + h)).toNat = 0x50 + h :=
      UInt8.toNat_ofNat_of_lt' (show 0x50 + h < 256 by omega)
    simp only [blockHeightFromCoinbaseScriptSig, List.singleton_append, List.head?_cons, hop]
    exact if_pos (.inr (.inl (by omega)))

/-- **The decoder inverts the encoding** from height 17 on, whatever follows the push. -/
theorem blockHeightFromCoinbaseScriptSig_pushHeight {h : ℕ} (hh : h < 2 ^ 31) (hlow : 17 ≤ h)
    (trailing : List UInt8) :
    blockHeightFromCoinbaseScriptSig (pushHeight h ++ trailing) = some (UInt64.ofNat h) := by
  have hpos : 0 < (scriptNum h).length := length_scriptNum_pos (by omega)
  have hle : (scriptNum h).length ≤ 4 + 1 := length_scriptNum_le (hh.trans (by decide))
  have hpush : pushHeight h = UInt8.ofNat (scriptNum h).length :: scriptNum h := by
    rw [pushHeight, if_neg (by omega), if_neg (by omega)]
  rw [hpush, blockHeightFromCoinbaseScriptSig_push hpos (by omega), fromLeBytes,
    ofLeBytes_scriptNum]

/-! ## The status of a template -/

/-- `block_subsidy_sats`. -/
def blockSubsidySats (height : UInt64) : UInt64 :=
  let halvings := height / 210000
  if 64 ≤ halvings then 0 else 5000000000 >>> halvings

/-- `u64::saturating_add`. -/
def satAdd (a b : UInt64) : UInt64 :=
  if a.toNat + b.toNat < 2 ^ 64 then a + b else 0xFFFFFFFFFFFFFFFF

/-- `u64::checked_sub`. -/
def checkedSub (a b : UInt64) : Option UInt64 := if b ≤ a then some (a - b) else none

/-- `TemplateStatusSource`. -/
inductive TemplateStatusSource
  | ipcBootstrap
  | ipcChainTip
  | ipcMempool
  deriving DecidableEq, Repr

/-- `TemplateStatusKind`. -/
inductive TemplateStatusKind
  | available
  deriving DecidableEq, Repr

/-- `TemplateStatusSnapshot`. -/
structure TemplateStatusSnapshot (F : Type) where
  height : UInt64
  rewardSats : Option UInt64
  feeSats : Option UInt64
  weight : Option UInt64
  weightPercent : Option F
  transactionCount : ℕ
  updatedAt : UInt64
  source : TemplateStatusSource
  status : TemplateStatusKind

/-- What is read of the coinbase transaction: the script of its one input and the values of
its outputs. -/
structure CoinbaseTx where
  scriptSig : List UInt8
  outputValues : List UInt64

/-- What is read of the block a template stands for: its weight and the number of its
transactions, with the coinbase. -/
structure TemplateBlock where
  weight : UInt64
  txdataLen : ℕ

/-- `template_status_snapshot_from_ipc`, with the node's answer to the request of the block.
The values of the outputs are added as a release build does. -/
def templateStatusSnapshotFromIpc (block : Except E TemplateBlock)
    (blockRewardRemaining : UInt64) (coinbaseTx : CoinbaseTx) :
    Except E (Option (TemplateStatusSnapshot F)) := do
  let block ← block
  match blockHeightFromCoinbaseScriptSig coinbaseTx.scriptSig with
  | none => return none
  | some height =>
    let requiredOutputSats := coinbaseTx.outputValues.sum
    let rewardSats := satAdd blockRewardRemaining requiredOutputSats
    return some
      { height := height
        rewardSats := some rewardSats
        feeSats := checkedSub rewardSats (blockSubsidySats height)
        weight := some block.weight
        weightPercent := some (Double.mul (Double.div (Double.ofRat (block.weight.toNat : ℚ))
          (Double.ofRat 4000000)) (Double.ofRat 100))
        transactionCount := block.txdataLen - 1
        updatedAt := 0
        source := .ipcBootstrap
        status := .available }

/-- What `fetch_template_data` keeps of it: an error is only logged. -/
def fetchedStatusSnapshot (result : Except E (Option (TemplateStatusSnapshot F))) :
    Option (TemplateStatusSnapshot F) :=
  match result with
  | .ok statusSnapshot => statusSnapshot
  | .error _ => none

/-- `TemplateData::status_snapshot`. -/
def statusSnapshot (fetched : Option (TemplateStatusSnapshot F))
    (source : TemplateStatusSource) : Option (TemplateStatusSnapshot F) :=
  fetched.map fun snapshot => { snapshot with source := source, status := .available }

/-- `TemplateRuntimeStatus`: the status shown. -/
structure TemplateRuntimeStatus (F : Type) where
  template : Option (TemplateStatusSnapshot F)

namespace TemplateRuntimeStatus

/-- `TemplateRuntimeStatus::default`. -/
def default : TemplateRuntimeStatus F := ⟨none⟩

/-- `TemplateRuntimeStatus::snapshot`. -/
def snapshot (runtime : TemplateRuntimeStatus F) : Option (TemplateStatusSnapshot F) :=
  runtime.template

/-- `TemplateRuntimeStatus::set_template`. -/
def setTemplate (template : TemplateStatusSnapshot F) (unixNow : UInt64) :
    TemplateRuntimeStatus F :=
  ⟨some { template with updatedAt := unixNow }⟩

/-- What `publish_template` does to the status shown. -/
def publishTemplate (runtime : TemplateRuntimeStatus F)
    (fetched : Option (TemplateStatusSnapshot F)) (source : TemplateStatusSource)
    (unixNow : UInt64) : TemplateRuntimeStatus F :=
  match statusSnapshot fetched source with
  | some snapshot => setTemplate snapshot unixNow
  | none => runtime

end TemplateRuntimeStatus

/-! ## The endpoints -/

/-- `MiningRuntimeStatus`. -/
structure MiningRuntimeStatus where
  poolStarted : Bool
  poolError : Option Text

/-- `HealthResponse`. -/
structure HealthResponse where
  ready : Bool
  serverTime : UInt64
  sv2Listening : Bool
  templateAvailable : Bool
  ipcSocketAvailable : Bool
  warning : Option Text
  error : Option Text

/-- `IPC_SETUP_REQUIRED_MESSAGE`. -/
def ipcSetupRequiredMessage : Text :=
  ("Bitcoin Core IPC mining is not enabled. Enable Bitcoin Core IPC in Bitcoin Node " ++
    "settings, restart Bitcoin Node, then restart Canary Mining.").toList

/-- `api_health`. -/
def apiHealth (runtime : MiningRuntimeStatus) (ipcSocketAvailable : Bool)
    (templateRuntime : TemplateRuntimeStatus F) (unixNow : UInt64) : HealthResponse :=
  let templateAvailable := templateRuntime.snapshot.isSome
  let sv2Listening := runtime.poolStarted && runtime.poolError.isNone
  { ready := sv2Listening && ipcSocketAvailable && templateAvailable && runtime.poolError.isNone
    serverTime := unixNow
    sv2Listening := sv2Listening
    templateAvailable := templateAvailable
    ipcSocketAvailable := ipcSocketAvailable
    warning := if ipcSocketAvailable then none else some ipcSetupRequiredMessage
    error := runtime.poolError }

/-- `BlockTemplateStatus`. -/
structure BlockTemplateStatus (F : Type) where
  height : UInt64
  rewardSats : Option UInt64
  feeSats : Option UInt64
  weight : Option UInt64
  weightPercent : Option F
  transactionCount : ℕ
  updatedAt : UInt64
  source : Text
  status : Text

/-- `template_status_source`. -/
def templateStatusSource : TemplateStatusSource → Text
  | .ipcBootstrap => "ipc_bootstrap".toList
  | .ipcChainTip => "ipc_chain_tip".toList
  | .ipcMempool => "ipc_mempool".toList

/-- `template_status_kind`. -/
def templateStatusKind : TemplateStatusKind → Text
  | .available => "available".toList

/-- `block_template_status_from_ipc_snapshot`. -/
def blockTemplateStatusFromIpcSnapshot (snapshot : TemplateStatusSnapshot F) :
    BlockTemplateStatus F where
  height := snapshot.height
  rewardSats := snapshot.rewardSats
  feeSats := snapshot.feeSats
  weight := snapshot.weight
  weightPercent := snapshot.weightPercent
  transactionCount := snapshot.transactionCount
  updatedAt := snapshot.updatedAt
  source := templateStatusSource snapshot.source
  status := templateStatusKind snapshot.status

/-- `cached_block_template_status`. -/
def cachedBlockTemplateStatus (templateRuntime : TemplateRuntimeStatus F) :
    Bool × Option (BlockTemplateStatus F) :=
  let template := templateRuntime.snapshot.map blockTemplateStatusFromIpcSnapshot
  (template.isSome, template)

/-! ## What is reported of a template -/

/-- A template as the node sends it: its block, the reward that is left, the bytes after the
height in the coinbase script, and the values of the required outputs. -/
structure SentTemplate where
  block : TemplateBlock
  blockRewardRemaining : UInt64
  trailing : List UInt8
  outputValues : List UInt64

/-- The coinbase transaction of a template of height `h`. -/
def SentTemplate.coinbaseTx (sent : SentTemplate) (h : ℕ) : CoinbaseTx :=
  ⟨pushHeight h ++ sent.trailing, sent.outputValues⟩

/-- The status kept of a template of height `h`, when the request of its block succeeds. -/
def SentTemplate.status (sent : SentTemplate) (h : ℕ) :
    Except E (Option (TemplateStatusSnapshot F)) :=
  templateStatusSnapshotFromIpc (.ok sent.block) sent.blockRewardRemaining (sent.coinbaseTx h)

/-- The height is decoded, the template has a status, and once it is published the health
endpoint finds a template and the dashboard shows this one. -/
structure ReportsTemplate (E : Type) (h : ℕ) (sent : SentTemplate)
    (shown : TemplateRuntimeStatus F) : Prop where
  decoded : (blockHeightFromCoinbaseScriptSig (pushHeight h ++ sent.trailing)).map
    UInt64.toNat = some h
  snapshot : ∃ snapshot : TemplateStatusSnapshot F,
    sent.status h = (.ok (some snapshot) : Except E _) ∧ snapshot.height.toNat = h
  health : ∀ source unixNow runtime ipcSocketAvailable now,
    (apiHealth runtime ipcSocketAvailable (shown.publishTemplate
      (fetchedStatusSnapshot (sent.status h : Except E _)) source unixNow) now).templateAvailable
  dashboard : ∀ source unixNow,
    (cachedBlockTemplateStatus (shown.publishTemplate
      (fetchedStatusSnapshot (sent.status h : Except E _)) source unixNow)).2.map
        (·.height.toNat) = some h

/-- **A low template has no status**: publishing it leaves the status shown as it was. -/
theorem publishTemplate_low {h : ℕ} (hle : h ≤ 16) (sent : SentTemplate)
    (shown : TemplateRuntimeStatus F) (source : TemplateStatusSource) (unixNow : UInt64) :
    shown.publishTemplate (fetchedStatusSnapshot (sent.status h : Except E _)) source unixNow =
      shown := by
  have hstatus : (sent.status h : Except E (Option (TemplateStatusSnapshot F))) = .ok none := by
    simp only [SentTemplate.status, SentTemplate.coinbaseTx, templateStatusSnapshotFromIpc,
      blockHeightFromCoinbaseScriptSig_opcode hle]
    rfl
  rw [hstatus]
  rfl

/-- **A template is reported** exactly from height 17 on. -/
theorem reportsTemplate_iff {h : ℕ} (hh : h < 2 ^ 31) (sent : SentTemplate)
    (shown : TemplateRuntimeStatus F) : ReportsTemplate E h sent shown ↔ 17 ≤ h := by
  constructor
  · intro hreports
    by_contra hlow
    have hdecoded := hreports.decoded
    rw [blockHeightFromCoinbaseScriptSig_opcode (by omega)] at hdecoded
    cases hdecoded
  · intro hlow
    have hdecoded := blockHeightFromCoinbaseScriptSig_pushHeight hh hlow sent.trailing
    have hheight : (UInt64.ofNat h).toNat = h := by
      refine UInt64.toNat_ofNat_of_lt' (hh.trans ?_)
      decide
    have hstatus : ∃ snapshot : TemplateStatusSnapshot F,
        sent.status h = (.ok (some snapshot) : Except E _) ∧ snapshot.height.toNat = h := by
      simp only [SentTemplate.status, SentTemplate.coinbaseTx, templateStatusSnapshotFromIpc,
        hdecoded]
      exact ⟨_, rfl, hheight⟩
    obtain ⟨snapshot, hsome, hsnapshot⟩ := hstatus
    constructor
    case decoded =>
      rw [hdecoded]
      exact congrArg some hheight
    case snapshot => exact ⟨snapshot, hsome, hsnapshot⟩
    case health =>
      intro source unixNow runtime ipcSocketAvailable now
      rw [hsome]
      rfl
    case dashboard =>
      intro source unixNow
      rw [hsome]
      exact congrArg some hsnapshot

/-! ## Templates of low and of usual height -/

/-- A template whose coinbase script goes on with `OP_0`. -/
def regtestTemplate : SentTemplate :=
  { block := { weight := 1000, txdataLen := 1 }
    blockRewardRemaining := 5000000000
    trailing := [0]
    outputValues := [0] }

theorem reportsTemplate_usual :
    ReportsTemplate Unit 950000 regtestTemplate (.default : TemplateRuntimeStatus ExactDouble) :=
  (reportsTemplate_iff (by decide) regtestTemplate .default).2 (by decide)

/-- **The first template of a regtest chain** is not reported. -/
theorem reportsTemplate_fails_first :
    ¬ ReportsTemplate Unit 1 regtestTemplate (.default : TemplateRuntimeStatus ExactDouble) := by
  intro hreports
  have hdecoded := hreports.decoded
  revert hdecoded
  decide

end CanaryMining
