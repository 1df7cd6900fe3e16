import CanaryMining.Lib.Run
import CanaryMining.Lib.Text
import Mathlib.Data.UInt

/-!
# The work of the test miner

The native test miner keeps the jobs the pool sent, the last tip, and the targets, and
after each message computes what to work on.  It takes the job the tip named.  A job that
comes later and is not a future one replaces it in the protocol, but not here.

`onCurrentJob_iff_namesRefresh` says in which runs this makes no difference.

## Main definitions

* `MinerState`, `handleFrame` — the miner's state, and what a message does to it.
* `Session` — a miner and the messages it received.
* `OnCurrentJob` — what the miner computes is work on the pool's current job.
* `NamesRefresh` — a job that replaced the one the tip named has its id.
-/

namespace CanaryMining

namespace TestMiner

/-- `[u8; 32]`. -/
abbrev Bytes32 := { bytes : List UInt8 // bytes.length = 32 }

/-- The conversion of a byte string to an array. -/
def tryBytes32 (bytes : List UInt8) : Option Bytes32 :=
  if h : bytes.length = 32 then some ⟨bytes, h⟩ else none

theorem tryBytes32_eq_some {bytes : List UInt8} {array : Bytes32} :
    tryBytes32 bytes = some array ↔ bytes.length = 32 ∧ array.1 = bytes := by
  unfold tryBytes32
  split
  · rename_i hlength
    rw [Option.some.injEq, Subtype.ext_iff]
    exact ⟨fun h => ⟨hlength, h.symm⟩, fun h => h.2.symm⟩
  · rename_i hlength
    exact iff_of_false nofun fun h => hlength h.1

/-- What the miner uses of the Bitcoin library's targets. -/
structure TargetLib where
  Target : Type
  fromLeBytes : Bytes32 → Target
  fromCompact : UInt32 → Target

/-- `ShareMode`. -/
inductive ShareMode
  | blockOnly
  | poolTarget
  deriving DecidableEq, Repr

/-- `NewMiningJob`. -/
structure NewMiningJob where
  channelId : UInt32
  jobId : UInt32
  minNtime : Option UInt32
  version : UInt32
  merkleRoot : List UInt8
  deriving DecidableEq, Repr

/-- `NewMiningJob::is_future`. -/
def NewMiningJob.isFuture (job : NewMiningJob) : Bool := job.minNtime.isNone

/-- `SetNewPrevHash`. -/
structure SetNewPrevHash where
  channelId : UInt32
  jobId : UInt32
  prevHash : List UInt8
  minNtime : UInt32
  nbits : UInt32
  deriving DecidableEq, Repr

/-- The mining messages the miner tells apart. -/
inductive MiningMessage
  | openStandardMiningChannelSuccess (channelId : UInt32) (target : List UInt8)
  | setTarget (channelId : UInt32) (maximumTarget : List UInt8)
  | newMiningJob (job : NewMiningJob)
  | setNewPrevHash (prevHash : SetNewPrevHash)
  | submitSharesSuccess
  | submitSharesError
  | other
  deriving DecidableEq, Repr

variable {B : TargetLib}

/-- `MiningWork`. -/
structure MiningWork (B : TargetLib) where
  channelId : UInt32
  jobId : UInt32
  version : UInt32
  prevHash : Bytes32
  merkleRoot : Bytes32
  nbits : UInt32
  ntime : UInt32
  target : B.Target

/-- `FrameOutcome`. -/
inductive FrameOutcome (B : TargetLib)
  | noWork
  | newWork (work : MiningWork B)
  | acceptedShare

/-- The outcome of a frame that was answered with work, or none. -/
def FrameOutcome.ofWork : Option (MiningWork B) → FrameOutcome B
  | some work => .newWork work
  | none => .noWork

/-- `MinerState`. -/
structure MinerState (B : TargetLib) where
  shareMode : ShareMode
  channelId : Option UInt32
  poolTarget : Option B.Target
  jobs : List NewMiningJob
  prevHash : Option SetNewPrevHash

namespace MinerState

/-- `MinerState::new`. -/
def new (shareMode : ShareMode) : MinerState B := ⟨shareMode, none, none, [], none⟩

/-- `active_work`, at a clock that shows `now`. -/
def activeWork (s : MinerState B) (now : UInt32) : Except Text (Option (MiningWork B)) :=
  match s.channelId, s.prevHash, s.poolTarget with
  | some channelId, some prevHash, some poolTarget =>
    match s.jobs.find? (·.jobId = prevHash.jobId) with
    | none => .ok none
    | some job =>
      let blockTarget := B.fromCompact prevHash.nbits
      let target := match s.shareMode with
        | .blockOnly => blockTarget
        | .poolTarget => poolTarget
      match tryBytes32 prevHash.prevHash with
      | none => .error "prev_hash was not 32 bytes".toList
      | some prevHashBytes =>
        match tryBytes32 job.merkleRoot with
        | none => .error "merkle_root was not 32 bytes".toList
        | some merkleRoot =>
          .ok (some
            { channelId := channelId
              jobId := job.jobId
              version := job.version
              prevHash := prevHashBytes
              merkleRoot := merkleRoot
              nbits := prevHash.nbits
              ntime := max now prevHash.minNtime
              target := target })
  | _, _, _ => .ok none

/-- The work that is computed from the updated state, with this state. -/
def withWork (s : MinerState B) (now : UInt32) :
    Except Text (Option (MiningWork B) × MinerState B) :=
  (s.activeWork now).map (·, s)

/-- The state with a job, in place of one with its id. -/
def insertJob (s : MinerState B) (job : NewMiningJob) : MinerState B :=
  { s with jobs := s.jobs.filter (·.jobId ≠ job.jobId) ++ [job] }

/-- `update_job`. -/
def updateJob (s : MinerState B) (job : NewMiningJob) (now : UInt32) :
    Except Text (Option (MiningWork B) × MinerState B) :=
  if job.isFuture then .ok (none, s.insertJob job) else (s.insertJob job).withWork now

/-- `update_prev_hash`. -/
def updatePrevHash (s : MinerState B) (prevHash : SetNewPrevHash) (now : UInt32) :
    Except Text (Option (MiningWork B) × MinerState B) :=
  { s with prevHash := some prevHash }.withWork now

/-- `update_pool_target`. -/
def updatePoolTarget (s : MinerState B) (target : List UInt8) (now : UInt32) :
    Except Text (Option (MiningWork B) × MinerState B) :=
  match tryBytes32 target with
  | none => .error "pool target was not 32 bytes".toList
  | some target => { s with poolTarget := some (B.fromLeBytes target) }.withWork now

/-- `handle_frame`, for a frame with a mining message. -/
def handleFrame (s : MinerState B) (message : MiningMessage) (now : UInt32) :
    Except Text (FrameOutcome B × MinerState B) :=
  let answer (updated : Except Text (Option (MiningWork B) × MinerState B)) :=
    updated.map (Prod.map FrameOutcome.ofWork id)
  match message with
  | .openStandardMiningChannelSuccess channelId target =>
    answer ({ s with channelId := some channelId }.updatePoolTarget target now)
  | .setTarget _ maximumTarget => answer (s.updatePoolTarget maximumTarget now)
  | .newMiningJob job => answer (s.updateJob job now)
  | .setNewPrevHash prevHash => answer (s.updatePrevHash prevHash now)
  | .submitSharesSuccess => .ok (.acceptedShare, s)
  | .submitSharesError | .other => .ok (.noWork, s)

end MinerState

/-! ## What a message does -/

/-- The states that a message may lead to. -/
def Receives (s : MinerState B) (message : MiningMessage) (s' : MinerState B) : Prop :=
  match message with
  | .openStandardMiningChannelSuccess channelId _ =>
    ∃ target, s' = { s with channelId := some channelId, poolTarget := some target }
  | .setTarget _ _ => ∃ target, s' = { s with poolTarget := some target }
  | .newMiningJob job => s' = s.insertJob job
  | .setNewPrevHash prevHash => s' = { s with prevHash := some prevHash }
  | .submitSharesSuccess | .submitSharesError | .other => s' = s

/-- Work on a job, on a tip. -/
structure WorksOn (tip : SetNewPrevHash) (job : NewMiningJob) (now : UInt32)
    (work : MiningWork B) : Prop where
  jobId : work.jobId = job.jobId
  version : work.version = job.version
  merkleRoot : work.merkleRoot.1 = job.merkleRoot
  prevHash : work.prevHash.1 = tip.prevHash
  nbits : work.nbits = tip.nbits
  ntime : work.ntime = max now tip.minNtime

/-- The miner has a channel, a target, a tip and the job the tip named, of the lengths it
needs. -/
structure Ready (s : MinerState B) (tip : SetNewPrevHash) (job : NewMiningJob) : Prop where
  channelId : s.channelId.isSome
  poolTarget : s.poolTarget.isSome
  prevHash : s.prevHash = some tip
  find : s.jobs.find? (·.jobId = tip.jobId) = some job
  prevHash_length : tip.prevHash.length = 32
  merkleRoot_length : job.merkleRoot.length = 32

namespace MinerState

variable {s s' : MinerState B} {now : UInt32}

theorem withWork_eq_ok {work : Option (MiningWork B)} (h : s.withWork now = .ok (work, s')) :
    s' = s ∧ s.activeWork now = .ok work := by
  unfold withWork at h
  cases hwork : s.activeWork now with
  | error e =>
    rw [hwork] at h
    cases h
  | ok w =>
    rw [hwork] at h
    cases h
    exact ⟨rfl, rfl⟩

theorem updatePoolTarget_eq_ok {target : List UInt8} {work : Option (MiningWork B)}
    (h : s.updatePoolTarget target now = .ok (work, s')) :
    (∃ t, s' = { s with poolTarget := some t }) ∧ s'.activeWork now = .ok work := by
  unfold updatePoolTarget at h
  split at h
  · cases h
  · obtain ⟨rfl, hwork⟩ := withWork_eq_ok h
    exact ⟨⟨_, rfl⟩, hwork⟩

/-- The miner's work is on the job its tip named, and it has some exactly when ready. -/
theorem exists_ready_of_activeWork {work : MiningWork B}
    (h : s.activeWork now = .ok (some work)) :
    ∃ tip job, Ready s tip job ∧ WorksOn tip job now work := by
  unfold activeWork at h
  split at h
  case h_2 => cases h
  case h_1 channelId tip poolTarget hchannel hprevHash htarget =>
    split at h
    · cases h
    · rename_i job hjob
      dsimp only at h
      split at h
      · cases h
      · rename_i prevHash hbytes
        split at h
        · cases h
        · rename_i merkleRoot hroot
          obtain ⟨hlength, hprevHashBytes⟩ := tryBytes32_eq_some.1 hbytes
          obtain ⟨hrootLength, hrootBytes⟩ := tryBytes32_eq_some.1 hroot
          cases h
          have hready : Ready s tip job :=
            ⟨by rw [hchannel]; rfl, by rw [htarget]; rfl, hprevHash, hjob, hlength, hrootLength⟩
          exact ⟨tip, job, hready, ⟨rfl, rfl, hrootBytes, hprevHashBytes, rfl, rfl⟩⟩

theorem exists_activeWork {tip : SetNewPrevHash} {job : NewMiningJob} (h : Ready s tip job)
    (now : UInt32) : ∃ work, s.activeWork now = .ok (some work) ∧ WorksOn tip job now work := by
  obtain ⟨channelId, hchannel⟩ := Option.isSome_iff_exists.1 h.channelId
  obtain ⟨poolTarget, htarget⟩ := Option.isSome_iff_exists.1 h.poolTarget
  have hprevHash : tryBytes32 tip.prevHash = some ⟨tip.prevHash, h.prevHash_length⟩ :=
    dif_pos h.prevHash_length
  have hroot : tryBytes32 job.merkleRoot = some ⟨job.merkleRoot, h.merkleRoot_length⟩ :=
    dif_pos h.merkleRoot_length
  unfold activeWork
  rw [hchannel, htarget, h.prevHash]
  simp only [h.find, hprevHash, hroot]
  exact ⟨_, rfl, ⟨rfl, rfl, rfl, rfl, rfl, rfl⟩⟩

/-- A frame that is answered was answered with what an update computed. -/
theorem exists_of_answer {updated : Except Text (Option (MiningWork B) × MinerState B)}
    {outcome : FrameOutcome B}
    (h : updated.map (Prod.map FrameOutcome.ofWork id) = .ok (outcome, s')) :
    ∃ work, updated = .ok (work, s') ∧ outcome = FrameOutcome.ofWork work := by
  cases updated with
  | error e => cases h
  | ok updated =>
    cases h
    exact ⟨updated.1, rfl, rfl⟩

/-- New work is work that was found. -/
theorem activeWork_of_newWork {found : Option (MiningWork B)} {work : MiningWork B}
    (hfound : s.activeWork now = .ok found) (h : FrameOutcome.ofWork found = .newWork work) :
    s.activeWork now = .ok (some work) := by
  cases found with
  | none => cases h
  | some found =>
    cases h
    exact hfound

/-- **What a handled frame does**: it updates the state, and where it brings work, this is
what the updated state computes. -/
theorem handleFrame_eq_ok {message : MiningMessage} {outcome : FrameOutcome B}
    (h : s.handleFrame message now = .ok (outcome, s')) :
    Receives s message s' ∧
      ∀ work, outcome = .newWork work → s'.activeWork now = .ok (some work) := by
  cases message with
  | openStandardMiningChannelSuccess channelId target =>
    obtain ⟨found, hupdated, rfl⟩ := exists_of_answer h
    obtain ⟨htarget, hfound⟩ := updatePoolTarget_eq_ok hupdated
    exact ⟨htarget, fun work => activeWork_of_newWork hfound⟩
  | setTarget channelId maximumTarget =>
    obtain ⟨found, hupdated, rfl⟩ := exists_of_answer h
    obtain ⟨htarget, hfound⟩ := updatePoolTarget_eq_ok hupdated
    exact ⟨htarget, fun work => activeWork_of_newWork hfound⟩
  | newMiningJob job =>
    obtain ⟨found, hupdated, rfl⟩ := exists_of_answer h
    unfold updateJob at hupdated
    split at hupdated
    · cases hupdated
      exact ⟨rfl, nofun⟩
    · obtain ⟨rfl, hfound⟩ := withWork_eq_ok hupdated
      exact ⟨rfl, fun work => activeWork_of_newWork hfound⟩
  | setNewPrevHash tip =>
    obtain ⟨found, hupdated, rfl⟩ := exists_of_answer h
    obtain ⟨rfl, hfound⟩ := withWork_eq_ok hupdated
    exact ⟨rfl, fun work => activeWork_of_newWork hfound⟩
  | submitSharesSuccess | submitSharesError | other =>
    cases h
    exact ⟨rfl, nofun⟩

end MinerState

/-! ## Sessions -/

/-- Whether the channel was opened.  The messages are listed from the latest to the first. -/
def channelOpened : List MiningMessage → Bool
  | [] => false
  | .openStandardMiningChannelSuccess _ _ :: _ => true
  | _ :: received => channelOpened received

/-- The jobs received, from the latest to the first. -/
def receivedJobs : List MiningMessage → List NewMiningJob
  | [] => []
  | .newMiningJob job :: received => job :: receivedJobs received
  | _ :: received => receivedJobs received

/-- The last tip received. -/
def lastPrevHash : List MiningMessage → Option SetNewPrevHash
  | [] => none
  | .setNewPrevHash tip :: _ => some tip
  | _ :: received => lastPrevHash received

/-- The last job since the last tip that is not a future one. -/
def lastRefresh : List MiningMessage → Option NewMiningJob
  | [] => none
  | .setNewPrevHash _ :: _ => none
  | .newMiningJob job :: received => if job.isFuture then lastRefresh received else some job
  | _ :: received => lastRefresh received

/-- The job the pool made current: the last refresh, or the job the tip named. -/
def CurrentJob (received : List MiningMessage) (tip : SetNewPrevHash) (job : NewMiningJob) :
    Prop :=
  job ∈ receivedJobs received ∧
    match lastRefresh received with
    | some refresh => job = refresh
    | none => job.jobId = tip.jobId

/-- A miner and the messages it received. -/
structure Session (B : TargetLib) where
  miner : MinerState B
  received : List MiningMessage

namespace Session

/-- A miner that has not received a message. -/
def start (shareMode : ShareMode) : Session B := ⟨.new shareMode, []⟩

/-- The miner handles a message, at a clock that shows `frame.2`.  It stops at an error. -/
def next (s : Session B) (frame : MiningMessage × UInt32) : Option (Session B) :=
  match s.miner.handleFrame frame.1 frame.2 with
  | .ok (_, miner) => some ⟨miner, frame.1 :: s.received⟩
  | .error _ => none

theorem received_next {s s' : Session B} {frame : MiningMessage × UInt32}
    (h : Computes next s frame s') : s'.received = frame.1 :: s.received := by
  unfold Computes next at h
  split at h
  · cases h
    rfl
  · cases h

/-- **On the current job.**  Whatever the miner finds to work on, it is the pool's current
job, on the last tip. -/
def OnCurrentJob (s : Session B) : Prop :=
  ∀ now work, s.miner.activeWork now = .ok (some work) →
    ∃ tip job, lastPrevHash s.received = some tip ∧ CurrentJob s.received tip job ∧
      WorksOn tip job now work

end Session

/-- A message brings no job with the id of an earlier one. -/
def FreshJob (received : List MiningMessage) (message : MiningMessage) : Prop :=
  ∀ job, message = .newMiningJob job → ∀ old ∈ receivedJobs received, old.jobId ≠ job.jobId

/-- Once the channel is open and the job the last tip named is here, the last refresh since
this tip, if there is one, has the id it named. -/
def NamesRefresh (received : List MiningMessage) : Prop :=
  ∀ tip, lastPrevHash received = some tip → channelOpened received = true →
    tip.prevHash.length = 32 →
      ∀ job ∈ receivedJobs received, job.jobId = tip.jobId → job.merkleRoot.length = 32 →
        ∀ refresh, lastRefresh received = some refresh → refresh.jobId = tip.jobId

theorem mem_receivedJobs_of_lastRefresh {received : List MiningMessage} {refresh : NewMiningJob}
    (h : lastRefresh received = some refresh) : refresh ∈ receivedJobs received := by
  induction received with
  | nil => cases h
  | cons message received ih =>
    cases message with
    | setNewPrevHash tip => cases h
    | newMiningJob job =>
      unfold lastRefresh at h
      split at h
      · exact List.mem_cons_of_mem _ (ih h)
      · cases h
        exact List.mem_cons_self
    | openStandardMiningChannelSuccess channelId target => exact ih h
    | setTarget channelId maximumTarget => exact ih h
    | submitSharesSuccess | submitSharesError | other => exact ih h

/-- The miner's state is what the messages said. -/
structure Follows (s : Session B) : Prop where
  channelId : s.miner.channelId.isSome = channelOpened s.received
  poolTarget : channelOpened s.received = true → s.miner.poolTarget.isSome
  prevHash : s.miner.prevHash = lastPrevHash s.received
  jobs : s.miner.jobs = (receivedJobs s.received).reverse
  distinct : ((receivedJobs s.received).map (·.jobId)).Nodup

namespace Follows

variable {s s' : Session B} {frame : MiningMessage × UInt32}

theorem start (shareMode : ShareMode) : Follows (Session.start shareMode : Session B) where
  channelId := rfl
  poolTarget := nofun
  prevHash := rfl
  jobs := rfl
  distinct := List.nodup_nil

/-- A frame is handled as the messages say, if it brings no job again. -/
theorem next (h : Follows s) (hs : Computes Session.next s frame s')
    (hfresh : FreshJob s.received frame.1) : Follows s' := by
  obtain ⟨message, now⟩ := frame
  unfold Computes Session.next at hs
  split at hs
  case h_2 => cases hs
  case h_1 outcome miner hhandled =>
    cases hs
    have hreceives := (MinerState.handleFrame_eq_ok hhandled).1
    cases message with
    | openStandardMiningChannelSuccess channelId target =>
      obtain ⟨target, rfl⟩ := hreceives
      exact ⟨rfl, fun _ => rfl, h.prevHash, h.jobs, h.distinct⟩
    | setTarget channelId maximumTarget =>
      obtain ⟨target, rfl⟩ := hreceives
      exact ⟨h.channelId, fun _ => rfl, h.prevHash, h.jobs, h.distinct⟩
    | newMiningJob job =>
      subst hreceives
      have hnew : ∀ old ∈ receivedJobs s.received, old.jobId ≠ job.jobId := hfresh job rfl
      refine ⟨h.channelId, h.poolTarget, h.prevHash, ?_, ?_⟩
      · have hkept : s.miner.jobs.filter (·.jobId ≠ job.jobId) = s.miner.jobs := by
          refine List.filter_eq_self.2 fun old hold => ?_
          rw [h.jobs, List.mem_reverse] at hold
          exact decide_eq_true (hnew old hold)
        change s.miner.jobs.filter (·.jobId ≠ job.jobId) ++ [job] =
          (job :: receivedJobs s.received).reverse
        rw [hkept, h.jobs, List.reverse_cons]
      · rw [receivedJobs, List.map_cons, List.nodup_cons]
        refine ⟨fun hmem => ?_, h.distinct⟩
        obtain ⟨old, hold, heq⟩ := List.mem_map.1 hmem
        exact hnew old hold heq
    | setNewPrevHash tip =>
      subst hreceives
      exact ⟨h.channelId, h.poolTarget, rfl, h.jobs, h.distinct⟩
    | submitSharesSuccess | submitSharesError | other =>
      subst hreceives
      exact ⟨h.channelId, h.poolTarget, h.prevHash, h.jobs, h.distinct⟩

/-- The job with an id is found exactly if it was received. -/
theorem find_eq_some_iff (h : Follows s) {id : UInt32} {job : NewMiningJob} :
    s.miner.jobs.find? (·.jobId = id) = some job ↔
      job ∈ receivedJobs s.received ∧ job.jobId = id := by
  constructor
  · intro hfind
    have hmem := List.mem_of_find?_eq_some hfind
    rw [h.jobs, List.mem_reverse] at hmem
    have hid := List.find?_some hfind
    exact ⟨hmem, by simpa using hid⟩
  · rintro ⟨hmem, hid⟩
    cases hfind : s.miner.jobs.find? (·.jobId = id) with
    | none =>
      have hnone := List.find?_eq_none.1 hfind job (by rw [h.jobs, List.mem_reverse]; exact hmem)
      exact absurd (decide_eq_true hid) hnone
    | some found =>
      have hfound := List.mem_of_find?_eq_some hfind
      rw [h.jobs, List.mem_reverse] at hfound
      have hfoundId := List.find?_some hfind
      have hsame : found.jobId = job.jobId := by
        rw [hid]
        simpa using hfoundId
      rw [List.inj_on_of_nodup_map h.distinct hfound hmem hsame]

/-- **The miner is on the current job** exactly if the tip named the last refresh. -/
theorem onCurrentJob_iff (h : Follows s) : s.OnCurrentJob ↔ NamesRefresh s.received := by
  constructor
  · intro hcurrent tip htip hopened hlength job hjob hid hroot refresh hrefresh
    have hready : Ready s.miner tip job :=
      ⟨h.channelId.trans hopened, h.poolTarget hopened, h.prevHash.trans htip,
        h.find_eq_some_iff.2 ⟨hjob, hid⟩, hlength, hroot⟩
    obtain ⟨work, hwork, hon⟩ := MinerState.exists_activeWork hready 0
    obtain ⟨tip', current, -, hjob', hon'⟩ := hcurrent 0 work hwork
    have heq : current = refresh := by
      have := hjob'.2
      rwa [hrefresh] at this
    rw [← heq, ← hid, ← hon.jobId, hon'.jobId]
  · intro hnames now work hwork
    obtain ⟨tip, job, hready, hon⟩ := MinerState.exists_ready_of_activeWork hwork
    have htip : lastPrevHash s.received = some tip := h.prevHash.symm.trans hready.prevHash
    obtain ⟨hjob, hid⟩ := h.find_eq_some_iff.1 hready.find
    refine ⟨tip, job, htip, ⟨hjob, ?_⟩, hon⟩
    cases hrefresh : lastRefresh s.received with
    | none => exact hid
    | some refresh =>
      have hopened : channelOpened s.received = true := h.channelId.symm.trans hready.channelId
      have hnamed := hnames tip htip hopened hready.prevHash_length job hjob hid
        hready.merkleRoot_length refresh hrefresh
      exact List.inj_on_of_nodup_map h.distinct hjob (mem_receivedJobs_of_lastRefresh hrefresh)
        (hid.trans hnamed.symm)

end Follows

/-- **The miner works on the pool's current job** throughout a run exactly if at no time a
refresh has replaced the job that the tip named. -/
theorem onCurrentJob_iff_namesRefresh {shareMode : ShareMode}
    {ts : List (Transition (Session B) (MiningMessage × UInt32))} {s : Session B}
    (hrun : Run (· = Session.start shareMode) (Computes Session.next) ts s)
    (hfresh : ∀ t ∈ ts, FreshJob t.before.received t.action.1) :
    (∀ t ∈ ts, t.after.OnCurrentJob) ↔
      ∀ t ∈ ts, NamesRefresh (t.action.1 :: t.before.received) := by
  have hfollows := hrun.forall_transition_of (I := Follows)
    (fun s hs => hs ▸ Follows.start shareMode)
    (fun s frame s' h hs hf => h.next hs hf) hfresh
  refine forall₂_congr fun t ht => ?_
  obtain ⟨-, hs, hafter⟩ := hfollows t ht
  rw [hafter.onCurrentJob_iff, Session.received_next hs]

/-! ## A refresh of the mempool -/

/-- Targets that remember what they were made of. -/
def plainTargets : TargetLib where
  Target := Bytes32 ⊕ UInt32
  fromLeBytes := .inl
  fromCompact := .inr

/-- A job of the pool, with a merkle root that repeats the byte of its id. -/
def poolJob (jobId : UInt32) (minNtime : Option UInt32) : NewMiningJob :=
  ⟨1, jobId, minNtime, 0x20000000, List.replicate 32 jobId.toUInt8⟩

/-- The opening of a channel, a future job and the tip that names it. -/
def openingFrames : List (MiningMessage × UInt32) :=
  [(.openStandardMiningChannelSuccess 1 (List.replicate 32 0xff), 100),
    (.newMiningJob (poolJob 1 none), 100),
    (.setNewPrevHash ⟨1, 1, List.replicate 32 7, 90, 0x207fffff⟩, 100)]

/-- After the opening, a job that is not a future one. -/
def refreshFrames : List (MiningMessage × UInt32) :=
  openingFrames ++ [(.newMiningJob (poolJob 2 (some 95)), 101)]

theorem onCurrentJob_opening :
    ∃ (ts : List (Transition (Session plainTargets) (MiningMessage × UInt32))) (s : _),
      Run (· = Session.start .blockOnly) (Computes Session.next) ts s ∧
        ts.map (·.action) = openingFrames ∧
        (∃ work, s.miner.activeWork 100 = .ok (some work)) ∧ ∀ t ∈ ts, t.after.OnCurrentJob := by
  have hrun : Run (· = (Session.start .blockOnly : Session plainTargets))
      (Computes Session.next) _ _ := .ofActions (by rfl) openingFrames rfl
  refine ⟨_, _, hrun, rfl, ⟨_, rfl⟩, (onCurrentJob_iff_namesRefresh hrun ?_).2 ?_⟩
  · refine List.forall_mem_cons.2 ⟨nofun, List.forall_mem_cons.2 ⟨?_, List.forall_mem_cons.2
      ⟨nofun, fun t ht => absurd ht List.not_mem_nil⟩⟩⟩
    exact fun job hjob old hold => absurd hold List.not_mem_nil
  · have hnone : ∀ t ∈ trace Session.next (Session.start .blockOnly : Session plainTargets)
        openingFrames, (lastRefresh (t.action.1 :: t.before.received)).isNone = true :=
      List.all_eq_true.1 rfl
    intro t ht tip _ _ _ job _ _ _ refresh hrefresh
    have hnone := hnone t ht
    rw [hrefresh] at hnone
    cases hnone

/-- **A refresh is not taken up.**  The job that comes after the tip is the current one, and
the miner goes on with the one before it. -/
theorem onCurrentJob_fails_refresh :
    ¬ ∀ (ts : List (Transition (Session plainTargets) (MiningMessage × UInt32))) (s : _),
      Run (· = Session.start .blockOnly) (Computes Session.next) ts s →
        (∀ t ∈ ts, FreshJob t.before.received t.action.1) →
          ∀ t ∈ ts, t.after.OnCurrentJob := by
  intro hall
  have hfresh : ∀ t ∈ trace Session.next (Session.start .blockOnly : Session plainTargets)
      refreshFrames, FreshJob t.before.received t.action.1 := by
    refine List.forall_mem_cons.2 ⟨nofun, List.forall_mem_cons.2 ⟨?_, List.forall_mem_cons.2
      ⟨nofun, List.forall_mem_cons.2 ⟨?_, fun t ht => absurd ht List.not_mem_nil⟩⟩⟩⟩
    · exact fun job hjob old hold => absurd hold List.not_mem_nil
    · intro job hjob old hold
      cases hjob
      rw [List.mem_singleton.1 hold]
      decide
  have hlast := hall _ _ (.ofActions (by rfl) refreshFrames rfl) hfresh _
    (List.mem_of_getElem? (i := 3) rfl)
  obtain ⟨tip, job, -, hcurrent, hon⟩ := hlast 101 _ rfl
  have hid : (1 : UInt32) = job.jobId := hon.jobId
  rw [show job = poolJob 2 (some 95) from hcurrent.2] at hid
  revert hid
  decide

end TestMiner

end CanaryMining
