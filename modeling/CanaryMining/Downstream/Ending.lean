import CanaryMining.Downstream.Session
import CanaryMining.Downstream.Steps

/-!
# How a connection ends

The manager removes a connection when its task calls `on_disconnect`.  The task does so once,
on whichever of its two ways out, and does nothing to the manager or the peer afterwards.

It leaves by itself.  When the token is cancelled it notices in the next turn of its loop;
when the peer is gone, once it has handled the frames that still wait: a message of the
manager does not hold it up, since frames are polled first.

## Main definitions

* `DownstreamTask.Takes` — how a handler begins.
* `DownstreamTask.IsClosed`, `DownstreamTask.Counted` — what the ways out do.
* `DownstreamTask.Stopping`, `DownstreamTask.budget` — how long the task goes on.

**Main results:** `DownstreamTask.disconnected_once_of_run`, `DownstreamTask.own_steps_le`.
-/

namespace CanaryMining

variable {L : FrameLib} {cfg : ExtensionConfig}

/-- Whether the task has called `on_disconnect`. -/
def TaskPhase.hasDisconnected : TaskPhase → Bool
  | .setupDisconnected | .ended => true
  | _ => false

namespace DownstreamTask

variable {c c' mid : DownstreamTask L} {a : TaskAction L} {r : Handled L}

/-! ## What the handlers leave -/

/-- A handler of frames finds the channel closed and empty, or takes a frame. -/
inductive Takes (c : DownstreamTask L) (r : Handled L) : Prop
  | nothing (hrecv : c.downstreamReceiver.recv = none)
      (hr : r = (c, some ⟨.channelRecv, .disconnect⟩))
  | frame {frame : L.Frame} {channel : Channel L.Frame}
      (hrecv : c.downstreamReceiver.recv = some (frame, channel))
      (hkept : Kept { c with downstreamReceiver := channel } r.1)

/-- The session of a task that has done nothing yet. -/
def sessionFrom (phase : SessionPhase) (c : DownstreamTask L) : Session L :=
  ⟨phase, c.requiresStandardJobs, c.requiresCustomWork, c.negotiatedExtensions, [], []⟩

theorem takes_setupConnectionWithDownstream (c : DownstreamTask L) :
    Takes c c.setupConnectionWithDownstream := by
  cases hrecv : c.downstreamReceiver.recv with
  | none =>
    refine .nothing hrecv ?_
    unfold setupConnectionWithDownstream
    rw [hrecv]
  | some taken =>
    obtain ⟨frame, channel⟩ := taken
    have hagrees : Agrees (sessionFrom .awaitingSetup c) c := ⟨rfl, rfl, rfl⟩
    exact .frame hrecv
      (@handledFrame_setupConnectionWithDownstream L ⟨[], []⟩ _ _ _ _ hrecv hagrees rfl).kept

theorem takes_handleDownstreamMessage (c : DownstreamTask L) :
    Takes c (c.handleDownstreamMessage cfg) := by
  cases hrecv : c.downstreamReceiver.recv with
  | none =>
    refine .nothing hrecv ?_
    unfold handleDownstreamMessage
    rw [hrecv]
  | some taken =>
    obtain ⟨frame, channel⟩ := taken
    have hagrees : Agrees (sessionFrom .established c) c := ⟨rfl, rfl, rfl⟩
    exact .frame hrecv (handledFrame_handleDownstreamMessage hrecv hagrees rfl).kept

/-- Putting out a message leaves the frames alone. -/
theorem kept_handleChannelManagerMessage (c : DownstreamTask L) :
    ∃ channel,
      Kept { c with channelManagerReceiver := channel } c.handleChannelManagerMessage.1 := by
  have hrelayed := relayedMessage_handleChannelManagerMessage c
  generalize c.handleChannelManagerMessage = r at hrelayed ⊢
  cases hrelayed with
  | nothing hr =>
    rw [hr]
    exact ⟨_, .refl c⟩
  | @sent _ channel _ _ _ hr | @failed _ channel _ _ _ hr =>
    rw [hr]
    exact ⟨channel, rfl, rfl, rfl, rfl, rfl⟩

theorem phase_afterHandler (r : Handled L) :
    (afterHandler r).phase = .selecting .start ∨ (afterHandler r).phase = .left := by
  obtain ⟨c, error⟩ := r
  cases error with
  | none => exact .inl rfl
  | some e =>
    simp only [afterHandler]
    split
    · exact .inl rfl
    · exact .inr rfl

theorem phase_afterSetup (r : Handled L) :
    (afterSetup r).phase = .selecting .start ∨ ∃ e, (afterSetup r).phase = .setupFailed e := by
  obtain ⟨c, error⟩ := r
  cases error with
  | none => exact .inl rfl
  | some e => exact .inr ⟨e, rfl⟩

namespace Takes

variable (h : Takes c r)

include h

theorem disconnects : r.1.disconnects = c.disconnects := by
  cases h with
  | nothing hrecv hr => rw [hr]
  | frame hrecv hkept => exact hkept.disconnects

theorem globalCancelled : r.1.globalCancelled = c.globalCancelled := by
  cases h with
  | nothing hrecv hr => rw [hr]
  | frame hrecv hkept => exact hkept.globalCancelled

theorem isOpen : r.1.downstreamReceiver.isOpen = c.downstreamReceiver.isOpen := by
  cases h with
  | nothing hrecv hr => rw [hr]
  | frame hrecv hkept =>
    rw [hkept.downstreamReceiver]
    exact (Channel.of_recv hrecv).2.2.2

end Takes

/-! No handler calls `on_disconnect`. -/

theorem disconnects_setUp (c : DownstreamTask L) :
    (afterSetup c.setupConnectionWithDownstream).disconnects = c.disconnects :=
  (follows_afterSetup _).disconnects.trans (takes_setupConnectionWithDownstream c).disconnects

theorem disconnects_frame (c : DownstreamTask L) :
    (afterHandler (c.handleDownstreamMessage cfg)).disconnects = c.disconnects :=
  (follows_afterHandler _).disconnects.trans (takes_handleDownstreamMessage c).disconnects

theorem disconnects_message (c : DownstreamTask L) :
    (afterHandler c.handleChannelManagerMessage).disconnects = c.disconnects := by
  obtain ⟨channel, hkept⟩ := kept_handleChannelManagerMessage c
  exact (follows_afterHandler _).disconnects.trans hkept.disconnects

/-! ## The ways out -/

/-- Nothing can be sent to the peer or by the manager, and no frame waits or comes. -/
structure IsClosed (c : DownstreamTask L) : Prop where
  downstreamSender : c.downstreamSender.isOpen = false
  channelManagerReceiver : c.channelManagerReceiver.isOpen = false
  downstreamReceiver : c.downstreamReceiver.isOpen = false
  waiting : c.downstreamReceiver.waiting = []

/-- `on_disconnect` is counted, and a task that ends has closed its channels. -/
structure Counted (c : DownstreamTask L) : Prop where
  disconnects : c.disconnects = if c.phase.hasDisconnected then 1 else 0
  closed : c.phase = .closed ∨ c.phase = .ended → c.IsClosed

theorem isClosed_close (c : DownstreamTask L) (q : TaskPhase) :
    IsClosed { c.close with phase := q } := ⟨rfl, rfl, rfl, rfl⟩

theorem IsClosed.around (h : IsClosed c) (haround : Around c c') : IsClosed c' where
  downstreamSender := haround.senderClosed h.downstreamSender
  channelManagerReceiver := haround.channelManagerClosed h.channelManagerReceiver
  downstreamReceiver := (haround.downstreamClosed h.downstreamReceiver).1
  waiting := by
    have hle := (haround.downstreamClosed h.downstreamReceiver).2
    rw [h.waiting] at hle
    exact List.length_eq_zero_iff.1 (Nat.le_zero.1 hle)

/-- A step to a phase that is not on a way out. -/
theorem Counted.of_phase {p q : TaskPhase} (h : Counted c) (hp : c.phase = p)
    (hq : c'.phase = q) (hdisconnects : c'.disconnects = c.disconnects)
    (hbefore : p.hasDisconnected = false) (hafter : q.hasDisconnected = false)
    (hclosed : q ≠ .closed) : Counted c' := by
  refine ⟨?_, fun hor => ?_⟩
  · rw [hdisconnects, h.disconnects, hp, hq, hbefore, hafter]
  · rw [hq] at hor
    rcases hor with rfl | rfl
    · exact absurd rfl hclosed
    · cases hafter

/-- **The ways out**: `on_disconnect` is called once on each. -/
theorem Counted.own (h : Counted c) (hown : OwnStep cfg c c') : Counted c' := by
  have hzero : c.phase.hasDisconnected = false → c.disconnects = 0 := by
    intro hnot
    rw [h.disconnects, hnot]
    rfl
  cases hown with
  | setUp hphase hready =>
    obtain heq | ⟨e, heq⟩ := phase_afterSetup c.setupConnectionWithDownstream
    · exact h.of_phase hphase heq (disconnects_setUp c) rfl rfl nofun
    · exact h.of_phase hphase heq (disconnects_setUp c) rfl rfl nofun
  | frame hphase hready =>
    obtain heq | heq := phase_afterHandler (c.handleDownstreamMessage cfg)
    · exact h.of_phase hphase heq (disconnects_frame c) rfl rfl nofun
    · exact h.of_phase hphase heq (disconnects_frame c) rfl rfl nofun
  | message hphase hready =>
    obtain heq | heq := phase_afterHandler c.handleChannelManagerMessage
    · exact h.of_phase hphase heq (disconnects_message c) rfl rfl nofun
    · exact h.of_phase hphase heq (disconnects_message c) rfl rfl nofun
  | @setupReported e hphase =>
    exact h.of_phase hphase rfl (follows_handleErrorAction (c, none) e .setupReported).disconnects
      rfl rfl nofun
  | polled hphase =>
    cases hcancelled : c.globalCancelled with
    | true => exact h.of_phase (q := .left) hphase rfl rfl rfl rfl nofun
    | false => exact h.of_phase (q := .selecting .notCancelled) hphase rfl rfl rfl rfl nofun
  | noFrame hphase hpending => exact h.of_phase hphase rfl rfl rfl rfl nofun
  | noMessage hphase hpending => exact h.of_phase hphase rfl rfl rfl rfl nofun
  | cancelled hphase => exact h.of_phase hphase rfl rfl rfl rfl nofun
  | closed hphase =>
    refine ⟨hzero ?_, fun _ => isClosed_close c _⟩
    rw [hphase]
    rfl
  | setupDisconnected hphase =>
    refine ⟨congrArg (· + 1) (hzero ?_), nofun⟩
    rw [hphase]
    rfl
  | disconnected hphase =>
    have hclosed := h.closed (.inl hphase)
    refine ⟨congrArg (· + 1) (hzero ?_), fun _ => ⟨hclosed.downstreamSender,
      hclosed.channelManagerReceiver, hclosed.downstreamReceiver, hclosed.waiting⟩⟩
    rw [hphase]
    rfl
  | setupClosed hphase =>
    refine ⟨?_, fun _ => isClosed_close c _⟩
    rw [show ({ c.close with phase := .ended } : DownstreamTask L).disconnects = c.disconnects
      from rfl, h.disconnects, hphase]
    rfl

theorem Counted.step (h : Counted c) (hstep : TaskStep cfg c a c') : Counted c' := by
  cases hstep with
  | own hown => exact h.own hown
  | around ha haround =>
    refine ⟨?_, fun hor => ?_⟩
    · rw [haround.disconnects, haround.phase]
      exact h.disconnects
    · rw [haround.phase] at hor
      exact (h.closed hor).around haround

theorem counted_of_run {ts : List (Transition (DownstreamTask L) (TaskAction L))}
    (h : Run Started (Computes (next cfg)) ts c) : Counted c := by
  refine h.invariant (fun c hc => ⟨?_, fun hor => ?_⟩)
    fun c a c' hc hnext => hc.step (taskStep_of_next hnext)
  · rw [hc.disconnects, hc.phase]
    rfl
  · rw [hc.phase] at hor
    exact hor.elim nofun nofun

theorem Idles.refl (c : DownstreamTask L) : Idles c c := ⟨rfl, rfl, rfl, rfl, rfl, rfl, rfl, id⟩

theorem Idles.trans {c'' : DownstreamTask L} (h : Idles c c') (h' : Idles c' c'') :
    Idles c c'' where
  downstreamReceived := h'.downstreamReceived.trans h.downstreamReceived
  channelManagerReceived := h'.channelManagerReceived.trans h.channelManagerReceived
  downstreamSent := h'.downstreamSent.trans h.downstreamSent
  channelManagerSent := h'.channelManagerSent.trans h.channelManagerSent
  requiresStandardJobs := h'.requiresStandardJobs.trans h.requiresStandardJobs
  requiresCustomWork := h'.requiresCustomWork.trans h.requiresCustomWork
  negotiatedExtensions := h'.negotiatedExtensions.trans h.negotiatedExtensions
  globalCancelled h₀ := h'.globalCancelled (h.globalCancelled h₀)

/-- After `on_disconnect` the task only closes its channels. -/
theorem idles_of_hasDisconnected (hc : c.phase.hasDisconnected = true)
    (hstep : TaskStep cfg c a c') : Idles c c' ∧ c'.phase.hasDisconnected = true := by
  cases hstep with
  | around ha haround => exact ⟨haround.toIdles, haround.phase ▸ hc⟩
  | own hown =>
    cases hown with
    | setupClosed hphase => exact ⟨⟨rfl, rfl, rfl, rfl, rfl, rfl, rfl, id⟩, rfl⟩
    | setUp hphase | setupReported hphase | setupDisconnected hphase | polled hphase
    | noFrame hphase | frame hphase | noMessage hphase | message hphase | cancelled hphase
    | closed hphase | disconnected hphase =>
      rw [hphase] at hc
      cases hc

/-- **A connection is given up once**, in every run.  Its task calls `on_disconnect` at most
once, and has closed its channels when it ends; after the call, it takes, forwards and puts
out nothing more. -/
theorem disconnected_once_of_run
    {before after : List (Transition (DownstreamTask L) (TaskAction L))}
    (hbefore : Run Started (Computes (next cfg)) before mid)
    (hafter : Run (fun c => c = mid) (Computes (next cfg)) after c) :
    c.disconnects ≤ 1 ∧ (c.phase = .ended → c.disconnects = 1 ∧ c.IsClosed) ∧
      (mid.disconnects = 1 → c.disconnects = 1 ∧ Idles mid c) := by
  have hcounted := counted_of_run (hbefore.append hafter)
  have hone : c.phase.hasDisconnected = true → c.disconnects = 1 := fun h =>
    hcounted.disconnects.trans (if_pos h)
  refine ⟨?_, fun hphase => ⟨hone (by rw [hphase]; rfl), hcounted.closed (.inr hphase)⟩,
    fun hmid => ?_⟩
  · rw [hcounted.disconnects]
    split
    · exact Nat.le_refl 1
    · exact Nat.zero_le 1
  · have hhas : mid.phase.hasDisconnected = true := by
      by_contra hnot
      have hzero := (counted_of_run hbefore).disconnects
      rw [if_neg hnot, hmid] at hzero
      cases hzero
    have hidles : Idles mid c ∧ c.phase.hasDisconnected = true := by
      refine hafter.invariant (I := fun c => Idles mid c ∧ c.phase.hasDisconnected = true) ?_ ?_
      · rintro _ rfl
        exact ⟨.refl _, hhas⟩
      · rintro c a c' ⟨hidle, hc⟩ hnext
        obtain ⟨hidle', hc'⟩ := idles_of_hasDisconnected hc (taskStep_of_next hnext)
        exact ⟨hidle.trans hidle', hc'⟩
    exact ⟨hone hidles.2, hidles.1⟩

theorem disconnected_once_of_run_table :
    (tableAfter (tableEnds ++ [.writerEnds])).disconnects ≤ 1 ∧
      ((tableAfter (tableEnds ++ [.writerEnds])).phase = .ended →
        (tableAfter (tableEnds ++ [.writerEnds])).disconnects = 1 ∧
          (tableAfter (tableEnds ++ [.writerEnds])).IsClosed) ∧
      ((tableAfter tableEnds).disconnects = 1 →
        (tableAfter (tableEnds ++ [.writerEnds])).disconnects = 1 ∧
          Idles (tableAfter tableEnds) (tableAfter (tableEnds ++ [.writerEnds]))) :=
  disconnected_once_of_run (tableRun tableEnds (by rfl))
    (.ofActions (by rfl) [TaskAction.writerEnds] (by rfl))

/-! ## How long it takes -/

/-- Something ends the task: the token is cancelled, or no more frames come. -/
def Stopping (c : DownstreamTask L) : Prop :=
  c.globalCancelled = true ∨ c.downstreamReceiver.isOpen = false

/-- How many steps the task still takes at most, with so many frames waiting. -/
def budgetWith (cancelled : Bool) (waiting : ℕ) : TaskPhase → ℕ
  | .settingUp => if cancelled then 5 else 2 * waiting + 6
  | .selecting .start => if cancelled then 4 else 2 * waiting + 7
  | .selecting .notCancelled => if cancelled then 6 else 2 * waiting + 6
  | .selecting .noFrame => if cancelled then 5 else 2 * waiting + 8
  | .setupFailed _ | .left => 3
  | .setupReported | .cancelled => 2
  | .setupDisconnected | .closed => 1
  | .ended => 0

def budget (c : DownstreamTask L) : ℕ :=
  budgetWith c.globalCancelled c.downstreamReceiver.waiting.length c.phase

/-- A cancelled task has no more left, however many frames wait. -/
theorem budgetWith_cancelled_le (cancelled : Bool) (waiting waiting' : ℕ) (phase : TaskPhase) :
    budgetWith true waiting phase ≤ budgetWith cancelled waiting' phase := by
  cases cancelled with
  | true =>
    cases phase with
    | selecting point => cases point <;> exact Nat.le_refl _
    | _ => exact Nat.le_refl _
  | false =>
    cases phase with
    | selecting point =>
      cases point with
      | start | notCancelled | noFrame =>
        simp only [budgetWith, if_true, Bool.false_eq_true, if_false]
        omega
    | settingUp =>
      simp only [budgetWith, if_true, Bool.false_eq_true, if_false]
      omega
    | _ => exact Nat.le_refl _

theorem budgetWith_le {waiting waiting' : ℕ} (hle : waiting ≤ waiting') (cancelled : Bool)
    (phase : TaskPhase) :
    budgetWith cancelled waiting phase ≤ budgetWith cancelled waiting' phase := by
  cases cancelled with
  | true => exact budgetWith_cancelled_le _ _ _ _
  | false =>
    cases phase with
    | selecting point =>
      cases point with
      | start | notCancelled | noFrame =>
        simp only [budgetWith, Bool.false_eq_true, if_false]
        omega
    | settingUp =>
      simp only [budgetWith, Bool.false_eq_true, if_false]
      omega
    | _ => exact Nat.le_refl _

theorem budgetWith_mono {cancelled cancelled' : Bool} (h : cancelled = true → cancelled' = true)
    (waiting : ℕ) (phase : TaskPhase) :
    budgetWith cancelled' waiting phase ≤ budgetWith cancelled waiting phase := by
  cases hcancelled : cancelled' with
  | true => exact budgetWith_cancelled_le _ _ _ _
  | false =>
    cases cancelled with
    | true =>
      rw [h rfl] at hcancelled
      cases hcancelled
    | false => exact Nat.le_refl _

theorem budgetWith_true_le (waiting : ℕ) (phase : TaskPhase) :
    budgetWith true waiting phase ≤ 6 := by
  cases phase with
  | selecting point => cases point <;> simp [budgetWith]
  | _ => simp [budgetWith]

theorem budget_le (c : DownstreamTask L) :
    c.budget ≤ 2 * c.downstreamReceiver.waiting.length + 8 := by
  refine Nat.le_trans (@budgetWith_mono false _ nofun _ _) ?_
  cases c.phase with
  | selecting point => cases point <;> simp [budgetWith]
  | _ => simp [budgetWith]

/-- What the others do costs the task no steps. -/
theorem Stopping.around (h : c.Stopping) (haround : Around c c') :
    c'.Stopping ∧ c'.budget ≤ c.budget := by
  unfold budget
  rw [haround.phase]
  cases hcancelled : c'.globalCancelled with
  | true => exact ⟨.inl hcancelled, budgetWith_cancelled_le _ _ _ _⟩
  | false =>
    have hcancelled' : c.globalCancelled = false := by
      by_contra hne
      rw [haround.globalCancelled (by simpa using hne)] at hcancelled
      cases hcancelled
    have hclosed : c.downstreamReceiver.isOpen = false := by
      rcases h with h | h
      · rw [hcancelled'] at h
        cases h
      · exact h
    obtain ⟨hclosed', hle⟩ := haround.downstreamClosed hclosed
    rw [hcancelled']
    exact ⟨.inr hclosed', budgetWith_le hle _ _⟩

/-- Nothing is opened again, and no cancellation is taken back. -/
theorem OwnStep.keeps (hown : OwnStep cfg c c') :
    (c.globalCancelled = true → c'.globalCancelled = true) ∧
      (c.downstreamReceiver.isOpen = false → c'.downstreamReceiver.isOpen = false) := by
  have htakes : ∀ {r : Handled L}, Takes c r → Follows r c' →
      (c.globalCancelled = true → c'.globalCancelled = true) ∧
        (c.downstreamReceiver.isOpen = false → c'.downstreamReceiver.isOpen = false) := by
    intro r htakes hfollows
    refine ⟨fun h => hfollows.globalCancelled (htakes.globalCancelled.trans h), fun h => ?_⟩
    rw [hfollows.downstreamReceiver, htakes.isOpen]
    exact h
  cases hown with
  | setUp hphase hready =>
    exact htakes (takes_setupConnectionWithDownstream c) (follows_afterSetup _)
  | frame hphase hready => exact htakes (takes_handleDownstreamMessage c) (follows_afterHandler _)
  | message hphase hready =>
    obtain ⟨channel, hkept⟩ := kept_handleChannelManagerMessage c
    have hfollows := follows_afterHandler c.handleChannelManagerMessage
    refine ⟨fun h => hfollows.globalCancelled (hkept.globalCancelled.trans h), fun h => ?_⟩
    rw [hfollows.downstreamReceiver, hkept.downstreamReceiver]
    exact h
  | @setupReported e hphase =>
    have hfollows := follows_handleErrorAction (c, none) e .setupReported
    refine ⟨hfollows.globalCancelled, fun h => ?_⟩
    rw [hfollows.downstreamReceiver]
    exact h
  | closed hphase | setupClosed hphase => exact ⟨id, fun _ => rfl⟩
  | _ => exact ⟨id, id⟩

/-- With a frame fewer, the task has time to start another turn. -/
theorem Takes.budget_lt (h : Takes c r) (hfollows : Follows r c')
    (hphase : c'.phase = .selecting .start)
    (hlogged : c'.globalCancelled = false → ∀ e, r.2 = some e → e.action = .log) :
    c'.budget < if c.globalCancelled then 5 else 2 * c.downstreamReceiver.waiting.length + 6 := by
  unfold budget
  rw [hphase]
  cases hcancelled : c'.globalCancelled with
  | true =>
    simp only [budgetWith, if_true]
    split <;> omega
  | false =>
    have hcancelled' : c.globalCancelled = false := by
      by_contra hne
      have htrue : r.1.globalCancelled = true := h.globalCancelled.trans (by simpa using hne)
      rw [hfollows.globalCancelled htrue] at hcancelled
      cases hcancelled
    simp only [hcancelled', budgetWith, Bool.false_eq_true, if_false]
    cases h with
    | nothing hrecv hr =>
      rw [hr] at hlogged
      cases hlogged hcancelled _ rfl
    | frame hrecv hkept =>
      have hwaiting : c'.downstreamReceiver.waiting.length + 1 =
          c.downstreamReceiver.waiting.length := by
        rw [hfollows.downstreamReceiver, hkept.downstreamReceiver, (Channel.of_recv hrecv).2.1]
        rfl
      omega

theorem budget_setUp (hphase : c.phase = .settingUp) : c.budget =
    if c.globalCancelled then 5 else 2 * c.downstreamReceiver.waiting.length + 6 := by
  unfold budget
  rw [hphase]
  rfl

theorem le_budget_notCancelled (hphase : c.phase = .selecting .notCancelled) :
    (if c.globalCancelled then 5 else 2 * c.downstreamReceiver.waiting.length + 6) ≤
      c.budget := by
  unfold budget
  rw [hphase]
  simp only [budgetWith]
  split <;> omega

/-- **Every step of the task** brings its end nearer. -/
theorem Stopping.budget_lt (h : c.Stopping) (hown : OwnStep cfg c c') : c'.budget < c.budget := by
  cases hown with
  | setUp hphase hready =>
    rw [budget_setUp hphase]
    obtain heq | ⟨e, heq⟩ := phase_afterSetup c.setupConnectionWithDownstream
    · refine (takes_setupConnectionWithDownstream c).budget_lt (follows_afterSetup _) heq
        fun hcancelled e he => ?_
      rw [going_afterSetup ⟨.start, heq, fun _ => hcancelled⟩] at he
      cases he
    · unfold budget
      rw [heq]
      simp only [budgetWith]
      split <;> omega
  | frame hphase hready =>
    refine Nat.lt_of_lt_of_le ?_ (le_budget_notCancelled hphase)
    obtain heq | heq := phase_afterHandler (c.handleDownstreamMessage cfg)
    · refine (takes_handleDownstreamMessage c).budget_lt (follows_afterHandler _) heq
        fun hcancelled e he => ?_
      obtain hnone | ⟨e', he', hlog⟩ := going_afterHandler ⟨.start, heq, fun _ => hcancelled⟩
      · rw [hnone] at he
        cases he
      · rw [he'] at he
        cases he
        exact hlog
    · unfold budget
      rw [heq]
      simp only [budgetWith]
      split <;> omega
  | message hphase hready =>
    have hown : OwnStep cfg c (afterHandler c.handleChannelManagerMessage) :=
      .message hphase hready
    obtain ⟨channel, hkept⟩ := kept_handleChannelManagerMessage c
    have hreceiver : (afterHandler c.handleChannelManagerMessage).downstreamReceiver =
        c.downstreamReceiver :=
      (follows_afterHandler _).downstreamReceiver.trans hkept.downstreamReceiver
    unfold budget
    rw [hreceiver, hphase]
    refine Nat.lt_of_le_of_lt (budgetWith_mono hown.keeps.1 _ _) ?_
    obtain heq | heq := phase_afterHandler c.handleChannelManagerMessage
    · rw [heq]
      simp only [budgetWith]
      split <;> omega
    · rw [heq]
      simp only [budgetWith]
      split <;> omega
  | polled hphase =>
    unfold budget
    rw [hphase]
    cases hcancelled : c.globalCancelled with
    | true => exact Nat.lt_succ_self 3
    | false => exact Nat.lt_succ_self _
  | noFrame hphase hpending =>
    unfold budget
    rw [hphase]
    cases hcancelled : c.globalCancelled with
    | true => exact Nat.lt_succ_self 5
    | false =>
      -- Frames come before messages: none waits only while the channel is open.
      rcases h with h | h
      · rw [hcancelled] at h
        cases h
      · simp [isPending, h] at hpending
  | noMessage hphase hpending =>
    unfold budget
    rw [hphase]
    simp only [budgetWith]
    split <;> omega
  | setupReported hphase | setupDisconnected hphase | setupClosed hphase | cancelled hphase
  | closed hphase | disconnected hphase =>
    unfold budget
    rw [hphase]
    exact Nat.lt_succ_self _

/-- The task waits only for its first frame. -/
theorem isSome_step (hphase : c.phase ≠ .ended)
    (hready : c.phase = .settingUp → c.downstreamReceiver.isOpen = false) :
    (c.step cfg).isSome = true := by
  unfold step
  cases hp : c.phase with
  | settingUp => simp [isPending, hready hp]
  | selecting point =>
    cases point with
    | start => rfl
    | notCancelled | noFrame =>
      simp only
      split <;> rfl
  | ended => exact absurd hp hphase
  | _ => rfl

/-- The steps the task takes itself. -/
def ownSteps (ts : List (Transition (DownstreamTask L) (TaskAction L))) : ℕ :=
  (ts.filter fun t => t.action.isTask).length

/-- **A connection ends by itself**, whatever the others do.  Once its reader has ended, its
task takes at most two steps for each frame that still waits and eight more, and once the
token is cancelled it takes at most six; after the reader has ended, it never waits again
before it ends. -/
theorem own_steps_le {ts : List (Transition (DownstreamTask L) (TaskAction L))}
    (h : Run (fun c => c = mid) (Computes (next cfg)) ts c) :
    (mid.downstreamReceiver.isOpen = false →
      ownSteps ts ≤ 2 * mid.downstreamReceiver.waiting.length + 8 ∧
        (c.phase ≠ .ended → (c.step cfg).isSome = true)) ∧
      (mid.globalCancelled = true → ownSteps ts ≤ 6) := by
  have hbound : mid.Stopping → ownSteps ts ≤ mid.budget := by
    intro hmid
    have hcount : c.Stopping ∧ ownSteps ts + c.budget ≤ mid.budget := by
      refine h.count_add_le (P := fun _ => True) hmid ?_ fun _ _ => trivial
      intro c a c' hstopping hnext _
      cases taskStep_of_next hnext with
      | own hown =>
        have hlt := hstopping.budget_lt hown
        exact ⟨hstopping.imp hown.keeps.1 hown.keeps.2, hlt⟩
      | around ha haround =>
        have hcounts : a.isTask = false := by
          cases a with
          | task => exact absurd rfl ha
          | _ => rfl
        rw [hcounts]
        exact hstopping.around haround
    exact Nat.le_trans (Nat.le_add_right _ _) hcount.2
  refine ⟨fun hclosed => ⟨?_, fun hphase => ?_⟩, fun hcancelled => ?_⟩
  · refine Nat.le_trans (hbound (.inr hclosed)) ?_
    exact budget_le mid
  · have hclosed' : c.downstreamReceiver.isOpen = false := by
      refine h.invariant (I := fun c => c.downstreamReceiver.isOpen = false) ?_ ?_
      · rintro _ rfl
        exact hclosed
      · intro c a c' hc hnext
        cases taskStep_of_next hnext with
        | own hown => exact hown.keeps.2 hc
        | around ha haround => exact (haround.downstreamClosed hc).1
    exact isSome_step hphase fun _ => hclosed'
  · refine Nat.le_trans (hbound (.inl hcancelled)) ?_
    unfold budget
    rw [hcancelled]
    exact budgetWith_true_le _ _

/-- What the task of the table does once its reader has ended. -/
def tableLast : List (TaskAction tableFrames) := [.task, .task, .cancelGlobal, .task]

theorem own_steps_le_table :
    ((tableAfter (tableForwards ++ [.readerEnds])).downstreamReceiver.isOpen = false →
      ownSteps (trace (next tableExtensions) (tableAfter (tableForwards ++ [.readerEnds]))
        tableLast) ≤
          2 * (tableAfter (tableForwards ++ [.readerEnds])).downstreamReceiver.waiting.length + 8 ∧
        ((tableAfter (tableForwards ++ [.readerEnds] ++ tableLast)).phase ≠ .ended →
          ((tableAfter (tableForwards ++ [.readerEnds] ++ tableLast)).step
            tableExtensions).isSome = true)) ∧
      ((tableAfter (tableForwards ++ [.readerEnds])).globalCancelled = true →
        ownSteps (trace (next tableExtensions) (tableAfter (tableForwards ++ [.readerEnds]))
          tableLast) ≤ 6) :=
  own_steps_le (.ofActions (by rfl) tableLast (by rfl))

end DownstreamTask

end CanaryMining
