import CanaryMining.JobDeclaration.Validator

/-!
# The answers of the validator

What a response says about the job it answers, in every run of the two tasks.  The history
of the mirror is read off the run: the templates either task has fetched and the
transactions that came with the jobs, in the order in which they reached the mirror.

## Main definitions

* `Validator.history` — the history of the mirror.
* `Validator.Takes` — a transition takes a declared job.

**Main results:** `takenWith_history`, `not_asked_again`, `success_of_run`, `error_of_run`.
-/

namespace CanaryMining

open BitcoinTransaction

variable {Tx Client : Type} [BitcoinTransaction Tx]

namespace Validator

/-! ## The history of the mirror -/

section History

variable (debug : Bool)

/-- What a step feeds the mirror with. -/
def mirrorEvents (s : Validator Tx Client) : ValidatorAction Tx Client → List (MirrorEvent Tx)
  | .takeRequest _ =>
    match s.handler, s.incomingRequests with
    | .waiting, .declareMiningJob job :: _ =>
      if debug = true ∧ scriptSigs job.coinbaseTx = [] then [] else [.delivered job.missingTxs]
    | _, _ => []
  | .getBlockReply (.ok block) | .monitorGetBlockReply (.ok block) => [.template block]
  | _ => []

/-- What the transitions of a run feed the mirror with. -/
def history (ts : List (Transition (Validator Tx Client) (ValidatorAction Tx Client))) :
    List (MirrorEvent Tx) :=
  ts.flatMap fun t => mirrorEvents debug t.before t.action

end History

variable {debug : Bool} {s s' : Validator Tx Client} {a : ValidatorAction Tx Client}
  {ts : List (Transition (Validator Tx Client) (ValidatorAction Tx Client))} {first : Block Tx}
  {t : Transition (Validator Tx Client) (ValidatorAction Tx Client)}

theorem mempoolMirror_handleDeclareMiningJob (job : DeclaredJob Tx) (prepared : Bool) :
    (handleDeclareMiningJob debug s job prepared).mempoolMirror =
      if debug = true ∧ scriptSigs job.coinbaseTx = [] then s.mempoolMirror
      else s.mempoolMirror.addTransactions job.missingTxs := by
  unfold handleDeclareMiningJob
  split
  · rfl
  · dsimp only
    split
    · rfl
    · split
      · rfl
      · split <;> rfl

/-- A step changes the mirror by what it feeds it with. -/
theorem mempoolMirror_next (h : next debug s a = some s') :
    s'.mempoolMirror = (mirrorEvents debug s a).foldl MempoolMirror.apply s.mempoolMirror := by
  cases a with
  | send _ | closeRequests | cancel =>
    cases h
    rfl
  | takeRequest prepared =>
    simp only [next] at h
    split at h
    · rename_i request requests hwaiting hrequest
      cases h
      cases request with
      | declareMiningJob job =>
        simp only [processRequest, mempoolMirror_handleDeclareMiningJob, mirrorEvents, hwaiting,
          hrequest]
        split <;> rfl
      | pushSolution =>
        simp only [mirrorEvents, hwaiting, hrequest]
        rfl
    · cases h
  | noMoreRequests | shutDown | monitorCancelled =>
    simp only [next] at h
    split at h
    · split at h
      · cases h
        rfl
      · cases h
    · cases h
  | checkBlockReply reply =>
    simp only [next] at h
    split at h
    · rcases reply with e | ⟨_ | _⟩
      all_goals
        cases h
        simp [mirrorEvents]
    · cases h
  | createNewBlockReply reply =>
    simp only [next] at h
    split at h
    · cases reply with
      | error e =>
        cases h
        simp [mirrorEvents]
      | ok client =>
        cases h
        rfl
    · cases h
  | getBlockReply reply =>
    simp only [next] at h
    split at h
    · cases reply with
      | error e =>
        cases h
        simp [mirrorEvents]
      | ok block =>
        cases h
        simp [mirrorEvents, MempoolMirror.apply]
    · cases h
  | backoffElapsed | joinMonitor =>
    simp only [next] at h
    split at h
    · cases h
      rfl
    · cases h
  | monitorThreadReply reply =>
    simp only [next] at h
    split at h
    · cases reply <;>
      · cases h
        rfl
    · cases h
  | waitNextReply reply =>
    simp only [next] at h
    split at h
    · rcases reply with ⟨_ | _⟩ | _ | _ | client
      all_goals
        cases h
        rfl
    · cases h
  | monitorGetBlockReply reply =>
    simp only [next] at h
    split at h
    · rcases reply with ⟨_ | _⟩ | block
      all_goals
        cases h
        rfl
    · cases h

theorem history_concat (t : Transition (Validator Tx Client) (ValidatorAction Tx Client)) :
    history debug (ts ++ [t]) = history debug ts ++ mirrorEvents debug t.before t.action := by
  simp [history]

theorem history_append
    (ts' : List (Transition (Validator Tx Client) (ValidatorAction Tx Client))) :
    history debug (ts ++ ts') = history debug ts ++ history debug ts' :=
  List.flatMap_append

/-- **The mirror of a run** is that of its history. -/
theorem mempoolMirror_of_run (h : Run (Ready first) (Computes (next debug)) ts s) :
    s.mempoolMirror = mirrorOf (.template first :: history debug ts) := by
  induction h with
  | start hready => exact hready.mempoolMirror
  | next _ hs ih =>
    rw [mempoolMirror_next hs, ih, history_concat, mirrorOf, mirrorOf, ← List.foldl_append]
    rfl

/-! ## Which transactions are asked for -/

/-- A transition takes a declared job. -/
structure Takes (t : Transition (Validator Tx Client) (ValidatorAction Tx Client))
    (job : DeclaredJob Tx) (prepared : Bool) : Prop where
  action : t.action = .takeRequest prepared
  request : t.before.incomingRequests.head? = some (.declareMiningJob job)

/-- What taking a declared job does. -/
theorem Takes.declared {job : DeclaredJob Tx} {prepared : Bool} (htakes : Takes t job prepared)
    (h : next debug t.before t.action = some t.after) :
    t.before.handler = .waiting ∧ ∃ requests, t.before.incomingRequests =
      .declareMiningJob job :: requests ∧
      Declared debug { t.before with incomingRequests := requests } job prepared t.after := by
  rw [htakes.action] at h
  generalize t.after = s' at h ⊢
  cases handlerStep_of_next h rfl with
  | pushed hwaiting hrequest =>
    have hhead := htakes.request
    rw [hrequest] at hhead
    cases hhead
  | @declared _ requests job' hwaiting hrequest =>
    have hhead := htakes.request
    rw [hrequest] at hhead
    cases hhead
    exact ⟨hwaiting, requests, hrequest, declared_handleDeclareMiningJob _ _ _ _⟩
  | goesOn _ _ _ htake => exact absurd rfl (htake prepared)
  | gaveUp _ htake _ => exact absurd rfl (htake prepared)

section Missing

variable {before middle after :
    List (Transition (Validator Tx Client) (ValidatorAction Tx Client))} {job : DeclaredJob Tx}
  {prepared : Bool}

/-- The history of the mirror when a job has delivered its transactions. -/
def historyAt (debug : Bool) (first : Block Tx)
    (before : List (Transition (Validator Tx Client) (ValidatorAction Tx Client)))
    (job : DeclaredJob Tx) : List (MirrorEvent Tx) :=
  .template first :: history debug before ++ [.delivered job.missingTxs]

theorem addTransactions_of_run (h : Run (Ready first) (Computes (next debug)) ts s)
    (job : DeclaredJob Tx) :
    s.mempoolMirror.addTransactions job.missingTxs = mirrorOf (historyAt debug first ts job) := by
  rw [historyAt, mirrorOf_concat, ← mempoolMirror_of_run h]
  rfl

open Classical in
/-- The declared ids that a history does not offer. -/
noncomputable def notOffered (events : List (MirrorEvent Tx)) (wtxids : List TxHash) :
    List TxHash :=
  wtxids.filter fun wtxid => ¬ ∃ tx, Offered events tx ∧ computeWtxid tx = wtxid

theorem mem_notOffered {events : List (MirrorEvent Tx)} {wtxids : List TxHash} {wtxid : TxHash} :
    wtxid ∈ notOffered events wtxids ↔
      wtxid ∈ wtxids ∧ ¬ ∃ tx, Offered events tx ∧ computeWtxid tx = wtxid := by
  simp [notOffered]

theorem verify_mirrorOf (events : List (MirrorEvent Tx)) (wtxids : List TxHash) :
    (mirrorOf events).verify wtxids = notOffered events wtxids := by
  refine List.filter_congr fun wtxid _ => ?_
  rw [← isSome_lookup_mirrorOf]
  cases (mirrorOf events).txdata.lookup wtxid <;> simp

/-- The step answers a job by asking for transactions. -/
def Asks (t : Transition (Validator Tx Client) (ValidatorAction Tx Client))
    (job : DeclaredJob Tx) (wtxids : List TxHash) : Prop :=
  ∃ context, t.after.responses =
    t.before.responses ++ [(job, .missingTransactions wtxids context)]

/-- What a job is asked for, and that its own transactions have reached the mirror. -/
theorem Asks.eq_notOffered {wtxids : List TxHash} (hbefore : Run (Ready first)
      (Computes (next debug)) before t.before) (hstep : next debug t.before t.action = some t.after)
    (htakes : Takes t job prepared) (hasked : Asks t job wtxids) :
    wtxids = notOffered (historyAt debug first before job) job.wtxidList ∧ wtxids ≠ [] ∧
      historyAt debug first before job = .template first :: history debug (before ++ [t]) := by
  obtain ⟨hwaiting, requests, hrequest, hdeclared⟩ := htakes.declared hstep
  obtain ⟨context, hasked⟩ := hasked
  have hgrown : t.after.responses ≠ t.before.responses := by
    intro heq
    rw [heq] at hasked
    simpa using congrArg List.length hasked
  generalize t.after = s' at hasked hgrown hdeclared
  cases hdeclared with
  | noInput _ _ | unset _ _ _ | checked _ _ _ _ _ => exact absurd rfl hgrown
  | unprepared _ _ _ _ _ => simp [answerInternalError, answer] at hasked
  | @missing m context' height hinput hm hcontext hmissing =>
    obtain rfl := hm.trans (addTransactions_of_run hbefore job)
    simp only [answer, List.append_cancel_left_eq, List.cons.injEq, Prod.mk.injEq, and_true,
      JdResponse.missingTransactions.injEq, true_and] at hasked
    rw [← hasked.1, verify_mirrorOf]
    refine ⟨rfl, verify_mirrorOf (historyAt debug first before job) _ ▸ hmissing, ?_⟩
    rw [history_concat, htakes.action, historyAt]
    simp only [mirrorEvents, hwaiting, hrequest, if_neg hinput, List.cons_append]

/-- **No one is asked twice.**  A job that is declared again with the transactions it was
asked for is not asked for any, unless a template changed the tip in between. -/
theorem not_asked_again {t' : Transition (Validator Tx Client) (ValidatorAction Tx Client)}
    {job' : DeclaredJob Tx} {prepared' : Bool} {unknown : List TxHash}
    (h : Run (Ready first) (Computes (next debug)) (before ++ t :: (middle ++ t' :: after)) s)
    (htakes : Takes t job prepared) (hasked : Asks t job unknown)
    (htakes' : Takes t' job' prepared') (hsame : job'.wtxidList = job.wtxidList)
    (hdelivered : ∀ wtxid ∈ unknown, ∃ tx ∈ job'.missingTxs, computeWtxid tx = wtxid)
    (hstays : StaysOn (tipOf (.template first :: history debug before)) (history debug middle)) :
    ¬ ∃ wtxids, Asks t' job' wtxids := by
  rintro ⟨wtxids, hasked'⟩
  obtain ⟨hbefore, hstep⟩ := h.reaches
  rw [List.append_cons, ← List.append_assoc] at h
  obtain ⟨hbefore', hstep'⟩ := h.reaches
  obtain ⟨hunknown, -, hevents⟩ := hasked.eq_notOffered hbefore hstep htakes
  obtain ⟨hwtxids, hne, -⟩ := hasked'.eq_notOffered hbefore' hstep' htakes'
  refine hne (List.eq_nil_iff_forall_not_mem.2 fun wtxid hmem => ?_)
  rw [hwtxids, mem_notOffered] at hmem
  obtain ⟨hwtxid, hnot⟩ := hmem
  refine hnot ?_
  have hlast : StaysOn (tipOf (.template first :: history debug (before ++ [t] ++ middle)))
      [MirrorEvent.delivered job'.missingTxs] := by
    intro e he prevHash hprev
    rw [List.mem_singleton.1 he] at hprev
    cases hprev
  by_cases hmem : wtxid ∈ unknown
  · -- The id was asked for, and comes with the second declaration.
    obtain ⟨tx, htx, hid⟩ := hdelivered wtxid hmem
    exact ⟨tx, offered_concat.2 (.inl htx), hid⟩
  · -- The id was known the first time, and the tip is the same.
    have hoffered : ∃ tx, Offered (historyAt debug first before job) tx ∧
        computeWtxid tx = wtxid := by
      by_contra hnone
      exact hmem (hunknown ▸ mem_notOffered.2 ⟨hsame ▸ hwtxid, hnone⟩)
    obtain ⟨tx, htx, hid⟩ := hoffered
    have htip : tipOf (historyAt debug first before job) =
        tipOf (.template first :: history debug before) := tipOf_concat _ _
    refine ⟨tx, ?_, hid⟩
    have hmiddle := htx.append (htip ▸ hstays)
    rw [hevents, List.cons_append, ← history_append] at hmiddle
    exact hmiddle.append hlast

/-- The table's job is asked for its second transaction, and declared again with it. -/
theorem not_asked_again_table : ¬ ∃ wtxids,
    Asks (tableStep (tableDeclares (tableJob [1, 2] []) ++
      [.send (.declareMiningJob (tableJob [1, 2] [tableTx 2]))]) (.takeRequest true))
        (tableJob [1, 2] [tableTx 2]) wtxids := by
  have hasked : Asks
      (tableStep [.send (.declareMiningJob (tableJob [1, 2] []))] (.takeRequest true))
      (tableJob [1, 2] []) [2] := ⟨_, rfl⟩
  have hrun := tableRun (tableDeclares (tableJob [1, 2] []) ++
    tableDeclares (tableJob [1, 2] [tableTx 2])) (by rfl)
  have hdelivered : ∀ wtxid ∈ ([2] : List TxHash),
      ∃ tx ∈ [tableTx 2], BitcoinTransaction.computeWtxid tx = wtxid := fun wtxid hwtxid =>
    ⟨tableTx 2, List.mem_singleton.2 rfl, (List.mem_singleton.1 hwtxid).symm⟩
  exact @not_asked_again TableTx ℕ _ false _ tableFirst _
    (tableTrace [.send (.declareMiningJob (tableJob [1, 2] []))])
    [tableStep (tableDeclares (tableJob [1, 2] []))
      (.send (.declareMiningJob (tableJob [1, 2] [tableTx 2])))] [] _ true _ _ true _ hrun
    ⟨rfl, rfl⟩ hasked ⟨rfl, rfl⟩ rfl hdelivered nofun

end Missing

/-! ## What an answer rests on -/

section Verdicts

variable (ts)

/-- The node was asked to check the block of a job: the declared coinbase and transactions with
the declared ids, in order, in a context that was the mirror's when the job was taken. -/
structure Submitted (c : CheckedJob Tx) : Prop where
  txdata : ∃ txdata, c.block.txdata = c.job.coinbaseTx :: txdata ∧
    txdata.map computeWtxid = c.job.wtxidList
  taken : ∃ t ∈ ts, Takes t c.job true ∧ t.after.handler = .checkingBlock c ∧
    t.after.mempoolMirror.context? = some (c.context, c.height)

omit [BitcoinTransaction Tx] in
/-- The node has said whether the block of a job is valid. -/
def Verdict (c : CheckedJob Tx) (validJob : Bool) : Prop :=
  ∃ t ∈ ts, t.before.handler = .checkingBlock c ∧ t.action = .checkBlockReply (.ok validJob)

/-- A job that was rejected is answered by what the mirror says then. -/
structure Rejected (c : CheckedJob Tx) (errorCode : Text) (latest : ValidationContext) : Prop where
  submitted : Submitted ts c
  verdict : Verdict ts c false
  reported : ∃ t ∈ ts, ∃ height,
    t.after.responses = t.before.responses ++ [(c.job, .error errorCode latest)] ∧
    t.after.mempoolMirror.context? = some (latest, height) ∧
    errorCode = if c.context = latest ∧ c.height = height ∧
        coinbaseHeight c.job.coinbaseTx = height then "invalid-job".toList
      else "stale-chain-tip".toList

/-- What a response to a job rests on, when the state is `s`. -/
def Justified (s : Validator Tx Client) (job : DeclaredJob Tx) : JdResponse → Prop
  | .success prevHash nbits minNtime txidList => ∃ height txdata,
    Submitted ts ⟨job, ⟨prevHash, nbits, minNtime⟩, height, txdata⟩ ∧
    Verdict ts ⟨job, ⟨prevHash, nbits, minNtime⟩, height, txdata⟩ true ∧
    txidList = txdata.map computeTxid
  | .error errorCode context =>
    errorCode = "internal-error".toList ∧ s.cancelled = true ∨
      ∃ c, c.job = job ∧ Rejected ts c errorCode context
  | .missingTransactions wtxids _ => wtxids ≠ [] ∧ wtxids.Sublist job.wtxidList

/-- What holds of the job in progress and of the responses. -/
structure Accounted (s : Validator Tx Client) : Prop where
  checking : ∀ c, s.handler = .checkingBlock c → Submitted ts c
  refreshing : ∀ c, s.handler.refreshing? = some c → Submitted ts c ∧ Verdict ts c false
  responses : ∀ job response, (job, response) ∈ s.responses → Justified ts s job response

end Verdicts

variable {ts' : List (Transition (Validator Tx Client) (ValidatorAction Tx Client))}
  {c : CheckedJob Tx}

theorem Submitted.mono (h : Submitted ts c) (hsub : ts ⊆ ts') : Submitted ts' c := by
  obtain ⟨t, ht, htaken⟩ := h.taken
  exact ⟨h.txdata, t, hsub ht, htaken⟩

omit [BitcoinTransaction Tx] in
theorem Verdict.mono {validJob : Bool} (h : Verdict ts c validJob) (hsub : ts ⊆ ts') :
    Verdict ts' c validJob := by
  obtain ⟨t, ht, hverdict⟩ := h
  exact ⟨t, hsub ht, hverdict⟩

theorem Justified.mono {job : DeclaredJob Tx} {response : JdResponse}
    (h : Justified ts s job response) (hsub : ts ⊆ ts')
    (hcancelled : s.cancelled = true → s'.cancelled = true) : Justified ts' s' job response := by
  cases response with
  | success prevHash nbits minNtime txidList =>
    obtain ⟨height, txdata, hsubmitted, hverdict, htxids⟩ := h
    exact ⟨height, txdata, hsubmitted.mono hsub, hverdict.mono hsub, htxids⟩
  | error errorCode context =>
    rcases h with ⟨hcode, hc⟩ | ⟨c, hjob, hrejected⟩
    · exact .inl ⟨hcode, hcancelled hc⟩
    · obtain ⟨t, ht, hreported⟩ := hrejected.reported
      exact .inr ⟨c, hjob, hrejected.submitted.mono hsub, hrejected.verdict.mono hsub, t, hsub ht,
        hreported⟩
  | missingTransactions wtxids context => exact h

/-- The error code compares what the mirror said with what it says. -/
theorem rejectionCode_eq (c : CheckedJob Tx) (latest : ValidationContext) (height : UInt32) :
    rejectionCode c latest height = if c.context = latest ∧ c.height = height ∧
        coinbaseHeight c.job.coinbaseTx = height then "invalid-job".toList
      else "stale-chain-tip".toList := by
  have hcontext : c.context = latest ↔ c.context.prevHash = latest.prevHash ∧
      c.context.nbits = latest.nbits ∧ c.context.minNtime = latest.minNtime := by
    cases c.context
    cases latest
    simp
  unfold rejectionCode
  by_cases hdrifted : c.context = latest ∧ c.height = height ∧
      coinbaseHeight c.job.coinbaseTx = height
  · rw [if_pos hdrifted]
    refine if_neg ?_
    simp [hdrifted.1, hdrifted.2.1, hdrifted.2.2]
  · rw [if_neg hdrifted]
    refine if_pos ?_
    rw [hcontext] at hdrifted
    tauto

/-- A step that leaves no job in progress. -/
theorem Accounted.of_idle (h : Accounted ts s) (hsub : ts ⊆ ts')
    (hcancelled : s.cancelled = true → s'.cancelled = true)
    (hchecking : ∀ c, s'.handler ≠ .checkingBlock c) (hrefreshing : s'.handler.refreshing? = none)
    (hresponses : ∀ job response, (job, response) ∈ s'.responses →
      (job, response) ∈ s.responses ∨ Justified ts' s' job response) : Accounted ts' s' where
  checking c hc := absurd hc (hchecking c)
  refreshing c hc := by
    rw [hrefreshing] at hc
    cases hc
  responses job response hmem := by
    rcases hresponses job response hmem with hold | hnew
    · exact (h.responses job response hold).mono hsub hcancelled
    · exact hnew

/-- A job is answered. -/
theorem Accounted.of_answer {s₁ : Validator Tx Client} {job : DeclaredJob Tx}
    {response : JdResponse} (h : Accounted ts s) (hsub : ts ⊆ ts')
    (hresponses : s₁.responses = s.responses)
    (hcancelled : s.cancelled = true → s₁.cancelled = true)
    (hnew : Justified ts' (s₁.answer job response) job response) :
    Accounted ts' (s₁.answer job response) := by
  refine h.of_idle hsub hcancelled (fun c hc => by cases hc) rfl fun job' response' hmem => ?_
  rcases List.mem_append.1 hmem with hold | hlast
  · exact .inl (hresponses ▸ hold)
  · cases List.mem_singleton.1 hlast
    exact .inr hnew

/-- A job is answered with an internal error. -/
theorem Accounted.of_internalError (h : Accounted ts s) (hsub : ts ⊆ ts')
    (hwaiting : s'.handler = .waiting) (hcancelled : s'.cancelled = true)
    (hresponses : s'.responses =
      s.responses ++ [(c.job, .error "internal-error".toList c.context)]) : Accounted ts' s' := by
  refine h.of_idle hsub (fun _ => hcancelled) (fun c' hc => ?_) ?_ fun job response hmem => ?_
  · rw [hwaiting] at hc
    cases hc
  · rw [hwaiting]
    rfl
  · rw [hresponses] at hmem
    rcases List.mem_append.1 hmem with hold | hlast
    · exact .inl hold
    · cases List.mem_singleton.1 hlast
      exact .inr (.inl ⟨rfl, hcancelled⟩)

/-- The last part of the handler. -/
theorem Accounted.of_concluded {s₁ : Validator Tx Client} {validJob : Bool}
    (h : Accounted ts s) (hconcluded : Concluded s₁ c validJob s')
    (hresponses : s₁.responses = s.responses) (hcancelled : s₁.cancelled = s.cancelled)
    (hsubmitted : Submitted (ts ++ [⟨s, a, s'⟩]) c)
    (hverdict : Verdict (ts ++ [⟨s, a, s'⟩]) c validJob) :
    Accounted (ts ++ [⟨s, a, s'⟩]) s' := by
  have hsub : ts ⊆ ts ++ [⟨s, a, s'⟩] := List.subset_append_left _ _
  have hlast : (⟨s, a, s'⟩ : Transition (Validator Tx Client) (ValidatorAction Tx Client)) ∈
      ts ++ [⟨s, a, s'⟩] := List.mem_append_right _ (List.mem_singleton.2 rfl)
  cases hconcluded with
  | unset _ =>
    refine h.of_idle hsub (fun hc => hcancelled.trans hc) (fun c hc => by cases hc) rfl
      fun job response hmem => .inl (hresponses ▸ hmem)
  | success _ hvalid =>
    refine h.of_answer hsub hresponses (fun hc => hcancelled.trans hc) ⟨c.height, c.txdata, ?_⟩
    rw [hvalid] at hverdict
    exact ⟨hsubmitted, hverdict, rfl⟩
  | @rejected latest height hcontext hvalid =>
    refine h.of_answer hsub hresponses (fun hc => hcancelled.trans hc) (.inr ⟨c, rfl, ?_⟩)
    rw [hvalid] at hverdict
    refine ⟨hsubmitted, hverdict, _, hlast, height, ?_, hcontext, rejectionCode_eq c latest height⟩
    rw [← hresponses]
    rfl

/-- **A step keeps the answers accounted for.** -/
theorem Accounted.next (h : Accounted ts s) (hkeyed : s.mempoolMirror.WellKeyed)
    (hs : next debug s a = some s') : Accounted (ts ++ [⟨s, a, s'⟩]) s' := by
  have hsub : ts ⊆ ts ++ [⟨s, a, s'⟩] := List.subset_append_left _ _
  have hlast : (⟨s, a, s'⟩ : Transition (Validator Tx Client) (ValidatorAction Tx Client)) ∈
      ts ++ [⟨s, a, s'⟩] := List.mem_append_right _ (List.mem_singleton.2 rfl)
  cases ha : a.isHandler with
  | false =>
    have hother := otherStep_of_next hs ha
    refine ⟨fun c hc => ?_, fun c hc => ?_, fun job response hmem => ?_⟩
    · exact (h.checking c (hother.handler ▸ hc)).mono hsub
    · obtain ⟨hsubmitted, hverdict⟩ := h.refreshing c (hother.handler ▸ hc)
      exact ⟨hsubmitted.mono hsub, hverdict.mono hsub⟩
    · exact (h.responses job response (hother.responses ▸ hmem)).mono hsub hother.cancelled
  | true =>
    have hsame : ∀ job response, (job, response) ∈ s.responses →
        (job, response) ∈ s.responses ∨ Justified (ts ++ [⟨s, a, s'⟩]) s' job response :=
      fun _ _ hmem => .inl hmem
    cases handlerStep_of_next hs ha with
    | pushed hwaiting _ =>
      refine h.of_idle hsub id (fun c hc => ?_) ?_ hsame
      · have heq := hwaiting.symm.trans hc
        cases heq
      · exact congrArg HandlerPhase.refreshing? hwaiting
    | noMoreRequests _ =>
      exact h.of_idle hsub (fun _ => rfl) (fun c hc => by cases hc) rfl hsame
    | shutDown _ | joined _ =>
      exact h.of_idle hsub id (fun c hc => by cases hc) rfl hsame
    | checkFailed _ => exact h.of_internalError hsub rfl rfl rfl
    | @declared prepared requests job hwaiting hrequest =>
      have hdeclared := declared_handleDeclareMiningJob debug
        { s with incomingRequests := requests } job prepared
      generalize handleDeclareMiningJob debug { s with incomingRequests := requests } job
        prepared = s' at *
      cases hdeclared with
      | noInput _ _ | unset _ _ _ =>
        exact h.of_idle hsub id (fun c hc => by cases hc) rfl hsame
      | @missing m context height _ _ _ hmissing =>
        exact h.of_answer hsub rfl id ⟨hmissing, List.filter_sublist⟩
      | @checked m context height c _ hm hcontext hknown hc hprepared =>
        have hm' : m.WellKeyed := hm ▸ hkeyed.addTransactions _
        have hsubmitted : Submitted (ts ++ [⟨s, .takeRequest prepared, { s with
            incomingRequests := requests, mempoolMirror := m, handler := .checkingBlock c }⟩])
            c := by
          subst hc
          refine ⟨⟨_, rfl, MempoolMirror.map_getTxdata hm' hknown⟩, _, hlast,
            ⟨by rw [hprepared], ?_⟩, rfl, hcontext⟩
          rw [hrequest]
          rfl
        refine ⟨fun c' hc' => ?_, fun c' hc' => (by cases hc'), fun job response hmem => ?_⟩
        · cases hc'
          exact hsubmitted
        · exact (h.responses job response hmem).mono hsub id
      | @unprepared m context height c _ _ _ _ hc =>
        subst hc
        exact h.of_internalError hsub rfl rfl rfl
    | @accepted c hchecking =>
      refine h.of_concluded (concluded_conclude s c true) rfl rfl
        ((h.checking c hchecking).mono hsub) ?_
      exact ⟨_, hlast, hchecking, rfl⟩
    | @rejected c hchecking =>
      refine ⟨fun c' hc' => (by cases hc'), fun c' hc' => ?_, fun job response hmem => ?_⟩
      · cases hc'
        exact ⟨(h.checking c hchecking).mono hsub, _, hlast, hchecking, rfl⟩
      · exact (h.responses job response hmem).mono hsub id
    | @goesOn c _ phase client hbefore hafter _ _ =>
      refine ⟨fun c' hc' => ?_, fun c' hc' => ?_, fun job response hmem => ?_⟩
      · dsimp only at hc'
        rw [hc'] at hafter
        cases hafter
      · rw [hafter] at hc'
        cases hc'
        obtain ⟨hsubmitted, hverdict⟩ := h.refreshing c hbefore
        exact ⟨hsubmitted.mono hsub, hverdict.mono hsub⟩
      · exact (h.responses job response hmem).mono hsub id
    | @gaveUp c _ _ _ hbefore =>
      obtain ⟨hsubmitted, hverdict⟩ := h.refreshing c hbefore
      exact h.of_concluded (concluded_conclude s c false) rfl rfl (hsubmitted.mono hsub)
        (hverdict.mono hsub)
    | @refreshed c block hbefore =>
      obtain ⟨hsubmitted, hverdict⟩ := h.refreshing c hbefore
      have hconcluded := concluded_conclude
        { s with mempoolMirror := s.mempoolMirror.update block } c false
      exact h.of_concluded hconcluded rfl rfl (hsubmitted.mono hsub) (hverdict.mono hsub)

theorem accounted_of_run (h : Run (Ready first) (Computes (Validator.next debug)) ts s) :
    Accounted ts s := by
  induction h with
  | start hready =>
    refine ⟨fun c hc => ?_, fun c hc => ?_, fun job response hmem => ?_⟩
    · rw [hready.handler] at hc
      cases hc
    · rw [hready.handler] at hc
      cases hc
    · rw [hready.responses] at hmem
      cases hmem
  | next hrun hs ih =>
    refine ih.next ?_ hs
    rw [mempoolMirror_of_run hrun]
    exact wellKeyed_mirrorOf _

/-- **What a success says.**  The node has accepted the block of the declared coinbase and
of transactions with the declared ids, in order, in the context that is reported; the
reported ids are those of these transactions. -/
theorem success_of_run (h : Run (Ready first) (Computes (Validator.next debug)) ts s)
    {job : DeclaredJob Tx} {prevHash : BlockHash} {nbits minNtime : UInt32}
    {txidList : List TxHash}
    (hmem : (job, .success prevHash nbits minNtime txidList) ∈ s.responses) :
    ∃ height txdata, Submitted ts ⟨job, ⟨prevHash, nbits, minNtime⟩, height, txdata⟩ ∧
      Verdict ts ⟨job, ⟨prevHash, nbits, minNtime⟩, height, txdata⟩ true ∧
      txidList = txdata.map computeTxid :=
  (accounted_of_run h).responses job _ hmem

/-- The node accepts the block of the table's job. -/
theorem success_of_run_table : ∃ height txdata,
    Submitted (tableTrace (tableDeclares (tableJob [1] []) ++ [.checkBlockReply (.ok true)]))
      ⟨tableJob [1] [], ⟨7, 0x207fffff, 1700000000⟩, height, txdata⟩ ∧
    Verdict (tableTrace (tableDeclares (tableJob [1] []) ++ [.checkBlockReply (.ok true)]))
      ⟨tableJob [1] [], ⟨7, 0x207fffff, 1700000000⟩, height, txdata⟩ true ∧
    [1] = txdata.map (computeTxid : TableTx → TxHash) :=
  success_of_run
    (tableRun (tableDeclares (tableJob [1] []) ++ [.checkBlockReply (.ok true)]) (by rfl))
    (List.mem_singleton.2 rfl)

/-- **What an error says.**  Either the connection to the node is ended, or the node has
rejected the job's block: then the mirror's context at the answer is reported, and the job
counts as invalid exactly if nothing of this context has changed since it was taken and the
job declares its height. -/
theorem error_of_run (h : Run (Ready first) (Computes (Validator.next debug)) ts s)
    {job : DeclaredJob Tx} {errorCode : Text} {context : ValidationContext}
    (hmem : (job, .error errorCode context) ∈ s.responses) :
    errorCode = "internal-error".toList ∧ s.cancelled = true ∨
      ∃ c, c.job = job ∧ Rejected ts c errorCode context :=
  (accounted_of_run h).responses job _ hmem

/-- The node rejects the block of the table's job, and the tip has changed meanwhile. -/
def tableRejects : List (ValidatorAction TableTx ℕ) :=
  tableDeclares (tableJob [1] []) ++ [.checkBlockReply (.ok false), .createNewBlockReply (.ok 1),
    .getBlockReply (.ok (tableBlock 8 101 []))]

theorem error_of_run_table :
    "stale-chain-tip".toList = "internal-error".toList ∧
        (tableAfter tableRejects).cancelled = true ∨
      ∃ c, c.job = tableJob [1] [] ∧ Rejected (tableTrace tableRejects) c "stale-chain-tip".toList
        ⟨8, 0x207fffff, 1700000000⟩ :=
  error_of_run (tableRun tableRejects (by rfl)) (List.mem_singleton.2 rfl)

end Validator

end CanaryMining
