import CanaryMining.JobDeclaration.Answers

/-!
# The order and the number of the answers

The handler works on one job at a time, so the responses follow the order of the requests.
Between taking a job and answering it the handler waits for the node a bounded number of
times, however often the node is busy; and it never meets a template parameter that is not
set, as long as every template has a coinbase transaction.

## Main definitions

* `Validator.sentJobs` — the jobs sent to the validator.
* `HandlerPhase.inProgress` — the job the handler works on.
* `HandlerPhase.remaining` — how many steps the handler needs at most to answer it.

**Main results:** `responses_in_order`, `steps_le_remaining`, `not_panicked`.
-/

namespace CanaryMining

open BitcoinTransaction

variable {Tx Client : Type}

/-- The job the handler works on. -/
def HandlerPhase.inProgress : HandlerPhase Tx Client → List (DeclaredJob Tx)
  | .checkingBlock c | .creatingBlock c _ | .gettingBlock c _ _ | .backingOff c _ => [c.job]
  | _ => []

/-- How many steps the handler needs at most to answer the job it works on. -/
def HandlerPhase.remaining : HandlerPhase Tx Client → ℕ
  | .checkingBlock _ => 3 * maxAttempts
  | .creatingBlock _ attempt => 3 * (maxAttempts - attempt) + 2
  | .gettingBlock _ attempt _ => 3 * (maxAttempts - attempt) + 1
  | .backingOff _ attempt => 3 * (maxAttempts - attempt)
  | _ => 0

/-- The declared jobs among requests. -/
def declaredJobs (requests : List (JdRequest Tx)) : List (DeclaredJob Tx) :=
  requests.filterMap fun
    | .declareMiningJob job => some job
    | .pushSolution => none

namespace Validator

/-- The jobs that transitions send to the validator. -/
def sentJobs (ts : List (Transition (Validator Tx Client) (ValidatorAction Tx Client))) :
    List (DeclaredJob Tx) :=
  declaredJobs (ts.flatMap fun t => t.action.sent)

variable [BitcoinTransaction Tx] {debug : Bool} {s s' s₀ : Validator Tx Client}
  {a : ValidatorAction Tx Client}
  {ts : List (Transition (Validator Tx Client) (ValidatorAction Tx Client))} {first : Block Tx}

/-! ## The order of the answers -/

/-- The jobs that were answered, one that is in progress or was given up in a panic, and
those that wait, are `jobs`. -/
def InOrder (jobs : List (DeclaredJob Tx)) (s : Validator Tx Client) : Prop :=
  ∃ pending : List (DeclaredJob Tx), pending.length ≤ 1 ∧
    (s.handler ≠ .panicked → pending = s.handler.inProgress) ∧
    s.responses.map (·.1) ++ pending ++ declaredJobs s.incomingRequests = jobs

/-- The job in progress is answered, or given up in a panic. -/
theorem InOrder.of_concluded {s₁ : Validator Tx Client} {c : CheckedJob Tx} {validJob : Bool}
    {jobs : List (DeclaredJob Tx)} (h : InOrder jobs s) (hconcluded : Concluded s₁ c validJob s')
    (hjob : s.handler.inProgress = [c.job]) (hpanicked : s.handler ≠ .panicked)
    (hresponses : s₁.responses = s.responses)
    (hrequests : s₁.incomingRequests = s.incomingRequests) : InOrder jobs s' := by
  obtain ⟨pending, hlength, hpending, hall⟩ := h
  rw [hpending hpanicked, hjob] at hall
  cases hconcluded with
  | unset _ =>
    refine ⟨[c.job], le_refl 1, fun hne => absurd rfl hne, ?_⟩
    rw [← hall, ← hresponses, ← hrequests]
  | success _ _ | rejected _ _ =>
    refine ⟨[], Nat.zero_le 1, fun _ => rfl, ?_⟩
    rw [← hall, ← hresponses, ← hrequests]
    simp [answer]

omit [BitcoinTransaction Tx] in
theorem declaredJobs_append (requests requests' : List (JdRequest Tx)) :
    declaredJobs (requests ++ requests') = declaredJobs requests ++ declaredJobs requests' :=
  List.filterMap_append

omit [BitcoinTransaction Tx] in
/-- The handler sends no requests to itself. -/
theorem sent_of_isHandler (ha : a.isHandler = true) : a.sent = [] := by
  cases a <;> first | rfl | cases ha

omit [BitcoinTransaction Tx] in
theorem inProgress_of_refreshing {phase : HandlerPhase Tx Client} {c : CheckedJob Tx}
    (h : phase.refreshing? = some c) : phase.inProgress = [c.job] ∧ phase ≠ .panicked := by
  cases phase <;> cases h <;> exact ⟨rfl, nofun⟩

theorem InOrder.next {jobs : List (DeclaredJob Tx)} (h : InOrder jobs s)
    (hs : next debug s a = some s') : InOrder (jobs ++ declaredJobs a.sent) s' := by
  cases ha : a.isHandler with
  | false =>
    obtain ⟨pending, hlength, hpending, hall⟩ := h
    have hother := otherStep_of_next hs ha
    refine ⟨pending, hlength, hother.handler ▸ hpending, ?_⟩
    rw [hother.responses, hother.incomingRequests, declaredJobs_append, ← hall]
    simp
  | true =>
    rw [sent_of_isHandler ha]
    have hnil : jobs ++ declaredJobs [] = jobs := List.append_nil jobs
    rw [hnil]
    cases handlerStep_of_next hs ha with
    | @pushed _ requests hwaiting hrequest =>
      obtain ⟨pending, hlength, hpending, hall⟩ := h
      refine ⟨pending, hlength, hpending, ?_⟩
      rw [← hall, hrequest]
      rfl
    | noMoreRequests hwaiting | shutDown hwaiting | joined hwaiting =>
      obtain ⟨pending, hlength, hpending, hall⟩ := h
      rw [hwaiting] at hpending
      exact ⟨pending, hlength, fun _ => hpending nofun, hall⟩
    | @checkFailed c _ hchecking =>
      obtain ⟨pending, hlength, hpending, hall⟩ := h
      rw [hchecking] at hpending
      refine ⟨[], Nat.zero_le 1, fun _ => rfl, ?_⟩
      rw [← hall, hpending nofun]
      simp [answerInternalError, answer, HandlerPhase.inProgress]
    | @declared prepared requests job hwaiting hrequest =>
      obtain ⟨pending, hlength, hpending, hall⟩ := h
      rw [hwaiting] at hpending
      have hjobs : s.responses.map (·.1) ++ [job] ++ declaredJobs requests = jobs := by
        rw [← hall, hpending nofun, hrequest]
        simp [HandlerPhase.inProgress, declaredJobs]
      have hdeclared := declared_handleDeclareMiningJob debug
        { s with incomingRequests := requests } job prepared
      generalize handleDeclareMiningJob debug { s with incomingRequests := requests } job
        prepared = s' at *
      cases hdeclared with
      | noInput _ _ | unset _ _ _ =>
        exact ⟨[job], le_refl 1, fun hne => absurd rfl hne, hjobs⟩
      | missing _ _ _ _ =>
        refine ⟨[], Nat.zero_le 1, fun _ => rfl, ?_⟩
        rw [← hjobs]
        simp [answer]
      | @checked _ _ _ c _ _ _ _ hc _ =>
        subst hc
        exact ⟨[job], le_refl 1, fun _ => rfl, hjobs⟩
      | @unprepared _ _ _ c _ _ _ _ hc =>
        subst hc
        refine ⟨[], Nat.zero_le 1, fun _ => rfl, ?_⟩
        rw [← hjobs]
        simp [answerInternalError, answer]
    | @accepted c hchecking =>
      refine h.of_concluded (concluded_conclude s c true) ?_ ?_ rfl rfl
      · rw [hchecking]
        rfl
      · rw [hchecking]
        nofun
    | @rejected c hchecking =>
      obtain ⟨pending, hlength, hpending, hall⟩ := h
      rw [hchecking] at hpending
      exact ⟨pending, hlength, fun _ => hpending nofun, hall⟩
    | @goesOn c _ phase client hbefore hafter _ _ =>
      obtain ⟨pending, hlength, hpending, hall⟩ := h
      refine ⟨pending, hlength, fun _ => ?_, hall⟩
      obtain ⟨hjob, hne⟩ := inProgress_of_refreshing hbefore
      rw [hpending hne, hjob]
      exact (inProgress_of_refreshing hafter).1.symm
    | @gaveUp c _ _ _ hbefore =>
      obtain ⟨hjob, hne⟩ := inProgress_of_refreshing hbefore
      exact h.of_concluded (concluded_conclude s c false) hjob hne rfl rfl
    | @refreshed c block hbefore =>
      obtain ⟨hjob, hne⟩ := inProgress_of_refreshing hbefore
      have hconcluded := concluded_conclude
        { s with mempoolMirror := s.mempoolMirror.update block } c false
      exact h.of_concluded hconcluded hjob hne rfl rfl

/-- **One answer each, in order.**  The jobs that were answered, the one in progress and
those that wait are the jobs that waited at first and were sent since.  Only a panic can
leave a job that was taken without an answer. -/
theorem responses_in_order (hready : Ready first s₀)
    (h : Run (fun x => x = s₀) (Computes (Validator.next debug)) ts s) :
    InOrder (declaredJobs s₀.incomingRequests ++ sentJobs ts) s := by
  induction h with
  | start hs =>
    subst hs
    refine ⟨[], Nat.zero_le 1, fun _ => ?_, ?_⟩
    · rw [hready.handler]
      rfl
    · rw [hready.responses]
      simp [sentJobs, declaredJobs]
  | @next ts s s' a _ hs ih =>
    have hsent : sentJobs (ts ++ [⟨s, a, s'⟩]) = sentJobs ts ++ declaredJobs a.sent := by
      rw [sentJobs, List.flatMap_append, declaredJobs_append]
      simp [sentJobs]
    rw [hsent, ← List.append_assoc]
    exact ih.next hs

/-- Two jobs are sent; the first is answered and the second in progress. -/
def tableTwoJobs : List (ValidatorAction TableTx ℕ) :=
  .send (.declareMiningJob (tableJob [2] [])) :: tableDeclares (tableJob [1] []) ++
    [.takeRequest true]

theorem responses_in_order_table :
    InOrder [tableJob [2] [], tableJob [1] []] (tableAfter tableTwoJobs) :=
  @responses_in_order TableTx ℕ _ false (tableAfter tableTwoJobs) tableValidator
    (tableTrace tableTwoJobs) tableFirst tableValidator_ready
    (@Run.ofActions _ _ (fun x => x = tableValidator) tableValidator (Validator.next false) _ rfl
      tableTwoJobs (by rfl))

/-! ## The number of steps to an answer -/

end Validator

/-- Attempts are counted from one, and the last one is not repeated. -/
def HandlerPhase.Counted : HandlerPhase Tx Client → Prop
  | .creatingBlock _ attempt | .gettingBlock _ attempt _ => 1 ≤ attempt
  | .backingOff _ attempt => 1 ≤ attempt ∧ attempt < maxAttempts
  | _ => True

namespace Validator

variable [BitcoinTransaction Tx] {debug : Bool} {s s' s₀ : Validator Tx Client}
  {a : ValidatorAction Tx Client}
  {ts : List (Transition (Validator Tx Client) (ValidatorAction Tx Client))} {first : Block Tx}

theorem remaining_conclude (c : CheckedJob Tx) (validJob : Bool) :
    (s.conclude c validJob).handler.Counted ∧ (s.conclude c validJob).handler.remaining = 0 := by
  have hconcluded := concluded_conclude s c validJob
  generalize s.conclude c validJob = s' at hconcluded ⊢
  cases hconcluded <;> exact ⟨trivial, rfl⟩

theorem remaining_attemptFailed (c : CheckedJob Tx) {attempt : ℕ} (hattempt : 1 ≤ attempt)
    (e : IpcError) : (s.attemptFailed c attempt e).handler.Counted ∧
      (s.attemptFailed c attempt e).handler.remaining ≤ 3 * (maxAttempts - attempt) := by
  unfold attemptFailed
  split
  · rename_i hretry
    exact ⟨⟨hattempt, hretry.2⟩, le_refl _⟩
  · obtain ⟨hcounted, hzero⟩ := remaining_conclude (s := s) c false
    exact ⟨hcounted, hzero ▸ Nat.zero_le _⟩

theorem counted_handleDeclareMiningJob (job : DeclaredJob Tx) (prepared : Bool) :
    (handleDeclareMiningJob debug s job prepared).handler.Counted := by
  have hdeclared := declared_handleDeclareMiningJob debug s job prepared
  generalize handleDeclareMiningJob debug s job prepared = s' at hdeclared ⊢
  cases hdeclared <;> exact trivial

/-- Every step of the handler brings the answer nearer. -/
theorem remaining_next (hcounted : s.handler.Counted) (hs : next debug s a = some s') :
    s'.handler.Counted ∧ (s.handler.inProgress ≠ [] →
      (if a.isHandler then 1 else 0) + s'.handler.remaining ≤ s.handler.remaining) := by
  cases ha : a.isHandler with
  | false =>
    rw [(otherStep_of_next hs ha).handler]
    exact ⟨hcounted, fun _ => by simp⟩
  | true =>
    cases a with
    | takeRequest prepared =>
      simp only [next] at hs
      split at hs
      · rename_i request requests hwaiting hrequest
        cases hs
        refine ⟨?_, fun hbusy => absurd (congrArg HandlerPhase.inProgress hwaiting) hbusy⟩
        cases request with
        | declareMiningJob job => exact counted_handleDeclareMiningJob job prepared
        | pushSolution => exact hcounted
      · cases hs
    | noMoreRequests | shutDown =>
      simp only [next] at hs
      split at hs
      · rename_i hwaiting
        split at hs
        · cases hs
          exact ⟨trivial, fun hbusy => absurd (congrArg HandlerPhase.inProgress hwaiting) hbusy⟩
        · cases hs
      · cases hs
    | joinMonitor =>
      simp only [next] at hs
      split at hs
      · rename_i hjoining _
        cases hs
        exact ⟨trivial, fun hbusy => absurd (congrArg HandlerPhase.inProgress hjoining) hbusy⟩
      · cases hs
    | checkBlockReply reply =>
      simp only [next] at hs
      split at hs
      · rename_i c hchecking
        rw [hchecking]
        rcases reply with e | ⟨_ | _⟩
        · cases hs
          exact ⟨trivial, fun _ => Nat.le_of_ble_eq_true rfl⟩
        · cases hs
          exact ⟨le_refl 1, fun _ => Nat.le_of_ble_eq_true rfl⟩
        · cases hs
          obtain ⟨hafter, hzero⟩ := remaining_conclude (s := s) c true
          exact ⟨hafter, fun _ => by rw [hzero]; exact Nat.le_of_ble_eq_true rfl⟩
      · cases hs
    | createNewBlockReply reply =>
      simp only [next] at hs
      split at hs
      · rename_i c attempt hcreating
        rw [hcreating] at hcounted ⊢
        cases reply with
        | error e =>
          cases hs
          obtain ⟨hafter, hle⟩ := remaining_attemptFailed (s := s) c hcounted e
          refine ⟨hafter, fun _ => ?_⟩
          show 1 + _ ≤ 3 * (maxAttempts - attempt) + 2
          omega
        | ok client =>
          cases hs
          refine ⟨hcounted, fun _ => ?_⟩
          simp only [HandlerPhase.remaining, if_true]
          omega
      · cases hs
    | getBlockReply reply =>
      simp only [next] at hs
      split at hs
      · rename_i c attempt client hgetting
        rw [hgetting] at hcounted ⊢
        cases reply with
        | error e =>
          cases hs
          obtain ⟨hafter, hle⟩ := remaining_attemptFailed (s := s) c hcounted e
          refine ⟨hafter, fun _ => ?_⟩
          show 1 + _ ≤ 3 * (maxAttempts - attempt) + 1
          omega
        | ok block =>
          cases hs
          obtain ⟨hafter, hzero⟩ := remaining_conclude
            (s := { s with mempoolMirror := s.mempoolMirror.update block }) c false
          refine ⟨hafter, fun _ => ?_⟩
          rw [hzero]
          simp only [HandlerPhase.remaining, if_true]
          omega
      · cases hs
    | backoffElapsed =>
      simp only [next] at hs
      split at hs
      · rename_i c attempt hbacking
        rw [hbacking] at hcounted ⊢
        cases hs
        obtain ⟨hone, hlast⟩ := hcounted
        refine ⟨Nat.le_succ_of_le hone, fun _ => ?_⟩
        simp only [HandlerPhase.remaining, if_true]
        omega
      · cases hs
    | _ => cases ha

theorem counted_of_run (h : Run (Ready first) (Computes (next debug)) ts s) :
    s.handler.Counted := by
  refine Run.invariant (I := fun s => s.handler.Counted) (fun s hready => ?_)
    (fun s a s' hcounted hs => (remaining_next hcounted hs).1) h
  rw [hready.handler]
  exact trivial

/-- A template with a coinbase transaction sets every parameter. -/
theorem isSome_context?_update (m : MempoolMirror Tx) {block : Block Tx}
    (hblock : block.txdata ≠ []) : (m.update block).context?.isSome := by
  obtain ⟨coinbase, txdata, htxdata⟩ := List.exists_cons_of_ne_nil hblock
  simp [MempoolMirror.update, MempoolMirror.addTransactions, MempoolMirror.context?, htxdata]

/-- The parameters stay set. -/
theorem isSome_context?_foldl {m : MempoolMirror Tx} {events : List (MirrorEvent Tx)}
    (hm : m.context?.isSome)
    (hevents : ∀ block, .template block ∈ events → block.txdata ≠ []) :
    (events.foldl MempoolMirror.apply m).context?.isSome := by
  induction events generalizing m with
  | nil => exact hm
  | cons e events ih =>
    refine ih ?_ fun block hmem => hevents block (List.mem_cons_of_mem _ hmem)
    cases e with
    | delivered transactions => exact hm
    | template block => exact isSome_context?_update m (hevents block List.mem_cons_self)

/-- The last part of the handler does not panic where the parameters are set. -/
theorem not_panicked_of_concluded {c : CheckedJob Tx} {validJob : Bool}
    (hcontext : s.mempoolMirror.context?.isSome) (h : Concluded s c validJob s') :
    s'.handler ≠ .panicked := by
  cases h with
  | unset hnone =>
    rw [hnone] at hcontext
    cases hcontext
  | success _ _ | rejected _ _ => nofun

/-- A step from a state with the parameters set panics only over a missing input. -/
theorem not_panicked_next (hcontext : s.mempoolMirror.context?.isSome)
    (hpanicked : s.handler ≠ .panicked) (hs : next debug s a = some s')
    (hcontext' : s'.mempoolMirror.context?.isSome)
    (hinput : debug = true → ∀ job prepared, Takes ⟨s, a, s'⟩ job prepared →
      scriptSigs job.coinbaseTx ≠ []) : s'.handler ≠ .panicked := by
  cases ha : a.isHandler with
  | false => rwa [(otherStep_of_next hs ha).handler]
  | true =>
    cases handlerStep_of_next hs ha with
    | pushed _ _ => exact hpanicked
    | noMoreRequests _ | shutDown _ | joined _ | checkFailed _ | rejected _ => nofun
    | @declared prepared requests job hwaiting hrequest =>
      have hdeclared := declared_handleDeclareMiningJob debug
        { s with incomingRequests := requests } job prepared
      generalize handleDeclareMiningJob debug { s with incomingRequests := requests } job
        prepared = s' at *
      cases hdeclared with
      | noInput hdebug hnone =>
        exact absurd hnone (hinput hdebug job prepared ⟨rfl, by rw [hrequest]; rfl⟩)
      | unset _ _ hnone =>
        rw [hnone] at hcontext'
        cases hcontext'
      | missing _ _ _ _ | checked _ _ _ _ _ _ | unprepared _ _ _ _ _ => nofun
    | accepted _ => exact not_panicked_of_concluded hcontext (concluded_conclude s _ _)
    | goesOn _ hafter _ _ => exact (inProgress_of_refreshing hafter).2
    | gaveUp _ _ _ => exact not_panicked_of_concluded hcontext (concluded_conclude s _ _)
    | @refreshed c block _ =>
      rw [mempoolMirror_conclude] at hcontext'
      exact not_panicked_of_concluded hcontext' (concluded_conclude
        { s with mempoolMirror := s.mempoolMirror.update block } c false)

/-- **No panic.**  If every template has a coinbase transaction and, with debug messages on,
every declared coinbase transaction has an input, the handler never panics. -/
theorem not_panicked (h : Run (Ready first) (Computes (next debug)) ts s)
    (hfirst : first.txdata ≠ [])
    (htemplates : ∀ block, .template block ∈ history debug ts → block.txdata ≠ [])
    (hinputs : debug = true → ∀ t ∈ ts, ∀ job prepared, Takes t job prepared →
      scriptSigs job.coinbaseTx ≠ []) :
    s.handler ≠ .panicked := by
  suffices hall : s.handler ≠ .panicked ∧ s.mempoolMirror.context?.isSome from hall.1
  induction h with
  | start hready =>
    rw [hready.handler, hready.mempoolMirror]
    exact ⟨nofun, isSome_context?_update .new hfirst⟩
  | @next ts s s' a _ hs ih =>
    rw [history_concat] at htemplates
    obtain ⟨hpanicked, hcontext⟩ := ih
      (fun block hmem => htemplates block (List.mem_append_left _ hmem))
      fun hdebug t ht => hinputs hdebug t (List.mem_append_left _ ht)
    have hcontext' : s'.mempoolMirror.context?.isSome := by
      rw [mempoolMirror_next hs]
      exact isSome_context?_foldl hcontext fun block hmem =>
        htemplates block (List.mem_append_right _ hmem)
    refine ⟨not_panicked_next hcontext hpanicked hs hcontext' fun hdebug => ?_, hcontext'⟩
    exact hinputs hdebug _ (List.mem_append_right _ (List.mem_singleton.2 rfl))

/-- The table's job is answered although a template is fetched meanwhile. -/
theorem not_panicked_table : (tableAfter tableRejects).handler ≠ .panicked :=
  not_panicked (tableRun tableRejects (by rfl)) nofun
    (fun block hblock => by
      have hhistory : history false (tableTrace tableRejects) =
          [.delivered [], .template (tableBlock 8 101 [])] := rfl
      have heq : block = tableBlock 8 101 [] := by simpa [hhistory] using hblock
      rw [heq]
      nofun)
    nofun

end Validator

end CanaryMining
