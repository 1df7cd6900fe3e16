import CanaryMining.Manager.Server

/-!
# What the jobs of a channel pay

Each job should pay the whole value of its template to the miner of the channel
that works on it.  A channel's first job does, but later ones are made from the
payout mode of the connection, which every open overwrites.

## Main definitions

* `PaysUser` — a job pays the address an identity names.
* `ManagerState.PaysOwn`, `Server.AnnouncesOwn` — the jobs of the open channels, and
  the jobs a step announces, pay their own miners.
* `Server.OwnPayoutMode` — a template finds the payout mode of each channel's miner.

**Main result:** `Server.paysOwn_iff_ownPayoutMode`, over whole runs.
-/

namespace CanaryMining

open ManagerState

variable {F : Type} {X : ChannelsSv2 F} {Addr : Type}

section

variable (cfg : ManagerConfig F) (lib : AddressLib Addr)

/-- A job of a template pays the whole value of the template to the address that the
pool reads in an identity. -/
def PaysUser {J : Type} [ServerJob J] (user : Text) (job : J) : Prop :=
  ∀ template, ServerJob.origin job = .newTemplate template →
    ∃ script, PayoutMode.tryFromUserIdentity lib user cfg.bitcoinNetwork = .ok (.solo script) ∧
      ServerJob.coinbaseOutputs job = [⟨template.coinbaseTxValueRemaining, script⟩]

/-- Every job of an open channel pays the identity the channel was opened with. -/
def ManagerState.PaysOwn (s : ManagerState X) : Prop :=
  ∀ d kind id (c : X.Channel kind), s.channel? d kind id = some c →
    ∀ job, (X.jobStore c).Holds job → PaysUser cfg lib (X.userIdentity c) job

/-- The payout mode of each connection without custom work is the one of each of its
channels. -/
def ManagerState.FindsOwn (s : ManagerState X) : Prop :=
  ∀ d downstream, s.downstream? d = some downstream → downstream.requiresCustomWork = false →
    ∀ kind id (c : X.Channel kind), (downstream.downstreamData.channels kind).lookup id = some c →
      ∃ mode, downstream.downstreamData.payoutMode = some mode ∧
        PayoutMode.tryFromUserIdentity lib (X.userIdentity c) cfg.bitcoinNetwork = .ok mode

namespace Server

/-- The identities that a job announced to a connection is owed to: the one a new channel
is opened with, or, for a template, those of all open channels. -/
inductive AnnouncedTo (s : Server X) (d : DownstreamId) : ServerAction X → Text → Prop
  | opened (now : UInt64) {message : MiningMessage X}
      {queue : List (DownstreamId × MiningMessage X)} {user : Text} :
      s.queue = (d, message) :: queue → message.opener = some user →
      AnnouncedTo s d (.handleMining now) user
  | given (template : NewTemplate) (orders : MapOrders) {kind : MinerChannelKind}
      {id : ChannelId} {c : X.Channel kind} : s.manager.channel? d kind id = some c →
      AnnouncedTo s d (.newTemplate template orders) (X.userIdentity c)

/-- Every job a step announces is the first one of a channel or one of a template, and
pays whom it is owed to. -/
def AnnouncesOwn (s : Server X) (a : ServerAction X) (s' : Server X) : Prop :=
  ∀ d m kind (job : X.Job kind), .downstream d m ∈ s'.sent →
    m.announcedJob = some ⟨kind, job⟩ →
      ((∃ now, a = .handleMining now) ∨ ∃ template orders, a = .newTemplate template orders) ∧
      ∀ user, s.AnnouncedTo d a user → PaysUser cfg lib user job

/-- A template finds, for each connection it is given to, a payout mode that is the one of
each of its channels. -/
def OwnPayoutMode (s : Server X) : ServerAction X → Prop
  | .newTemplate _ _ => s.manager.FindsOwn cfg lib
  | _ => True

end Server

end

variable {cfg : ManagerConfig F} {lib : AddressLib Addr}

/-! ## Jobs -/

section Jobs

/-- A job of a template with the outputs of an accepted identity pays it. -/
theorem PaysUser.of_isJobOf {J : Type} [ServerJob J] {user : Text} {mode : PayoutMode}
    {template : NewTemplate} {job : J}
    (hmode : PayoutMode.tryFromUserIdentity lib user cfg.bitcoinNetwork = .ok mode)
    (hof : IsJobOf template
      (mode.coinbaseOutputs template.coinbaseTxValueRemaining cfg.coinbaseRewardScript) job) :
    PaysUser cfg lib user job := by
  intro template' horigin
  have htemplate : template = template' := by
    rw [hof.origin] at horigin
    exact JobOrigin.newTemplate.inj horigin
  obtain ⟨a, script, -, -, rfl⟩ := PayoutMode.tryFromUserIdentity_eq_ok hmode
  refine ⟨script, hmode, ?_⟩
  rw [hof.coinbaseOutputs, PayoutMode.coinbaseOutputs_solo, htemplate]

theorem PaysUser.activate (hX : X.Laws) {kind : MinerChannelKind} {user : Text}
    {job : X.Job kind} (h : PaysUser cfg lib user job) (timestamp : UInt32) :
    PaysUser cfg lib user (Job.activate job timestamp) := by
  intro template horigin
  obtain ⟨ho, hc, -⟩ := hX.activate kind job timestamp
  rw [ho] at horigin
  rw [hc]
  exact h template horigin

/-- What every job of a store pays, every job pays after a new previous hash. -/
theorem PaysUser.of_setsNewPrevHash (hX : X.Laws) {kind : MinerChannelKind} {user : Text}
    {store store' : BoundedJobStore (X.Job kind)} {message : SetNewPrevHash}
    (hsets : store.SetsNewPrevHash message store')
    (h : ∀ job, store.Holds job → PaysUser cfg lib user job) (job : X.Job kind)
    (hjob : store'.Holds job) : PaysUser cfg lib user job := by
  rcases hsets with hact | ⟨-, rfl⟩
  · have hstore : store' =
        (store.activateFutureJob message.templateId message.headerTimestamp).2 := by
      rw [hact]
    rw [hstore] at hjob
    rcases hjob.of_activateFutureJob with hold | ⟨future, hold, rfl⟩
    · exact h job hold
    · exact (h future hold).activate hX _
  · exact h job hjob.of_markPastJobsAsStale

/-- The jobs of a new channel pay the identity it is opened with. -/
theorem StartedWith.paysUser [Double F] (hX : X.Laws) {d : DownstreamId} {s : ManagerState X}
    {kind : MinerChannelKind} {c : X.Channel kind} {user : Text} {mode : PayoutMode}
    (hstarted : StartedWith cfg d s mode c)
    (hmode : PayoutMode.tryFromUserIdentity lib user cfg.bitcoinNetwork = .ok mode)
    (job : X.Job kind) (hjob : (X.jobStore c).Holds job) : PaysUser cfg lib user job := by
  cases hstarted with
  | job _ template prev first _ _ _ _ hof hsets =>
    refine PaysUser.of_setsNewPrevHash hX hsets (fun job' hjob' => ?_) job hjob
    have hfirst : job' = first :=
      hjob'.of_addTemplateJob.resolve_right (BoundedJobStore.not_holds_new job')
    rw [hfirst]
    exact .of_isJobOf hmode hof
  | noJob _ prev _ _ hsets =>
    refine PaysUser.of_setsNewPrevHash hX hsets (fun job' hjob' => ?_) job hjob
    exact absurd hjob' (BoundedJobStore.not_holds_new job')

end Jobs

/-! ## Mining messages -/

section Mining

variable [Double F] {d : DownstreamId} {s s' : ManagerState X} {opens : Prop}

/-- Handling a mining message gives no open channel a job that pays another miner. -/
theorem ManagerState.PaysOwn.change (hX : X.Laws) (hpays : s.PaysOwn cfg lib)
    (h : Change cfg lib d opens s s') : s'.PaysOwn cfg lib := by
  intro d' kind' id' c' hc' job hjob
  cases h with
  | payoutMode _ | channelId | group _ _ | insertVardiff | eraseVardiff | stats _ =>
    refine hpays d' kind' id' c' ?_ job hjob
    simpa using hc'
  | @channel kind id c new hc huser hstore =>
    have hd := isSome_downstream?_of_channel? s d kind id (by rw [hc]; rfl)
    by_cases hkind : kind' = kind
    · subst hkind
      rw [channel?_insertChannel _ _ _ _ _ _ _ hd] at hc'
      split at hc'
      · cases hc'
        rw [huser]
        rw [hstore] at hjob
        exact hpays d kind' id c hc job hjob
      · exact hpays d' kind' id' c' hc' job hjob
    · rw [channel?_insertChannel_ne _ _ _ _ _ _ _ _ hkind] at hc'
      exact hpays d' kind' id' c' hc' job hjob
  | @opened kind id c mode now hash _ hd _ hmode hstarted =>
    rw [channel?_setStats] at hc'
    by_cases hkind : kind' = kind
    · subst hkind
      rw [channel?_insertChannel _ _ _ _ _ _ _ hd] at hc'
      split at hc'
      · cases hc'
        exact hstarted.paysUser hX hmode job hjob
      · exact hpays d' kind' id' c' hc' job hjob
    · rw [channel?_insertChannel_ne _ _ _ _ _ _ _ _ hkind] at hc'
      exact hpays d' kind' id' c' hc' job hjob
  | closed _ =>
    rw [channel?_setStats, channel?_eraseChannel] at hc'
    split at hc'
    · cases hc'
    · exact hpays d' kind' id' c' hc' job hjob

theorem ManagerState.PaysOwn.changes (hX : X.Laws) (hpays : s.PaysOwn cfg lib)
    (h : Changes cfg lib d opens s s') : s'.PaysOwn cfg lib := by
  induction h with
  | refl => exact hpays
  | tail _ hchange ih => exact ih.change hX hchange

end Mining

/-! ## Messages of the template provider -/

section Templates

variable {s s' : ManagerState X} {outcome : Outcome X} {template : NewTemplate}
  {message : SetNewPrevHash} {orders : MapOrders}

/-- The modes of the connections come from accepted identities, and a connection that has
a channel has a mode. -/
structure ManagerState.ModesSet (s : ManagerState X) : Prop where
  solo : ∀ d mode, s.payoutMode? d = some mode → ∃ script, mode = .solo script
  known : ∀ d kind id, (s.channel? d kind id).isSome → (s.payoutMode? d).isSome

/-- A template that finds the channels' own modes keeps what their jobs pay. -/
theorem ManagerState.PaysOwn.newTemplate (hX : X.Laws) (hpays : s.PaysOwn cfg lib)
    (hown : s.FindsOwn cfg lib) (h : NewTemplateHandled cfg template s outcome)
    (hs' : outcome.state? = some s') : s'.PaysOwn cfg lib := by
  intro d kind id c' hc' job hjob
  rcases (h.each s' hs').channel_before (fun _ _ hgiven => hgiven.absent) hc' with
    hold | ⟨before, after, c, hbefore, hcustom, -, hgiven, hc, hafter⟩
  · exact hpays d kind id c' hold job hjob
  · obtain ⟨c₁, new, hc₁, hof, huser, hstore⟩ := hgiven.jobAdded hX hc
    have heq : c₁ = c' := Option.some.inj (hc₁.symm.trans hafter)
    subst heq
    have hchannel := (channel?_eq_some s d kind id).2 ⟨before, hbefore, hc⟩
    obtain ⟨mode, hset, hmode⟩ := hown d before hbefore hcustom kind id c hc
    rw [huser]
    rw [hstore] at hjob
    rcases hjob.of_addTemplateJob with rfl | hjob
    · rw [downstreamOutputs, hset] at hof
      exact .of_isJobOf hmode hof
    · exact hpays d kind id c hchannel job hjob

/-- Conversely, channels that all get a job paying their own miner had their own mode
set. -/
theorem ManagerState.findsOwn_of_paysOwn (hX : X.Laws) (hmodes : s.ModesSet)
    (h : NewTemplateHandled cfg template s outcome) (hs' : outcome.state? = some s')
    (hpays : s'.PaysOwn cfg lib) : s.FindsOwn cfg lib := by
  intro d before hbefore hcustom kind id c hc
  obtain ⟨after, hafter, hturn⟩ := (h.each s' hs').present d before hbefore
  rw [if_neg (by simp [hcustom])] at hturn
  obtain ⟨c', new, hc', hof, huser, hstore⟩ := hturn.jobAdded hX hc
  have hchannel := (channel?_eq_some s d kind id).2 ⟨before, hbefore, hc⟩
  have hholds : (X.jobStore c').Holds new := by
    rw [hstore]
    exact BoundedJobStore.holds_addTemplateJob _ _ _
  obtain ⟨script, hmode, hpaid⟩ := hpays d kind id c'
    ((channel?_eq_some s' d kind id).2 ⟨after, hafter, hc'⟩) new hholds template hof.origin
  have hset := hmodes.known d kind id (by rw [hchannel]; rfl)
  obtain ⟨mode, hset⟩ := Option.isSome_iff_exists.1 hset
  obtain ⟨script', rfl⟩ := hmodes.solo d mode hset
  have hdata : before.downstreamData.payoutMode = some (.solo script') := by
    rw [payoutMode?, hbefore] at hset
    exact hset
  have houtputs := hof.coinbaseOutputs
  simp only [downstreamOutputs, hdata, hpaid, PayoutMode.coinbaseOutputs_solo] at houtputs
  have hscript : script = script' := by
    simpa using houtputs
  rw [huser] at hmode
  exact ⟨.solo script', hdata, hscript ▸ hmode⟩

theorem ManagerState.PaysOwn.setNewPrevHash (hX : X.Laws) (hpays : s.PaysOwn cfg lib)
    (h : NewPrevHashHandled message s outcome) (hs' : outcome.state? = some s') :
    s'.PaysOwn cfg lib := by
  intro d kind id c' hc' job hjob
  rcases (h.each s' hs').channel_before (fun _ _ hset => hset.absent) hc' with
    hold | ⟨before, after, c, hbefore, -, -, hset, hc, hafter⟩
  · exact hpays d kind id c' hold job hjob
  · obtain ⟨c₁, hc₁, hlib⟩ := hset.channel kind id c hc
    have heq : c₁ = c' := Option.some.inj (hc₁.symm.trans hafter)
    subst heq
    obtain ⟨huser, hsets⟩ := hX.onSetNewPrevHash _ _ _ _ hlib
    have hchannel := (channel?_eq_some s d kind id).2 ⟨before, hbefore, hc⟩
    rw [huser]
    exact PaysUser.of_setsNewPrevHash hX hsets (hpays d kind id c hchannel) job hjob

end Templates

/-! ## The modes of the connections -/

section Modes

variable {d : DownstreamId} {s s' : ManagerState X} {opens : Prop}

/-- A change of no payout mode, after which every channel has a connection with one. -/
theorem ManagerState.ModesSet.of_payoutMode? (hmodes : s.ModesSet)
    (hmode : ∀ d, s'.payoutMode? d = s.payoutMode? d)
    (hchannel : ∀ d kind id, (s'.channel? d kind id).isSome →
      (s.channel? d kind id).isSome ∨ (s.payoutMode? d).isSome) : s'.ModesSet := by
  refine ⟨fun d mode h => ?_, fun d kind id h => ?_⟩
  · rw [hmode] at h
    exact hmodes.solo d mode h
  · rw [hmode]
    rcases hchannel d kind id h with hold | hset
    · exact hmodes.known d kind id hold
    · exact hset

variable [Double F]

theorem ManagerState.ModesSet.change (hmodes : s.ModesSet) (h : Change cfg lib d opens s s') :
    s'.ModesSet := by
  cases h with
  | @payoutMode user mode hmode =>
    obtain ⟨a, script, -, -, rfl⟩ := PayoutMode.tryFromUserIdentity_eq_ok hmode
    refine ⟨fun d' mode' h => ?_, fun d' kind id h => ?_⟩
    · rw [payoutMode?_setPayoutMode] at h
      split at h
      · obtain ⟨_, -, rfl⟩ := Option.map_eq_some_iff.1 h
        exact ⟨script, rfl⟩
      · exact hmodes.solo d' mode' h
    · rw [channel?_setPayoutMode] at h
      rw [payoutMode?_setPayoutMode]
      split
      · rename_i heq
        rw [Option.isSome_map, ← heq]
        exact isSome_downstream?_of_channel? s d' kind id h
      · exact hmodes.known d' kind id h
  | channelId =>
    refine hmodes.of_payoutMode? (fun d' => ?_) (fun d' kind id h => .inl ?_)
    · simp
    · simpa using h
  | group _ _ =>
    refine hmodes.of_payoutMode? (fun d' => ?_) (fun d' kind id h => .inl ?_)
    · simp
    · simpa using h
  | insertVardiff | eraseVardiff | stats _ =>
    exact hmodes.of_payoutMode? (fun _ => rfl) fun _ _ _ h => .inl h
  | @channel kind id c c' hc _ _ =>
    have hd := isSome_downstream?_of_channel? s d kind id (by rw [hc]; rfl)
    refine hmodes.of_payoutMode? (fun d' => ?_) (fun d' kind' id' h => .inl ?_)
    · simp
    · by_cases hkind : kind' = kind
      · subst hkind
        rw [channel?_insertChannel _ _ _ _ _ _ _ hd] at h
        split at h
        · rename_i hkey
          rw [hkey.1, hkey.2, hc]
          rfl
        · exact h
      · rwa [channel?_insertChannel_ne _ _ _ _ _ _ _ _ hkind] at h
  | @opened kind id c mode now hash _ hd hset _ _ =>
    refine hmodes.of_payoutMode? (fun d' => ?_) (fun d' kind' id' h => ?_)
    · simp
    · rw [channel?_setStats] at h
      by_cases hkind : kind' = kind
      · subst hkind
        rw [channel?_insertChannel _ _ _ _ _ _ _ hd] at h
        split at h
        · rename_i hkey
          rw [hkey.1, hset]
          exact .inr rfl
        · exact .inl h
      · rw [channel?_insertChannel_ne _ _ _ _ _ _ _ _ hkind] at h
        exact .inl h
  | closed _ =>
    refine hmodes.of_payoutMode? (fun d' => ?_) (fun d' kind' id' h => .inl ?_)
    · simp
    · rw [channel?_setStats, channel?_eraseChannel] at h
      split at h
      · cases h
      · exact h

theorem ManagerState.ModesSet.changes (hmodes : s.ModesSet) (h : Changes cfg lib d opens s s') :
    s'.ModesSet := by
  induction h with
  | refl => exact hmodes
  | tail _ hchange ih => exact ih.change hchange

omit [Double F] in
/-- A message of the template provider sets no payout mode and opens no channel. -/
theorem ManagerState.ModesSet.eachDownstream {change : Downstream X → Downstream X → Prop}
    (hmodes : s.ModesSet) (h : EachDownstream change s s')
    (habsent : ∀ before after, change before after → ∀ kind id,
      (before.downstreamData.channels kind).lookup id = none →
        (after.downstreamData.channels kind).lookup id = none)
    (hmode : ∀ before after, change before after →
      after.downstreamData.payoutMode = before.downstreamData.payoutMode) : s'.ModesSet := by
  refine hmodes.of_payoutMode? (fun d => ?_) (fun d kind id hc' => .inl ?_)
  · unfold payoutMode?
    cases hd : s.downstream? d with
    | none => rw [h.absent d hd]
    | some before =>
      obtain ⟨after, hafter, hturn⟩ := h.present d before hd
      rw [hafter]
      split at hturn
      · rw [hturn]
      · exact hmode _ _ hturn
  · obtain ⟨c', hc'⟩ := Option.isSome_iff_exists.1 hc'
    rcases h.channel_before habsent hc' with
      hold | ⟨before, after, c, hbefore, -, -, -, hc, -⟩
    · rw [hold]
      rfl
    · rw [(channel?_eq_some s d kind id).2 ⟨before, hbefore, hc⟩]
      rfl

end Modes

/-! ## Runs -/

namespace Server

variable {s s' : Server X} {a : ServerAction X}

theorem Bookkeeping.modesSet (h : Bookkeeping cfg s s') (hmodes : s.manager.ModesSet) :
    s'.manager.ModesSet := by
  refine ⟨fun d mode hmode => ?_, fun d kind id hc => ?_⟩
  · obtain ⟨downstream', hd', hmode'⟩ := Option.bind_eq_some_iff.1 hmode
    rcases h.downstream d downstream' hd' with ⟨downstream, hd, hdata, -⟩ | ⟨group, -, rfl⟩
    · refine hmodes.solo d mode ?_
      rw [payoutMode?, hd, Option.bind_some, ← hdata]
      exact hmode'
    · cases hmode'
  · obtain ⟨c, hc⟩ := Option.isSome_iff_exists.1 hc
    obtain ⟨hold, hsame⟩ := h.channel_before hc
    rw [hsame]
    exact hmodes.known d kind id (by rw [hold]; rfl)

theorem Bookkeeping.paysOwn (h : Bookkeeping cfg s s') (hpays : s.manager.PaysOwn cfg lib) :
    s'.manager.PaysOwn cfg lib :=
  fun d kind id c hc => hpays d kind id c (h.channel_before hc).1

theorem Started.modesSet (h : Started s) : s.manager.ModesSet := by
  have hnone : ∀ d, s.manager.downstream? d = none := by
    intro d
    rw [ManagerState.downstream?, h.downstream]
    rfl
  refine ⟨fun d mode hmode => ?_, fun d kind id hc => ?_⟩
  · rw [payoutMode?, hnone] at hmode
    cases hmode
  · rw [channel?, hnone] at hc
    cases hc

theorem Started.paysOwn (h : Started s) : s.manager.PaysOwn cfg lib := by
  intro d kind id c hc
  rw [channel?, ManagerState.downstream?, h.downstream] at hc
  cases hc

variable [Double F]

/-- Every step keeps the modes set. -/
theorem modesSet_next (hX : X.Laws) (hmodes : s.manager.ModesSet)
    (h : next cfg lib s a = some s') : s'.manager.ModesSet := by
  cases a with
  | handleMining now =>
    obtain ⟨-, d, message, queue, outcome, -, hhandles, hhandled⟩ := handled_handleMining hX h
    exact hmodes.changes (hhandles.changes _ hhandled.state)
  | newTemplate template orders =>
    obtain ⟨-, outcome, htemplate, hhandled⟩ := handled_newTemplate hX h
    have heach := htemplate.each _ hhandled.state
    exact hmodes.eachDownstream heach (fun _ _ hg => hg.absent) fun _ _ hg => hg.payoutMode
  | setNewPrevHash message orders =>
    obtain ⟨-, outcome, hprev, hhandled⟩ := handled_setNewPrevHash h
    have heach := hprev.each _ hhandled.state
    exact hmodes.eachDownstream heach (fun _ _ hg => hg.absent) fun _ _ hg => hg.payoutMode
  | _ => exact (bookkeeping_of_next h rfl).modesSet hmodes

/-- **The step lemma.**  Only a template can give a channel a job that pays another
miner. -/
theorem paysOwn_next (hX : X.Laws) (hpays : s.manager.PaysOwn cfg lib)
    (h : next cfg lib s a = some s') (hown : s.OwnPayoutMode cfg lib a) :
    s'.manager.PaysOwn cfg lib := by
  cases a with
  | handleMining now =>
    obtain ⟨-, d, message, queue, outcome, -, hhandles, hhandled⟩ := handled_handleMining hX h
    exact hpays.changes hX (hhandles.changes _ hhandled.state)
  | newTemplate template orders =>
    obtain ⟨-, outcome, htemplate, hhandled⟩ := handled_newTemplate hX h
    exact hpays.newTemplate hX hown htemplate hhandled.state
  | setNewPrevHash message orders =>
    obtain ⟨-, outcome, hprev, hhandled⟩ := handled_setNewPrevHash h
    exact hpays.setNewPrevHash hX hprev hhandled.state
  | _ => exact (bookkeeping_of_next h rfl).paysOwn hpays

/-- A step whose jobs pay their own miners found their own modes. -/
theorem ownPayoutMode_of_paysOwn (hX : X.Laws) (hmodes : s.manager.ModesSet)
    (h : next cfg lib s a = some s') (hpays : s'.manager.PaysOwn cfg lib) :
    s.OwnPayoutMode cfg lib a := by
  cases a with
  | newTemplate template orders =>
    obtain ⟨-, outcome, htemplate, hhandled⟩ := handled_newTemplate hX h
    exact findsOwn_of_paysOwn hX hmodes htemplate hhandled.state hpays
  | _ => trivial

/-- The announcements of a step that finds the channels' own modes. -/
theorem announcesOwn_next (hX : X.Laws) (h : next cfg lib s a = some s')
    (hown : s.OwnPayoutMode cfg lib a) : AnnouncesOwn cfg lib s a s' := by
  intro d m kind job hm hjob
  cases a with
  | handleMining now =>
    obtain ⟨-, d', message, queue, outcome, hqueue, hhandles, hhandled⟩ :=
      handled_handleMining hX h
    rw [hhandled.sent] at hm
    obtain ⟨rfl, user, mode, template, hopener, hmode, hof⟩ :=
      hhandles.announces d m kind job hm hjob
    refine ⟨.inl ⟨now, rfl⟩, fun user' howed => ?_⟩
    cases howed with
    | opened _ hqueue' hopener' =>
      rw [hqueue] at hqueue'
      cases hqueue'
      rw [hopener, Option.some.injEq] at hopener'
      exact hopener' ▸ .of_isJobOf hmode hof
  | newTemplate template orders =>
    obtain ⟨-, outcome, htemplate, hhandled⟩ := handled_newTemplate hX h
    rw [hhandled.sent] at hm
    obtain ⟨downstream, hd, hcustom, hof⟩ := htemplate.announces d m kind job hm hjob
    refine ⟨.inr ⟨template, orders, rfl⟩, fun user howed => ?_⟩
    cases howed with
    | @given _ _ kind' id c hc =>
      obtain ⟨downstream', hd', hc⟩ := (channel?_eq_some _ _ _ _).1 hc
      have heq : downstream' = downstream := Option.some.inj (hd'.symm.trans hd)
      subst heq
      obtain ⟨mode, hset, hmode⟩ := hown d downstream' hd hcustom kind' id c hc
      rw [downstreamOutputs, hset] at hof
      exact .of_isJobOf hmode hof
  | setNewPrevHash message orders =>
    obtain ⟨-, outcome, hprev, hhandled⟩ := handled_setNewPrevHash h
    rw [hhandled.sent] at hm
    rw [hprev.announces d m hm] at hjob
    cases hjob
  | _ =>
    rw [(bookkeeping_of_next h rfl).sent] at hm
    cases hm

/-- **Every job pays the channel's own miner**, in every state of a run and in every
announcement, exactly if each template finds, for each connection it is given to, the
payout mode of each of its channels. -/
theorem paysOwn_iff_ownPayoutMode (hX : X.Laws) (cfg : ManagerConfig F) (lib : AddressLib Addr)
    {ts : List (Transition (Server X) (ServerAction X))} {s : Server X}
    (hrun : Run Started (Computes (next cfg lib)) ts s) :
    (∀ t ∈ ts, t.after.manager.PaysOwn cfg lib ∧
      AnnouncesOwn cfg lib t.before t.action t.after) ↔
    ∀ t ∈ ts, t.before.OwnPayoutMode cfg lib t.action := by
  constructor
  · intro hall t ht
    have hsteps := hrun.forall_transition_of (I := fun s => s.manager.ModesSet)
      (P := fun _ => True) (fun _ hstart => hstart.modesSet)
      (fun _ _ _ hmodes hstep _ => modesSet_next hX hmodes hstep) fun _ _ => trivial
    obtain ⟨hmodes, hstep, -⟩ := hsteps t ht
    exact ownPayoutMode_of_paysOwn hX hmodes hstep (hall t ht).1
  · intro hown t ht
    have hsteps := hrun.forall_transition_of (I := fun s => s.manager.PaysOwn cfg lib)
      (P := fun t => OwnPayoutMode cfg lib t.before t.action) (fun _ hstart => hstart.paysOwn)
      (fun _ _ _ hpays hstep hok => paysOwn_next hX hpays hstep hok) hown
    obtain ⟨-, hstep, hpays⟩ := hsteps t ht
    exact ⟨hpays, announcesOwn_next hX hstep (hown t ht)⟩

/-! ## A refused open -/

omit [Double F] in
theorem findsOwn_iff {s : ManagerState X} : s.FindsOwn cfg lib ↔
    ∀ e ∈ s.data.downstream.entries, e.2.requiresCustomWork = false →
      ∀ kind ∈ [MinerChannelKind.standard, .extended],
        ∀ channel ∈ (e.2.downstreamData.channels kind).entries,
          ∃ mode ∈ e.2.downstreamData.payoutMode, PayoutMode.tryFromUserIdentity lib
            (X.userIdentity channel.2) cfg.bitcoinNetwork = .ok mode := by
  constructor
  · intro h e he hcustom kind _ channel hchannel
    exact h e.1 e.2 (AssocMap.lookup_eq_some.2 he) hcustom kind channel.1 channel.2
      (AssocMap.lookup_eq_some.2 hchannel)
  · intro h d downstream hd hcustom kind id c hc
    refine h ⟨d, downstream⟩ (AssocMap.lookup_eq_some.1 hd) hcustom kind ?_ ⟨id, c⟩
      (AssocMap.lookup_eq_some.1 hc)
    cases kind <;> simp

instance (s : Server X) (a : ServerAction X) : Decidable (s.OwnPayoutMode cfg lib a) :=
  match a with
  | .newTemplate _ _ => decidable_of_iff _ findsOwn_iff.symm
  | .bootstrap | .register _ | .setupConnection _ _ _ | .forward _ _ | .handleMining _
  | .setNewPrevHash _ _ | .managerClosesSessions _ | .managerRemoves
  | .connectionClosesSessions _ _ | .connectionRemoves _ | .poll _ _ => .isTrue trivial

/-- A template of the mempool. -/
def mempoolTemplate : NewTemplate := ⟨2, false, 5000001000⟩

/-- A template comes after Alice has opened a channel and a second open was handled. -/
def secondOpen (second : MiningMessage tableChannels) : List (ServerAction tableChannels) :=
  twoOpens (openStandard aliceAddress (.num 1)) second ++
    [.handleMining 1, .newTemplate mempoolTemplate default]

/-- Alice opens a second channel under her own address. -/
theorem paysOwn_iff_ownPayoutMode_sameMiner :
    ∃ ts s, Run Started (Computes (next tableConfig tableLib)) ts s ∧
      ts = trace (next tableConfig tableLib) tableServer
        (secondOpen (openStandard (aliceAddress ++ ".garage".toList) (.num 1))) ∧
      ∀ t ∈ ts, t.after.manager.PaysOwn tableConfig tableLib ∧
        AnnouncesOwn tableConfig tableLib t.before t.action t.after := by
  refine ⟨_, _, .ofActions tableServer_started (secondOpen _) rfl, rfl, ?_⟩
  refine (paysOwn_iff_ownPayoutMode tableChannels_laws tableConfig tableLib
    (.ofActions tableServer_started (secondOpen _) rfl)).2 ?_
  decide +kernel

/-- **Bob's open is refused** for its hashrate, but the next template makes Alice's
channel work for Bob. -/
theorem paysOwn_fails_refusedOpen :
    ¬ ∀ ts (s : Server tableChannels), Run Started (Computes (next tableConfig tableLib)) ts s →
      s.manager.PaysOwn tableConfig tableLib := by
  intro hall
  have hpays := hall _ _ (.ofActions tableServer_started
    (secondOpen (openStandard bobAddress (.num (-1)))) rfl)
  obtain ⟨script, halice, hpaid⟩ := hpays 1 .standard 2 _ rfl _ (.active rfl) mempoolTemplate rfl
  have halice' : PayoutMode.tryFromUserIdentity tableLib aliceAddress (some .regtest) =
      .ok (.solo script) := halice
  have hpaid' : [TxOut.mk 5000001000 bobScript] = [⟨5000001000, script⟩] := hpaid
  have hscript : script = bobScript := by
    simpa [eq_comm] using hpaid'
  rw [hscript] at halice'
  exact absurd halice' (by decide +kernel)

end Server

end CanaryMining
