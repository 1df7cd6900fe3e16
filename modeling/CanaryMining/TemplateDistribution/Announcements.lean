import CanaryMining.TemplateDistribution.Steps

/-!
# What the template provider announces

The monitor of the templates and the bootstrap after a change of constraints both publish
templates, but never at the same time: the handler of the pool's messages waits for the
monitor to exit before it bootstraps.  So the pool sees one sequence of announcements, whose
ids increase, and a template that is not announced as a new tip builds on the tip announced
last.  The provider remembers only templates that it announced, and takes for stale only those
announced before a later tip.

## Main definitions

* `Grounded`, `Outdated` — of sequences of announcements.
* `TemplateStep` — what a step does to the templates.
* `Sourced` — the announced templates are among those that the node gave.
* `Told` — what a state knows of templates agrees with the announcements.
* `Numbered` — so do the ids.
-/

namespace CanaryMining

namespace Tdp

variable {Client : Type}

namespace Announcement

variable {L : BitcoinLib}

/-- The tip announced last. -/
def lastTip (anns : List (Announcement L Client)) : Option BlockHash :=
  (anns.filter (·.tip)).getLast?.map (·.data.getPrevHash)

/-- A template that is not announced as a tip builds on the tip announced last. -/
def Grounded (anns : List (Announcement L Client)) : Prop :=
  ∀ before ann after, anns = before ++ ann :: after → ann.tip = false →
    lastTip before = some ann.data.getPrevHash

/-- A tip was announced after the template. -/
def Outdated (anns : List (Announcement L Client)) (templateId : UInt64) : Prop :=
  ∃ before ann after, anns = before ++ ann :: after ∧ ann.data.templateId = templateId ∧
    ∃ later ∈ after, later.tip = true

variable {anns new : List (Announcement L Client)} {ann : Announcement L Client} {id : UInt64}

theorem lastTip_append_singleton : lastTip (anns ++ [ann]) =
    if ann.tip then some ann.data.getPrevHash else lastTip anns := by
  unfold lastTip
  rw [List.filter_append]
  split
  · rename_i htip
    simp [htip]
  · rename_i htip
    simp [htip]

theorem Grounded.append_singleton (h : Grounded anns)
    (hann : ann.tip = false → lastTip anns = some ann.data.getPrevHash) :
    Grounded (anns ++ [ann]) := by
  intro before later after heq htip
  induction after using List.reverseRecOn with
  | nil =>
    obtain ⟨rfl, hlast⟩ := List.append_inj' heq rfl
    rw [List.singleton_inj.1 hlast] at hann
    exact hann htip
  | append_singleton after last _ =>
    rw [← List.cons_append, ← List.append_assoc] at heq
    exact h before later after (List.append_inj' heq rfl).1 htip

theorem Outdated.append (h : Outdated anns id) : Outdated (anns ++ new) id := by
  obtain ⟨before, ann, after, rfl, hid, later, hlater, htip⟩ := h
  exact ⟨before, ann, after ++ new, by simp, hid, later, List.mem_append_left _ hlater, htip⟩

theorem outdated_of_mem (hann : ann ∈ anns) {later : Announcement L Client}
    (htip : later.tip = true) : Outdated (anns ++ [later]) ann.data.templateId := by
  obtain ⟨before, after, rfl⟩ := List.append_of_mem hann
  exact ⟨before, ann, after ++ [later], by simp, rfl, later, by simp, htip⟩

/-- All messages of an announcement announce. -/
theorem filter_messages (ann : Announcement L Client) :
    ann.messages.filter ProviderMessage.isAnnouncement = ann.messages := by
  unfold messages BitcoinCoreSv2Tdp.announcement
  cases ann.tip with
  | false => rfl
  | true => rfl

end Announcement

open Announcement

namespace BitcoinCoreSv2Tdp

variable {L : BitcoinLib} {p p' : BitcoinCoreSv2Tdp Client} {a : TdpAction Client}
  {anns news : List (Announcement L Client)} {n : ℕ} {id : UInt64}

/-! ## Steps -/

/-- The ids that were taken for templates that are not published. -/
def heldIds (p : BitcoinCoreSv2Tdp Client) : List UInt64 :=
  p.monitor.heldIds ++ p.incoming.heldIds

/-- No bootstrap while the monitor runs. -/
def Exclusive (p : BitcoinCoreSv2Tdp Client) : Prop :=
  p.incoming.bootstraps = true → p.monitor.idle = true

/-- The messages that announce templates. -/
def announced (p : BitcoinCoreSv2Tdp Client) : List ProviderMessage :=
  p.outgoingMessages.filter ProviderMessage.isAnnouncement

/-- The templates that the state knows are the same. -/
structure SameTemplates (p p' : BitcoinCoreSv2Tdp Client) : Prop where
  announced : p'.announced = p.announced
  currentPrevHash : p'.currentPrevHash = p.currentPrevHash
  templateData : p'.templateData = p.templateData
  staleTemplateIds : p'.staleTemplateIds = p.staleTemplateIds
  staleTasks : p'.staleTasks = p.staleTasks

/-- The tasks hold no more than before. -/
structure HoldsNoMore (p p' : BitcoinCoreSv2Tdp Client) : Prop where
  heldIds : p'.heldIds ⊆ p.heldIds
  exclusive : p.Exclusive → p'.Exclusive
  holding : ∀ data, p'.monitor = .holding data → p.monitor = .holding data

/-- What a step does to the templates, and what it announces. -/
inductive TemplateStep (L : BitcoinLib) (p p' : BitcoinCoreSv2Tdp Client) :
    List (Announcement L Client) → Prop
  | kept (hsame : SameTemplates p p') (hfactory : p'.templateIdFactory = p.templateIdFactory)
      (hheld : HoldsNoMore p p') : TemplateStep L p p' []
  | took (hsame : SameTemplates p p')
      (hfactory : p'.templateIdFactory = p.templateIdFactory + 1)
      (hheld : p.Exclusive → p.heldIds = [] ∧ p'.heldIds = [p.templateIdFactory])
      (hexclusive : p.Exclusive → p'.Exclusive)
      (hholding : ∀ data, p'.monitor = .holding data → p.monitor = .holding data) :
      TemplateStep L p p' []
  | held (data : TemplateData Client) (hsame : SameTemplates p p')
      (hfactory : p'.templateIdFactory = p.templateIdFactory) (hids : p'.heldIds = p.heldIds)
      (hexclusive : p.Exclusive → p'.Exclusive) (hmonitor : p'.monitor = .holding data)
      (hprev : p.currentPrevHash = some data.getPrevHash) : TemplateStep L p p' []
  | published (ann : Announcement L Client) (hid : ann.data.templateId ∈ p.heldIds)
      (htip : ann.tip = false → p.monitor = .holding ann.data)
      (houtgoing : p'.outgoingMessages = p.outgoingMessages ++ ann.messages)
      (hfactory : p'.templateIdFactory = p.templateIdFactory)
      (hprev : p'.currentPrevHash =
        if ann.tip then some ann.data.getPrevHash else p.currentPrevHash)
      (hdata : p'.templateData = p.retainedWith ann.data)
      (hstale : p'.staleTemplateIds = p.staleTemplateIds)
      (htasks : p'.staleTasks = p.staleTasks ∨
        (ann.tip = true ∧ ∃ prevHash, p.currentPrevHash = some prevHash ∧
          ann.data.getPrevHash ≠ prevHash) ∧
            p'.staleTasks = p.staleTasks ++ [p.templateData.keys])
      (hexclusive : p.Exclusive → p'.Exclusive ∧ p'.heldIds = [])
      (hnotHolding : ∀ data, p'.monitor ≠ .holding data) : TemplateStep L p p' [ann]
  | removed (k : ℕ) (ids : List UInt64) (hids : p.staleTasks[k]? = some ids)
      (hannounced : p'.announced = p.announced) (hprev : p'.currentPrevHash = p.currentPrevHash)
      (hfactory : p'.templateIdFactory = p.templateIdFactory) (hheld : HoldsNoMore p p')
      (hheldIds : p'.heldIds = p.heldIds)
      (hdata : p'.templateData = ids.foldl (fun m id => m.erase id) p.templateData)
      (hstale : p'.staleTemplateIds = ids) (htasks : p'.staleTasks = p.staleTasks.eraseIdx k) :
      TemplateStep L p p' []

/-- Nothing is bootstrapped while the monitor runs. -/
theorem Exclusive.bootstraps_eq_false (h : p.Exclusive) (hidle : p.monitor.idle = false) :
    p.incoming.bootstraps = false := by
  by_contra hbootstraps
  have := h (by simpa using hbootstraps)
  rw [hidle] at this
  cases this

/-- A task that moves holds nothing. -/
theorem holdsNoMore_of_moves (hmonitor : p'.monitor = p.monitor ∨ p.monitor.Moves p'.monitor)
    (hincoming : p'.incoming = p.incoming ∨ p.incoming.Moves p'.monitor p'.incoming) :
    HoldsNoMore p p' := by
  have hidle : p.monitor.idle = true → p'.monitor.idle = true := by
    intro h
    rcases hmonitor with hsame | hmoves
    · rw [hsame]
      exact h
    · exact hmoves.idle h
  refine ⟨fun id hid => ?_, fun hexclusive hbootstraps => ?_, fun data hholding => ?_⟩
  · rcases List.mem_append.1 hid with hid | hid
    · rcases hmonitor with hsame | hmoves
      · exact List.mem_append_left _ (hsame ▸ hid)
      · rw [hmoves.heldIds] at hid
        cases hid
    · rcases hincoming with hsame | hmoves
      · exact List.mem_append_right _ (hsame ▸ hid)
      · rw [hmoves.heldIds] at hid
        cases hid
  · rcases hincoming with hsame | hmoves
    · exact hidle (hexclusive (hsame ▸ hbootstraps))
    · rcases hmoves.bootstraps hbootstraps with hbefore | hafter
      · exact hidle (hexclusive hbefore)
      · exact hafter
  · rcases hmonitor with hsame | hmoves
    · rw [← hsame, hholding]
    · have hnone := hmoves.heldIds
      rw [hholding] at hnone
      cases hnone

/-- The handler takes up a request, or answers it. -/
theorem holdsNoMore_of_request (hmonitor : p'.monitor = p.monitor)
    (hheld : p'.incoming.heldIds = []) (hbootstraps : p'.incoming.bootstraps = false) :
    HoldsNoMore p p' := by
  refine ⟨fun id hid => ?_, fun _ h => ?_, fun data h => hmonitor ▸ h⟩
  · rw [heldIds, hheld, List.append_nil, hmonitor] at hid
    exact List.mem_append_left _ hid
  · cases hbootstraps.symm.trans h

/-- Nothing is held after the monitor has published. -/
theorem exclusive_of_monitor (hmonitor : p.monitor.idle = false)
    (hwaiting : p'.monitor.heldIds = []) (hincoming : p'.incoming = p.incoming)
    (h : p.Exclusive) : p'.Exclusive ∧ p'.heldIds = [] := by
  have hfree := h.bootstraps_eq_false hmonitor
  refine ⟨fun hbootstraps => ?_, ?_⟩
  · rw [hincoming, hfree] at hbootstraps
    cases hbootstraps
  · rw [heldIds, hwaiting, hincoming, IncomingTask.heldIds_eq_nil hfree]
    rfl

/-- A message that announces nothing. -/
theorem announced_of_append {message : ProviderMessage}
    (houtgoing : p'.outgoingMessages = p.outgoingMessages ++ [message])
    (hmessage : message.isAnnouncement = false) : p'.announced = p.announced := by
  simp [announced, houtgoing, List.filter_append, hmessage]

/-! ## What each step announces -/

theorem announcement?_held {template : Option IpcTemplate} {data : TemplateData Client}
    (hfetched : p.fetched? L (.monitorFetched template) = some data)
    (hprev : p.currentPrevHash = some data.getPrevHash) :
    p.announcement? L (.monitorFetched template) = none := by
  simp only [announcement?, hfetched, hprev, ne_eq, not_true_eq_false, if_false]

theorem announcement?_publishedTip {template : Option IpcTemplate} {data : TemplateData Client}
    {newTemplate : NewTemplate} {prevHash : BlockHash}
    (hfetched : p.fetched? L (.monitorFetched template) = some data)
    (hprev : p.currentPrevHash = some prevHash) (hne : data.getPrevHash ≠ prevHash)
    (hmessage : data.getNewTemplateMessage L true = .ok newTemplate) :
    p.announcement? L (.monitorFetched template) = some ⟨data, true, newTemplate, hmessage⟩ := by
  simp only [announcement?, hfetched, hprev, if_pos hne]
  exact of?_eq_some hmessage

theorem announcement?_publishedHeld {data : TemplateData Client} {newTemplate : NewTemplate}
    (hmonitor : p.monitor = .holding data)
    (hmessage : data.getNewTemplateMessage L false = .ok newTemplate) :
    p.announcement? L .minIntervalPassed = some ⟨data, false, newTemplate, hmessage⟩ := by
  simp only [announcement?, hmonitor]
  exact of?_eq_some hmessage

theorem announcement?_bootstrapped {template : Option IpcTemplate} {data : TemplateData Client}
    {newTemplate : NewTemplate} (hfetched : p.fetched? L (.bootstrapFetched template) = some data)
    (hmessage : data.getNewTemplateMessage L true = .ok newTemplate) :
    p.announcement? L (.bootstrapFetched template) = some ⟨data, true, newTemplate, hmessage⟩ := by
  simp only [announcement?, hfetched, Option.bind_some]
  exact of?_eq_some hmessage

/-- **What a step does to the templates.** -/
theorem templateStep_of_tdpStep (h : TdpStep L p a p') :
    TemplateStep L p p' (p.announcement? L a).toList := by
  have hsame : SameTemplates p p' → p'.templateIdFactory = p.templateIdFactory →
      (p'.monitor = p.monitor ∨ p.monitor.Moves p'.monitor) →
        (p'.incoming = p.incoming ∨ p.incoming.Moves p'.monitor p'.incoming) →
          TemplateStep L p p' [] := fun hsame hfactory hmonitor hincoming =>
    .kept hsame hfactory (holdsNoMore_of_moves hmonitor hincoming)
  cases h with
  | sent message => exact hsame ⟨rfl, rfl, rfl, rfl, rfl⟩ rfl (.inl rfl) (.inl rfl)
  | moved _ monitor incoming monitorCancelled cancelled ha hnews hmonitor hincoming =>
    rw [hnews]
    exact hsame ⟨rfl, rfl, rfl, rfl, rfl⟩ rfl hmonitor hincoming
  | tookNext client waiting hmonitor =>
    refine .took ⟨rfl, rfl, rfl, rfl, rfl⟩ rfl (fun hexclusive => ?_)
      (fun hexclusive hbootstraps => ?_) nofun
    · have hfree := hexclusive.bootstraps_eq_false (by rw [hmonitor]; rfl)
      rw [heldIds, heldIds, hmonitor, IncomingTask.heldIds_eq_nil hfree]
      exact ⟨rfl, rfl⟩
    · have hfree := hexclusive.bootstraps_eq_false (by rw [hmonitor]; rfl)
      cases hfree.symm.trans hbootstraps
  | tookBootstrap client first weight sigops hincoming =>
    refine .took ⟨rfl, rfl, rfl, rfl, rfl⟩ rfl (fun hexclusive => ?_) (fun hexclusive _ => ?_)
      fun _ h => h
    · have hidle : p.monitor.idle = true := hexclusive (by rw [hincoming]; rfl)
      rw [heldIds, heldIds, hincoming, MonitorTask.heldIds_eq_nil hidle]
      exact ⟨rfl, rfl⟩
    · exact hexclusive (by rw [hincoming]; rfl)
  | held template client data hmonitor hfetched hprev =>
    rw [announcement?_held hfetched hprev]
    refine .held data ⟨rfl, rfl, rfl, rfl, rfl⟩ rfl ?_ (fun hexclusive hbootstraps => ?_) rfl hprev
    · rw [heldIds, heldIds, hmonitor]
      rfl
    · have hfree := hexclusive.bootstraps_eq_false (by rw [hmonitor]; rfl)
      cases hfree.symm.trans hbootstraps
  | publishedTip template client data newTemplate prevHash hmonitor hfetched hprev hne hmessage =>
    rw [announcement?_publishedTip hfetched hprev hne hmessage]
    refine .published ⟨data, true, newTemplate, hmessage⟩ ?_ nofun rfl rfl rfl rfl rfl
      (.inr ⟨⟨rfl, prevHash, hprev, hne⟩, rfl⟩)
      (exclusive_of_monitor (by rw [hmonitor]; rfl) rfl rfl) nofun
    rw [heldIds, hmonitor]
    exact List.mem_append_left _ (List.mem_singleton.2 rfl)
  | publishedHeld data newTemplate hmonitor hmessage =>
    rw [announcement?_publishedHeld hmonitor hmessage]
    refine .published ⟨data, false, newTemplate, hmessage⟩ ?_ (fun _ => hmonitor) rfl rfl rfl rfl
      rfl (.inl rfl) (exclusive_of_monitor (by rw [hmonitor]; rfl) rfl rfl) nofun
    rw [heldIds, hmonitor]
    exact List.mem_append_left _ (List.mem_singleton.2 rfl)
  | bootstrapped template client data newTemplate hincoming hfetched hmessage =>
    rw [announcement?_bootstrapped hfetched hmessage]
    refine .published ⟨data, true, newTemplate, hmessage⟩ ?_ nofun rfl rfl rfl rfl rfl (.inl rfl)
      (fun _ => ⟨nofun, rfl⟩) nofun
    rw [heldIds, hincoming]
    exact List.mem_append_right _ (List.mem_singleton.2 rfl)
  | removed k ids hk =>
    exact .removed k ids hk rfl rfl rfl (holdsNoMore_of_moves (.inl rfl) (.inl rfl)) rfl rfl rfl rfl
  | ignored solutionsDir message messages hincoming hmessages =>
    exact hsame ⟨rfl, rfl, rfl, rfl, rfl⟩ rfl (.inl rfl) (.inl rfl)
  | received solutionsDir message messages incoming monitorCancelled hmessages hrequest hincoming =>
    exact hsame ⟨rfl, rfl, rfl, rfl, rfl⟩ rfl (.inl rfl) (hincoming.imp_left And.left)
  | refused solutionsDir templateId messages errorCode hincoming hmessages hreason =>
    exact hsame ⟨announced_of_append rfl rfl, rfl, rfl, rfl, rfl⟩ rfl (.inl rfl) (.inl rfl)
  | started solutionsDir templateId messages data hincoming hmessages hdata =>
    exact .kept ⟨rfl, rfl, rfl, rfl, rfl⟩ rfl (holdsNoMore_of_request rfl rfl rfl)
  | answered data block hincoming =>
    exact .kept ⟨announced_of_append rfl rfl, rfl, rfl, rfl, rfl⟩ rfl
      (holdsNoMore_of_request rfl rfl rfl)
  | dumped solution messages task hincoming hmessages hdata hcoinbase hheader =>
    refine hsame ⟨rfl, rfl, rfl, rfl, rfl⟩ rfl (.inl rfl) (.inr ⟨rfl, nofun, fun _ => ?_, nofun⟩)
    rw [hincoming]
    exact ⟨nofun, rfl⟩
  | dropped k block written =>
    exact hsame ⟨rfl, rfl, rfl, rfl, rfl⟩ rfl (.inl rfl) (.inl rfl)
  | wrote k written task templateBlock solved htask hsolved =>
    exact hsame ⟨rfl, rfl, rfl, rfl, rfl⟩ rfl (.inl rfl) (.inl rfl)

/-! ## Agreement with the announcements -/

/-- What a state knows of templates agrees with the announcements. -/
structure Told (L : BitcoinLib) (p : BitcoinCoreSv2Tdp Client)
    (anns : List (Announcement L Client)) : Prop where
  sent : p.announced = anns.flatMap Announcement.messages
  grounded : Grounded anns
  currentPrevHash : p.currentPrevHash = lastTip anns
  exclusive : p.Exclusive
  holding : ∀ data, p.monitor = .holding data → p.currentPrevHash = some data.getPrevHash
  retained : ∀ id data, p.templateData.lookup id = some data →
    data.templateId = id ∧ ∃ ann ∈ anns, ann.data = data
  stale : ∀ id ∈ p.staleTemplateIds, Outdated anns id
  staleTasks : ∀ ids ∈ p.staleTasks, ∀ id ∈ ids, Outdated anns id

/-- The ids are taken in order, in at most `n` steps. -/
structure Numbered (n : ℕ) (p : BitcoinCoreSv2Tdp Client) (anns : List (Announcement L Client)) :
    Prop where
  factory : p.templateIdFactory.toNat ≤ n
  held : ∀ id ∈ p.heldIds, id < p.templateIdFactory ∧ ∀ ann ∈ anns, ann.data.templateId < id
  taken : ∀ ann ∈ anns, ann.data.templateId < p.templateIdFactory
  increasing : anns.Pairwise fun earlier later => earlier.data.templateId < later.data.templateId

theorem told_new : Told L (new : BitcoinCoreSv2Tdp Client) [] where
  sent := rfl
  grounded := by
    intro before ann after h
    simp at h
  currentPrevHash := rfl
  exclusive := fun _ => rfl
  holding := nofun
  retained := by
    intro id data h
    cases (AList.lookup_empty id).symm.trans h
  stale := nofun
  staleTasks := nofun

theorem numbered_new :
    Numbered 0 (new : BitcoinCoreSv2Tdp Client) ([] : List (Announcement L Client)) :=
  ⟨le_rfl, nofun, nofun, .nil⟩

/-! ## Steps that announce nothing -/

theorem Told.of_sameTemplates (h : Told L p anns) (hsame : SameTemplates p p')
    (hexclusive : p.Exclusive → p'.Exclusive)
    (hholding : ∀ data, p'.monitor = .holding data → p.currentPrevHash = some data.getPrevHash) :
    Told L p' anns where
  sent := hsame.announced.trans h.sent
  grounded := h.grounded
  currentPrevHash := hsame.currentPrevHash.trans h.currentPrevHash
  exclusive := hexclusive h.exclusive
  holding := fun data hdata => hsame.currentPrevHash.trans (hholding data hdata)
  retained := by
    rw [hsame.templateData]
    exact h.retained
  stale := by
    rw [hsame.staleTemplateIds]
    exact h.stale
  staleTasks := by
    rw [hsame.staleTasks]
    exact h.staleTasks

theorem Numbered.mono (h : Numbered n p anns)
    (hfactory : p'.templateIdFactory = p.templateIdFactory) (hids : p'.heldIds ⊆ p.heldIds) :
    Numbered (n + 1) p' anns where
  factory := by
    rw [hfactory]
    exact h.factory.trans n.le_succ
  held := fun id hid => hfactory ▸ h.held id (hids hid)
  taken := hfactory ▸ h.taken
  increasing := h.increasing

/-- The next id is taken. -/
theorem Numbered.took (h : Numbered n p anns) (hn : n + 1 < 2 ^ 64)
    (hfactory : p'.templateIdFactory = p.templateIdFactory + 1)
    (hids : p'.heldIds = [p.templateIdFactory]) : Numbered (n + 1) p' anns := by
  have hbound := h.factory
  have hnext : p'.templateIdFactory.toNat = p.templateIdFactory.toNat + 1 := by
    rw [hfactory, UInt64.toNat_add]
    refine Nat.mod_eq_of_lt ?_
    rw [UInt64.toNat_one]
    omega
  have hlt : ∀ id, id < p.templateIdFactory → id < p'.templateIdFactory := by
    intro id hid
    rw [UInt64.lt_iff_toNat_lt] at hid ⊢
    omega
  refine ⟨by omega, fun id hid => ?_, fun ann hann => hlt _ (h.taken ann hann), h.increasing⟩
  rw [hids] at hid
  rw [List.mem_singleton.1 hid]
  exact ⟨by rw [UInt64.lt_iff_toNat_lt]; omega, h.taken⟩

/-! ## Steps that announce a template -/

/-- What is retained after a template is published. -/
theorem Told.retained_published (h : Told L p anns) (ann : Announcement L Client)
    {stored : TemplateData Client} (hstored : (p.retainedWith ann.data).lookup id = some stored) :
    stored.templateId = id ∧ ∃ other ∈ anns ++ [ann], other.data = stored := by
  rw [lookup_retainedWith] at hstored
  split at hstored
  · cases hstored
  · split at hstored
    · rename_i hid
      cases hstored
      exact ⟨hid.symm, ann, by simp, rfl⟩
    · obtain ⟨hid, other, hother, hdata⟩ := h.retained id stored hstored
      exact ⟨hid, other, List.mem_append_left _ hother, hdata⟩

/-- What is known of before a tip is outdated after it. -/
theorem Told.outdated_of_mem_keys (h : Told L p anns) {later : Announcement L Client}
    (htip : later.tip = true) (hid : id ∈ p.templateData.keys) :
    Outdated (anns ++ [later]) id := by
  rw [← AList.mem_keys, ← AList.lookup_isSome] at hid
  obtain ⟨stored, hstored⟩ := Option.isSome_iff_exists.1 hid
  obtain ⟨rfl, ann, hann, rfl⟩ := h.retained id stored hstored
  exact outdated_of_mem hann htip

/-- **A step keeps the state in agreement with the announcements.** -/
theorem told_step (h : Told L p anns) (hstep : TemplateStep L p p' news) :
    Told L p' (anns ++ news) := by
  cases hstep with
  | kept hsame hfactory hheld =>
    rw [List.append_nil]
    exact h.of_sameTemplates hsame hheld.exclusive fun data hdata =>
      h.holding data (hheld.holding data hdata)
  | took hsame hfactory hheld hexclusive hholding =>
    rw [List.append_nil]
    exact h.of_sameTemplates hsame hexclusive fun data hdata => h.holding data (hholding data hdata)
  | held data hsame hfactory hids hexclusive hmonitor hprev =>
    rw [List.append_nil]
    refine h.of_sameTemplates hsame hexclusive fun other hother => ?_
    rw [hmonitor] at hother
    cases hother
    exact hprev
  | published ann hid htip houtgoing hfactory hprev hdata hstale htasks hexclusive hnotHolding =>
    refine ⟨?_, ?_, ?_, (hexclusive h.exclusive).1, ?_, fun id stored hstored => ?_, ?_, ?_⟩
    · rw [announced, houtgoing, List.filter_append, filter_messages, List.flatMap_append,
        List.flatMap_singleton, ← h.sent, announced]
    · refine h.grounded.append_singleton fun hfalse => ?_
      rw [← h.currentPrevHash]
      exact h.holding ann.data (htip hfalse)
    · rw [hprev, lastTip_append_singleton, h.currentPrevHash]
    · exact fun other hother => absurd hother (hnotHolding other)
    · rw [hdata] at hstored
      exact h.retained_published ann hstored
    · rw [hstale]
      exact fun id hid => (h.stale id hid).append
    · have hbefore : ∀ ids ∈ p.staleTasks, ∀ id ∈ ids, Outdated (anns ++ [ann]) id :=
        fun ids hids id hid => (h.staleTasks ids hids id hid).append
      rcases htasks with hsame | ⟨⟨htrue, -⟩, hnew⟩
      · rw [hsame]
        exact hbefore
      · rw [hnew]
        intro ids hids id hid
        rcases List.mem_append.1 hids with hids | hids
        · exact hbefore ids hids id hid
        · rw [List.mem_singleton.1 hids] at hid
          exact h.outdated_of_mem_keys htrue hid
  | removed k ids hids hannounced hprev hfactory hheld hheldIds hdata hstale htasks =>
    rw [List.append_nil]
    refine ⟨hannounced.trans h.sent, h.grounded, hprev.trans h.currentPrevHash,
      hheld.exclusive h.exclusive, fun data hholding => ?_, fun id stored hstored => ?_, ?_, ?_⟩
    · rw [hprev]
      exact h.holding data (hheld.holding data hholding)
    · rw [hdata, AssocMap.lookup_foldl_erase] at hstored
      split at hstored
      · cases hstored
      · exact h.retained id stored hstored
    · rw [hstale]
      exact h.staleTasks ids (List.mem_of_getElem? hids)
    · rw [htasks]
      exact fun other hother => h.staleTasks other (List.mem_of_mem_eraseIdx hother)

/-- **A step keeps the ids in order.** -/
theorem numbered_step (h : Told L p anns) (hn : Numbered n p anns) (hlt : n + 1 < 2 ^ 64)
    (hstep : TemplateStep L p p' news) : Numbered (n + 1) p' (anns ++ news) := by
  cases hstep with
  | kept hsame hfactory hheld =>
    rw [List.append_nil]
    exact hn.mono hfactory hheld.heldIds
  | took hsame hfactory hheld hexclusive hholding =>
    rw [List.append_nil]
    exact hn.took hlt hfactory (hheld h.exclusive).2
  | held data hsame hfactory hids hexclusive hmonitor hprev =>
    rw [List.append_nil]
    exact hn.mono hfactory (by rw [hids]; exact fun _ h => h)
  | published ann hid htip houtgoing hfactory hprev hdata hstale htasks hexclusive hnotHolding =>
    have hnone := (hexclusive h.exclusive).2
    have hfresh := hn.held ann.data.templateId hid
    refine ⟨hfactory ▸ hn.factory.trans n.le_succ, ?_, fun other hother => ?_, ?_⟩
    · rw [hnone]
      nofun
    · rw [hfactory]
      rcases List.mem_append.1 hother with hother | hother
      · exact hn.taken other hother
      · rw [List.mem_singleton.1 hother]
        exact hfresh.1
    · refine List.pairwise_append.2 ⟨hn.increasing, List.pairwise_singleton _ _, ?_⟩
      intro earlier hearlier later hlater
      rw [List.mem_singleton.1 hlater]
      exact hfresh.2 earlier hearlier
  | removed k ids hids hannounced hprev hfactory hheld hheldIds hdata hstale htasks =>
    rw [List.append_nil]
    exact hn.mono hfactory hheld.heldIds

/-! ## Where the templates come from -/

/-- The announced templates are among those that the node gave, in their order, and what the
monitor holds was given last. -/
def Sourced (p : BitcoinCoreSv2Tdp Client) (anns : List (Announcement L Client))
    (fetched : List (TemplateData Client)) : Prop :=
  ∃ earlier, (anns.map (·.data)).Sublist earlier ∧ fetched = earlier ++ p.monitor.held

/-- While the monitor holds a template, no other is fetched. -/
theorem held_eq_nil_of_fetched? (h : p.Exclusive) {data : TemplateData Client}
    (hfetched : p.fetched? L a = some data) : p.monitor.held = [] := by
  unfold fetched? at hfetched
  split at hfetched
  · split at hfetched
    · rename_i hmonitor
      rw [hmonitor]
      rfl
    · cases hfetched
  · split at hfetched
    · rename_i hincoming
      exact MonitorTask.held_eq_nil (h (by rw [hincoming]; rfl))
    · cases hfetched
  · cases hfetched

/-- A step that announces nothing: the monitor still holds what it held, or nothing. -/
theorem Sourced.of_held {fetched : List (TemplateData Client)} (h : Sourced p anns fetched)
    (hexclusive : p.Exclusive) (hnews : p.announcement? L a = none)
    (hheld : p'.monitor.held = p.monitor.held ∨ p'.monitor.held = []) :
    Sourced p' (anns ++ (p.announcement? L a).toList) (fetched ++ (p.fetched? L a).toList) := by
  obtain ⟨earlier, hsub, rfl⟩ := h
  rw [hnews, Option.toList_none, List.append_nil]
  have hdropped : p'.monitor.held = [] →
      Sourced p' anns (earlier ++ p.monitor.held ++ (p.fetched? L a).toList) := by
    intro hnone
    refine ⟨_, ?_, by rw [hnone, List.append_nil]⟩
    rw [List.append_assoc]
    exact hsub.trans (List.sublist_append_left _ _)
  rcases hheld with hsame | hnone
  · cases hfetched : p.fetched? L a with
    | none => exact ⟨earlier, hsub, by rw [hsame, Option.toList_none, List.append_nil]⟩
    | some data =>
      rw [← hfetched]
      exact hdropped (hsame.trans (held_eq_nil_of_fetched? hexclusive hfetched))
  · exact hdropped hnone

/-- A step that announces what is fetched now. -/
theorem Sourced.announced {fetched : List (TemplateData Client)} {ann : Announcement L Client}
    (h : Sourced p anns fetched) (hnews : p.announcement? L a = some ann)
    (hfetched : p.fetched? L a = some ann.data) (hheld : p'.monitor.held = []) :
    Sourced p' (anns ++ (p.announcement? L a).toList) (fetched ++ (p.fetched? L a).toList) := by
  obtain ⟨earlier, hsub, rfl⟩ := h
  rw [hnews, hfetched, Option.toList_some, Option.toList_some]
  refine ⟨_, ?_, by rw [hheld, List.append_nil]⟩
  rw [List.map_append]
  exact (hsub.trans (List.sublist_append_left _ _)).append (List.Sublist.refl _)

/-- **A step announces only what was fetched.** -/
theorem sourced_step {fetched : List (TemplateData Client)} (h : Sourced p anns fetched)
    (hexclusive : p.Exclusive) (hstep : TdpStep L p a p') :
    Sourced p' (anns ++ (p.announcement? L a).toList) (fetched ++ (p.fetched? L a).toList) := by
  cases hstep with
  | moved _ monitor incoming monitorCancelled cancelled ha hnews hmonitor hincoming =>
    refine h.of_held hexclusive hnews (hmonitor.imp (fun hsame => ?_) fun hmoves => ?_)
    · exact congrArg MonitorTask.held hsame
    · exact MonitorTask.held_eq_nil_of_heldIds hmoves.heldIds
  | tookNext client waiting hmonitor => exact h.of_held hexclusive rfl (.inr rfl)
  | held template client data hmonitor hfetched hprev =>
    obtain ⟨earlier, hsub, rfl⟩ := h
    rw [announcement?_held hfetched hprev, hfetched, hmonitor]
    refine ⟨earlier, ?_, ?_⟩
    · rw [Option.toList_none, List.append_nil]
      exact hsub
    · exact congrArg (· ++ [data]) (List.append_nil earlier)
  | publishedTip template client data newTemplate prevHash hmonitor hfetched hprev hne hmessage =>
    exact h.announced (announcement?_publishedTip hfetched hprev hne hmessage) hfetched rfl
  | publishedHeld data newTemplate hmonitor hmessage =>
    obtain ⟨earlier, hsub, rfl⟩ := h
    rw [announcement?_publishedHeld hmonitor hmessage, hmonitor]
    refine ⟨earlier ++ [data], ?_, (List.append_nil _).trans (List.append_nil _).symm⟩
    rw [Option.toList_some, List.map_append]
    exact hsub.append (List.Sublist.refl _)
  | bootstrapped template client data newTemplate hincoming hfetched hmessage =>
    exact h.announced (announcement?_bootstrapped hfetched hmessage) hfetched rfl
  | _ => exact h.of_held hexclusive rfl (.inl rfl)

end BitcoinCoreSv2Tdp

end Tdp

end CanaryMining
