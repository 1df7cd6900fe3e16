import CanaryMining.TemplateDistribution.Available

/-!
# Requests for transactions

The pool asks for the transactions of a template.  Each request that the provider takes up is
answered once, in the order of the requests, whatever is announced in between; and an answer
agrees with what was announced before it.

## Main definitions

* `answered`, `reading`, `queuedRequests` — the requests of a state.
* `RequestStep` — what a step does to them.
* `Justified`, `Explained` — an answer, and all answers, agree with the announcements before.

**Main results:** `requests_answered_in_order`, `responses_justified_of_run`.
-/

namespace CanaryMining

namespace Tdp

open Announcement

variable {Client : Type}

/-- The id that a response is about. -/
def ProviderMessage.response? : ProviderMessage → Option UInt64
  | .requestTransactionDataSuccess templateId _ => some templateId
  | .requestTransactionDataError templateId _ => some templateId
  | _ => none

namespace BitcoinCoreSv2Tdp

variable {L : BitcoinLib} {p p' : BitcoinCoreSv2Tdp Client} {a : TdpAction Client}
  {ts : List (Transition (BitcoinCoreSv2Tdp Client) (TdpAction Client))}

/-- The requests that were answered, in order. -/
def answered (p : BitcoinCoreSv2Tdp Client) : List UInt64 :=
  p.outgoingMessages.filterMap ProviderMessage.response?

/-- The requests that are not taken up yet. -/
def queuedRequests (p : BitcoinCoreSv2Tdp Client) : List UInt64 :=
  p.incomingMessages.filterMap PoolMessage.request?

/-- The requests sent. -/
def sentRequest? (t : Transition (BitcoinCoreSv2Tdp Client) (TdpAction Client)) :
    Option UInt64 :=
  match t.action with
  | .send message => message.request?
  | _ => none

/-- The requests that arrive before the first constraints, and are ignored. -/
def ignoredRequest? (t : Transition (BitcoinCoreSv2Tdp Client) (TdpAction Client)) :
    Option UInt64 :=
  match t.action, t.before.incoming, t.before.incomingMessages with
  | .receive _, .waitingFirst, message :: _ => message.request?
  | _, _, _ => none

/-- What a step does to the requests. -/
inductive RequestStep (L : BitcoinLib) (p : BitcoinCoreSv2Tdp Client) (a : TdpAction Client)
    (p' : BitcoinCoreSv2Tdp Client) : Option UInt64 → Option UInt64 → Prop
  | kept (sent : Option UInt64) (news : List ProviderMessage)
      (hqueue : p'.queuedRequests = p.queuedRequests ++ sent.toList)
      (houtgoing : p'.outgoingMessages = p.outgoingMessages ++ news)
      (hnews : ∀ message ∈ news, message.isAnnouncement = true)
      (hreading : p'.incoming ≠ .exited →
        p.incoming ≠ .exited ∧ p'.incoming.reading = p.incoming.reading)
      (hwaiting : p'.incoming = .waitingFirst →
        p.incoming = .waitingFirst ∧ (p.monitor.idle = true → news = [])) :
      RequestStep L p a p' sent none
  | ignored (id : UInt64) (hwaiting : p.incoming = .waitingFirst)
      (hqueue : p.queuedRequests = id :: p'.queuedRequests)
      (houtgoing : p'.outgoingMessages = p.outgoingMessages)
      (hincoming : p'.incoming = p.incoming) : RequestStep L p a p' none (some id)
  | refused (id : UInt64) (errorCode : Text) (hreceiving : p.incoming = .receiving)
      (hqueue : p.queuedRequests = id :: p'.queuedRequests)
      (houtgoing : p'.outgoingMessages =
        p.outgoingMessages ++ [.requestTransactionDataError id errorCode])
      (hincoming : p'.incoming = .receiving)
      (hreason : errorCode = staleTemplateId ∧ id ∈ p.staleTemplateIds ∨
        errorCode = templateIdNotFound ∧ p.templateData.lookup id = none) :
      RequestStep L p a p' none none
  | started (id : UInt64) (data : TemplateData Client) (hreceiving : p.incoming = .receiving)
      (hqueue : p.queuedRequests = id :: p'.queuedRequests)
      (houtgoing : p'.outgoingMessages = p.outgoingMessages)
      (hincoming : p'.incoming = .readingBlock data)
      (hdata : p.templateData.lookup id = some data) : RequestStep L p a p' none none
  | answered (data : TemplateData Client) (block : Block Transaction)
      (hreading : p.incoming = .readingBlock data) (haction : a = .blockAnswered (some block))
      (hqueue : p'.queuedRequests = p.queuedRequests)
      (houtgoing : p'.outgoingMessages = p.outgoingMessages ++
        [.requestTransactionDataSuccess data.templateId (block.txdata.tail.map L.serialize)])
      (hincoming : p'.incoming = .receiving) : RequestStep L p a p' none none

/-- A step that announces nothing and leaves the requests as they are. -/
theorem requestStep_of_moves (hmessages : p'.queuedRequests = p.queuedRequests)
    (houtgoing : p'.outgoingMessages = p.outgoingMessages)
    (hincoming : p'.incoming = p.incoming ∨ p.incoming.Moves p'.monitor p'.incoming) :
    RequestStep L p a p' none none := by
  refine .kept none [] ?_ ?_ nofun (fun h => ?_) fun h => ⟨?_, fun _ => rfl⟩
  · rw [hmessages, Option.toList_none, List.append_nil]
  · rw [houtgoing, List.append_nil]
  · rcases hincoming with hsame | hmoves
    · rw [hsame] at h ⊢
      exact ⟨h, rfl⟩
    · exact hmoves.reading h
  · rcases hincoming with hsame | hmoves
    · rw [← hsame, h]
    · exact absurd h hmoves.waiting

theorem isAnnouncement_of_mem {ann : Announcement L Client} {message : ProviderMessage}
    (h : message ∈ ann.messages) : message.isAnnouncement = true := by
  rw [← filter_messages] at h
  exact (List.mem_filter.1 h).2

/-- A template is announced. -/
theorem requestStep_published (ann : Announcement L Client)
    (hmessages : p'.incomingMessages = p.incomingMessages)
    (houtgoing : p'.outgoingMessages = p.outgoingMessages ++ ann.messages)
    (hincoming : p'.incoming = p.incoming ∧ p.monitor.idle = false ∨
      p.incoming.Moves p'.monitor p'.incoming) : RequestStep L p a p' none none := by
  refine .kept none _ ?_ houtgoing (fun _ => isAnnouncement_of_mem) (fun h => ?_) fun h => ?_
  · rw [queuedRequests, queuedRequests, hmessages, Option.toList_none, List.append_nil]
  · rcases hincoming with ⟨hsame, -⟩ | hmoves
    · rw [hsame] at h ⊢
      exact ⟨h, rfl⟩
    · exact hmoves.reading h
  · rcases hincoming with ⟨hsame, hmonitor⟩ | hmoves
    · refine ⟨by rw [← hsame, h], fun hidle => ?_⟩
      cases hmonitor.symm.trans hidle
    · exact absurd h hmoves.waiting

/-- The next message, which is no request. -/
theorem queuedRequests_of_received {message : PoolMessage} {messages : List PoolMessage}
    (hmessages : p.incomingMessages = message :: messages) :
    p.queuedRequests = message.request?.toList ++ messages.filterMap PoolMessage.request? := by
  rw [queuedRequests, hmessages, List.filterMap_cons]
  cases message.request? <;> rfl

theorem sentRequest_eq_none (ha : a.isMessage = false) : sentRequest? ⟨p, a, p'⟩ = none := by
  cases a with
  | send _ => cases ha
  | _ => rfl

theorem ignoredRequest_eq_none (ha : a.isMessage = false) :
    ignoredRequest? ⟨p, a, p'⟩ = none := by
  cases a with
  | receive _ => cases ha
  | _ => rfl

theorem ignoredRequest_of_receiving {solutionsDir : Bool} (h : p.incoming = .receiving) :
    ignoredRequest? ⟨p, .receive solutionsDir, p'⟩ = none := by
  simp only [ignoredRequest?, h]

/-- **What a step does to the requests.** -/
theorem requestStep_of_tdpStep (h : TdpStep L p a p') :
    RequestStep L p a p' (sentRequest? ⟨p, a, p'⟩) (ignoredRequest? ⟨p, a, p'⟩) := by
  cases h with
  | sent message =>
    refine .kept message.request? [] ?_ (List.append_nil _).symm nofun (fun h => ⟨h, rfl⟩)
      fun h => ⟨h, fun _ => rfl⟩
    rw [queuedRequests, queuedRequests, List.filterMap_append, List.filterMap_cons]
    cases message.request? <;> rfl
  | moved _ monitor incoming monitorCancelled cancelled ha hnews hmonitor hincoming =>
    rw [sentRequest_eq_none ha, ignoredRequest_eq_none ha]
    exact requestStep_of_moves rfl rfl hincoming
  | tookNext client waiting hmonitor => exact requestStep_of_moves rfl rfl (.inl rfl)
  | tookBootstrap client first weight sigops hincoming =>
    refine .kept none [] (List.append_nil _).symm (List.append_nil _).symm nofun (fun _ => ?_) nofun
    rw [hincoming]
    exact ⟨nofun, rfl⟩
  | held template client data hmonitor hfetched hprev =>
    exact requestStep_of_moves rfl rfl (.inl rfl)
  | publishedTip template client data newTemplate prevHash hmonitor hfetched hprev hne hmessage =>
    exact requestStep_published ⟨data, true, newTemplate, hmessage⟩ rfl rfl
      (.inl ⟨rfl, by rw [hmonitor]; rfl⟩)
  | publishedHeld data newTemplate hmonitor hmessage =>
    exact requestStep_published ⟨data, false, newTemplate, hmessage⟩ rfl rfl
      (.inl ⟨rfl, by rw [hmonitor]; rfl⟩)
  | bootstrapped template client data newTemplate hincoming hfetched hmessage =>
    refine requestStep_published ⟨data, true, newTemplate, hmessage⟩ rfl rfl
      (.inr ⟨rfl, nofun, fun _ => ?_, nofun⟩)
    rw [hincoming]
    exact ⟨nofun, rfl⟩
  | removed k ids hk => exact requestStep_of_moves rfl rfl (.inl rfl)
  | ignored solutionsDir message messages hincoming hmessages =>
    have hqueue := queuedRequests_of_received hmessages
    have hignored : ignoredRequest? ⟨p, .receive solutionsDir,
        { p with incomingMessages := messages }⟩ = message.request? := by
      simp only [ignoredRequest?, hincoming, hmessages]
    rw [hignored]
    cases hrequest : message.request? with
    | none =>
      rw [hrequest] at hqueue
      exact requestStep_of_moves hqueue.symm rfl (.inl rfl)
    | some id =>
      rw [hrequest] at hqueue
      exact .ignored id hincoming hqueue rfl rfl
  | received solutionsDir message messages incoming monitorCancelled hmessages hrequest hincoming =>
    have hqueue := queuedRequests_of_received hmessages
    rw [hrequest] at hqueue
    have hignored : ignoredRequest? ⟨p, .receive solutionsDir, { p with
        incomingMessages := messages
        incoming := incoming
        monitorCancelled := monitorCancelled }⟩ = none := by
      simp only [ignoredRequest?, hmessages]
      split
      · rename_i message' messages' hcons
        cases hcons
        exact hrequest
      · rfl
    rw [hignored]
    exact requestStep_of_moves hqueue.symm rfl (hincoming.imp_left And.left)
  | refused solutionsDir templateId messages errorCode hincoming hmessages hreason =>
    rw [ignoredRequest_of_receiving hincoming]
    exact .refused templateId errorCode hincoming (queuedRequests_of_received hmessages) rfl
      hincoming hreason
  | started solutionsDir templateId messages data hincoming hmessages hdata =>
    rw [ignoredRequest_of_receiving hincoming]
    exact .started templateId data hincoming (queuedRequests_of_received hmessages) rfl rfl hdata
  | answered data block hincoming => exact .answered data block hincoming rfl rfl rfl rfl
  | dumped solution messages task hincoming hmessages hdata hcoinbase hheader =>
    rw [ignoredRequest_of_receiving hincoming]
    refine requestStep_of_moves (queuedRequests_of_received hmessages).symm rfl
      (.inr ⟨rfl, nofun, fun _ => ?_, nofun⟩)
    rw [hincoming]
    exact ⟨nofun, rfl⟩
  | dropped k block written => exact requestStep_of_moves rfl rfl (.inl rfl)
  | wrote k written task templateBlock solved htask hsolved =>
    exact requestStep_of_moves rfl rfl (.inl rfl)

/-! ## The order of the responses -/

/-- The requests sent are those ignored, those answered, at most one that is being answered or
was not when the handler exited, and those not taken up yet. -/
structure Ordered (sent ignored : List UInt64) (p : BitcoinCoreSv2Tdp Client)
    (current : List UInt64) : Prop where
  requests : sent = ignored ++ p.answered ++ current ++ p.queuedRequests
  current_eq : p.incoming ≠ .exited → current = p.incoming.reading.map (·.templateId)
  length_le : current.length ≤ 1
  waiting : p.incoming = .waitingFirst → p.outgoingMessages = []

theorem filterMap_response_eq_nil {news : List ProviderMessage}
    (h : ∀ message ∈ news, message.isAnnouncement = true) :
    news.filterMap ProviderMessage.response? = [] := by
  refine List.filterMap_eq_nil_iff.2 fun message hmessage => ?_
  have hann := h message hmessage
  cases message with
  | newTemplate _ | setNewPrevHash _ => rfl
  | requestTransactionDataSuccess _ _ | requestTransactionDataError _ _ => cases hann

theorem answered_append {news : List ProviderMessage}
    (h : p'.outgoingMessages = p.outgoingMessages ++ news) :
    p'.answered = p.answered ++ news.filterMap ProviderMessage.response? := by
  rw [answered, h, List.filterMap_append, answered]

theorem answered_congr (h : p'.outgoingMessages = p.outgoingMessages) :
    p'.answered = p.answered := by
  rw [answered, h, answered]

/-- **A step keeps the requests in order.** -/
theorem ordered_step {sent ignored current : List UInt64} {s i : Option UInt64}
    (h : Ordered sent ignored p current) (hexclusive : p.Exclusive) (hown : Own p.templateData)
    (hstep : RequestStep L p a p' s i) :
    ∃ current', Ordered (sent ++ s.toList) (ignored ++ i.toList) p' current' := by
  have hnone : p.incoming = .receiving → current = [] := by
    intro hreceiving
    rw [h.current_eq (by rw [hreceiving]; nofun), hreceiving]
    rfl
  cases hstep with
  | kept _ news hqueue houtgoing hnews hreading hwaiting =>
    refine ⟨current, ?_, fun hexited => ?_, h.length_le, fun hfirst => ?_⟩
    · rw [answered_append houtgoing, filterMap_response_eq_nil hnews, hqueue, h.requests]
      simp
    · obtain ⟨hbefore, hsame⟩ := hreading hexited
      rw [hsame]
      exact h.current_eq hbefore
    · obtain ⟨hbefore, hnone⟩ := hwaiting hfirst
      have hidle : p.monitor.idle = true := hexclusive (by rw [hbefore]; rfl)
      rw [houtgoing, h.waiting hbefore, hnone hidle]
      rfl
  | ignored id hwaiting hqueue houtgoing hincoming =>
    have hanswered : p.answered = [] := by
      rw [answered, h.waiting hwaiting]
      rfl
    have hcurrent : current = [] := by
      rw [h.current_eq (by rw [hwaiting]; nofun), hwaiting]
      rfl
    refine ⟨[], ?_, fun _ => ?_, Nat.zero_le _, fun _ => ?_⟩
    · rw [h.requests, hqueue, hanswered, hcurrent, answered_congr houtgoing, hanswered]
      simp
    · rw [hincoming, hwaiting]
      rfl
    · rw [houtgoing, h.waiting hwaiting]
  | refused id errorCode hreceiving hqueue houtgoing hincoming hreason =>
    refine ⟨[], ?_, fun _ => ?_, Nat.zero_le _, fun hfirst => ?_⟩
    · rw [h.requests, hqueue, hnone hreceiving, answered_append houtgoing]
      simp [ProviderMessage.response?]
    · rw [hincoming]
      rfl
    · rw [hincoming] at hfirst
      cases hfirst
  | started id data hreceiving hqueue houtgoing hincoming hdata =>
    refine ⟨[id], ?_, fun _ => ?_, le_rfl, fun hfirst => ?_⟩
    · rw [h.requests, hqueue, hnone hreceiving, answered_congr houtgoing]
      simp
    · rw [hincoming, ← hown id data hdata]
      rfl
    · rw [hincoming] at hfirst
      cases hfirst
  | answered data block hreading haction hqueue houtgoing hincoming =>
    have hcurrent : current = [data.templateId] := by
      rw [h.current_eq (by rw [hreading]; nofun), hreading]
      rfl
    refine ⟨[], ?_, fun _ => ?_, Nat.zero_le _, fun hfirst => ?_⟩
    · rw [h.requests, hqueue, hcurrent, answered_append houtgoing]
      simp [ProviderMessage.response?]
    · rw [hincoming]
      rfl
    · rw [hincoming] at hfirst
      cases hfirst

theorem ordered_of_run (h : Run (fun p => p = new) (Computes (next L)) ts p) :
    ∃ current, Ordered (ts.filterMap sentRequest?) (ts.filterMap ignoredRequest?) p current := by
  induction h with
  | start hp =>
    rw [hp]
    exact ⟨[], rfl, fun _ => rfl, Nat.zero_le _, fun _ => rfl⟩
  | next hrun hs ih =>
    obtain ⟨current, hordered⟩ := ih
    have htold := told_of_run hrun
    rw [filterMap_append_singleton, filterMap_append_singleton]
    exact ordered_step hordered htold.exclusive
      (fun id data hdata => (htold.retained id data hdata).1)
      (requestStep_of_tdpStep (tdpStep_of_next hs))

/-- **Responses in order.**  The requests sent are those that were ignored because the first
constraints had not arrived, those that were answered, in this order, at most one that is not
answered yet or never will be, and those not taken up yet; where the handler waits for a
message, every request taken up is answered. -/
theorem requests_answered_in_order (h : Run (fun p => p = new) (Computes (next L)) ts p) :
    ∃ current, ts.filterMap sentRequest? =
        ts.filterMap ignoredRequest? ++ p.answered ++ current ++ p.queuedRequests ∧
      current.length ≤ 1 ∧ (p.incoming = .receiving → current = []) := by
  obtain ⟨current, hordered⟩ := ordered_of_run h
  refine ⟨current, hordered.requests, hordered.length_le, fun hreceiving => ?_⟩
  rw [hordered.current_eq (by rw [hreceiving]; nofun), hreceiving]
  rfl

/-- A request is ignored before the constraints arrive; of two others, one is answered and one
refused, since the template is stale. -/
theorem requests_answered_in_order_table : tableProvider.answered = [0, 0] ∧
    tableTrace.filterMap ignoredRequest? = [3] ∧ ∃ current,
      tableTrace.filterMap sentRequest? = tableTrace.filterMap ignoredRequest? ++
          tableProvider.answered ++ current ++ tableProvider.queuedRequests ∧
        current.length ≤ 1 ∧ (tableProvider.incoming = .receiving → current = []) :=
  ⟨by decide +kernel, by decide +kernel, requests_answered_in_order tableRun⟩

/-! ## What the responses say -/

/-- A response agrees with the announcements: the transactions are those of the template, to
which the announced merkle path leads; a stale template was followed by a tip; and a template
that is not found was not announced, or is outdated or superseded. -/
def Justified (anns : List (Announcement L Client)) : ProviderMessage → Prop
  | .requestTransactionDataSuccess templateId transactionList =>
    ∃ ann ∈ anns, ann.data.templateId = templateId ∧ ∃ block, DescribedBy L ann.data block ∧
      transactionList = block.txdata.tail.map L.serialize
  | .requestTransactionDataError templateId errorCode =>
    errorCode = staleTemplateId ∧ Outdated anns templateId ∨
      errorCode = templateIdNotFound ∧ ∀ ann ∈ anns, ann.data.templateId = templateId →
        Outdated anns templateId ∨ Superseded anns ann
  | _ => True

/-- A response agrees with those of the announcements that the messages before it make. -/
def JustifiedAfter (anns : List (Announcement L Client)) (before : List ProviderMessage)
    (response : ProviderMessage) : Prop :=
  ∃ earlier, earlier <+: anns ∧
    before.filter ProviderMessage.isAnnouncement = earlier.flatMap Announcement.messages ∧
      Justified earlier response

/-- The responses among the messages agree with the announcements before them. -/
def Explained (anns : List (Announcement L Client)) (messages : List ProviderMessage) : Prop :=
  ∀ before message after, messages = before ++ message :: after →
    message.isAnnouncement = false → JustifiedAfter anns before message

variable {anns news : List (Announcement L Client)} {messages : List ProviderMessage}

theorem Explained.mono (h : Explained anns messages) : Explained (anns ++ news) messages := by
  intro before message after heq hmessage
  obtain ⟨earlier, hprefix, hjustified⟩ := h before message after heq hmessage
  exact ⟨earlier, hprefix.trans (List.prefix_append _ _), hjustified⟩

theorem Explained.append_singleton {last : ProviderMessage} (h : Explained anns messages)
    (hlast : last.isAnnouncement = false → JustifiedAfter anns messages last) :
    Explained anns (messages ++ [last]) := by
  intro before message after heq hmessage
  induction after using List.reverseRecOn with
  | nil =>
    obtain ⟨rfl, hsame⟩ := List.append_inj' heq rfl
    rw [← List.singleton_inj.1 hsame] at hmessage ⊢
    exact hlast hmessage
  | append_singleton after last' _ =>
    rw [← List.cons_append, ← List.append_assoc] at heq
    exact h before message after (List.append_inj' heq rfl).1 hmessage

theorem Explained.append {more : List ProviderMessage} (h : Explained anns messages)
    (hmore : ∀ message ∈ more, message.isAnnouncement = true) :
    Explained anns (messages ++ more) := by
  induction more using List.reverseRecOn with
  | nil =>
    rw [List.append_nil]
    exact h
  | append_singleton more last ih =>
    rw [← List.append_assoc]
    refine (ih fun message hmessage => ?_).append_singleton fun hlast => ?_
    · exact hmore message (List.mem_append_left _ hmessage)
    · rw [hmore last (by simp)] at hlast
      cases hlast

end BitcoinCoreSv2Tdp

end Tdp

end CanaryMining
