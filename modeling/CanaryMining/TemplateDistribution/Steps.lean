import CanaryMining.TemplateDistribution.Provider

/-!
# What a step of the template provider can do

The invariants of the following modules look at different parts of the state: at templates, at
requests and at solutions.  What each step does is said here once: most steps only move one of
the two lasting tasks, and few publish, forget or answer anything.

## Main definitions

* `Announcement` — a template with the message that announces it.
* `announcement?`, `fetched?` — what a step announces, and what it fetches, read off the state
  before it; `announcements` are those of a run.
* `MonitorTask.Moves`, `IncomingTask.Moves` — moves of a task that holds no template.
* `retainedWith` — the templates that are known after a publish.
* `TdpStep` — what a step can do.

**Main result:** `tdpStep_of_next`.
-/

namespace CanaryMining

namespace Tdp

variable {Client : Type}

/-! ## Moves of the tasks -/

/-- The monitor does not run. -/
def MonitorTask.idle : MonitorTask Client → Bool
  | .notSpawned | .exited => true
  | _ => false

/-- The id of the template the monitor fetches or holds. -/
def MonitorTask.heldIds : MonitorTask Client → List UInt64
  | .fetching _ templateId => [templateId]
  | .holding data => [data.templateId]
  | _ => []

/-- The template the monitor holds. -/
def MonitorTask.held : MonitorTask Client → List (TemplateData Client)
  | .holding data => [data]
  | _ => []

/-- The first constraints are waited for, or a template is bootstrapped. -/
def IncomingTask.bootstraps : IncomingTask Client → Bool
  | .waitingFirst | .creatingBlock _ _ _ | .fetching _ _ => true
  | _ => false

/-- The id of the template that is bootstrapped. -/
def IncomingTask.heldIds : IncomingTask Client → List UInt64
  | .fetching _ templateId => [templateId]
  | _ => []

/-- The template whose block is read for a request. -/
def IncomingTask.reading : IncomingTask Client → List (TemplateData Client)
  | .readingBlock data => [data]
  | _ => []

theorem MonitorTask.held_eq_nil_of_heldIds {task : MonitorTask Client} (h : task.heldIds = []) :
    task.held = [] := by
  cases task with
  | holding _ => cases h
  | _ => rfl

theorem MonitorTask.heldIds_eq_nil {task : MonitorTask Client} (h : task.idle = true) :
    task.heldIds = [] := by
  cases task with
  | fetching _ _ | holding _ => cases h
  | _ => rfl

theorem MonitorTask.held_eq_nil {task : MonitorTask Client} (h : task.idle = true) :
    task.held = [] :=
  MonitorTask.held_eq_nil_of_heldIds (MonitorTask.heldIds_eq_nil h)

theorem IncomingTask.heldIds_eq_nil {task : IncomingTask Client} (h : task.bootstraps = false) :
    task.heldIds = [] := by
  cases task with
  | fetching _ _ => cases h
  | _ => rfl

/-- The monitor holds nothing, and is not spawned. -/
structure MonitorTask.Moves (task task' : MonitorTask Client) : Prop where
  heldIds : task'.heldIds = []
  idle : task.idle = true → task'.idle = true

/-- The handler holds nothing, answers nothing and bootstraps only while no monitor runs. -/
structure IncomingTask.Moves (monitor : MonitorTask Client) (task task' : IncomingTask Client) :
    Prop where
  heldIds : task'.heldIds = []
  bootstraps : task'.bootstraps = true → task.bootstraps = true ∨ monitor.idle = true
  reading : task' ≠ .exited → task ≠ .exited ∧ task'.reading = task.reading
  waiting : task' ≠ .waitingFirst

/-- The handler exits. -/
theorem IncomingTask.moves_exited {monitor : MonitorTask Client} {task : IncomingTask Client} :
    IncomingTask.Moves monitor task .exited :=
  ⟨rfl, nofun, fun h => absurd rfl h, nofun⟩

/-- The announcements among the messages. -/
def ProviderMessage.isAnnouncement : ProviderMessage → Bool
  | .newTemplate _ | .setNewPrevHash _ => true
  | _ => false

/-- The id of a request. -/
def PoolMessage.request? : PoolMessage → Option UInt64
  | .requestTransactionData templateId => some templateId
  | _ => none

/-- A message of the pool is sent or received. -/
def TdpAction.isMessage : TdpAction Client → Bool
  | .send _ | .receive _ => true
  | _ => false

/-- What is read off a run that goes on by a step. -/
theorem filterMap_append_singleton {α β : Type} (f : α → Option β) (xs : List α) (x : α) :
    (xs ++ [x]).filterMap f = xs.filterMap f ++ (f x).toList := by
  rw [List.filterMap_append, List.filterMap_cons]
  cases f x <;> rfl

/-! ## Announcements -/

/-- A published template, whether it is announced as a tip, and the message that announces it. -/
structure Announcement (L : BitcoinLib) (Client : Type) where
  data : TemplateData Client
  tip : Bool
  newTemplate : NewTemplate
  hmessage : data.getNewTemplateMessage L tip = .ok newTemplate

namespace Announcement

variable {L : BitcoinLib} {data : TemplateData Client} {tip : Bool}

/-- The announcement of a template, where there is a message for it. -/
def of? (L : BitcoinLib) (data : TemplateData Client) (tip : Bool) :
    Option (Announcement L Client) :=
  match hmessage : data.getNewTemplateMessage L tip with
  | .ok newTemplate => some ⟨data, tip, newTemplate, hmessage⟩
  | .error _ => none

/-- The messages of an announcement. -/
def messages (ann : Announcement L Client) : List ProviderMessage :=
  BitcoinCoreSv2Tdp.announcement L ann.data ann.tip ann.newTemplate

theorem of?_eq_some {newTemplate : NewTemplate}
    (h : data.getNewTemplateMessage L tip = .ok newTemplate) :
    of? L data tip = some ⟨data, tip, newTemplate, h⟩ := by
  unfold of?
  split
  · rename_i other hother
    obtain rfl : other = newTemplate := Except.ok.inj (hother.symm.trans h)
    rfl
  · rename_i hother
    cases hother.symm.trans h

theorem of?_eq_none {e : TdpError} (h : data.getNewTemplateMessage L tip = .error e) :
    of? L data tip = none := by
  unfold of?
  split
  · rename_i hother
    cases hother.symm.trans h
  · rfl

end Announcement

namespace BitcoinCoreSv2Tdp

section Read

variable (L : BitcoinLib) (p : BitcoinCoreSv2Tdp Client)

/-- The template in an answer of the node to a task that waits for one. -/
def fetched? : TdpAction Client → Option (TemplateData Client)
  | .monitorFetched template =>
    match p.monitor with
    | .fetching client templateId => (fetchTemplateData L client templateId template).toOption
    | _ => none
  | .bootstrapFetched template =>
    match p.incoming with
    | .fetching client templateId => (fetchTemplateData L client templateId template).toOption
    | _ => none
  | _ => none

/-- What a step announces: a template that the monitor has fetched on another tip than the
current one, the template that it has held, or the template of a bootstrap. -/
def announcement? (a : TdpAction Client) : Option (Announcement L Client) :=
  match a with
  | .monitorFetched _ =>
    match p.fetched? L a, p.currentPrevHash with
    | some data, some currentPrevHash =>
      if data.getPrevHash ≠ currentPrevHash then Announcement.of? L data true else none
    | _, _ => none
  | .minIntervalPassed =>
    match p.monitor with
    | .holding data => Announcement.of? L data false
    | _ => none
  | .bootstrapFetched _ => (p.fetched? L a).bind fun data => Announcement.of? L data true
  | _ => none

variable (ts : List (Transition (BitcoinCoreSv2Tdp Client) (TdpAction Client)))

/-- The announcements of a run. -/
def announcements : List (Announcement L Client) :=
  ts.filterMap fun t => t.before.announcement? L t.action

/-- The templates that the node gave in a run. -/
def fetchedTemplates : List (TemplateData Client) :=
  ts.filterMap fun t => t.before.fetched? L t.action

end Read

variable {L : BitcoinLib} {p p' : BitcoinCoreSv2Tdp Client} {a : TdpAction Client}

/-! ## Publishing and fetching -/

/-- The ids of the templates of a previous hash. -/
def templateIdsOfPrevHash (m : AssocMap UInt64 (TemplateData Client)) (prevHash : BlockHash) :
    List UInt64 :=
  (m.values.filter fun data => data.getPrevHash = prevHash).map (·.templateId)

/-- The templates that are retained after a publish. -/
def retainedWith (p : BitcoinCoreSv2Tdp Client) (data : TemplateData Client) :
    AssocMap UInt64 (TemplateData Client) :=
  let stored := p.templateData.insert data.templateId data
  let evicted := oldestTemplateIdsToEvict (templateIdsOfPrevHash stored data.getPrevHash)
    maxRetainedTemplatesPerPrevHash
  evicted.foldl (fun m id => m.erase id) stored

theorem lookup_retainedWith (data : TemplateData Client) (id : UInt64) :
    (p.retainedWith data).lookup id =
      if id ∈ oldestTemplateIdsToEvict (templateIdsOfPrevHash
        (p.templateData.insert data.templateId data) data.getPrevHash)
          maxRetainedTemplatesPerPrevHash then none
      else if id = data.templateId then some data else p.templateData.lookup id := by
  rw [retainedWith, AssocMap.lookup_foldl_erase, AssocMap.lookup_insert_if]

/-- **What a publish does.** -/
theorem publishTemplate_eq_ok {data : TemplateData Client} {tip : Bool}
    (h : p.publishTemplate L data tip = .ok p') :
    ∃ newTemplate, data.getNewTemplateMessage L tip = .ok newTemplate ∧
      p' = { p with
        templateData := p.retainedWith data
        currentPrevHash := if tip then some data.getPrevHash else p.currentPrevHash
        outgoingMessages := p.outgoingMessages ++ announcement L data tip newTemplate } := by
  unfold publishTemplate at h
  split at h
  · cases h
  · rename_i newTemplate hmessage
    cases h
    exact ⟨newTemplate, hmessage, rfl⟩

theorem publishTemplate_eq_error {data : TemplateData Client} {tip : Bool} {e : TdpError}
    (h : p.publishTemplate L data tip = .error e) :
    data.getNewTemplateMessage L tip = .error e := by
  unfold publishTemplate at h
  split at h
  · rename_i hmessage
    cases h
    exact hmessage
  · cases h

/-- What was fetched has the id taken for it. -/
theorem fetchTemplateData_eq_ok {client : Client} {templateId : UInt64}
    {template : Option IpcTemplate} {data : TemplateData Client}
    (h : fetchTemplateData L client templateId template = .ok data) :
    data.templateId = templateId ∧ data.templateIpcClient = client ∧
      ∃ ipc reward, template = some ipc ∧ data.header = ipc.header ∧
        data.merklePath = ipc.merklePath ∧
          coinbaseTxFromIpc L ipc.coinbaseTx = .ok (data.coinbaseTx, reward) := by
  unfold fetchTemplateData at h
  split at h
  · cases h
  · rename_i ipc
    split at h
    · cases h
    · rename_i coinbaseTx reward hcoinbase
      cases h
      exact ⟨rfl, rfl, ipc, reward, rfl, rfl, rfl, hcoinbase⟩

/-- The monitor reads the answer. -/
theorem fetched?_monitor {client : Client} {templateId : UInt64}
    (hmonitor : p.monitor = .fetching client templateId) (template : Option IpcTemplate) :
    p.fetched? L (.monitorFetched template) =
      (fetchTemplateData L client templateId template).toOption := by
  simp only [fetched?, hmonitor]

/-- The bootstrap reads the answer. -/
theorem fetched?_bootstrap {client : Client} {templateId : UInt64}
    (hincoming : p.incoming = .fetching client templateId) (template : Option IpcTemplate) :
    p.fetched? L (.bootstrapFetched template) =
      (fetchTemplateData L client templateId template).toOption := by
  simp only [fetched?, hincoming]

/-! ## Steps -/

/-- What a step can do. -/
inductive TdpStep (L : BitcoinLib) (p : BitcoinCoreSv2Tdp Client) :
    TdpAction Client → BitcoinCoreSv2Tdp Client → Prop
  | sent (message : PoolMessage) : TdpStep L p (.send message)
      { p with incomingMessages := p.incomingMessages ++ [message] }
  | moved (a : TdpAction Client) (monitor : MonitorTask Client) (incoming : IncomingTask Client)
      (monitorCancelled cancelled : Bool) (ha : a.isMessage = false)
      (hnews : p.announcement? L a = none)
      (hmonitor : monitor = p.monitor ∨ p.monitor.Moves monitor)
      (hincoming : incoming = p.incoming ∨ p.incoming.Moves monitor incoming) :
      TdpStep L p a { p with
        monitor := monitor
        incoming := incoming
        monitorCancelled := monitorCancelled
        cancelled := cancelled }
  | tookNext (client waiting : Client) (hmonitor : p.monitor = .waiting waiting) :
      TdpStep L p (.waitNextAnswered (.template client)) { p with
        templateIdFactory := p.templateIdFactory + 1
        monitor := .fetching client p.templateIdFactory }
  | tookBootstrap (client : Client) (first : Bool) (weight : UInt64) (sigops : UInt16)
      (hincoming : p.incoming = .creatingBlock first weight sigops) :
      TdpStep L p (.createNewBlockAnswered (some client)) { p with
        templateIdFactory := p.templateIdFactory + 1
        incoming := .fetching client p.templateIdFactory }
  | held (template : Option IpcTemplate) (client : Client) (data : TemplateData Client)
      (hmonitor : p.monitor = .fetching client data.templateId)
      (hfetched : p.fetched? L (.monitorFetched template) = some data)
      (hprev : p.currentPrevHash = some data.getPrevHash) :
      TdpStep L p (.monitorFetched template) { p with monitor := .holding data }
  | publishedTip (template : Option IpcTemplate) (client : Client) (data : TemplateData Client)
      (newTemplate : NewTemplate) (prevHash : BlockHash)
      (hmonitor : p.monitor = .fetching client data.templateId)
      (hfetched : p.fetched? L (.monitorFetched template) = some data)
      (hprev : p.currentPrevHash = some prevHash) (hne : data.getPrevHash ≠ prevHash)
      (hmessage : data.getNewTemplateMessage L true = .ok newTemplate) :
      TdpStep L p (.monitorFetched template) { p with
        currentTemplateIpcClient := some data.templateIpcClient
        currentPrevHash := some data.getPrevHash
        templateData := p.retainedWith data
        outgoingMessages := p.outgoingMessages ++ announcement L data true newTemplate
        monitor := .waiting data.templateIpcClient
        staleTasks := p.staleTasks ++ [p.templateData.keys] }
  | publishedHeld (data : TemplateData Client) (newTemplate : NewTemplate)
      (hmonitor : p.monitor = .holding data)
      (hmessage : data.getNewTemplateMessage L false = .ok newTemplate) :
      TdpStep L p .minIntervalPassed { p with
        currentTemplateIpcClient := some data.templateIpcClient
        templateData := p.retainedWith data
        outgoingMessages := p.outgoingMessages ++ announcement L data false newTemplate
        monitor := .waiting data.templateIpcClient }
  | bootstrapped (template : Option IpcTemplate) (client : Client) (data : TemplateData Client)
      (newTemplate : NewTemplate) (hincoming : p.incoming = .fetching client data.templateId)
      (hfetched : p.fetched? L (.bootstrapFetched template) = some data)
      (hmessage : data.getNewTemplateMessage L true = .ok newTemplate) :
      TdpStep L p (.bootstrapFetched template) { p with
        currentTemplateIpcClient := some data.templateIpcClient
        currentPrevHash := some data.getPrevHash
        templateData := p.retainedWith data
        outgoingMessages := p.outgoingMessages ++ announcement L data true newTemplate
        monitor := .starting
        incoming := .receiving }
  | removed (k : ℕ) (ids : List UInt64) (hk : p.staleTasks[k]? = some ids) :
      TdpStep L p (.removeStale k) { p with
        staleTemplateIds := ids
        templateData := ids.foldl (fun m id => m.erase id) p.templateData
        staleTasks := p.staleTasks.eraseIdx k }
  | ignored (solutionsDir : Bool) (message : PoolMessage) (messages : List PoolMessage)
      (hincoming : p.incoming = .waitingFirst)
      (hmessages : p.incomingMessages = message :: messages) :
      TdpStep L p (.receive solutionsDir) { p with incomingMessages := messages }
  | received (solutionsDir : Bool) (message : PoolMessage) (messages : List PoolMessage)
      (incoming : IncomingTask Client) (monitorCancelled : Bool)
      (hmessages : p.incomingMessages = message :: messages) (hrequest : message.request? = none)
      (hincoming : incoming = p.incoming ∧ p.incoming = .receiving ∨
        p.incoming.Moves p.monitor incoming) :
      TdpStep L p (.receive solutionsDir) { p with
        incomingMessages := messages
        incoming := incoming
        monitorCancelled := monitorCancelled }
  | refused (solutionsDir : Bool) (templateId : UInt64) (messages : List PoolMessage)
      (errorCode : Text) (hincoming : p.incoming = .receiving)
      (hmessages : p.incomingMessages = .requestTransactionData templateId :: messages)
      (hreason : errorCode = staleTemplateId ∧ templateId ∈ p.staleTemplateIds ∨
        errorCode = templateIdNotFound ∧ p.templateData.lookup templateId = none) :
      TdpStep L p (.receive solutionsDir) { p with
        incomingMessages := messages
        outgoingMessages :=
          p.outgoingMessages ++ [.requestTransactionDataError templateId errorCode] }
  | started (solutionsDir : Bool) (templateId : UInt64) (messages : List PoolMessage)
      (data : TemplateData Client) (hincoming : p.incoming = .receiving)
      (hmessages : p.incomingMessages = .requestTransactionData templateId :: messages)
      (hdata : p.templateData.lookup templateId = some data) :
      TdpStep L p (.receive solutionsDir) { p with
        incomingMessages := messages
        incoming := .readingBlock data }
  | answered (data : TemplateData Client) (block : Block Transaction)
      (hincoming : p.incoming = .readingBlock data) :
      TdpStep L p (.blockAnswered (some block)) { p with
        incoming := .receiving
        outgoingMessages := p.outgoingMessages ++
          [.requestTransactionDataSuccess data.templateId (block.txdata.tail.map L.serialize)] }
  | dumped (solution : SubmitSolution) (messages : List PoolMessage) (task : DumpTask Client)
      (hincoming : p.incoming = .receiving)
      (hmessages : p.incomingMessages = .submitSolution solution :: messages)
      (hdata : p.templateData.lookup solution.templateId = some task.data)
      (hcoinbase : L.deserialize solution.coinbaseTx = some task.coinbaseTx)
      (hheader : task.data.solutionHeader L task.coinbaseTx solution = some task.header) :
      TdpStep L p (.receive true) { p with
        incomingMessages := messages
        incoming := .submitting task.data.templateId
        dumpTasks := p.dumpTasks ++ [task] }
  | dropped (k : ℕ) (block : Option (Block Transaction)) (written : Option ℕ) :
      TdpStep L p (.dumpAnswered k block written) { p with dumpTasks := p.dumpTasks.eraseIdx k }
  | wrote (k written : ℕ) (task : DumpTask Client) (templateBlock solved : Block Transaction)
      (htask : p.dumpTasks[k]? = some task)
      (hsolved : solutionBlock task.header task.coinbaseTx templateBlock = some solved) :
      TdpStep L p (.dumpAnswered k (some templateBlock) (some written)) { p with
        dumpTasks := p.dumpTasks.eraseIdx k
        solutionFiles := p.solutionFiles.insert (L.blockHash solved.header)
          ((L.serializeBlock solved).take written) }

/-- The monitor terminates the connection. -/
theorem tdpStep_failMonitor (ha : a.isMessage = false) (hnews : p.announcement? L a = none) :
    TdpStep L p a p.failMonitor :=
  .moved a .exited p.incoming p.monitorCancelled true ha hnews (.inr ⟨rfl, fun _ => rfl⟩) (.inl rfl)

/-- The handler of the pool's messages terminates the connection. -/
theorem tdpStep_failIncoming (ha : a.isMessage = false) (hnews : p.announcement? L a = none) :
    TdpStep L p a p.failIncoming :=
  .moved a p.monitor .exited p.monitorCancelled true ha hnews (.inl rfl)
    (.inr IncomingTask.moves_exited)

/-- The monitor moves. -/
theorem tdpStep_monitor (ha : a.isMessage = false) (hnews : p.announcement? L a = none)
    {monitor : MonitorTask Client} (hmonitor : p.monitor.Moves monitor) :
    TdpStep L p a { p with monitor := monitor } :=
  .moved a monitor p.incoming p.monitorCancelled p.cancelled ha hnews (.inr hmonitor) (.inl rfl)

/-- The handler moves. -/
theorem tdpStep_incoming (ha : a.isMessage = false) (hnews : p.announcement? L a = none)
    {incoming : IncomingTask Client} (hincoming : p.incoming.Moves p.monitor incoming) :
    TdpStep L p a { p with incoming := incoming } :=
  .moved a p.monitor incoming p.monitorCancelled p.cancelled ha hnews (.inl rfl) (.inr hincoming)

theorem tdpStep_monitorFetched {template : Option IpcTemplate} {client : Client}
    {data : TemplateData Client} (hmonitor : p.monitor = .fetching client data.templateId)
    (hfetched : p.fetched? L (.monitorFetched template) = some data) :
    TdpStep L p (.monitorFetched template) (p.monitorFetched L data) := by
  unfold monitorFetched
  split
  · rename_i hprev
    exact tdpStep_failMonitor rfl (by simp only [announcement?, hfetched, hprev])
  · rename_i prevHash hprev
    split
    · rename_i hne
      split
      · rename_i e hpublished
        refine tdpStep_failMonitor rfl ?_
        simp only [announcement?, hfetched, hprev, if_pos hne]
        exact Announcement.of?_eq_none (publishTemplate_eq_error hpublished)
      · rename_i published hpublished
        obtain ⟨newTemplate, hmessage, rfl⟩ := publishTemplate_eq_ok hpublished
        exact .publishedTip template client data newTemplate prevHash hmonitor hfetched hprev hne
          hmessage
    · rename_i heq
      rw [ne_eq, not_not] at heq
      exact .held template client data hmonitor hfetched (by rw [hprev, heq])

theorem tdpStep_publishHeld {data : TemplateData Client} (hmonitor : p.monitor = .holding data) :
    TdpStep L p .minIntervalPassed (p.publishHeld L data) := by
  unfold publishHeld
  split
  · rename_i e hpublished
    refine tdpStep_failMonitor rfl ?_
    simp only [announcement?, hmonitor]
    exact Announcement.of?_eq_none (publishTemplate_eq_error hpublished)
  · rename_i published hpublished
    obtain ⟨newTemplate, hmessage, rfl⟩ := publishTemplate_eq_ok hpublished
    exact .publishedHeld data newTemplate hmonitor hmessage

theorem tdpStep_bootstrapped {template : Option IpcTemplate} {client : Client}
    {data : TemplateData Client} (hincoming : p.incoming = .fetching client data.templateId)
    (hfetched : p.fetched? L (.bootstrapFetched template) = some data) :
    TdpStep L p (.bootstrapFetched template) (p.bootstrapped L data) := by
  unfold BitcoinCoreSv2Tdp.bootstrapped
  split
  · rename_i e hpublished
    refine tdpStep_failIncoming rfl ?_
    simp only [announcement?, hfetched, Option.bind_some]
    exact Announcement.of?_eq_none (publishTemplate_eq_error hpublished)
  · rename_i published hpublished
    obtain ⟨newTemplate, hmessage, rfl⟩ := publishTemplate_eq_ok hpublished
    exact .bootstrapped template client data newTemplate hincoming hfetched hmessage

/-- The handler of a message of the pool. -/
theorem tdpStep_receive {solutionsDir : Bool} {message : PoolMessage}
    {messages : List PoolMessage} (hincoming : p.incoming = .receiving)
    (hmessages : p.incomingMessages = message :: messages) :
    TdpStep L p (.receive solutionsDir)
      ({ p with incomingMessages := messages }.receive L solutionsDir message) := by
  have hstays : message.request? = none →
      TdpStep L p (.receive solutionsDir) { p with incomingMessages := messages } := fun hrequest =>
    .received solutionsDir message messages p.incoming p.monitorCancelled hmessages hrequest
      (.inl ⟨rfl, hincoming⟩)
  have hmoves : ∀ incoming monitorCancelled, message.request? = none → incoming.heldIds = [] →
      incoming.bootstraps = false → incoming.reading = [] →
        TdpStep L p (.receive solutionsDir) { p with
          incomingMessages := messages
          incoming := incoming
          monitorCancelled := monitorCancelled } := by
    intro incoming monitorCancelled hrequest hheld hbootstraps hreading
    refine .received solutionsDir message messages incoming monitorCancelled hmessages hrequest
      (.inr ⟨hheld, fun h => ?_, fun _ => ?_, fun h => ?_⟩)
    · rw [hbootstraps] at h
      cases h
    · rw [hincoming]
      exact ⟨nofun, hreading⟩
    · rw [h] at hbootstraps
      cases hbootstraps
  cases message with
  | coinbaseOutputConstraints constraints => exact hmoves _ _ rfl rfl rfl rfl
  | requestTransactionData templateId =>
    simp only [receive, handleRequestTransactionData]
    split
    · rename_i hstale
      exact .refused solutionsDir templateId messages _ hincoming hmessages (.inl ⟨rfl, hstale⟩)
    · split
      · rename_i data hdata
        exact .started solutionsDir templateId messages data hincoming hmessages hdata
      · rename_i hnone
        exact .refused solutionsDir templateId messages _ hincoming hmessages (.inr ⟨rfl, hnone⟩)
  | submitSolution solution =>
    simp only [receive, handleSubmitSolution]
    split
    · exact hstays rfl
    · rename_i data hdata
      split
      · rename_i hdir
        split
        · exact hstays rfl
        · rename_i coinbaseTx hcoinbase
          unfold dumpSolutionToDisk
          split
          · exact hmoves _ _ rfl rfl rfl rfl
          · rename_i header hheader
            rw [hdir]
            exact .dumped solution messages ⟨data, coinbaseTx, header⟩ hincoming hmessages hdata
              hcoinbase hheader
      · exact hstays rfl
  | other => exact hstays rfl

/-- **What a step can do.** -/
theorem tdpStep_of_next (h : p.next L a = some p') : TdpStep L p a p' := by
  have hsame : a.isMessage = false → p.announcement? L a = none → ∀ monitorCancelled cancelled,
      TdpStep L p a { p with monitorCancelled := monitorCancelled, cancelled := cancelled } :=
    fun ha hnews monitorCancelled cancelled =>
      .moved a p.monitor p.incoming monitorCancelled cancelled ha hnews (.inl rfl) (.inl rfl)
  cases a with
  | send message =>
    cases h
    exact .sent message
  | cancel =>
    cases h
    exact hsame rfl rfl _ _
  | monitorStarted threadCreated =>
    simp only [next] at h
    split at h
    · rename_i hmonitor
      split at h
      · cases h
        exact tdpStep_monitor rfl rfl ⟨rfl, by rw [hmonitor]; nofun⟩
      · cases h
        exact tdpStep_failMonitor rfl rfl
    · cases h
  | waitNextAnswered answer =>
    simp only [next] at h
    split at h
    · cases h
      exact hsame rfl rfl _ _
    · cases h
      exact tdpStep_failMonitor rfl rfl
    · rename_i waiting client hmonitor
      cases h
      exact .tookNext client waiting hmonitor
    · cases h
  | monitorFetched template =>
    simp only [next] at h
    split at h
    · rename_i client templateId hmonitor
      have hfetched := fetched?_monitor (L := L) hmonitor template
      split at h
      · rename_i e hdata
        cases h
        rw [hdata] at hfetched
        refine tdpStep_failMonitor rfl ?_
        simp only [announcement?, hfetched, Except.toOption]
      · rename_i data hdata
        cases h
        rw [hdata] at hfetched
        exact tdpStep_monitorFetched
          (hmonitor.trans (by rw [(fetchTemplateData_eq_ok hdata).1])) hfetched
    · cases h
  | minIntervalPassed =>
    simp only [next] at h
    split at h
    · rename_i data hmonitor
      cases h
      exact tdpStep_publishHeld hmonitor
    · cases h
  | stopMonitor interruptSent =>
    simp only [next] at h
    split at h
    · split at h
      · cases h
        exact tdpStep_monitor rfl rfl ⟨rfl, fun _ => rfl⟩
      · split at h
        · split at h
          · cases h
            exact tdpStep_monitor rfl rfl ⟨rfl, fun _ => rfl⟩
          · cases h
            exact tdpStep_failMonitor rfl rfl
        · cases h
    · cases h
  | receive solutionsDir =>
    simp only [next] at h
    split at h
    · rename_i message messages hincoming hmessages
      split at h
      · rename_i constraints
        cases h
        refine .received solutionsDir _ messages _ p.monitorCancelled hmessages rfl
          (.inr ⟨rfl, fun _ => ?_, fun _ => ?_, nofun⟩)
        · rw [hincoming]
          exact .inl rfl
        · rw [hincoming]
          exact ⟨nofun, rfl⟩
      · cases h
        exact .ignored solutionsDir message messages hincoming hmessages
    · rename_i message messages hincoming hmessages
      cases h
      exact tdpStep_receive hincoming hmessages
    · cases h
  | monitorJoined =>
    simp only [next] at h
    split at h
    · rename_i constraints hincoming hmonitor
      cases h
      refine .moved _ p.monitor _ false p.cancelled rfl rfl (.inl rfl)
        (.inr ⟨rfl, fun _ => ?_, fun _ => ?_, nofun⟩)
      · rw [hmonitor]
        exact .inr rfl
      · rw [hincoming]
        exact ⟨nofun, rfl⟩
    · cases h
  | createNewBlockAnswered client =>
    simp only [next] at h
    split at h
    · rename_i first weight sigops hincoming
      split at h
      · cases h
        exact tdpStep_failIncoming rfl rfl
      · rename_i client
        cases h
        exact .tookBootstrap client first weight sigops hincoming
    · cases h
  | createNewBlockInterrupted =>
    simp only [next] at h
    split at h
    · split at h
      · cases h
        exact tdpStep_incoming rfl rfl IncomingTask.moves_exited
      · cases h
    · cases h
  | bootstrapFetched template =>
    simp only [next] at h
    split at h
    · rename_i client templateId hincoming
      have hfetched := fetched?_bootstrap (L := L) hincoming template
      split at h
      · rename_i e hdata
        cases h
        rw [hdata] at hfetched
        refine tdpStep_failIncoming rfl ?_
        simp only [announcement?, hfetched, Except.toOption, Option.bind_none]
      · rename_i data hdata
        cases h
        rw [hdata] at hfetched
        exact tdpStep_bootstrapped
          (hincoming.trans (by rw [(fetchTemplateData_eq_ok hdata).1])) hfetched
    · cases h
  | blockAnswered block =>
    simp only [next] at h
    split at h
    · rename_i data hincoming
      split at h
      · cases h
        exact tdpStep_failIncoming rfl rfl
      · rename_i block
        cases h
        exact .answered data block hincoming
    · cases h
  | solutionAnswered accepted =>
    simp only [next] at h
    split at h
    · rename_i templateId hincoming
      cases h
      refine tdpStep_incoming rfl rfl ⟨rfl, nofun, fun _ => ?_, nofun⟩
      rw [hincoming]
      exact ⟨nofun, rfl⟩
    · cases h
  | stopIncoming =>
    simp only [next] at h
    split at h
    · split at h
      · cases h
        exact tdpStep_incoming rfl rfl IncomingTask.moves_exited
      · cases h
    · split at h
      · cases h
        exact tdpStep_incoming rfl rfl IncomingTask.moves_exited
      · cases h
    · cases h
  | removeStale k =>
    simp only [next] at h
    split at h
    · cases h
    · rename_i ids hk
      cases h
      exact .removed k ids hk
  | dumpAnswered k block written =>
    simp only [next] at h
    split at h
    · cases h
    · rename_i task htask
      split at h
      · rename_i solved hsolved
        obtain ⟨templateBlock, rfl, hsolved⟩ := Option.bind_eq_some_iff.1 hsolved
        cases written with
        | none =>
          cases h
          exact .dropped k _ none
        | some written =>
          cases h
          exact .wrote k written task templateBlock solved htask hsolved
      · cases h
        exact .dropped k block _

end BitcoinCoreSv2Tdp

end Tdp

end CanaryMining
