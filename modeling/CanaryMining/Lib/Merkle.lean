import Mathlib.Data.List.Basic

/-!
# Merkle roots with a duplicated last node

The nodes of a level are combined in pairs, and a last node without a partner with itself;
the root is what is left when one node is.  The root of a list can be computed from its
first leaf and one node of each level, its branch, which does not depend on that leaf.

## Main definitions

* `merkleLevel`, `merkleRoot` — the next level, and the root.
* `firstBranch` — the nodes that the first leaf is combined with, from the other leaves.
-/

namespace CanaryMining

variable {H : Type*} (combine : H → H → H)

/-- The level above. -/
def merkleLevel : List H → List H
  | [] => []
  | [a] => [combine a a]
  | a :: b :: rest => combine a b :: merkleLevel rest

theorem length_merkleLevel_le (nodes : List H) :
    (merkleLevel combine nodes).length ≤ nodes.length := by
  induction nodes using merkleLevel.induct with
  | case1 => simp [merkleLevel]
  | case2 a => simp [merkleLevel]
  | case3 a b rest ih =>
    simp only [merkleLevel, List.length_cons]
    omega

/-- The root, if there is a leaf. -/
def merkleRoot : List H → Option H
  | [] => none
  | [a] => some a
  | a :: b :: rest => merkleRoot (combine a b :: merkleLevel combine rest)
termination_by nodes => nodes.length
decreasing_by
  have := length_merkleLevel_le combine rest
  simp only [List.length_cons]
  omega

/-- The nodes that a first leaf is combined with, one of each level. -/
def firstBranch : List H → List H
  | [] => []
  | b :: rest => b :: firstBranch (merkleLevel combine rest)
termination_by others => others.length
decreasing_by
  have := length_merkleLevel_le combine rest
  simp only [List.length_cons]
  omega

/-- **The branch leads to the root**, from any first leaf. -/
theorem merkleRoot_cons (leaf : H) (others : List H) :
    merkleRoot combine (leaf :: others) =
      some ((firstBranch combine others).foldl combine leaf) := by
  induction others using (firstBranch.induct combine) generalizing leaf with
  | case1 => simp [merkleRoot, firstBranch]
  | case2 b rest ih =>
    rw [merkleRoot, firstBranch, List.foldl_cons]
    exact ih (combine leaf b)

end CanaryMining
