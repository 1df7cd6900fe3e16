import Mathlib.Data.List.Basic
import Mathlib.Data.List.Infix

/-!
# Unbounded channels

A channel of a task keeps all that was put into it, in order, and how much of that was
taken.  Its senders and its receiver can close it; a closed channel takes nothing more, but
what waits in it is still received, unless the receiver threw it away.

## Main definitions

* `Channel` — what was sent, and how much of it was received.
* `Channel.send`, `Channel.recv`, `Channel.close`, `Channel.closeAndDrain`.
* `Interleave xs ys zs` — `zs` is a merge of `xs` and `ys`.
-/

namespace CanaryMining

variable {α β : Type*}

/-- A channel: what was put into it, how much of it was taken, whether it takes more, and
whether what waited in it was thrown away. -/
@[ext]
structure Channel (α : Type*) where
  sent : List α
  taken : ℕ
  isOpen : Bool
  isDrained : Bool
  taken_le : taken ≤ sent.length
  closed_of_drained : isDrained = true → isOpen = false

namespace Channel

/-- A channel before its first use. -/
def new : Channel α where
  sent := []
  taken := 0
  isOpen := true
  isDrained := false
  taken_le := Nat.le_refl 0
  closed_of_drained := Bool.noConfusion

/-- What the receiver took. -/
def received (c : Channel α) : List α := c.sent.take c.taken

/-- What waits in the channel. -/
def waiting (c : Channel α) : List α := if c.isDrained then [] else c.sent.drop c.taken

/-- Puts a message in; a closed channel refuses it. -/
def send (c : Channel α) (a : α) : Option (Channel α) :=
  if h : c.isOpen then
    some { c with
      sent := c.sent ++ [a]
      taken_le := by
        have := c.taken_le
        simp only [List.length_append]
        omega
      closed_of_drained := c.closed_of_drained }
  else none

/-- Takes the oldest message that waits. -/
def recv (c : Channel α) : Option (α × Channel α) :=
  if h : c.isDrained = false ∧ c.taken < c.sent.length then
    some (c.sent.get ⟨c.taken, h.2⟩, { c with
      taken := c.taken + 1
      taken_le := h.2
      closed_of_drained := c.closed_of_drained })
  else none

/-- No one can put more in. -/
def close (c : Channel α) : Channel α :=
  { c with isOpen := false, closed_of_drained := fun _ => rfl, taken_le := c.taken_le }

/-- The receiver closes the channel and throws away what waits in it. -/
def closeAndDrain (c : Channel α) : Channel α where
  sent := c.sent
  taken := c.taken
  isOpen := false
  isDrained := true
  taken_le := c.taken_le
  closed_of_drained := fun _ => rfl

section

variable {c c' : Channel α} {a : α}

@[simp] theorem sent_new : (new : Channel α).sent = [] := rfl
@[simp] theorem received_new : (new : Channel α).received = [] := rfl

/-- What a message that was put in changes. -/
theorem of_send (h : c.send a = some c') : c.isOpen = true ∧ c'.sent = c.sent ++ [a] ∧
    c'.received = c.received ∧ c'.isOpen = true := by
  unfold send at h
  split at h
  · rename_i hopen
    cases h
    exact ⟨hopen, rfl, List.take_append_of_le_length c.taken_le, hopen⟩
  · cases h

/-- What a message that was taken changes. -/
theorem of_recv (h : c.recv = some (a, c')) : c'.received = c.received ++ [a] ∧
    c.waiting = a :: c'.waiting ∧ c'.sent = c.sent ∧ c'.isOpen = c.isOpen := by
  unfold recv at h
  split at h
  · rename_i hwaiting
    cases h
    refine ⟨List.take_succ_eq_append_getElem hwaiting.2, ?_, rfl, rfl⟩
    simp only [waiting, hwaiting.1, Bool.false_eq_true, if_false]
    exact List.drop_eq_getElem_cons hwaiting.2
  · cases h

end

end Channel

/-! ## Merged lists -/

/-- `zs` is a merge of `xs` and `ys` that keeps the order of each. -/
inductive Interleave : List α → List α → List α → Prop
  | nil : Interleave [] [] []
  | left {a : α} {xs ys zs : List α} : Interleave xs ys zs → Interleave (xs ++ [a]) ys (zs ++ [a])
  | right {a : α} {xs ys zs : List α} :
      Interleave xs ys zs → Interleave xs (ys ++ [a]) (zs ++ [a])

namespace Interleave

variable {xs ys zs : List α}

/-- What is merged comes from one of the two. -/
theorem mem_or_mem (h : Interleave xs ys zs) {a : α} (ha : a ∈ zs) : a ∈ xs ∨ a ∈ ys := by
  induction h with
  | nil => exact .inl ha
  | left _ ih =>
    rw [List.mem_append] at ha ⊢
    exact ha.elim (fun ha => (ih ha).imp_left .inl) fun ha => .inl (.inr ha)
  | right _ ih =>
    rw [List.mem_append] at ha ⊢
    exact ha.elim (fun ha => (ih ha).imp_right .inl) fun ha => .inr (.inr ha)

/-- A list merged into another one is not seen by what ignores it. -/
theorem foldl_eq (h : Interleave xs ys zs) {f : β → α → β} {b : β}
    (hys : ∀ a ∈ ys, ∀ b, f b a = b) : zs.foldl f b = xs.foldl f b := by
  induction h with
  | nil => rfl
  | left _ ih => rw [List.foldl_append, List.foldl_append, ih hys]
  | @right a xs ys zs _ ih =>
    rw [List.foldl_append, ih fun a' ha' => hys a' (List.mem_append_left _ ha')]
    exact hys a (by simp) _

end Interleave

end CanaryMining
