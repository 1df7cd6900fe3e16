import Mathlib.Data.List.Basic

/-!
# Messages that are introduced

A party that is sent messages about things can only follow if each message is about things
that it knows from what was sent before.

## Main definitions

* `Grows known` — what was sent later takes no knowledge away.
* `Introduced known about messages` — every message is about things known before it.
-/

namespace CanaryMining

variable {M K : Type*}

/-- Who knows a thing after some messages still knows it after more of them. -/
def Grows (known : List M → K → Prop) : Prop :=
  ∀ before sent k, known before k → known (before ++ sent) k

/-- Every message is about things that are known from those before it. -/
def Introduced (known : List M → K → Prop) (about : M → K → Prop) (messages : List M) : Prop :=
  ∀ before m after, messages = before ++ m :: after → ∀ k, about m k → known before k

variable {known known' : List M → K → Prop} {about : M → K → Prop} {messages sent : List M}

theorem introduced_nil : Introduced known about ([] : List M) := by
  intro before m after h
  simp at h

/-- What was sent first is introduced by itself. -/
theorem Introduced.of_append (h : Introduced known about (messages ++ sent)) :
    Introduced known about messages := by
  intro before m after heq k hk
  refine h before m (after ++ sent) ?_ k hk
  rw [heq]
  simp

/-- Where more is known, no more has to be introduced. -/
theorem Introduced.imp (h : Introduced known about messages)
    (himp : ∀ before k, known before k → known' before k) : Introduced known' about messages :=
  fun before m after heq k hk => himp before k (h before m after heq k hk)

/-- **The rule of sending.**  More messages are introduced if each of them is, by what was
sent before. -/
theorem Introduced.append (h : Introduced known about messages)
    (hsent : ∀ before m after, sent = before ++ m :: after → ∀ k, about m k →
      known (messages ++ before) k) : Introduced known about (messages ++ sent) := by
  intro before m after heq k hk
  rcases List.append_eq_append_iff.1 heq with ⟨before', hbefore, hsent'⟩ | ⟨tail, hmessages, htail⟩
  · rw [hbefore]
    exact hsent before' m after hsent' k hk
  · cases tail with
    | nil =>
      have hknown := hsent [] m after (by simpa using htail.symm) k hk
      rw [List.append_nil] at hmessages hknown
      exact hmessages ▸ hknown
    | cons m' tail =>
      obtain ⟨rfl, -⟩ := List.cons.inj htail
      exact h before m tail hmessages k hk

/-- Messages about what is known may be sent in any order. -/
theorem Introduced.append_known (hgrows : Grows known) (h : Introduced known about messages)
    (hsent : ∀ m ∈ sent, ∀ k, about m k → known messages k) :
    Introduced known about (messages ++ sent) := by
  refine h.append fun before m after heq k hk => hgrows _ _ _ (hsent m ?_ k hk)
  rw [heq]
  exact List.mem_append_right _ List.mem_cons_self

end CanaryMining
