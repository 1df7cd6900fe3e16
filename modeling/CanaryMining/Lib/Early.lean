import Mathlib.Data.List.Basic

/-!
# Computations with early returns

A function body that may return before its end is a computation of type
`Early ρ α`: it goes on with a value of type `α` or has returned one of type `ρ`.
What holds of the value a body returns is shown exit by exit.

## Main definitions

* `Early ρ α` — a computation that may return early.
* `Early.ofOption`, `Early.ofExcept`, `Early.exitIf` — its exits.
* `Early.Sat P Q` — early returns satisfy `P`, the value it goes on with `Q`.
-/

namespace CanaryMining

/-- A computation of an `α` that may return a `ρ` early. -/
abbrev Early (ρ α : Type) := Except ρ α

namespace Early

variable {ρ α β ε : Type}

/-- What a body returns, early or at its end. -/
def finish : Early ρ ρ → ρ
  | .error r => r
  | .ok r => r

/-- Goes on with the value of an option, or returns `exit`. -/
def ofOption (exit : ρ) : Option α → Early ρ α
  | none => .error exit
  | some a => .ok a

/-- Goes on with the value of a result, or returns what `exit` makes of its error. -/
def ofExcept (exit : ε → ρ) : Except ε α → Early ρ α
  | .error e => .error (exit e)
  | .ok a => .ok a

/-- Returns `exit` on a condition. -/
def exitIf (c : Prop) [Decidable c] (exit : ρ) : Early ρ Unit :=
  if c then .error exit else .ok ()

/-- Early returns satisfy `P`, and the value gone on with satisfies `Q`. -/
def Sat (P : ρ → Prop) (Q : α → Prop) : Early ρ α → Prop
  | .error r => P r
  | .ok a => Q a

variable {P : ρ → Prop} {Q : α → Prop} {R : β → Prop}

/-- **The rule of sequencing.** -/
theorem sat_bind {x : Early ρ α} {f : α → Early ρ β} (hx : Sat P Q x)
    (hf : ∀ a, Q a → Sat P R (f a)) : Sat P R (x >>= f) := by
  cases x with
  | error r => exact hx
  | ok a => exact hf a hx

theorem sat_ofOption {exit : ρ} {o : Option α} (hnone : o = none → P exit) :
    Sat P (fun a => o = some a) (ofOption exit o) := by
  cases o with
  | none => exact hnone rfl
  | some a => exact rfl

theorem sat_ofExcept {exit : ε → ρ} {x : Except ε α} (herror : ∀ e, x = .error e → P (exit e)) :
    Sat P (fun a => x = .ok a) (ofExcept exit x) := by
  cases x with
  | error e => exact herror e rfl
  | ok a => exact rfl

theorem sat_exitIf {c : Prop} [Decidable c] {exit : ρ} (h : c → P exit) :
    Sat P (fun _ => ¬ c) (exitIf c exit) := by
  unfold exitIf
  split
  · rename_i hc
    exact h hc
  · rename_i hc
    exact hc

theorem Sat.imp {Q' : α → Prop} {x : Early ρ α} (hx : Sat P Q x) (h : ∀ a, Q a → Q' a) :
    Sat P Q' x := by
  cases x with
  | error r => exact hx
  | ok a => exact h a hx

theorem Sat.mono {P' : ρ → Prop} {x : Early ρ α} (hx : Sat P Q x) (h : ∀ r, P r → P' r) :
    Sat P' Q x := by
  cases x with
  | error r => exact h r hx
  | ok a => exact hx

theorem Sat.of_eq_ok {x : Early ρ α} (hx : Sat P Q x) {a : α} (h : x = .ok a) : Q a := by
  rw [h] at hx
  exact hx

theorem sat_pure {a : α} (h : Q a) : Sat P Q (pure a : Early ρ α) := h

/-- A body all of whose exits satisfy `P` returns a value that does. -/
theorem finish_of_sat {x : Early ρ ρ} (h : Sat P P x) : P x.finish := by
  cases x with
  | error r => exact h
  | ok r => exact h

end Early

end CanaryMining
