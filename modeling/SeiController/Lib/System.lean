import Mathlib.Logic.Basic

/-!
# State machines and their invariants
-/

set_option autoImplicit false

/-- The states a machine can reach: an initial one, then any number of steps. -/
inductive Reachable {σ : Type} (init : σ → Prop) (step : σ → σ → Prop) : σ → Prop
  | start {s : σ} (initial : init s) : Reachable init step s
  | next {s t : σ} (before : Reachable init step s) (move : step s t) : Reachable init step t

namespace Reachable

variable {σ : Type} {init : σ → Prop} {step : σ → σ → Prop}

/-- What holds at the start and survives every step holds in every reachable state. -/
theorem invariant {I : σ → Prop} (initial : ∀ s, init s → I s)
    (preserved : ∀ s t, I s → step s t → I t) {s : σ} (reached : Reachable init step s) :
    I s := by
  induction reached with
  | start initial' => exact initial _ initial'
  | next _ move ih => exact preserved _ _ ih move

/-- A machine with more initial states and more steps reaches more. -/
theorem mono {init' : σ → Prop} {step' : σ → σ → Prop} (starts : ∀ s, init s → init' s)
    (steps : ∀ s t, step s t → step' s t) {s : σ} (reached : Reachable init step s) :
    Reachable init' step' s := by
  induction reached with
  | start initial => exact .start (starts _ initial)
  | next _ move ih => exact .next ih (steps _ _ move)

end Reachable
