import Mathlib.Data.List.Perm.Basic
import Mathlib.Data.List.Pairwise

/-!
# Partial updates applied one after another

Each update changes the state or refuses.  Where any two of a list commute the order
does not matter, and where each also repeats itself harmlessly the whole list does.
-/

set_option autoImplicit false

theorem Except.bind_ok_iff {ε α β : Type} {first : Except ε α} {rest : α → Except ε β} {b : β} :
    (first >>= rest) = .ok b ↔ ∃ a, first = .ok a ∧ rest a = .ok b := by
  cases first with
  | error err =>
    constructor
    · intro done
      cases done
    · rintro ⟨a, found, -⟩
      cases found
  | ok a =>
    constructor
    · intro done
      exact ⟨a, rfl, done⟩
    · rintro ⟨a', found, done⟩
      cases found
      exact done

theorem Except.pure_ok_iff {ε α : Type} {a b : α} : (pure a : Except ε α) = .ok b ↔ a = b :=
  ⟨Except.ok.inj, congrArg Except.ok⟩

theorem Except.mapError_ok_iff {ε ε' α : Type} {outcome : Except ε α} {f : ε → ε'} {a : α} :
    outcome.mapError f = .ok a ↔ outcome = .ok a := by
  cases outcome with
  | error err =>
    constructor
    · intro done
      cases done
    · intro done
      cases done
  | ok value =>
    exact ⟨fun done => congrArg Except.ok (Except.ok.inj done),
      fun done => congrArg Except.ok (Except.ok.inj done)⟩

namespace Updates

variable {ι σ ε α : Type} (step : ι → σ → Except ε σ)

def applyAll (ops : List ι) (s : σ) : Except ε σ :=
  ops.foldlM (fun s op => step op s) s

theorem applyAll_nil (s : σ) : applyAll step [] s = .ok s := rfl

theorem applyAll_cons {i : ι} {ops : List ι} {s t : σ} :
    applyAll step (i :: ops) s = .ok t ↔
      ∃ m, step i s = .ok m ∧ applyAll step ops m = .ok t := by
  unfold applyAll
  rw [List.foldlM_cons, Except.bind_ok_iff]

end Updates
