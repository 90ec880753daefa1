import Mathlib.Data.List.Basic

/-!
# Append-only logs

A log is a list with its newest entry first.  `Extends P old new` says that `new` is
`old` with entries added that all satisfy `P`.
-/

set_option autoImplicit false

namespace Log

variable {α : Type} {P Q : α → Prop}

def Extends (P : α → Prop) (old new : List α) : Prop :=
  ∃ added, new = added ++ old ∧ ∀ entry ∈ added, P entry

theorem Extends.refl (log : List α) : Extends P log log := ⟨[], rfl, by simp⟩

theorem Extends.trans {a b c : List α} (first : Extends P a b) (second : Extends P b c) :
    Extends P a c := by
  obtain ⟨older, rfl, holdsOlder⟩ := first
  obtain ⟨newer, rfl, holdsNewer⟩ := second
  refine ⟨newer ++ older, (List.append_assoc newer older a).symm, ?_⟩
  intro entry member
  rcases List.mem_append.mp member with new | old
  · exact holdsNewer entry new
  · exact holdsOlder entry old

theorem Extends.mono {old new : List α} (ext : Extends P old new)
    (weaken : ∀ entry, P entry → Q entry) : Extends Q old new := by
  obtain ⟨added, same, holds⟩ := ext
  exact ⟨added, same, fun entry member => weaken entry (holds entry member)⟩

theorem Extends.cons {entry : α} (holds : P entry) (log : List α) :
    Extends P log (entry :: log) :=
  ⟨[entry], rfl, by simpa using holds⟩

theorem Extends.and {old new : List α} (first : Extends P old new) (second : Extends Q old new) :
    Extends (fun entry => P entry ∧ Q entry) old new := by
  obtain ⟨added, same, holds⟩ := first
  obtain ⟨added', same', holds'⟩ := second
  have equal : added' = added := List.append_cancel_right (same'.symm.trans same)
  subst equal
  exact ⟨added', same, fun entry member => ⟨holds entry member, holds' entry member⟩⟩

theorem Extends.forall {old new : List α} (ext : Extends P old new)
    (before : ∀ entry ∈ old, P entry) : ∀ entry ∈ new, P entry := by
  obtain ⟨added, rfl, holds⟩ := ext
  intro entry member
  rcases List.mem_append.mp member with fresh | earlier
  · exact holds entry fresh
  · exact before entry earlier

theorem Extends.mem {old new : List α} (ext : Extends P old new) {entry : α}
    (member : entry ∈ old) : entry ∈ new := by
  obtain ⟨added, rfl, _⟩ := ext
  exact List.mem_append_right added member

theorem Extends.subset {old new : List α} (ext : Extends P old new) : old ⊆ new :=
  fun _ member => ext.mem member

/-! ## Entries gained -/

def Gained (old new : List α) (entry : α) : Prop :=
  ∃ added, new = added ++ old ∧ entry ∈ added

theorem Gained.cons (entry : α) (log : List α) : Gained log (entry :: log) entry :=
  ⟨[entry], rfl, List.mem_singleton_self entry⟩

theorem Gained.mem {old new : List α} {entry : α} (gained : Gained old new entry) :
    entry ∈ new := by
  obtain ⟨added, rfl, member⟩ := gained
  exact List.mem_append_left old member

theorem Gained.before {a b c : List α} {entry : α} (first : Extends P a b)
    (gained : Gained b c entry) : Gained a c entry := by
  obtain ⟨older, rfl, _⟩ := first
  obtain ⟨newer, rfl, member⟩ := gained
  exact ⟨newer ++ older, (List.append_assoc newer older a).symm, List.mem_append_left older member⟩

theorem Gained.after {a b c : List α} {entry : α} (gained : Gained a b entry)
    (second : Extends P b c) : Gained a c entry := by
  obtain ⟨older, rfl, member⟩ := gained
  obtain ⟨newer, rfl, _⟩ := second
  exact ⟨newer ++ older, (List.append_assoc newer older a).symm, List.mem_append_right newer member⟩

theorem Extends.of_gained {old new : List α} (ext : Extends P old new) {entry : α}
    (gained : Gained old new entry) : P entry := by
  obtain ⟨added, same, holds⟩ := ext
  obtain ⟨added', same', member⟩ := gained
  have equal : added' = added := List.append_cancel_right (same'.symm.trans same)
  exact holds entry (equal ▸ member)

/-! ## The newest entry of a kind -/

/-- The newest entry that `pick` takes. -/
def last? {β : Type} (pick : α → Option β) (log : List α) : Option β :=
  log.findSome? pick

theorem last?_extends {β : Type} {pick : α → Option β} {old new : List α}
    (ext : Extends (fun entry => pick entry = none) old new) : last? pick new = last? pick old := by
  obtain ⟨added, rfl, none_⟩ := ext
  induction added with
  | nil => rfl
  | cons entry added ih =>
    have skipped : pick entry = none := none_ entry List.mem_cons_self
    have rest := ih fun other member => none_ other (List.mem_cons_of_mem entry member)
    simpa [last?, skipped] using rest

/-! ## Entries against the log before them -/

/-- Every entry passes a check against the log before it. -/
def each (check : List α → α → Bool) : List α → Bool
  | [] => true
  | entry :: earlier => check earlier entry && each check earlier

theorem each_extends {check : List α → α → Bool} {old new : List α} (ext : Extends P old new)
    (before : each check old = true)
    (passes : ∀ mid entry, Extends P old mid → P entry → check mid entry = true) :
    each check new = true := by
  obtain ⟨added, rfl, holds⟩ := ext
  induction added with
  | nil => exact before
  | cons entry added ih =>
    have earlier : ∀ other ∈ added, P other := fun other member =>
      holds other (List.mem_cons_of_mem entry member)
    have here := passes (added ++ old) entry ⟨added, rfl, earlier⟩ (holds entry List.mem_cons_self)
    rw [List.cons_append, each, here, ih earlier]
    rfl

end Log
