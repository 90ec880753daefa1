import Mathlib.Data.List.Basic

/-!
# Slash-separated paths

The lexical operations of `path/filepath`.  An absolute path that has been cleaned is the
list of its parts.
-/

set_option autoImplicit false

namespace GoPath

def isAbs (path : String) : Bool := path.toList.head? == some '/'

def split (path : String) : List String := (path.toList.splitOn '/').map String.ofList

/-- A part that names an entry of its directory. -/
structure Normal (part : String) : Prop where
  nonempty : part ≠ ""
  notDot : part ≠ "."
  notDotDot : part ≠ ".."

/-- One step of `Clean`; the parts so far are kept in reverse. -/
def push (rooted : Bool) (stack : List String) (part : String) : List String :=
  if part = "" ∨ part = "." then stack
  else if part = ".." then
    match stack with
    | [] => if rooted then [] else [".."]
    | last :: front => if last = ".." then ".." :: stack else front
  else part :: stack

def cleanParts (rooted : Bool) (parts : List String) : List String :=
  (parts.foldl (push rooted) []).reverse

/-- The parts of `filepath.Clean`. -/
def clean (path : String) : List String := cleanParts (isAbs path) (split path)

/-- `filepath.Join` of an absolute clean path with more parts. -/
def join (dir parts : List String) : List String := cleanParts true (dir ++ parts)

/-- `filepath.Dir` of an absolute clean path. -/
def dir (path : List String) : List String := path.dropLast

def pathText (path : List String) : String := "/" ++ "/".intercalate path

/-- The parts of `path` below `base`. -/
def below (base path : List String) : Option (List String) :=
  if base.isPrefixOf path then some (path.drop base.length) else none

theorem push_normal {stack : List String} (normal : ∀ part ∈ stack, Normal part) (part : String) :
    ∀ kept ∈ push true stack part, Normal kept := by
  unfold push
  by_cases skipped : part = "" ∨ part = "."
  · rw [if_pos skipped]
    exact normal
  rw [if_neg skipped]
  by_cases up : part = ".."
  · rw [if_pos up]
    cases stack with
    | nil => simp
    | cons last front =>
      have notUp := (normal last List.mem_cons_self).notDotDot
      simp only [notUp, if_false]
      exact fun kept member => normal kept (List.mem_cons_of_mem _ member)
  · rw [if_neg up]
    intro kept member
    rcases List.mem_cons.mp member with rfl | earlier
    · exact ⟨fun empty => skipped (.inl empty), fun dot => skipped (.inr dot), up⟩
    · exact normal kept earlier

theorem foldl_push_normal (parts : List String) :
    ∀ {stack : List String}, (∀ part ∈ stack, Normal part) →
      ∀ kept ∈ parts.foldl (push true) stack, Normal kept := by
  induction parts with
  | nil => exact fun normal => normal
  | cons part rest ih => exact fun normal => ih (push_normal normal part)

theorem join_normal (dir parts : List String) : ∀ kept ∈ join dir parts, Normal kept := by
  intro kept member
  refine foldl_push_normal (dir ++ parts) (fun part never => ?_) kept (List.mem_reverse.mp member)
  cases never

theorem foldl_push_of_normal (rooted : Bool) {parts : List String}
    (normal : ∀ part ∈ parts, Normal part) :
    ∀ stack, parts.foldl (push rooted) stack = parts.reverse ++ stack := by
  induction parts with
  | nil => exact fun _ => rfl
  | cons part rest ih =>
    intro stack
    have first := normal part List.mem_cons_self
    have pushed : push rooted stack part = part :: stack := by
      simp [push, first.nonempty, first.notDot, first.notDotDot]
    rw [List.foldl_cons, pushed, ih fun later member => normal later (List.mem_cons_of_mem _ member)]
    simp

theorem join_of_normal {dir parts : List String} (normal : ∀ part ∈ dir ++ parts, Normal part) :
    join dir parts = dir ++ parts := by
  rw [join, cleanParts, foldl_push_of_normal true normal []]
  simp

theorem below_eq_some {base path rest : List String} :
    below base path = some rest ↔ path = base ++ rest := by
  unfold below
  constructor
  · intro found
    split at found
    next starts =>
      obtain ⟨more, rfl⟩ := List.isPrefixOf_iff_prefix.mp starts
      rw [List.drop_left] at found
      rw [Option.some.inj found]
    · cases found
  · rintro rfl
    rw [if_pos (List.isPrefixOf_iff_prefix.mpr (List.prefix_append ..)), List.drop_left]

end GoPath
