import Mathlib.Data.List.Basic
import SeiController.Lib.GoPath

/-!
# Directories, files and symbolic links

A tree says what is at each place, a place being the names on the way from the root.  A
path is followed through the links of the tree, at most so many of them.
-/

set_option autoImplicit false

namespace FileTree

open GoPath

inductive Node
  | dir
  | file (content : String)
  | link (target : String)
deriving DecidableEq

abbrev Tree := List String → Option Node

inductive Kind
  | dir
  | file
  | missing
deriving DecidableEq

/-- Where a path leads, and what is there once its last link was followed. -/
structure Found where
  place : List String
  kind : Kind
deriving DecidableEq

def linkBase (target : String) (here : List String) : List String :=
  if isAbs target then [] else here

/-- Follow the parts of a path from a directory; `follow` goes on behind a link. -/
def walkWith (tree : Tree) (follow : List String → List String → Option Found) :
    List String → List String → Option Found
  | here, [] => some ⟨here, .dir⟩
  | here, part :: rest =>
    if part = "" ∨ part = "." then walkWith tree follow here rest
    else if part = ".." then walkWith tree follow here.dropLast rest
    else
      match tree (here ++ [part]) with
      | some .dir => walkWith tree follow (here ++ [part]) rest
      | some (.file _) => if rest = [] then some ⟨here ++ [part], .file⟩ else none
      | some (.link target) => follow (linkBase target here) (split target ++ rest)
      | none => if rest = [] then some ⟨here ++ [part], .missing⟩ else none

def walk (tree : Tree) : Nat → List String → List String → Option Found
  | 0 => walkWith tree fun _ _ => none
  | limit + 1 => walkWith tree (walk tree limit)

inductive Walks (tree : Tree) : Nat → List String → List String → Found → Prop
  | done {limit : Nat} {here : List String} : Walks tree limit here [] ⟨here, .dir⟩
  | stay {limit : Nat} {here rest : List String} {part : String} {found : Found}
      (dot : part = "" ∨ part = ".") (later : Walks tree limit here rest found) :
      Walks tree limit here (part :: rest) found
  | up {limit : Nat} {here rest : List String} {found : Found}
      (later : Walks tree limit here.dropLast rest found) :
      Walks tree limit here (".." :: rest) found
  | enter {limit : Nat} {here rest : List String} {part : String} {found : Found}
      (normal : Normal part) (dir : tree (here ++ [part]) = some .dir)
      (later : Walks tree limit (here ++ [part]) rest found) :
      Walks tree limit here (part :: rest) found
  | file {limit : Nat} {here : List String} {part : String} {content : String}
      (normal : Normal part) (file : tree (here ++ [part]) = some (.file content)) :
      Walks tree limit here [part] ⟨here ++ [part], .file⟩
  | missing {limit : Nat} {here : List String} {part : String}
      (normal : Normal part) (missing : tree (here ++ [part]) = none) :
      Walks tree limit here [part] ⟨here ++ [part], .missing⟩
  | link {limit : Nat} {here rest : List String} {part target : String} {found : Found}
      (normal : Normal part) (link : tree (here ++ [part]) = some (.link target))
      (later : Walks tree limit (linkBase target here) (split target ++ rest) found) :
      Walks tree (limit + 1) here (part :: rest) found

variable {limit : Nat} {tree : Tree} {found : Found} {here parts rest root : List String}

theorem walks_of_walkWith {follow : List String → List String → Option Found}
    (followed : ∀ here parts found target part rest place,
      tree (place ++ [part]) = some (.link target) → Normal part → follow here parts = some found →
      here = linkBase target place → parts = split target ++ rest →
      Walks tree limit place (part :: rest) found)
    (parts : List String) :
    ∀ {here : List String} {found : Found}, walkWith tree follow here parts = some found →
      Walks tree limit here parts found := by
  induction parts with
  | nil =>
    intro here found walked
    cases walked
    exact .done
  | cons part rest ih =>
    intro here found walked
    unfold walkWith at walked
    by_cases dot : part = "" ∨ part = "."
    · rw [if_pos dot] at walked
      exact .stay dot (ih walked)
    rw [if_neg dot] at walked
    by_cases up : part = ".."
    · rw [if_pos up] at walked
      subst up
      exact .up (ih walked)
    rw [if_neg up] at walked
    have normal : Normal part := ⟨fun empty => dot (.inl empty), fun same => dot (.inr same), up⟩
    cases node : tree (here ++ [part]) with
    | none =>
      simp only [node] at walked
      by_cases last : rest = []
      · subst last
        cases walked
        exact .missing normal node
      · rw [if_neg last] at walked
        cases walked
    | some kind =>
      cases kind with
      | dir =>
        simp only [node] at walked
        exact .enter normal node (ih walked)
      | file content =>
        simp only [node] at walked
        by_cases last : rest = []
        · subst last
          cases walked
          exact .file normal node
        · rw [if_neg last] at walked
          cases walked
      | link target =>
        simp only [node] at walked
        exact followed _ _ found target part rest here node normal walked rfl rfl

theorem walks_of_walk :
    ∀ {here parts : List String} {found : Found}, walk tree limit here parts = some found →
      Walks tree limit here parts found := by
  induction limit with
  | zero =>
    intro here parts found walked
    refine walks_of_walkWith ?_ parts walked
    intro _ _ _ _ _ _ _ _ _ never
    cases never
  | succ limit ih =>
    intro here parts found walked
    refine walks_of_walkWith ?_ parts walked
    rintro here parts found target part rest place link normal later rfl rfl
    exact .link normal link (ih later)

theorem walk_of_walks (walks : Walks tree limit here parts found) :
    walk tree limit here parts = some found := by
  have same (limit : Nat) : ∃ follow, walk tree limit = walkWith tree follow := by
    cases limit with
    | zero => exact ⟨_, rfl⟩
    | succ limit => exact ⟨_, rfl⟩
  induction walks with
  | @done limit =>
    obtain ⟨follow, equal⟩ := same limit
    rw [equal]
    rfl
  | @stay limit _ _ _ _ dot _ ih =>
    obtain ⟨follow, equal⟩ := same limit
    rw [equal] at ih ⊢
    rw [walkWith, if_pos dot, ih]
  | @up limit _ _ _ _ ih =>
    obtain ⟨follow, equal⟩ := same limit
    rw [equal] at ih ⊢
    simpa [walkWith] using ih
  | @enter limit _ _ _ _ normal dir _ ih =>
    obtain ⟨follow, equal⟩ := same limit
    rw [equal] at ih ⊢
    simpa [walkWith, normal.nonempty, normal.notDot, normal.notDotDot, dir] using ih
  | @file limit _ _ _ normal file =>
    obtain ⟨follow, equal⟩ := same limit
    simp [equal, walkWith, normal.nonempty, normal.notDot, normal.notDotDot, file]
  | @missing limit _ _ normal missing =>
    obtain ⟨follow, equal⟩ := same limit
    simp [equal, walkWith, normal.nonempty, normal.notDot, normal.notDotDot, missing]
  | link normal link _ ih =>
    simpa [walk, walkWith, normal.nonempty, normal.notDot, normal.notDotDot, link] using ih

theorem walk_iff : walk tree limit here parts = some found ↔ Walks tree limit here parts found :=
  ⟨walks_of_walk, walk_of_walks⟩

theorem Walks.unique {other : Found} (walks : Walks tree limit here parts found)
    (walks' : Walks tree limit here parts other) : found = other :=
  Option.some.inj ((walk_of_walks walks).symm.trans (walk_of_walks walks'))

theorem Walks.split (walks : Walks tree limit here parts found) :
    ∀ {front back : List String}, parts = front ++ back → back ≠ [] →
      ∃ left place, Walks tree limit here front ⟨place, .dir⟩ ∧ Walks tree left place back found := by
  induction walks with
  | done =>
    intro front back same more
    exact absurd (List.append_eq_nil_iff.mp same.symm).2 more
  | stay dot later ih =>
    intro front back same more
    cases front with
    | nil =>
      obtain rfl : _ = back := same
      exact ⟨_, _, .done, .stay dot later⟩
    | cons part front =>
      obtain ⟨rfl, rfl⟩ := List.cons.inj same
      obtain ⟨left, place, first, second⟩ := ih rfl more
      exact ⟨left, place, .stay dot first, second⟩
  | up later ih =>
    intro front back same more
    cases front with
    | nil =>
      obtain rfl : _ = back := same
      exact ⟨_, _, .done, .up later⟩
    | cons part front =>
      obtain ⟨rfl, rfl⟩ := List.cons.inj same
      obtain ⟨left, place, first, second⟩ := ih rfl more
      exact ⟨left, place, .up first, second⟩
  | enter normal dir later ih =>
    intro front back same more
    cases front with
    | nil =>
      obtain rfl : _ = back := same
      exact ⟨_, _, .done, .enter normal dir later⟩
    | cons part front =>
      obtain ⟨rfl, rfl⟩ := List.cons.inj same
      obtain ⟨left, place, first, second⟩ := ih rfl more
      exact ⟨left, place, .enter normal dir first, second⟩
  | @file limit _ _ _ normal file =>
    intro front back same more
    cases front with
    | nil =>
      obtain rfl : _ = back := same
      exact ⟨limit, _, .done, .file normal file⟩
    | cons part front =>
      exact absurd (List.append_eq_nil_iff.mp (List.cons.inj same).2.symm).2 more
  | @missing limit _ _ normal missing =>
    intro front back same more
    cases front with
    | nil =>
      obtain rfl : _ = back := same
      exact ⟨limit, _, .done, .missing normal missing⟩
    | cons part front =>
      exact absurd (List.append_eq_nil_iff.mp (List.cons.inj same).2.symm).2 more
  | link normal link later ih =>
    intro front back same more
    cases front with
    | nil =>
      obtain rfl : _ = back := same
      exact ⟨_, _, .done, .link normal link later⟩
    | cons part front =>
      obtain ⟨rfl, rfl⟩ := List.cons.inj same
      obtain ⟨left, place, first, second⟩ := ih (List.append_assoc ..).symm more
      exact ⟨left, place, .link normal link first, second⟩

/-- A path to a directory can be prolonged by one that needs no more links. -/
theorem Walks.extend {front back : List String} {reached : Found}
    (walks : Walks tree limit here front reached) (dir : reached.kind = .dir)
    (later : ∀ left, Walks tree left reached.place back found) :
    Walks tree limit here (front ++ back) found := by
  induction walks with
  | done => exact later _
  | stay dot _ ih => exact .stay dot (ih dir later)
  | up _ ih => exact .up (ih dir later)
  | enter normal here _ ih => exact .enter normal here (ih dir later)
  | file | missing => cases dir
  | link normal here _ ih =>
    have behind := ih dir later
    rw [List.append_assoc] at behind
    exact .link normal here behind

theorem Walks.node (walks : Walks tree limit here parts found) :
    match found.kind with
    | .dir => True
    | .file => ∃ content, tree found.place = some (.file content)
    | .missing => tree found.place = none := by
  induction walks with
  | done => trivial
  | stay _ _ ih | up _ ih | enter _ _ _ ih | link _ _ _ ih => exact ih
  | file _ file => exact ⟨_, file⟩
  | missing _ missing => exact missing

/-! ## Trees that only grow -/

/-- No directory and no link of the tree is gone or has changed. -/
def Grows (tree after : Tree) : Prop :=
  ∀ place node, tree place = some node → (∀ content, node ≠ .file content) →
    after place = some node

theorem Grows.update {place : List String} {node : Node}
    (free : ∀ old, tree place = some old → ∃ content, old = .file content) :
    Grows tree (Function.update tree place (some node)) := by
  intro other old found keeps
  have apart : other ≠ place := by
    rintro rfl
    obtain ⟨content, file⟩ := free old found
    exact keeps content file
  rw [Function.update_of_ne apart, found]

theorem Walks.grows {tree after : Tree} (grows : Grows tree after) {limit : Nat}
    {here parts : List String} {found : Found} (walks : Walks tree limit here parts found)
    (dir : found.kind = .dir) : Walks after limit here parts found := by
  induction walks with
  | done => exact .done
  | stay dot _ ih => exact .stay dot (ih dir)
  | up _ ih => exact .up (ih dir)
  | enter normal here _ ih => exact .enter normal (grows _ _ here (by simp)) (ih dir)
  | file | missing => cases dir
  | link normal here _ ih => exact .link normal (grows _ _ here (by simp)) (ih dir)

/-! ## Trees whose links stay below a directory -/

/-- The parts go up at most `depth` times, and only before they name an entry. -/
def climbsAtMost : Nat → List String → Bool
  | _, [] => true
  | depth, part :: rest =>
    if part = "" ∨ part = "." then climbsAtMost depth rest
    else if part = ".." then
      match depth with
      | 0 => false
      | depth + 1 => climbsAtMost depth rest
    else decide (".." ∉ rest)

theorem climbsAtMost_stay {depth : Nat} {part : String} (dot : part = "" ∨ part = ".") :
    climbsAtMost depth (part :: rest) = climbsAtMost depth rest := by
  cases depth <;> exact if_pos dot

theorem climbsAtMost_up {depth : Nat} :
    climbsAtMost depth (".." :: rest) = true ↔
      ∃ left, depth = left + 1 ∧ climbsAtMost left rest = true := by
  cases depth with
  | zero => simp [climbsAtMost]
  | succ depth => simp [climbsAtMost]

theorem climbsAtMost_name {depth : Nat} {part : String} (normal : Normal part) :
    climbsAtMost depth (part :: rest) = true ↔ ".." ∉ rest := by
  cases depth <;> simp [climbsAtMost, normal.nonempty, normal.notDot, normal.notDotDot]

theorem climbsAtMost_of_noUp (noUp : ".." ∉ parts) (depth : Nat) :
    climbsAtMost depth parts = true := by
  induction parts with
  | nil => cases depth <;> rfl
  | cons part rest ih =>
    have later : ".." ∉ rest := fun up => noUp (List.mem_cons_of_mem _ up)
    have here : part ≠ ".." := fun same => noUp (same ▸ List.mem_cons_self)
    by_cases dot : part = "" ∨ part = "."
    · rw [climbsAtMost_stay dot]
      exact ih later
    · refine (climbsAtMost_name ⟨fun empty => dot (.inl empty), fun same => dot (.inr same), here⟩).mpr
        later

theorem climbsAtMost_append (noUp : ".." ∉ rest) :
    ∀ {depth : Nat}, climbsAtMost depth parts = true → climbsAtMost depth (parts ++ rest) = true := by
  induction parts with
  | nil => exact fun _ => climbsAtMost_of_noUp noUp _
  | cons part parts ih =>
    intro depth climbs
    rw [List.cons_append]
    by_cases dot : part = "" ∨ part = "."
    · rw [climbsAtMost_stay dot] at climbs ⊢
      exact ih climbs
    by_cases up : part = ".."
    · subst up
      obtain ⟨left, same, climbs⟩ := climbsAtMost_up.mp climbs
      exact climbsAtMost_up.mpr ⟨left, same, ih climbs⟩
    · have normal : Normal part :=
        ⟨fun empty => dot (.inl empty), fun same => dot (.inr same), up⟩
      refine (climbsAtMost_name normal).mpr fun member => ?_
      rcases List.mem_append.mp member with here | later
      · exact (climbsAtMost_name normal).mp climbs here
      · exact noUp later

/-- A link in the directory `front` does not lead out of the root. -/
structure StaysBelow (root front : List String) (target : String) : Prop where
  relative : isAbs target = false
  climbs : climbsAtMost (front.length - root.length) (GoPath.split target) = true

/-- No link below the root leads out of it. -/
def LinksBelow (tree : Tree) (root : List String) : Prop :=
  ∀ front name target, root <+: front → tree (front ++ [name]) = some (.link target) →
    StaysBelow root front target

theorem LinksBelow.update (links : LinksBelow tree root) (place : List String) {node : Node}
    (tame : ∀ front name target, place = front ++ [name] → node = .link target →
      StaysBelow root front target) :
    LinksBelow (Function.update tree place (some node)) root := by
  intro front name target inside link
  by_cases here : front ++ [name] = place
  · rw [here, Function.update_self] at link
    exact tame front name target here.symm (Option.some.inj link)
  · rw [Function.update_of_ne here] at link
    exact links front name target inside link

theorem Walks.stays (links : LinksBelow tree root) (walks : Walks tree limit here parts found) :
    root <+: here → climbsAtMost (here.length - root.length) parts = true →
      root <+: found.place := by
  induction walks with
  | done => exact fun inside _ => inside
  | stay dot _ ih =>
    intro inside climbs
    rw [climbsAtMost_stay dot] at climbs
    exact ih inside climbs
  | @up _ here rest _ _ ih =>
    intro inside climbs
    obtain ⟨left, depth, climbs⟩ := climbsAtMost_up.mp climbs
    have shorter : here.dropLast.length - root.length = left := by
      rw [List.length_dropLast]
      omega
    refine ih ?_ (shorter ▸ climbs)
    obtain ⟨more, rfl⟩ := inside
    have some_ : more ≠ [] := by
      rintro rfl
      simp at depth
    rw [List.dropLast_append_of_ne_nil some_]
    exact List.prefix_append ..
  | enter normal _ _ ih =>
    intro inside climbs
    have noUp := (climbsAtMost_name normal).mp climbs
    exact ih (inside.trans (List.prefix_append ..)) (climbsAtMost_of_noUp noUp _)
  | file | missing => exact fun inside _ => inside.trans (List.prefix_append ..)
  | @link _ here rest part target _ normal link _ ih =>
    intro inside climbs
    have noUp := (climbsAtMost_name normal).mp climbs
    have below := links here part target inside link
    have base : linkBase target here = here := by simp [linkBase, below.relative]
    rw [base] at ih
    exact ih inside (climbsAtMost_append noUp below.climbs)

/-- A path that starts with the root's and does not go up from there stays below it. -/
theorem Walks.stays_below {dest : List String} (links : LinksBelow tree root)
    (here : Walks tree limit [] dest ⟨root, .dir⟩) (normal : ∀ part ∈ rest, Normal part)
    (walks : Walks tree limit [] (dest ++ rest) found) : root <+: found.place := by
  have noUp : ".." ∉ rest := fun up => (normal _ up).notDotDot rfl
  by_cases empty : rest = []
  · subst empty
    rw [List.append_nil] at walks
    cases walks.unique here
    exact List.prefix_refl _
  · obtain ⟨left, place, first, second⟩ := walks.split rfl empty
    cases first.unique here
    exact second.stays links (List.prefix_refl _) (climbsAtMost_of_noUp noUp _)

/-- Where there are no links a path leads where it says, through directories. -/
theorem Walks.plain
    (noLinks : ∀ front name target, root <+: front → tree (front ++ [name]) ≠ some (.link target))
    (walks : Walks tree limit here parts found) :
    root <+: here → (∀ part ∈ parts, Normal part) →
      found.place = here ++ parts ∧
        (∀ front back, parts = front ++ back → front ≠ [] → back ≠ [] ∨ found.kind = .dir →
          tree (here ++ front) = some .dir) := by
  induction walks with
  | done =>
    intro _ _
    refine ⟨(List.append_nil _).symm, fun front back same nonempty _ => ?_⟩
    exact absurd (List.append_eq_nil_iff.mp same.symm).1 nonempty
  | stay dot _ _ =>
    intro _ normal
    have first := normal _ List.mem_cons_self
    exact absurd dot fun dot => dot.elim first.nonempty first.notDot
  | up _ _ => exact fun _ normal => absurd rfl (normal _ List.mem_cons_self).notDotDot
  | @enter _ here rest part _ _ dir _ ih =>
    intro inside normal
    obtain ⟨place, dirs⟩ := ih (inside.trans (List.prefix_append ..))
      fun later member => normal later (List.mem_cons_of_mem _ member)
    refine ⟨by simpa using place, fun front back same nonempty more => ?_⟩
    cases front with
    | nil => exact absurd rfl nonempty
    | cons first front =>
      obtain ⟨rfl, later⟩ := List.cons.inj same
      by_cases last : front = []
      · subst last
        exact dir
      · have below := dirs front back later last more
        simpa using below
  | file | missing =>
    intro _ _
    refine ⟨rfl, fun front back same nonempty more => ?_⟩
    cases front with
    | nil => exact absurd rfl nonempty
    | cons first front =>
      obtain ⟨-, nil⟩ := List.append_eq_nil_iff.mp (List.cons.inj same).2.symm
      rcases more with more | dir
      · exact absurd nil more
      · cases dir
  | @link _ here _ part target _ _ link _ _ =>
    exact fun inside _ => absurd link (noLinks here part target inside)

end FileTree
