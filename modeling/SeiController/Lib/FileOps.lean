import SeiController.Lib.FileTree
import SeiController.Lib.Program

/-!
# Programs that change files

The calls of package `os` on absolute clean paths.  Every call may fail without effect,
and those that take more than one step may also fail after some of them.
-/

set_option autoImplicit false

namespace FileTree

open GoPath

inductive FsError
  | notExist
  | other (message : String)

def FsError.message : FsError → String
  | notExist => "no such file or directory"
  | other message => message

/-- What `os.ReadDir` reports of an entry. -/
structure DirEntry where
  name : String
  isDir : Bool
deriving DecidableEq

inductive FsOp
  | stat (path : List String)
  | lstat (path : List String)
  | readDir (path : List String)
  | mkdir (path : List String)
  | symlink (target : String) (path : List String)
  /-- Open for writing, with `O_CREATE` and `O_TRUNC`; the result is the file itself. -/
  | openTrunc (path : List String)
  | write (file : List String) (content : String)
  | sync (file : List String)
  | remove (path : List String)
  | removeAll (path : List String)

def FsOp.Result : FsOp → Type
  | stat _ | lstat _ => Bool
  | readDir _ => List DirEntry
  | openTrunc _ => List String
  | mkdir _ | symlink _ _ | write _ _ | sync _ | remove _ | removeAll _ => Unit

def FsOp.Reply (op : FsOp) : Type := Except FsError op.Result

abbrev Fs (α : Type) := Program FsOp FsOp.Reply String α

namespace Fs

def stat (path : List String) : Fs (Except FsError Bool) := Program.perform (FsOp.stat path)

def lstat (path : List String) : Fs (Except FsError Bool) := Program.perform (FsOp.lstat path)

def readDir (path : List String) : Fs (Except FsError (List DirEntry)) :=
  Program.perform (FsOp.readDir path)

def mkdir (path : List String) : Fs (Except FsError Unit) := Program.perform (FsOp.mkdir path)

def symlink (target : String) (path : List String) : Fs (Except FsError Unit) :=
  Program.perform (FsOp.symlink target path)

def openTrunc (path : List String) : Fs (Except FsError (List String)) :=
  Program.perform (FsOp.openTrunc path)

def write (file : List String) (content : String) : Fs (Except FsError Unit) :=
  Program.perform (FsOp.write file content)

def sync (file : List String) : Fs (Except FsError Unit) := Program.perform (FsOp.sync file)

def remove (path : List String) : Fs (Except FsError Unit) := Program.perform (FsOp.remove path)

def removeAll (path : List String) : Fs (Except FsError Unit) :=
  Program.perform (FsOp.removeAll path)

end Fs

/-- The place of the entry a path names, its last part not followed. -/
def IsEntry (tree : Tree) (limit : Nat) (path place : List String) : Prop :=
  ∃ front name parent, path = front ++ [name] ∧ Normal name ∧
    Walks tree limit [] front ⟨parent, .dir⟩ ∧ place = parent ++ [name]

theorem IsEntry.taken {tree : Tree} {limit : Nat} {path place dest : List String} {root : List String}
    (entry : IsEntry tree limit path place) (before : path <+: dest)
    (here : Walks tree limit [] dest ⟨root, .dir⟩) : tree place ≠ none := by
  obtain ⟨front, name, parent, rfl, normal, walks, rfl⟩ := entry
  obtain ⟨more, rfl⟩ := before
  intro free
  obtain ⟨left, between, first, second⟩ :=
    here.split (show front ++ [name] ++ more = front ++ (name :: more) by simp) (by simp)
  cases first.unique walks
  cases second with
  | stay dot => exact dot.elim normal.nonempty normal.notDot
  | up => exact normal.notDotDot rfl
  | enter _ dir => rw [free] at dir; cases dir
  | link _ link => rw [free] at link; cases link

theorem IsEntry.place_eq {tree : Tree} {limit : Nat} {front place root : List String} {name : String}
    (entry : IsEntry tree limit (front ++ [name]) place)
    (here : Walks tree limit [] front ⟨root, .dir⟩) : place = root ++ [name] := by
  obtain ⟨front', name', parent, same, -, walks, rfl⟩ := entry
  obtain ⟨rfl, last⟩ := List.append_inj' same rfl
  cases last
  cases walks.unique here
  rfl

theorem IsEntry.walks {tree : Tree} {limit : Nat} {path place : List String}
    (entry : IsEntry tree limit path place) (dir : tree place = some .dir) :
    Walks tree limit [] path ⟨place, .dir⟩ := by
  obtain ⟨front, name, parent, rfl, normal, walks, rfl⟩ := entry
  exact walks.extend rfl fun _ => .enter normal dir .done

def Listed (tree : Tree) (place : List String) (entries : List DirEntry) : Prop :=
  ∀ entry, entry ∈ entries ↔ ∃ node, tree (place ++ [entry.name]) = some node ∧
    entry.isDir = (node == .dir)

/-- Some of what is at the place or below it has been removed. -/
def Pruned (tree : Tree) (place : List String) (after : Tree) : Prop :=
  ∀ other, after other = tree other ∨ place <+: other ∧ after other = none

/-- The answers a call can get, what it makes of the tree, and the places it creates,
truncates or writes. -/
inductive Answered (limit : Nat) (tree : Tree) :
    (op : FsOp) → op.Reply → Tree → List (List String) → Prop
  | failed (op : FsOp) (message : String) :
      Answered limit tree op (Except.error (.other message)) tree []
  | stat {path : List String} {found : Found} (walks : Walks tree limit [] path found)
      (present : found.kind ≠ .missing) :
      Answered limit tree (.stat path) (Except.ok (found.kind == .dir)) tree []
  | noStat {path : List String}
      (absent : ∀ found, Walks tree limit [] path found → found.kind = .missing) :
      Answered limit tree (.stat path) (Except.error .notExist) tree []
  | lstat {path place : List String} {node : Node} (entry : IsEntry tree limit path place)
      (present : tree place = some node) :
      Answered limit tree (.lstat path) (Except.ok (node == .dir)) tree []
  | readDir {path place : List String} {entries : List DirEntry}
      (walks : Walks tree limit [] path ⟨place, .dir⟩) (listed : Listed tree place entries) :
      Answered limit tree (.readDir path) (Except.ok entries) tree []
  | noDir {path : List String}
      (absent : ∀ found, Walks tree limit [] path found → found.kind = .missing) :
      Answered limit tree (.readDir path) (Except.error .notExist) tree []
  | mkdir {path place : List String} (entry : IsEntry tree limit path place)
      (free : tree place = none) :
      Answered limit tree (.mkdir path) (Except.ok ())
        (Function.update tree place (some .dir)) [place]
  | symlink {target : String} {path place : List String} (named : target ≠ "")
      (entry : IsEntry tree limit path place) (free : tree place = none) :
      Answered limit tree (.symlink target path) (Except.ok ())
        (Function.update tree place (some (.link target))) [place]
  | openTrunc {path : List String} {found : Found} (walks : Walks tree limit [] path found)
      (notDir : found.kind ≠ .dir) :
      Answered limit tree (.openTrunc path) (Except.ok found.place)
        (Function.update tree found.place (some (.file ""))) [found.place]
  | write {file : List String} {content old : String} (opened : tree file = some (.file old)) :
      Answered limit tree (.write file content) (Except.ok ())
        (Function.update tree file (some (.file (old ++ content)))) [file]
  | writePartly {file : List String} {content old written rest : String} (message : String)
      (opened : tree file = some (.file old)) (part : content = written ++ rest) :
      Answered limit tree (.write file content) (Except.error (.other message))
        (Function.update tree file (some (.file (old ++ written)))) [file]
  | sync (file : List String) : Answered limit tree (.sync file) (Except.ok ()) tree []
  | remove {path place : List String} {node : Node} (entry : IsEntry tree limit path place)
      (present : tree place = some node) (empty : ∀ name, tree (place ++ [name]) = none) :
      Answered limit tree (.remove path) (Except.ok ()) (Function.update tree place none) []
  | noRemove {path place : List String} (entry : IsEntry tree limit path place)
      (absent : tree place = none) :
      Answered limit tree (.remove path) (Except.error .notExist) tree []
  | removeAll {path place : List String} {after : Tree} (entry : IsEntry tree limit path place)
      (pruned : Pruned tree place after) (gone : ∀ other, place <+: other → after other = none) :
      Answered limit tree (.removeAll path) (Except.ok ()) after []
  | removePartly {path place : List String} {after : Tree} (message : String)
      (entry : IsEntry tree limit path place) (pruned : Pruned tree place after) :
      Answered limit tree (.removeAll path) (Except.error (.other message)) after []

/-- A tree with the places that were created, truncated or written so far. -/
structure Disk where
  tree : Tree
  touched : List (List String)

def Disk.Answers (limit : Nat) (disk : Disk) (op : FsOp) (reply : op.Reply) (after : Disk) : Prop :=
  ∃ touched, Answered limit disk.tree op reply after.tree touched ∧
    after.touched = touched ++ disk.touched

/-- The calls with an observer's notes of them. -/
def Observed {τ : Type} (limit : Nat) (observe : τ → (op : FsOp) → op.Reply → τ) (s : Tree × τ)
    (op : FsOp) (reply : op.Reply) (t : Tree × τ) : Prop :=
  (∃ touched, Answered limit s.1 op reply t.1 touched) ∧ t.2 = observe s.2 op reply

/-! ## What a stop leaves

A `sync` changes nothing that a later call sees: it changes what a stop can lose. -/

/-- The files that were opened for writing and not yet synced. -/
def observeUnsynced (unsynced : List (List String)) : (op : FsOp) → op.Reply → List (List String)
  | .openTrunc _, .ok file => file :: unsynced
  | .sync file, .ok _ => unsynced.filter (· ≠ file)
  | _, _ => unsynced

/-- Of a file that was not synced any beginning may be left. -/
def Left (tree : Tree) (unsynced : List (List String)) (after : Tree) : Prop :=
  ∀ place, after place = tree place ∨ place ∈ unsynced ∧ ∃ kept lost,
    tree place = some (.file (kept ++ lost)) ∧ after place = some (.file kept)

theorem Left.refl (tree : Tree) (unsynced : List (List String)) : Left tree unsynced tree :=
  fun _ => .inl rfl

theorem Left.eq_of_synced {tree after : Tree} (left : Left tree [] after) : after = tree :=
  funext fun place => (left place).resolve_right fun lost => List.not_mem_nil lost.1

/-- A program that starts with a call: what is left to show, for each answer. -/
theorem Observed.call {τ ε β : Type} {limit : Nat} {observe : τ → (op : FsOp) → op.Reply → τ}
    {always : Tree × τ → Prop} {after : β → Tree × τ → Prop} {s : Tree × τ} {op : FsOp}
    {rest : op.Reply → Program FsOp FsOp.Reply ε β} (here : always s)
    (later : ∀ reply tree touched, Answered limit s.1 op reply tree touched →
      ∀ notes, notes = observe s.2 op reply →
        Program.Withstands (Observed limit observe) always after (rest reply) (tree, notes)) :
    Program.Withstands (Observed limit observe) always after (Program.perform op >>= rest) s := by
  refine Program.Withstands.perform_bind here fun reply t answered => ?_
  obtain ⟨⟨touched, answered⟩, noted⟩ := answered
  exact later reply t.1 touched answered t.2 noted

/-! ## `os.MkdirAll` -/

/-- Make the directory itself; it is fine when it turns out to be there. -/
def mkdirOrFound (path : List String) : Fs (Except FsError Unit) := do
  match ← Fs.mkdir path with
  | .ok () => pure (.ok ())
  | .error err =>
    match ← Fs.lstat path with
    | .ok true => pure (.ok ())
    | _ => pure (.error err)

/-- `os.MkdirAll` of the path whose parts are given from the last to the first. -/
def mkdirAllBack : List String → Fs (Except FsError Unit)
  | [] => do
      match ← Fs.stat [] with
      | .ok true => pure (.ok ())
      | .ok false => pure (.error (.other "not a directory"))
      | .error _ => mkdirOrFound []
  | name :: parents => do
      match ← Fs.stat (name :: parents).reverse with
      | .ok true => pure (.ok ())
      | .ok false => pure (.error (.other "not a directory"))
      | .error _ =>
        if parents = [] then mkdirOrFound [name]
        else
          match ← mkdirAllBack parents with
          | .error err => pure (.error err)
          | .ok () => mkdirOrFound (name :: parents).reverse

def mkdirAll (path : List String) : Fs (Except FsError Unit) := mkdirAllBack path.reverse

section

variable {τ : Type} {limit : Nat} {observe : τ → (op : FsOp) → op.Reply → τ}
  {always : Tree × τ → Prop}

/-- The observer takes no notes of the calls of `os.MkdirAll`. -/
structure Unnoted (observe : τ → (op : FsOp) → op.Reply → τ) : Prop where
  stat : ∀ notes path reply, observe notes (.stat path) reply = notes
  lstat : ∀ notes path reply, observe notes (.lstat path) reply = notes
  mkdir : ∀ notes path reply, observe notes (.mkdir path) reply = notes

/-- The property survives the making of a directory on the way to the path. -/
def MadeKeeps (limit : Nat) (always : Tree × τ → Prop) (path : List String) : Prop :=
  ∀ tree notes front place, always (tree, notes) → front <+: path →
    IsEntry tree limit front place → tree place = none →
    always (Function.update tree place (some .dir), notes)

/-- What a successful `os.MkdirAll` has seen or made. -/
def Made (limit : Nat) (always : Tree × τ → Prop) (path : List String)
    (made : Except FsError Unit) (s : Tree × τ) : Prop :=
  always s ∧ (made = .ok () → ∃ place, Walks s.1 limit [] path ⟨place, .dir⟩)

theorem mkdirOrFound_withstands (unnoted : Unnoted observe) {path whole : List String}
    (before : path <+: whole) (kept : MadeKeeps limit always whole) {s : Tree × τ}
    (here : always s) :
    Program.Withstands (Observed limit observe) always (Made limit always path)
      (mkdirOrFound path) s := by
  refine Observed.call here fun made tree _ answered notes' notes => ?_
  obtain rfl : notes' = s.2 := notes.trans (unnoted.mkdir _ _ _)
  cases answered with
  | @mkdir _ place entry free =>
    have after := kept _ _ _ _ here before entry free
    refine Program.Withstands.done after ⟨after, fun _ => ⟨place, ?_⟩⟩
    have grows : Grows s.1 (Function.update s.1 place (some .dir)) :=
      Grows.update fun old present => by rw [free] at present; cases present
    obtain ⟨front, name, parent, rfl, normal, walks, rfl⟩ := entry
    have entry' : IsEntry (Function.update s.1 (parent ++ [name]) (some .dir)) limit
        (front ++ [name]) (parent ++ [name]) :=
      ⟨front, name, parent, rfl, normal, walks.grows grows rfl, rfl⟩
    exact entry'.walks (Function.update_self ..)
  | failed =>
    refine Observed.call here fun found tree _ answered notes' notes => ?_
    obtain rfl : notes' = s.2 := notes.trans (unnoted.lstat _ _ _)
    cases answered with
    | failed => exact Program.Withstands.done here ⟨here, fun same => by cases same⟩
    | @lstat _ place node entry present =>
      by_cases dir : node = .dir
      · subst dir
        exact Program.Withstands.done here ⟨here, fun _ => ⟨place, entry.walks present⟩⟩
      · have other : (node == Node.dir) = false := beq_eq_false_iff_ne.mpr dir
        rw [other]
        exact Program.Withstands.done here ⟨here, fun same => by cases same⟩

theorem Observed.stat (unnoted : Unnoted observe) {s t : Tree × τ} {path : List String}
    {reply : Except FsError Bool} (answered : Observed limit observe s (.stat path) reply t) :
    t = s ∧ (reply = .ok true → ∃ place, Walks s.1 limit [] path ⟨place, .dir⟩) := by
  obtain ⟨⟨touched, answered⟩, notes⟩ := answered
  obtain ⟨tree, notes'⟩ := t
  obtain rfl : notes' = s.2 := notes.trans (unnoted.stat _ _ _)
  cases answered with
  | failed | noStat => exact ⟨rfl, fun same => by cases same⟩
  | @stat _ found walks present =>
    refine ⟨rfl, fun same => ⟨found.place, ?_⟩⟩
    have kind : found.kind = .dir := beq_iff_eq.mp (Except.ok.inj same)
    obtain ⟨place, kind'⟩ := found
    cases kind
    exact walks

theorem mkdirAllBack_withstands (unnoted : Unnoted observe) {whole : List String}
    (kept : MadeKeeps limit always whole) (back : List String) :
    back.reverse <+: whole → ∀ {s : Tree × τ}, always s →
      Program.Withstands (Observed limit observe) always (Made limit always back.reverse)
        (mkdirAllBack back) s := by
  induction back with
  | nil =>
    intro before s here
    refine Program.Withstands.perform_bind here fun found t answered => ?_
    obtain ⟨rfl, seen⟩ := Observed.stat unnoted answered
    split
    · exact Program.Withstands.done here ⟨here, fun _ => seen rfl⟩
    · exact Program.Withstands.done here ⟨here, fun same => by cases same⟩
    · exact mkdirOrFound_withstands unnoted before kept here
  | cons name parents ih =>
    intro before s here
    refine Program.Withstands.perform_bind here fun found t answered => ?_
    obtain ⟨rfl, seen⟩ := Observed.stat unnoted answered
    split
    · exact Program.Withstands.done here ⟨here, fun _ => seen rfl⟩
    · exact Program.Withstands.done here ⟨here, fun same => by cases same⟩
    · by_cases first : parents = []
      · subst first
        exact mkdirOrFound_withstands unnoted before kept here
      · rw [if_neg first]
        have shorter : parents.reverse <+: whole := by
          refine List.IsPrefix.trans ?_ before
          rw [List.reverse_cons]
          exact List.prefix_append ..
        refine Program.Withstands.bind (ih shorter here) fun made t after => ?_
        cases made with
        | error err => exact Program.Withstands.done after.1 ⟨after.1, fun same => by cases same⟩
        | ok => exact mkdirOrFound_withstands unnoted before kept after.1

theorem mkdirAll_withstands (unnoted : Unnoted observe) {path : List String}
    (kept : MadeKeeps limit always path) {s : Tree × τ} (here : always s) :
    Program.Withstands (Observed limit observe) always (Made limit always path) (mkdirAll path) s := by
  have spec := mkdirAllBack_withstands unnoted kept path.reverse
    ⟨[], by simp⟩ here
  rwa [List.reverse_reverse] at spec

end

end FileTree
