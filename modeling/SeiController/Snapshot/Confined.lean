import SeiController.Snapshot.Extract

/-!
# Unpacking stays in the destination

The checks compare names, the disk follows links.  As long as no link leads up further than
the directory it is really made in lies below the destination, nothing outside is created
or written; a link that leaves the destination takes the later entries with it.
-/

set_option autoImplicit false

namespace SeiController

open FileTree GoPath

/-! ## Paths the extraction uses -/

def Under (dest path : List String) : Prop :=
  path <+: dest ∨ ∃ rest, (∀ part ∈ rest, Normal part) ∧ path = dest ++ rest

variable {path : List String}

theorem Under.dropLast {dest : List String} (under : Under dest path) :
    Under dest path.dropLast := by
  rcases under with before | ⟨rest, normal, rfl⟩
  · exact .inl ((List.dropLast_prefix path).trans before)
  · by_cases empty : rest = []
    · subst empty
      rw [List.append_nil]
      exact .inl (List.dropLast_prefix dest)
    · rw [List.dropLast_append_of_ne_nil empty]
      exact .inr ⟨rest.dropLast, fun part member => normal part (List.dropLast_subset rest member), rfl⟩

theorem under_of_isInsideDir {dest parts : List String}
    (inside : isInsideDir (join dest parts) dest = true) : Under dest (join dest parts) := by
  unfold isInsideDir at inside
  rcases Bool.or_eq_true_iff.mp inside with same | more
  · exact .inl ⟨[], (List.append_nil _).trans (beq_iff_eq.mp same)⟩
  · split at more
    next first rest found =>
      have equal := below_eq_some.mp found
      refine .inr ⟨first :: rest, fun part member => ?_, equal⟩
      refine join_normal dest parts part ?_
      rw [equal]
      exact List.mem_append_right _ member
    · cases more

section

variable {limit : Nat} {tree : Tree} {dest root : List String}

/-- A new entry can only be made below the destination. -/
theorem Under.entry_inside {place : List String} (under : Under dest path)
    (here : Walks tree limit [] dest ⟨root, .dir⟩) (links : LinksBelow tree root)
    (entry : IsEntry tree limit path place) (free : tree place = none) :
    ∃ front name, root <+: front ∧ place = front ++ [name] := by
  have taken : ¬ path <+: dest := fun before => entry.taken before here free
  obtain ⟨front, name, parent, rfl, normal, walks, rfl⟩ := entry
  refine ⟨parent, name, ?_, rfl⟩
  rcases under with before | ⟨rest, normalRest, equal⟩
  · exact absurd before taken
  · rcases List.eq_nil_or_concat rest with rfl | ⟨middle, last, rfl⟩
    · rw [List.append_nil] at equal
      exact absurd (equal ▸ List.prefix_refl _) taken
    · rw [List.concat_eq_append, ← List.append_assoc] at equal
      obtain ⟨rfl, -⟩ := List.append_inj' equal rfl
      refine Walks.stays_below links here (fun part member => ?_) walks
      exact normalRest part (by rw [List.concat_eq_append]; exact List.mem_append_left _ member)

/-- A file can only be opened below the destination. -/
theorem Under.file_inside {found : Found} (under : Under dest path)
    (here : Walks tree limit [] dest ⟨root, .dir⟩) (links : LinksBelow tree root)
    (walks : Walks tree limit [] path found) (notDir : found.kind ≠ .dir) :
    root <+: found.place := by
  rcases under with ⟨more, rfl⟩ | ⟨rest, normal, rfl⟩
  · exfalso
    by_cases empty : more = []
    · subst empty
      rw [List.append_nil] at here
      exact notDir (walks.unique here ▸ rfl)
    · obtain ⟨left, place, first, -⟩ := here.split rfl empty
      exact notDir (walks.unique first ▸ rfl)
  · exact Walks.stays_below links here normal walks

end

/-! ## The monitor -/

/-- The observer keeps the file that was opened last. -/
def extractMonitor (dest : List String) : Program.Monitor FsOp FsOp.Reply (Option (List String)) where
  may
    | _, .stat _ | _, .lstat _ => True
    | _, .mkdir path | _, .openTrunc path | _, .symlink _ path => Under dest path
    | opened, .write file _ => opened = some file
    | _, .readDir _ | _, .sync _ | _, .remove _ | _, .removeAll _ => False
  after
    | _, .openTrunc _, .ok file => some file
    | opened, _, _ => opened

section

variable {dest : List String}

theorem follows_mkdirOrFound (under : Under dest path) (opened : Option (List String)) :
    Program.Follows (extractMonitor dest) (fun _ _ => True) opened (mkdirOrFound path) := by
  refine Program.Follows.perform_bind under fun made => ?_
  cases made with
  | ok => trivial
  | error err =>
    refine Program.Follows.perform_bind trivial fun found => ?_
    cases found with
    | error _ => trivial
    | ok isDir => cases isDir <;> trivial

theorem follows_mkdirAllBack (back : List String) :
    Under dest back.reverse → ∀ opened : Option (List String),
      Program.Follows (extractMonitor dest) (fun _ _ => True) opened (mkdirAllBack back) := by
  induction back with
  | nil =>
    intro under opened
    refine Program.Follows.perform_bind trivial fun found => ?_
    split
    · trivial
    · trivial
    · exact follows_mkdirOrFound under _
  | cons name parents ih =>
    intro under opened
    refine Program.Follows.perform_bind trivial fun found => ?_
    split
    · trivial
    · trivial
    · by_cases first : parents = []
      · subst first
        exact follows_mkdirOrFound under _
      · rw [if_neg first]
        have parent : Under dest parents.reverse := by
          have shorter := under.dropLast
          rwa [List.reverse_cons, List.dropLast_concat] at shorter
        refine Program.Follows.bind (ih parent _) fun opened made _ => ?_
        cases made with
        | error err => trivial
        | ok => exact follows_mkdirOrFound under _

theorem follows_mkdirAll (under : Under dest path) (opened : Option (List String)) :
    Program.Follows (extractMonitor dest) (fun _ _ => True) opened (mkdirAll path) :=
  follows_mkdirAllBack path.reverse (by rwa [List.reverse_reverse]) opened

theorem follows_extractFile (under : Under dest path) (content : String)
    (opened : Option (List String)) :
    Program.Follows (extractMonitor dest) (fun _ _ => True) opened (extractFile content path) := by
  refine Program.Follows.bind (follows_mkdirAll under.dropLast opened) fun opened made _ => ?_
  cases made with
  | error err => trivial
  | ok =>
    refine Program.Follows.perform_bind under fun created => ?_
    cases created with
    | error err => trivial
    | ok file =>
      refine Program.Follows.perform_bind rfl fun written => ?_
      cases written with
      | error err => trivial
      | ok => trivial

theorem follows_extractEntry (isPrint : Char → Bool) (header : TarHeader)
    (opened : Option (List String)) :
    Program.Follows (extractMonitor dest) (fun _ _ => True) opened
      (extractEntry isPrint dest header) := by
  unfold extractEntry
  dsimp only
  split
  next inside =>
    have under := under_of_isInsideDir inside
    split
    · refine Program.Follows.bind (follows_mkdirAll under opened) fun opened made _ => ?_
      cases made with
      | error err => trivial
      | ok => trivial
    · exact follows_extractFile under _ opened
    · split
      · refine Program.Follows.perform_bind under fun made => ?_
        cases made with
        | error err => trivial
        | ok => trivial
      · trivial
    · trivial
  · trivial

theorem follows_extractTarStream (isPrint : Char → Bool) (headers : List TarHeader) :
    ∀ opened : Option (List String),
      Program.Follows (extractMonitor dest) (fun _ _ => True) opened
        (extractTarStream isPrint dest headers) := by
  induction headers with
  | nil => exact fun _ => trivial
  | cons header rest ih =>
    intro opened
    exact Program.Follows.bind (follows_extractEntry isPrint header opened) fun opened _ _ => ih opened

end

/-! ## The disk -/

/-- The destination is where it was, its links descend, and nothing outside was touched. -/
structure KeptInside (limit : Nat) (dest root : List String) (opened : Option (List String))
    (disk : Disk) : Prop where
  here : Walks disk.tree limit [] dest ⟨root, .dir⟩
  links : LinksBelow disk.tree root
  touched : ∀ place ∈ disk.touched, root <+: place
  opened : ∀ file, opened = some file → root <+: file

section

variable {limit : Nat} {dest root : List String} {opened : Option (List String)} {disk : Disk}

theorem KeptInside.update (kept : KeptInside limit dest root opened disk) {place : List String}
    {node : Node} (inside : root <+: place)
    (free : ∀ old, disk.tree place = some old → ∃ content, old = .file content)
    (tame : ∀ front name target, place = front ++ [name] → node = .link target →
      StaysBelow root front target) {after : Option (List String)}
    (open_ : ∀ file, after = some file → root <+: file) :
    KeptInside limit dest root after
      ⟨Function.update disk.tree place (some node), [place] ++ disk.touched⟩ where
  here := kept.here.grows (Grows.update free) rfl
  links := kept.links.update place tame
  touched := List.forall_mem_cons.mpr ⟨inside, kept.touched⟩
  opened := open_

/-- A link that is about to be made does not lead out of the root, from the directory it is
really made in. -/
def LinkFits (limit : Nat) (root : List String) (tree : Tree) (op : FsOp) : Prop :=
  ∀ target path front name, op = .symlink target path → IsEntry tree limit path (front ++ [name]) →
    StaysBelow root front target

def FittingCalls (limit : Nat) (root : List String) (disk : Disk) (op : FsOp) (reply : op.Reply)
    (after : Disk) : Prop :=
  disk.Answers limit op reply after ∧ LinkFits limit root disk.tree op

theorem KeptInside.answers (kept : KeptInside limit dest root opened disk) {op : FsOp}
    {reply : op.Reply} {after : Disk} (may : (extractMonitor dest).may opened op)
    (answers : FittingCalls limit root disk op reply after) :
    KeptInside limit dest root ((extractMonitor dest).after opened op reply) after := by
  obtain ⟨⟨touched, answered, log⟩, fits⟩ := answers
  obtain ⟨tree, log'⟩ := after
  obtain rfl : log' = touched ++ disk.touched := log
  dsimp only at answered
  cases answered with
  | failed message =>
    cases op with
    | _ => exact ⟨kept.here, kept.links, kept.touched, kept.opened⟩
  | stat | noStat | lstat => exact ⟨kept.here, kept.links, kept.touched, kept.opened⟩
  | readDir | noDir | sync | remove | noRemove | removeAll | removePartly => exact may.elim
  | @mkdir path place entry free =>
    obtain ⟨front, name, inside, rfl⟩ := Under.entry_inside may kept.here kept.links entry free
    refine kept.update (inside.trans (List.prefix_append ..)) ?_ (by simp) kept.opened
    simp [free]
  | @symlink target path place named entry free =>
    obtain ⟨front, name, inside, rfl⟩ := Under.entry_inside may kept.here kept.links entry free
    refine kept.update (inside.trans (List.prefix_append ..)) ?_ ?_ kept.opened
    · simp [free]
    · intro front' name' other same link
      cases link
      rw [same] at entry
      exact fits target path front' name' rfl entry
  | @openTrunc path found walks notDir =>
    have inside := Under.file_inside may kept.here kept.links walks notDir
    refine kept.update inside (fun old present => ?_) (by simp) ?_
    · have node := walks.node
      cases kind : found.kind with
      | dir => exact absurd kind notDir
      | file =>
        rw [kind] at node
        obtain ⟨content, file⟩ := node
        exact ⟨content, Option.some.inj (present.symm.trans file)⟩
      | missing =>
        rw [kind] at node
        cases present.symm.trans node
    · intro file same
      cases same
      exact inside
  | @write file content old present =>
    refine kept.update (kept.opened _ may) (fun node found => ?_) (by simp) kept.opened
    exact ⟨old, Option.some.inj (found.symm.trans present)⟩
  | @writePartly file content old written rest message present =>
    refine kept.update (kept.opened _ may) (fun node found => ?_) (by simp) kept.opened
    exact ⟨old, Option.some.inj (found.symm.trans present)⟩

/-- Whatever the archive holds and wherever the extraction stops: if every link it makes is
relative and goes up no further than its directory lies below the destination, everything
it has created, truncated or written lies in the destination. -/
theorem extraction_confined (isPrint : Char → Bool) {headers : List TarHeader} {start : Disk}
    (fresh : start.touched = []) (here : Walks start.tree limit [] dest ⟨root, .dir⟩)
    (noLinks : ∀ front name target, root <+: front →
      start.tree (front ++ [name]) ≠ some (.link target))
    {remaining : Fs Unit}
    (run : Program.Attains (FittingCalls limit root) (extractTarStream isPrint dest headers) start
      remaining disk) :
    ∀ place ∈ disk.touched, root <+: place := by
  have initial : KeptInside limit dest root none start := by
    refine ⟨here, fun front name target inside link => ?_, ?_, fun _ same => by cases same⟩
    · exact absurd link (noLinks front name target inside)
    · simp [fresh]
  obtain ⟨opened, -, kept⟩ := Program.Follows.attains
    (fun _ _ _ _ _ may kept answers => kept.answers may answers) run
    (follows_extractTarStream isPrint headers none) initial
  exact kept.touched

end

/-! ## Archives -/

def twoDirs : Tree := fun place => if place = ["d"] ∨ place = ["etc"] then some .dir else none

theorem twoDirs_noLinks (front : List String) (name target : String) :
    twoDirs (front ++ [name]) ≠ some (.link target) := by
  unfold twoDirs
  split
  · simp
  · simp

def linkHeader (linkname : String) : TarHeader := ⟨"l", .symlink, linkname, ""⟩

def throughLink : TarHeader := ⟨"l/hosts", .reg, "", "text"⟩

def linkedDirs (linkname : String) : Tree :=
  Function.update twoDirs ["d", "l"] (some (.link linkname))

theorem twoDirs_here : Walks twoDirs 40 [] ["d"] ⟨["d"], .dir⟩ := walk_iff.mp (by decide +kernel)

/-- The archive makes the link and then opens the file behind it; `extra` is any condition
the three calls meet. -/
theorem attains_throughLink {linkname : String} {place : List String} {extra : Tree → FsOp → Prop}
    (named : linkname ≠ "") (inside : isInsideDir (join ["d"] (split linkname)) ["d"] = true)
    (parent : Walks (linkedDirs linkname) 40 [] ["d", "l"] ⟨place, .dir⟩)
    (file : Walks (linkedDirs linkname) 40 [] ["d", "l", "hosts"] ⟨place ++ ["hosts"], .missing⟩)
    (link : extra twoDirs (.symlink linkname ["d", "l"]))
    (others : ∀ tree op, (∀ target path, op ≠ .symlink target path) → extra tree op) :
    ∃ (remaining : Fs Unit) (disk : Disk), place ++ ["hosts"] ∈ disk.touched ∧
      Program.Attains
        (fun disk op reply after => Disk.Answers 40 disk op reply after ∧ extra disk.tree op)
        (extractTarStream Char.isAlphanum ["d"] [linkHeader linkname, throughLink]) ⟨twoDirs, []⟩
        remaining disk := by
  have linkPath : join ["d"] (clean "l") = ["d", "l"] := by decide +kernel
  have linkInside : isInsideDir ["d", "l"] ["d"] = true := by decide +kernel
  have targetInside : isInsideDir (join (dir ["d", "l"]) (split linkname)) ["d"] = true := inside
  have filePath : join ["d"] (clean "l/hosts") = ["d", "l", "hosts"] := by decide +kernel
  have fileInside : isInsideDir ["d", "l", "hosts"] ["d"] = true := by decide +kernel
  simp only [extractTarStream, extractEntry, linkHeader, throughLink, linkPath, linkInside,
    targetInside, filePath, fileInside, if_true]
  let linked : Disk := ⟨linkedDirs linkname, [["d", "l"]]⟩
  let written : Disk := ⟨Function.update linked.tree (place ++ ["hosts"]) (some (.file "")),
    [place ++ ["hosts"], ["d", "l"]]⟩
  have entry : IsEntry twoDirs 40 ["d", "l"] ["d", "l"] :=
    ⟨["d"], "l", ["d"], rfl, ⟨by decide, by decide, by decide⟩, twoDirs_here, rfl⟩
  have first : Disk.Answers 40 ⟨twoDirs, []⟩ (.symlink linkname ["d", "l"]) (.ok ()) linked :=
    ⟨_, .symlink named entry rfl, rfl⟩
  have second : linked.Answers 40 (.stat ["d", "l"]) (.ok true) linked :=
    ⟨_, .stat parent (by simp), rfl⟩
  have third : linked.Answers 40 (.openTrunc ["d", "l", "hosts"]) (.ok (place ++ ["hosts"])) written :=
    ⟨_, .openTrunc file (by simp), rfl⟩
  exact ⟨_, written, List.mem_cons_self, .call ⟨first, link⟩ (.call ⟨second, others _ _ (by simp)⟩
    (.call ⟨third, others _ _ (by simp)⟩ (.here _ _)))⟩

/-- A link to an absolute directory looks as if it stayed inside, and the file behind it is
created there. -/
theorem absolute_link_escapes : ∃ (remaining : Fs Unit) (disk : Disk),
    (∀ front name target, twoDirs (front ++ [name]) ≠ some (.link target)) ∧
      Walks twoDirs 40 [] ["d"] ⟨["d"], .dir⟩ ∧
      Program.Attains (Disk.Answers 40)
        (extractTarStream Char.isAlphanum ["d"] [linkHeader "/etc", throughLink]) ⟨twoDirs, []⟩
        remaining disk ∧
      ["etc", "hosts"] ∈ disk.touched ∧ ¬ ["d"] <+: ["etc", "hosts"] := by
  have parent : Walks (linkedDirs "/etc") 40 [] ["d", "l"] ⟨["etc"], .dir⟩ :=
    walk_iff.mp (by decide +kernel)
  have file : Walks (linkedDirs "/etc") 40 [] ["d", "l", "hosts"] ⟨["etc", "hosts"], .missing⟩ :=
    walk_iff.mp (by decide +kernel)
  obtain ⟨remaining, disk, created, run⟩ := @attains_throughLink "/etc" ["etc"] (fun _ _ => True)
    (by decide) (by decide +kernel) parent file trivial fun _ _ _ => trivial
  have plain := run.mono fun _ _ _ _ answered => answered.1
  exact ⟨remaining, disk, twoDirs_noLinks, twoDirs_here, plain, created, by decide⟩

/-- The same archive with a link to the destination itself writes inside. -/
theorem extraction_confined_throughLink : ∃ disk : Disk, ["d", "hosts"] ∈ disk.touched ∧
    ∀ place ∈ disk.touched, ["d"] <+: place := by
  have parent : Walks (linkedDirs ".") 40 [] ["d", "l"] ⟨["d"], .dir⟩ :=
    walk_iff.mp (by decide +kernel)
  have file : Walks (linkedDirs ".") 40 [] ["d", "l", "hosts"] ⟨["d", "hosts"], .missing⟩ :=
    walk_iff.mp (by decide +kernel)
  have fits : LinkFits 40 ["d"] twoDirs (.symlink "." ["d", "l"]) := by
    intro target path front name same entry
    cases same
    have place := entry.place_eq (show Walks twoDirs 40 [] ["d"] ⟨["d"], .dir⟩ from twoDirs_here)
    obtain ⟨rfl, -⟩ := List.append_inj' place rfl
    exact ⟨by decide +kernel, by decide +kernel⟩
  have others (tree : Tree) (op : FsOp) (plain : ∀ target path, op ≠ .symlink target path) :
      LinkFits 40 ["d"] tree op := fun target path _ _ same => absurd same (plain target path)
  obtain ⟨remaining, disk, created, run⟩ := @attains_throughLink "." ["d"] (LinkFits 40 ["d"])
    (by decide) (by decide +kernel) parent file fits others
  refine ⟨disk, created, ?_⟩
  exact extraction_confined Char.isAlphanum rfl twoDirs_here
    (fun front name target _ => twoDirs_noLinks front name target) run

end SeiController
