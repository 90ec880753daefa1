import SeiController.Snapshot.Restore

/-!
# Unpacking over leftovers

What an extraction leaves wherever it is cut off comes from its archive, and an extraction
that goes through makes the snapshots directory the archive again.
-/

set_option autoImplicit false

namespace SeiController

open FileTree GoInt GoPath

/-! ## Archives -/

def TarHeader.path (header : TarHeader) : List String := clean header.name

def TarHeader.node (header : TarHeader) : Node :=
  if header.typeflag = .reg then .file header.content else .dir

/-- What the uploader puts into the archive of a height. -/
structure SnapshotArchive (height : Int) (headers : List TarHeader) : Prop where
  positive : 0 < height
  range : InRange height
  kinds : ∀ header ∈ headers, header.typeflag = .dir ∨ header.typeflag = .reg
  normal : ∀ header ∈ headers, ∀ part ∈ header.path, Normal part
  below : ∀ header ∈ headers, ∃ rest,
    header.path = formatInt height :: rest ∨ header.path = "metadata.db" :: rest
  distinct : (headers.map TarHeader.path).Nodup
  heightDir : ∃ header ∈ headers, header.path = [formatInt height] ∧ header.typeflag = .dir

/-- What the archive has at a path: an entry, or a directory on the way to one. -/
def Archived (headers : List TarHeader) (path : List String) (node : Node) : Prop :=
  (∃ header ∈ headers, header.path = path ∧ header.node = node) ∨
    node = .dir ∧ ∃ header ∈ headers, ∃ back, back ≠ [] ∧ header.path = path ++ back

/-- What an extraction that was cut off may have left at a path. -/
def Leftover (headers : List TarHeader) (path : List String) (node : Node) : Prop :=
  Archived headers path node ∨
    ∃ content, node = .file content ∧
      ∃ header ∈ headers, header.path = path ∧ header.typeflag = .reg

theorem Leftover.not_link {headers : List TarHeader} {path : List String} {target : String} :
    ¬ Leftover headers path (.link target) := by
  rintro ((⟨header, -, -, node⟩ | ⟨dir, -⟩) | ⟨content, file, -⟩)
  · unfold TarHeader.node at node
    split at node
    · cases node
    · cases node
  · cases dir
  · cases file

/-! ## Places -/

def heightPlace (root : List String) : List String := root ++ [snapshotHeightFile]

def donePlace (root : List String) : List String := root ++ [restoreMarkerFile]

/-- Not below the snapshots directory, and none of the two files beside it. -/
def OutsideSnapshots (root snap place : List String) : Prop :=
  ¬ (snap <+: place ∧ place ≠ snap) ∧ place ≠ heightPlace root ∧ place ≠ donePlace root

instance (root snap place : List String) : Decidable (OutsideSnapshots root snap place) :=
  inferInstanceAs (Decidable (_ ∧ _))

def outsideSnapshots (root snap : List String) (tree : Tree) : Tree := fun place =>
  if OutsideSnapshots root snap place then tree place else none

/-- What a restore may start from: an empty snapshots directory and no marker. -/
structure RestoreStart (limit : Nat) (home root snap : List String) (start : Tree) : Prop where
  normal : ∀ part ∈ home, Normal part
  toHome : Walks (outsideSnapshots root snap start) limit [] home ⟨root, .dir⟩
  toSnapshots : Walks (outsideSnapshots root snap start) limit [] (snapshotsPath home) ⟨snap, .dir⟩
  empty : ∀ more, more ≠ [] → start (snap ++ more) = none
  unmarked : start (donePlace root) = none
  height : start (heightPlace root) = none ∨ ∃ content, start (heightPlace root) = some (.file content)
  heightApart : ¬ snap <+: heightPlace root
  doneApart : ¬ snap <+: donePlace root

structure RestoreKept (root snap : List String) (headers : List TarHeader) (start tree : Tree) :
    Prop where
  outside : ∀ place, OutsideSnapshots root snap place → tree place = start place
  leftover : ∀ more node, more ≠ [] → tree (snap ++ more) = some node → Leftover headers more node
  height : tree (heightPlace root) = none ∨ ∃ content, tree (heightPlace root) = some (.file content)

variable {header : TarHeader} {s : Tree × Bool}

section

variable {limit : Nat} {home root snap : List String} {headers : List TarHeader} {start tree : Tree}

theorem heightPlace_ne_donePlace : heightPlace root ≠ donePlace root := by
  intro same
  have last := List.append_cancel_left (show root ++ _ = root ++ _ from same)
  simp [snapshotHeightFile, restoreMarkerFile] at last

theorem not_outsideSnapshots (more : List String) (some_ : more ≠ []) :
    ¬ OutsideSnapshots root snap (snap ++ more) := by
  intro outside
  refine outside.1 ⟨List.prefix_append .., fun same => some_ ?_⟩
  exact List.append_right_eq_self.mp same

namespace RestoreKept

theorem grows (kept : RestoreKept root snap headers start tree) :
    Grows (outsideSnapshots root snap start) tree := by
  intro place node found _
  unfold outsideSnapshots at found
  split at found
  next outside => rw [kept.outside place outside, found]
  · cases found

theorem walks_home (kept : RestoreKept root snap headers start tree)
    (begun : RestoreStart limit home root snap start) : Walks tree limit [] home ⟨root, .dir⟩ :=
  begun.toHome.grows kept.grows rfl

theorem walks_snapshots (kept : RestoreKept root snap headers start tree)
    (begun : RestoreStart limit home root snap start) :
    Walks tree limit [] (snapshotsPath home) ⟨snap, .dir⟩ :=
  begun.toSnapshots.grows kept.grows rfl

/-- Archives hold no links, so there are none to follow. -/
theorem noLinks (kept : RestoreKept root snap headers start tree) (front : List String)
    (name target : String) (inside : snap <+: front) :
    tree (front ++ [name]) ≠ some (.link target) := by
  intro link
  obtain ⟨more, rfl⟩ := inside
  rw [List.append_assoc] at link
  exact (kept.leftover _ _ (by simp) link).not_link

theorem walks_below (kept : RestoreKept root snap headers start tree)
    (begun : RestoreStart limit home root snap start) {rest : List String}
    (normal : ∀ part ∈ rest, Normal part) (some_ : rest ≠ []) {found : Found}
    (walks : Walks tree limit [] (snapshotsPath home ++ rest) found) :
    found.place = snap ++ rest ∧
      ∀ front back, rest = front ++ back → front ≠ [] → back ≠ [] ∨ found.kind = .dir →
        tree (snap ++ front) = some .dir := by
  obtain ⟨left, place, first, second⟩ := walks.split rfl some_
  cases first.unique (kept.walks_snapshots begun)
  exact second.plain kept.noLinks (List.prefix_refl _) normal

theorem entry_below (kept : RestoreKept root snap headers start tree)
    (begun : RestoreStart limit home root snap start) {rest place : List String}
    (normal : ∀ part ∈ rest, Normal part) (some_ : rest ≠ [])
    (entry : IsEntry tree limit (snapshotsPath home ++ rest) place) : place = snap ++ rest := by
  obtain ⟨front, name, parent, same, -, walks, rfl⟩ := entry
  rcases List.eq_nil_or_concat rest with rfl | ⟨middle, last, rfl⟩
  · exact absurd rfl some_
  rw [List.concat_eq_append] at same normal ⊢
  rw [← List.append_assoc] at same
  obtain ⟨rfl, names⟩ := List.append_inj' same rfl
  cases names
  rw [← List.append_assoc]
  congr 1
  by_cases first : middle = []
  · subst first
    rw [List.append_nil] at walks ⊢
    cases walks.unique (kept.walks_snapshots begun)
    rfl
  · have normal' (part : String) (member : part ∈ middle) := normal part (List.mem_append_left _ member)
    exact (kept.walks_below begun normal' first walks).1

/-- The archive's files change, nothing else does. -/
theorem update_below (kept : RestoreKept root snap headers start tree)
    (begun : RestoreStart limit home root snap start) {more : List String} (some_ : more ≠ [])
    {node : Node} (allowed : Leftover headers more node) :
    RestoreKept root snap headers start (Function.update tree (snap ++ more) (some node)) where
  outside place outside := by
    have other : place ≠ snap ++ more := by
      rintro rfl
      exact not_outsideSnapshots more some_ outside
    exact (Function.update_of_ne other ..).trans (kept.outside place outside)
  leftover more' node' some' found := by
    by_cases same : more' = more
    · subst same
      rw [Function.update_self] at found
      cases found
      exact allowed
    · rw [Function.update_of_ne fun equal => same (List.append_cancel_left equal)] at found
      exact kept.leftover more' node' some' found
  height := by
    have other : heightPlace root ≠ snap ++ more := fun same =>
      begun.heightApart (same ▸ List.prefix_append ..)
    rw [Function.update_of_ne other]
    exact kept.height

theorem update_beside (kept : RestoreKept root snap headers start tree) {place : List String}
    (beside : ¬ snap <+: place) (file : place = heightPlace root ∨ place = donePlace root)
    (content : String) :
    RestoreKept root snap headers start (Function.update tree place (some (.file content))) where
  outside other outside := by
    have apart : other ≠ place := by
      rintro rfl
      exact file.elim outside.2.1 outside.2.2
    exact (Function.update_of_ne apart ..).trans (kept.outside other outside)
  leftover more node some_ found := by
    have apart : snap ++ more ≠ place := by
      rintro rfl
      exact beside (List.prefix_append ..)
    rw [Function.update_of_ne apart] at found
    exact kept.leftover more node some_ found
  height := by
    by_cases here : heightPlace root = place
    · rw [here, Function.update_self]
      exact .inr ⟨content, rfl⟩
    · rw [Function.update_of_ne here]
      exact kept.height

end RestoreKept

/-! ## Unpacking -/

structure Unpacked (snap : List String) (tree : Tree) (header : TarHeader) : Prop where
  parents : ∀ front back, header.path = front ++ back → front ≠ [] → back ≠ [] →
    tree (snap ++ front) = some .dir
  here : tree (snap ++ header.path) = some header.node

/-- What is unpacked stays when a node is put where no directory is, unless it is the
entry's own. -/
theorem Unpacked.update (unpacked : Unpacked snap tree header) {place : List String} {node : Node}
    (notDir : tree place ≠ some .dir) (other : place ≠ snap ++ header.path) :
    Unpacked snap (Function.update tree place (some node)) header where
  parents front back same nonempty more := by
    have dir := unpacked.parents front back same nonempty more
    have apart : snap ++ front ≠ place := by
      rintro rfl
      exact notDir dir
    exact (Function.update_of_ne apart ..).trans dir
  here := (Function.update_of_ne other.symm ..).trans unpacked.here

/-- While the archive is unpacked: the marker is not there, the height has been noted unless
that has failed, and the entries done so far are there. -/
structure Unpacking (root snap : List String) (height : Int) (headers : List TarHeader) (start : Tree)
    (finished : List TarHeader) (s : Tree × Bool) : Prop where
  kept : RestoreKept root snap headers start s.1
  unmarked : s.1 (donePlace root) = none
  noted : s.2 = false → s.1 (heightPlace root) = some (.file (formatInt height))
  unpacked : ∀ header ∈ finished, Unpacked snap s.1 header

variable {height : Int} {finished : List TarHeader}

theorem Unpacking.update_below (now : Unpacking root snap height headers start finished s)
    (begun : RestoreStart limit home root snap start) {more : List String} (some_ : more ≠ [])
    {node : Node} (allowed : Leftover headers more node) (notDir : s.1 (snap ++ more) ≠ some .dir)
    (other : ∀ header ∈ finished, more ≠ header.path) :
    Unpacking root snap height headers start finished
      (Function.update s.1 (snap ++ more) (some node), s.2) where
  kept := now.kept.update_below begun some_ allowed
  unmarked := by
    have apart : donePlace root ≠ snap ++ more := fun same =>
      begun.doneApart (same ▸ List.prefix_append ..)
    exact (Function.update_of_ne apart ..).trans now.unmarked
  noted recorded := by
    have apart : heightPlace root ≠ snap ++ more := fun same =>
      begun.heightApart (same ▸ List.prefix_append ..)
    exact (Function.update_of_ne apart ..).trans (now.noted recorded)
  unpacked header member := (now.unpacked header member).update notDir fun same =>
    other header member (List.append_cancel_left same)

/-- The calls of a run, with an eye on the height file. -/
def observeLost (home root : List String) (lost : Bool) : (op : FsOp) → op.Reply → Bool
  | .openTrunc path, .error _ => lost || path == home ++ [snapshotHeightFile]
  | .write file _, .error _ => lost || file == heightPlace root
  | _, _ => lost

theorem observeLost_unnoted (home root : List String) : Unnoted (observeLost home root) where
  stat _ _ _ := rfl
  lstat _ _ _ := rfl
  mkdir _ _ _ := rfl

theorem madeKeeps_unpacking (begun : RestoreStart limit home root snap start) {rest : List String}
    (normal : ∀ part ∈ rest, Normal part)
    (dirs : ∀ front, front ≠ [] → front <+: rest → Archived headers front .dir) :
    MadeKeeps limit (Unpacking root snap height headers start finished) (snapshotsPath home ++ rest) := by
  intro tree lost path place now before entry free
  have taken : ¬ path <+: snapshotsPath home := fun within =>
    entry.taken within (now.kept.walks_snapshots begun) free
  obtain ⟨tail, same⟩ := before
  rcases List.append_eq_append_iff.mp same with ⟨more, within, -⟩ | ⟨front, rfl, rfl⟩
  · exact absurd ⟨more, within.symm⟩ taken
  have some_ : front ≠ [] := by
    rintro rfl
    rw [List.append_nil] at taken
    exact taken (List.prefix_refl _)
  have normal' (part : String) (member : part ∈ front) := normal part (List.mem_append_left _ member)
  obtain rfl := now.kept.entry_below begun normal' some_ entry
  refine now.update_below begun some_ (.inl (dirs front some_ (List.prefix_append ..))) ?_ ?_
  · simp [free]
  · rintro header member rfl
    cases free.symm.trans (now.unpacked header member).here

abbrev RestoreCalls (limit : Nat) (home root : List String) := Observed limit (observeLost home root)

theorem Unpacking.forget (now : Unpacking root snap height headers start finished s) :
    Unpacking root snap height headers start [] s :=
  ⟨now.kept, now.unmarked, now.noted, fun _ member => by cases member⟩

/-- The height counts as lost after a failure, whatever has failed. -/
theorem Unpacking.lose {lost : Bool}
    (now : Unpacking root snap height headers start finished (tree, lost)) (also : Bool) :
    Unpacking root snap height headers start finished (tree, lost || also) :=
  ⟨now.kept, now.unmarked, fun recorded => now.noted (Bool.or_eq_false_iff.mp recorded).1, now.unpacked⟩

theorem archived_parent (member : header ∈ headers) {front back : List String} (more : back ≠ [])
    (same : header.path = front ++ back) : Archived headers front .dir :=
  .inr ⟨rfl, header, member, back, more, same⟩

theorem notDir_of_walks {found : Found} {path : List String} (walks : Walks tree limit [] path found)
    (notDir : found.kind ≠ .dir) : tree found.place ≠ some .dir := by
  have node := walks.node
  intro dir
  cases kind : found.kind with
  | dir => exact notDir kind
  | file =>
    rw [kind] at node
    obtain ⟨content, file⟩ := node
    cases dir.symm.trans file
  | missing =>
    rw [kind] at node
    cases dir.symm.trans node

theorem writeEntry_withstands (begun : RestoreStart limit home root snap start)
    (member : header ∈ headers) (reg : header.typeflag = .reg) (nonempty : header.path ≠ [])
    (fresh : ∀ done ∈ finished, header.path ≠ done.path)
    (now : Unpacking root snap height headers start finished s)
    (parents : ∀ front back, header.path = front ++ back → front ≠ [] → back ≠ [] →
      s.1 (snap ++ front) = some .dir)
    (opened : s.1 (snap ++ header.path) = some (.file "")) (message : String) :
    Program.Withstands (RestoreCalls limit home root) (Unpacking root snap height headers start [])
      (fun _ => Unpacking root snap height headers start (finished ++ [header]))
      (do
        match ← Fs.write (snap ++ header.path) header.content with
        | .error err => .fail (message ++ err.message)
        | .ok () => pure ()) s := by
  have notDir : s.1 (snap ++ header.path) ≠ some .dir := by simp [opened]
  refine Observed.call now.forget fun reply tree _ answered lost notes => ?_
  cases answered with
  | failed =>
    obtain rfl : lost = _ := notes
    exact .fail (now.lose _).forget
  | @writePartly _ _ old written _ _ _ _ =>
    obtain rfl : lost = _ := notes
    have allowed : Leftover headers header.path (.file (old ++ written)) :=
      .inr ⟨_, rfl, header, member, rfl, reg⟩
    exact .fail ((now.update_below begun nonempty allowed notDir fresh).lose _).forget
  | @write _ _ old opened' =>
    obtain rfl : lost = s.2 := notes
    cases opened.symm.trans opened'
    rw [String.empty_append]
    have node : header.node = .file header.content := if_pos reg
    have allowed : Leftover headers header.path (.file header.content) :=
      .inl (.inl ⟨header, member, rfl, node⟩)
    have after := now.update_below begun nonempty allowed notDir fresh
    refine .done after.forget ⟨after.kept, after.unmarked, after.noted, fun done earlier => ?_⟩
    rcases List.mem_append.mp earlier with earlier | last
    · exact after.unpacked done earlier
    · rw [List.mem_singleton.mp last]
      refine ⟨fun front back same some_ more => ?_, ?_⟩
      · have dir := parents front back same some_ more
        have apart : snap ++ front ≠ snap ++ header.path := by
          intro equal
          rw [equal] at dir
          exact notDir dir
        exact (Function.update_of_ne apart ..).trans dir
      · rw [node]
        exact Function.update_self ..

theorem extractFile_withstands (begun : RestoreStart limit home root snap start)
    (member : header ∈ headers) (reg : header.typeflag = .reg) (nonempty : header.path ≠ [])
    (normal : ∀ part ∈ header.path, Normal part)
    (fresh : ∀ done ∈ finished, header.path ≠ done.path)
    (now : Unpacking root snap height headers start finished s) :
    Program.Withstands (RestoreCalls limit home root) (Unpacking root snap height headers start [])
      (fun _ => Unpacking root snap height headers start (finished ++ [header]))
      (extractFile header.content (snapshotsPath home ++ header.path)) s := by
  have parent : dir (snapshotsPath home ++ header.path) = snapshotsPath home ++ header.path.dropLast :=
    List.dropLast_append_of_ne_nil nonempty
  have keeps : MadeKeeps limit (Unpacking root snap height headers start finished)
      (dir (snapshotsPath home ++ header.path)) := by
    rw [parent]
    refine madeKeeps_unpacking begun (fun part inside => ?_) fun front _ before => ?_
    · exact normal part (List.dropLast_subset _ inside)
    · obtain ⟨back, same⟩ := before
      have whole := List.dropLast_append_getLast nonempty
      rw [← same, List.append_assoc] at whole
      exact archived_parent member (by simp) whole.symm
  have made := (mkdirAll_withstands (observeLost_unnoted home root) keeps now).mono
    (fun _ now => now.forget) fun _ _ post => post
  refine Program.Withstands.bind made fun done t post => ?_
  obtain ⟨now, -⟩ := post
  cases done with
  | error err => exact .fail now.forget
  | ok =>
    refine Observed.call now.forget fun reply tree _ answered lost notes => ?_
    cases answered with
    | failed =>
      obtain rfl : lost = _ := notes
      exact .fail (now.lose _).forget
    | @openTrunc _ found walks notDir =>
      obtain rfl : lost = t.2 := notes
      obtain ⟨place, parents⟩ := now.kept.walks_below begun normal nonempty walks
      have free := notDir_of_walks walks notDir
      rw [place] at free ⊢
      have allowed : Leftover headers header.path (.file "") :=
        .inr ⟨_, rfl, header, member, rfl, reg⟩
      refine writeEntry_withstands begun member reg nonempty fresh
        (now.update_below begun nonempty allowed free fresh) ?_ (Function.update_self ..) _
      intro front back same some_ more
      have dirNow := parents front back same some_ (.inl more)
      have apart : snap ++ front ≠ snap ++ header.path := by
        intro equal
        rw [equal] at dirNow
        exact free dirNow
      exact (Function.update_of_ne apart ..).trans dirNow

theorem extractDir_withstands (begun : RestoreStart limit home root snap start)
    (member : header ∈ headers) (isDir : header.typeflag = .dir) (nonempty : header.path ≠ [])
    (normal : ∀ part ∈ header.path, Normal part)
    (now : Unpacking root snap height headers start finished s) (message : String) :
    Program.Withstands (RestoreCalls limit home root) (Unpacking root snap height headers start [])
      (fun _ => Unpacking root snap height headers start (finished ++ [header]))
      (do
        match ← mkdirAll (snapshotsPath home ++ header.path) with
        | .error err => .fail (message ++ err.message)
        | .ok () => pure ()) s := by
  have node : header.node = .dir := if_neg (by simp [isDir])
  have keeps : MadeKeeps limit (Unpacking root snap height headers start finished)
      (snapshotsPath home ++ header.path) := by
    refine madeKeeps_unpacking begun normal fun front _ before => ?_
    obtain ⟨back, same⟩ := before
    by_cases whole : back = []
    · subst whole
      rw [List.append_nil] at same
      exact .inl ⟨header, member, same.symm, node⟩
    · exact archived_parent member whole same.symm
  have made := (mkdirAll_withstands (observeLost_unnoted home root) keeps now).mono
    (fun _ now => now.forget) fun _ _ post => post
  refine Program.Withstands.bind made fun done t post => ?_
  obtain ⟨now, dirs⟩ := post
  cases done with
  | error err => exact .fail now.forget
  | ok =>
    obtain ⟨place, walks⟩ := dirs rfl
    obtain ⟨-, parents⟩ := now.kept.walks_below begun normal nonempty walks
    refine .done now.forget ⟨now.kept, now.unmarked, now.noted, fun done earlier => ?_⟩
    rcases List.mem_append.mp earlier with earlier | last
    · exact now.unpacked done earlier
    · rw [List.mem_singleton.mp last]
      refine ⟨fun front back same some_ more => parents front back same some_ (.inl more), ?_⟩
      rw [node]
      exact parents header.path [] (List.append_nil _).symm nonempty (.inr rfl)

theorem extractEntry_withstands (isPrint : Char → Bool)
    (begun : RestoreStart limit home root snap start) (archive : SnapshotArchive height headers)
    (member : header ∈ headers) (fresh : ∀ done ∈ finished, header.path ≠ done.path)
    (now : Unpacking root snap height headers start finished s) :
    Program.Withstands (RestoreCalls limit home root) (Unpacking root snap height headers start [])
      (fun _ => Unpacking root snap height headers start (finished ++ [header]))
      (extractEntry isPrint (snapshotsPath home) header) s := by
  have normal := archive.normal header member
  have nonempty : header.path ≠ [] := by
    obtain ⟨rest, here | here⟩ := archive.below header member
    · simp [here]
    · simp [here]
  have target : join (snapshotsPath home) (clean header.name) = snapshotsPath home ++ header.path := by
    refine join_of_normal fun part inside => ?_
    rcases List.mem_append.mp inside with path | inside
    · rcases List.mem_append.mp path with home | fixed
      · exact begun.normal part home
      · rcases List.mem_cons.mp fixed with rfl | last
        · exact ⟨by decide, by decide, by decide⟩
        · rw [List.mem_singleton.mp last]
          exact ⟨by decide, by decide, by decide⟩
    · exact normal part inside
  unfold extractEntry
  rw [target]
  dsimp only
  split
  · rcases archive.kinds header member with isDir | reg
    · rw [isDir]
      exact extractDir_withstands begun member isDir nonempty normal now _
    · rw [reg]
      exact extractFile_withstands begun member reg nonempty normal fresh now
  · exact .fail now.forget

theorem extractTarStream_withstands (isPrint : Char → Bool)
    (begun : RestoreStart limit home root snap start) (archive : SnapshotArchive height headers)
    (rest : List TarHeader) :
    ∀ {finished : List TarHeader} {s : Tree × Bool}, headers = finished ++ rest →
      Unpacking root snap height headers start finished s →
      Program.Withstands (RestoreCalls limit home root) (Unpacking root snap height headers start [])
        (fun _ => Unpacking root snap height headers start headers)
        (extractTarStream isPrint (snapshotsPath home) rest) s := by
  induction rest with
  | nil =>
    intro finished s whole now
    rw [List.append_nil] at whole
    exact .done now.forget (whole ▸ now)
  | cons header rest ih =>
    intro finished s whole now
    have member : header ∈ headers := by
      rw [whole]
      exact List.mem_append_right _ List.mem_cons_self
    have distinct := archive.distinct
    rw [whole, List.map_append, List.map_cons] at distinct
    have fresh : ∀ done ∈ finished, header.path ≠ done.path := by
      intro done earlier same
      refine (List.nodup_append.mp distinct).2.2 _ (List.mem_map_of_mem earlier) _
        List.mem_cons_self same.symm
    refine Program.Withstands.bind (extractEntry_withstands isPrint begun archive member fresh now)
      fun _ t after => ?_
    exact ih (by rw [whole, List.append_assoc]; rfl) after

end

end SeiController
