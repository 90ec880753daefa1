import SeiController.Snapshot.Unpacking

/-!
# Restores that are cut off

A restore that is started again unpacks over what the last one has left.  When both unpack
the same archive, the marker stands beside exactly the files of that archive; when a newer
archive has come up in between, the files of both are mixed.
-/

set_option autoImplicit false

namespace SeiController

open FileTree GoInt GoPath

variable {s : Tree × Bool} {height : Int}

section

variable {limit : Nat} {home root snap : List String} {headers finished : List TarHeader}
 {start tree : Tree}

/-! ## The run -/

/-- The snapshots directory is the archive, and the height has been noted unless that has
failed. -/
structure Restored (root snap : List String) (height : Int) (headers : List TarHeader)
    (s : Tree × Bool) : Prop where
  files : ∀ more node, more ≠ [] → (s.1 (snap ++ more) = some node ↔ Archived headers more node)
  noted : s.2 = false → s.1 (heightPlace root) = some (.file (formatInt height))

/-- What holds at every step: the marker stands only beside a restored snapshot. -/
structure RestoreInv (root snap : List String) (height : Int) (headers : List TarHeader)
    (start : Tree) (s : Tree × Bool) : Prop where
  kept : RestoreKept root snap headers start s.1
  marked : s.1 (donePlace root) = none ∨
    s.1 (donePlace root) = some (.file "") ∧ Restored root snap height headers s

theorem Unpacking.inv (now : Unpacking root snap height headers start finished s) :
    RestoreInv root snap height headers start s := ⟨now.kept, .inl now.unmarked⟩

/-- Once every entry is unpacked, nothing else is left. -/
theorem Unpacking.files (now : Unpacking root snap height headers start headers s)
    {more : List String} {node : Node} (some_ : more ≠ []) :
    s.1 (snap ++ more) = some node ↔ Archived headers more node := by
  constructor
  · intro found
    rcases now.kept.leftover more node some_ found with archived | ⟨content, -, header, member, rfl, -⟩
    · exact archived
    · refine .inl ⟨header, member, rfl, ?_⟩
      exact Option.some.inj ((now.unpacked header member).here.symm.trans found)
  · rintro (⟨header, member, rfl, rfl⟩ | ⟨rfl, header, member, back, rest, same⟩)
    · exact (now.unpacked header member).here
    · exact (now.unpacked header member).parents more back same some_ rest

/-- A path of a file beside the snapshots directory that is missing or a regular file. -/
theorem RestoreKept.walks_beside (kept : RestoreKept root snap headers start tree)
    (begun : RestoreStart limit home root snap start) {name : String} (normal : Normal name)
    (regular : tree (root ++ [name]) = none ∨ ∃ content, tree (root ++ [name]) = some (.file content))
    {found : Found} (walks : Walks tree limit [] (home ++ [name]) found) :
    found.place = root ++ [name] := by
  have here := kept.walks_home begun
  rcases regular with absent | ⟨content, present⟩
  · have missing := here.extend rfl fun left => @Walks.missing tree left root name normal absent
    rw [walks.unique missing]
  · have file := here.extend rfl fun left => @Walks.file tree left root name content normal present
    rw [walks.unique file]

theorem normal_heightFile : Normal snapshotHeightFile := ⟨by decide, by decide, by decide⟩

theorem normal_markerFile : Normal restoreMarkerFile := ⟨by decide, by decide, by decide⟩

theorem RestoreKept.setHeight (kept : RestoreKept root snap headers start tree)
    (begun : RestoreStart limit home root snap start) (unmarked : tree (donePlace root) = none)
    (content : String) :
    RestoreKept root snap headers start
        (Function.update tree (heightPlace root) (some (.file content))) ∧
      Function.update tree (heightPlace root) (some (.file content)) (donePlace root) = none :=
  ⟨kept.update_beside begun.heightApart (.inl rfl) content,
    (Function.update_of_ne heightPlace_ne_donePlace.symm ..).trans unmarked⟩

theorem recordHeight_withstands (begun : RestoreStart limit home root snap start)
    (archive : SnapshotArchive height headers) (kept : RestoreKept root snap headers start s.1)
    (unmarked : s.1 (donePlace root) = none) :
    Program.Withstands (RestoreCalls limit home root) (RestoreInv root snap height headers start)
      (fun _ => Unpacking root snap height headers start []) (recordHeight home height) s := by
  unfold recordHeight
  rw [if_pos archive.positive]
  have now (tree : Tree) (kept : RestoreKept root snap headers start tree)
      (unmarked : tree (donePlace root) = none) (lost : Bool)
      (noted : lost = false → tree (heightPlace root) = some (.file (formatInt height))) :
      Unpacking root snap height headers start [] (tree, lost) :=
    ⟨kept, unmarked, noted, fun _ member => by cases member⟩
  have inv : RestoreInv root snap height headers start s := ⟨kept, .inl unmarked⟩
  refine Program.Withstands.bind (Q := fun _ => Unpacking root snap height headers start []) ?_
    fun _ t after => .done after.inv after
  refine Observed.call inv fun reply tree _ answered lost notes => ?_
  cases answered with
  | failed =>
    obtain rfl : lost = true := by simpa [observeLost] using notes
    have after := now s.1 kept unmarked true fun never => by cases never
    exact .done after.inv after
  | @openTrunc _ found walks _ =>
    rw [kept.walks_beside begun normal_heightFile kept.height walks]
    obtain rfl : lost = s.2 := notes
    obtain ⟨opened, unmarked⟩ := kept.setHeight begun unmarked ""
    refine Program.Withstands.call ⟨opened, .inl unmarked⟩ fun reply u answered => ?_
    obtain ⟨⟨touched, answered⟩, notes⟩ := answered
    obtain ⟨tree', lost'⟩ := u
    dsimp only at answered
    cases answered with
    | failed =>
      obtain rfl : lost' = true := by simpa [observeLost, heightPlace] using notes
      have after := now _ opened unmarked true fun never => by cases never
      exact .done after.inv after
    | @writePartly _ _ old written _ message _ _ =>
      obtain rfl : lost' = true := by simpa [observeLost, heightPlace] using notes
      obtain ⟨written, unmarked⟩ := opened.setHeight begun unmarked (old ++ written)
      have after := now _ written unmarked true fun never => by cases never
      exact .done after.inv after
    | @write _ _ old present =>
      obtain rfl : lost' = s.2 := notes
      obtain rfl : old = "" := by
        have same := (Function.update_self ..).symm.trans present
        cases same
        rfl
      rw [String.empty_append]
      obtain ⟨written, unmarked⟩ := opened.setHeight begun unmarked (formatInt height)
      have after := now _ written unmarked s.2 fun _ => Function.update_self ..
      exact .done after.inv after

theorem writeMarker_withstands (begun : RestoreStart limit home root snap start)
    (now : Unpacking root snap height headers start headers s) :
    Program.Withstands (RestoreCalls limit home root) (RestoreInv root snap height headers start)
      (fun _ _ => True) (SnapshotRestorer.writeMarker home restoreMarkerFile) s := by
  refine Observed.call now.inv fun reply tree _ answered lost notes => ?_
  cases answered with
  | failed =>
    obtain rfl : lost = _ := notes
    exact .fail (now.lose _).inv
  | @openTrunc _ found walks _ =>
    rw [now.kept.walks_beside begun normal_markerFile (.inl now.unmarked) walks]
    obtain rfl : lost = s.2 := notes
    refine .done ⟨now.kept.update_beside begun.doneApart (.inr rfl) "", .inr ⟨Function.update_self ..,
      fun more node some_ => ?_, fun recorded => ?_⟩⟩ trivial
    · have apart : snap ++ more ≠ donePlace root := fun same =>
        begun.doneApart (same ▸ List.prefix_append ..)
      have same : Function.update s.1 (donePlace root) (some (.file "")) (snap ++ more)
          = s.1 (snap ++ more) := Function.update_of_ne apart ..
      show Function.update s.1 (donePlace root) (some (.file "")) (snap ++ more) = some node ↔ _
      rw [same]
      exact now.files some_
    · exact (Function.update_of_ne heightPlace_ne_donePlace ..).trans (now.noted recorded)

/-- The run downloads this archive, or none. -/
def RestoreEnv.Fetches (bucket chainID : String) (height : Int) (headers : List TarHeader)
    (target : Int) (env : RestoreEnv) : Prop :=
  ∀ key got, resolveKeyForHeight bucket chainID target env.pages = .ok key →
    env.download key = .ok got → key = archiveKey chainID height ∧ got = headers

theorem restoreUnmarked_withstands (isPrint : Char → Bool) {bucket chainID : String}
    (begun : RestoreStart limit home root snap start) (archive : SnapshotArchive height headers)
    {target : Int} {env : RestoreEnv} (fetches : env.Fetches bucket chainID height headers target)
    (kept : RestoreKept root snap headers start s.1) (unmarked : s.1 (donePlace root) = none) :
    Program.Withstands (RestoreCalls limit home root) (RestoreInv root snap height headers start)
      (fun _ _ => True) (restoreUnmarked isPrint home bucket chainID target env) s := by
  have inv : RestoreInv root snap height headers start s := ⟨kept, .inl unmarked⟩
  unfold restoreUnmarked
  split
  · exact .fail inv
  refine Program.Withstands.ofExcept_bind inv fun _ _ => ?_
  refine Program.Withstands.ofExcept_bind inv fun key resolved => ?_
  split
  · exact .fail inv
  refine Program.Withstands.ofExcept_bind inv fun _ _ => ?_
  refine Program.Withstands.ofExcept_bind inv fun got downloaded => ?_
  obtain ⟨rfl, rfl⟩ := fetches key got resolved downloaded
  rw [parseHeightFromKey_archiveKey chainID (le_of_lt archive.positive) archive.range]
  refine Program.Withstands.bind (recordHeight_withstands begun archive kept unmarked) fun _ t now => ?_
  have unpacks := (extractTarStream_withstands isPrint begun archive got rfl now).mono
    (fun _ now => now.inv) fun _ _ post => post
  exact Program.Withstands.bind unpacks.mapError fun _ t now => writeMarker_withstands begun now

/-- A marker that is there is found. -/
def MarkerSeen (home root : List String) (tree : Tree) : (op : FsOp) → op.Reply → Prop
  | .stat path, .error _ => path = home ++ [restoreMarkerFile] → tree (donePlace root) = none
  | _, _ => True

def SeeingCalls (limit : Nat) (home root : List String) (s : Tree × Bool) (op : FsOp)
    (reply : op.Reply) (t : Tree × Bool) : Prop :=
  RestoreCalls limit home root s op reply t ∧ MarkerSeen home root s.1 op reply

theorem restore_withstands (isPrint : Char → Bool) {bucket chainID : String}
    (begun : RestoreStart limit home root snap start) (archive : SnapshotArchive height headers)
    {target : Int} {env : RestoreEnv} (fetches : env.Fetches bucket chainID height headers target)
    (inv : RestoreInv root snap height headers start s) :
    Program.Withstands (SeeingCalls limit home root) (RestoreInv root snap height headers start)
      (fun _ _ => True) (restore isPrint home bucket chainID target env) s := by
  refine Program.Withstands.perform_bind inv fun reply t answered => ?_
  obtain ⟨called, seen⟩ := answered
  obtain ⟨rfl, -⟩ := Observed.stat (observeLost_unnoted home root) called
  cases reply with
  | ok isDir => exact .done inv trivial
  | error err =>
    have unmarked : t.1 (donePlace root) = none := seen rfl
    refine Program.Withstands.restrict ?_ fun _ _ _ _ answered => answered.1
    exact restoreUnmarked_withstands isPrint begun archive fetches inv.kept unmarked

end

/-! ## Runs -/

/-- Any number of runs, each from what the last one left and cut off at any of its calls.
The note that the height was lost stays with the run that has written the marker. -/
inductive RestoreRuns (isPrint : Char → Bool) (home root : List String) (bucket chainID : String)
    (calls : Tree × Bool → (op : FsOp) → op.Reply → Tree × Bool → Prop)
    (fetches : Int → RestoreEnv → Prop) (start : Tree) : Tree × Bool → Prop
  | fresh : RestoreRuns isPrint home root bucket chainID calls fetches start (start, false)
  | run {s t : Tree × Bool} {remaining : Fs Unit}
      (before : RestoreRuns isPrint home root bucket chainID calls fetches start s) (target : Int)
      (env : RestoreEnv) (fetched : fetches target env)
      (attains : Program.Attains calls (restore isPrint home bucket chainID target env)
        (s.1, if s.1 (donePlace root) = none then false else s.2) remaining t) :
      RestoreRuns isPrint home root bucket chainID calls fetches start t

section

variable {limit : Nat} {home root snap : List String} {headers : List TarHeader} {start tree : Tree}

theorem RestoreStart.inv (begun : RestoreStart limit home root snap start) :
    RestoreInv root snap height headers start (start, false) where
  kept :=
    { outside := fun _ _ => rfl
      leftover := fun more node some_ found => by
        cases (begun.empty more some_).symm.trans found
      height := begun.height }
  marked := .inl begun.unmarked

theorem RestoreRuns.inv {isPrint : Char → Bool} {bucket chainID : String}
    (begun : RestoreStart limit home root snap start) (archive : SnapshotArchive height headers)
    (runs : RestoreRuns isPrint home root bucket chainID (SeeingCalls limit home root)
      (RestoreEnv.Fetches bucket chainID height headers) start s) :
    RestoreInv root snap height headers start s := by
  induction runs with
  | fresh => exact begun.inv
  | @run s t remaining before target env fetched attains ih =>
    have first : RestoreInv root snap height headers start
        (s.1, if s.1 (donePlace root) = none then false else s.2) := by
      by_cases unmarked : s.1 (donePlace root) = none
      · exact ⟨ih.kept, .inl unmarked⟩
      · rw [if_neg unmarked]
        exact ih
    exact (restore_withstands isPrint begun archive fetched first).always _ _ attains

theorem foldl_highest_le {heights : List Int} :
    (∀ found ∈ heights, found = height) → ∀ {highest : Int}, highest ≤ height →
      heights.foldl (fun highest found => if highest < found then found else highest) highest
        = if heights = [] then highest else height := by
  induction heights with
  | nil => exact fun _ _ _ => rfl
  | cons first rest ih =>
    intro only highest below
    obtain rfl := only first List.mem_cons_self
    have next : (if highest < first then first else highest) = first := by
      split
      · rfl
      · omega
    rw [List.foldl_cons, next, ih (fun found member => only found (List.mem_cons_of_mem _ member))
      (le_refl _)]
    simp

/-- The one numeric directory of an archive is that of its height. -/
theorem localSnapshotHeight_archive (archive : SnapshotArchive height headers)
    (restored : Restored root snap height headers s) {entries : List DirEntry}
    (listed : Listed s.1 snap entries) : localSnapshotHeight entries = height := by
  have only : ∀ found ∈ snapshotHeights entries, found = height := by
    intro found member
    obtain ⟨entry, inside, parsed⟩ := List.mem_filterMap.mp member
    obtain ⟨node, present, -⟩ := (listed entry).mp inside
    have archived := (restored.files [entry.name] node (by simp)).mp present
    have named : entry.name = formatInt height ∨ entry.name = "metadata.db" := by
      rcases archived with ⟨header, inside, path, -⟩ | ⟨-, header, inside, back, -, path⟩
      · obtain ⟨rest, here | here⟩ := archive.below header inside
        · exact .inl (List.cons.inj (path.symm.trans here)).1
        · exact .inr (List.cons.inj (path.symm.trans here)).1
      · obtain ⟨rest, here | here⟩ := archive.below header inside
        · exact .inl (List.cons.inj (path.symm.trans here)).1
        · exact .inr (List.cons.inj (path.symm.trans here)).1
    unfold dirHeight at parsed
    split at parsed
    · rcases named with name | name
      · rw [name, parseInt_formatInt archive.range] at parsed
        exact (Option.some.inj parsed).symm
      · have none : parseInt "metadata.db" = none := by decide +kernel
        rw [name, none] at parsed
        cases parsed
    · cases parsed
  have present : height ∈ snapshotHeights entries := by
    obtain ⟨header, inside, path, isDir⟩ := archive.heightDir
    have node : header.node = .dir := if_neg (by simp [isDir])
    have found := (restored.files [formatInt height] .dir (by simp)).mpr
      (.inl ⟨header, inside, path, node⟩)
    refine List.mem_filterMap.mpr ⟨⟨formatInt height, true⟩, (listed _).mpr ⟨.dir, found, rfl⟩, ?_⟩
    exact (if_pos rfl).trans (parseInt_formatInt archive.range)
  have some_ : snapshotHeights entries ≠ [] := List.ne_nil_of_mem present
  rw [localSnapshotHeight, foldl_highest_le only (le_of_lt archive.positive), if_neg some_]

/-- After any runs that have downloaded one archive, if any, and have found the marker where
it was: beside the marker stand exactly the files of that archive, the height file names
its height unless the run that wrote the marker has failed to write it, and the height of
the local snapshot is the archive's. -/
theorem restore_crash_consistent {isPrint : Char → Bool} {bucket chainID : String}
    (begun : RestoreStart limit home root snap start) (archive : SnapshotArchive height headers)
    {lost : Bool}
    (runs : RestoreRuns isPrint home root bucket chainID (SeeingCalls limit home root)
      (RestoreEnv.Fetches bucket chainID height headers) start (tree, lost))
    (marked : tree (donePlace root) ≠ none) :
    (∀ more node, more ≠ [] → (tree (snap ++ more) = some node ↔ Archived headers more node)) ∧
      (lost = false → tree (heightPlace root) = some (.file (formatInt height))) ∧
      (∀ entries, Listed tree snap entries →
        Program.Attains (RestoreCalls limit home root) (discoverLocalSnapshotHeight home)
          (tree, lost) (.done height) (tree, lost)) ∧
      ∀ found s, Program.Attains (RestoreCalls limit home root) (discoverLocalSnapshotHeight home)
        (tree, lost) (.done found) s → found = height := by
  have inv := runs.inv begun archive
  have restored := (inv.marked.resolve_left marked).2
  have here := inv.kept.walks_snapshots begun
  have nonzero : height ≠ 0 := ne_of_gt archive.positive
  refine ⟨restored.files, restored.noted, fun entries listed => ?_, fun found s returned => ?_⟩
  · have highest := localSnapshotHeight_archive archive restored listed
    refine .call ⟨⟨_, .readDir here listed⟩, rfl⟩ ?_
    show Program.Attains _ (if localSnapshotHeight entries = 0 then .fail _
      else .done (localSnapshotHeight entries)) _ _ _
    rw [highest, if_neg nonzero]
    exact .here _ _
  · cases returned with
    | @call _ _ _ _ _ reply _ answered later =>
      obtain ⟨⟨touched, answered⟩, -⟩ := answered
      cases answered with
      | failed | noDir => cases later
      | @readDir _ place entries walks listed =>
        cases walks.unique here
        have highest := localSnapshotHeight_archive archive restored listed
        change Program.Attains _ (if localSnapshotHeight entries = 0 then .fail _
          else .done (localSnapshotHeight entries)) _ _ _ at later
        rw [highest, if_neg nonzero] at later
        cases later
        rfl

end

/-! ## Some runs -/

def emptyHome : Tree := fun place =>
  if place = ["h"] ∨ place = ["h", "data"] ∨ place = ["h", "data", "snapshots"] then some .dir else none

def dirHeader (name : String) : TarHeader := ⟨name, .dir, "", ""⟩

def smallArchive (height : Int) : List TarHeader :=
  [dirHeader (formatInt height), dirHeader "metadata.db"]

def oneArchive (height : Int) : RestoreEnv :=
  ⟨.ok (), [.ok ⟨[some (archiveKey "sei" height)], false⟩], .ok (), fun _ => .ok (smallArchive height)⟩

structure HomeReady (tree : Tree) : Prop where
  home : Walks tree 40 [] ["h"] ⟨["h"], .dir⟩
  snapshots : Walks tree 40 [] ["h", "data", "snapshots"] ⟨["h", "data", "snapshots"], .dir⟩

theorem emptyHome_ready : HomeReady emptyHome :=
  ⟨walk_iff.mp (by decide +kernel), walk_iff.mp (by decide +kernel)⟩

def Writable (tree : Tree) (place : List String) : Prop :=
  tree place = none ∨ ∃ content, tree place = some (.file content)

theorem HomeReady.update {tree : Tree} (ready : HomeReady tree) {place : List String} (node : Node)
    (free : Writable tree place) : HomeReady (Function.update tree place (some node)) := by
  have grows : Grows tree (Function.update tree place (some node)) := by
    refine Grows.update fun old found => ?_
    rcases free with none | ⟨content, file⟩
    · cases none.symm.trans found
    · exact ⟨content, Option.some.inj (found.symm.trans file)⟩
  exact ⟨ready.home.grows grows rfl, ready.snapshots.grows grows rfl⟩

abbrev SampleCalls := SeeingCalls 40 ["h"] ["h"]

section

variable {tree : Tree} {lost : Bool}

theorem HomeReady.opens (ready : HomeReady tree) {name : String} (normal : Normal name)
    (free : Writable tree ["h", name]) :
    SampleCalls (tree, lost) (.openTrunc ["h", name]) (.ok ["h", name])
      (Function.update tree ["h", name] (some (.file "")), lost) := by
  rcases free with none | ⟨content, file⟩
  · have walks : Walks tree 40 [] ["h", name] ⟨["h", name], .missing⟩ :=
      ready.home.extend rfl fun _ => .missing normal none
    exact ⟨⟨⟨_, .openTrunc walks (by simp)⟩, rfl⟩, trivial⟩
  · have walks : Walks tree 40 [] ["h", name] ⟨["h", name], .file⟩ :=
      ready.home.extend rfl fun _ => .file normal file
    exact ⟨⟨⟨_, .openTrunc walks (by simp)⟩, rfl⟩, trivial⟩

theorem attains_lostHeight (positive : 0 < height) :
    Program.Attains SampleCalls (recordHeight ["h"] height) (tree, lost) (.done ()) (tree, true) := by
  unfold recordHeight
  rw [if_pos positive]
  have failed : SampleCalls (tree, lost) (.openTrunc ["h", snapshotHeightFile])
      (.error (.other "disk full")) (tree, true) :=
    ⟨⟨⟨_, .failed _ _⟩, by simp [observeLost]⟩, trivial⟩
  exact .call failed (.here _ _)

theorem attains_recordHeight (positive : 0 < height) (ready : HomeReady tree)
    (free : Writable tree (heightPlace ["h"])) :
    Program.Attains SampleCalls (recordHeight ["h"] height) (tree, lost) (.done ())
      (Function.update tree (heightPlace ["h"]) (some (.file (formatInt height))), lost) := by
  unfold recordHeight
  rw [if_pos positive]
  have written : SampleCalls (Function.update tree (heightPlace ["h"]) (some (.file "")), lost)
      (.write (heightPlace ["h"]) (formatInt height)) (.ok ())
      (Function.update tree (heightPlace ["h"]) (some (.file (formatInt height))), lost) := by
    refine ⟨⟨⟨[heightPlace ["h"]], ?_⟩, rfl⟩, trivial⟩
    have wrote := @Answered.write 40 (Function.update tree (heightPlace ["h"]) (some (.file "")))
      (heightPlace ["h"]) (formatInt height) "" (Function.update_self ..)
    rw [Function.update_idem, String.empty_append] at wrote
    exact wrote
  exact .call (ready.opens normal_heightFile free) (.call written (.here _ _))

structure SampleName (name : String) : Prop where
  named : clean name = [name]
  inside : isInsideDir ["h", "data", "snapshots", name] ["h", "data", "snapshots"] = true
  normal : Normal name

theorem attains_dirEntry {name : String} (sample : SampleName name) (ready : HomeReady tree)
    (free : tree ["h", "data", "snapshots", name] = none ∨
      tree ["h", "data", "snapshots", name] = some .dir) :
    Program.Attains SampleCalls
      (extractEntry Char.isAlphanum ["h", "data", "snapshots"] (dirHeader name)) (tree, lost)
      (.done ()) (Function.update tree ["h", "data", "snapshots", name] (some .dir), lost) := by
  have target : join ["h", "data", "snapshots"] [name] = ["h", "data", "snapshots", name] := by
    refine join_of_normal fun part member => ?_
    rcases List.mem_append.mp member with fixed | last
    · have all : ∀ part ∈ ["h", "data", "snapshots"], part ≠ "" ∧ part ≠ "." ∧ part ≠ ".." := by decide
      exact ⟨(all part fixed).1, (all part fixed).2.1, (all part fixed).2.2⟩
    · rw [List.mem_singleton.mp last]
      exact sample.normal
  simp only [extractEntry, dirHeader, sample.named, target, sample.inside, if_true]
  rcases free with free | there
  · have missing : Walks tree 40 [] ["h", "data", "snapshots", name]
        ⟨["h", "data", "snapshots", name], .missing⟩ :=
      ready.snapshots.extend rfl fun _ => .missing sample.normal free
    have absent : SampleCalls (tree, lost) (.stat ["h", "data", "snapshots", name])
        (.error .notExist) (tree, lost) :=
      ⟨⟨⟨_, .noStat fun found walks => by rw [walks.unique missing]⟩, rfl⟩, fun same => by simp at same⟩
    have parent : SampleCalls (tree, lost) (.stat ["h", "data", "snapshots"]) (.ok true) (tree, lost) :=
      ⟨⟨⟨_, .stat ready.snapshots (by simp)⟩, rfl⟩, trivial⟩
    have made : SampleCalls (tree, lost) (.mkdir ["h", "data", "snapshots", name]) (.ok ())
        (Function.update tree ["h", "data", "snapshots", name] (some .dir), lost) :=
      ⟨⟨⟨_, .mkdir ⟨["h", "data", "snapshots"], _, _, rfl, sample.normal, ready.snapshots, rfl⟩ free⟩,
        rfl⟩, trivial⟩
    exact .call absent (.call parent (.call made (.here _ _)))
  · rw [← there, Function.update_eq_self]
    have walks : Walks tree 40 [] ["h", "data", "snapshots", name]
        ⟨["h", "data", "snapshots", name], .dir⟩ :=
      ready.snapshots.extend rfl fun _ => .enter sample.normal there .done
    have found : SampleCalls (tree, lost) (.stat ["h", "data", "snapshots", name]) (.ok true)
        (tree, lost) := ⟨⟨⟨_, .stat walks (by simp)⟩, rfl⟩, trivial⟩
    exact .call found (.here _ _)

theorem attains_marker (ready : HomeReady tree) (free : Writable tree (donePlace ["h"])) :
    Program.Attains SampleCalls (SnapshotRestorer.writeMarker ["h"] restoreMarkerFile) (tree, lost)
      (.done ())
      (Function.update tree (donePlace ["h"]) (some (.file "")), lost) :=
  .call (ready.opens normal_markerFile free) (.here _ _)

structure SampleHeight (height : Int) : Prop where
  positive : 0 < height
  parsed : parseHeightFromKey (archiveKey "sei" height) = height
  key : archiveKey "sei" height ≠ ""
  resolved : resolveKeyForHeight "b" "sei" 0 (oneArchive height).pages = .ok (archiveKey "sei" height)
  name : SampleName (formatInt height)
  other : formatInt height ≠ "metadata.db"

theorem sampleName_metadata : SampleName "metadata.db" :=
  ⟨by decide +kernel, by decide +kernel, by decide, by decide, by decide⟩

theorem sampleHeight_five : SampleHeight 5 :=
  ⟨by decide, by decide +kernel, by decide +kernel, by decide +kernel,
    ⟨by decide +kernel, by decide +kernel, by decide +kernel, by decide +kernel, by decide +kernel⟩,
    by decide +kernel⟩

theorem sampleHeight_seven : SampleHeight 7 :=
  ⟨by decide, by decide +kernel, by decide +kernel, by decide +kernel,
    ⟨by decide +kernel, by decide +kernel, by decide +kernel, by decide +kernel, by decide +kernel⟩,
    by decide +kernel⟩

def notedHome (tree : Tree) (height : Int) : Tree :=
  Function.update tree (heightPlace ["h"]) (some (.file (formatInt height)))

def unpackedHome (tree : Tree) (height : Int) : Tree :=
  Function.update (Function.update tree ["h", "data", "snapshots", formatInt height] (some .dir))
    ["h", "data", "snapshots", "metadata.db"] (some .dir)

def markedHome (tree : Tree) : Tree :=
  Function.update tree (donePlace ["h"]) (some (.file ""))

theorem attains_restore {isPrint : Char → Bool} {home : List String} {bucket chainID : String}
    {target : Int} {env : RestoreEnv} {rest : Fs Unit} {t : Tree × Bool}
    (looked : SampleCalls s (.stat (home ++ [restoreMarkerFile])) (.error .notExist) s)
    (attains : Program.Attains SampleCalls (restoreUnmarked isPrint home bucket chainID target env)
      s rest t) :
    Program.Attains SampleCalls (restore isPrint home bucket chainID target env) s rest t :=
  .call looked attains

/-- A run that unpacks the archive and is cut off before it writes the marker. -/
theorem attains_cutOff (sample : SampleHeight height) {m : Tree × Bool} (ready : HomeReady s.1)
    (unmarked : s.1 (donePlace ["h"]) = none)
    (recorded : Program.Attains SampleCalls (recordHeight ["h"] height) s (.done ()) m)
    (ready' : HomeReady m.1) (free : m.1 ["h", "data", "snapshots", formatInt height] = none)
    (metadata : m.1 ["h", "data", "snapshots", "metadata.db"] = none ∨
      m.1 ["h", "data", "snapshots", "metadata.db"] = some .dir) :
    Program.Attains SampleCalls
      (restore Char.isAlphanum ["h"] "b" "sei" 0 (oneArchive height)) s
      (SnapshotRestorer.writeMarker ["h"] restoreMarkerFile) (unpackedHome m.1 height, m.2) := by
  have missing : Walks s.1 40 [] ["h", restoreMarkerFile] ⟨["h", restoreMarkerFile], .missing⟩ :=
    ready.home.extend rfl fun _ => .missing normal_markerFile unmarked
  have looked : SampleCalls s (.stat ["h", restoreMarkerFile]) (.error .notExist) s :=
    ⟨⟨⟨_, .noStat fun found walks => by rw [walks.unique missing]⟩, rfl⟩, fun _ => unmarked⟩
  refine attains_restore looked ?_
  unfold restoreUnmarked
  rw [if_neg (by decide), sample.resolved]
  simp only [oneArchive, Program.ofExcept, Program.done_bind, if_neg sample.key, sample.parsed]
  refine recorded.bind ?_
  have first := @attains_dirEntry m.1 m.2 _ sample.name ready' (.inl free)
  have apart : ["h", "data", "snapshots", "metadata.db"]
      ≠ ["h", "data", "snapshots", formatInt height] := fun same =>
    sample.other (by simpa using same.symm)
  have second := @attains_dirEntry _ m.2 _ sampleName_metadata (ready'.update .dir (.inl free))
    (by rw [Function.update_of_ne apart]; exact metadata)
  have unpacked : Program.Attains SampleCalls
      (extractTarStream Char.isAlphanum ["h", "data", "snapshots"] (smallArchive height)) m
      (.done ()) (unpackedHome m.1 height, m.2) := first.bind (second.bind (.here (.done ()) _))
  exact Program.Attains.bind unpacked.mapError (.here _ _)

end

theorem emptyHome_begun : RestoreStart 40 ["h"] ["h"] ["h", "data", "snapshots"] emptyHome where
  normal part member := by
    rw [List.mem_singleton.mp member]
    exact ⟨by decide, by decide, by decide⟩
  toHome := walk_iff.mp (by decide +kernel)
  toSnapshots := walk_iff.mp (by decide +kernel)
  empty more some_ := by
    have long : 3 < (["h", "data", "snapshots"] ++ more).length := by
      have := List.length_pos_iff.mpr some_
      simp
      omega
    refine if_neg fun same => ?_
    rcases same with same | same | same <;> rw [same] at long <;> simp at long
  unmarked := by decide
  height := .inl (by decide)
  heightApart := by decide
  doneApart := by decide

theorem smallArchive_valid (sample : SampleHeight height) (range : InRange height) :
    SnapshotArchive height (smallArchive height) := by
  have paths : (dirHeader (formatInt height)).path = [formatInt height] ∧
      (dirHeader "metadata.db").path = ["metadata.db"] := ⟨sample.name.named, sampleName_metadata.named⟩
  refine ⟨sample.positive, range, ?_, ?_, ?_, ?_, ?_⟩
  · intro header member
    rcases List.mem_cons.mp member with rfl | last
    · exact .inl rfl
    · rw [List.mem_singleton.mp last]
      exact .inl rfl
  · intro header member part inside
    rcases List.mem_cons.mp member with rfl | last
    · rw [paths.1] at inside
      rw [List.mem_singleton.mp inside]
      exact sample.name.normal
    · rw [List.mem_singleton.mp last, paths.2] at inside
      rw [List.mem_singleton.mp inside]
      exact sampleName_metadata.normal
  · intro header member
    rcases List.mem_cons.mp member with rfl | last
    · exact ⟨[], .inl paths.1⟩
    · rw [List.mem_singleton.mp last]
      exact ⟨[], .inr paths.2⟩
  · simp [smallArchive, paths, sample.other]
  · exact ⟨_, List.mem_cons_self, paths.1, rfl⟩

theorem attains_withoutHeight :
    Program.Attains SampleCalls (restore Char.isAlphanum ["h"] "b" "sei" 0 (oneArchive 5))
      (emptyHome, false) (.done ()) (markedHome (unpackedHome emptyHome 5), true) := by
  have first := attains_cutOff sampleHeight_five (s := (emptyHome, false)) emptyHome_ready (by decide)
    (attains_lostHeight (by decide)) emptyHome_ready (by decide +kernel) (.inl (by decide +kernel))
  have ready : HomeReady (unpackedHome emptyHome 5) :=
    (emptyHome_ready.update .dir (.inl (by decide +kernel))).update .dir (.inl (by decide +kernel))
  exact first.trans (attains_marker ready (.inl (by decide +kernel)))

def fiveHome : Tree := unpackedHome (notedHome emptyHome 5) 5

theorem notedHome_ready : HomeReady (notedHome emptyHome 5) :=
  emptyHome_ready.update _ (.inl (by decide +kernel))

theorem fiveHome_ready : HomeReady fiveHome :=
  (notedHome_ready.update .dir (.inl (by decide +kernel))).update .dir (.inl (by decide +kernel))

theorem attains_five :
    Program.Attains SampleCalls (restore Char.isAlphanum ["h"] "b" "sei" 0 (oneArchive 5))
      (emptyHome, false) (SnapshotRestorer.writeMarker ["h"] restoreMarkerFile) (fiveHome, false) :=
  attains_cutOff sampleHeight_five (s := (emptyHome, false)) emptyHome_ready (by decide)
    (attains_recordHeight (by decide) emptyHome_ready (.inl (by decide +kernel))) notedHome_ready
    (by decide +kernel) (.inl (by decide +kernel))

theorem attains_seven :
    Program.Attains SampleCalls (restore Char.isAlphanum ["h"] "b" "sei" 0 (oneArchive 7))
      (fiveHome, false) (.done ()) (markedHome (unpackedHome (notedHome fiveHome 7) 7), false) := by
  have noted : Writable fiveHome (heightPlace ["h"]) := .inr ⟨formatInt 5, by decide +kernel⟩
  have ready : HomeReady (notedHome fiveHome 7) := fiveHome_ready.update _ noted
  have first := attains_cutOff sampleHeight_seven (s := (fiveHome, false)) fiveHome_ready
    (by decide +kernel) (attains_recordHeight (by decide) fiveHome_ready noted) ready
    (by decide +kernel) (.inr (by decide +kernel))
  have ready' : HomeReady (unpackedHome (notedHome fiveHome 7) 7) :=
    ⟨walk_iff.mp (by decide +kernel), walk_iff.mp (by decide +kernel)⟩
  exact first.trans (attains_marker ready' (.inl (by decide +kernel)))

theorem not_archived (sample : SampleHeight height) {name : String}
    (height_ : name ≠ formatInt height) (metadata : name ≠ "metadata.db") (node : Node) :
    ¬ Archived (smallArchive height) [name] node := by
  have paths : ∀ header ∈ smallArchive height, ∀ back, header.path ≠ name :: back := by
    intro header member back same
    rcases List.mem_cons.mp member with rfl | last
    · exact height_ (List.cons.inj (sample.name.named.symm.trans same)).1.symm
    · rw [List.mem_singleton.mp last] at same
      exact metadata (List.cons.inj (sampleName_metadata.named.symm.trans same)).1.symm
  rintro (⟨header, member, same, -⟩ | ⟨-, header, member, back, -, same⟩)
  · exact paths header member [] same
  · exact paths header member back same

/-- The marker may stand without a height file, and beside the directories of two archives
when a run was cut off before a newer archive came up. -/
theorem restore_not_consistent :
    RestoreStart 40 ["h"] ["h"] ["h", "data", "snapshots"] emptyHome ∧
      SnapshotArchive 5 (smallArchive 5) ∧ SnapshotArchive 7 (smallArchive 7) ∧
      (∃ s, RestoreRuns Char.isAlphanum ["h"] ["h"] "b" "sei" SampleCalls
          (fun _ env => env = oneArchive 5) emptyHome s ∧
        s.1 (donePlace ["h"]) ≠ none ∧ s.1 (heightPlace ["h"]) = none) ∧
      ∃ s, RestoreRuns Char.isAlphanum ["h"] ["h"] "b" "sei" SampleCalls
          (fun _ env => env = oneArchive 5 ∨ env = oneArchive 7) emptyHome s ∧
        s.1 (donePlace ["h"]) ≠ none ∧
        s.1 ["h", "data", "snapshots", formatInt 5] = some .dir ∧
        s.1 ["h", "data", "snapshots", formatInt 7] = some .dir ∧
        ¬ Archived (smallArchive 7) [formatInt 5] .dir ∧
        ¬ Archived (smallArchive 5) [formatInt 7] .dir := by
  refine ⟨emptyHome_begun, smallArchive_valid sampleHeight_five (by decide),
    smallArchive_valid sampleHeight_seven (by decide), ?_, ?_⟩
  · refine ⟨_, .run .fresh 0 (oneArchive 5) rfl attains_withoutHeight, ?_, ?_⟩
    · decide +kernel
    · decide +kernel
  · have first : RestoreRuns Char.isAlphanum ["h"] ["h"] "b" "sei" SampleCalls
        (fun _ env => env = oneArchive 5 ∨ env = oneArchive 7) emptyHome (fiveHome, false) :=
      .run .fresh 0 (oneArchive 5) (.inl rfl) attains_five
    have unmarked : fiveHome (donePlace ["h"]) = none := by decide +kernel
    have second : Program.Attains SampleCalls
        (restore Char.isAlphanum ["h"] "b" "sei" 0 (oneArchive 7))
        (fiveHome, if fiveHome (donePlace ["h"]) = none then false else false) (.done ())
        (markedHome (unpackedHome (notedHome fiveHome 7) 7), false) := by
      rw [if_pos unmarked]
      exact attains_seven
    refine ⟨_, .run first 0 (oneArchive 7) (.inr rfl) second, ?_, ?_, ?_, ?_, ?_⟩
    · decide +kernel
    · decide +kernel
    · decide +kernel
    · exact not_archived sampleHeight_seven (by decide +kernel) (by decide +kernel) _
    · exact not_archived sampleHeight_five (by decide +kernel) (by decide +kernel) _

/-- The first of these runs, gone on with the same archive, leaves that archive. -/
theorem restore_crash_consistent_five : ∃ tree : Tree,
    (∀ more node, more ≠ [] → (tree (["h", "data", "snapshots"] ++ more) = some node ↔
      Archived (smallArchive 5) more node)) ∧
      tree (heightPlace ["h"]) = some (.file (formatInt 5)) := by
  have marked : Program.Attains SampleCalls (restore Char.isAlphanum ["h"] "b" "sei" 0 (oneArchive 5))
      (emptyHome, false) (.done ()) (markedHome fiveHome, false) :=
    attains_five.trans (attains_marker fiveHome_ready (.inl (by decide +kernel)))
  have fetches : (oneArchive 5).Fetches "b" "sei" 5 (smallArchive 5) 0 := by
    intro key got resolved downloaded
    cases sampleHeight_five.resolved.symm.trans resolved
    cases downloaded
    exact ⟨rfl, rfl⟩
  have runs : RestoreRuns Char.isAlphanum ["h"] ["h"] "b" "sei" SampleCalls
      (RestoreEnv.Fetches "b" "sei" 5 (smallArchive 5)) emptyHome (markedHome fiveHome, false) :=
    .run .fresh 0 (oneArchive 5) fetches marked
  obtain ⟨files, noted, -⟩ := restore_crash_consistent emptyHome_begun
    (smallArchive_valid sampleHeight_five (by decide)) runs (by decide +kernel)
  exact ⟨markedHome fiveHome, files, noted rfl⟩

end SeiController
