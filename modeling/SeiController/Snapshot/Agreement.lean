import SeiController.Lib.System
import SeiController.Snapshot.Resolve

/-!
# Uploaders and restorers agree

Any number of uploaders of one chain write under its prefix, in turns, and any of them may
stop after any call.  What they leave there can be read back from the keys alone.
-/

set_option autoImplicit false

namespace SeiController

open GoInt
open FileTree (DirEntry)

/-! ## Runs of the uploaders -/

/-- What an uploader's disk holds: the entries of `data/snapshots` and the recorded height. -/
structure UploadHome where
  entries : List DirEntry
  state : Option Int

/-- The cosmos-sdk gives every snapshot a directory named by its height in decimal. -/
structure SnapshotNames (entries : List DirEntry) : Prop where
  distinct : (entries.map DirEntry.name).Nodup
  decimal : ∀ entry ∈ entries, ∀ height, dirHeight entry = some height →
    0 ≤ height ∧ entry.name = formatInt height

structure UploadWorld where
  bucket : String → Option Stored
  homes : Nat → UploadHome
  /-- What is left of each uploader's run. -/
  running : Nat → Option (Upload UploadOutcome)
  /-- What was on the disk when an archive was sent, and the archived height. -/
  archived : List (List DirEntry × Int)

namespace UploadWorld

/-- The archived heights, with the disk of the uploader. -/
def note (world : UploadWorld) (uploader : Nat) : Stored → List (List DirEntry × Int)
  | .archive height => ((world.homes uploader).entries, height) :: world.archived
  | .text _ => world.archived

/-- The answers a call can get.  A put that returns without error has stored its object;
one that fails may have, too. -/
inductive Answers (world : UploadWorld) (uploader : Nat) :
    (op : UploadOp) → op.Reply → UploadWorld → Prop
  | listed : Answers world uploader .readDir (Except.ok (world.homes uploader).entries) world
  | unlisted (err : ReadDirError) : Answers world uploader .readDir (Except.error err) world
  | state : Answers world uploader .readState (world.homes uploader).state world
  | stateless : Answers world uploader .readState (none : Option Int) world
  | client (answer : Except String Unit) : Answers world uploader .newUploader answer world
  | stored (key : String) (object : Stored) (answer : Except String Unit) :
      Answers world uploader (.put key object) answer
        { world with
          bucket := Function.update world.bucket key (some object)
          archived := world.note uploader object }
  | lost (key : String) (object : Stored) (err : String) :
      Answers world uploader (.put key object) (Except.error err : Except String Unit)
        { world with archived := world.note uploader object }
  | recorded (height : Int) (answer : Except String Unit) :
      Answers world uploader (.writeState height) answer
        { world with
          homes := Function.update world.homes uploader
            { world.homes uploader with state := some height } }
  | unrecorded (height : Int) (err : String) :
      Answers world uploader (.writeState height) (Except.error err : Except String Unit) world

inductive Step (chainID : String) (world : UploadWorld) : UploadWorld → Prop
  | start (uploader : Nat) (idle : world.running uploader = none) :
      Step chainID world
        { world with
          running := Function.update world.running uploader (some (Upload.upload chainID)) }
  | call (uploader : Nat) (op : UploadOp) (next : op.Reply → Upload UploadOutcome)
      (program : world.running uploader = some (.call op next)) (reply : op.Reply)
      (after : UploadWorld) (answered : world.Answers uploader op reply after) :
      Step chainID world
        { after with running := Function.update world.running uploader (some (next reply)) }
  /-- The run has ended, or is cut off. -/
  | stop (uploader : Nat) :
      Step chainID world { world with running := Function.update world.running uploader none }
  /-- Snapshots appear and are pruned. -/
  | snapshots (uploader : Nat) (idle : world.running uploader = none) (entries : List DirEntry)
      (named : SnapshotNames entries) :
      Step chainID world
        { world with
          homes := Function.update world.homes uploader
            { world.homes uploader with entries } }

structure Initial (world : UploadWorld) : Prop where
  bucket : ∀ key, world.bucket key = none
  named : ∀ uploader, SnapshotNames (world.homes uploader).entries
  running : ∀ uploader, world.running uploader = none
  archived : world.archived = []

def Reached (chainID : String) : UploadWorld → Prop :=
  Reachable Initial (Step chainID)

end UploadWorld

/-! ## The height that is picked -/

theorem snapshotHeights_nodup {entries : List DirEntry} (named : SnapshotNames entries) :
    (snapshotHeights entries).Nodup := by
  unfold snapshotHeights List.Nodup
  rw [List.pairwise_filterMap]
  have apart := List.pairwise_map.mp named.distinct
  refine apart.imp_of_mem fun {left right} memberLeft memberRight differ => ?_
  intro height found height' found' same
  subst same
  have here := (named.decimal left memberLeft height found).2
  have there := (named.decimal right memberRight height found').2
  exact differ (here.trans there.symm)

theorem inRange_of_parseInt {text : String} {n : Int} (parsed : parseInt text = some n) :
    InRange n := by
  have kept {m : Int} (same : inRange? m = some n) : InRange n := by
    unfold inRange? at same
    split at same
    next range =>
      cases same
      exact range
    · cases same
  unfold parseInt at parsed
  split at parsed <;>
  · obtain ⟨value, -, same⟩ := Option.bind_eq_some_iff.mp parsed
    exact kept same

/-- The picked height is one on the disk, and not the greatest. -/
theorem pickUploadCandidate_spec {entries : List DirEntry} (named : SnapshotNames entries)
    (some_ : pickUploadCandidate entries ≠ 0) :
    0 < pickUploadCandidate entries ∧ InRange (pickUploadCandidate entries) ∧
      ∃ higher ∈ snapshotHeights entries, pickUploadCandidate entries < higher := by
  have distinct := snapshotHeights_nodup named
  have member : pickUploadCandidate entries ∈ snapshotHeights entries ∧
      ∃ higher ∈ snapshotHeights entries, pickUploadCandidate entries < higher := by
    unfold pickUploadCandidate at some_ ⊢
    dsimp only at some_ ⊢
    generalize snapshotHeights entries = heights at distinct some_ ⊢
    by_cases few : heights.length < 2
    · rw [if_pos few] at some_
      exact absurd rfl some_
    rw [if_neg few]
    have sorted : (heights.mergeSort fun left right => left ≤ right).Pairwise (· ≤ ·) := by
      simpa using @List.pairwise_mergeSort Int (fun left right => decide (left ≤ right))
        (by intro a b c; simpa using le_trans) (by intro a b; simpa using le_total a b) heights
    have perm := List.mergeSort_perm heights fun left right : Int => decide (left ≤ right)
    generalize (heights.mergeSort fun left right => decide (left ≤ right)) = row at sorted perm ⊢
    have length := perm.length_eq
    have nodup := perm.nodup_iff.mpr distinct
    have second : heights.length - 2 < row.length := by omega
    have last : heights.length - 1 < row.length := by omega
    rw [List.getD_eq_getElem?_getD, List.getElem?_eq_getElem second, Option.getD_some]
    refine ⟨perm.mem_iff.mp (List.getElem_mem _), row[heights.length - 1],
      perm.mem_iff.mp (List.getElem_mem _), ?_⟩
    have atMost := List.pairwise_iff_getElem.mp sorted _ _ second last (by omega)
    have differ := List.pairwise_iff_getElem.mp nodup _ _ second last (by omega)
    omega
  obtain ⟨here, above⟩ := member
  obtain ⟨entry, inside, found⟩ := List.mem_filterMap.mp here
  have sign := (named.decimal entry inside _ found).1
  refine ⟨by omega, ?_, above⟩
  unfold dirHeight at found
  split at found
  · exact inRange_of_parseInt found
  · cases found

/-! ## What a run may do -/

/-- What an observer knows of a run: the listing it read and the height it has archived. -/
structure UploadNotes where
  listing : Option (List DirEntry)
  archived : Option Int

/-- Only a picked height is archived, and only an archived one is pointed at. -/
def archiveMonitor (chainID : String) : Program.Monitor UploadOp UploadOp.Reply UploadNotes where
  may notes op :=
    match op with
    | .put key (.archive height) =>
      key = archiveKey chainID height ∧ height ≠ 0 ∧
        ∃ entries, notes.listing = some entries ∧ pickUploadCandidate entries = height
    | .put key (.text body) =>
      key = latestKey chainID ∧ ∃ height, notes.archived = some height ∧ body = formatInt height
    | _ => True
  after notes op :=
    match op with
    | .readDir => fun reply : Except ReadDirError (List DirEntry) =>
      match reply with
      | .ok entries => { notes with listing := some entries }
      | .error _ => notes
    | .put _ (.archive height) => fun reply : Except String Unit =>
      match reply with
      | .ok () => { notes with archived := some height }
      | .error _ => notes
    | _ => fun _ => notes

theorem follows_orFail {chainID : String} {notes : UploadNotes} {message : String}
    {answer : Except String Unit} {rest : Unit → Upload UploadOutcome}
    (later : answer = .ok () →
      Program.Follows (archiveMonitor chainID) (fun _ _ => True) notes (rest ())) :
    Program.Follows (archiveMonitor chainID) (fun _ _ => True) notes
      (Upload.orFail message answer >>= rest) := by
  cases answer with
  | ok _ => exact later rfl
  | error err => trivial

theorem follows_upload (chainID : String) :
    Program.Follows (archiveMonitor chainID) (fun _ _ => True) ⟨none, none⟩
      (Upload.upload chainID) := by
  refine Program.Follows.perform_bind trivial fun listed => ?_
  cases listed with
  | error err =>
    cases err with
    | notExist => trivial
    | other err => trivial
  | ok entries =>
    show Program.Follows (archiveMonitor chainID) (fun _ _ => True) ⟨some entries, none⟩ _
    simp only [Upload.uploadPicked]
    split
    · trivial
    next nonzero =>
      refine Program.Follows.perform_bind trivial fun state => ?_
      split
      · trivial
      refine Program.Follows.perform_bind trivial fun client => ?_
      refine follows_orFail fun _ => ?_
      refine Program.Follows.perform_bind ⟨rfl, nonzero, entries, rfl, rfl⟩ fun archived => ?_
      refine follows_orFail fun stored => ?_
      subst stored
      refine Program.Follows.perform_bind ⟨rfl, _, rfl, rfl⟩ fun pointed => ?_
      refine follows_orFail fun _ => ?_
      refine Program.Follows.perform_bind trivial fun recorded => ?_
      exact follows_orFail fun _ => trivial

/-! ## What holds in every world -/

def Archivable (height : Int) : Prop := 0 < height ∧ InRange height

structure UploadWorld.Tied (chainID : String) (world : UploadWorld) (uploader : Nat)
    (notes : UploadNotes) : Prop where
  listing : ∀ entries, notes.listing = some entries → (world.homes uploader).entries = entries
  archived : ∀ height, notes.archived = some height → Archivable height ∧
    world.bucket (archiveKey chainID height) = some (.archive height)

inductive Placed (chainID : String) (bucket : String → Option Stored) : String → Stored → Prop
  | archive {height : Int} (fits : Archivable height) :
      Placed chainID bucket (archiveKey chainID height) (.archive height)
  | latest {height : Int} (fits : Archivable height)
      (present : bucket (archiveKey chainID height) = some (.archive height)) :
      Placed chainID bucket (latestKey chainID) (.text (formatInt height))

structure UploadWorld.Consistent (chainID : String) (world : UploadWorld) : Prop where
  objects : ∀ key object, world.bucket key = some object → Placed chainID world.bucket key object
  named : ∀ uploader, SnapshotNames (world.homes uploader).entries
  programs : ∀ uploader program, world.running uploader = some program → ∃ notes,
    world.Tied chainID uploader notes ∧
      Program.Follows (archiveMonitor chainID) (fun _ _ => True) notes program
  archived : ∀ noted ∈ world.archived, ∃ higher ∈ snapshotHeights noted.1, noted.2 < higher

theorem archiveKey_inj {chainID : String} {left right : Int} (fits : Archivable left)
    (fits' : Archivable right) (same : archiveKey chainID left = archiveKey chainID right) :
    left = right := by
  have parsed := congrArg parseHeightFromKey same
  rwa [parseHeightFromKey_archiveKey chainID (le_of_lt fits.1) fits.2,
    parseHeightFromKey_archiveKey chainID (le_of_lt fits'.1) fits'.2] at parsed

theorem archiveKey_ne_latestKey {chainID : String} {height : Int} (fits : Archivable height) :
    archiveKey chainID height ≠ latestKey chainID := by
  intro same
  have parsed := congrArg parseHeightFromKey same
  rw [parseHeightFromKey_archiveKey chainID (le_of_lt fits.1) fits.2,
    parseHeightFromKey_latestKey] at parsed
  exact absurd parsed (ne_of_gt fits.1)

variable {key : String}

section

variable {chainID : String}

/-- A put keeps every archive that is there. -/
theorem Placed.keeps {bucket : String → Option Stored} {object : Stored}
    (placed : Placed chainID bucket key object) {height : Int} (fits : Archivable height)
    (present : bucket (archiveKey chainID height) = some (.archive height)) :
    Function.update bucket key (some object) (archiveKey chainID height)
      = some (.archive height) := by
  cases placed with
  | @archive other fits' =>
    by_cases same : archiveKey chainID height = archiveKey chainID other
    · obtain rfl := archiveKey_inj fits fits' same
      exact Function.update_self ..
    · rw [Function.update_of_ne same]
      exact present
  | latest =>
    rw [Function.update_of_ne (archiveKey_ne_latestKey fits)]
    exact present

theorem Placed.put {bucket : String → Option Stored} {object : Stored}
    (placed : Placed chainID bucket key object)
    (objects : ∀ other stored, bucket other = some stored → Placed chainID bucket other stored) :
    ∀ other stored, Function.update bucket key (some object) other = some stored →
      Placed chainID (Function.update bucket key (some object)) other stored := by
  have later {other : String} {stored : Stored} (before : Placed chainID bucket other stored) :
      Placed chainID (Function.update bucket key (some object)) other stored := by
    cases before with
    | archive fits => exact .archive fits
    | latest fits present => exact .latest fits (placed.keeps fits present)
  intro other stored found
  by_cases here : other = key
  · subst here
    rw [Function.update_self] at found
    cases found
    exact later placed
  · rw [Function.update_of_ne here] at found
    exact later (objects other stored found)

namespace UploadWorld

theorem Tied.mono {world after : UploadWorld} {uploader : Nat} {notes : UploadNotes}
    (tied : world.Tied chainID uploader notes)
    (entries : (after.homes uploader).entries = (world.homes uploader).entries)
    (archives : ∀ height, Archivable height →
      world.bucket (archiveKey chainID height) = some (.archive height) →
      after.bucket (archiveKey chainID height) = some (.archive height)) :
    after.Tied chainID uploader notes where
  listing found listed := entries.trans (tied.listing found listed)
  archived height noted :=
    have ⟨fits, present⟩ := tied.archived height noted
    ⟨fits, archives height fits present⟩

/-- What the monitor lets a run put is in its place, and not the highest on its disk. -/
theorem Consistent.put {world : UploadWorld} (consistent : world.Consistent chainID)
    {uploader : Nat} {notes : UploadNotes} (tied : world.Tied chainID uploader notes)
    {object : Stored} (may : (archiveMonitor chainID).may notes (.put key object)) :
    Placed chainID world.bucket key object ∧
      ∀ noted ∈ world.note uploader object, ∃ higher ∈ snapshotHeights noted.1, noted.2 < higher := by
  cases object with
  | archive height =>
    obtain ⟨rfl, nonzero, entries, listed, rfl⟩ := may
    have here := tied.listing entries listed
    have named := consistent.named uploader
    rw [here] at named
    obtain ⟨positive, range, higher⟩ := pickUploadCandidate_spec named nonzero
    refine ⟨.archive ⟨positive, range⟩, List.forall_mem_cons.mpr ⟨?_, consistent.archived⟩⟩
    rw [here]
    exact higher
  | text body =>
    obtain ⟨rfl, height, archived, rfl⟩ := may
    obtain ⟨fits, present⟩ := tied.archived height archived
    exact ⟨.latest fits present, consistent.archived⟩

/-- The answer to a call keeps the world consistent and tells the observer no lie. -/
theorem Consistent.answer {world after : UploadWorld} (consistent : world.Consistent chainID)
    {uploader : Nat} {notes : UploadNotes} (tied : world.Tied chainID uploader notes)
    {op : UploadOp} {reply : op.Reply} (may : (archiveMonitor chainID).may notes op)
    (answered : world.Answers uploader op reply after) :
    (∀ key object, after.bucket key = some object → Placed chainID after.bucket key object) ∧
      (∀ other, (after.homes other).entries = (world.homes other).entries) ∧
      (∀ height, Archivable height →
        world.bucket (archiveKey chainID height) = some (.archive height) →
        after.bucket (archiveKey chainID height) = some (.archive height)) ∧
      (∀ noted ∈ after.archived, ∃ higher ∈ snapshotHeights noted.1, noted.2 < higher) ∧
      after.Tied chainID uploader ((archiveMonitor chainID).after notes op reply) := by
  cases answered with
  | listed =>
    refine ⟨consistent.objects, fun _ => rfl, fun _ _ present => present, consistent.archived, ?_⟩
    exact ⟨fun entries noted => Option.some.inj noted, tied.archived⟩
  | unlisted | state | stateless | client =>
    exact ⟨consistent.objects, fun _ => rfl, fun _ _ present => present, consistent.archived, tied⟩
  | lost key object err =>
    obtain ⟨-, noted⟩ := consistent.put tied may
    refine ⟨consistent.objects, fun _ => rfl, fun _ _ present => present, noted, ?_⟩
    cases object with
    | archive | text => exact tied.mono rfl fun _ _ present => present
  | stored key object answer =>
    obtain ⟨placed, noted⟩ := consistent.put tied may
    have kept (height : Int) (fits : Archivable height)
        (present : world.bucket (archiveKey chainID height) = some (.archive height)) :=
      placed.keeps fits present
    refine ⟨placed.put consistent.objects, fun _ => rfl, kept, noted, ?_⟩
    cases object with
    | text body => exact tied.mono rfl kept
    | archive height =>
      cases answer with
      | error err => exact tied.mono rfl kept
      | ok _ =>
        refine ⟨tied.listing, fun other archived => ?_⟩
        cases archived
        cases placed with
        | archive fits => exact ⟨fits, Function.update_self ..⟩
  | recorded height answer =>
    have same (other : Nat) : (Function.update world.homes uploader
        { world.homes uploader with state := some height } other).entries
          = (world.homes other).entries := by
      by_cases here : other = uploader
      · rw [here, Function.update_self]
      · rw [Function.update_of_ne here]
    exact ⟨consistent.objects, same, fun _ _ present => present, consistent.archived,
      tied.mono (same uploader) fun _ _ present => present⟩
  | unrecorded =>
    exact ⟨consistent.objects, fun _ => rfl, fun _ _ present => present, consistent.archived, tied⟩

theorem Consistent.step {world after : UploadWorld} (consistent : world.Consistent chainID)
    (move : Step chainID world after) : after.Consistent chainID := by
  cases move with
  | start uploader idle =>
    refine { consistent with programs := ?_ }
    intro other program running
    dsimp only at running
    by_cases here : other = uploader
    · subst here
      rw [Function.update_self] at running
      cases running
      exact ⟨⟨none, none⟩, ⟨fun _ noted => (by cases noted), fun _ noted => (by cases noted)⟩,
        follows_upload chainID⟩
    · rw [Function.update_of_ne here] at running
      obtain ⟨notes, tied, follows⟩ := consistent.programs other program running
      exact ⟨notes, tied.mono rfl fun _ _ present => present, follows⟩
  | call uploader op next program reply answer answered =>
    obtain ⟨notes, tied, may, later⟩ := consistent.programs uploader _ program
    obtain ⟨objects, entries, archives, archived, tiedAfter⟩ := consistent.answer tied may answered
    refine ⟨objects, fun other => ?_, ?_, archived⟩
    · show SnapshotNames (answer.homes other).entries
      rw [entries other]
      exact consistent.named other
    · intro other remaining running
      dsimp only at running
      by_cases here : other = uploader
      · subst here
        rw [Function.update_self] at running
        cases running
        exact ⟨_, tiedAfter.mono rfl fun _ _ present => present, later reply⟩
      · rw [Function.update_of_ne here] at running
        obtain ⟨known, tiedOther, follows⟩ := consistent.programs other remaining running
        exact ⟨known, tiedOther.mono (entries other) archives, follows⟩
  | stop uploader =>
    refine { consistent with programs := ?_ }
    intro other program running
    dsimp only at running
    by_cases here : other = uploader
    · subst here
      rw [Function.update_self] at running
      cases running
    · rw [Function.update_of_ne here] at running
      obtain ⟨notes, tied, follows⟩ := consistent.programs other program running
      exact ⟨notes, tied.mono rfl fun _ _ present => present, follows⟩
  | snapshots uploader idle entries named =>
    refine ⟨consistent.objects, fun other => ?_, ?_, consistent.archived⟩
    · by_cases here : other = uploader
      · subst here
        show SnapshotNames (Function.update world.homes other _ other).entries
        rw [Function.update_self]
        exact named
      · show SnapshotNames (Function.update world.homes uploader _ other).entries
        rw [Function.update_of_ne here]
        exact consistent.named other
    · intro other program running
      have busy : other ≠ uploader := by
        rintro rfl
        rw [idle] at running
        cases running
      obtain ⟨notes, tied, follows⟩ := consistent.programs other program running
      refine ⟨notes, tied.mono ?_ fun _ _ present => present, follows⟩
      show (Function.update world.homes uploader _ other).entries = _
      rw [Function.update_of_ne busy]

theorem Reached.consistent {world : UploadWorld} (reached : Reached chainID world) :
    world.Consistent chainID := by
  refine Reachable.invariant ?_ (fun _ _ kept move => kept.step move) reached
  intro start initial
  refine ⟨fun key object found => ?_, initial.named, fun uploader program running => ?_, ?_⟩
  · rw [initial.bucket] at found
    cases found
  · rw [initial.running] at running
    cases running
  · rw [initial.archived]
    exact fun _ member => by cases member

/-- An archive that a restore to the target may take. -/
structure Eligible (chainID : String) (world : UploadWorld) (target height : Int) : Prop where
  present : world.bucket (archiveKey chainID height) = some (.archive height)
  below : target = 0 ∨ height ≤ target

def Lists (world : UploadWorld) (pages : List (Except String Page)) : Prop :=
  ∃ all, Listing pages all ∧ ∀ key, some key ∈ all ↔ (world.bucket key).isSome

theorem Consistent.archivable {world : UploadWorld} (consistent : world.Consistent chainID)
    {height : Int} (found : world.bucket key = some (.archive height)) :
    key = archiveKey chainID height ∧ Archivable height := by
  cases consistent.objects key _ found with
  | archive fits => exact ⟨rfl, fits⟩

/-- The keys a restore can use are those of the eligible archives. -/
theorem Consistent.usable_iff {world : UploadWorld} (consistent : world.Consistent chainID)
    {target : Int} (valid : 0 ≤ target) {height : Int} :
    (world.bucket key).isSome ∧ Usable target key height ↔
      key = archiveKey chainID height ∧ world.Eligible chainID target height := by
  constructor
  · rintro ⟨present, usable⟩
    obtain ⟨object, found⟩ := Option.isSome_iff_exists.mp present
    have parsed := usable.parsed
    have positive := usable.positive
    have below := usable.below
    cases consistent.objects key object found with
    | @archive other fits =>
      rw [parseHeightFromKey_archiveKey chainID (le_of_lt fits.1) fits.2] at parsed
      subst parsed
      exact ⟨rfl, found, by omega⟩
    | latest =>
      rw [parseHeightFromKey_latestKey] at parsed
      omega
  · rintro ⟨rfl, eligible⟩
    have fits := (consistent.archivable eligible.present).2
    refine ⟨by rw [eligible.present]; rfl, ?_, fits.1, fun positive => ?_⟩
    · exact parseHeightFromKey_archiveKey chainID (le_of_lt fits.1) fits.2
    · have below := eligible.below
      omega

theorem Consistent.restoreKey {world : UploadWorld} (consistent : world.Consistent chainID)
    (bucketName : String) (target : Int) {pages : List (Except String Page)}
    (lists : world.Lists pages) :
    (∃ height, world.Eligible chainID target height ∧
        (∀ other, world.Eligible chainID target other → other ≤ height) ∧
        restoreKey bucketName chainID target pages = .ok (archiveKey chainID height)) ∨
      (∀ height, ¬ world.Eligible chainID target height) ∧
        ∃ err, restoreKey bucketName chainID target pages = .error err := by
  by_cases negative : target < 0
  · refine .inr ⟨fun height eligible => ?_, _, if_pos negative⟩
    have := eligible.below
    have := (consistent.archivable eligible.present).2.1
    omega
  have valid : 0 ≤ target := Int.not_lt.mp negative
  obtain ⟨all, listing, exactly_⟩ := lists
  obtain ⟨best, listed, bestOf⟩ := listBest_of_listing listing (BestOf.empty target)
  rw [List.nil_append] at bestOf
  have greatest (other : Int) (eligible : world.Eligible chainID target other) :
      other ≤ best.height := by
    obtain ⟨present, usable⟩ := (consistent.usable_iff valid).mpr ⟨rfl, eligible⟩
    exact bestOf.greatest _ other ((exactly_ _).mpr present) usable
  rw [SeiController.restoreKey, if_neg negative, resolveKeyForHeight, listed]
  dsimp only
  rcases bestOf.found with nothing | ⟨member, usable⟩
  · subst nothing
    refine .inr ⟨fun height eligible => ?_, ?_⟩
    · have := greatest height eligible
      have := (consistent.archivable eligible.present).2.1
      dsimp only at *
      omega
    · rw [if_pos rfl]
      split
      · exact ⟨_, rfl⟩
      · exact ⟨_, rfl⟩
  · obtain ⟨key, eligible⟩ :=
      (consistent.usable_iff valid).mp ⟨(exactly_ _).mp member, usable⟩
    have named : best.key ≠ "" := by
      intro empty
      have zero : parseHeightFromKey "" = 0 := by decide
      have := usable.positive
      have := usable.parsed
      rw [empty] at this
      omega
    refine .inl ⟨best.height, eligible, greatest, ?_⟩
    rw [if_neg named, key]

/-- After any history of uploads the archives can be read back from their keys, `latest.txt`
names one of them, none was the highest snapshot of its disk, and a restore takes the
greatest one it may. -/
theorem uploads_restorable {world : UploadWorld} (reached : Reached chainID world) :
    (∀ key height, world.bucket key = some (.archive height) →
        key = archiveKey chainID height ∧ parseHeightFromKey key = height) ∧
      (∀ object, world.bucket (latestKey chainID) = some object → ∃ height,
        object = .text (formatInt height) ∧
          world.bucket (archiveKey chainID height) = some (.archive height)) ∧
      (∀ noted ∈ world.archived, ∃ higher ∈ snapshotHeights noted.1, noted.2 < higher) ∧
      ∀ (bucketName : String) (target : Int) (pages : List (Except String Page)),
        world.Lists pages →
        (∃ height, world.Eligible chainID target height ∧
            (∀ other, world.Eligible chainID target other → other ≤ height) ∧
            SeiController.restoreKey bucketName chainID target pages
              = .ok (archiveKey chainID height)) ∨
          (∀ height, ¬ world.Eligible chainID target height) ∧
            ∃ err, SeiController.restoreKey bucketName chainID target pages = .error err := by
  have consistent := reached.consistent
  refine ⟨fun key height found => ?_, fun object found => ?_, consistent.archived,
    fun bucketName target pages lists => consistent.restoreKey bucketName target lists⟩
  · obtain ⟨rfl, fits⟩ := consistent.archivable found
    exact ⟨rfl, parseHeightFromKey_archiveKey chainID (le_of_lt fits.1) fits.2⟩
  · generalize here : latestKey chainID = key at found
    cases consistent.objects key object found with
    | archive fits => exact absurd here.symm (archiveKey_ne_latestKey fits)
    | latest _ present => exact ⟨_, rfl, present⟩

end UploadWorld

end

/-! ## A run -/

def twoSnapshots : List DirEntry := [⟨"1", true⟩, ⟨"2", true⟩]

theorem twoSnapshots_named : SnapshotNames twoSnapshots where
  distinct := by decide
  decimal entry member height found := by
    rcases List.mem_cons.mp member with rfl | last
    · have parsed : dirHeight ⟨"1", true⟩ = some 1 := by decide +kernel
      cases parsed.symm.trans found
      exact ⟨by decide, by decide +kernel⟩
    · have parsed : dirHeight ⟨"2", true⟩ = some 2 := by decide +kernel
      rw [List.mem_singleton.mp last] at found ⊢
      cases parsed.symm.trans found
      exact ⟨by decide, by decide +kernel⟩

theorem pickUploadCandidate_twoSnapshots : pickUploadCandidate twoSnapshots = 1 := by
  have heights : snapshotHeights twoSnapshots = [1, 2] := by decide +kernel
  have sorted : ([1, 2] : List Int).mergeSort (fun left right => left ≤ right) = [1, 2] :=
    List.mergeSort_of_pairwise (by decide)
  simp [pickUploadCandidate, heights, sorted]

def snapshotWorld : UploadWorld :=
  ⟨fun _ => none, fun _ => ⟨twoSnapshots, none⟩, fun _ => none, []⟩

theorem snapshotWorld_initial : snapshotWorld.Initial :=
  ⟨fun _ => rfl, fun _ => twoSnapshots_named, fun _ => rfl, rfl⟩

theorem archives_picked {world : UploadWorld} (reached : UploadWorld.Reached "sei" world)
    (running : world.running 0 = some (Upload.uploadPicked "sei" 1)) :
    ∃ after, UploadWorld.Reached "sei" after ∧
      after.bucket (archiveKey "sei" 1) = some (.archive 1) ∧
      ∀ key, (after.bucket key).isSome → key = archiveKey "sei" 1 ∨ (world.bucket key).isSome := by
  have read := reached.next (.call 0 .readState _ running _ _ .stateless)
  have client := read.next
    (.call 0 .newUploader _ rfl _ _ (.client (.ok ())))
  have archived := client.next
    (.call 0 (.put (archiveKey "sei" 1) (.archive 1)) _ rfl _ _
      (.stored _ _ (.ok ())))
  let bucket := Function.update world.bucket (archiveKey "sei" 1) (some (.archive 1))
  have stored : bucket (archiveKey "sei" 1) = some (.archive 1) := Function.update_self ..
  refine ⟨_, archived, stored, fun key present => ?_⟩
  by_cases here : key = archiveKey "sei" 1
  · exact .inl here
  · have same : bucket key = world.bucket key := Function.update_of_ne here ..
    exact .inr (same ▸ present)

/-- With snapshots 1 and 2 on the disk, 1 is archived, and a restore to 5 takes it. -/
theorem uploads_restorable_twoSnapshots : ∃ world, UploadWorld.Reached "sei" world ∧
    restoreKey "snapshots" "sei" 5 [.ok ⟨[some (archiveKey "sei" 1)], false⟩]
      = .ok (archiveKey "sei" 1) := by
  have started : UploadWorld.Reached "sei" _ :=
    .next (.start snapshotWorld_initial) (.start 0 rfl)
  have listed := started.next (.call 0 .readDir _ rfl _ _ .listed)
  have running := congrArg (fun height => some (Upload.uploadPicked "sei" height))
    pickUploadCandidate_twoSnapshots
  obtain ⟨world, reached, present, only⟩ := archives_picked listed running
  refine ⟨world, reached, ?_⟩
  have lists : world.Lists [.ok ⟨[some (archiveKey "sei" 1)], false⟩] := by
    refine ⟨_, .last _, fun key => ?_⟩
    rw [List.mem_singleton, Option.some_inj]
    constructor
    · rintro rfl
      rw [present]
      rfl
    · intro stored
      exact (only key stored).resolve_right (fun never => by cases never)
  obtain ⟨-, -, -, restores⟩ := UploadWorld.uploads_restorable reached
  rcases restores "snapshots" 5 _ lists with ⟨height, eligible, -, taken⟩ | ⟨none, -⟩
  · obtain same := (only _ (by rw [eligible.present]; rfl)).resolve_right (fun never => by cases never)
    rw [taken, same]
  · exact absurd ⟨present, .inr (by decide)⟩ (none 1)

end SeiController
