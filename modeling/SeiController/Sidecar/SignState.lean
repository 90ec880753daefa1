import SeiController.Sidecar.ResetData

/-!
# The reset keeps the sign state

However often `reset-data` is cut off and started again, the sign state of a validator is
never touched, and a run that succeeds leaves `data/` with the sign state alone.  The zero
state of a node that never signed is written in place: a run that stops between the open
and the sync leaves a file that the next run takes for a sign state.
-/

set_option autoImplicit false

namespace SeiController

open FileTree GoPath

def dataPlace (root : List String) : List String := root ++ ["data"]

def signPlace (root : List String) : List String := dataPlace root ++ [privValidatorStateFile]

def markerPlace (root : List String) : List String := root ++ [stateSyncMarkerFile]

/-- Neither in `data/` nor the marker. -/
def Elsewhere (root place : List String) : Prop :=
  ¬ dataPlace root <+: place ∧ place ≠ markerPlace root

instance (root place : List String) : Decidable (Elsewhere root place) :=
  inferInstanceAs (Decidable (_ ∧ _))

/-- The tree without `data/` and without the marker. -/
def elsewhere (root : List String) (tree : Tree) : Tree := fun place =>
  if Elsewhere root place then tree place else none

/-- What the reset may start from: the way to the home directory does not lead through
`data/`, and the sign state is a regular file, if there is one. -/
structure ResetStart (limit : Nat) (home root : List String) (start : Tree) : Prop where
  home : Walks (elsewhere root start) limit [] home ⟨root, .dir⟩
  data : start (dataPlace root) = some .dir ∨ ∀ more, start (dataPlace root ++ more) = none
  sign : start (signPlace root) = none ∨ ∃ content, start (signPlace root) = some (.file content)

theorem observeUnsynced_unnoted : Unnoted observeUnsynced where
  stat _ _ _ := rfl
  lstat _ _ _ := rfl
  mkdir _ _ _ := rfl

/-- The notes of a run are the files it opened and has not yet synced. -/
structure SignKept (root : List String) (start : Tree) (s : Tree × List (List String)) : Prop where
  elsewhere : ∀ place, Elsewhere root place → s.1 place = start place
  data : s.1 (dataPlace root) = some .dir ∨ ∀ more, s.1 (dataPlace root ++ more) = none
  kept : ∀ content, start (signPlace root) = some (.file content) →
    s.1 (signPlace root) = some (.file content)
  zero : start (signPlace root) = none → s.1 (signPlace root) = none ∨
    ∃ content, s.1 (signPlace root) = some (.file content) ∧
      (content = emptyPrivValidatorState ∨ s.2 ≠ [])

/-- Nothing but the sign state is in `data/`. -/
def Cleared (root : List String) (tree : Tree) : Prop :=
  ∀ name, name ≠ privValidatorStateFile → tree (dataPlace root ++ [name]) = none

section

variable {limit : Nat} {home root : List String} {start : Tree} {s : Tree × List (List String)}

theorem normal_data : Normal "data" := ⟨by decide, by decide, by decide⟩

theorem normal_sign : Normal privValidatorStateFile := ⟨by decide, by decide, by decide⟩

theorem signPlace_ne_dataPlace : signPlace root ≠ dataPlace root := by
  intro same
  have := congrArg List.length same
  simp [signPlace] at this

theorem not_elsewhere_data (more : List String) : ¬ Elsewhere root (dataPlace root ++ more) :=
  fun apart => apart.1 (List.prefix_append ..)

theorem markerPlace_not_data (more : List String) : dataPlace root ++ more ≠ markerPlace root := by
  intro same
  unfold dataPlace markerPlace at same
  rw [List.append_assoc] at same
  have first := List.append_cancel_left same
  have names := congrArg List.head? first
  simp [stateSyncMarkerFile] at names

theorem unmarked_below (tree : Tree) (more : List String) :
    Function.update tree (markerPlace root) none (dataPlace root ++ more) =
      tree (dataPlace root ++ more) :=
  Function.update_of_ne (markerPlace_not_data more) ..

theorem unmarked_data (tree : Tree) :
    Function.update tree (markerPlace root) none (dataPlace root) = tree (dataPlace root) := by
  simpa using unmarked_below tree []

namespace SignKept

theorem walks_home (kept : SignKept root start s) (begun : ResetStart limit home root start) :
    Walks s.1 limit [] home ⟨root, .dir⟩ := by
  refine begun.home.grows (fun place node found _ => ?_) rfl
  unfold SeiController.elsewhere at found
  split at found
  next apart => rw [kept.elsewhere place apart, found]
  · cases found

theorem walks_data (kept : SignKept root start s) (begun : ResetStart limit home root start)
    (dir : s.1 (dataPlace root) = some .dir) :
    Walks s.1 limit [] (home ++ ["data"]) ⟨dataPlace root, .dir⟩ :=
  (kept.walks_home begun).extend rfl fun _ => .enter normal_data dir .done

theorem data_of_walks (kept : SignKept root start s) (begun : ResetStart limit home root start)
    {place : List String} (walks : Walks s.1 limit [] (home ++ ["data"]) ⟨place, .dir⟩) :
    place = dataPlace root ∧ s.1 (dataPlace root) = some .dir := by
  rcases kept.data with dir | none
  · cases walks.unique (kept.walks_data begun dir)
    exact ⟨rfl, dir⟩
  · have missing : s.1 (root ++ ["data"]) = Option.none := by
      simpa [dataPlace] using none []
    have walks' := (kept.walks_home begun).extend rfl fun left => @Walks.missing s.1 left root "data"
      normal_data missing
    cases walks.unique walks'

/-- Outside of the sign state, `data/` may change in any way. -/
theorem change (kept : SignKept root start s) {tree : Tree}
    (same : ∀ place, ¬ dataPlace root <+: place → place ≠ markerPlace root → tree place = s.1 place)
    (dir : tree (dataPlace root) = some .dir) (sign : tree (signPlace root) = s.1 (signPlace root)) :
    SignKept root start (tree, s.2) where
  elsewhere place apart := (same place apart.1 apart.2).trans (kept.elsewhere place apart)
  data := .inl dir
  kept content original := sign.trans (kept.kept content original)
  zero absent := by
    dsimp only
    rw [sign]
    exact kept.zero absent

theorem pruned (kept : SignKept root start s) (dir : s.1 (dataPlace root) = some .dir)
    {name : String} (other : name ≠ privValidatorStateFile) {tree : Tree}
    (pruned : Pruned s.1 (dataPlace root ++ [name]) tree) :
    SignKept root start (tree, s.2) ∧ tree (dataPlace root) = some .dir := by
  have untouched (place : List String) (apart : ¬ dataPlace root ++ [name] <+: place) :
      tree place = s.1 place := (pruned place).resolve_right fun gone => apart gone.1
  have dirKept : tree (dataPlace root) = some .dir := by
    rw [untouched _ fun inside => ?_, dir]
    have := inside.length_le
    simp at this
  refine ⟨kept.change (fun place apart _ => untouched place fun inside => ?_) dirKept ?_, dirKept⟩
  · exact apart ((List.prefix_append ..).trans inside)
  · refine untouched _ fun inside => other ?_
    have same := (List.prefix_append_right_inj (dataPlace root)).mp inside
    simpa using same

theorem setSign (kept : SignKept root start s) (dir : s.1 (dataPlace root) = some .dir)
    (absent : start (signPlace root) = none) (content : String) (unsynced : List (List String))
    (valid : content = emptyPrivValidatorState ∨ unsynced ≠ []) :
    SignKept root start (Function.update s.1 (signPlace root) (some (.file content)), unsynced) where
  elsewhere place apart := by
    have other : place ≠ signPlace root := by
      rintro rfl
      exact not_elsewhere_data [privValidatorStateFile] apart
    exact (Function.update_of_ne other ..).trans (kept.elsewhere place apart)
  data := .inl ((Function.update_of_ne signPlace_ne_dataPlace.symm ..).trans dir)
  kept content' original := by
    rw [absent] at original
    cases original
  zero _ := .inr ⟨content, Function.update_self .., valid⟩

theorem removeMarker (kept : SignKept root start s) :
    SignKept root start (Function.update s.1 (markerPlace root) none, s.2) := by
  refine ⟨fun place apart => ?_, kept.data.imp (unmarked_data s.1).trans fun none more => ?_, ?_, ?_⟩
  · exact (Function.update_of_ne apart.2 ..).trans (kept.elsewhere place apart)
  · exact (unmarked_below s.1 more).trans (none more)
  · exact fun content original => (unmarked_below s.1 _).trans (kept.kept content original)
  · intro absent
    dsimp only
    rw [show Function.update s.1 (markerPlace root) none (signPlace root) = s.1 (signPlace root) from
      unmarked_below s.1 _]
    exact kept.zero absent

end SignKept

/-! ## The run -/

abbrev ResetCalls (limit : Nat) := Observed limit observeUnsynced

/-- Every entry that is still to be removed is one of those listed. -/
def StillListed (root : List String) (entries : List DirEntry) (tree : Tree) : Prop :=
  ∀ name, name ≠ privValidatorStateFile → tree (dataPlace root ++ [name]) ≠ none →
    ∃ entry ∈ entries, entry.name = name

theorem StillListed.tail {entry : DirEntry} {rest : List DirEntry} {tree : Tree}
    (listed : StillListed root (entry :: rest) tree)
    (done : entry.name = privValidatorStateFile ∨ tree (dataPlace root ++ [entry.name]) = none) :
    StillListed root rest tree := by
  intro name other present
  obtain ⟨found, member, rfl⟩ := listed name other present
  rcases List.mem_cons.mp member with rfl | later
  · exact (done.elim other present).elim
  · exact ⟨found, later, rfl⟩

theorem StillListed.pruned {entries : List DirEntry} {place : List String} {tree after : Tree}
    (listed : StillListed root entries tree) (pruned : Pruned tree place after) :
    StillListed root entries after := by
  intro name other present
  refine listed name other fun absent => present ?_
  rcases pruned (dataPlace root ++ [name]) with same | ⟨-, none⟩
  · exact same.trans absent
  · exact none

/-- After the wipe: unless it has failed, nothing else is left in `data/`. -/
def Wiped (root : List String) (start : Tree) (done : Except String Unit)
    (s : Tree × List (List String)) : Prop :=
  SignKept root start s ∧ s.2 = [] ∧ (done = .ok () → Cleared root s.1)

theorem removeEntries_withstands (begun : ResetStart limit home root start)
    (entries : List DirEntry) :
    ∀ {s : Tree × List (List String)}, SignKept root start s → s.2 = [] →
      s.1 (dataPlace root) = some .dir →
      StillListed root entries s.1 →
      Program.Withstands (ResetCalls limit) (SignKept root start) (Wiped root start)
        (removeEntries (home ++ ["data"]) [privValidatorStateFile] entries) s := by
  induction entries with
  | nil =>
    intro s kept quiet dir listed
    refine .done kept ⟨kept, quiet, fun _ name other => ?_⟩
    by_contra present
    obtain ⟨entry, member, -⟩ := listed name other present
    cases member
  | cons entry rest ih =>
    intro s kept quiet dir listed
    unfold removeEntries
    by_cases keep : entry.name ∈ [privValidatorStateFile]
    · rw [if_pos keep]
      exact ih kept quiet dir (listed.tail (.inl (List.mem_singleton.mp keep)))
    rw [if_neg keep]
    have other : entry.name ≠ privValidatorStateFile := fun same =>
      keep (List.mem_singleton.mpr same)
    refine Observed.call kept fun reply tree _ answered unsynced notes => ?_
    obtain rfl : unsynced = s.2 := notes
    cases answered with
    | failed => exact .done kept ⟨kept, quiet, fun same => by cases same⟩
    | removePartly message isEntry pruned =>
      cases isEntry.place_eq (kept.walks_data begun dir)
      have after := (kept.pruned dir other pruned).1
      exact .done after ⟨after, quiet, fun same => by cases same⟩
    | removeAll isEntry pruned gone =>
      cases isEntry.place_eq (kept.walks_data begun dir)
      obtain ⟨after, dirAfter⟩ := kept.pruned dir other pruned
      exact ih after quiet dirAfter ((listed.pruned pruned).tail (.inr (gone _ (List.prefix_refl _))))

theorem wipeDirContents_withstands (begun : ResetStart limit home root start)
    (kept : SignKept root start s) (quiet : s.2 = []) :
    Program.Withstands (ResetCalls limit) (SignKept root start) (Wiped root start)
      (wipeDirContents (home ++ ["data"]) [privValidatorStateFile]) s := by
  refine Observed.call kept fun reply tree _ answered unsynced notes => ?_
  obtain rfl : unsynced = s.2 := notes
  cases answered with
  | failed => exact .done kept ⟨kept, quiet, fun same => by cases same⟩
  | noDir absent =>
    refine .done kept ⟨kept, quiet, fun _ name _ => ?_⟩
    rcases kept.data with dir | none
    · cases absent _ (kept.walks_data begun dir)
    · exact none [name]
  | readDir walks listed =>
    obtain ⟨rfl, dir⟩ := kept.data_of_walks begun walks
    refine removeEntries_withstands begun _ kept quiet dir fun name _ present => ?_
    obtain ⟨node, found⟩ := Option.ne_none_iff_exists'.mp present
    exact ⟨⟨name, node == .dir⟩, (listed _).mpr ⟨node, found, rfl⟩, rfl⟩

/-- The way to `data/` is there, and `data/` is made where there is nothing. -/
theorem madeKeeps_data (begun : ResetStart limit home root start) :
    MadeKeeps limit (fun s => SignKept root start s ∧ s.2 = [] ∧ Cleared root s.1)
      (home ++ ["data"]) := by
  rintro tree writing front place ⟨kept, quiet, cleared⟩ before entry free
  have here : front = home ++ ["data"] := by
    obtain ⟨more, same⟩ := before
    rcases List.eq_nil_or_concat more with rfl | ⟨middle, last, rfl⟩
    · rwa [List.append_nil] at same
    · rw [List.concat_eq_append, ← List.append_assoc] at same
      obtain ⟨within, -⟩ := List.append_inj' same rfl
      exact absurd free (entry.taken ⟨middle, within⟩ (kept.walks_home begun))
  subst here
  obtain rfl : place = dataPlace root := entry.place_eq (kept.walks_home begun)
  have below (more : List String) (some_ : more ≠ []) :
      Function.update tree (dataPlace root) (some .dir) (dataPlace root ++ more)
        = tree (dataPlace root ++ more) := by
    refine Function.update_of_ne (fun same => some_ ?_) ..
    exact List.append_right_eq_self.mp same
  refine ⟨kept.change (fun other apart _ => ?_) (Function.update_self ..) (below _ (by simp)), quiet,
    fun name other => (below _ (by simp)).trans (cleared name other)⟩
  have other_ : other ≠ dataPlace root := by
    rintro rfl
    exact apart (List.prefix_refl _)
  exact Function.update_of_ne other_ ..

def expectedSignState (start : Option Node) : String :=
  match start with
  | some (.file content) => content
  | _ => emptyPrivValidatorState

structure SignSettled (root : List String) (start tree : Tree) : Prop where
  dir : tree (dataPlace root) = some .dir
  cleared : Cleared root tree
  sign : tree (signPlace root) = some (.file (expectedSignState (start (signPlace root))))

theorem SignKept.walks_sign (kept : SignKept root start s) (begun : ResetStart limit home root start)
    (dir : s.1 (dataPlace root) = some .dir) :
    (s.1 (signPlace root) = none ∧ Walks s.1 limit [] (home ++ ["data"] ++ [privValidatorStateFile])
        ⟨signPlace root, .missing⟩) ∨
      (∃ content, s.1 (signPlace root) = some (.file content)) ∧
        Walks s.1 limit [] (home ++ ["data"] ++ [privValidatorStateFile]) ⟨signPlace root, .file⟩ := by
  have walks := kept.walks_data begun dir
  have sign : s.1 (signPlace root) = none ∨ ∃ content, s.1 (signPlace root) = some (.file content) := by
    rcases begun.sign with absent | ⟨content, original⟩
    · exact (kept.zero absent).imp_right fun ⟨content, present, _⟩ => ⟨content, present⟩
    · exact .inr ⟨content, kept.kept content original⟩
  rcases sign with absent | ⟨content, present⟩
  · exact .inl ⟨absent, walks.extend rfl fun left => .missing normal_sign absent⟩
  · exact .inr ⟨⟨content, present⟩, walks.extend rfl fun left => .file normal_sign present⟩

theorem SignKept.expected (kept : SignKept root start s) (quiet : s.2 = [])
    (begun : ResetStart limit home root start) (present : s.1 (signPlace root) ≠ none) :
    s.1 (signPlace root) = some (.file (expectedSignState (start (signPlace root)))) := by
  rcases begun.sign with absent | ⟨content, original⟩
  · rw [absent]
    rcases kept.zero absent with none | ⟨content, found, rfl | writing⟩
    · exact absurd none present
    · exact found
    · exact absurd quiet writing
  · rw [original]
    exact kept.kept content original

theorem cleared_setSign {tree : Tree} (cleared : Cleared root tree) (node : Node) :
    Cleared root (Function.update tree (signPlace root) (some node)) := by
  intro name other
  refine (Function.update_of_ne (fun same => other ?_) ..).trans (cleared name other)
  have last := List.append_cancel_left (show dataPlace root ++ [name] = dataPlace root ++ _ from same)
  simpa using last

/-- What a run that succeeds leaves; the sign state is synced. -/
structure SignDone (root : List String) (start : Tree) (s : Tree × List (List String)) : Prop where
  kept : SignKept root start s
  synced : s.2 = []
  settled : SignSettled root start s.1

theorem writeOpened_withstands (kept : SignKept root start s)
    (dir : s.1 (dataPlace root) = some .dir) (cleared : Cleared root s.1)
    (never : start (signPlace root) = none) (unsynced : s.2 = [signPlace root])
    (opened : s.1 (signPlace root) = some (.file "")) :
    Program.Withstands (ResetCalls limit) (SignKept root start)
      (fun done t => SignKept root start t ∧ (done = .ok () → SignDone root start t))
      (do
        match ← Fs.write (signPlace root) emptyPrivValidatorState with
        | .error err => pure (.error err)
        | .ok () => Fs.sync (signPlace root)) s := by
  refine Observed.call kept fun reply tree _ answered unsynced' notes => ?_
  obtain rfl : unsynced' = s.2 := notes
  cases answered with
  | failed => exact .done kept ⟨kept, fun same => by cases same⟩
  | @writePartly _ _ old written _ message opened' part =>
    have after := kept.setSign dir never (old ++ written) s.2 (.inr (by simp [unsynced]))
    exact .done after ⟨after, fun same => by cases same⟩
  | @write _ _ old opened' =>
    cases opened.symm.trans opened'
    rw [String.empty_append]
    have after (unsynced : List (List String)) :=
      kept.setSign dir never emptyPrivValidatorState unsynced (.inl rfl)
    refine Program.Withstands.call (after s.2) fun synced u answered => ?_
    obtain ⟨⟨touched, answered⟩, notes⟩ := answered
    obtain ⟨tree', unsynced''⟩ := u
    dsimp only at answered notes
    cases answered with
    | failed =>
      obtain rfl : unsynced'' = s.2 := notes
      exact .done (after _) ⟨after _, fun same => by cases same⟩
    | sync =>
      obtain rfl : unsynced'' = [] := by
        rw [notes, unsynced]
        simp [observeUnsynced]
      refine .done (after []) ⟨after [], fun _ => ⟨after [], rfl, ?_, cleared_setSign cleared _, ?_⟩⟩
      · exact (Function.update_of_ne signPlace_ne_dataPlace.symm ..).trans dir
      · rw [never]
        exact Function.update_self ..

theorem writeFileSynced_withstands (begun : ResetStart limit home root start)
    (kept : SignKept root start s) (quiet : s.2 = []) (dir : s.1 (dataPlace root) = some .dir)
    (cleared : Cleared root s.1) (absent : s.1 (signPlace root) = none) :
    Program.Withstands (ResetCalls limit) (SignKept root start)
      (fun done t => SignKept root start t ∧ (done = .ok () → SignDone root start t))
      (writeFileSynced (home ++ ["data"] ++ [privValidatorStateFile]) emptyPrivValidatorState) s := by
  have never : start (signPlace root) = none := by
    rcases begun.sign with none | ⟨content, original⟩
    · exact none
    · cases absent.symm.trans (kept.kept content original)
  refine Observed.call kept fun reply tree _ answered unsynced notes => ?_
  cases answered with
  | failed =>
    obtain rfl : unsynced = s.2 := notes
    exact .done kept ⟨kept, fun same => by cases same⟩
  | @openTrunc _ found walks notDir =>
    rcases kept.walks_sign begun dir with ⟨-, missing⟩ | ⟨⟨content, present⟩, -⟩
    · cases walks.unique missing
      obtain rfl : unsynced = [signPlace root] := by
        rw [notes, quiet]
        rfl
      exact writeOpened_withstands (s := (_, [signPlace root]))
        (kept.setSign dir never "" [signPlace root] (.inr (by simp)))
        ((Function.update_of_ne signPlace_ne_dataPlace.symm ..).trans dir)
        (cleared_setSign cleared _) never rfl (Function.update_self ..)
    · cases absent.symm.trans present

theorem ensureSignState_withstands (begun : ResetStart limit home root start)
    (kept : SignKept root start s) (quiet : s.2 = []) (dir : s.1 (dataPlace root) = some .dir)
    (cleared : Cleared root s.1) :
    Program.Withstands (ResetCalls limit) (SignKept root start) (fun _ t => SignDone root start t)
      (ensureSignState (home ++ ["data"] ++ [privValidatorStateFile])) s := by
  refine Observed.call kept fun reply tree _ answered unsynced notes => ?_
  obtain rfl : unsynced = s.2 := notes
  cases answered with
  | failed => exact .fail kept
  | stat walks present =>
    refine .done kept ⟨kept, quiet, dir, cleared, kept.expected quiet begun fun absent => ?_⟩
    rcases kept.walks_sign begun dir with ⟨-, missing⟩ | ⟨⟨content, found⟩, -⟩
    · cases walks.unique missing
      exact present rfl
    · cases absent.symm.trans found
  | noStat none =>
    rcases kept.walks_sign begun dir with ⟨absent, -⟩ | ⟨-, file⟩
    · refine Program.Withstands.bind (writeFileSynced_withstands begun kept quiet dir cleared absent)
        fun done t after => ?_
      cases done with
      | error err => exact .fail after.1
      | ok => exact .done after.1 (after.2 rfl)
    · cases none _ file

theorem removeMarker_withstands (begun : ResetStart limit home root start)
    (done : SignDone root start s) :
    Program.Withstands (ResetCalls limit) (SignKept root start)
      (fun _ t => SignDone root start t ∧ t.1 (markerPlace root) = none)
      (removeMarker (home ++ [stateSyncMarkerFile])) s := by
  have kept := done.kept
  have settled := done.settled
  refine Observed.call kept fun reply tree _ answered unsynced notes => ?_
  obtain rfl : unsynced = s.2 := notes
  cases answered with
  | failed => exact .fail kept
  | noRemove entry absent =>
    cases entry.place_eq (kept.walks_home begun)
    exact .done kept ⟨done, absent⟩
  | remove entry present empty =>
    cases entry.place_eq (kept.walks_home begun)
    refine .done kept.removeMarker
      ⟨⟨kept.removeMarker, done.synced, ?_, ?_, ?_⟩, Function.update_self ..⟩
    · exact (unmarked_data s.1).trans settled.dir
    · exact fun name other => (unmarked_below s.1 _).trans (settled.cleared name other)
    · exact (unmarked_below s.1 _).trans settled.sign

theorem resetData_withstands (isPrint : Char → Bool) (env : ResetEnv)
    (begun : ResetStart limit home root start) (kept : SignKept root start s) (quiet : s.2 = []) :
    Program.Withstands (ResetCalls limit) (SignKept root start)
      (fun _ t => SignDone root start t ∧ t.1 (markerPlace root) = none)
      (resetData isPrint home env) s := by
  unfold resetData
  split
  · exact .fail kept
  refine Program.Withstands.ofExcept_bind kept fun _ _ => ?_
  refine Program.Withstands.ofExcept_bind kept fun _ _ => ?_
  refine Program.Withstands.bind (wipeDirContents_withstands begun kept quiet) fun done t wiped => ?_
  obtain ⟨kept, quiet, cleared⟩ := wiped
  cases done with
  | error err => exact .fail kept
  | ok =>
    have made := mkdirAll_withstands observeUnsynced_unnoted (madeKeeps_data begun)
      (s := t) ⟨kept, quiet, cleared rfl⟩
    refine Program.Withstands.bind (made.mono (fun _ now => now.1) fun _ _ post => post)
      fun done t post => ?_
    obtain ⟨⟨kept, quiet, cleared⟩, dir⟩ := post
    cases done with
    | error err => exact .fail kept
    | ok =>
      obtain ⟨place, walks⟩ := dir rfl
      obtain ⟨-, dir⟩ := kept.data_of_walks begun walks
      refine Program.Withstands.bind (ensureSignState_withstands begun kept quiet dir cleared)
        fun _ t after => ?_
      refine Program.Withstands.bind (removeMarker_withstands begun after) fun _ t after => ?_
      exact .done after.1.kept after

end

/-! ## Runs -/

/-- Any number of runs one after the other, each stopped at any of its calls and each from what
the last stop left; `ends` says with which files unsynced a run may stop. -/
inductive ResetRuns (limit : Nat) (isPrint : Char → Bool) (home : List String)
    (ends : List (List String) → Prop) (start : Tree) : Tree → Prop
  | none : ResetRuns limit isPrint home ends start start
  | run {tree cut after : Tree} {unsynced : List (List String)} {remaining : Fs ResetDataResult}
      (before : ResetRuns limit isPrint home ends start tree) (env : ResetEnv)
      (attains : Program.Attains (ResetCalls limit) (resetData isPrint home env) (tree, [])
        remaining (cut, unsynced))
      (stopped : ends unsynced) (left : Left cut unsynced after) :
      ResetRuns limit isPrint home ends start after

section

variable {limit : Nat} {home root : List String} {start : Tree}

theorem ResetStart.signKept (begun : ResetStart limit home root start) :
    SignKept root start (start, []) where
  elsewhere _ _ := rfl
  data := begun.data
  kept _ original := original
  zero absent := .inl absent

theorem ResetRuns.signKept {isPrint : Char → Bool} (begun : ResetStart limit home root start)
    {tree : Tree} (runs : ResetRuns limit isPrint home (· = []) start tree) :
    SignKept root start (tree, []) := by
  induction runs with
  | none => exact begun.signKept
  | run before env attains stopped left ih =>
    have after := (resetData_withstands isPrint env begun ih rfl).always _ _ attains
    subst stopped
    rwa [left.eq_of_synced]

/-- After any runs, none of which stopped between opening the sign state and having synced it, a
run that succeeds leaves `data/` with the sign state alone, and the rest of the disk as it was,
but for the marker; a stop after it takes nothing of that back. -/
theorem reset_keeps_sign_state {isPrint : Char → Bool} (begun : ResetStart limit home root start)
    {tree final after : Tree} (runs : ResetRuns limit isPrint home (· = []) start tree)
    (env : ResetEnv) {result : ResetDataResult} {unsynced : List (List String)}
    (last : Program.Attains (ResetCalls limit) (resetData isPrint home env) (tree, [])
      (.done result) (final, unsynced)) (left : Left final unsynced after) :
    after (dataPlace root) = some .dir ∧
      (∀ name, after (dataPlace root ++ [name]) ≠ none ↔ name = privValidatorStateFile) ∧
      after (signPlace root)
        = some (.file (expectedSignState (start (signPlace root)))) ∧
      after (markerPlace root) = none ∧
      ∀ place, Elsewhere root place → after place = start place := by
  have runOf := resetData_withstands isPrint env begun (runs.signKept begun) rfl
  obtain ⟨⟨kept, synced, settled⟩, marker⟩ := runOf.returns _ _ last
  dsimp only at synced settled marker
  subst synced
  rw [left.eq_of_synced]
  refine ⟨settled.dir, fun name => ⟨fun present => ?_, ?_⟩, settled.sign, marker, kept.elsewhere⟩
  · by_contra other
    exact present (settled.cleared name other)
  · rintro rfl absent
    cases absent.symm.trans settled.sign

end

/-! ## Two runs -/

theorem listed_files {tree : Tree} {place : List String} (names : List String)
    (content : String → String) (files : ∀ name, tree (place ++ [name])
      = if name ∈ names then some (.file (content name)) else none) :
    Listed tree place (names.map fun name => ⟨name, false⟩) := by
  rintro ⟨name, isDir⟩
  have kind : (Node.file (content name) == Node.dir) = false := by rw [beq_eq_false_iff_ne]; simp
  rw [files]
  by_cases listed : name ∈ names
  · simp [listed, kind]
  · simp [listed]

def bareHome : Tree := fun place =>
  if place = ["h"] ∨ place = ["h", "data"] then some .dir
  else if place = markerPlace ["h"] then some (.file "") else none

def signedHome (content : String) : Tree :=
  Function.update bareHome (signPlace ["h"]) (some (.file content))

def usedHome : Tree :=
  Function.update (signedHome "signed") ["h", "data", "blockstore.db"] (some (.file "blocks"))

def heldEnv : ResetEnv := ⟨false, .ok [], .ok [], .ok 0⟩

theorem bareHome_begun : ResetStart 40 ["h"] ["h"] bareHome where
  home := walk_iff.mp (by decide +kernel)
  data := .inl (by decide)
  sign := .inl (by decide)

theorem signedHome_data (content name : String) : signedHome content (dataPlace ["h"] ++ [name])
    = if name ∈ [privValidatorStateFile] then some (.file content) else none := by
  by_cases sign : name = privValidatorStateFile
  · subst sign
    simp [signedHome, signPlace]
  · have other : dataPlace ["h"] ++ [name] ≠ signPlace ["h"] := by
      simpa [signPlace] using sign
    rw [signedHome, Function.update_of_ne other, if_neg (by simpa using sign)]
    simp [bareHome, dataPlace, markerPlace]

theorem attains_opened : ∃ remaining : Fs ResetDataResult,
    Program.Attains (ResetCalls 40) (resetData Char.isAlphanum ["h"] heldEnv) (bareHome, [])
      remaining (signedHome "", [signPlace ["h"]]) := by
  have data : Walks bareHome 40 [] ["h", "data"] ⟨["h", "data"], .dir⟩ :=
    walk_iff.mp (by decide +kernel)
  have missing : Walks bareHome 40 [] (["h", "data"] ++ [privValidatorStateFile])
      ⟨signPlace ["h"], .missing⟩ := walk_iff.mp (by decide +kernel)
  have empty : Listed bareHome ["h", "data"] [] :=
    listed_files [] id fun name => by simp [bareHome, markerPlace]
  have listed : ResetCalls 40 (bareHome, []) (.readDir ["h", "data"]) (.ok []) (bareHome, []) :=
    ⟨⟨_, .readDir data empty⟩, rfl⟩
  have found : ResetCalls 40 (bareHome, []) (.stat ["h", "data"]) (.ok true) (bareHome, []) :=
    ⟨⟨_, .stat data (by simp)⟩, rfl⟩
  have absent : ResetCalls 40 (bareHome, []) (.stat (["h", "data"] ++ [privValidatorStateFile]))
      (.error .notExist) (bareHome, []) :=
    ⟨⟨_, .noStat fun other walks => by cases walks.unique missing; rfl⟩, rfl⟩
  have opened : ResetCalls 40 (bareHome, []) (.openTrunc (["h", "data"] ++ [privValidatorStateFile]))
      (.ok (signPlace ["h"])) (signedHome "", [signPlace ["h"]]) :=
    ⟨⟨_, .openTrunc missing (by simp)⟩, rfl⟩
  exact ⟨_, .call listed (.call found (.call absent (.call opened (.here _ _))))⟩

theorem attains_kept (content : String) :
    Program.Attains (ResetCalls 40) (resetData Char.isAlphanum ["h"] heldEnv)
      (signedHome content, []) (.done ⟨0⟩)
      (Function.update (signedHome content) (markerPlace ["h"]) none, []) := by
  have grows : Grows bareHome (signedHome content) :=
    Grows.update fun old found => by cases found
  have home : Walks (signedHome content) 40 [] ["h"] ⟨["h"], .dir⟩ :=
    (walk_iff.mp (by decide +kernel)).grows grows rfl
  have data : Walks (signedHome content) 40 [] ["h", "data"] ⟨["h", "data"], .dir⟩ :=
    (walk_iff.mp (by decide +kernel)).grows grows rfl
  have sign : Walks (signedHome content) 40 [] (["h", "data"] ++ [privValidatorStateFile])
      ⟨signPlace ["h"], .file⟩ :=
    data.extend rfl fun _ => .file normal_sign (Function.update_self ..)
  have marker : IsEntry (signedHome content) 40 (["h"] ++ [stateSyncMarkerFile]) (markerPlace ["h"]) :=
    ⟨["h"], _, ["h"], rfl, ⟨by decide, by decide, by decide⟩, home, rfl⟩
  have marked : signedHome content (markerPlace ["h"]) = some (.file "") :=
    (Function.update_of_ne (by decide) ..).trans (by decide)
  have below (name : String) : signedHome content (markerPlace ["h"] ++ [name]) = none := by
    simp [signedHome, bareHome, Function.update, signPlace, dataPlace, markerPlace,
      stateSyncMarkerFile]
  have listed : ResetCalls 40 (signedHome content, []) (.readDir ["h", "data"])
      (.ok [⟨privValidatorStateFile, false⟩]) (signedHome content, []) :=
    ⟨⟨_, .readDir data (listed_files _ _ (signedHome_data content))⟩, rfl⟩
  have found : ResetCalls 40 (signedHome content, []) (.stat ["h", "data"]) (.ok true)
      (signedHome content, []) := ⟨⟨_, .stat data (by simp)⟩, rfl⟩
  have present : ResetCalls 40 (signedHome content, [])
      (.stat (["h", "data"] ++ [privValidatorStateFile])) (.ok false) (signedHome content, []) :=
    ⟨⟨_, .stat sign (by simp)⟩, rfl⟩
  have unmarked : ResetCalls 40 (signedHome content, []) (.remove (["h"] ++ [stateSyncMarkerFile]))
      (.ok ()) (Function.update (signedHome content) (markerPlace ["h"]) none, []) :=
    ⟨⟨_, .remove marker marked below⟩, rfl⟩
  exact .call listed (.call found (.call present (.call unmarked (.here _ _))))

/-- The wipe takes the blocks, and the run is cut off. -/
theorem attains_wiped : ∃ remaining : Fs ResetDataResult,
    Program.Attains (ResetCalls 40) (resetData Char.isAlphanum ["h"] heldEnv) (usedHome, [])
      remaining (signedHome "signed", []) := by
  have data : Walks usedHome 40 [] ["h", "data"] ⟨["h", "data"], .dir⟩ :=
    walk_iff.mp (by decide +kernel)
  have files : Listed usedHome ["h", "data"]
      [⟨"blockstore.db", false⟩, ⟨privValidatorStateFile, false⟩] := by
    refine listed_files ["blockstore.db", privValidatorStateFile]
      (fun name => if name = "blockstore.db" then "blocks" else "signed") fun name => ?_
    by_cases blocks : name = "blockstore.db"
    · subst blocks
      simp [usedHome]
    · have other : ["h", "data"] ++ [name] ≠ ["h", "data", "blockstore.db"] := by
        simpa using blocks
      rw [usedHome, Function.update_of_ne other]
      simpa [blocks, dataPlace] using signedHome_data "signed" name
  have listed : ResetCalls 40 (usedHome, []) (.readDir ["h", "data"])
      (.ok [⟨"blockstore.db", false⟩, ⟨privValidatorStateFile, false⟩]) (usedHome, []) :=
    ⟨⟨_, .readDir data files⟩, rfl⟩
  have entry : IsEntry usedHome 40 (["h", "data"] ++ ["blockstore.db"]) ["h", "data", "blockstore.db"] :=
    ⟨["h", "data"], _, ["h", "data"], rfl, ⟨by decide, by decide, by decide⟩, data, rfl⟩
  have gone (other : List String) (inside : ["h", "data", "blockstore.db"] <+: other) :
      signedHome "signed" other = none := by
    obtain ⟨more, rfl⟩ := inside
    simp [signedHome, bareHome, Function.update, signPlace, dataPlace, markerPlace,
      privValidatorStateFile]
  have pruned : Pruned usedHome ["h", "data", "blockstore.db"] (signedHome "signed") := by
    intro other
    by_cases same : other = ["h", "data", "blockstore.db"]
    · subst same
      exact .inr ⟨List.prefix_refl _, gone _ (List.prefix_refl _)⟩
    · exact .inl (Function.update_of_ne same ..).symm
  have removed : ResetCalls 40 (usedHome, []) (.removeAll (["h", "data"] ++ ["blockstore.db"]))
      (.ok ()) (signedHome "signed", []) := ⟨⟨_, .removeAll entry pruned gone⟩, rfl⟩
  exact ⟨_, .call listed (.call removed (.here _ _))⟩

/-- A run that is cut off after it has opened the sign state leaves an empty one, and the
next run succeeds with it. -/
theorem cut_off_write_kept : ∃ (tree final : Tree) (result : ResetDataResult),
    ResetStart 40 ["h"] ["h"] bareHome ∧
      ResetRuns 40 Char.isAlphanum ["h"] (fun _ => True) bareHome tree ∧
      Program.Attains (ResetCalls 40) (resetData Char.isAlphanum ["h"] heldEnv) (tree, [])
        (.done result) (final, []) ∧
      final (signPlace ["h"]) = some (.file "") ∧
      expectedSignState (bareHome (signPlace ["h"])) ≠ "" := by
  obtain ⟨remaining, opened⟩ := attains_opened
  refine ⟨signedHome "", _, ⟨0⟩, bareHome_begun,
    .run .none heldEnv opened trivial (.refl _ _), attains_kept "", by decide, by decide⟩

/-- A run that wipes the blocks and is cut off, then one that succeeds. -/
theorem reset_keeps_sign_state_signed :
    ∃ final, usedHome ["h", "data", "blockstore.db"] = some (.file "blocks") ∧
      ResetRuns 40 Char.isAlphanum ["h"] (· = []) usedHome (signedHome "signed") ∧
      Program.Attains (ResetCalls 40) (resetData Char.isAlphanum ["h"] heldEnv)
        (signedHome "signed", []) (.done ⟨0⟩) (final, []) ∧
      (∀ name, final (dataPlace ["h"] ++ [name]) ≠ none ↔ name = privValidatorStateFile) ∧
      final (signPlace ["h"]) = some (.file "signed") ∧ final (markerPlace ["h"]) = none := by
  have begun : ResetStart 40 ["h"] ["h"] usedHome :=
    ⟨walk_iff.mp (by decide +kernel), .inl (by decide), .inr ⟨"signed", by decide⟩⟩
  obtain ⟨remaining, wiped⟩ := attains_wiped
  have runs : ResetRuns 40 Char.isAlphanum ["h"] (· = []) usedHome (signedHome "signed") :=
    .run .none heldEnv wiped rfl (.refl _ _)
  obtain ⟨-, only, sign, marker, -⟩ :=
    reset_keeps_sign_state begun runs heldEnv (attains_kept "signed") (.refl _ _)
  exact ⟨_, by decide, runs, attains_kept "signed", only, sign, marker⟩

end SeiController
