import SeiController.Lib.FileOps
import SeiController.Lib.GoInt

/-!
# Uploading snapshots

One `Upload` run: pick the second-highest snapshot on disk, archive it under the key of its
height, point `latest.txt` at it, and record it in a local state file.  Every call may fail
or be the last one of the run.  The metrics are left out.
-/

set_option autoImplicit false

namespace SeiController

open GoInt
open FileTree (DirEntry)

def dirHeight (entry : DirEntry) : Option Int :=
  if entry.isDir then parseInt entry.name else none

def snapshotHeights (entries : List DirEntry) : List Int :=
  entries.filterMap dirHeight

/-- The second-to-latest height, or 0 with fewer than two snapshots. -/
def pickUploadCandidate (entries : List DirEntry) : Int :=
  let heights := snapshotHeights entries
  if heights.length < 2 then 0
  else (heights.mergeSort fun left right => left ≤ right).getD (heights.length - 2) 0

def stateSyncKeys (chainID : String) : String := chainID ++ "/state-sync/"

def archiveKey (chainID : String) (height : Int) : String :=
  stateSyncKeys chainID ++ formatInt height ++ ".tar.gz"

def latestKey (chainID : String) : String := stateSyncKeys chainID ++ "latest.txt"

/-- What is stored under a key: the archive of a snapshot or a text. -/
inductive Stored
  | archive (height : Int)
  | text (body : String)
deriving DecidableEq

inductive UploadOp
  | readDir
  | readState
  | newUploader
  | put (key : String) (object : Stored)
  | writeState (height : Int)

inductive ReadDirError
  | notExist
  | other (message : String)

def UploadOp.Reply : UploadOp → Type
  | readDir => Except ReadDirError (List DirEntry)
  | readState => Option Int
  | newUploader => Except String Unit
  | put _ _ => Except String Unit
  | writeState _ => Except String Unit

inductive UploadOutcome
  | uploaded (height : Int) (key : String)
  | fewerThanTwoSnapshots
  | alreadyUploaded (height : Int)
deriving DecidableEq

abbrev Upload (α : Type) := Program UploadOp UploadOp.Reply String α

/-- A state file that cannot be read or decoded counts as height 0. -/
def lastUploadedHeight (state : Option Int) : Int := state.getD 0

def Upload.orFail (message : String) : Except String Unit → Upload Unit
  | .ok () => .done ()
  | .error err => .fail (message ++ err)

def Upload.uploadPicked (chainID : String) (height : Int) : Upload UploadOutcome := do
  if height = 0 then pure .fewerThanTwoSnapshots
  else
    let state ← Program.perform UploadOp.readState
    if height ≤ lastUploadedHeight state then pure (.alreadyUploaded height)
    else
      let key := archiveKey chainID height
      let uploader ← Program.perform UploadOp.newUploader
      Upload.orFail "building S3 uploader: " uploader
      let archived ← Program.perform (UploadOp.put key (.archive height))
      Upload.orFail ("uploading " ++ key ++ ": ") archived
      let pointed ← Program.perform (UploadOp.put (latestKey chainID) (.text (formatInt height)))
      Upload.orFail ("uploading " ++ latestKey chainID ++ ": ") pointed
      let recorded ← Program.perform (UploadOp.writeState height)
      Upload.orFail "" recorded
      pure (.uploaded height key)

def Upload.upload (chainID : String) : Upload UploadOutcome := do
  let listed ← Program.perform UploadOp.readDir
  match (listed : Except ReadDirError (List DirEntry)) with
  | .ok entries => Upload.uploadPicked chainID (pickUploadCandidate entries)
  | .error .notExist => Upload.uploadPicked chainID 0
  | .error (.other err) => .fail ("reading snapshots directory: " ++ err)

end SeiController
