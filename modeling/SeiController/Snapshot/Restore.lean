import SeiController.Snapshot.Extract
import SeiController.Snapshot.Resolve

/-!
# Restoring a snapshot

One `Restore` run: pick an archive, download it, note its height, unpack it over what is in
`data/snapshots` and write the marker.  The object store's answers are given with the run;
the temporary file the archive is downloaded to is left out.
-/

set_option autoImplicit false

namespace SeiController

open FileTree GoInt GoPath

def restoreMarkerFile : String := ".sei-sidecar-snapshot-done"

def snapshotHeightFile : String := ".sei-sidecar-snapshot-height"

def snapshotsPath (home : List String) : List String := home ++ ["data", "snapshots"]

structure RestoreEnv where
  /-- Whether the store's clients can be built. -/
  clients : Except String Unit
  pages : List (Except String Page)
  /-- Whether the temporary file can be made. -/
  tempFile : Except String Unit
  download : String → Except String (List TarHeader)

def osWriteFile (path : List String) (content : String) : Fs (Except FsError Unit) := do
  match ← Fs.openTrunc path with
  | .error err => pure (.error err)
  | .ok file => Fs.write file content

/-- A failure to note the height is logged, no more. -/
def recordHeight (home : List String) (height : Int) : Fs Unit :=
  if 0 < height then do
    let _ ← osWriteFile (home ++ [snapshotHeightFile]) (formatInt height)
    pure ()
  else pure ()

def SnapshotRestorer.writeMarker (home : List String) (name : String) : Fs Unit := do
  match ← Fs.openTrunc (home ++ [name]) with
  | .error err => .fail ("writing marker file " ++ pathText (home ++ [name]) ++ ": " ++ err.message)
  | .ok _ => pure ()

def restoreUnmarked (isPrint : Char → Bool) (home : List String) (bucket chainID : String)
    (target : Int) (env : RestoreEnv) : Fs Unit := do
  if target < 0 then .fail (negativeTarget target)
  else
    Program.ofExcept env.clients
    let key ← Program.ofExcept (resolveKeyForHeight bucket chainID target env.pages)
    if key = "" then
      .fail ("snapshot-restore: resolved snapshot key is empty for " ++ chainID ++ " in s3://" ++
        bucket ++ "/" ++ stateSyncKeys chainID)
    else
      Program.ofExcept env.tempFile
      let headers ← Program.ofExcept (env.download key)
      recordHeight home (parseHeightFromKey key)
      Program.mapError ("extracting snapshot: " ++ ·)
        (extractTarStream isPrint (snapshotsPath home) headers)
      SnapshotRestorer.writeMarker home restoreMarkerFile

def restore (isPrint : Char → Bool) (home : List String) (bucket chainID : String) (target : Int)
    (env : RestoreEnv) : Fs Unit := do
  match ← Fs.stat (home ++ [restoreMarkerFile]) with
  | .ok _ => pure ()
  | .error _ => restoreUnmarked isPrint home bucket chainID target env

def localSnapshotHeight (entries : List DirEntry) : Int :=
  (snapshotHeights entries).foldl (fun highest height => if highest < height then height else highest) 0

def discoverLocalSnapshotHeight (home : List String) : Fs Int := do
  match ← Fs.readDir (snapshotsPath home) with
  | .error err => .fail ("reading snapshots directory: " ++ err.message)
  | .ok entries =>
    if localSnapshotHeight entries = 0 then
      .fail ("no snapshot found in " ++ pathText (snapshotsPath home))
    else pure (localSnapshotHeight entries)

end SeiController
