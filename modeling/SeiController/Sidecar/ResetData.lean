import SeiController.Lib.FileOps
import SeiController.Lib.GoText
import SeiController.Lib.Toml

/-!
# The data reset

`reset-data` empties `data/` for a new bootstrap and keeps the sign state in it.  What the
handler asks of the rest of the pod is given with the run: whether the local RPC serves,
which processes use the data, and what `config.toml` says.
-/

set_option autoImplicit false

namespace SeiController

open FileTree GoPath

def privValidatorStateFile : String := "priv_validator_state.json"

def stateSyncMarkerFile : String := ".sei-sidecar-statesync-done"

def emptyPrivValidatorState : String := "\x7b\"height\":\"0\",\"round\":0,\"step\":0\x7d\n"

structure ResetEnv where
  probeUp : Bool
  dataUsers : Except String (List String)
  config : Except String (List (String × Toml))
  measured : Except String Int

structure ResetDataResult where
  wipedBytes : Int

def refuseDataUsers : Except String (List String) → Except String Unit
  | .error err =>
    .error ("reset-data: listing processes that use the data directory: " ++ err)
  | .ok users =>
    if users ≠ [] then
      .error ("reset-data: " ++ ", ".intercalate users ++
        " running in the pod — refusing to wipe data it is using; finish or stop it first")
    else .ok ()

/-- The two spellings of the path that the wipe knows how to keep. -/
def keptSignState (home : List String) (configured : String) : Bool :=
  configured == "" ||
    (!isAbs configured && clean configured == ["data", privValidatorStateFile]) ||
    (isAbs configured && clean configured == home ++ ["data", privValidatorStateFile])

def refuseMovedSignState (isPrint : Char → Bool) (home : List String) :
    Except String (List (String × Toml)) → Except String Unit
  | .error err =>
    .error ("reset-data: reading " ++ pathText (home ++ ["config", "config.toml"]) ++
      " to locate the sign state: " ++ err)
  | .ok doc =>
    ["priv-validator", "priv_validator"].forM fun sectionName =>
      match Assoc.get sectionName doc with
      | none => .ok ()
      | some (.table fields) =>
        ["state-file", "state_file"].forM fun key =>
          match Assoc.get key fields with
          | none => .ok ()
          | some (.str configured) =>
            if keptSignState home configured then .ok ()
            else
              .error ("reset-data: config.toml sets [" ++ sectionName ++ "] " ++ key ++ " = " ++
                GoText.quote isPrint configured ++ "; the reset keeps only data/" ++
                privValidatorStateFile ++
                ", so it refuses rather than risk deleting the sign state")
          | some _ =>
            .error ("reset-data: config.toml [" ++ sectionName ++ "] " ++ key ++
              " is not a string; refusing rather than guess where the sign state is")
      | some _ =>
        .error ("reset-data: config.toml [" ++ sectionName ++
          "] is not a table; refusing rather than guess where the sign state is")

def writeFileSynced (path : List String) (content : String) : Fs (Except FsError Unit) := do
  match ← Fs.openTrunc path with
  | .error err => pure (.error err)
  | .ok file =>
    match ← Fs.write file content with
    | .error err => pure (.error err)
    | .ok () => Fs.sync file

def removeEntries (path : List String) (keep : List String) : List DirEntry → Fs (Except String Unit)
  | [] => pure (.ok ())
  | entry :: rest =>
    if entry.name ∈ keep then removeEntries path keep rest
    else do
      match ← Fs.removeAll (path ++ [entry.name]) with
      | .error (.other message) =>
        pure (.error ("removing " ++ pathText (path ++ [entry.name]) ++ ": " ++ message))
      | _ => removeEntries path keep rest

def wipeDirContents (path : List String) (keep : List String) : Fs (Except String Unit) := do
  match ← Fs.readDir path with
  | .error .notExist => pure (.ok ())
  | .error (.other message) => pure (.error message)
  | .ok entries => removeEntries path keep entries

/-- Write the zero state, but only where there is none. -/
def ensureSignState (statePath : List String) : Fs Unit := do
  match ← Fs.stat statePath with
  | .ok _ => pure ()
  | .error .notExist =>
    match ← writeFileSynced statePath emptyPrivValidatorState with
    | .error err => .fail ("reset-data: writing " ++ pathText statePath ++ ": " ++ err.message)
    | .ok () => pure ()
  | .error (.other message) =>
    .fail ("reset-data: checking " ++ pathText statePath ++ ": " ++ message)

def removeMarker (markerPath : List String) : Fs Unit := do
  match ← Fs.remove markerPath with
  | .error (.other message) =>
    .fail ("reset-data: removing marker " ++ pathText markerPath ++ ": " ++ message)
  | _ => pure ()

def resetData (isPrint : Char → Bool) (home : List String) (env : ResetEnv) :
    Fs ResetDataResult := do
  if env.probeUp then
    .fail ("reset-data: seid RPC is serving; node is not held — " ++
      "refusing to wipe a live data directory")
  else
    Program.ofExcept (refuseDataUsers env.dataUsers)
    Program.ofExcept (refuseMovedSignState isPrint home env.config)
    let dataDir := home ++ ["data"]
    let size := match env.measured with
      | .ok size => size
      | .error _ => -1
    match ← wipeDirContents dataDir [privValidatorStateFile] with
    | .error err => .fail ("reset-data: wiping " ++ pathText dataDir ++ ": " ++ err)
    | .ok () =>
      match ← mkdirAll dataDir with
      | .error err => .fail ("reset-data: recreating " ++ pathText dataDir ++ ": " ++ err.message)
      | .ok () =>
        ensureSignState (dataDir ++ [privValidatorStateFile])
        removeMarker (home ++ [stateSyncMarkerFile])
        pure ⟨size⟩

end SeiController
