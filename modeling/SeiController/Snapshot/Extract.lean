import SeiController.Lib.FileOps
import SeiController.Lib.GoText

/-!
# Unpacking an archive

`extractTarStream` over the headers of an archive, in their order.  The checks of the names
are lexical: they look at the names alone and not at what is on the disk.
-/

set_option autoImplicit false

namespace SeiController

open FileTree GoPath

inductive Typeflag
  | dir
  | reg
  | symlink
  | other
deriving DecidableEq

structure TarHeader where
  name : String
  typeflag : Typeflag
  linkname : String
  /-- The bytes that follow the header of a regular file. -/
  content : String

/-- The path relative to the base may not begin with a dot. -/
def isInsideDir (target base : List String) : Bool :=
  target == base ||
    match below base target with
    | some (first :: _) => first.toList.head? != some '.'
    | _ => false

def extractFile (content : String) (path : List String) : Fs Unit := do
  match ← mkdirAll (dir path) with
  | .error err => .fail ("creating parent directory for " ++ pathText path ++ ": " ++ err.message)
  | .ok () =>
    match ← Fs.openTrunc path with
    | .error err => .fail ("creating file " ++ pathText path ++ ": " ++ err.message)
    | .ok file =>
      match ← Fs.write file content with
      | .error err => .fail ("writing file " ++ pathText path ++ ": " ++ err.message)
      | .ok () => pure ()

def extractEntry (isPrint : Char → Bool) (destDir : List String) (header : TarHeader) : Fs Unit :=
  let target := join destDir (clean header.name)
  if isInsideDir target destDir then
    match header.typeflag with
    | .dir => do
        match ← mkdirAll target with
        | .error err => .fail ("creating directory " ++ pathText target ++ ": " ++ err.message)
        | .ok () => pure ()
    | .reg => extractFile header.content target
    | .symlink => do
        if isInsideDir (join (dir target) (split header.linkname)) destDir then
          match ← Fs.symlink header.linkname target with
          | .error err => .fail ("creating symlink " ++ pathText target ++ ": " ++ err.message)
          | .ok () => pure ()
        else
          .fail ("symlink " ++ GoText.quote isPrint header.name ++
            " points outside destination directory")
    | .other => pure ()
  else
    .fail ("tar entry " ++ GoText.quote isPrint header.name ++ " escapes destination directory")

def extractTarStream (isPrint : Char → Bool) (destDir : List String) : List TarHeader → Fs Unit
  | [] => pure ()
  | header :: rest => do
      extractEntry isPrint destDir header
      extractTarStream isPrint destDir rest

end SeiController
