/-
# The program

The outer layer takes a picture of the part of the file system that the
arguments lead to, runs the program on it and writes the result. In the picture
a symbolic link leads straight to the place where it ends. Directories that the
settings prune are left empty, which changes no result, because nothing below
them is ever looked at. A path that is not a text leads nowhere in the picture.
-/

import SourceLines.Run

namespace SourceLines

namespace Snapshot

/-- The text of the place where a path ends. -/
def realText (path : String) : IO String :=
  return (← IO.FS.realPath path).toString

/-- Add the file at a path to a picture, under a path of its own. -/
def addFile (system : FileSystem) (path : String) : IO FileSystem := do
  return system.writeFile path (← IO.FS.readBinFile path).data.toList

/-- Add a symbolic link to a picture, together with the file to which it leads. A
link that leads nowhere is left out, and one that never ends leads to itself. -/
def addLink (system : FileSystem) (path : String) : IO FileSystem := do
  try
    let target := (System.mkFilePath [path])
    let type := (← target.metadata).type
    let place ← realText path
    let system := system.makeLink path place
    match type with
    | .file => addFile system place
    | _ => return system
  catch
    | .noFileOrDirectory .. => return system
    | _ => return system.makeLink path path

/-- Add everything below a directory to a picture, except what is pruned. -/
partial def addBelow (prunes : String → Bool) (system : FileSystem) (path : String) :
    IO FileSystem := do
  let mut system := system.makeDirectory path
  for entry in ← (System.mkFilePath [path]).readDir do
    let inner := entry.path.toString
    match (← entry.path.symlinkMetadata).type with
    | .file => system ← addFile system inner
    | .symlink => system ← addLink system inner
    | .dir =>
        if prunes entry.fileName then system := system.makeDirectory inner
        else system ← addBelow prunes system inner
    | .other => pure ()
  return system

/-- Add the places on the way of a path to a picture, one after another. -/
def addWay (system : FileSystem) (way : String) : List String → IO FileSystem
  | [] => return system
  | piece :: pieces => do
      let path := PathName.join way piece
      try
        let system ← match (← (System.mkFilePath [path]).symlinkMetadata).type with
          | .symlink => addLink system path
          | .dir => pure (system.makeDirectory path)
          | .file => addFile system path
          | .other => pure system
        addWay system path pieces
      catch _ => return system

/-- Add what a path leads to, and what is on its way. -/
def addPath (prunes : String → Bool) (system : FileSystem) (path : String) : IO FileSystem := do
  let way ← if PathName.isAbsolute path then pure "/" else realText "."
  let system ← addWay system way (FileSystem.namesOf path)
  try
    let place ← realText path
    match (← (System.mkFilePath [place]).metadata).type with
    | .dir => addBelow prunes system place
    | _ => return system
  catch _ => return system

/-- The picture of nothing but the working directory. -/
def start : IO FileSystem := do
  let place ← realText "."
  let system : FileSystem := ⟨[], FileSystem.namesOf place⟩
  return system.makeDirectory place

/-- The picture of what the arguments lead to. The settings are loaded first,
since they say what is pruned. -/
def ofArguments (arguments : Arguments) : IO FileSystem := do
  let mut system ← start
  if let some path := arguments.config.bind NativeText.toString? then
    system ← addPath (fun _ => true) system path
  let prunes := match Settings.loadNamed system arguments.config with
    | .ok settings => settings.ignore.prunesDirectory
    | .error _ => fun _ => true
  for directory in arguments.directories.filterMap NativeText.toString? do
    system ← addPath prunes system directory
  return system

end Snapshot

/-- Write the result of a run. -/
def RunResult.write (result : RunResult) : IO UInt32 := do
  IO.print result.standardOutput
  IO.eprint result.standardError
  return result.exitCode.toUInt32

end SourceLines

open SourceLines

/-- The program counts the lines below the directories that it is called with. -/
def main (arguments : List String) : IO UInt32 := do
  match CommandLine.parse (arguments.map NativeText.ofString) with
  | .error problem => (RunResult.usage problem).write
  | .ok parsed => (parsed.run (← Snapshot.ofArguments parsed)).write
