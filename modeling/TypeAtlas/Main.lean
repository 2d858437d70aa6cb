import TypeAtlas.Cli.Command

/-!
The program as it runs on a system.

Changes of files are found by looking at the times of their last changes again and again.
-/

set_option autoImplicit false

namespace TypeAtlas

open Cli (Outcome Watching)
open Files (Fault Host)

/-- A failure of the system as a fault. -/
def faultOf : IO.Error → Fault
  | .noFileOrDirectory _ _ _ => .notFound
  | .inappropriateType _ 20 _ => .notDirectory
  | .inappropriateType _ 21 _ => .isDirectory
  | .unsupportedOperation 21 _ => .isDirectory
  | .invalidArgument _ 36 _ => .tooLong
  | error => .other (toString error)

/-- What an action yields, or why it fails. -/
def attempt {α : Type} (action : IO α) : IO (Except Fault α) := do
  try
    return .ok (← action)
  catch error => return .error (faultOf error)

/-- Bytes as text. -/
def textOf (bytes : ByteArray) : Except Fault String :=
  match String.fromUTF8? bytes with
  | some text => .ok text
  | none => .error .notText

/-- The names on the way of a path that starts at the root. -/
def placeOf (path : String) : Files.Place :=
  ((Path.segments path.toList).map String.ofList).filter (!·.isEmpty)

/-- Reads everything that is given on the standard input. -/
partial def readAll (stream : IO.FS.Stream) (bytes : ByteArray) : IO ByteArray := do
  let more ← stream.read 65536
  if more.isEmpty then return bytes else readAll stream (bytes ++ more)

/-- Answers from the system. -/
def systemHost : Host IO where
  read path := do return (← attempt (IO.FS.readBinFile path.text)).bind textOf
  resolve path := attempt (do return placeOf (← IO.FS.realPath path.text).toString)
  isDirectory path := do
    match ← attempt (IO.FS.realPath path.text) with
    | .ok path => path.isDir
    | .error _ => return false
  input := do return (← attempt (do readAll (← IO.getStdin) .empty)).bind textOf

/-- When the files below a path changed last. -/
partial def stamps (path : Path) (recursive : Bool) : IO (List (Path × IO.FS.SystemTime)) := do
  match ← attempt (do (← IO.FS.realPath path.text).readDir) with
  | .error _ => return []
  | .ok entries =>
    let mut found := []
    for entry in entries do
      let file := path.join ⟨entry.fileName⟩
      if ← entry.path.isDir then
        if recursive then found := found ++ (← stamps file recursive)
      else
        match ← attempt entry.path.metadata with
        | .ok data => found := found ++ [(file, data.modified)]
        | .error _ => found := found
    return found

/-- The paths that are not as they were before. -/
def changedPaths (before after : List (Path × IO.FS.SystemTime)) : List Path :=
  (after.filter fun file => !before.any (· == file)).map (·.1) ++
    (before.filter fun file => !after.any (·.1 == file.1)).map (·.1)

/-- Takes changes for as long as the program runs. -/
partial def follow (state : Watching) (before : List (Path × IO.FS.SystemTime)) : IO Unit := do
  IO.sleep (min state.config.watch.debounceMs 1000).toUInt32
  let after ← stamps state.watched.path state.config.watch.recursive
  let changed := (changedPaths before after).filter state.watched.filter.accepts
  let contents ← changed.mapM fun path => do return (path, ← systemHost.read path)
  let read (path : Path) : Except Fault String :=
    (contents.lookup path).getD (.error .notFound)
  let (text, state) := state.take read (.ofList changed)
  IO.print text
  (← IO.getStdout).flush
  follow state after

/-- The variables that can give options. -/
def environment : IO Cli.Environment := do
  let names := Cli.Flag.variableNames
  let values ← names.mapM fun name => do return (name, ← IO.getEnv name)
  return values.filterMap fun (name, value) => value.map (name, ·)

end TypeAtlas

/-- Runs the command line and ends with its exit code. -/
def main (arguments : List String) : IO UInt32 := do
  let outcome ← TypeAtlas.Cli.run TypeAtlas.systemHost arguments (← TypeAtlas.environment)
  IO.print outcome.output
  (← IO.getStdout).flush
  match outcome with
  | .misused => IO.eprint TypeAtlas.Cli.usage
  | .failed failure => for reason in failure.report do IO.eprintln s!"Error: {reason}"
  | .watching _ state =>
    TypeAtlas.follow state (← TypeAtlas.stamps state.watched.path state.config.watch.recursive)
  | .written _ => pure ()
  return outcome.exitCode.toUInt32
