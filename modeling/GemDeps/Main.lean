import GemDeps.CommandLine.Program

/-!
# The program on a real system

Reads arguments, environment, files and standard input, and shows what a run reports.
-/

namespace GemDeps.Main

/-- Is a code the system's number for an error? The code may come with its sign turned. -/
def isCode (code number : UInt32) : Bool := code = number || code = 0 - number

/-- Why a file cannot be read or written. -/
def fileError : IO.Error → FileError
  | .noFileOrDirectory .. => .notFound
  | .permissionDenied .. => .permissionDenied
  | .inappropriateType _ code _ => if isCode code 20 then .notADirectory else .isDirectory
  | .invalidArgument _ code details =>
    if isCode code 36 then .nameTooLong else .other details.toList
  | e => .other e.toString.toList

/-- The text of a file. -/
def readText (p : Path) : IO (Except FileError Text) := do
  try
    let bytes ← IO.FS.readBinFile (String.ofList p.text)
    match String.fromUTF8? bytes with
    | some t => return .ok t.toList
    | none => return .error .notText
  catch e => return .error (fileError e)

/-- Puts a text in place of that of a file. -/
def writeText (p : Path) (t : Text) : IO (Except FileError Unit) := do
  try
    IO.FS.writeFile (String.ofList p.text) (String.ofList t)
    return .ok ()
  catch e => return .error (fileError e)

/-- The files of the system. -/
def files : Storage IO := ⟨readText, writeText⟩

/-- All of standard input. -/
partial def readInput (stdin : IO.FS.Stream) (read : String) : IO Text := do
  let line ← stdin.getLine
  if line.isEmpty then return read.toList else readInput stdin (read ++ line)

/-- The directory of the user's configurations. -/
def configurations : IO (Option Path) := do
  let path (s : String) : Path := ⟨s.toList⟩
  match (← IO.getEnv "XDG_CONFIG_HOME").map path with
  | some p => if p.isAbsolute then return some p else home
  | none => home
where
  /-- The directory below the user's own. -/
  home : IO (Option Path) := do
    return (← IO.getEnv "HOME").map fun s => Path.join ⟨s.toList⟩ ⟨".config".toList⟩

end GemDeps.Main

open GemDeps in
/-- Runs the program. -/
def main (args : List String) : IO UInt32 := do
  let cwd : Path := ⟨(← IO.currentDir).toString.toList⟩
  let place : Program.Place := ⟨cwd, ← Main.configurations⟩
  let input := do Main.readInput (← IO.getStdin) ""
  let report ← Program.run Main.files place input (args.map String.toList)
  IO.print (String.ofList report.output)
  IO.eprint (String.ofList report.errorText)
  return report.status
