import StylePrune.CommandLine.Run

/-!
# The program

Reads the files that the arguments name, runs on them, and writes what has changed.
-/

open StylePrune CommandLine

def readFile? (path : String) : IO (Option (String × String)) := do
  try
    return some (path, ← IO.FS.readFile path)
  catch _ =>
    return none

def writeFile? (path content : String) : IO Bool := do
  try
    IO.FS.writeFile path content
    return true
  catch _ =>
    return false

/-- The files that a run reads, and the folder that it writes to. -/
def lookAround (args : Arguments) : IO Directory := do
  let paths := args.css :: args.pages ++ args.allow.toList ++ args.output.toList
  let d := Directory.ofList ((← paths.mapM readFile?).filterMap id)
  let target := args.output.bind Directory.stepsOf?
  return { d with folders := (target.map List.dropLast).toList ++ d.folders }

def main (words : List String) : IO UInt32 := do
  let files ← match Request.ofList? words with
    | some (.prune args) => lookAround args
    | _ => pure (Directory.ofList [])
  let run := CommandLine.run .unlimited words files
  let written ← (run.files.changesSince files).allM fun (path, content) =>
    writeFile? path content
  let out ← IO.getStdout
  let err ← IO.getStderr
  out.putStr (if written then run.output else banner)
  out.flush
  err.putStr run.complaint
  return if written then run.exit.toUInt32 else 1
