import SiteSafety.Command.Run
import SiteSafety.LogFilter
import Std.Time

namespace SiteSafety.Command

/-- The number of an error; some operations report it negated. -/
def errorNumber (code : UInt32) : Nat := min code.toNat (-code).toNat

def errorText? : Nat → Option String
  | 2 => some "No such file or directory"
  | 13 => some "Permission denied"
  | 20 => some "Not a directory"
  | 21 => some "Is a directory"
  | 36 => some "File name too long"
  | _ => none

def fileError : IO.Error → FileError
  | .noFileOrDirectory _ code details => numbered code details
  | .permissionDenied _ code details => numbered code details
  | .inappropriateType _ code details => numbered code details
  | .invalidArgument _ code details => numbered code details
  | e => ⟨toString e⟩
where
  numbered (code : UInt32) (details : String) : FileError :=
    let n := errorNumber code
    ⟨(errorText? n).getD details ++ " (os error " ++ toString n ++ ")"⟩

def isDirectory : Nat := 21

def readFile (path : String) : IO (Except ReadError (List UInt8)) := do
  try
    let bytes ← IO.FS.readBinFile path
    return .ok bytes.toList
  catch e =>
    match e with
    | .inappropriateType _ code _ =>
      return .error (if errorNumber code == isDirectory then .reading (fileError e)
        else .opening (fileError e))
    | _ => return .error (.opening (fileError e))

def gather (o : Options) : IO Files := do
  let nodes ← readFile o.nodes
  let config ← readFile (o.config.getD o.nodes)
  return {
    read := fun path => if path == o.nodes then nodes else config
    writeError? := fun _ => none }

def now : IO Stamp := do
  let instant := Std.Time.DateTime.ofTimestampWithZone (← Std.Time.Timestamp.now) .UTC
  return ⟨instant.format "uuuu-MM-dd", instant.format "uuuu-MM-dd'T'HH:mm:ss.SSSSSSSSS'Z'"⟩

/-- Makes the run, and makes it again if its report cannot be written. -/
def perform (o : Options) : IO Result := do
  let files ← gather o
  let stamp ← now
  let result := run files stamp o
  match result.report with
  | none => return result
  | some (path, text) =>
    try
      IO.FS.writeFile path text
      return result
    catch e => return run { files with writeError? := fun _ => some (fileError e) } stamp o

def logLine (json : Bool) (e : Event) : String :=
  if json then
    (Json.object [("level", .text e.level.name), ("fields", e.toJson)]).compact
  else
    e.level.name ++ " " ++ e.message ++
      String.join (e.details.map fun d => " " ++ d.1 ++ "=" ++ d.2.compact)

end SiteSafety.Command

open SiteSafety Command in
def main (words : List String) : IO UInt32 := do
  match parse words with
  | none =>
    IO.eprintln "error: the arguments are not understood"
    return 2
  | some o =>
    let filter := ((← IO.getEnv "LOG_FILTER").map LogFilter.ofText).getD .standard
    let result ← perform o
    for e in filter.logged result.events do
      IO.eprintln (logLine o.jsonLogs e)
    IO.print result.output
    match result.error with
    | none => return 0
    | some e =>
      for line in e.failure.lines do
        IO.eprintln line
      return 1
