import Filing.Command.Run
import Filing.Identifier
import Filing.Reference
import Std.Time.DateTime.Timestamp

/-!
# The command line

The program reads the files that its command names, draws identifiers, and prints the transcript of
the command.
-/

set_option autoImplicit false

namespace Filing.Main

/-- The time on the wall. -/
def wallClock : IO Instant := do
  let t := (← Std.Time.Timestamp.now).val
  return ⟨t.second.val, t.nano.val.toNat⟩

/-- A random identifier. -/
def randomId : IO String := do
  return Identifier.ofBytes (← IO.getRandomBytes (USize.ofNat Identifier.size)).toList

/-- A random word. -/
def randomWord : IO UInt64 := do
  let bytes ← IO.getRandomBytes 8
  return bytes.toList.foldl (fun word b => word * 256 + b.toUInt64) 0

/-- Random words, more than enough for a reference from a template. -/
def randomWords (template : String) : IO (List UInt64) :=
  (List.range (64 + 4 * Reference.placeholders template)).mapM fun _ => randomWord

/-- Random identifiers for two submissions, and a reference for each. -/
def randomIds (template : String) : IO IdSupply := do
  let ids ← [randomId, randomId].mapM id
  let references ← [template, template].mapM fun template => do
    return ((Reference.generate? template (← randomWords template)).map (·.1)).getD template
  return ⟨ids, references, 0⟩

/-- Why the system did not read a file.  Of two faults that it does not tell apart by name, the one
of a folder has the number 21. -/
def faultOf : IO.Error → FileFault
  | .noFileOrDirectory .. => .missing
  | .inappropriateType _ code _ => if code = 21 then .isFolder else .notFolder
  | e => .refused (toString e)

/-- What the system answers when it is to read files, by path. -/
def readFiles (paths : List String) : IO (List (String × Except FileFault (List UInt8))) :=
  paths.mapM fun (path : String) => do
    try return (path, .ok (← IO.FS.readBinFile path).toList)
    catch e => return (path, .error (faultOf e))

/-- The paths that arguments name. -/
def pathsOf (args : List String) : List String :=
  match Command.ofArguments args with
  | .ok command => command.paths
  | .error _ => []

end Filing.Main

open Filing

/-- The command that the arguments spell is run. -/
def main (args : List String) : IO UInt32 := do
  let files ← Main.readFiles (Main.pathsOf args)
  let ids ← Main.randomIds OfficeConfig.default.referencePattern
  let read (path : String) := (Index.seek path files).getD (.error .missing)
  let transcript := Command.runArguments ⟨read, ← Main.wallClock, ids⟩ args
  IO.print transcript.output
  match transcript.ending with
  | .misused e => IO.eprintln ("error: " ++ e.message)
  | ending => IO.eprint (ending.complaint?.getD "")
  return UInt32.ofNat transcript.ending.exitStatus
