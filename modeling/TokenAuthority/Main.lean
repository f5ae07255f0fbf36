import Std.Time.DateTime.Timestamp
import TokenAuthority.Command.Run

/-!
# The program

Reads what a command asks for, runs it, and prints what the run leaves behind.
-/

set_option autoImplicit false

namespace TokenAuthority.Program

/-- The content of a file. -/
def readTextFile (path : String) : IO (Except FileFault String) := do
  try
    let bytes ← IO.FS.readBinFile path
    return match String.fromUTF8? bytes with
      | some s => .ok s
      | none => .error .notText
  catch e =>
    return match e with
      | .noFileOrDirectory .. => .error .missing
      | .inappropriateType .. => .error .directory
      | e => .error (.other (toString e))

/-- The environment variables, as the operating system lists them. -/
def readEnvironment : IO (List (String × String)) := do
  match ← readTextFile "/proc/self/environ" with
  | .error _ => return []
  | .ok s =>
    return (s.splitOn "\x00").filterMap fun entry =>
      match entry.splitOn "=" with
      | name :: value@(_ :: _) => some (name, String.intercalate "=" value)
      | _ => none

/-- The instant of the clock. -/
def readClock : IO Instant := do
  let now ← Std.Time.Timestamp.now
  return ⟨now.toNanosecondsSinceUnixEpoch.toInt, 0⟩

/-- A fresh identifier: random but for the bits that mark it as such. -/
def freshId : IO String := do
  let bytes ← IO.getRandomBytes 16
  let n := bytes.toList.foldl (fun n b => n * 256 + b.toNat) 0
  return (Uuid.ofRandom n).text

/-- What surrounds the run of a command. -/
def readSurroundings (command : Command) : IO Surroundings := do
  let contents ← command.files.mapM fun path => return (path, ← readTextFile path)
  let input ← if command.readsInput then (← IO.getStdin).readToEnd else pure ""
  return {
    file := fun path => (contents.lookup path).getD (.error .missing)
    input := input
    environment := ← readEnvironment
    now := ← readClock
    jti := ← freshId }

end TokenAuthority.Program

open TokenAuthority in
/-- Runs the program. -/
def main (args : List String) : IO UInt32 := do
  let outcome ← match Invocation.ofArguments args with
    | .error e => pure (Command.interrupted e)
    | .ok invocation => Command.outcomeOf invocation <$> Program.readSurroundings invocation.command
  IO.print outcome.output
  IO.eprint outcome.notes
  return UInt32.ofNat outcome.status
