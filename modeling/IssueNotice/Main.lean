import IssueNotice.Command
import IssueNotice.Report.RunId
import Std.Time.DateTime.Timestamp

/-!
# The program

The command on a real machine: its files, its two outputs, its clock and its source of random bytes.
-/

namespace IssueNotice

/-- The number and the text of an input or output error. -/
def errorParts : IO.Error → Nat × String
  | .alreadyExists _ code text | .invalidArgument _ code text | .permissionDenied _ code text
  | .resourceExhausted _ code text | .inappropriateType _ code text | .noSuchThing _ code text
  | .interrupted _ code text | .noFileOrDirectory _ code text => (code.toNat, text)
  | .otherError code text | .resourceBusy code text | .resourceVanished code text
  | .unsupportedOperation code text | .hardwareFault code text
  | .unsatisfiedConstraints code text | .illegalOperation code text | .protocolError code text
  | .timeExpired code text => (code.toNat, text)
  | .unexpectedEof => (0, "end of file")
  | .userError text => (0, text)

/-- What an input or output error says about a path; its number may be negated. -/
def pathProblem (e : IO.Error) : PathProblem :=
  let (code, text) := errorParts e
  .ofCode (if code < Nat.pow 2 31 then code else Nat.pow 2 32 - code) text

/-- The result of an action on a path, or what is wrong with the path. -/
def attempt {α : Type} (action : IO α) : IO (Except PathProblem α) := do
  try pure (.ok (← action))
  catch e => pure (.error (pathProblem e))

/-- What stands at a path according to its metadata. -/
def fileStatus (data : IO.FS.Metadata) : FileStatus :=
  match data.type with
  | .file => .file data.byteSize.toNat
  | .dir => .folder
  | .symlink => .link
  | .other => .special

/-- The machine itself. -/
def machine : Host IO where
  status path := attempt do
    pure (fileStatus (← ((← IO.currentDir) / path).symlinkMetadata))
  isPresent path := do ((← IO.currentDir) / path).pathExists
  isFolder path := do ((← IO.currentDir) / path).isDir
  read path := attempt (IO.FS.readBinFile path)
  write path text := attempt (IO.FS.writeBinFile path text.toUTF8)
  print text := do
    let out ← IO.getStdout
    out.putStr text
    out.flush
  tell text := do (← IO.getStderr).putStr text

/-- The instant at a number of nanoseconds after the start of 1970. -/
def instantAt (nanos : Int) : Instant where
  day := nanos / (secondsPerDay * nanosPerSecond)
  second := (nanos / nanosPerSecond % secondsPerDay).toNat
  nano := (nanos % nanosPerSecond).toNat
  second_lt := by simp only [secondsPerDay, nanosPerSecond]; omega
  nano_lt := by simp only [nanosPerSecond]; omega

end IssueNotice

open IssueNotice

/-- Replays a recorded analysis as the command line says. -/
def main (line : List String) : IO UInt32 := do
  let random ← IO.getRandomBytes 16
  let now ← Std.Time.Timestamp.now
  let status ← Command.run machine line (RunId.ofBytes (random.toList.map UInt8.toNat))
    (instantAt now.toNanosecondsSinceUnixEpoch.val)
  pure status.code.toUInt32
