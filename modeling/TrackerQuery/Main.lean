import Std.Time.DateTime.Timestamp
import TrackerQuery.Console

namespace TrackerQuery.Console

open TrackerQuery.Time

def currentInstant : IO Instant := do
  let t ← Std.Time.Timestamp.now
  return ⟨t.val.second.val, t.val.nano.val.toNat⟩

def settingFile : IO Setting.File := do
  try
    return .content (← IO.FS.readBinFile settingPath)
  catch _ =>
    return .missing

partial def nextLine (input : IO.FS.Stream) (line : ByteArray) : IO (Option ByteArray) := do
  let byte ← input.read 1
  if byte.isEmpty then
    return if line.isEmpty then none else some line
  else if byte[0]? == some 10 then
    return some line
  else
    nextLine input (line ++ byte)

partial def loop (desk : Desk) (input output : IO.FS.Stream) : IO UInt32 := do
  match ← nextLine input ByteArray.empty with
  | none => return 0
  | some bytes =>
    match String.fromUTF8? bytes with
    | none =>
      (← IO.getStderr).putStrLn "Error: stream did not contain valid UTF-8"
      return 1
    | some line =>
      for answer in respond desk (← currentInstant) line do
        output.putStrLn answer
      output.flush
      loop desk input output

end TrackerQuery.Console

def main : IO UInt32 := do
  let output ← IO.getStdout
  output.putStrLn TrackerQuery.Console.header
  let file ← TrackerQuery.Console.settingFile
  let desk := TrackerQuery.Console.Desk.ofFile file (← TrackerQuery.Console.currentInstant)
  TrackerQuery.Console.loop desk (← IO.getStdin) output
