import Playback.CommandLine
import Playback.Player.Standard

/-!
# Program
-/

open Playback

/-- The contents of a file, if it can be read. -/
def readFile? (path : String) : IO (Option Bytes) := do
  try
    let contents ← IO.FS.readBinFile path
    return some contents.data.toList
  catch _ => return none

def usage : String :=
  "Usage: playback [OPTIONS] --capture <CAPTURE> <URL>"

/-- Reads the files that the arguments name, and carries out the command. -/
def main (args : List String) : IO UInt32 := do
  let names := ((CommandLine.Arguments.parse? args).map CommandLine.Arguments.files).getD []
  let files ← names.mapM fun name => do
    return (name, ← readFile? name)
  let outcome := CommandLine.run .standard (fun name => (files.lookup name).join) args
  IO.print outcome.printed
  match outcome.report with
  | some report => IO.eprintln report
  | none => if outcome.code == 2 then IO.eprintln usage
  return UInt32.ofNat outcome.code
