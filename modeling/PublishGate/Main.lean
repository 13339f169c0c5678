import PublishGate.Command.Reader
import PublishGate.Program
import PublishGate.Text.Utf8

/-! # The command line

Files, standard input and output, and the clock are those of the system. Other programs and the network
are out of reach, so that the version has to be given and the page has to be saved. -/

namespace PublishGate.Native

def fileError : IO.Error → FileError
  | .noFileOrDirectory .. => .notFound
  | .alreadyExists .. => .alreadyExists
  | .inappropriateType _ 20 _ => .notDirectory
  | .inappropriateType _ 21 _ => .isDirectory
  | .resourceExhausted _ 28 _ => .noSpace
  | e => .other (toString e)

def attempt {α : Type} (action : IO α) : IO (Except FileError α) := do
  match ← action.toBaseIO with
  | .ok a => return .ok a
  | .error e => return .error (fileError e)

def textOf (bytes : ByteArray) : Except FileError String :=
  match Text.decode? bytes.toList with
  | some text => .ok text
  | none => .error .notUtf8

partial def drain (stream : IO.FS.Stream) (read : ByteArray) : IO ByteArray := do
  let bytes ← stream.read 65536
  if bytes.isEmpty then return read else drain stream (read ++ bytes)

/-- The time of day, taken from a new file. -/
def clock : IO Instant := do
  let (_, path) ← IO.FS.createTempFile
  let time := (← path.metadata).modified
  IO.FS.removeFile path
  return ⟨time.sec, time.nsec.toNat⟩

def host : Host IO where
  workingDirectory := attempt do return ⟨(← IO.currentDir).toString⟩
  present p := do
    match ← attempt (IO.FS.Handle.mk p.text .read) with
    | .ok _ => return true
    | .error _ => return false
  readText p := return (← attempt (IO.FS.readBinFile p.text)).bind textOf
  readInput := return (← attempt (do drain (← IO.getStdin) .empty)).bind textOf
  makeDirectories p := attempt (IO.FS.createDirAll p.text)
  append p text := do
    match ← attempt (IO.FS.Handle.mk p.text .append) with
    | .error e => return .error (.opening e)
    | .ok file =>
      match ← attempt (do file.putStr text; file.flush) with
      | .error e => return .error (.writing e)
      | .ok () => return .ok ()
  git _ _ := return .error .notFound
  fetch _ _ := return .failed "no network"
  now := clock
  parsePattern source := return Pattern.Dialect.standard.read source
  print line := IO.println line
  report e := IO.eprintln e.line

end PublishGate.Native

open PublishGate in
def main (words : List String) : IO UInt32 := do
  match Command.read words with
  | .ok command => return (← Native.host.execute command).toUInt32
  | .error notice =>
    if notice.exitCode = 0 then IO.println notice.text else IO.eprintln notice.text
    return notice.exitCode.toUInt32
