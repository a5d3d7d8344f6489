import Issuance.Cli.Run
import Issuance.Cli.Usage
import Issuance.RandomId
import Std.Time.DateTime.Timestamp

/-! # The command line

    Collects what a command can depend on, and does what it comes to. A command that asks for
    answers is carried out with the input read so far: when that input ends where an answer is
    waited for, what was said is shown, one more line is read, and the command is carried out with
    it. What was done already is not done again. -/

namespace Issuance.Cli

/-- The failure that an error of the operating system stands for. Its number may come negated. -/
def failureOf : IO.Error → IoFailure
  | .noFileOrDirectory .. => .notFound
  | .alreadyExists _ code text | .otherError code text | .resourceBusy code text
  | .resourceVanished code text | .unsupportedOperation code text | .hardwareFault code text
  | .unsatisfiedConstraints code text | .illegalOperation code text | .protocolError code text
  | .timeExpired code text | .interrupted _ code text | .invalidArgument _ code text
  | .permissionDenied _ code text | .resourceExhausted _ code text
  | .inappropriateType _ code text | .noSuchThing _ code text =>
    match code.toInt32.toInt.natAbs with
    | 20 => .notDirectory
    | 21 => .isDirectory
    | 36 => .nameTooLong
    | number => .other (text.capitalize ++ " (os error " ++ Json.numeral number ++ ")")
  | .unexpectedEof => .other "unexpected end of file"
  | .userError text => .other text

/-- Reads a text file. -/
def readText (path : String) : IO (Except IoFailure String) := do
  match ← (IO.FS.readBinFile path).toBaseIO with
  | .error e => return .error (failureOf e)
  | .ok bytes =>
    match String.fromUTF8? bytes with
    | some text => return .ok text
    | none => return .error .invalidUtf8

/-- The time. -/
def now : IO Instant := do
  let time ← Std.Time.Timestamp.now
  return ⟨time.toSecondsSinceUnixEpoch.val, time.val.nano.val.toNat⟩

/-- Reads one line of the input, with the line feed that ends it. -/
partial def readInputLine (input : IO.FS.Stream) (line : List UInt8) : IO (List UInt8) := do
  let bytes ← input.read 1
  match bytes.toList with
  | [] => return line.reverse
  | b :: _ => if b = 10 then return (b :: line).reverse else readInputLine input (b :: line)

/-- Does one thing. -/
def perform : Effect → IO (Option IoFailure)
  | .log e => do
    IO.eprintln (e.entry (← now))
    return none
  | .write path text => do
    match ← (IO.FS.writeFile path text).toBaseIO with
    | .ok () => return none
    | .error e => return some (failureOf e)
  | e => do
    let output ← IO.getStdout
    output.putStr e.output
    output.flush
    return none

/-- Does things in order, until one fails. -/
def performAll : List Effect → IO (Option IoFailure)
  | [] => return none
  | e :: rest => do
    match ← perform e with
    | none => performAll rest
    | some failure => return some failure

/-- Does the last things, and tells the exit code. -/
def finish (i : Invocation) (w : World) (exitCode : Nat) (effects : List Effect) : IO UInt32 := do
  match ← performAll effects with
  | none => return exitCode.toUInt32
  | some failure =>
    let _ ← performAll (i.failure w (.io failure))
    return 1

/-- Carries out an invocation of which a number of effects is done. -/
partial def proceed (i : Invocation) (w : World) (done : Nat) : IO UInt32 := do
  let time ← now
  let w := { w with clock := fun _ => time }
  let outcome := i.run w
  let effects := outcome.next done
  match outcome.afterInput? done with
  | none => finish i w outcome.exitCode effects
  | some rest =>
    let _ ← performAll effects
    let line ← readInputLine (← IO.getStdin) []
    if line.isEmpty then finish i w outcome.exitCode rest
    else proceed i { w with input := w.input ++ line } (done + effects.length)

end Issuance.Cli

open Issuance Issuance.Cli

/-- Runs the program. -/
def main (args : List String) : IO UInt32 := do
  let orgDid ← IO.getEnv "CREDGEN_ORG_DID"
  match Invocation.ofArguments orgDid args with
  | .error stop =>
    match stop with
    | .information => IO.print usage
    | .misuse => IO.eprint usage
    return stop.exitCode.toUInt32
  | .ok i =>
    let readings ← i.command.paths.mapM fun path => do return (path, ← readText path)
    let bytes ← IO.getRandomBytes 32
    proceed i
      { orgDid := orgDid
        logSpec := ← IO.getEnv "RUST_LOG"
        files := .ofReadings readings
        clock := fun _ => ⟨0, 0⟩
        ids := RandomId.ofRun bytes.toList }
      0
