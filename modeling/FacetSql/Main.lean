import FacetSql.Run
import FacetSql.Json.Reader
import Std.Time
/-!
# Main — the command line

One statement is given as an argument.  The request for it is written to the error stream, the engine's answer is read
from the input, and the result is printed as JSON.  With `--explain` nothing is read.
-/
namespace FacetSql.Command

/-- **What the command line asks for.** -/
structure Options where
  session : Session
  explain : Bool
  sql : Option String

/-- Nothing said. -/
def Options.standard : Options := ⟨.standard, false, none⟩

/-- The settings of the command line by name. -/
def withSetting (name value : String) (s : Session) : Except String Session :=
  match name with
  | "--url" => .ok { s with endpoint := Text.trimEnd '/' value }
  | "--fetch-size" =>
    match Numeral.word64.read value with
    | .ok n => .ok { s with fetchSize := n.toNat }
    | .error fault => .error s!"invalid value {value} for {name}: {fault.message}"
  | "--timeout-ms" =>
    match Numeral.word64.read value with
    | .ok n => .ok { s with timeout := n.toNat }
    | .error fault => .error s!"invalid value {value} for {name}: {fault.message}"
  | _ => .error s!"unexpected argument {name}"

/-- **Reads the arguments**, one after the other. -/
def readArguments (o : Options) : List String → Except String Options
  | [] => .ok o
  | "--explain" :: rest => readArguments { o with explain := true } rest
  | [word] =>
    if word.startsWith "--" then .error s!"unexpected argument {word}"
    else if o.sql.isSome then .error s!"unexpected argument {word}"
    else .ok { o with sql := some word }
  | word :: next :: rest =>
    if word.startsWith "--" then do readArguments { o with session := ← withSetting word next o.session } rest
    else if o.sql.isSome then .error s!"unexpected argument {word}"
    else readArguments { o with sql := some word } (next :: rest)

/-- The report of a table with the time it took. -/
def timedReport (t : Table) (millis : Nat) : Json :=
  match t.report with
  | .object ms => .object (Json.insertMember "executionTimeMs" (.int millis) ms)
  | j => j

/-- The text of a failure. -/
def failureText (f : Failure) : String :=
  f.message.getD "the statement cannot be read"

/-- The reply that a text is. -/
def replyOf (text : String) : Reply :=
  match Json.read text with
  | some response => .answered response
  | none => .failed "the answer is not JSON"

/-- The clock in milliseconds. -/
def clockMillis : IO Int := do
  return (← Std.Time.Timestamp.now).toMillisecondsSinceUnixEpoch.val

/-- **Runs the statement of the command line.** -/
def runCommand (session : Session) (sql : String) : IO (Except Failure Table) := do
  let now ← clockMillis
  match (Run.execute session now (fun _ => .silent) sql).requests with
  | [] => return (Run.execute session now (fun _ => .silent) sql).result
  | request :: _ =>
    IO.eprintln (session.searchUrl request.index)
    IO.eprintln request.body.compact
    let answer ← (← IO.getStdin).readToEnd
    return (Run.execute session now (fun _ => replyOf answer) sql).result

end FacetSql.Command

open FacetSql Command

/-- **The command.**  It returns 2 if the arguments cannot be read, and 1 if there is no result. -/
def main (arguments : List String) : IO UInt32 := do
  match readArguments .standard arguments with
  | .error reason =>
    IO.eprintln reason
    return 2
  | .ok ⟨_, _, none⟩ =>
    IO.eprintln "a statement is required"
    return 2
  | .ok ⟨session, explain, some sql⟩ =>
    let start ← IO.monoMsNow
    let result ← if explain then do pure (Run.explain session (← clockMillis) sql) else runCommand session sql
    match result with
    | .error f =>
      IO.eprintln (failureText f)
      return 1
    | .ok t =>
      let stop ← IO.monoMsNow
      IO.println (timedReport t (if explain then 0 else stop - start)).pretty
      return 0
