import FacetSql.Json.Basic
import FacetSql.Span
/-!
# Session — the settings of a session

Settings come as texts under dotted keys, or as a JSON object; what is not given keeps its default.  The settings are
read in a fixed order and the first that is wrong is reported.
-/
namespace FacetSql

/-- **The settings of a session.** -/
structure Session where
  /-- The address of the engine. -/
  endpoint : String
  /-- How many keys a bucket level may have, and how many documents a search gives. -/
  fetchSize : Nat
  /-- The interval of a histogram whose own cannot be read, in milliseconds. -/
  defaultInterval : Int
  /-- How long the engine may take, in milliseconds. -/
  timeout : Nat

namespace Session

/-- The settings where nothing is given. -/
def standard : Session where
  endpoint := "http://localhost:9200"
  fetchSize := 10000
  defaultInterval := Span.defaultInterval
  timeout := 10000

/-- A setting given as text, or its default. -/
def readSetting (key : String) (range : Numeral.Range) (fallback : Int) : Option String → Except Failure Int
  | none => .ok fallback
  | some s =>
    match range.read s with
    | .ok n => .ok n
    | .error fault => .error (.config key fault)

/-- **Settings given as texts**, looked up by key.  Slashes at the end of the address are dropped. -/
def ofTexts (find : String → Option String) : Except Failure Session := do
  let endpoint := ((find "connection.url").map (Text.trimEnd '/')).getD standard.endpoint
  let fetchSize ← readSetting "fetch.size" Numeral.word64 standard.fetchSize (find "fetch.size")
  let interval ← readSetting "default.interval" Numeral.int64 standard.defaultInterval (find "default.interval")
  let timeout ← readSetting "query.timeout_ms" Numeral.word64 standard.timeout (find "query.timeout_ms")
  return ⟨endpoint, fetchSize.toNat, interval, timeout.toNat⟩

/-- A setting given as JSON of the expected type, or its default. -/
def jsonSetting {α : Type} (view : Json → Option α) (fallback : α) : Option Json → Except Failure α
  | none => .ok fallback
  | some j =>
    match view j with
    | some a => .ok a
    | none => .error .settings

/-- Settings given as JSON, looked up by name and place. -/
def ofJsonSettings (find : String → Nat → Option Json) : Except Failure Session := do
  let endpoint ← jsonSetting Json.text? standard.endpoint (find "endpoint" 0)
  let fetchSize ← jsonSetting Json.word64? standard.fetchSize (find "fetch_size" 1)
  let interval ← jsonSetting Json.int64? standard.defaultInterval (find "default_interval_ms" 2)
  let timeout ← jsonSetting Json.word64? standard.timeout (find "timeout_ms" 3)
  return ⟨endpoint, fetchSize, interval, timeout⟩

/-- **Settings given as JSON**: an object, other members of which are ignored, or an array that gives them in order
and may stop early. -/
def ofJson : Json → Except Failure Session
  | .object ms => ofJsonSettings (fun name _ => Json.lookUp name ms)
  | .array items => if items.length ≤ 4 then ofJsonSettings (fun _ place => items[place]?) else .error .settings
  | _ => .error .settings

/-- **The address a request is posted to.**  Answers come with the type of each aggregation in front of its name. -/
def searchUrl (s : Session) (index : String) : String :=
  Text.trimEnd '/' s.endpoint ++ "/" ++ index ++ "/_search?typed_keys=true"

end Session
end FacetSql
