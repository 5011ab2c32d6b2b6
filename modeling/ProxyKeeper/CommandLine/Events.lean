import ProxyKeeper.CommandLine.Error
import ProxyKeeper.CommandLine.Options
import ProxyKeeper.Config.Setup

/-!
The command that prints the events of a feed without running an engine.
-/

namespace ProxyKeeper.CommandLine

/-- What the events are to be read with; a port at which there can be no feed is refused. -/
def eventSettings (path : String) (c : Config) (o : EventsOptions) :
    Except Error IngestSettings := do
  let host ← (Config.hostSettings c).mapError (.ofConfig path)
  let settings := { host.ingest with window := o.window.getD host.ingest.window }
  match settings.endpoint.urlFor o.port with
  | .ok _ => return settings
  | .error cause => throw (.feed cause.message)

/-- Prints events until the limit is reached, which is looked at after every event. Returns how many
were printed by then, the lines, and whether the limit was reached. -/
def printEvents (style : Report.Style) (limit : Option Nat) :
    Nat → List Event → Nat × List String × Bool
  | seen, [] => (seen, [], false)
  | seen, e :: rest =>
    let line := Report.event style e
    if limit.any (· ≤ seen + 1) then (seen + 1, [line], true)
    else
      let (seen, lines, reached) := printEvents style limit (seen + 1) rest
      (seen, line :: lines, reached)

/-- Prints batches of events until the limit is reached. -/
def printBatches (style : Report.Style) (limit : Option Nat) :
    Nat → List (List Event) → List String × Bool
  | _, [] => ([], false)
  | seen, batch :: rest =>
    match printEvents style limit seen batch with
    | (_, lines, true) => (lines, true)
    | (seen, lines, false) =>
      let (more, reached) := printBatches style limit seen rest
      (lines ++ more, reached)

end ProxyKeeper.CommandLine
