import ProxyKeeper.CommandLine.Commands
import ProxyKeeper.Ingestion

/-!
The command that prints events, at work: it asks for batches and prints what it gets, until the limit
is reached, the feed is at its end or somebody interrupts it.
-/

namespace ProxyKeeper.CommandLine

structure Printer where
  style : Report.Style
  limit : Option Nat
  /-- How many events were printed. -/
  seen : Nat := 0
  lines : List String := []
  ended : Bool := false

namespace Printer

/-- Prints a batch if there is one. -/
def hear (d : Delivery (List Event)) (p : Printer) : Printer :=
  match d with
  | .item batch =>
    let (seen, lines, reached) := printEvents p.style p.limit p.seen batch
    { p with seen, lines := p.lines ++ lines, ended := reached }
  | .pending => p
  | .closed => { p with ended := true }

def interrupt (p : Printer) : Printer := { p with ended := true }

/-- What the command has come to. However it ends, that is no failure. -/
def outcome (p : Printer) : Outcome :=
  { stdout := joinLines p.lines, ending := if p.ended then .finished else .running }

end Printer

/-! ## at a feed -/

open Feed

/-- The command with the feed that it follows. -/
structure Viewer where
  /-- The port at which the feed is. -/
  source : Watch (Option UInt16)
  ingestion : Ingestion
  batches : Batches Event
  printer : Printer
  now : Nat := 0

namespace Viewer

def start (settings : IngestSettings) (port : UInt16) (style : Report.Style) (limit : Option Nat) : Viewer :=
  let (ingestion, batches) := (Ingestion.create settings).batches
  { source := { value := some port }, ingestion, batches, printer := { style, limit } }

/-- Asks for a batch, unless the command has ended, and prints it if there is one. -/
def ask (v : Viewer) : Viewer :=
  if v.printer.ended then v
  else
    let (batches, d) := v.batches.poll v.now v.ingestion.sink.events
    { v with batches, printer := v.printer.hear d }

/-- Lets everything run until it waits; `peer` answers attempts to connect. -/
def settle (peer : Url → Handshake) (v : Viewer) : Viewer :=
  ask { v with ingestion := v.ingestion.settle id v.source v.now peer }

/-- The frames that the peer sends. -/
def receive (frames : List Frame) (v : Viewer) : Viewer :=
  ask { v with ingestion := v.ingestion.receive v.now frames }

/-- When the command or its feed will wake by itself. -/
def wake? (v : Viewer) : Option Nat :=
  match v.batches.deadline, v.ingestion.wake? with
  | some a, some b => some (min a b)
  | some a, none => some a
  | none, b => b

def isStreaming (v : Viewer) : Bool :=
  match v.ingestion.loop with
  | some l => decide (l.stage = .streaming)
  | none => false

/-- Runs the command at a peer that accepts every attempt and then sends these frames, on a clock that goes
on to the next time at which anything happens; `fuel` bounds how often it does. -/
def watch (frames : List Frame) : Nat → Viewer → Viewer
  | 0, v => v
  | fuel + 1, v =>
    let connected := v.settle fun _ => .accepted
    let v := if connected.isStreaming && !v.isStreaming then connected.receive frames else connected
    if v.printer.ended then v
    else
      match v.wake? with
      | some wake => watch frames fuel { v with now := max v.now wake }
      | none => v

end Viewer

/-- A command, where there are peers at some ports that send these frames. The time that it may take is
bounded here. -/
def performAt (sends : UInt16 → Option (List Frame)) (s : Surroundings) (o : Options) (command : Command) : Outcome :=
  match command with
  | .events e =>
    match sends e.port with
    | none => perform s o command
    | some frames => .ofExcept do
      let _ ← performEvents s o e
      let c ← (loadConfig s o).mapError .failed
      let settings ← (eventSettings (configPath s.environment o) c e).mapError .failed
      return ((Viewer.start settings e.port (styleOf s o) e.limit).watch frames 10000).printer.outcome
  | _ => perform s o command

end ProxyKeeper.CommandLine
