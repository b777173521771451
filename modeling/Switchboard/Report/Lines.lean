import Switchboard.Json.Printer
import Switchboard.Snapshot

/-! # The state as lines of JSON

One line for each installed device, in order of installation, and one for each registered
application, in order of registration. A line is a compact JSON object that begins with its kind,
and ends with a line feed. -/

namespace Switchboard.Report

/-- The object of a line: a kind and the members of a snapshot. -/
def entry (kind : String) (members : List (String × Json)) : Json :=
  .record (("kind", .text kind) :: members)

/-- The objects of all lines. -/
def entries (r : Registry) : List Json :=
  r.deviceSnapshots.map (fun s => entry "device" s.members) ++
    r.applSnapshots.map (fun s => entry "application" s.members)

/-- A line. -/
def line (x : Json) : List Char := x.render ++ ['\n']

/-- All lines. -/
def lines (r : Registry) : String := String.ofList ((entries r).flatMap line)

end Switchboard.Report
