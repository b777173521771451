import Switchboard.Snapshot
import Switchboard.Text.Layout

/-! # Applications as tables

Two tables with a heading and one row for each registered application, in order of registration:
the resources that each asked for, and the traffic of each. A row is the number of the application,
a colon, and columns of a least width, set off by blanks. -/

namespace Switchboard.Report

/-- A natural number in decimal, followed by blanks up to the width of its column. -/
def cell (width n : Nat) : List Char := Text.padRight width (Nat.toDigits 10 n)

/-- Cells set off by blanks. -/
def cells : List (Nat × Nat) → List Char
  | [] => []
  | [c] => cell c.1 c.2
  | c :: rest => cell c.1 c.2 ++ ' ' :: cells rest

/-- The heading of the table of resources. -/
def paramsHeading : List Char := "ID   : LogConns DataPackets DataLen\n".toList

/-- A row of the table of resources. -/
def paramsRow (s : ApplSnapshot) : List Char :=
  cell 5 s.id.number.toNat ++ [':', ' '] ++
    cells [(8, s.params.connections.toNat), (11, s.params.blocks.toNat),
      (7, s.params.blockLength.toNat)] ++ ['\n']

/-- The resources that applications asked for. -/
def paramsTable (r : Registry) : String :=
  String.ofList (paramsHeading ++ r.applSnapshots.flatMap paramsRow)

/-- The heading of the table of traffic. -/
def trafficHeading : List Char :=
  ("ID   : txPackets txBytes txDataPackets txDataBytes | " ++
    "rxPackets rxBytes rxDataPackets rxDataBytes rxQueue\n").toList

/-- The counters of one direction in the columns of the table of traffic. -/
def trafficCells (c : Counters) : List (Nat × Nat) :=
  [(9, c.packets.toNat), (7, c.bytes.toNat), (13, c.dataPackets.toNat), (11, c.dataBytes.toNat)]

/-- A row of the table of traffic. -/
def trafficRow (s : ApplSnapshot) : List Char :=
  cell 5 s.id.number.toNat ++ [':', ' '] ++ cells (trafficCells s.usage.sent) ++ [' ', '|', ' '] ++
    cells (trafficCells s.usage.received ++ [(7, s.queueDepth)]) ++ ['\n']

/-- The traffic of applications. -/
def trafficTable (r : Registry) : String :=
  String.ofList (trafficHeading ++ r.applSnapshots.flatMap trafficRow)

end Switchboard.Report
