import Switchboard.Json.Basic
import Switchboard.Roster

/-! # Trials of rosters

A trial is a list of operations on one roster of texts and on named positions in walks over it,
each of which yields an answer. A position that has not been set is at the start. -/

namespace Switchboard.Roster

/-- An operation on a roster of texts. -/
inductive Operation where
  | insert (n : UInt16) (s : String)
  | remove (n : UInt16)
  | get (n : UInt16)
  | size
  | isEmpty
  | list
  | start (cursor : String)
  | next (cursor : String)
  | copy (source target : String)
  | compare (left right : String)

/-- A roster of texts with its named positions. -/
structure Trial where
  roster : Roster String
  cursors : List (String × Cursor)

namespace Trial

/-- The position with a name. -/
def cursor (t : Trial) (name : String) : Cursor := (t.cursors.lookup name).getD .start

/-- Sets the position with a name. -/
def setCursor (t : Trial) (name : String) (c : Cursor) : Trial :=
  { t with cursors := (name, c) :: t.cursors.filter fun e => e.1 ≠ name }

/-- How two positions compare: -1, 0 or 1. -/
def order (c d : Cursor) : Int :=
  if c.serial < d.serial then -1 else if c.serial = d.serial then 0 else 1

/-- Performs an operation. -/
def operate (t : Trial) : Operation → Json × Trial
  | .insert n s => match t.roster.insert? n s with
    | some r => (.text "ok", { t with roster := r })
    | none => (.record [("rejected", .text s)], t)
  | .remove n => match t.roster.remove? n with
    | some (s, r) => (.text s, { t with roster := r })
    | none => (.null, t)
  | .get n => (.ofOption Json.text (t.roster.get? n), t)
  | .size => (.nat t.roster.size, t)
  | .isEmpty => (.bool t.roster.isEmpty, t)
  | .list => (.list (t.roster.toList.map fun e => .list [.nat e.1.toNat, .text e.2]), t)
  | .start c => (.text "ok", t.setCursor c .start)
  | .next c => match t.roster.next? (t.cursor c) with
    | none => (.null, t)
    | some (d, n, s) => (.list [.text d.describe, .nat n.toNat, .text s], t.setCursor c d)
  | .copy c d => (.text "ok", t.setCursor d (t.cursor c))
  | .compare c d => (.number (order (t.cursor c) (t.cursor d)), t)

/-- The answers of a trial. -/
def answers (t : Trial) : List Operation → List Json
  | [] => []
  | o :: rest => let r := t.operate o; r.1 :: r.2.answers rest

end Trial

end Switchboard.Roster
