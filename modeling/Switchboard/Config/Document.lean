import Switchboard.Config
import Switchboard.Json.Document
import Switchboard.Json.Printer

/-! # Limits as a document

Limits are written as a JSON object with the members `max_devices` and `max_applications`. A
document that is read may leave either out, which leaves the standard limit, list them in any
order, and hold other members besides; a list of at most two limits is read as well. A limit is
an integer literal without sign, fraction and exponent that fits 16 bits. -/

namespace Switchboard.Config

open Json (Document)

/-- The limits as a JSON object. -/
def toJson (c : Config) : Json :=
  .record [
    ("max_devices", .nat c.maxDevices.toNat),
    ("max_applications", .nat c.maxApplications.toNat)]

/-- The document of the limits. -/
def write (c : Config) : String := c.toJson.compact

/-- A limit as it stands in a document. -/
def limit? : Document → Option UInt16
  | .number literal => match Json.NumberLiteral.natural? literal with
    | some n => if n ≤ 65535 then some (UInt16.ofNat n) else none
    | none => none
  | _ => none

/-- The limit that the members of a given name set: the standard one if there is no such member,
and none at all if there are several or the only one holds something else. -/
def member? (name : String) (standard : UInt16) (members : List (List Char × Document)) :
    Option UInt16 :=
  match members.filter fun m => m.1 = name.toList with
  | [] => some standard
  | [m] => limit? m.2
  | _ => none

/-- The names of the members with their escapes read. -/
def decodeNames : List (List Char × Document) → Option (List (List Char × Document))
  | [] => some []
  | (body, d) :: rest => match Json.Text.decode body, decodeNames rest with
    | some name, some ms => some ((name, d) :: ms)
    | _, _ => none

/-- The limits that a document sets. -/
def ofDocument? : Document → Option Config
  | .list [] => some standard
  | .list [d] => (limit? d).map fun n => ⟨n, standard.maxApplications⟩
  | .list [d, a] => match limit? d, limit? a with
    | some n, some k => some ⟨n, k⟩
    | _, _ => none
  | .record members => match decodeNames members with
    | none => none
    | some ms =>
      match member? "max_devices" standard.maxDevices ms,
        member? "max_applications" standard.maxApplications ms with
      | some n, some k => some ⟨n, k⟩
      | _, _ => none
  | _ => none

/-- The limits that the text of a document sets. -/
def read? (text : String) : Option Config :=
  match Document.parse text.toList with
  | some d => ofDocument? d
  | none => none

end Switchboard.Config
