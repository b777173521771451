import Switchboard.Lifecycle

/-! # Holders of references

A record and the names under which references to it are held, each name holding at most one. A
name that takes a reference while it holds one gives up the old one after it has the new. -/

namespace Switchboard

/-- A record's lifecycle and the names that hold references to it. -/
structure Holders where
  lifecycle : Lifecycle
  names : List String

namespace Holders

/-- A new record, its first reference held under one name. -/
def adopted (name : String) : Holders := ⟨.fresh, [name]⟩

/-- Whether a name holds a reference. -/
def holds (h : Holders) (name : String) : Bool := h.names.contains name

/-- Stores a reference that has just been taken under a name, which gives up the one it held. -/
def store (h : Holders) (lifecycle : Lifecycle) (name : String) : Holders :=
  if h.holds name then { h with lifecycle := lifecycle.leave }
  else ⟨lifecycle, name :: h.names⟩

/-- Takes a new reference under a name, if one is to be had. -/
def join? (h : Holders) (name : String) : Option Holders :=
  h.lifecycle.join?.map fun l => h.store l name

/-- Shares the reference held under `source` with `name`, if there is one. -/
def share? (h : Holders) (source name : String) : Option Holders :=
  if h.holds source then some (h.store h.lifecycle.share name) else none

/-- Gives up the reference held under a name, if there is one. -/
def leave? (h : Holders) (name : String) : Option Holders :=
  if h.holds name then some ⟨h.lifecycle.leave, h.names.erase name⟩ else none

/-- Starts the retirement of the record. -/
def retire (h : Holders) : Holders := { h with lifecycle := h.lifecycle.retire }

/-- Gives up every reference. -/
def leaveAll (h : Holders) : Holders :=
  h.names.foldl (fun h name => (h.leave? name).getD h) h

/-- A record that is adopted is fresh. -/
@[simp] theorem lifecycle_adopted (name : String) :
    (adopted name).lifecycle = Lifecycle.fresh := rfl

/-- A record that is adopted has one holder. -/
@[simp] theorem names_adopted (name : String) : (adopted name).names = [name] := rfl

end Holders

end Switchboard
