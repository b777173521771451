import Switchboard.Machine.Basic

/-! # Runs of the machine

A run is a sequence of moves, each made when it may be made: calls and resumptions when control is
outside, answers when a callback waits for one, and work otherwise. Its history records every move
with the machine before it and what it led to. `Machine.settle` does all the work there is to do
until a call ends or makes a callback. -/

namespace Switchboard

/-- A move of the machine. -/
inductive Move where
  | call (c : Call)
  | answer (ans : Answer)
  | resume (i : Nat)
  | advance

namespace Machine

/-- Makes a move. -/
def make (m : Machine) : Move → Machine × Outcome
  | .call c => m.call c
  | .answer ans => m.answer ans
  | .resume i => m.resume i
  | .advance => m.advance

/-- Whether a move may be made. -/
def admits (m : Machine) : Move → Bool
  | .call _ => m.isOpen
  | .answer _ => m.callback?.isSome
  | .resume i => m.isOpen && m.waiting[i]?.any fun t => t.holders m.registry = 0
  | .advance => !m.isOpen

/-! ## Work without callbacks -/

/-- A bound on the pieces of work that the innermost call can do before it ends or makes a
callback. -/
def effort (m : Machine) : Nat :=
  match m.frames with
  -- the walk, its end, and the news to the observers that are attached when it ends
  | .installing _ _ none :: _ => m.registry.applTable.size + m.registry.observers.entries.length + 3
  | .registering _ _ _ none :: _ => m.registry.deviceTable.size + 2
  | .announcing _ _ none notices rest :: _ => notices.length + rest.length + 2
  | .releasing _ _ none rest :: _ => rest.length + 2
  | _ => 0

/-- Does up to `n` pieces of work, until a call ends or makes a callback. -/
def workFor : Nat → Machine × Outcome → Machine × Outcome
  | n + 1, (m, .works) => workFor n m.advance
  | _, s => s

/-- Does the work there is to do after a move, until a call ends or makes a callback. -/
def settle (s : Machine × Outcome) : Machine × Outcome := workFor s.1.effort s

/-! ## Histories -/

/-- A move that has been made: the machine before it, and what it led to. -/
structure Event where
  before : Machine
  move : Move
  outcome : Outcome

/-- The runs of a switchboard with their histories, oldest event first. -/
inductive Run (config : Config) : List Event → Machine → Prop where
  | new : Run config [] (.new config)
  | move {history : List Event} {m : Machine} (mv : Move) (run : Run config history m)
      (admitted : m.admits mv = true) :
      Run config (history ++ [⟨m, mv, (m.make mv).2⟩]) (m.make mv).1

/-- The machines that a switchboard can become. -/
def Reachable (config : Config) (m : Machine) : Prop := ∃ history, Run config history m

/-- What a reachable machine becomes is reachable. -/
theorem Reachable.make {config : Config} {m : Machine} (h : Reachable config m) {mv : Move}
    (admitted : m.admits mv = true) : Reachable config (m.make mv).1 := by
  obtain ⟨history, run⟩ := h
  exact ⟨_, run.move mv admitted⟩

/-- What holds of a new switchboard and is kept by every admitted move holds of all. -/
theorem Reachable.induction {config : Config} {P : Machine → Prop} (new : P (.new config))
    (move : ∀ m mv, Reachable config m → P m → m.admits mv = true → P (m.make mv).1)
    {m : Machine} (h : Reachable config m) : P m := by
  obtain ⟨history, run⟩ := h
  induction run with
  | new => exact new
  | move mv run admitted ih => exact move _ mv ⟨_, run⟩ ih admitted

end Machine

end Switchboard
