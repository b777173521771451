import Switchboard.Machine.Run

/-! # Along a run

Tools for statements about runs: the events of a run are moves of reachable machines, and what one
event brings about and every move keeps holds from then on. -/

namespace Switchboard

namespace Machine

variable {config : Config} {history : List Event} {m : Machine}

/-- The machine at the end of a run is reachable. -/
theorem Run.reachable (run : Run config history m) : Reachable config m := ⟨history, run⟩

/-- An event of a run is an admitted move of a reachable machine. -/
theorem Run.event (run : Run config history m) {e : Event} (he : e ∈ history) :
    Reachable config e.before ∧ e.before.admits e.move = true ∧
      e.outcome = (e.before.make e.move).2 := by
  induction run with
  | new => cases he
  | move mv run admitted ih =>
    rcases List.mem_append.1 he with he | he
    · exact ih he
    · obtain rfl := List.mem_singleton.1 he
      exact ⟨run.reachable, admitted, rfl⟩

/-- A list with an element in it that is extended by one: either that one is the element, or it
comes later. -/
theorem append_singleton_eq_split {α : Type} {l l₁ l₂ : List α} {x y : α}
    (h : l ++ [x] = l₁ ++ y :: l₂) :
    (l = l₁ ∧ x = y ∧ l₂ = []) ∨ ∃ l₃, l = l₁ ++ y :: l₃ ∧ l₂ = l₃ ++ [x] := by
  rcases List.eq_nil_or_concat l₂ with rfl | ⟨l₃, z, rfl⟩
  · left
    obtain ⟨hl, hx⟩ := List.append_inj' h rfl
    exact ⟨hl, List.singleton_inj.1 hx, rfl⟩
  · right
    rw [List.concat_eq_append, ← List.cons_append, ← List.append_assoc] at h
    obtain ⟨hl, hx⟩ := List.append_inj' h rfl
    refine ⟨l₃, hl, ?_⟩
    rw [List.concat_eq_append, List.singleton_inj.1 hx]

/-- What an event brings about and every move keeps holds before all later events, and at the end of
the run. -/
theorem Run.since {P : Machine → Prop} {h₁ h₂ : List Event} {e : Event}
    (run : Run config history m) (split : history = h₁ ++ e :: h₂)
    (start : P (e.before.make e.move).1)
    (keep : ∀ m mv, Reachable config m → m.admits mv = true → P m → P (m.make mv).1) :
    P m ∧ ∀ e' ∈ h₂, P e'.before := by
  induction run generalizing h₂ with
  | new => simp at split
  | @move history m mv run admitted ih =>
    rcases append_singleton_eq_split split with ⟨-, rfl, rfl⟩ | ⟨h₃, hsplit, rfl⟩
    · exact ⟨start, by simp⟩
    · obtain ⟨hm, hbefore⟩ := ih hsplit
      refine ⟨keep m mv run.reachable admitted hm, fun e' he' => ?_⟩
      rcases List.mem_append.1 he' with he' | he'
      · exact hbefore e' he'
      · obtain rfl := List.mem_singleton.1 he'
        exact hm

/-- What comes before an event of a run is a run. -/
theorem Run.before {h₁ h₂ : List Event} {e : Event} (run : Run config history m)
    (split : history = h₁ ++ e :: h₂) : Run config h₁ e.before := by
  induction run generalizing h₂ with
  | new => simp at split
  | move mv run admitted ih =>
    rcases append_singleton_eq_split split with ⟨rfl, rfl, -⟩ | ⟨h₃, hsplit, -⟩
    · exact run
    · exact ih hsplit

/-! ## Runs of given moves -/

/-- The machine after a sequence of moves. -/
def after (m : Machine) : List Move → Machine
  | [] => m
  | mv :: rest => (m.make mv).1.after rest

/-- Whether every move of a sequence may be made. -/
def admitsAll (m : Machine) : List Move → Bool
  | [] => true
  | mv :: rest => m.admits mv && (m.make mv).1.admitsAll rest

/-- What happens in a sequence of moves. -/
def events (m : Machine) : List Move → List Event
  | [] => []
  | mv :: rest => ⟨m, mv, (m.make mv).2⟩ :: (m.make mv).1.events rest

/-- A run of moves is made through one of them. -/
theorem after_append_cons (m : Machine) (moves rest : List Move) (mv : Move) :
    m.after (moves ++ mv :: rest) = ((m.after moves).make mv).1.after rest := by
  induction moves generalizing m with
  | nil => rfl
  | cons mv' moves ih => exact ih _

/-- What happens before a move, with it and after it. -/
theorem events_append_cons (m : Machine) (moves rest : List Move) (mv : Move) :
    m.events (moves ++ mv :: rest) =
      m.events moves ++ ⟨m.after moves, mv, ((m.after moves).make mv).2⟩ ::
        ((m.after moves).make mv).1.events rest := by
  induction moves generalizing m with
  | nil => rfl
  | cons mv' moves ih => exact congrArg (_ :: ·) (ih _)

/-- What happens in a sequence of moves is those moves. -/
theorem move_mem_of_mem_events {moves : List Move} {e : Event} (h : e ∈ m.events moves) :
    e.move ∈ moves := by
  induction moves generalizing m with
  | nil => cases h
  | cons mv rest ih =>
    rcases List.mem_cons.1 h with rfl | h
    · exact List.mem_cons_self ..
    · exact List.mem_cons_of_mem _ (ih h)

/-- A run goes on with moves that may be made. -/
theorem Run.go (run : Run config history m) {moves : List Move}
    (admitted : m.admitsAll moves = true) : Run config (history ++ m.events moves) (m.after moves) := by
  induction moves generalizing history m with
  | nil =>
    rw [events, List.append_nil]
    exact run
  | cons mv rest ih =>
    obtain ⟨hmv, hrest⟩ := Bool.and_eq_true_iff.1 admitted
    have := ih (run.move mv hmv) hrest
    rwa [List.append_assoc] at this

/-- A sequence of moves that may be made on a new switchboard. -/
theorem Run.of_moves (config : Config) (moves : List Move)
    (admitted : (Machine.new config).admitsAll moves = true) :
    Run config ((Machine.new config).events moves) ((Machine.new config).after moves) :=
  Run.new.go admitted

/-- An application registers, and a device is installed whose driver is then asked about it. -/
def binding : List Move :=
  [.call (.register ⟨1, 1, 128⟩), .advance,
    .call (.install ⟨"maker", "serial", "profile", default, default⟩ 0), .advance]

/-- The driver agrees, and the installation ends. -/
def bound : List Move := binding ++ [.answer .agree, .advance, .advance]

/-- An application registers and sets a handler. -/
def listening : List Move :=
  [.call (.register ⟨1, 1, 128⟩), .advance, .call (.setHandler default (some ⟨7, .custom 0⟩))]

end Machine

end Switchboard
