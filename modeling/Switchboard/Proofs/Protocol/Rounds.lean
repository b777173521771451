import Mathlib.Data.List.Induction

/-! # Rounds of driver callbacks

What the driver of a device is told about one application number comes in rounds. Any number of
applications are refused, one is accepted, messages are handed over for it, and it is released; only
then does the next round begin. `IsRound` says so of a list of signals. A `Phase` is how far a round
has come: signals that can be followed through the phases are a beginning of a sequence of rounds
(`isPrefix_rounds`). -/

namespace Switchboard

/-- What the driver of a device sees of an application: a callback about it starts or returns. -/
inductive Signal where
  /-- A register callback starts. -/
  | asked (a : Nat)
  /-- A register callback returns, with the application accepted or not. -/
  | answered (a : Nat) (accepted : Bool)
  /-- A send callback starts. -/
  | handed (a : Nat)
  /-- A send callback returns. -/
  | sent (a : Nat)
  /-- A release callback starts. -/
  | bid (a : Nat)
  /-- A release callback returns. -/
  | bidden (a : Nat)
deriving DecidableEq

namespace Signal

/-- The application that a signal is about. -/
def appl : Signal → Nat
  | asked a => a
  | answered a _ => a
  | handed a => a
  | sent a => a
  | bid a => a
  | bidden a => a

/-- Register callbacks that fail, one after the other. -/
def refusals (as : List Nat) : List Signal := as.flatMap fun a => [asked a, answered a false]

/-- Send callbacks for an application, `k` of which have not returned. -/
inductive Sends (a : Nat) : Nat → List Signal → Prop where
  | nil : Sends a 0 []
  | handed {k : Nat} {l : List Signal} (sends : Sends a k l) : Sends a (k + 1) (l ++ [handed a])
  | sent {k : Nat} {l : List Signal} (sends : Sends a (k + 1) l) : Sends a k (l ++ [sent a])

/-- A register callback for an application that succeeds, and send callbacks for it. -/
def service (a : Nat) (sends : List Signal) : List Signal := asked a :: answered a true :: sends

/-- Register callbacks that fail, one that succeeds, send callbacks for its application, all of
which return, and one release callback for it. -/
def IsRound (l : List Signal) : Prop :=
  ∃ as a sends, Sends a 0 sends ∧ l = refusals as ++ service a sends ++ [bid a, bidden a]

/-- Send callbacks in progress can return. -/
theorem Sends.returned {a k : Nat} {l : List Signal} (sends : Sends a k l) :
    Sends a 0 (l ++ List.replicate k (.sent a)) := by
  induction k generalizing l with
  | zero => simpa using sends
  | succ k ih =>
    have := ih sends.sent
    rwa [List.append_assoc] at this

/-- Another register callback fails. -/
theorem refusals_append (as : List Nat) (a : Nat) :
    refusals as ++ [asked a] ++ [answered a false] = refusals (as ++ [a]) := by
  simp [refusals]

end Signal

/-! ## Phases -/

/-- How far a round has come. -/
inductive Phase where
  | idle
  | asking (a : Nat)
  /-- An application has been accepted, and `k` send callbacks for it are in progress. -/
  | serving (a k : Nat)
  | releasing (a : Nat)
deriving DecidableEq

namespace Phase

/-- The phase after a signal, if the signal may come. -/
def next? : Phase → Signal → Option Phase
  | idle, .asked a => some (asking a)
  | asking b, .answered a accepted =>
    if a = b then some (if accepted then serving a 0 else idle) else none
  | serving b k, .handed a => if a = b then some (serving a (k + 1)) else none
  | serving b (k + 1), .sent a => if a = b then some (serving a k) else none
  | serving b 0, .bid a => if a = b then some (releasing a) else none
  | releasing b, .bidden a => if a = b then some idle else none
  | _, _ => none

open Signal

/-- The signals of a round up to a phase. -/
def Begun : Phase → List Signal → Prop
  | idle, l => ∃ as, l = refusals as
  | asking a, l => ∃ as, l = refusals as ++ [asked a]
  | serving a k, l => ∃ as sends, Sends a k sends ∧ l = refusals as ++ service a sends
  | releasing a, l => ∃ as sends, Sends a 0 sends ∧ l = refusals as ++ service a sends ++ [bid a]

/-- A signal that may come leads the round to the next phase, or ends it. -/
theorem Begun.next? {p q : Phase} {s : Signal} {l : List Signal} (begun : p.Begun l)
    (next : p.next? s = some q) : q.Begun (l ++ [s]) ∨ q = idle ∧ IsRound (l ++ [s]) := by
  -- in the cases left out the signal may not come
  revert next
  fun_cases Phase.next? p s with
  | case1 a =>
    rintro ⟨⟩
    obtain ⟨as, rfl⟩ := begun
    exact Or.inl ⟨as, rfl⟩
  | case2 a accepted =>
    rintro ⟨⟩
    obtain ⟨as, rfl⟩ := begun
    left
    cases accepted with
    | false => exact ⟨as ++ [a], refusals_append as a⟩
    | true => exact ⟨as, [], .nil, by simp [service]⟩
  | case4 k a =>
    rintro ⟨⟩
    obtain ⟨as, sends, hsends, rfl⟩ := begun
    exact Or.inl ⟨as, sends ++ [handed a], hsends.handed, by simp [service]⟩
  | case6 k a =>
    rintro ⟨⟩
    obtain ⟨as, sends, hsends, rfl⟩ := begun
    exact Or.inl ⟨as, sends ++ [sent a], hsends.sent, by simp [service]⟩
  | case8 a =>
    rintro ⟨⟩
    obtain ⟨as, sends, hsends, rfl⟩ := begun
    exact Or.inl ⟨as, sends, hsends, rfl⟩
  | case10 a =>
    rintro ⟨⟩
    obtain ⟨as, sends, hsends, rfl⟩ := begun
    exact Or.inr ⟨rfl, as, a, sends, hsends, by simp⟩
  | _ => rintro ⟨⟩

/-- A round that has begun can be completed. -/
theorem Begun.completes {p : Phase} {l : List Signal} (begun : p.Begun l) :
    ∃ rest, IsRound (l ++ rest) := by
  cases p with
  | idle =>
    obtain ⟨as, rfl⟩ := begun
    exact ⟨service 0 [] ++ [bid 0, bidden 0], as, 0, [], .nil, by simp⟩
  | asking a =>
    obtain ⟨as, rfl⟩ := begun
    exact ⟨[answered a true, bid a, bidden a], as, a, [], .nil, by simp [service]⟩
  | serving a k =>
    obtain ⟨as, sends, hsends, rfl⟩ := begun
    exact ⟨List.replicate k (sent a) ++ [bid a, bidden a], as, a, _, hsends.returned,
      by simp [service]⟩
  | releasing a =>
    obtain ⟨as, sends, hsends, rfl⟩ := begun
    exact ⟨[bidden a], as, a, sends, hsends, by simp⟩

/-- The phase after signals that begin in the idle phase, if they may come in this order. -/
def after? (l : List Signal) : Option Phase := l.foldlM next? idle

/-- Before anything is signalled all is idle. -/
@[simp] theorem after?_nil : after? [] = some idle := rfl

/-- The last signal is taken after the others. -/
@[simp] theorem after?_append_singleton (l : List Signal) (s : Signal) :
    after? (l ++ [s]) = (after? l).bind (·.next? s) := by
  simp [after?]

/-- Signals that may come in their order are rounds and the beginning of one. -/
theorem rounds_of_after? {l : List Signal} {p : Phase} (h : after? l = some p) :
    ∃ (rounds : List (List Signal)) (begun : List Signal),
      (∀ r ∈ rounds, IsRound r) ∧ p.Begun begun ∧ l = rounds.flatten ++ begun := by
  -- the last signal completes the round that has begun, or carries it on
  induction l using List.reverseRecOn generalizing p with
  | nil =>
    rw [after?_nil] at h
    cases h
    exact ⟨[], [], by simp, ⟨[], rfl⟩, rfl⟩
  | append_singleton l s ih =>
    rw [after?_append_singleton] at h
    obtain ⟨q, hq, hnext⟩ := Option.bind_eq_some_iff.1 h
    obtain ⟨rounds, begun, hrounds, hbegun, rfl⟩ := ih hq
    rcases hbegun.next? hnext with hbegun' | ⟨rfl, hround⟩
    · exact ⟨rounds, begun ++ [s], hrounds, hbegun', List.append_assoc ..⟩
    · refine ⟨rounds ++ [begun ++ [s]], [], ?_, ⟨[], rfl⟩, by simp⟩
      intro r hr
      rcases List.mem_append.1 hr with hr | hr
      · exact hrounds r hr
      · obtain rfl := List.mem_singleton.1 hr
        exact hround

/-- Signals that may come in their order are a prefix of a sequence of rounds. -/
theorem isPrefix_rounds {l : List Signal} {p : Phase} (h : after? l = some p) :
    ∃ rounds : List (List Signal), (∀ r ∈ rounds, IsRound r) ∧ l <+: rounds.flatten := by
  obtain ⟨rounds, begun, hrounds, hbegun, rfl⟩ := rounds_of_after? h
  obtain ⟨rest, hrest⟩ := hbegun.completes
  refine ⟨rounds ++ [begun ++ rest], ?_, rest, by simp⟩
  intro r hr
  rcases List.mem_append.1 hr with hr | hr
  · exact hrounds r hr
  · obtain rfl := List.mem_singleton.1 hr
    exact hrest

end Phase

end Switchboard
