import Mathlib.Data.List.Basic

/-! # Dialogues

A dialogue is a list of requests to a state, each of which is answered and leads to the next state.
Two states that answer alike, and go on answering alike, cannot be told apart by any dialogue:
`answers_eq` is that induction, for requests that are made only when they are admitted. -/

namespace Switchboard.Dialogue

variable {σ τ ρ β : Type}

/-- The state after some requests. -/
def after (serve : σ → ρ → β × σ) (s : σ) (requests : List ρ) : σ :=
  requests.foldl (fun s q => (serve s q).2) s

/-- The answers to some requests. -/
def answers (serve : σ → ρ → β × σ) : σ → List ρ → List β
  | _, [] => []
  | s, q :: rest => (serve s q).1 :: answers serve (serve s q).2 rest

/-- Every request is made in a state that admits it. -/
def Orderly (serve : σ → ρ → β × σ) (admits : σ → ρ → Prop) : σ → List ρ → Prop
  | _, [] => True
  | s, q :: rest => admits s q ∧ Orderly serve admits (serve s q).2 rest

instance decidableOrderly (serve : σ → ρ → β × σ) (admits : σ → ρ → Prop)
    [∀ s q, Decidable (admits s q)] : (s : σ) → (requests : List ρ) →
      Decidable (Orderly serve admits s requests)
  | _, [] => .isTrue trivial
  | s, q :: rest =>
    have := decidableOrderly serve admits (serve s q).2 rest
    inferInstanceAs (Decidable (admits s q ∧ Orderly serve admits (serve s q).2 rest))

/-- Nothing is asked. -/
@[simp] theorem after_nil (serve : σ → ρ → β × σ) (s : σ) : after serve s [] = s := rfl

/-- The first request is served before the others. -/
@[simp] theorem after_cons (serve : σ → ρ → β × σ) (s : σ) (q : ρ) (rest : List ρ) :
    after serve s (q :: rest) = after serve (serve s q).2 rest := rfl

/-- What comes first is served first. -/
theorem after_append (serve : σ → ρ → β × σ) (s : σ) (l rest : List ρ) :
    after serve s (l ++ rest) = after serve (after serve s l) rest :=
  List.foldl_append

variable {serve : σ → ρ → β × σ}

/-- Where everything is admitted, every dialogue is orderly. -/
theorem orderly_of_forall {admits : σ → ρ → Prop} (always : ∀ s q, admits s q) (s : σ)
    (requests : List ρ) : Orderly serve admits s requests := by
  induction requests generalizing s with
  | nil => trivial
  | cons q rest ih => exact ⟨always s q, ih _⟩

/-- A dialogue is orderly in two parts, the second from where the first has led. -/
theorem orderly_append {admits : σ → ρ → Prop} {s : σ} {l rest : List ρ} :
    Orderly serve admits s (l ++ rest) ↔
      Orderly serve admits s l ∧ Orderly serve admits (after serve s l) rest := by
  induction l generalizing s with
  | nil => exact (and_iff_right trivial).symm
  | cons q l ih => rw [List.cons_append, Orderly, ih, ← and_assoc]; rfl

/-- What every request keeps that is admitted is kept by an orderly dialogue. -/
theorem Orderly.after_induction {admits : σ → ρ → Prop} {P : σ → Prop}
    (step : ∀ s q, admits s q → P s → P (serve s q).2) {s : σ} (start : P s) {requests : List ρ}
    (orderly : Orderly serve admits s requests) : P (after serve s requests) := by
  induction requests generalizing s with
  | nil => exact start
  | cons q rest ih => exact ih (step s q orderly.1 start) orderly.2

/-- **Two states that answer alike** in every step give the same answers in every dialogue. -/
theorem answers_eq {serve' : τ → ρ → β × τ} {admits : τ → ρ → Prop} {alike : σ → τ → Prop}
    (step : ∀ s t q, alike s t → admits t q →
      (serve s q).1 = (serve' t q).1 ∧ alike (serve s q).2 (serve' t q).2)
    {s : σ} {t : τ} (start : alike s t) {requests : List ρ}
    (orderly : Orderly serve' admits t requests) :
    answers serve s requests = answers serve' t requests ∧
      alike (after serve s requests) (after serve' t requests) := by
  induction requests generalizing s t with
  | nil => exact ⟨rfl, start⟩
  | cons q rest ih =>
    obtain ⟨admitted, later⟩ := orderly
    obtain ⟨hanswer, halike⟩ := step s t q start admitted
    obtain ⟨hanswers, hafter⟩ := ih halike later
    refine ⟨?_, hafter⟩
    rw [answers, answers, hanswer, hanswers]

end Switchboard.Dialogue
