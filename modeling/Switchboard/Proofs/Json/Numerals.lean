import Mathlib.Data.List.Induction
import Mathlib.Data.List.TakeWhile
import Switchboard.Json.Printer
import Switchboard.Json.Token

/-! # Number literals

The grammar of JSON numbers, written down apart from the functions that recognise them:
`isNumber_iff` says that these accept the grammar and nothing else. Decimal notation is read back
by `natural?_eq_some_iff` and `integer?_renderInt`; since a number has no leading zeros, there is
one literal for each natural number. -/

namespace Switchboard.Json.NumberLiteral

/-! ## The grammar of numbers -/

/-- At least one digit and nothing else. -/
def Digits (s : List Char) : Prop := s ≠ [] ∧ ∀ c ∈ s, c.isDigit = true

/-- The whole part of a number: a zero, or digits that begin with another one. -/
inductive Whole : List Char → Prop where
  | zero : Whole ['0']
  | other {c : Char} {s : List Char} (lead : c ≠ '0') (digits : Digits (c :: s)) : Whole (c :: s)

/-- The fraction of a number, if it has one. -/
inductive Fraction : List Char → Prop where
  | none : Fraction []
  | some {s : List Char} (digits : Digits s) : Fraction ('.' :: s)

/-- The exponent of a number, if it has one. -/
inductive Exponent : List Char → Prop where
  | none : Exponent []
  | some {e : Char} {sign s : List Char} (letter : e = 'e' ∨ e = 'E')
      (signed : sign = [] ∨ sign = ['+'] ∨ sign = ['-']) (digits : Digits s) :
      Exponent (e :: (sign ++ s))

/-- A number: an optional minus sign, a whole part, and possibly a fraction and an exponent. -/
inductive Number : List Char → Prop where
  | mk {sign whole fraction exponent : List Char} (signed : sign = [] ∨ sign = ['-'])
      (isWhole : Whole whole) (isFraction : Fraction fraction) (isExponent : Exponent exponent) :
      Number (sign ++ (whole ++ (fraction ++ exponent)))

variable {s t : List Char}

/-- Digits are recognized. -/
theorem isDigits_iff : isDigits s = true ↔ Digits s := by
  simp [isDigits, Digits]

/-- Digits are split off from what begins with none. -/
theorem takeWhile_digits (digits : ∀ c ∈ s, c.isDigit = true)
    (stop : ∀ c ∈ t.head?, c.isDigit = false) :
    (s ++ t).takeWhile Char.isDigit = s ∧ (s ++ t).dropWhile Char.isDigit = t := by
  induction s with
  | nil =>
    cases t with
    | nil => exact ⟨rfl, rfl⟩
    | cons c t => simp [stop c (by simp)]
  | cons c s ih =>
    obtain ⟨htake, hdrop⟩ := ih fun c' hc' => digits c' (List.mem_cons_of_mem _ hc')
    have hc : c.isDigit = true := digits c List.mem_cons_self
    constructor
    · rw [List.cons_append, List.takeWhile_cons_of_pos hc, htake]
    · rw [List.cons_append, List.dropWhile_cons_of_pos hc, hdrop]

/-- The whole part of a number is recognized. -/
theorem isWhole_iff : isWhole s = true ↔ Whole s := by
  constructor
  · intro h
    unfold isWhole at h
    split at h
    · exact .zero
    · cases h
    · rename_i hzero hlead
      obtain ⟨hne, hall⟩ := isDigits_iff.1 h
      cases s with
      | nil => exact absurd rfl hne
      | cons c s => exact .other (fun e => hlead s (by rw [e])) ⟨hne, hall⟩
  · intro h
    cases h with
    | zero => rfl
    | @other c s lead digits =>
      unfold isWhole
      split
      · rfl
      · rename_i heq
        exact absurd (List.cons.inj heq).1 lead
      · exact isDigits_iff.2 digits

/-- A whole part is made of digits. -/
theorem Whole.digits (h : Whole s) : Digits s := by
  cases h with
  | zero => exact ⟨by simp, by simp⟩
  | other lead digits => exact digits

/-- The digits of an exponent are recognized, whatever sign they have. -/
theorem isExponent_iff :
    isExponent s = true ↔ ∃ sign ds, (sign = [] ∨ sign = ['+'] ∨ sign = ['-']) ∧ Digits ds ∧
      s = sign ++ ds := by
  constructor
  · intro h
    unfold isExponent at h
    split at h
    · exact ⟨['+'], _, by simp, isDigits_iff.1 h, rfl⟩
    · exact ⟨['-'], _, by simp, isDigits_iff.1 h, rfl⟩
    · exact ⟨[], _, by simp, isDigits_iff.1 h, rfl⟩
  · rintro ⟨sign, ds, rfl | rfl | rfl, hds, rfl⟩
    · -- a sign is no digit, so that what stands here is the digits
      cases s with
      | nil => exact absurd rfl hds.1
      | cons c s =>
        have hc : c.isDigit = true := hds.2 c List.mem_cons_self
        unfold isExponent
        split
        · rename_i heq
          rw [(List.cons.inj heq).1] at hc
          cases hc
        · rename_i heq
          rw [(List.cons.inj heq).1] at hc
          cases hc
        · exact isDigits_iff.2 hds
    · exact isDigits_iff.2 hds
    · exact isDigits_iff.2 hds

/-- An exponent begins with its letter, which is neither a digit nor a point. -/
theorem Exponent.head (h : Exponent s) : ∀ c ∈ s.head?, c = 'e' ∨ c = 'E' := by
  cases h with
  | none => simp
  | some letter => simpa using letter

/-- The letter of an exponent is no digit. -/
theorem not_isDigit_of_letter {c : Char} (h : c = 'e' ∨ c = 'E') : c.isDigit = false := by
  rcases h with rfl | rfl <;> rfl

/-- What follows the whole part is not taken for a part of it. -/
theorem head_rest (fraction : Fraction s) (exponent : Exponent t) :
    ∀ c ∈ (s ++ t).head?, c.isDigit = false := by
  intro c hc
  cases fraction with
  | none => exact not_isDigit_of_letter (exponent.head c hc)
  | some digits =>
    obtain rfl : '.' = c := by simpa using hc
    rfl

/-- The exponent is all that may follow the digits of a fraction. -/
theorem exponent_iff :
    Exponent s ↔ (match s with
      | [] => true
      | e :: t => (e = 'e' || e = 'E') && isExponent t) = true := by
  constructor
  · intro h
    cases h with
    | none => rfl
    | @some e sign ds letter signed digits =>
      simp only [Bool.and_eq_true, Bool.or_eq_true, decide_eq_true_eq]
      exact ⟨letter, isExponent_iff.2 ⟨sign, ds, signed, digits, rfl⟩⟩
  · intro h
    split at h
    · exact .none
    · simp only [Bool.and_eq_true, Bool.or_eq_true, decide_eq_true_eq] at h
      obtain ⟨sign, ds, signed, digits, rfl⟩ := isExponent_iff.1 h.2
      exact .some h.1 signed digits

/-- What may follow the whole part is recognized. -/
theorem isRest_iff : isRest s = true ↔
    ∃ fraction exponent, Fraction fraction ∧ Exponent exponent ∧ s = fraction ++ exponent := by
  constructor
  · intro h
    unfold isRest at h
    split at h
    · exact ⟨[], [], .none, .none, rfl⟩
    · rename_i t
      obtain ⟨hdigits, hexponent⟩ := Bool.and_eq_true_iff.1 h
      refine ⟨'.' :: t.takeWhile Char.isDigit, t.dropWhile Char.isDigit,
        .some (isDigits_iff.1 hdigits), exponent_iff.2 hexponent, ?_⟩
      rw [List.cons_append, List.takeWhile_append_dropWhile]
    · rename_i e t hpoint
      exact ⟨[], e :: t, .none, exponent_iff.2 h, rfl⟩
  · rintro ⟨fraction, exponent, hfraction, hexponent, rfl⟩
    cases hfraction with
    | none =>
      -- without a fraction the letter of the exponent comes first
      cases hexponent with
      | none => rfl
      | @some e sign ds letter signed digits =>
        have hrest := exponent_iff.1 (Exponent.some letter signed digits)
        rcases letter with rfl | rfl
        · exact hrest
        · exact hrest
    | @some ds digits =>
      obtain ⟨htake, hdrop⟩ := takeWhile_digits digits.2
        fun c hc => not_isDigit_of_letter (hexponent.head c hc)
      rw [List.cons_append, isRest, htake, hdrop, isDigits_iff.2 digits, Bool.true_and]
      exact exponent_iff.1 hexponent

/-- A number without its sign is recognized. -/
theorem isUnsigned_iff : isUnsigned s = true ↔
    ∃ whole fraction exponent, Whole whole ∧ Fraction fraction ∧ Exponent exponent ∧
      s = whole ++ (fraction ++ exponent) := by
  rw [isUnsigned, Bool.and_eq_true, isWhole_iff, isRest_iff]
  constructor
  · rintro ⟨hwhole, fraction, exponent, hfraction, hexponent, hrest⟩
    refine ⟨_, fraction, exponent, hwhole, hfraction, hexponent, ?_⟩
    rw [← hrest, List.takeWhile_append_dropWhile]
  · rintro ⟨whole, fraction, exponent, hwhole, hfraction, hexponent, rfl⟩
    obtain ⟨htake, hdrop⟩ :=
      takeWhile_digits hwhole.digits.2 (head_rest hfraction hexponent)
    rw [htake, hdrop]
    exact ⟨hwhole, fraction, exponent, hfraction, hexponent, rfl⟩

/-- **Number literals** are recognised exactly as the grammar has them. -/
theorem isNumber_iff : isNumber s = true ↔ Number s := by
  constructor
  · intro h
    unfold isNumber at h
    split at h
    · obtain ⟨whole, fraction, exponent, hwhole, hfraction, hexponent, rfl⟩ := isUnsigned_iff.1 h
      exact .mk (Or.inr rfl) hwhole hfraction hexponent
    · obtain ⟨whole, fraction, exponent, hwhole, hfraction, hexponent, rfl⟩ := isUnsigned_iff.1 h
      exact .mk (Or.inl rfl) hwhole hfraction hexponent
  · rintro ⟨rfl | rfl, hwhole, hfraction, hexponent⟩
    · have hunsigned := isUnsigned_iff.2 ⟨_, _, _, hwhole, hfraction, hexponent, rfl⟩
      unfold isNumber
      split
      · -- a whole part does not begin with a sign
        rename_i heq
        obtain ⟨hne, hall⟩ := hwhole.digits
        obtain ⟨c, w, rfl⟩ := List.exists_cons_of_ne_nil hne
        have hc : c.isDigit = true := hall c List.mem_cons_self
        rw [show c = '-' from (List.cons.inj heq).1] at hc
        cases hc
      · exact hunsigned
    · exact isUnsigned_iff.2 ⟨_, _, _, hwhole, hfraction, hexponent, rfl⟩

/-- A number literal is made of the characters that the scanner takes together. -/
theorem Number.isNumeric (h : Number s) : s ≠ [] ∧ ∀ c ∈ s, isNumeric c = true := by
  obtain ⟨signed, hwhole, hfraction, hexponent⟩ := h
  have hdigit {c : Char} (hc : c.isDigit = true) : Json.isNumeric c = true := by
    simp [Json.isNumeric, hc]
  obtain ⟨hne, hdigits⟩ := hwhole.digits
  -- a number is not empty for its whole part, and its characters are those of its parts
  refine ⟨by simp [hne], fun c hc => ?_⟩
  simp only [List.mem_append] at hc
  rcases hc with hc | hc | hc | hc
  · rcases signed with rfl | rfl
    · cases hc
    · rw [List.mem_singleton.1 hc]
      rfl
  · exact hdigit (hdigits c hc)
  · cases hfraction with
    | none => cases hc
    | some digits =>
      rcases List.mem_cons.1 hc with rfl | hc
      · rfl
      · exact hdigit (digits.2 c hc)
  · cases hexponent with
    | none => cases hc
    | some letter signed digits =>
      rcases List.mem_cons.1 hc with rfl | hc
      · rcases letter with rfl | rfl <;> rfl
      · rcases List.mem_append.1 hc with hc | hc
        · rcases signed with rfl | rfl | rfl
          · cases hc
          · rw [List.mem_singleton.1 hc]
            rfl
          · rw [List.mem_singleton.1 hc]
            rfl
        · exact hdigit (digits.2 c hc)

/-! ## Decimal numbers -/

/-- A digit is spelled by the character that was read for it. -/
theorem digitChar_of_isDigit {c : Char} (h : c.isDigit = true) :
    c.toNat - '0'.toNat < 10 ∧ Nat.digitChar (c.toNat - '0'.toNat) = c := by
  have hzero : '0'.toNat = 48 := rfl
  have hbounds : 48 ≤ c.toNat ∧ c.toNat ≤ 57 := by
    simpa [Char.isDigit, UInt32.le_iff_toNat_le] using h
  rw [hzero]
  refine ⟨by omega, ?_⟩
  apply Char.toNat_inj.1
  rw [Nat.toNat_digitChar_of_lt_ten (by omega)]
  omega

/-- A number that begins with another digit than a zero is none. -/
theorem ofDigitChars_pos {c : Char} (lead : c ≠ '0') (digit : c.isDigit = true) (s : List Char) :
    0 < Nat.ofDigitChars 10 (c :: s) 0 := by
  obtain ⟨-, hc⟩ := digitChar_of_isDigit digit
  have hne : c.toNat - '0'.toNat ≠ 0 := by
    intro h0
    rw [h0] at hc
    exact lead hc.symm
  rw [Nat.ofDigitChars_cons, Nat.ofDigitChars_eq_ofDigitChars_zero, Nat.mul_zero, Nat.zero_add]
  have hpow : 0 < 10 ^ s.length := Nat.pow_pos (by omega)
  have hprod := Nat.mul_pos hpow (Nat.pos_of_ne_zero hne)
  omega

/-- A whole part is what its value is written as. -/
theorem toDigits_ofDigitChars (h : Whole s) : Nat.toDigits 10 (Nat.ofDigitChars 10 s 0) = s := by
  cases h with
  | zero => rfl
  | @other c s lead digits =>
    have hlead : c.isDigit = true := digits.2 c List.mem_cons_self
    -- induction at the end, where decimal notation goes on
    induction s using List.reverseRecOn with
    | nil =>
      obtain ⟨hlt, hc⟩ := digitChar_of_isDigit hlead
      rw [Nat.ofDigitChars_cons, Nat.ofDigitChars_nil, Nat.mul_zero, Nat.zero_add,
        Nat.toDigits_of_lt_base hlt, hc]
    | append_singleton s d ih =>
      have hfront : ∀ x ∈ c :: s, x.isDigit = true := by
        intro x hx
        apply digits.2
        rw [← List.cons_append]
        exact List.mem_append_left _ hx
      obtain ⟨hlt, hd⟩ := digitChar_of_isDigit (digits.2 d (by simp))
      have hvalue := ih ⟨by simp, hfront⟩
      rw [← List.cons_append, Nat.ofDigitChars_append, Nat.ofDigitChars_cons, Nat.ofDigitChars_nil,
        ← Nat.toDigits_append_toDigits (by omega) (ofDigitChars_pos lead hlead s) hlt, hvalue,
        Nat.toDigits_of_lt_base hlt, hd]

/-- A positive number is not written with a leading zero. -/
theorem head_toDigits {n : Nat} (h : 0 < n) : ∃ c t, Nat.toDigits 10 n = c :: t ∧ c ≠ '0' := by
  -- induction on the number without its last digit, which begins in the same way
  induction n using Nat.strong_induction_on with
  | _ n ih =>
    rcases Nat.lt_or_ge n 10 with hlt | hge
    · refine ⟨n.digitChar, [], Nat.toDigits_of_lt_base hlt, ?_⟩
      intro h0
      rw [Nat.digitChar_eq_zero] at h0
      omega
    · obtain ⟨c, t, hct, hc⟩ := ih (n / 10) (by omega) (by omega)
      refine ⟨c, t ++ [(n % 10).digitChar], ?_, hc⟩
      rw [Nat.toDigits_of_base_le (by omega) hge, hct, List.cons_append]

/-- A natural number is spelled with digits. -/
theorem digits_toDigits (n : Nat) : Digits (Nat.toDigits 10 n) :=
  ⟨Nat.toDigits_ne_nil, fun _ hc => Nat.isDigit_of_mem_toDigits (by omega) (by omega) hc⟩

/-- A natural number is spelled without a leading zero. -/
theorem whole_toDigits (n : Nat) : Whole (Nat.toDigits 10 n) := by
  rcases Nat.eq_zero_or_pos n with rfl | hpos
  · exact .zero
  · obtain ⟨c, t, hct, hc⟩ := head_toDigits hpos
    have hdigits := digits_toDigits n
    rw [hct] at hdigits ⊢
    exact .other hc hdigits

/-- **Natural numbers** are read from their decimal notation and from nothing else. -/
theorem natural?_eq_some_iff {n : Nat} : natural? s = some n ↔ s = Nat.toDigits 10 n := by
  unfold natural?
  constructor
  · intro h
    split at h
    · rename_i hwhole
      obtain rfl := Option.some.inj h
      exact (toDigits_ofDigitChars (isWhole_iff.1 hwhole)).symm
    · cases h
  · rintro rfl
    rw [if_pos (isWhole_iff.2 (whole_toDigits n)), Nat.ofDigitChars_ten_toDigits]

/-- Digits do not begin with a sign. -/
theorem integer?_of_digits (h : Digits s) : integer? s = (natural? s).map Int.ofNat := by
  obtain ⟨hne, hall⟩ := h
  obtain ⟨c, t, rfl⟩ := List.exists_cons_of_ne_nil hne
  have hc : c.isDigit = true := hall c List.mem_cons_self
  unfold integer?
  split
  · rename_i heq
    rw [(List.cons.inj heq).1] at hc
    cases hc
  · rfl

/-- An integer is read back from what it is written as. -/
theorem integer?_renderInt (i : Int) : integer? (renderInt i) = some i := by
  cases i with
  | ofNat n =>
    show integer? (Nat.toDigits 10 n) = _
    rw [integer?_of_digits (digits_toDigits n), natural?_eq_some_iff.2 rfl]
    rfl
  | negSucc n =>
    show (natural? (Nat.toDigits 10 (n + 1))).map (fun n => -(n : Int)) = _
    rw [natural?_eq_some_iff.2 rfl]
    rfl

/-- An integer is spelled as the grammar has it. -/
theorem number_renderInt (i : Int) : Number (renderInt i) := by
  have hnumber {sign whole : List Char} (signed : sign = [] ∨ sign = ['-']) (h : Whole whole) :
      Number (sign ++ whole) := by
    have := Number.mk signed h .none .none
    rwa [List.append_nil, List.append_nil] at this
  cases i with
  | ofNat n => exact hnumber (Or.inl rfl) (whole_toDigits n)
  | negSucc n => exact hnumber (Or.inr rfl) (whole_toDigits (n + 1))

end Switchboard.Json.NumberLiteral
