import Switchboard.Json.Text

/-! # Strings

The grammar of JSON string bodies, written down apart from the functions that read them: `body_iff`
says that the well-formed bodies are those of the grammar. Whatever characters a text has, the body
that spells it is of the grammar, has no control character in it, and is read back: `body_encode`,
`Body.visible` and `decode_encode`. -/

namespace Switchboard.Json.Text

/-! ## The grammar of string bodies -/

/-- A hexadecimal digit of either case. -/
def IsHex (c : Char) : Prop :=
  '0' ≤ c ∧ c ≤ '9' ∨ 'a' ≤ c ∧ c ≤ 'f' ∨ 'A' ≤ c ∧ c ≤ 'F'

/-- What may stand between the quotes of a string: characters from U+0020 on other than the quote
and the backslash, escapes of one letter, and escapes of four hexadecimal digits. -/
inductive Body : List Char → Prop where
  | nil : Body []
  | plain {c : Char} {s : List Char} (quote : c ≠ '"') (backslash : c ≠ '\\')
      (visible : 0x20 ≤ c.toNat) (rest : Body s) : Body (c :: s)
  | escape {e : Char} {s : List Char} (letter : e ∈ ['"', '\\', '/', 'b', 'f', 'n', 'r', 't'])
      (rest : Body s) : Body ('\\' :: e :: s)
  | unit {a b c d : Char} {s : List Char} (hex : ∀ x ∈ [a, b, c, d], IsHex x) (rest : Body s) :
      Body ('\\' :: 'u' :: a :: b :: c :: d :: s)

/-- No quote stands in it but behind a backslash. -/
inductive Enclosed : List Char → Prop where
  | nil : Enclosed []
  | plain {c : Char} {s : List Char} (quote : c ≠ '"') (backslash : c ≠ '\\') (rest : Enclosed s) :
      Enclosed (c :: s)
  | escape {e : Char} {s : List Char} (rest : Enclosed s) : Enclosed ('\\' :: e :: s)

variable {s : List Char}

/-- A character has a hexadecimal value exactly when it is a hexadecimal digit. -/
theorem hexValue?_isSome_iff {c : Char} : (hexValue? c).isSome = true ↔ IsHex c := by
  unfold hexValue? IsHex
  split
  · simp_all
  · split
    · simp_all
    · split <;> simp_all

/-- Four characters spell a unit exactly when all of them are hexadecimal digits. -/
theorem unit?_isSome_iff {a b c d : Char} :
    (unit? a b c d).isSome = true ↔ ∀ x ∈ [a, b, c, d], IsHex x := by
  simp only [List.mem_cons, List.not_mem_nil, or_false, forall_eq_or_imp, forall_eq,
    ← hexValue?_isSome_iff]
  unfold unit?
  cases hexValue? a <;> cases hexValue? b <;> cases hexValue? c <;> cases hexValue? d <;> simp

/-- The letters that may follow a backslash. -/
theorem escaped?_isSome_iff {e : Char} :
    (escaped? e).isSome = true ↔ e ∈ ['"', '\\', '/', 'b', 'f', 'n', 'r', 't'] := by
  unfold escaped?
  split <;> simp_all

/-- A hexadecimal digit is neither the quote nor the backslash. -/
theorem IsHex.ne {c : Char} (h : IsHex c) : c ≠ '"' ∧ c ≠ '\\' := by
  constructor
  · rintro rfl
    revert h
    unfold IsHex
    decide
  · rintro rfl
    revert h
    unfold IsHex
    decide

/-- No quote in a body ends it. -/
theorem Body.enclosed (h : Body s) : Enclosed s := by
  induction h with
  | nil => exact .nil
  | plain quote backslash _ _ ih => exact .plain quote backslash ih
  | escape _ _ ih => exact .escape ih
  | @unit a b c d s hex _ ih =>
    -- a hexadecimal digit is neither a quote nor a backslash
    have hplain {x : Char} {t : List Char} (hx : x ∈ [a, b, c, d]) (ht : Enclosed t) :
        Enclosed (x :: t) := .plain (hex x hx).ne.1 (hex x hx).ne.2 ht
    apply Enclosed.escape
    exact hplain (by simp) (hplain (by simp) (hplain (by simp) (hplain (by simp) ih)))

/-- A body is accepted. -/
theorem Body.isBody (h : Body s) : Text.isBody s = true := by
  induction h with
  | nil => rfl
  | @plain c s _ backslash visible _ ih =>
    rw [Text.isBody.eq_5 _ _ (by simp [backslash]) (by simp [backslash]) (by simp [backslash])]
    simp [visible, ih]
  | @escape e s letter _ ih =>
    have hu : e ≠ 'u' := by
      rintro rfl
      revert letter
      decide
    rw [Text.isBody.eq_3 _ _ (by simp [hu])]
    rw [escaped?_isSome_iff.2 letter, ih]
    rfl
  | unit hex _ ih =>
    rw [Text.isBody.eq_2, unit?_isSome_iff.2 hex, ih]
    rfl

/-- A character that is no backslash leaves the rest enclosed, and is no quote. -/
theorem Enclosed.of_plain {c : Char} (h : Enclosed (c :: s)) (backslash : c ≠ '\\') :
    c ≠ '"' ∧ Enclosed s := by
  cases h with
  | plain quote _ rest => exact ⟨quote, rest⟩
  | escape => exact absurd rfl backslash

/-- An escape leaves what follows it enclosed. -/
theorem Enclosed.of_escape {e : Char} (h : Enclosed ('\\' :: e :: s)) : Enclosed s := by
  cases h with
  | plain _ backslash => exact absurd rfl backslash
  | escape rest => exact rest

/-- **String bodies** are recognised exactly as the grammar has them, where no quote ends them. -/
theorem body_iff : Body s ↔ isBody s = true ∧ Enclosed s := by
  refine ⟨fun h => ⟨h.isBody, h.enclosed⟩, fun h => ?_⟩
  obtain ⟨hbody, henclosed⟩ := h
  -- along the test, which itself lets a quote pass
  fun_induction isBody s with
  | case1 => exact .nil
  | case2 a b c d rest ih =>
    obtain ⟨hunit, hrest⟩ := Bool.and_eq_true_iff.1 hbody
    have hex := unit?_isSome_iff.1 hunit
    have hnext {x : Char} {t : List Char} (hx : x ∈ [a, b, c, d]) (ht : Enclosed (x :: t)) :
        Enclosed t := (ht.of_plain (hex x hx).ne.2).2
    apply Body.unit hex
    apply ih hrest
    exact hnext (x := d) (by simp) (hnext (x := c) (by simp) (hnext (x := b) (by simp)
      (hnext (x := a) (by simp) henclosed.of_escape)))
  | case3 e rest _ ih =>
    obtain ⟨hletter, hrest⟩ := Bool.and_eq_true_iff.1 hbody
    exact .escape (escaped?_isSome_iff.1 hletter) (ih hrest henclosed.of_escape)
  | case4 => cases hbody
  | case5 c rest _ hescape hend ih =>
    obtain ⟨hvisible, hrest⟩ := Bool.and_eq_true_iff.1 hbody
    have hbackslash : c ≠ '\\' := by
      rintro rfl
      cases rest with
      | nil => exact hend rfl rfl
      | cons e rest => exact hescape e rest rfl rfl
    obtain ⟨hquote, hclosed⟩ := henclosed.of_plain hbackslash
    exact .plain hquote hbackslash (of_decide_eq_true hvisible) (ih hrest hclosed)

/-! ## Strings are read back -/

/-- The digits of a control character stand for it. -/
theorem unit?_control :
    ∀ n < 0x20, unit? '0' '0' (Nat.digitChar (n / 16)) (Nat.digitChar (n % 16)) = some n := by
  decide

/-- What is not a unit cannot be read. -/
theorem decode_of_unit?_eq_none {a b c d : Char} (unit : unit? a b c d = none) (s : List Char) :
    decode ('\\' :: 'u' :: a :: b :: c :: d :: s) = none := by
  by_cases hpair : ∃ a' b' c' d' t, s = '\\' :: 'u' :: a' :: b' :: c' :: d' :: t
  · obtain ⟨a', b', c', d', t, rfl⟩ := hpair
    rw [decode.eq_2, unit]
  · rw [decode.eq_3 _ _ _ _ _ fun a' b' c' d' t heq => hpair ⟨a', b', c', d', t, heq⟩, unit]

/-- A unit that is no surrogate stands for one character, whatever comes after it. -/
theorem decode_of_unit? {a b c d : Char} {u : Nat} (unit : unit? a b c d = some u)
    (low : u < 0xD800) (s : List Char) :
    decode ('\\' :: 'u' :: a :: b :: c :: d :: s) = (decode s).map (Char.ofNat u :: ·) := by
  have hlead : isLead u = false := by simp [isLead]; omega
  have htrail : isTrail u = false := by simp [isTrail]; omega
  by_cases hpair : ∃ a' b' c' d' t, s = '\\' :: 'u' :: a' :: b' :: c' :: d' :: t
  · -- another unit follows, which is read on its own
    obtain ⟨a', b', c', d', t, rfl⟩ := hpair
    rw [decode.eq_2, unit]
    cases hnext : unit? a' b' c' d' with
    | some v => simp [hlead, htrail]
    | none => simp [decode_of_unit?_eq_none hnext]
  · rw [decode.eq_3 _ _ _ _ _ fun a' b' c' d' t heq => hpair ⟨a', b', c', d', t, heq⟩, unit]
    simp [hlead, htrail]

/-- An escape of one letter stands for its character. -/
theorem decode_of_escaped? {e c : Char} (letter : escaped? e = some c) (s : List Char) :
    decode ('\\' :: e :: s) = (decode s).map (c :: ·) := by
  have hu : e ≠ 'u' := by
    rintro rfl
    cases letter
  rw [decode.eq_4 e s (by simp [hu]) (by simp [hu]), letter]

/-- A character that needs no escape stands for itself. -/
theorem decode_of_plain {c : Char} (backslash : c ≠ '\\') (visible : 0x20 ≤ c.toNat)
    (s : List Char) : decode (c :: s) = (decode s).map (c :: ·) := by
  rw [decode.eq_6 c s (by simp [backslash]) (by simp [backslash]) (by simp [backslash])
    (by simp [backslash]), if_pos visible]

/-- Decoding undoes the encoding of a character. -/
theorem decode_encodeChar (c : Char) (s : List Char) :
    decode (encodeChar c ++ s) = (decode s).map (c :: ·) := by
  unfold encodeChar
  -- the characters with an escape of their own come first
  iterate 7
    split
    · subst_vars
      exact decode_of_escaped? rfl s
  split
  · rename_i hcontrol
    have hunit := unit?_control c.toNat hcontrol
    show decode ('\\' :: 'u' :: '0' :: '0' :: _ :: _ :: s) = _
    rw [decode_of_unit? hunit (by omega), Char.ofNat_toNat]
  · rename_i hbackslash _ _ _ _ _ hvisible
    exact decode_of_plain hbackslash (Nat.le_of_not_lt hvisible) s

/-- **A text is read back** from the body that spells it. -/
theorem decode_encode (s : List Char) : decode (encode s) = some s := by
  induction s with
  | nil => rfl
  | cons c s ih => rw [encode_cons, decode_encodeChar, ih, Option.map_some]

/-- A hexadecimal digit is written as one. -/
theorem isHex_digitChar : ∀ n < 16, IsHex (Nat.digitChar n) := by
  unfold IsHex
  decide

/-- A character's encoding in front of a body is a body. -/
theorem body_encodeChar (c : Char) {s : List Char} (h : Body s) : Body (encodeChar c ++ s) := by
  unfold encodeChar
  iterate 7
    split
    · exact .escape (by decide) h
  split
  · rename_i hcontrol
    apply Body.unit _ h
    simp only [List.mem_cons, List.not_mem_nil, or_false, forall_eq_or_imp, forall_eq]
    exact ⟨isHex_digitChar 0 (by omega), isHex_digitChar 0 (by omega),
      isHex_digitChar _ (by omega), isHex_digitChar _ (by omega)⟩
  · rename_i hquote hbackslash _ _ _ _ _ hvisible
    exact .plain hquote hbackslash (Nat.le_of_not_lt hvisible) h

/-- What a text is spelled as may stand between quotes. -/
theorem body_encode (s : List Char) : Body (encode s) := by
  induction s with
  | nil => exact .nil
  | cons c s ih => exact body_encodeChar c ih

/-- A hexadecimal digit is visible. -/
theorem IsHex.visible {c : Char} (h : IsHex c) : 0x20 ≤ c.toNat := by
  have hle {a b : Char} (hab : a ≤ b) : a.toNat ≤ b.toNat := hab
  rcases h with ⟨h, -⟩ | ⟨h, -⟩ | ⟨h, -⟩
  · exact Nat.le_trans (by decide) (hle h)
  · exact Nat.le_trans (by decide) (hle h)
  · exact Nat.le_trans (by decide) (hle h)

/-- There are no control characters in a string, and so no line ends in it. -/
theorem Body.visible {s : List Char} (h : Body s) : ∀ c ∈ s, 0x20 ≤ c.toNat := by
  induction h with
  | nil => simp
  | plain _ _ visible _ ih => exact List.forall_mem_cons.2 ⟨visible, ih⟩
  | @escape e s letter _ ih =>
    have hletters : ∀ x ∈ ['"', '\\', '/', 'b', 'f', 'n', 'r', 't'], 0x20 ≤ x.toNat := by simp
    exact List.forall_mem_cons.2 ⟨by decide, List.forall_mem_cons.2 ⟨hletters e letter, ih⟩⟩
  | @unit a b c d s hex _ ih =>
    intro x hx
    have hcases : x = '\\' ∨ x = 'u' ∨ x ∈ [a, b, c, d] ∨ x ∈ s := by simpa [or_assoc] using hx
    rcases hcases with rfl | rfl | hx | hx
    · decide
    · decide
    · exact (hex x hx).visible
    · exact ih x hx

end Switchboard.Json.Text
