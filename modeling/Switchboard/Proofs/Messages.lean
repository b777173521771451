import Mathlib.Data.Nat.Bitwise
import Switchboard.Message

/-! # Messages there and back

A message is written from its fields by `Message.build` and read by `Message.header?`, and each
undoes the other: `written_and_read`. What a data message counts for is read at a fixed place of
the whole string of bytes: from the parameters if they reach that far, and otherwise from what comes
after them. So the accounts depend on what a payload contains exactly where the parameters of a data
message are too short: `accounts_of_parameters`. -/

namespace Switchboard

namespace Message

/-! ## Words and their bytes -/

/-- What stands above a number leaves it as it is. -/
theorem or_shiftLeft_eq {a k : Nat} (low : a < 2 ^ k) (b : Nat) : a ||| b <<< k = a + 2 ^ k * b := by
  rw [Nat.or_comm, ← Nat.shiftLeft_add_eq_or_of_lt low, Nat.shiftLeft_eq, Nat.mul_comm,
    Nat.add_comm]

/-- A byte in one of the four places of a word. -/
theorem toNat_shifted (b : UInt8) {k : UInt32} (hk : k.toNat ≤ 24) :
    (b.toUInt32 <<< k).toNat = b.toNat <<< k.toNat := by
  rw [UInt32.toNat_shiftLeft, UInt8.toNat_toUInt32, Nat.mod_eq_of_lt (a := k.toNat) (by omega)]
  apply Nat.mod_eq_of_lt
  rw [Nat.shiftLeft_eq]
  calc b.toNat * 2 ^ k.toNat < 2 ^ 8 * 2 ^ k.toNat :=
        Nat.mul_lt_mul_of_pos_right b.toNat_lt (Nat.two_pow_pos _)
    _ ≤ 2 ^ 8 * 2 ^ 24 := Nat.mul_le_mul_left _ (Nat.pow_le_pow_right (by decide) hk)

/-- The byte in one of the four places of a word. -/
theorem toNat_byte (w : UInt32) {k : UInt32} (hk : k.toNat ≤ 24) :
    (w >>> k).toUInt8.toNat = w.toNat / 2 ^ k.toNat % 2 ^ 8 := by
  rw [UInt32.toNat_toUInt8, UInt32.toNat_shiftRight, Nat.mod_eq_of_lt (a := k.toNat) (by omega),
    Nat.shiftRight_eq_div_pow]

/-- The value of two bytes, low byte first. -/
theorem toNat_join16 (b c : UInt8) : (join16 b c).toNat = b.toNat + 2 ^ 8 * c.toNat := by
  have hc := c.toNat_lt
  have hshift : (c.toUInt16 <<< 8).toNat = c.toNat <<< 8 := by
    rw [UInt16.toNat_shiftLeft, UInt8.toNat_toUInt16]
    apply Nat.mod_eq_of_lt
    rw [show (8 : UInt16).toNat % 16 = 8 from rfl, Nat.shiftLeft_eq]
    omega
  rw [join16, UInt16.toNat_or, hshift, UInt8.toNat_toUInt16, or_shiftLeft_eq b.toNat_lt]

/-- The value of four bytes, low byte first. -/
theorem toNat_join32 (b c d e : UInt8) : (join32 b c d e).toNat =
    b.toNat + 2 ^ 8 * c.toNat + 2 ^ 16 * d.toNat + 2 ^ 24 * e.toNat := by
  have hb := b.toNat_lt
  have hc := c.toNat_lt
  have hd := d.toNat_lt
  rw [join32, UInt32.toNat_or, UInt32.toNat_or, UInt32.toNat_or, UInt8.toNat_toUInt32,
    toNat_shifted c (k := 8) (by decide), toNat_shifted d (k := 16) (by decide),
    toNat_shifted e (k := 24) (by decide)]
  simp only [UInt32.reduceToNat]
  -- the bytes stand side by side, each above those before it
  rw [or_shiftLeft_eq (k := 8) hb, or_shiftLeft_eq (k := 16) (by omega),
    or_shiftLeft_eq (k := 24) (by omega)]

/-- A word of two bytes is what its bytes make. -/
theorem join16_bytes (w : UInt16) : join16 w.toUInt8 (w >>> 8).toUInt8 = w := by
  have hw := w.toNat_lt
  apply UInt16.toNat_inj.1
  rw [toNat_join16, UInt16.toNat_toUInt8, UInt16.toNat_toUInt8, UInt16.toNat_shiftRight,
    show (8 : UInt16).toNat % 16 = 8 from rfl, Nat.shiftRight_eq_div_pow]
  omega

/-- A word of four bytes is what its bytes make. -/
theorem join32_bytes (w : UInt32) :
    join32 w.toUInt8 (w >>> 8).toUInt8 (w >>> 16).toUInt8 (w >>> 24).toUInt8 = w := by
  have hw := w.toNat_lt
  apply UInt32.toNat_inj.1
  rw [toNat_join32, UInt32.toNat_toUInt8, toNat_byte w (k := 8) (by decide),
    toNat_byte w (k := 16) (by decide), toNat_byte w (k := 24) (by decide)]
  simp only [UInt32.reduceToNat]
  omega

/-- Two bytes are those of the word that they make. -/
theorem word16_join16 (b c : UInt8) : word16 (join16 b c) = [b, c] := by
  have hb := b.toNat_lt
  have hc := c.toNat_lt
  have hlow : (join16 b c).toUInt8 = b := by
    apply UInt8.toNat_inj.1
    rw [UInt16.toNat_toUInt8, toNat_join16]
    omega
  have hhigh : (join16 b c >>> 8).toUInt8 = c := by
    apply UInt8.toNat_inj.1
    rw [UInt16.toNat_toUInt8, UInt16.toNat_shiftRight, show (8 : UInt16).toNat % 16 = 8 from rfl,
      Nat.shiftRight_eq_div_pow, toNat_join16]
    omega
  rw [word16, hlow, hhigh]

/-- Four bytes are those of the word that they make. -/
theorem word32_join32 (b c d e : UInt8) : word32 (join32 b c d e) = [b, c, d, e] := by
  -- each byte is a digit of the word in base 256
  have hb := b.toNat_lt
  have hc := c.toNat_lt
  have hd := d.toNat_lt
  have he := e.toNat_lt
  have h₀ : (join32 b c d e).toUInt8 = b := by
    apply UInt8.toNat_inj.1
    rw [UInt32.toNat_toUInt8, toNat_join32]
    omega
  have h₁ : (join32 b c d e >>> 8).toUInt8 = c := by
    apply UInt8.toNat_inj.1
    rw [toNat_byte _ (by decide), toNat_join32]
    simp only [UInt32.reduceToNat]
    omega
  have h₂ : (join32 b c d e >>> 16).toUInt8 = d := by
    apply UInt8.toNat_inj.1
    rw [toNat_byte _ (by decide), toNat_join32]
    simp only [UInt32.reduceToNat]
    omega
  have h₃ : (join32 b c d e >>> 24).toUInt8 = e := by
    apply UInt8.toNat_inj.1
    rw [toNat_byte _ (by decide), toNat_join32]
    simp only [UInt32.reduceToNat]
    omega
  rw [word32, h₀, h₁, h₂, h₃]

/-! ## Headers -/

section Build

variable (appl : UInt16) (command subcommand : UInt8) (number : UInt16) (address : UInt32)
  (params payload : List UInt8)

/-- The header of a message that has been built. -/
theorem header?_build : (build appl command subcommand number address params payload).header? =
    some ⟨UInt16.ofNat (headerLength + params.length), appl, command, subcommand, number,
      address⟩ := by
  simp only [build, header?, word16, word32, List.cons_append, List.nil_append, join16_bytes,
    join32_bytes]

/-- Parameters and payload come after the header. -/
theorem drop_build :
    (build appl command subcommand number address params payload).bytes.drop headerLength =
      params ++ payload := by
  simp only [build, word16, word32, List.cons_append, List.nil_append, headerLength,
    List.drop_succ_cons, List.drop_zero]

end Build

/-- A message that has a header consists of the bytes of the header's fields and others. -/
theorem bytes_of_header? {m : Message} {h : Header} (header : m.header? = some h) :
    m.bytes = word16 h.totalLength ++ word16 h.appl ++ [h.command, h.subcommand] ++
      word16 h.number ++ word32 h.address ++ m.bytes.drop headerLength := by
  obtain ⟨bytes⟩ := m
  unfold header? at header
  split at header
  · rename_i hbytes
    cases header
    dsimp only at hbytes
    subst hbytes
    simp only [word16_join16, word32_join32, headerLength, List.cons_append, List.nil_append,
      List.drop_succ_cons, List.drop_zero]
  · cases header

/-- A message is built again from the fields of its header and the bytes after it, cut where the
message proper ends. -/
theorem build_of_header? {m : Message} {h : Header} (header : m.header? = some h)
    (long : headerLength ≤ h.totalLength.toNat) (short : h.totalLength.toNat ≤ m.bytes.length) :
    build h.appl h.command h.subcommand h.number h.address
      ((m.bytes.take h.totalLength.toNat).drop headerLength)
      (m.bytes.drop h.totalLength.toNat) = m := by
  have hlength : headerLength + ((m.bytes.take h.totalLength.toNat).drop headerLength).length =
      h.totalLength.toNat := by
    rw [List.length_drop, List.length_take, Nat.min_eq_left short]
    omega
  have hrest : (m.bytes.take h.totalLength.toNat).drop headerLength ++
      m.bytes.drop h.totalLength.toNat = m.bytes.drop headerLength := by
    rw [← List.drop_append_of_le_length (by rw [List.length_take, Nat.min_eq_left short]; exact long),
      List.take_append_drop]
  obtain ⟨bytes⟩ := m
  rw [build, mk.injEq, hlength, UInt16.ofNat_toNat, List.append_assoc, hrest]
  exact (bytes_of_header? header).symm

/-! ## What data messages declare -/

/-- The payload length that parameters declare: bytes four and five, low byte first. -/
def lengthIn (params : List UInt8) : Option UInt16 :=
  match params.drop 4 with
  | b :: c :: _ => some (join16 b c)
  | _ => none

/-- Parameters that are long enough to declare a length declare it whatever follows. -/
theorem lengthIn_append {params : List UInt8} (long : 6 ≤ params.length) (rest : List UInt8) :
    lengthIn (params ++ rest) = lengthIn params := by
  match params, long with
  | _ :: _ :: _ :: _ :: _ :: _ :: _, _ => rfl

/-- Parameters declare no length exactly when there are less than six bytes of them. -/
theorem lengthIn_eq_none_iff {params : List UInt8} : lengthIn params = none ↔ params.length < 6 := by
  match params with
  | _ :: _ :: _ :: _ :: _ :: _ :: _ => simp [lengthIn]
  | [] | [_] | [_, _] | [_, _, _] | [_, _, _, _] | [_, _, _, _, _] => simp [lengthIn]

section Build

variable (appl : UInt16) (command subcommand : UInt8) (number : UInt16) (address : UInt32)
  (params payload : List UInt8)

/-- The payload length of a message that has been built is read from the parameters and what comes
after them. -/
theorem payloadLength?_build :
    (build appl command subcommand number address params payload).payloadLength? =
      if command = dataCommand then lengthIn (params ++ payload) else none := by
  have hdrop : (build appl command subcommand number address params payload).bytes.drop
      payloadLengthOffset = (params ++ payload).drop 4 := by
    rw [← drop_build appl command subcommand number address, List.drop_drop]
    rfl
  rw [payloadLength?, header?_build]
  simp only [Header.isData, beq_iff_eq, declaredPayload?, hdrop]
  rfl

/-- What a message that has been built counts for. -/
theorem traffic_build :
    (build appl command subcommand number address params payload).traffic =
      let declared :=
        (build appl command subcommand number address params payload).payloadLength?.map UInt16.toNat
      ⟨(headerLength + params.length) % 2 ^ 16 + declared.getD 0, declared⟩ := by
  rw [traffic, header?_build]
  cases (build appl command subcommand number address params payload).payloadLength? <;>
    simp only [UInt16.toNat_ofNat', Option.map_none, Option.map_some, Option.getD_none,
      Option.getD_some, Nat.add_zero]

end Build

/-! ## There and back -/

/-- The controller is the low seven bits of the address. -/
theorem toNat_controller (h : Header) : h.controller.toNat = h.address.toNat % 2 ^ 7 := by
  rw [Header.controller, UInt8.toNat_and, UInt32.toNat_toUInt8,
    show (0x7f : UInt8).toNat = 2 ^ 7 - 1 from rfl, Nat.and_two_pow_sub_one_eq_mod]
  omega

/-- Two bytes in the right place declare their value. -/
theorem lengthIn_of_take {params : List UInt8} {b c : UInt8}
    (bytes : (params.drop 4).take 2 = [b, c]) : lengthIn params = some (join16 b c) := by
  unfold lengthIn
  match hdrop : params.drop 4 with
  | [] | [_] => simp [hdrop] at bytes
  | x :: y :: rest =>
    rw [hdrop, List.take_succ_cons, List.take_succ_cons, List.take_zero] at bytes
    obtain ⟨rfl, hy⟩ := List.cons.inj bytes
    obtain ⟨rfl, -⟩ := List.cons.inj hy
    rfl

/-- **Writing and reading undo each other.** A message that is built has its header, in which every
field is found again and the total length is that of header and parameters, modulo `2 ^ 16`;
parameters and payload follow. A data message of ordinary length whose parameters declare its
payload counts for all its bytes, and its payload is told apart. And every message with a header
whose total length lies between that of the header and its own is the one built from the fields of
the header, the bytes up to the total length and those after it. -/
theorem written_and_read :
    (∀ appl command subcommand number address params payload,
      let m := build appl command subcommand number address params payload
      m.bytes.length = 12 + params.length + payload.length ∧
      (∃ h, m.header? = some h ∧ h.appl = appl ∧ h.command = command ∧
        h.subcommand = subcommand ∧ h.number = number ∧ h.address = address ∧
        h.totalLength.toNat = (12 + params.length) % 2 ^ 16 ∧
        h.controller.toNat = address.toNat % 2 ^ 7) ∧
      m.bytes.drop 12 = params ++ payload ∧
      (12 + params.length < 2 ^ 16 → command = dataCommand → 6 ≤ params.length →
        (∃ b c, (params.drop 4).take 2 = [b, c] ∧ b.toNat + 256 * c.toNat = payload.length) →
        m.traffic = ⟨m.bytes.length, some payload.length⟩)) ∧
    ∀ m : Message, 12 ≤ m.bytes.length → ∃ h, m.header? = some h ∧
      (12 ≤ h.totalLength.toNat → h.totalLength.toNat ≤ m.bytes.length →
        build h.appl h.command h.subcommand h.number h.address
          ((m.bytes.take h.totalLength.toNat).drop 12) (m.bytes.drop h.totalLength.toNat) = m) := by
  constructor
  · intro appl command subcommand number address params payload m
    have hheader := header?_build appl command subcommand number address params payload
    refine ⟨length_build .., ⟨_, hheader, rfl, rfl, rfl, rfl, rfl, UInt16.toNat_ofNat',
      toNat_controller _⟩, drop_build .., ?_⟩
    -- the payload is told apart by the two bytes of the parameters that declare its length
    rintro hlt rfl hlong ⟨b, c, hbytes, hpayload⟩
    have hdeclared : m.payloadLength? = some (join16 b c) := by
      rw [payloadLength?_build, if_pos rfl, lengthIn_append hlong, lengthIn_of_take hbytes]
    have htotal : m.bytes.length = (12 + params.length) % 2 ^ 16 + payload.length := by
      rw [Nat.mod_eq_of_lt hlt]
      exact length_build ..
    have hvalue : (join16 b c).toNat = payload.length := (toNat_join16 b c).trans hpayload
    rw [traffic_build, hdeclared, htotal, ← hvalue]
    rfl
  · intro m hlong
    obtain ⟨h, hheader⟩ : ∃ h, m.header? = some h :=
      Option.isSome_iff_exists.1 ((header?_isSome m).trans (decide_eq_true hlong))
    exact ⟨h, hheader, build_of_header? hheader⟩

/-- A data message with three bytes of payload, and a message with bytes after its end. -/
theorem written_and_read_data :
    let params : List UInt8 := [0, 0, 0, 0, 3, 0]
    let m := build 1 dataCommand 0x80 7 0x102 params [4, 5, 6]
    let n : Message := ⟨[13, 0, 1, 0, 2, 0x80, 7, 0, 2, 1, 0, 0, 9, 8]⟩
    (12 + params.length < 2 ^ 16 ∧ 6 ≤ params.length ∧ (params.drop 4).take 2 = [3, 0]) ∧
    m.traffic = ⟨21, some 3⟩ ∧
    (12 ≤ n.bytes.length ∧ 12 ≤ (13 : Nat) ∧ (13 : Nat) ≤ n.bytes.length) ∧
    ∃ h, n.header? = some h ∧ h.totalLength = 13 ∧
      build h.appl h.command h.subcommand h.number h.address [9] [8] = n := by
  intro params m n
  obtain ⟨hwritten, hread⟩ := written_and_read
  obtain ⟨-, -, -, htraffic⟩ := hwritten 1 dataCommand 0x80 7 0x102 params [4, 5, 6]
  obtain ⟨h, hheader, hback⟩ := hread n (by decide)
  have hfields : h = ⟨13, 1, 2, 0x80, 7, 0x102⟩ := Option.some.inj (hheader.symm.trans (by decide))
  subst hfields
  exact ⟨by decide, htraffic (by decide) rfl (by decide) ⟨3, 0, by decide⟩, by decide, _, hheader, rfl,
    hback (by decide) (by decide)⟩

/-! ## What the accounts depend on -/

/-- **The accounts depend on the parameters**, and on the payload exactly where a data message has
parameters too short to declare its length. A payload length is then read from the bytes after the
parameters, if there are enough of them. -/
theorem accounts_of_parameters (appl : UInt16) (command subcommand : UInt8) (number : UInt16)
    (address : UInt32) (params : List UInt8) :
    let m := build appl command subcommand number address params
    ((∀ p q, (m p).payloadLength? = (m q).payloadLength? ∧ (m p).traffic = (m q).traffic) ↔
      (command = dataCommand → 6 ≤ params.length)) ∧
    (command ≠ dataCommand → ∀ p, (m p).payloadLength? = none) ∧
    (command = dataCommand → 6 ≤ params.length → ∀ p, (m p).payloadLength? = lengthIn params) ∧
    (command = dataCommand → params.length < 6 → ∀ p,
      (m p).payloadLength? = lengthIn (params ++ p) ∧
      ((m p).payloadLength? = none ↔ params.length + p.length < 6)) := by
  intro m
  have hother (hcommand : command ≠ dataCommand) (p) : (m p).payloadLength? = none := by
    rw [payloadLength?_build, if_neg hcommand]
  have hlong (hcommand : command = dataCommand) (hlong : 6 ≤ params.length) (p) :
      (m p).payloadLength? = lengthIn params := by
    rw [payloadLength?_build, if_pos hcommand, lengthIn_append hlong]
  have hshort (hcommand : command = dataCommand) (p) :
      (m p).payloadLength? = lengthIn (params ++ p) ∧
        ((m p).payloadLength? = none ↔ params.length + p.length < 6) := by
    have hdeclared : (m p).payloadLength? = lengthIn (params ++ p) := by
      rw [payloadLength?_build, if_pos hcommand]
    refine ⟨hdeclared, ?_⟩
    rw [hdeclared, lengthIn_eq_none_iff, List.length_append]
  refine ⟨⟨fun hsame hcommand => ?_, fun henough p q => ?_⟩, hother, hlong,
    fun hcommand _ => hshort hcommand⟩
  · -- no payload and one of six bytes would be told apart
    by_contra hfew
    have hnone := (hshort hcommand []).2.2 (by rw [List.length_nil]; omega)
    rw [(hsame [] (List.replicate 6 0)).1, (hshort hcommand _).2, List.length_replicate] at hnone
    omega
  · have hlength : (m p).payloadLength? = (m q).payloadLength? := by
      by_cases hcommand : command = dataCommand
      · rw [hlong hcommand (henough hcommand), hlong hcommand (henough hcommand)]
      · rw [hother hcommand, hother hcommand]
    refine ⟨hlength, ?_⟩
    rw [traffic_build, traffic_build, hlength]

/-- The payload of a data message without parameters is taken for the length of itself. -/
theorem payload_taken_for_length :
    let m := build 1 dataCommand 0x80 1 1 []
    (m [0, 0, 0, 0, 1, 0]).payloadLength? = some 1 ∧
    (m [0, 0, 0, 0, 2, 0]).payloadLength? = some 2 ∧
    (m [0, 0, 0, 0, 1, 0]).traffic = ⟨13, some 1⟩ ∧
    (m [0, 0, 0, 0, 2, 0]).traffic = ⟨14, some 2⟩ := by
  decide

end Message

end Switchboard
