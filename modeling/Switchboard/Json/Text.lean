/-! # JSON strings

Between its quotes a JSON string spells a character as itself or by an escape. `encode` writes the
shortest spelling: an escape for the quote, the backslash and every character below U+0020, and
the character itself for all others. `decode` reads every spelling the grammar admits, a pair of
`u` escapes standing for one character beyond U+FFFF; an unpaired surrogate has no reading.
`isBody` accepts the spellings that are well formed whether or not they have a reading. -/

namespace Switchboard.Json.Text

/-- The value of a hexadecimal digit of either case. -/
def hexValue? (c : Char) : Option Nat :=
  if '0' ≤ c ∧ c ≤ '9' then some (c.toNat - '0'.toNat)
  else if 'a' ≤ c ∧ c ≤ 'f' then some (c.toNat - 'a'.toNat + 10)
  else if 'A' ≤ c ∧ c ≤ 'F' then some (c.toNat - 'A'.toNat + 10)
  else none

/-- The 16-bit unit that four hexadecimal digits spell. -/
def unit? (a b c d : Char) : Option Nat :=
  match hexValue? a, hexValue? b, hexValue? c, hexValue? d with
  | some w, some x, some y, some z => some (((w * 16 + x) * 16 + y) * 16 + z)
  | _, _, _, _ => none

/-- The character that a one-letter escape stands for. -/
def escaped? : Char → Option Char
  | '"' => some '"'
  | '\\' => some '\\'
  | '/' => some '/'
  | 'b' => some '\x08'
  | 'f' => some '\x0c'
  | 'n' => some '\n'
  | 'r' => some '\r'
  | 't' => some '\t'
  | _ => none

/-- First half of a surrogate pair. -/
def isLead (u : Nat) : Bool := 0xD800 ≤ u && u < 0xDC00

/-- Second half of a surrogate pair. -/
def isTrail (u : Nat) : Bool := 0xDC00 ≤ u && u < 0xE000

/-- Whether the text between the quotes of a string is well formed: each backslash opens a
complete escape and no character is below U+0020. Surrogates need not be paired. -/
def isBody : List Char → Bool
  | [] => true
  | '\\' :: 'u' :: a :: b :: c :: d :: rest => (unit? a b c d).isSome && isBody rest
  | '\\' :: e :: rest => (escaped? e).isSome && isBody rest
  | ['\\'] => false
  | c :: rest => decide (0x20 ≤ c.toNat) && isBody rest

/-- The text that a string body spells, if it is well formed and every surrogate in it is paired. -/
def decode : List Char → Option (List Char)
  | [] => some []
  | '\\' :: 'u' :: a :: b :: c :: d :: '\\' :: 'u' :: a' :: b' :: c' :: d' :: rest =>
    match unit? a b c d, unit? a' b' c' d' with
    | some u, some v =>
      if isLead u then
        if isTrail v then
          (decode rest).map (Char.ofNat (0x10000 + (u - 0xD800) * 0x400 + (v - 0xDC00)) :: ·)
        else none
      else if isTrail u then none
      else (decode ('\\' :: 'u' :: a' :: b' :: c' :: d' :: rest)).map (Char.ofNat u :: ·)
    | _, _ => none
  | '\\' :: 'u' :: a :: b :: c :: d :: rest =>
    match unit? a b c d with
    | some u => if isLead u || isTrail u then none else (decode rest).map (Char.ofNat u :: ·)
    | none => none
  | '\\' :: e :: rest =>
    match escaped? e with
    | some c => (decode rest).map (c :: ·)
    | none => none
  | ['\\'] => none
  | c :: rest => if 0x20 ≤ c.toNat then (decode rest).map (c :: ·) else none

/-- The spelling of one character. -/
def encodeChar (c : Char) : List Char :=
  if c = '"' then ['\\', '"']
  else if c = '\\' then ['\\', '\\']
  else if c = '\x08' then ['\\', 'b']
  else if c = '\x0c' then ['\\', 'f']
  else if c = '\n' then ['\\', 'n']
  else if c = '\r' then ['\\', 'r']
  else if c = '\t' then ['\\', 't']
  else if c.toNat < 0x20 then
    ['\\', 'u', '0', '0', Nat.digitChar (c.toNat / 16), Nat.digitChar (c.toNat % 16)]
  else [c]

/-- The body of the string that spells a text. -/
def encode (s : List Char) : List Char := s.flatMap encodeChar

/-- The empty text is its own encoding. -/
@[simp] theorem encode_nil : encode [] = [] := rfl

/-- A text is encoded character by character. -/
@[simp] theorem encode_cons (c : Char) (s : List Char) :
    encode (c :: s) = encodeChar c ++ encode s := rfl

/-- A text in quotes. -/
def quote (s : String) : List Char := '"' :: (encode s.toList ++ ['"'])

end Switchboard.Json.Text
