import Switchboard.Json.Text

/-! # Tokens of a JSON text

`Token.scan` cuts a text into punctuation, words, number literals and string bodies, dropping the
four blanks of the grammar. It reads one character at a time and carries the token that is being
read, so that it needs no look-ahead: a number literal and a word end at the first character that
cannot belong to them. -/

namespace Switchboard.Json

/-- A token as it stands in the text: the literal of a number, the body of a string. -/
inductive Token where
  | openBracket
  | closeBracket
  | openBrace
  | closeBrace
  | comma
  | colon
  | null
  | bool (b : Bool)
  | number (literal : List Char)
  | text (body : List Char)
deriving DecidableEq

/-- Space, line feed, carriage return and tab. -/
def isBlank (c : Char) : Bool := c = ' ' || c = '\n' || c = '\r' || c = '\t'

/-- The characters a number literal is made of. -/
def isNumeric (c : Char) : Bool := c.isDigit || c = '-' || c = '+' || c = '.' || c = 'e' || c = 'E'

/-! ## Number literals -/

namespace NumberLiteral

/-- At least one digit and nothing else. -/
def isDigits (s : List Char) : Bool := !s.isEmpty && s.all Char.isDigit

/-- Digits without a leading zero. -/
def isWhole : List Char → Bool
  | ['0'] => true
  | '0' :: _ => false
  | s => isDigits s

/-- An optional sign and at least one digit. -/
def isExponent : List Char → Bool
  | '+' :: s => isDigits s
  | '-' :: s => isDigits s
  | s => isDigits s

/-- What may follow the whole part: a fraction, an exponent, both or neither. -/
def isRest : List Char → Bool
  | [] => true
  | '.' :: s =>
    isDigits (s.takeWhile Char.isDigit) &&
      match s.dropWhile Char.isDigit with
      | [] => true
      | e :: t => (e = 'e' || e = 'E') && isExponent t
  | e :: t => (e = 'e' || e = 'E') && isExponent t

/-- A number without its sign. -/
def isUnsigned (s : List Char) : Bool :=
  isWhole (s.takeWhile Char.isDigit) && isRest (s.dropWhile Char.isDigit)

/-- A number of the grammar. -/
def isNumber : List Char → Bool
  | '-' :: s => isUnsigned s
  | s => isUnsigned s

/-- The value of a literal without sign, fraction and exponent. -/
def natural? (s : List Char) : Option Nat :=
  if isWhole s then some (Nat.ofDigitChars 10 s 0) else none

/-- The value of a literal without fraction and exponent. -/
def integer? : List Char → Option Int
  | '-' :: s => (natural? s).map fun n => -(n : Int)
  | s => (natural? s).map Int.ofNat

end NumberLiteral

namespace Token

/-- The token that a run of letters and number characters makes. -/
def ofRun? (run : List Char) : Option Token :=
  if run = ['n', 'u', 'l', 'l'] then some .null
  else if run = ['t', 'r', 'u', 'e'] then some (.bool true)
  else if run = ['f', 'a', 'l', 's', 'e'] then some (.bool false)
  else if NumberLiteral.isNumber run then some (.number run)
  else none

/-- The token that a single character makes. -/
def ofPunctuation? : Char → Option Token
  | '[' => some .openBracket
  | ']' => some .closeBracket
  | '{' => some .openBrace
  | '}' => some .closeBrace
  | ',' => some .comma
  | ':' => some .colon
  | _ => none

/-- What is being read: nothing, a run of letters and number characters, or a string. The
characters read so far are kept in reverse. -/
inductive Reading where
  | nothing
  | run (read : List Char)
  | string (read : List Char)
  | escape (read : List Char)

/-- The tokens of a text, the one being read included. -/
def scanFrom : Reading → List Char → Option (List Token)
  | .nothing, [] => some []
  | .run read, [] => (ofRun? read.reverse).map ([·])
  | .string _, [] => none
  | .escape _, [] => none
  | .nothing, c :: rest =>
    if isBlank c then scanFrom .nothing rest
    else if c = '"' then scanFrom (.string []) rest
    else if c.isAlpha || isNumeric c then scanFrom (.run [c]) rest
    else match ofPunctuation? c with
      | some t => (scanFrom .nothing rest).map (t :: ·)
      | none => none
  | .run read, c :: rest =>
    if c.isAlpha || isNumeric c then scanFrom (.run (c :: read)) rest
    else match ofRun? read.reverse with
      | none => none
      | some t =>
        if isBlank c then (scanFrom .nothing rest).map (t :: ·)
        else match ofPunctuation? c with
          | some p => (scanFrom .nothing rest).map (t :: p :: ·)
          | none => none
  | .string read, c :: rest =>
    if c = '\\' then scanFrom (.escape (c :: read)) rest
    else if c = '"' then
      if Text.isBody read.reverse then (scanFrom .nothing rest).map (.text read.reverse :: ·)
      else none
    else scanFrom (.string (c :: read)) rest
  | .escape read, c :: rest => scanFrom (.string (c :: read)) rest

/-- The tokens of a text, or none if some stretch of it is not a token. -/
def scan (s : List Char) : Option (List Token) := scanFrom .nothing s

end Token

end Switchboard.Json
