import Switchboard.Json.Printer
import Switchboard.Proofs.Json.Grammar

/-! # Values are read back

The compact text of a value writes one document, `Json.document`, and this document denotes the
value: `read?_render`. The text is one line, whatever characters the strings in it have. -/

namespace Switchboard.Json

open Token (Blank Spaced Spelled)

mutual

/-- The document that a value is written as. -/
def document : Json → Document
  | .null => .null
  | .bool b => .bool b
  | .number n => .number (renderInt n)
  | .text s => .text (Text.encode s.toList)
  | .list items => .list (documents items)
  | .record members => .record (memberDocuments members)

/-- The documents of the items of a list. -/
def documents : List Json → List Document
  | [] => []
  | x :: rest => document x :: documents rest

/-- The names as they are spelled and the documents of the values of an object. -/
def memberDocuments : List (String × Json) → List (List Char × Document)
  | [] => []
  | (name, x) :: rest => (Text.encode name.toList, document x) :: memberDocuments rest

end

/-! ## The text of a value -/

/-- Blank text in front of a spaced spelling changes nothing about its tokens. -/
theorem spaced_blank_append {ts : List Token} {b s : List Char} (h : Spaced ts s) (blank : Blank b) :
    Spaced ts (b ++ s) := by
  induction b with
  | nil => exact h
  | cons c b ih =>
    obtain ⟨hc, hb⟩ := List.forall_mem_cons.1 blank
    exact (ih hb).blank_cons hc

/-- Texts that spell tokens spell them together. -/
theorem spaced_append {ts us : List Token} {s t : List Char} (h : Spaced ts s) (h' : Spaced us t) :
    Spaced (ts ++ us) (s ++ t) := by
  induction h with
  | nil blank => exact spaced_blank_append h' blank
  | cons blank spelled _ ih =>
    rw [List.append_assoc, List.append_assoc]
    exact .cons blank spelled ih

/-- One spelled token is a spaced spelling of itself. -/
theorem spaced_token {t : Token} {s : List Char} (spelled : Spelled t s) : Spaced [t] s := by
  have := Spaced.token_cons (.nil Token.blank_nil) spelled
  rwa [List.append_nil] at this

/-- A token of one character before a text. -/
theorem spaced_punctuation {t : Token} {c : Char} {ts : List Token} {s : List Char}
    (spelled : Spelled t [c]) (h : Spaced ts s) : Spaced (t :: ts) (c :: s) :=
  h.token_cons spelled

/-- A quoted string is spelled by its encoding between quotes. -/
theorem spelled_quote (s : String) : Spelled (.text (Text.encode s.toList)) (Text.quote s) :=
  .text (Text.body_encode s.toList)

mutual

/-- **The compact text of a value** writes its document. -/
theorem writes_render : ∀ x : Json, (document x).Writes (render x)
  | .null => spaced_token .nullName
  | .bool true => spaced_token .trueName
  | .bool false => spaced_token .falseName
  | .number n => spaced_token (.number (NumberLiteral.number_renderInt n))
  | .text s => spaced_token (spelled_quote s)
  | .list [] => spaced_punctuation .openBracket (spaced_token .closeBracket)
  | .list (x :: rest) =>
    spaced_punctuation .openBracket (spaced_append (writes_render x) (spaced_renderItems rest))
  | .record [] => spaced_punctuation .openBrace (spaced_token .closeBrace)
  | .record (m :: rest) =>
    spaced_punctuation .openBrace (spaced_append (spaced_renderMember m) (spaced_renderMembers rest))

/-- The items of a written list spell the tokens of the documents. -/
theorem spaced_renderItems :
    ∀ items : List Json, Spaced (Document.itemsTokens (documents items)) (renderItems items)
  | [] => spaced_token .closeBracket
  | x :: rest => spaced_punctuation .comma (spaced_append (writes_render x) (spaced_renderItems rest))

/-- A written member spells the tokens of its name and document. -/
theorem spaced_renderMember : ∀ m : String × Json,
    Spaced (Document.memberTokens (Text.encode m.1.toList, document m.2)) (renderMember m)
  | (name, x) => (spaced_punctuation .colon (writes_render x)).token_cons (spelled_quote name)

/-- The members of a written record spell the tokens of the documents. -/
theorem spaced_renderMembers : ∀ members : List (String × Json),
    Spaced (Document.membersTokens (memberDocuments members)) (renderMembers members)
  | [] => spaced_token .closeBrace
  | m :: rest =>
    spaced_punctuation .comma (spaced_append (spaced_renderMember m) (spaced_renderMembers rest))

end

/-! ## The value of a document -/

mutual

/-- A value is denoted by the document that it is written as. -/
theorem value?_document : ∀ x : Json, (document x).value? = some x
  | .null | .bool _ => rfl
  | .number n => by rw [document, Document.value?, NumberLiteral.integer?_renderInt]; rfl
  | .text s => by
    rw [document, Document.value?, Text.decode_encode, Option.map_some, String.ofList_toList]
  | .list items => by rw [document, Document.value?, values?_documents items]; rfl
  | .record members => by rw [document, Document.value?, members?_memberDocuments members]; rfl

/-- The documents of a list of values stand for exactly these values. -/
theorem values?_documents : ∀ items : List Json, Document.values? (documents items) = some items
  | [] => rfl
  | x :: rest => by
    rw [documents, Document.values?, value?_document x, values?_documents rest]

/-- The documents of a record's members stand for exactly these members. -/
theorem members?_memberDocuments : ∀ members : List (String × Json),
    Document.members? (memberDocuments members) = some members
  | [] => rfl
  | (name, x) :: rest => by
    rw [memberDocuments, Document.members?, Text.decode_encode, value?_document x,
      members?_memberDocuments rest]
    simp only [String.ofList_toList]

end

/-- **A value is read back** from its compact text. -/
theorem read?_render (x : Json) : read? (render x) = some x := by
  unfold read?
  rw [Document.parse_eq_some_iff.2 (writes_render x)]
  exact value?_document x

/-- The names of an object can be read from what they are spelled as. -/
theorem decode_isSome_of_mem_memberDocuments {members : List (String × Json)} :
    ∀ m ∈ memberDocuments members, (Text.decode m.1).isSome = true := by
  induction members with
  | nil => simp [memberDocuments]
  | cons m members ih =>
    rw [memberDocuments, List.forall_mem_cons, Text.decode_encode]
    exact ⟨rfl, ih⟩

/-! ## One line -/

/-- No control character stands in a text. -/
def Visible (s : List Char) : Prop := ∀ c ∈ s, 0x20 ≤ c.toNat

/-- Visible texts joined are visible. -/
theorem visible_append {s t : List Char} (h : Visible s) (h' : Visible t) : Visible (s ++ t) := by
  intro c hc
  rcases List.mem_append.1 hc with hc | hc
  · exact h c hc
  · exact h' c hc

/-- A visible character in front of a visible text keeps it visible. -/
theorem visible_cons {c : Char} {s : List Char} (hc : 0x20 ≤ c.toNat) (h : Visible s) :
    Visible (c :: s) := List.forall_mem_cons.2 ⟨hc, h⟩

/-- Decimal digits are visible. -/
theorem visible_toDigits (n : Nat) : Visible (Nat.toDigits 10 n) := by
  intro c hc
  have hdigit : c.isDigit = true := (NumberLiteral.digits_toDigits n).2 c hc
  have hbounds : 48 ≤ c.toNat ∧ c.toNat ≤ 57 := by
    simpa [Char.isDigit, UInt32.le_iff_toNat_le] using hdigit
  omega

/-- A written integer is visible. -/
theorem visible_renderInt (n : Int) : Visible (renderInt n) := by
  cases n with
  | ofNat n => exact visible_toDigits n
  | negSucc n => exact visible_cons (by decide) (visible_toDigits (n + 1))

/-- A quoted string is visible: what is not is written as an escape. -/
theorem visible_quote (s : String) : Visible (Text.quote s) := by
  apply visible_cons (by decide)
  apply visible_append (Text.body_encode s.toList).visible
  intro c hc
  rw [List.mem_singleton.1 hc]
  decide

mutual

/-- There are no control characters in the compact text of a value. -/
theorem visible_render : ∀ x : Json, Visible (render x)
  | .null | .bool true | .bool false | .list [] | .record [] => by simp [Visible, render]
  | .number n => visible_renderInt n
  | .text s => visible_quote s
  | .list (x :: rest) =>
    visible_cons (by decide) (visible_append (visible_render x) (visible_renderItems rest))
  | .record (m :: rest) =>
    visible_cons (by decide) (visible_append (visible_renderMember m) (visible_renderMembers rest))

/-- The written items of a list are visible. -/
theorem visible_renderItems : ∀ items : List Json, Visible (renderItems items)
  | [] => by simp [Visible, renderItems]
  | x :: rest =>
    visible_cons (by decide) (visible_append (visible_render x) (visible_renderItems rest))

/-- A written member is visible. -/
theorem visible_renderMember : ∀ m : String × Json, Visible (renderMember m)
  | (name, x) =>
    visible_append (visible_quote name) (visible_cons (by decide) (visible_render x))

/-- The written members of a record are visible. -/
theorem visible_renderMembers : ∀ members : List (String × Json), Visible (renderMembers members)
  | [] => by simp [Visible, renderMembers]
  | m :: rest =>
    visible_cons (by decide) (visible_append (visible_renderMember m) (visible_renderMembers rest))

end

/-- The compact text of a value has no line ends. -/
theorem lineFeed_not_mem_render (x : Json) : '\n' ∉ render x := by
  intro h
  exact absurd (visible_render x _ h) (by decide)

end Switchboard.Json
