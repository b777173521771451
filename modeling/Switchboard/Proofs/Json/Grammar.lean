import Switchboard.Json.Document
import Switchboard.Proofs.Json.Spelling

/-! # The grammar of documents

A document is written as its tokens, in their order and with blanks anywhere between them:
`Document.Writes`. `parse_eq_some_iff` says that the parser reads just the documents that a text
writes, of any depth. One direction follows the document, with the open lists and objects around
it left alone; the other follows the tokens, with `Document.read` for what has been read of
them. -/

namespace Switchboard.Json.Document

open Token (Apart Delimited Blank Spaced)

mutual

/-- The tokens that a document is written with. -/
def tokens : Document → List Token
  | .null => [.null]
  | .bool b => [.bool b]
  | .number l => [.number l]
  | .text s => [.text s]
  | .list [] => [.openBracket, .closeBracket]
  | .list (d :: rest) => .openBracket :: (tokens d ++ itemsTokens rest)
  | .record [] => [.openBrace, .closeBrace]
  | .record (m :: rest) => .openBrace :: (memberTokens m ++ membersTokens rest)

/-- The items after the first, each after a comma, and the closing bracket. -/
def itemsTokens : List Document → List Token
  | [] => [.closeBracket]
  | d :: rest => .comma :: (tokens d ++ itemsTokens rest)

/-- A member: its name, a colon and its value. -/
def memberTokens : List Char × Document → List Token
  | (name, d) => .text name :: .colon :: tokens d

/-- The members after the first, each after a comma, and the closing brace. -/
def membersTokens : List (List Char × Document) → List Token
  | [] => [.closeBrace]
  | m :: rest => .comma :: (memberTokens m ++ membersTokens rest)

end

/-- A text that writes a document, with blanks before, between and after its tokens. -/
def Writes (d : Document) (s : List Char) : Prop := Spaced d.tokens s

variable {d : Document} {s : List Char} {ts : List Token} {ctx : List Open}

/-! ## The tokens of a document -/

/-- The items after a comma each, and the closing bracket at the end. -/
theorem itemsTokens_eq (items : List Document) :
    itemsTokens items = items.flatMap (fun d => .comma :: tokens d) ++ [.closeBracket] := by
  induction items with
  | nil => rfl
  | cons d items ih => rw [itemsTokens, ih, List.flatMap_cons, List.append_assoc]; rfl

/-- The members after a comma each, and the closing brace at the end. -/
theorem membersTokens_eq (members : List (List Char × Document)) :
    membersTokens members =
      members.flatMap (fun m => .comma :: memberTokens m) ++ [.closeBrace] := by
  induction members with
  | nil => rfl
  | cons m members ih => rw [membersTokens, ih, List.flatMap_cons, List.append_assoc]; rfl

/-- Lists of tokens with commas between them. -/
def separated (f : α → List Token) : List α → List Token
  | [] => []
  | x :: rest => f x ++ rest.flatMap fun y => .comma :: f y

/-- A comma before each but the first is a comma after each but the last. -/
theorem separated_append_singleton (f : α → List Token) (xs : List α) (x : α) :
    separated f (xs ++ [x]) = xs.flatMap (fun y => f y ++ [.comma]) ++ f x := by
  have hrest (ys : List α) : ys.flatMap (fun y => .comma :: f y) ++ [.comma] =
      .comma :: ys.flatMap (fun y => f y ++ [.comma]) := by
    induction ys with
    | nil => rfl
    | cons y ys ih => simp [ih]
  cases xs with
  | nil => simp [separated]
  | cons y ys =>
    have := congrArg (f y ++ · ++ f x) (hrest ys)
    simpa [separated] using this

/-- A list is written as its items in brackets, with commas between them. -/
theorem tokens_list (items : List Document) :
    (list items).tokens = .openBracket :: (separated tokens items ++ [.closeBracket]) := by
  cases items with
  | nil => rfl
  | cons d rest => rw [tokens, itemsTokens_eq, separated, List.append_assoc]

/-- A record is written as its members in braces, with commas between them. -/
theorem tokens_record (members : List (List Char × Document)) :
    (record members).tokens = .openBrace :: (separated memberTokens members ++ [.closeBrace]) := by
  cases members with
  | nil => rfl
  | cons m rest => rw [tokens, membersTokens_eq, separated, List.append_assoc]

/-- Tokens stay apart where punctuation follows. -/
theorem apart_append {us : List Token} (h : ts.IsChain Apart) (h' : us.IsChain Apart)
    (head : ∀ u ∈ us.head?, u.isPunctuation = true) : (ts ++ us).IsChain Apart :=
  List.isChain_append.2 ⟨h, h', fun _ _ u hu _ => head u hu⟩

/-- Tokens stay apart behind a token that is no word. -/
theorem apart_cons {t : Token} (h : ts.IsChain Apart) (word : t.isWord = false) :
    (t :: ts).IsChain Apart := by
  refine List.isChain_cons.2 ⟨fun u _ hword => ?_, h⟩
  rw [word] at hword
  cases hword

/-- What is left of a list starts with punctuation. -/
theorem head_itemsTokens (items : List Document) :
    ∀ t ∈ (itemsTokens items).head?, t.isPunctuation = true := by
  cases items <;> simp [itemsTokens, Token.isPunctuation]

/-- What is left of a record starts with punctuation. -/
theorem head_membersTokens (members : List (List Char × Document)) :
    ∀ t ∈ (membersTokens members).head?, t.isPunctuation = true := by
  cases members <;> simp [membersTokens, Token.isPunctuation]

mutual

/-- No word of a document is followed by another one. -/
theorem tokens_apart : ∀ d : Document, d.tokens.IsChain Apart
  | .null | .bool _ | .number _ | .text _ => .singleton _
  | .list [] => apart_cons (.singleton _) rfl
  | .list (d :: rest) =>
    apart_cons (apart_append (tokens_apart d) (itemsTokens_apart rest) (head_itemsTokens rest)) rfl
  | .record [] => apart_cons (.singleton _) rfl
  | .record (m :: rest) =>
    apart_cons (apart_append (memberTokens_apart m) (membersTokens_apart rest)
      (head_membersTokens rest)) rfl

/-- No word of the items is followed by another one. -/
theorem itemsTokens_apart : ∀ items : List Document, (itemsTokens items).IsChain Apart
  | [] => .singleton _
  | d :: rest =>
    apart_cons (apart_append (tokens_apart d) (itemsTokens_apart rest) (head_itemsTokens rest)) rfl

/-- No word of a member is followed by another one. -/
theorem memberTokens_apart : ∀ m : List Char × Document, (memberTokens m).IsChain Apart
  | (_, d) => apart_cons (apart_cons (tokens_apart d) rfl) rfl

/-- No word of the members is followed by another one. -/
theorem membersTokens_apart :
    ∀ members : List (List Char × Document), (membersTokens members).IsChain Apart
  | [] => .singleton _
  | m :: rest =>
    apart_cons (apart_append (memberTokens_apart m) (membersTokens_apart rest)
      (head_membersTokens rest)) rfl

end

/-! ## What is written is parsed -/

/-- A document does not begin with a bracket that closes a list. -/
theorem parseFrom_item (d : Document) (ctx : List Open) (ts : List Token) :
    parseFrom .item ctx (d.tokens ++ ts) = parseFrom .value (.list [] :: ctx) (d.tokens ++ ts) := by
  cases d with
  | null | bool | number | text => rfl
  | list items => rw [tokens_list]; rfl
  | record members => rw [tokens_record]; rfl

/-- A member does not begin with a brace that closes an object. -/
theorem parseFrom_member (m : List Char × Document) (ctx : List Open) (ts : List Token) :
    parseFrom .member ctx (memberTokens m ++ ts) =
      parseFrom (.name []) ctx (memberTokens m ++ ts) := by
  obtain ⟨name, d⟩ := m
  rfl

mutual

/-- The tokens of a document are read as that document, whatever is open around it and whatever
comes after it. -/
theorem parseFrom_tokens : ∀ (d : Document) (ctx : List Open) (ts : List Token),
    parseFrom .value ctx (d.tokens ++ ts) = parseFrom (.more d) ctx ts
  | .null, _, _ | .bool _, _, _ | .number _, _, _ | .text _, _, _ => rfl
  | .list [], _, _ => rfl
  | .list (d :: rest), ctx, ts => by
    show parseFrom .item ctx ((tokens d ++ itemsTokens rest) ++ ts) = _
    rw [List.append_assoc, parseFrom_item, parseFrom_tokens d, parseFrom_itemsTokens rest]
    rfl
  | .record [], _, _ => rfl
  | .record (m :: rest), ctx, ts => by
    show parseFrom .member ctx ((memberTokens m ++ membersTokens rest) ++ ts) = _
    rw [List.append_assoc, parseFrom_member, parseFrom_memberTokens m, parseFrom_membersTokens rest]
    rfl

/-- The items that are left are added to those a list has. -/
theorem parseFrom_itemsTokens : ∀ (rest : List Document) (done : Document) (items : List Document)
    (ctx : List Open) (ts : List Token),
    parseFrom (.more done) (.list items :: ctx) (itemsTokens rest ++ ts) =
      parseFrom (.more (.list ((done :: items).reverse ++ rest))) ctx ts
  | [], done, items, ctx, ts => by
    rw [List.append_nil]
    rfl
  | d :: rest, done, items, ctx, ts => by
    show parseFrom .value (.list (done :: items) :: ctx) ((tokens d ++ itemsTokens rest) ++ ts) = _
    rw [List.append_assoc, parseFrom_tokens d, parseFrom_itemsTokens rest, List.reverse_cons,
      List.append_assoc]
    rfl

/-- After a member's name the parser reads its value, and then goes on in the record. -/
theorem parseFrom_memberTokens : ∀ (m : List Char × Document)
    (members : List (List Char × Document)) (ctx : List Open) (ts : List Token),
    parseFrom (.name members) ctx (memberTokens m ++ ts) =
      parseFrom (.more m.2) (.record members m.1 :: ctx) ts
  | (name, d), members, ctx, ts => by
    show parseFrom .value (.record members name :: ctx) (tokens d ++ ts) = _
    rw [parseFrom_tokens d]

/-- The members that are left are added to those an object has. -/
theorem parseFrom_membersTokens : ∀ (rest : List (List Char × Document)) (name : List Char)
    (done : Document) (members : List (List Char × Document)) (ctx : List Open) (ts : List Token),
    parseFrom (.more done) (.record members name :: ctx) (membersTokens rest ++ ts) =
      parseFrom (.more (.record (((name, done) :: members).reverse ++ rest))) ctx ts
  | [], name, done, members, ctx, ts => by
    rw [List.append_nil]
    rfl
  | m :: rest, name, done, members, ctx, ts => by
    show parseFrom (.name ((name, done) :: members)) ctx
      ((memberTokens m ++ membersTokens rest) ++ ts) = _
    rw [List.append_assoc, parseFrom_memberTokens m, parseFrom_membersTokens rest,
      List.reverse_cons, List.append_assoc]
    rfl

end

/-! ## What is parsed is written -/

/-- The tokens that have been read inside open lists and objects, up to the value that is due. -/
def before : List Open → List Token
  | [] => []
  | .list items :: ctx =>
    before ctx ++ .openBracket :: items.reverse.flatMap fun d => tokens d ++ [.comma]
  | .record members name :: ctx =>
    before ctx ++ .openBrace :: (members.reverse.flatMap (fun m => memberTokens m ++ [.comma]) ++
      [.text name, .colon])

/-- The tokens that have been read. -/
def read : Expecting → List Open → List Token
  | .value, ctx => before ctx
  | .item, ctx => before ctx ++ [.openBracket]
  | .name members, ctx =>
    before ctx ++ .openBrace :: members.reverse.flatMap fun m => memberTokens m ++ [.comma]
  | .member, ctx => before ctx ++ [.openBrace]
  | .colon members name, ctx =>
    before ctx ++ .openBrace :: (members.reverse.flatMap (fun m => memberTokens m ++ [.comma]) ++
      [.text name])
  | .more d, ctx => before ctx ++ d.tokens

/-- Each token that is admitted is added to what has been read. -/
theorem parseFrom_cons {e : Expecting} {t : Token} (h : parseFrom e ctx (t :: ts) = some d) :
    ∃ e' ctx', parseFrom e' ctx' ts = some d ∧ read e' ctx' = read e ctx ++ [t] := by
  -- by what is due; a token that is not admitted there is refused, against `h`
  cases e with
  | value =>
    cases t with
    | null | bool | number | text | openBracket | openBrace => exact ⟨_, _, h, rfl⟩
    | closeBracket | closeBrace | comma | colon => cases h
  | item =>
    cases t with
    | closeBracket => exact ⟨_, _, h, by simp [read, tokens]⟩
    | null | bool | number | text | openBracket | openBrace =>
      exact ⟨_, _, h, by simp [read, before, tokens]⟩
    | closeBrace | comma | colon => cases h
  | name members =>
    cases t with
    | text s => exact ⟨_, _, h, by simp [read]⟩
    | null | bool | number | openBracket | openBrace | closeBracket | closeBrace | comma | colon =>
      cases h
  | member =>
    cases t with
    | closeBrace => exact ⟨_, _, h, by simp [read, tokens]⟩
    | text s => exact ⟨_, _, h, by simp [read]⟩
    | null | bool | number | openBracket | openBrace | closeBracket | comma | colon => cases h
  | colon members name =>
    cases t with
    | colon => exact ⟨_, _, h, by simp [read, before]⟩
    | null | bool | number | text | openBracket | openBrace | closeBracket | closeBrace | comma =>
      cases h
  | more done =>
    match ctx with
    | [] => cases h
    | .list items :: ctx =>
      cases t with
      | comma => exact ⟨_, _, h, by simp [read, before]⟩
      | closeBracket =>
        refine ⟨_, _, h, ?_⟩
        -- the item that is done closes the list
        rw [read, tokens_list, List.reverse_cons, separated_append_singleton]
        simp [read, before]
      | null | bool | number | text | openBracket | openBrace | closeBrace | colon => cases h
    | .record members name :: ctx =>
      cases t with
      | comma => exact ⟨_, _, h, by simp [read, before, memberTokens]⟩
      | closeBrace =>
        refine ⟨_, _, h, ?_⟩
        rw [read, tokens_record, List.reverse_cons, separated_append_singleton]
        simp [read, before, memberTokens]
      | null | bool | number | text | openBracket | openBrace | closeBracket | colon => cases h

/-- The tokens of the document that is found are those that had been read and those that were
left. -/
theorem tokens_of_parseFrom {e : Expecting} (h : parseFrom e ctx ts = some d) :
    d.tokens = read e ctx ++ ts := by
  induction ts generalizing e ctx with
  | nil =>
    -- only a document with nothing open around it is complete
    cases e with
    | more done =>
      cases ctx with
      | nil =>
        obtain rfl := Option.some.inj h
        exact (List.append_nil _).symm
      | cons => cases h
    | value | item | name | member | colon => cases h
  | cons t ts ih =>
    obtain ⟨e', ctx', hnext, hread⟩ := parseFrom_cons h
    rw [ih hnext, hread, List.append_assoc]
    rfl

/-! ## Documents and texts -/

/-- A scan reads a document that is written, and goes on behind it. -/
theorem Writes.scan_append {rest : List Char} (h : Writes d s)
    (last : ∀ t ∈ d.tokens.getLast?, t.isWord = true → Delimited rest) :
    Token.scan (s ++ rest) = (Token.scan rest).map (d.tokens ++ ·) :=
  Spaced.scan_append h (tokens_apart d) last

/-- **A text is parsed** as the document that it writes, and only then. -/
theorem parse_eq_some_iff : parse s = some d ↔ Writes d s := by
  constructor
  · intro h
    unfold parse at h
    cases hscan : Token.scan s with
    | none => rw [hscan] at h; cases h
    | some ts =>
      rw [hscan] at h
      have htokens : d.tokens = ts := tokens_of_parseFrom h
      rw [Writes, htokens]
      exact Token.spaced_of_scan hscan
  · intro h
    have hscan : Token.scan (s ++ []) = (Token.scan []).map (d.tokens ++ ·) := by
      apply h.scan_append
      intro t _ _ c hc
      cases hc
    rw [List.append_nil] at hscan
    have hread := parseFrom_tokens d [] []
    rw [List.append_nil] at hread
    have hnone : Token.scan [] = some [] := rfl
    rw [parse, hscan, hnone]
    show parseFrom .value [] (d.tokens ++ []) = _
    rw [List.append_nil, hread]
    rfl

/-- Nothing but blanks may come after an object. -/
theorem Writes.parse_append_eq_none {members : List (List Char × Document)} {rest : List Char}
    (h : Writes (.record members) s) (trailing : ¬Blank rest) : parse (s ++ rest) = none := by
  have hscan : Token.scan (s ++ rest) = (Token.scan rest).map ((record members).tokens ++ ·) := by
    apply h.scan_append
    -- an object ends in a brace, whatever its members are
    intro t ht hword
    rw [tokens_record, ← List.cons_append, List.getLast?_concat] at ht
    obtain rfl := Option.some.inj ht
    cases hword
  unfold parse
  rw [hscan]
  -- the scanner fails in what follows, or finds a token that the parser cannot go on with
  cases hrest : Token.scan rest with
  | none => rfl
  | some ts =>
    cases ts with
    | nil =>
      cases Token.spaced_of_scan hrest with
      | nil blank => exact absurd blank trailing
    | cons t ts =>
      show parseFrom .value [] ((record members).tokens ++ t :: ts) = none
      rw [parseFrom_tokens]
      rfl

end Switchboard.Json.Document
