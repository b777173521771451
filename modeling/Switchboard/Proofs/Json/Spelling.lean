import Mathlib.Data.List.Chain
import Switchboard.Proofs.Json.Numerals
import Switchboard.Proofs.Json.Strings

/-! # Tokens and how they are spelled

A text spells a list of tokens when each stands in it as the grammar has it, with blanks anywhere
between them. Words, which are numbers and the three names, must be told apart by what is between
them; where that is so, `Spaced.scan_append` says that the scanner cuts the text into just these
tokens, whatever comes after it. `spaced_of_scan` says that it finds no others. -/

namespace Switchboard.Json.Token

/-- How a token is spelled. -/
inductive Spelled : Token → List Char → Prop where
  | openBracket : Spelled .openBracket ['[']
  | closeBracket : Spelled .closeBracket [']']
  | openBrace : Spelled .openBrace ['{']
  | closeBrace : Spelled .closeBrace ['}']
  | comma : Spelled .comma [',']
  | colon : Spelled .colon [':']
  | nullName : Spelled .null ['n', 'u', 'l', 'l']
  | trueName : Spelled (.bool true) ['t', 'r', 'u', 'e']
  | falseName : Spelled (.bool false) ['f', 'a', 'l', 's', 'e']
  | number {l : List Char} (literal : NumberLiteral.Number l) : Spelled (.number l) l
  | text {s : List Char} (body : Text.Body s) : Spelled (.text s) ('"' :: (s ++ ['"']))

/-- Nothing but blanks. -/
def Blank (s : List Char) : Prop := ∀ c ∈ s, isBlank c = true

/-- A text that spells tokens one after the other, with blanks before, between and after them. -/
inductive Spaced : List Token → List Char → Prop where
  | nil {b : List Char} (blank : Blank b) : Spaced [] b
  | cons {t : Token} {ts : List Token} {b s rest : List Char} (blank : Blank b)
      (spelled : Spelled t s) (more : Spaced ts rest) : Spaced (t :: ts) (b ++ (s ++ rest))

/-- Whether a token is a number or a name, which another one may not follow at once. -/
def isWord : Token → Bool
  | .null | .bool _ | .number _ => true
  | _ => false

/-- Whether a token is one of the six characters that give a document its structure. -/
def isPunctuation : Token → Bool
  | .openBracket | .closeBracket | .openBrace | .closeBrace | .comma | .colon => true
  | _ => false

/-- A word is followed by punctuation only. -/
def Apart (t u : Token) : Prop := t.isWord = true → u.isPunctuation = true

/-- A text that cannot be taken for the rest of a word. -/
def Delimited (s : List Char) : Prop :=
  ∀ c ∈ s.head?, isBlank c = true ∨ (ofPunctuation? c).isSome = true

/-- Whether a character may stand in a word. -/
def inWord (c : Char) : Bool := c.isAlpha || isNumeric c

variable {s rest : List Char} {c : Char} {t : Token} {ts : List Token}

/-! ## Characters -/

/-- The empty text is blank. -/
theorem blank_nil : Blank [] := by
  intro c hc
  cases hc

/-- The blank characters are the space, the two line ends and the tab. -/
theorem isBlank_iff : isBlank c = true ↔ c = ' ' ∨ c = '\n' ∨ c = '\r' ∨ c = '\t' := by
  simp [isBlank, or_assoc]

/-- A blank character neither opens a string nor belongs to a word. -/
theorem not_inWord_of_isBlank (h : isBlank c = true) : c ≠ '"' ∧ inWord c = false := by
  rcases isBlank_iff.1 h with rfl | rfl | rfl | rfl <;> decide

/-- A character of punctuation is its token's spelling, and belongs to nothing else. -/
theorem punctuation_of_ofPunctuation? (h : ofPunctuation? c = some t) :
    c ≠ '"' ∧ isBlank c = false ∧ inWord c = false ∧ t.isPunctuation = true ∧ Spelled t [c] := by
  unfold ofPunctuation? at h
  split at h
  case h_7 => cases h
  all_goals
    obtain rfl := Option.some.inj h
    refine ⟨by decide, by decide, by decide, rfl, ?_⟩
    constructor

/-! ## Scanning what is spelled -/

/-- A blank character is skipped between tokens. -/
theorem scanFrom_blank (h : isBlank c = true) (s : List Char) :
    scanFrom .nothing (c :: s) = scanFrom .nothing s := by
  rw [scanFrom.eq_5, if_pos h]

/-- Blanks are passed over. -/
theorem scanFrom_blanks {b : List Char} (h : Blank b) (s : List Char) :
    scanFrom .nothing (b ++ s) = scanFrom .nothing s := by
  induction b with
  | nil => rfl
  | cons c b ih =>
    obtain ⟨hc, hb⟩ := List.forall_mem_cons.1 h
    rw [List.cons_append, scanFrom_blank hc, ih hb]

/-- A character of punctuation is a token by itself. -/
theorem scanFrom_punctuation (h : ofPunctuation? c = some t) (s : List Char) :
    scanFrom .nothing (c :: s) = (scanFrom .nothing s).map (t :: ·) := by
  obtain ⟨hquote, hblank, hword, -, -⟩ := punctuation_of_ofPunctuation? h
  have hin : (c.isAlpha || isNumeric c) = false := hword
  rw [scanFrom.eq_5, hblank, if_neg Bool.false_ne_true, if_neg hquote, hin,
    if_neg Bool.false_ne_true, h]

/-- The characters of a word are collected. -/
theorem scanFrom_run {w : List Char} (h : ∀ c ∈ w, inWord c = true) (read s : List Char) :
    scanFrom (.run read) (w ++ s) = scanFrom (.run (w.reverse ++ read)) s := by
  induction w generalizing read with
  | nil => rfl
  | cons c w ih =>
    obtain ⟨hc, hw⟩ := List.forall_mem_cons.1 h
    have hin : (c.isAlpha || isNumeric c) = true := hc
    rw [List.cons_append, scanFrom.eq_6, if_pos hin, ih hw, List.reverse_cons, List.append_assoc]
    rfl

/-- A word ends where something else begins. -/
theorem scanFrom_run_delimited {read : List Char} (h : ofRun? read.reverse = some t)
    (delimited : Delimited s) :
    scanFrom (.run read) s = (scanFrom .nothing s).map (t :: ·) := by
  cases s with
  | nil => rw [scanFrom.eq_2, scanFrom.eq_1, h]; rfl
  | cons c s =>
    rcases delimited c rfl with hblank | hpunctuation
    · have hin : (c.isAlpha || isNumeric c) = false := (not_inWord_of_isBlank hblank).2
      rw [scanFrom.eq_6, hin, if_neg Bool.false_ne_true, h, scanFrom_blank hblank]
      exact if_pos hblank
    · obtain ⟨p, hp⟩ := Option.isSome_iff_exists.1 hpunctuation
      obtain ⟨-, hblank, hword, -, -⟩ := punctuation_of_ofPunctuation? hp
      have hin : (c.isAlpha || isNumeric c) = false := hword
      rw [scanFrom.eq_6, hin, if_neg Bool.false_ne_true, h, scanFrom_punctuation hp, Option.map_map]
      simp only [hblank, hp]
      rfl

/-- A run of word characters that ends there is the token it reads as. -/
theorem scanFrom_word {w : List Char} (ne : w ≠ []) (h : ∀ c ∈ w, inWord c = true)
    (run : ofRun? w = some t) (delimited : Delimited s) :
    scanFrom .nothing (w ++ s) = (scanFrom .nothing s).map (t :: ·) := by
  obtain ⟨c, w, rfl⟩ := List.exists_cons_of_ne_nil ne
  obtain ⟨hc, hw⟩ := List.forall_mem_cons.1 h
  have hin : (c.isAlpha || isNumeric c) = true := hc
  have hquote : c ≠ '"' := by
    rintro rfl
    revert hc
    decide
  have hblank : ¬isBlank c = true := by
    intro hb
    rw [(not_inWord_of_isBlank hb).2] at hc
    cases hc
  rw [List.cons_append, scanFrom.eq_5, if_neg hblank, if_neg hquote, if_pos hin, scanFrom_run hw]
  apply scanFrom_run_delimited _ delimited
  rw [List.reverse_append, List.reverse_reverse]
  exact run

/-- The characters of a string are collected up to the quote that ends it. -/
theorem scanFrom_string (h : Text.Enclosed s) (read rest : List Char) :
    scanFrom (.string read) (s ++ '"' :: rest) =
      scanFrom (.string (s.reverse ++ read)) ('"' :: rest) := by
  induction h generalizing read with
  | nil => rfl
  | @plain c s quote backslash _ ih =>
    rw [List.cons_append, scanFrom.eq_7, if_neg backslash, if_neg quote, ih, List.reverse_cons,
      List.append_assoc]
    rfl
  | @escape e s _ ih =>
    rw [List.cons_append, List.cons_append, scanFrom.eq_7, if_pos rfl, scanFrom.eq_8, ih]
    simp

/-- A quoted body is one token of text. -/
theorem scanFrom_text (h : Text.Body s) (rest : List Char) :
    scanFrom .nothing ('"' :: (s ++ ['"']) ++ rest) =
      (scanFrom .nothing rest).map (.text s :: ·) := by
  have hstart : scanFrom .nothing ('"' :: (s ++ ['"']) ++ rest) =
      scanFrom (.string []) (s ++ '"' :: rest) := by
    rw [List.cons_append, List.append_assoc, scanFrom.eq_5]
    rfl
  rw [hstart, scanFrom_string h.enclosed, List.append_nil, scanFrom.eq_7, if_neg (by decide),
    if_pos rfl, List.reverse_reverse, if_pos h.isBody]

/-- A number's literal reads as the token of the number. -/
theorem ofRun?_number {l : List Char} (h : NumberLiteral.Number l) :
    ofRun? l = some (.number l) := by
  obtain ⟨hne, hall⟩ := h.isNumeric
  obtain ⟨c, l, rfl⟩ := List.exists_cons_of_ne_nil hne
  have hc : isNumeric c = true := hall c List.mem_cons_self
  -- no name begins with a character of a number
  have hname {x : Char} {w : List Char} (hx : isNumeric x = false) : c :: l ≠ x :: w := by
    intro heq
    rw [(List.cons.inj heq).1, hx] at hc
    cases hc
  unfold ofRun?
  rw [if_neg (hname rfl), if_neg (hname rfl), if_neg (hname rfl),
    if_pos (NumberLiteral.isNumber_iff.2 h)]

/-- **A token that is spelled** is scanned, whatever follows it; a word must end there. -/
theorem Spelled.scan (h : Spelled t s) (delimited : t.isWord = true → Delimited rest) :
    scanFrom .nothing (s ++ rest) = (scanFrom .nothing rest).map (t :: ·) := by
  cases h with
  | openBracket | closeBracket | openBrace | closeBrace | comma | colon =>
    exact scanFrom_punctuation rfl rest
  | nullName | trueName | falseName =>
    exact scanFrom_word (by simp) (by simp [inWord]) (by decide) (delimited rfl)
  | number literal =>
    obtain ⟨hne, hall⟩ := literal.isNumeric
    refine scanFrom_word hne (fun c hc => ?_) (ofRun?_number literal) (delimited rfl)
    rw [inWord, hall c hc, Bool.or_true]
  | text body => exact scanFrom_text body rest

/-- What begins with punctuation, or with nothing that can be part of a word, ends a word. -/
theorem Spaced.delimited (h : Spaced ts s) (head : ∀ t ∈ ts.head?, t.isPunctuation = true)
    (last : ts = [] → Delimited rest) : Delimited (s ++ rest) := by
  have hblank {b r : List Char} (hb : Blank b) (hr : Delimited r) : Delimited (b ++ r) := by
    intro c hc
    cases b with
    | nil => exact hr c hc
    | cons c' b =>
      obtain rfl : c' = c := by simpa using hc
      exact Or.inl (hb c' List.mem_cons_self)
  cases h with
  | nil blank => exact hblank blank (last rfl)
  | @cons t ts b s r blank spelled more =>
    rw [List.append_assoc]
    apply hblank blank
    have hpunctuation : t.isPunctuation = true := head t rfl
    intro c hc
    right
    cases spelled with
    | openBracket | closeBracket | openBrace | closeBrace | comma | colon =>
      obtain rfl := Option.some.inj hc
      rfl
    | nullName | trueName | falseName | number | text => cases hpunctuation

/-- **A text that spells tokens** is cut into them, whatever comes after it; if the last of them is
a word, it must end there. -/
theorem Spaced.scan_append (h : Spaced ts s) (apart : ts.IsChain Apart)
    (last : ∀ t ∈ ts.getLast?, t.isWord = true → Delimited rest) :
    scanFrom .nothing (s ++ rest) = (scanFrom .nothing rest).map (ts ++ ·) := by
  induction h with
  | nil blank =>
    rw [scanFrom_blanks blank]
    exact Option.map_id'.symm
  | @cons t ts b s more blank spelled spaced ih =>
    obtain ⟨hhead, hchain⟩ := List.isChain_cons.1 apart
    have hlast : ∀ u ∈ ts.getLast?, u.isWord = true → Delimited rest := by
      intro u hu
      apply last
      rw [List.getLast?_cons, Option.mem_def.1 hu]
      rfl
    have hdelimited : t.isWord = true → Delimited (more ++ rest) := by
      intro hword
      apply spaced.delimited fun u hu => hhead u hu hword
      rintro rfl
      exact last t rfl hword
    rw [List.append_assoc, List.append_assoc, scanFrom_blanks blank, spelled.scan hdelimited,
      ih hchain hlast, Option.map_map]
    rfl

/-! ## What is scanned is spelled -/

/-- A run that reads as a token spells it. -/
theorem spelled_of_ofRun? {w : List Char} (h : ofRun? w = some t) : Spelled t w := by
  unfold ofRun? at h
  split at h
  · rename_i hw
    obtain rfl := Option.some.inj h
    rw [hw]
    exact .nullName
  · split at h
    · rename_i hw
      obtain rfl := Option.some.inj h
      rw [hw]
      exact .trueName
    · split at h
      · rename_i hw
        obtain rfl := Option.some.inj h
        rw [hw]
        exact .falseName
      · split at h
        · rename_i hnumber
          obtain rfl := Option.some.inj h
          exact .number (NumberLiteral.isNumber_iff.1 hnumber)
        · cases h

/-- What has been read and what is still to be read spell tokens together. -/
def Completes : Reading → List Token → List Char → Prop
  | .nothing, ts, s => Spaced ts s
  | .run read, ts, s => ∃ t us w rest, ts = t :: us ∧ s = w ++ rest ∧
      ofRun? (read.reverse ++ w) = some t ∧ Spaced us rest
  | .string read, ts, s => ∃ us b rest, ts = .text (read.reverse ++ b) :: us ∧
      s = b ++ '"' :: rest ∧ Text.isBody (read.reverse ++ b) = true ∧ Text.Enclosed b ∧
        Spaced us rest
  | .escape read, ts, s => ∃ us e b rest, ts = .text (read.reverse ++ e :: b) :: us ∧
      s = e :: (b ++ '"' :: rest) ∧ Text.isBody (read.reverse ++ e :: b) = true ∧
        Text.Enclosed b ∧ Spaced us rest

/-- A blank character in front keeps a spelling spaced. -/
theorem Spaced.blank_cons (h : Spaced ts s) (hc : isBlank c = true) : Spaced ts (c :: s) := by
  have hblank {b : List Char} (hb : Blank b) : Blank (c :: b) := List.forall_mem_cons.2 ⟨hc, hb⟩
  cases h with
  | nil blank => exact .nil (hblank blank)
  | cons blank spelled more => exact .cons (hblank blank) spelled more

/-- A spelled token in front keeps a spelling spaced. -/
theorem Spaced.token_cons (h : Spaced ts rest) (spelled : Spelled t s) :
    Spaced (t :: ts) (s ++ rest) :=
  .cons blank_nil spelled h

/-- What the scanner makes of a text completes what it has read. -/
theorem completes_of_scanFrom (r : Reading) (s : List Char) (ts : List Token)
    (h : scanFrom r s = some ts) : Completes r ts s := by
  -- induction on the run of the scanner, which may stop with a token half read
  fun_induction scanFrom r s generalizing ts with
  | case1 =>
    obtain rfl := Option.some.inj h
    exact .nil blank_nil
  | case2 read =>
    obtain ⟨t, ht, rfl⟩ := Option.map_eq_some_iff.1 h
    exact ⟨t, [], [], [], rfl, rfl, by rw [List.append_nil, ht], .nil blank_nil⟩
  | case3 => cases h
  | case4 => cases h
  | case5 c rest hblank ih => exact (ih ts h).blank_cons hblank
  | case6 rest _ ih =>
    obtain ⟨us, b, rest, rfl, rfl, hbody, hclosed, hspaced⟩ := ih ts h
    have hspelled : Spelled (.text b) ('"' :: (b ++ ['"'])) :=
      .text (Text.body_iff.2 ⟨hbody, hclosed⟩)
    have := hspaced.token_cons hspelled
    rwa [List.cons_append, List.append_assoc] at this
  | case7 c rest _ _ _ ih =>
    -- the word that begins here ends where the scanner has found a token in it
    obtain ⟨t, us, w, rest, rfl, rfl, hrun, hspaced⟩ := ih ts h
    exact hspaced.token_cons (s := c :: w) (spelled_of_ofRun? hrun)
  | case8 c rest _ _ _ t hpunctuation ih =>
    obtain ⟨us, hus, rfl⟩ := Option.map_eq_some_iff.1 h
    obtain ⟨-, -, -, -, hspelled⟩ := punctuation_of_ofPunctuation? hpunctuation
    exact (ih us hus).token_cons hspelled
  | case9 => cases h
  | case10 read c rest _ ih =>
    obtain ⟨t, us, w, rest, rfl, rfl, hrun, hspaced⟩ := ih ts h
    refine ⟨t, us, c :: w, rest, rfl, rfl, ?_, hspaced⟩
    rwa [List.reverse_cons, List.append_assoc] at hrun
  | case11 => cases h
  | case12 read c rest _ t hrun hblank ih =>
    obtain ⟨us, hus, rfl⟩ := Option.map_eq_some_iff.1 h
    exact ⟨t, us, [], c :: rest, rfl, rfl, by rw [List.append_nil, hrun],
      (ih us hus).blank_cons hblank⟩
  | case13 read c rest _ t hrun _ p hpunctuation ih =>
    obtain ⟨us, hus, rfl⟩ := Option.map_eq_some_iff.1 h
    obtain ⟨-, -, -, -, hspelled⟩ := punctuation_of_ofPunctuation? hpunctuation
    exact ⟨t, p :: us, [], c :: rest, rfl, rfl, by rw [List.append_nil, hrun],
      (ih us hus).token_cons hspelled⟩
  | case14 => cases h
  | case15 read rest ih =>
    obtain ⟨us, e, b, rest, rfl, rfl, hbody, hclosed, hspaced⟩ := ih ts h
    rw [List.reverse_cons, List.append_assoc] at hbody ⊢
    exact ⟨us, '\\' :: e :: b, rest, rfl, rfl, hbody, .escape hclosed, hspaced⟩
  | case16 read rest hbody _ ih =>
    obtain ⟨us, hus, rfl⟩ := Option.map_eq_some_iff.1 h
    refine ⟨us, [], rest, ?_, rfl, ?_, .nil, ih us hus⟩
    · rw [List.append_nil]
    · rwa [List.append_nil]
  | case17 => cases h
  | case18 read c rest hbackslash hquote ih =>
    obtain ⟨us, b, rest, rfl, rfl, hbody, hclosed, hspaced⟩ := ih ts h
    rw [List.reverse_cons, List.append_assoc] at hbody ⊢
    exact ⟨us, c :: b, rest, rfl, rfl, hbody, .plain hquote hbackslash hclosed, hspaced⟩
  | case19 read c rest ih =>
    obtain ⟨us, b, rest, rfl, rfl, hbody, hclosed, hspaced⟩ := ih ts h
    rw [List.reverse_cons, List.append_assoc] at hbody ⊢
    exact ⟨us, c, b, rest, rfl, rfl, hbody, hclosed, hspaced⟩

/-- **What the scanner cuts out of a text** is spelled there. -/
theorem spaced_of_scan (h : scan s = some ts) : Spaced ts s := completes_of_scanFrom .nothing s ts h

end Switchboard.Json.Token
