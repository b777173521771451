import Switchboard.Config.Document
import Switchboard.Proofs.Json.Writing

/-! # Limits are read as they are written

An object sets a limit by a member of its name. Which members there are besides, in what order they
come and how they are laid out does not matter: `Config.document_reads` goes through what an object
may say of a limit, which is nothing, one number, or what is refused. -/

namespace Switchboard.Config

open Json (Document)

/-- A value that is an integer literal without sign, fraction and exponent, with the number of 16
bits that it stands for. -/
inductive Literal : Document → UInt16 → Prop where
  | mk {l : List Char} {n : UInt16} (whole : Json.NumberLiteral.Whole l)
      (value : Nat.ofDigitChars 10 l 0 = n.toNat) : Literal (.number l) n

/-- The values of the members of a name, however the name is spelled. -/
def valuesOf (name : String) (members : List (List Char × Document)) : List Document :=
  (members.filter fun m => Json.Text.decode m.1 = some name.toList).map Prod.snd

/-- The names of the limits. -/
def limitNames : List String := ["max_devices", "max_applications"]

variable {members : List (List Char × Document)} {name : String} {standard : UInt16}

/-! ## One limit -/

/-- A limit is read from a literal alone. -/
theorem limit?_eq_some_iff {d : Document} {n : UInt16} : limit? d = some n ↔ Literal d n := by
  constructor
  · intro h
    cases d with
    | number l =>
      unfold limit? at h
      cases hnatural : Json.NumberLiteral.natural? l with
      | none => simp [hnatural] at h
      | some k =>
        simp only [hnatural] at h
        -- more than 16 bits hold is refused
        split at h
        · rename_i hk
          obtain rfl := Option.some.inj h
          obtain rfl := Json.NumberLiteral.natural?_eq_some_iff.1 hnatural
          apply Literal.mk (Json.NumberLiteral.whole_toDigits k)
          rw [Nat.ofDigitChars_ten_toDigits]
          exact (UInt16.toNat_ofNat_of_lt' (by unfold UInt16.size; omega)).symm
        · cases h
    | null | bool | text | list | record => cases h
  · rintro ⟨whole, value⟩
    rename_i l
    have hnatural : Json.NumberLiteral.natural? l = some n.toNat := by
      rw [Json.NumberLiteral.natural?, if_pos (Json.NumberLiteral.isWhole_iff.2 whole), value]
    have hn : n.toNat ≤ 65535 := by
      have := n.toNat_lt
      omega
    simp only [limit?, hnatural, if_pos hn, UInt16.ofNat_toNat]

/-- A value that is no literal of 16 bits is refused. -/
theorem limit?_eq_none {d : Document} (h : ∀ n, ¬Literal d n) : limit? d = none := by
  cases hlimit : limit? d with
  | none => rfl
  | some n => exact absurd (limit?_eq_some_iff.1 hlimit) (h n)

/-- Names that can be read are read, and the values stay with them. -/
theorem decodeNames_of_names (names : ∀ m ∈ members, (Json.Text.decode m.1).isSome = true) :
    ∃ ms, decodeNames members = some ms ∧ ∀ name : String,
      (ms.filter fun m => m.1 = name.toList).map Prod.snd = valuesOf name members := by
  induction members with
  | nil => exact ⟨[], rfl, fun _ => rfl⟩
  | cons m members ih =>
    obtain ⟨body, d⟩ := m
    obtain ⟨hhead, htail⟩ := List.forall_mem_cons.1 names
    obtain ⟨own, hown⟩ := Option.isSome_iff_exists.1 hhead
    obtain ⟨ms, hms, hvalues⟩ := ih htail
    have hbody : Json.Text.decode body = some own := hown
    refine ⟨(own, d) :: ms, by simp [decodeNames, hbody, hms], fun name => ?_⟩
    have hrest := hvalues name
    unfold valuesOf at hrest ⊢
    by_cases hname : own = name.toList
    · simp [hbody, hname, hrest]
    · simp [hbody, hname, hrest]

/-- A limit depends on the values of its members alone. -/
theorem member?_eq (ms : List (List Char × Document)) :
    member? name standard ms =
      match (ms.filter fun m => m.1 = name.toList).map Prod.snd with
      | [] => some standard
      | [d] => limit? d
      | _ => none := by
  unfold member?
  -- whether there is one value, and which, is all that is asked
  cases ms.filter fun m => m.1 = name.toList with
  | nil => rfl
  | cons m rest => cases rest <;> rfl

section Member

variable {ms : List (List Char × Document)} {values : List Document}

/-- A member that is given once has its value, and one that is left out has the default. -/
theorem member?_of_given (h : (ms.filter fun m => m.1 = name.toList).map Prod.snd = values)
    {n? : Option UInt16} (given : List.Forall₂ Literal values n?.toList) :
    member? name standard ms = some (n?.getD standard) := by
  rw [member?_eq, h]
  cases n? with
  | none =>
    cases given
    rfl
  | some n =>
    cases given with
    | cons literal rest =>
      cases rest
      exact limit?_eq_some_iff.2 literal

/-- A member that is given twice is refused, whatever its values are. -/
theorem member?_of_repeated (h : (ms.filter fun m => m.1 = name.toList).map Prod.snd = values)
    (repeated : 2 ≤ values.length) : member? name standard ms = none := by
  rw [member?_eq, h]
  match values, repeated with
  | _ :: _ :: _, _ => rfl

/-- A value that is no limit is refused, alone or among others. -/
theorem member?_of_foreign (h : (ms.filter fun m => m.1 = name.toList).map Prod.snd = values)
    {d : Document} (mem : d ∈ values) (foreign : ∀ n, ¬Literal d n) :
    member? name standard ms = none := by
  rw [member?_eq, h]
  match values, mem with
  | [_], .head _ => exact limit?_eq_none foreign
  | _ :: _ :: _, _ => rfl

end Member

/-! ## Both limits -/

/-- Without one of the limits there are none. -/
theorem ofDocument?_eq_none {ms : List (List Char × Document)}
    (decoded : decodeNames members = some ms) (known : name ∈ limitNames)
    (refused : ∀ standard, member? name standard ms = none) :
    ofDocument? (.record members) = none := by
  have hcases : name = "max_devices" ∨ name = "max_applications" := by
    simpa [limitNames] using known
  rcases hcases with rfl | rfl
  · simp only [ofDocument?, decoded, refused]
  · simp only [ofDocument?, decoded, refused]
    cases member? "max_devices" Config.standard.maxDevices ms <;> rfl

/-- A text is read as the document that it writes. -/
theorem read?_of_writes {d : Document} {text : String} (h : d.Writes text.toList) :
    read? text = ofDocument? d := by
  rw [read?, Document.parse_eq_some_iff.2 h]

/-- The members of a name that is spelled without need. -/
theorem valuesOf_cons_encode (own : String) (d : Document) :
    valuesOf name ((Json.Text.encode own.toList, d) :: members) =
      if own = name then d :: valuesOf name members else valuesOf name members := by
  unfold valuesOf
  rw [List.filter_cons, Json.Text.decode_encode]
  by_cases hname : own = name
  · simp [hname]
  · simp [hname, String.toList_inj]

/-- A number of 16 bits is written as its literal. -/
theorem literal_nat (n : UInt16) : Literal (Json.document (.nat n.toNat)) n := by
  apply Literal.mk (Json.NumberLiteral.whole_toDigits n.toNat)
  exact Nat.ofDigitChars_ten_toDigits

/-- An object that sets each limit at most once, and to a number, is read as what it sets. -/
theorem read?_of_given {text : String} {devices? applications? : Option UInt16}
    (names : ∀ m ∈ members, (Json.Text.decode m.1).isSome = true)
    (written : Document.Writes (.record members) text.toList)
    (devices : List.Forall₂ Literal (valuesOf "max_devices" members) devices?.toList)
    (applications : List.Forall₂ Literal (valuesOf "max_applications" members)
      applications?.toList) :
    read? text = some ⟨devices?.getD 32, applications?.getD 240⟩ := by
  obtain ⟨ms, hms, hvalues⟩ := decodeNames_of_names names
  simp only [read?_of_writes written, ofDocument?, hms,
    member?_of_given (hvalues "max_devices") devices,
    member?_of_given (hvalues "max_applications") applications]
  rfl

/-- The object that is written for limits sets both of them. -/
theorem read?_write (c : Config) : read? c.write = some c := by
  have hwritten : Document.Writes (Json.document c.toJson) c.write.toList := by
    rw [write, Json.compact, String.toList_ofList]
    exact Json.writes_render c.toJson
  refine read?_of_given Json.decode_isSome_of_mem_memberDocuments hwritten
    (?_ : List.Forall₂ Literal _ (some c.maxDevices).toList)
    (?_ : List.Forall₂ Literal _ (some c.maxApplications).toList)
  · rw [Json.memberDocuments, valuesOf_cons_encode, if_pos rfl, Json.memberDocuments,
      valuesOf_cons_encode, if_neg (by decide)]
    exact .cons (literal_nat c.maxDevices) .nil
  · rw [Json.memberDocuments, valuesOf_cons_encode, if_neg (by decide), Json.memberDocuments,
      valuesOf_cons_encode, if_pos rfl]
    exact .cons (literal_nat c.maxApplications) .nil

/-- Nothing but blanks may come after an object. -/
theorem read?_append_eq_none {text rest : String}
    (written : Document.Writes (.record members) text.toList)
    (trailing : ∃ c ∈ rest.toList, Json.isBlank c = false) : read? (text ++ rest) = none := by
  obtain ⟨c, hc, hblank⟩ := trailing
  have hrest : ¬Json.Token.Blank rest.toList := by
    intro h
    rw [h c hc] at hblank
    cases hblank
  rw [read?, String.toList_append, written.parse_append_eq_none hrest]

/-- **Limits are read as they are written.** What is written for limits is read as these limits. Of
any object, with members whose names can be read, in any order and laid out in any way: if it sets
each limit at most once, and to a number, it is read as what it sets, with the standard limit where
it sets none; if it sets a limit twice, or to anything else, or if something follows it, it is
refused. -/
theorem document_reads :
    (∀ c : Config, read? c.write = some c) ∧
    ∀ (members : List (List Char × Document)) (text : String),
      (∀ m ∈ members, (Json.Text.decode m.1).isSome = true) →
      Document.Writes (.record members) text.toList →
      (∀ devices? applications? : Option UInt16,
        List.Forall₂ Literal (valuesOf "max_devices" members) devices?.toList →
        List.Forall₂ Literal (valuesOf "max_applications" members) applications?.toList →
        read? text = some ⟨devices?.getD 32, applications?.getD 240⟩) ∧
      (∀ name ∈ limitNames, 2 ≤ (valuesOf name members).length → read? text = none) ∧
      (∀ name ∈ limitNames, ∀ value ∈ valuesOf name members, (∀ n, ¬Literal value n) →
        read? text = none) ∧
      ∀ rest : String, (∃ c ∈ rest.toList, Json.isBlank c = false) →
        read? (text ++ rest) = none := by
  refine ⟨read?_write, fun members text names written => ?_⟩
  obtain ⟨ms, hms, hvalues⟩ := decodeNames_of_names names
  refine ⟨fun _ _ => read?_of_given names written, ?_, ?_, fun _ => read?_append_eq_none written⟩
  · intro name known repeated
    rw [read?_of_writes written]
    exact ofDocument?_eq_none hms known fun _ => member?_of_repeated (hvalues name) repeated
  · intro name known value mem foreign
    rw [read?_of_writes written]
    exact ofDocument?_eq_none hms known fun _ => member?_of_foreign (hvalues name) mem foreign

/-- The object of a document with members that are not known, one of which holds a known name. -/
def mixedMembers : List (List Char × Document) :=
  [("zone".toList, .list [.number "-1e3".toList, .record [("max_devices".toList, .list [])]]),
    ("max\\u005fdevices".toList, .number ['7'])]

/-- Its text. -/
def mixedText : String :=
  "\x7b \"zone\" : [-1e3, \x7b\"max_devices\":[ ]\x7d],\n  \"max\\u005fdevices\":7 \x7d"

/-- A member that is not known is passed over with all that it holds, and a name may be spelled with
an escape. -/
theorem document_reads_mixed :
    Document.Writes (.record mixedMembers) mixedText.toList ∧
      read? mixedText = some ⟨7, 240⟩ ∧ read? (mixedText ++ " 0") = none := by
  have hwrites : Document.Writes (.record mixedMembers) mixedText.toList :=
    Document.parse_eq_some_iff.1 rfl
  obtain ⟨hgiven, -, -, htrailing⟩ :=
    document_reads.2 mixedMembers mixedText (by decide) hwrites
  refine ⟨hwrites, ?_, htrailing " 0" ⟨'0', by decide, by decide⟩⟩
  have hdevices : valuesOf "max_devices" mixedMembers = [.number ['7']] := rfl
  have happlications : valuesOf "max_applications" mixedMembers = [] := rfl
  apply hgiven (some 7) none
  · rw [hdevices]
    exact .cons ⟨.other (by decide) ⟨by simp, by simp⟩, rfl⟩ .nil
  · rw [happlications]
    exact .nil

end Switchboard.Config
