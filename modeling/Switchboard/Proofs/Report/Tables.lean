import Mathlib.Data.List.Forall2
import Switchboard.Proofs.Arrivals
import Switchboard.Proofs.Json.Numerals
import Switchboard.Report.Tables

/-! # The tables can be read back

A row of a table is cut at colons, bars and blanks. However wide its numbers are, what comes out are
the numbers in the order of the columns: every cell is set off from the next, and a number has none
of these characters in it. `tables_read_back` says so of both tables, row by row. -/

namespace Switchboard.Report

/-- The characters that set fields off. -/
def isSeparator (c : Char) : Bool := c = ':' || c = '|' || c = ' '

/-- The fields of a row. -/
def fields (s : List Char) : List (List Char) := (s.splitOnP isSeparator).filter (· ≠ [])

/-- Nothing, or a text that begins with a separator. -/
def SetOff (s : List Char) : Prop := ∀ c ∈ s.head?, isSeparator c = true

/-- Separators, at least one. -/
def Separates (s : List Char) : Prop := s ≠ [] ∧ ∀ c ∈ s, isSeparator c = true

variable {s sep rest : List Char}

/-! ## Fields -/

/-- Separators are passed over. -/
theorem fields_separators (h : ∀ c ∈ sep, isSeparator c = true) (s : List Char) :
    fields (sep ++ s) = fields s := by
  induction sep with
  | nil => rfl
  | cons c sep ih =>
    obtain ⟨hc, hsep⟩ := List.forall_mem_cons.1 h
    rw [List.cons_append, ← ih hsep]
    simp [fields, List.splitOnP_cons_eq_if_modifyHead, hc]

/-- A text without separators is a field, if it is set off from what comes after it. -/
theorem fields_append (ne : s ≠ []) (plain : ∀ c ∈ s, isSeparator c = false)
    (setOff : SetOff rest) : fields (s ++ rest) = s :: fields rest := by
  cases rest with
  | nil =>
    rw [List.append_nil, fields, List.splitOnP_eq_singleton plain]
    simp [fields, ne]
  | cons c rest =>
    have hc : isSeparator c = true := setOff c rfl
    have hrest : fields ([c] ++ rest) = fields rest :=
      fields_separators (List.forall_mem_singleton.2 hc) rest
    rw [List.singleton_append] at hrest
    -- the separator ends the field and is passed over
    rw [hrest, fields, List.splitOnP_append_cons_of_forall_mem plain c hc]
    simp [fields, ne]

/-- Nothing is set off from what precedes it. -/
theorem setOff_nil : SetOff [] := by
  intro c hc
  cases hc

/-- Whatever follows a separator is set off. -/
theorem Separates.setOff (h : Separates sep) (s : List Char) : SetOff (sep ++ s) := by
  obtain ⟨hne, hall⟩ := h
  obtain ⟨c, sep, rfl⟩ := List.exists_cons_of_ne_nil hne
  intro c' hc'
  obtain rfl := Option.some.inj hc'
  exact hall c List.mem_cons_self

/-- No digit is a separator. -/
theorem isSeparator_of_isDigit {c : Char} (h : c.isDigit = true) : isSeparator c = false := by
  rw [Bool.eq_false_iff]
  intro hc
  have hcases : c = ':' ∨ c = '|' ∨ c = ' ' := by simpa [isSeparator, or_assoc] using hc
  rcases hcases with rfl | rfl | rfl
  · cases h
  · cases h
  · cases h

/-! ## Cells -/

/-- The field of a cell is its number, whatever its width. -/
theorem fields_cell (width n : Nat) (setOff : SetOff rest) :
    fields (cell width n ++ rest) = Nat.toDigits 10 n :: fields rest := by
  obtain ⟨hne, hdigits⟩ := Json.NumberLiteral.digits_toDigits n
  have hplain : ∀ c ∈ Nat.toDigits 10 n, isSeparator c = false := fun c hc =>
    isSeparator_of_isDigit (hdigits c hc)
  have hblanks (k : Nat) : ∀ c ∈ List.replicate k ' ', isSeparator c = true := by
    intro c hc
    rw [List.eq_of_mem_replicate hc]
    rfl
  -- a number that fills its column has no blanks after it
  have hsetOff (k : Nat) : SetOff (List.replicate k ' ' ++ rest) := by
    cases k with
    | zero => exact setOff
    | succ k => exact Separates.setOff ⟨by simp, hblanks (k + 1)⟩ rest
  -- the number, its blanks, and then what comes after the cell
  rw [cell, Text.padRight, List.append_assoc, fields_append hne hplain (hsetOff _),
    fields_separators (hblanks _)]

/-- The fields of cells are their numbers. -/
theorem fields_cells (cs : List (Nat × Nat)) (setOff : SetOff rest) :
    fields (cells cs ++ rest) = cs.map (fun c => Nat.toDigits 10 c.2) ++ fields rest := by
  -- a blank sets each cell off from those after it, and the last from what comes then
  induction cs with
  | nil => rfl
  | cons c cs ih =>
    cases cs with
    | nil => exact fields_cell c.1 c.2 setOff
    | cons c' cs =>
      have hblank : Separates [' '] := ⟨by simp, by simp [isSeparator]⟩
      show fields ((cell c.1 c.2 ++ ([' '] ++ cells (c' :: cs))) ++ rest) = _
      rw [List.append_assoc, List.append_assoc, fields_cell _ _ (hblank.setOff _),
        fields_separators hblank.2, ih]
      rfl

/-- Whatever is in a cell is a digit or a blank. -/
theorem lineFeed_not_mem_cell (width n : Nat) : '\n' ∉ cell width n := by
  intro h
  rcases List.mem_append.1 h with h | h
  · have hdigit := (Json.NumberLiteral.digits_toDigits n).2 _ h
    cases hdigit
  · exact absurd (List.eq_of_mem_replicate h) (by decide)

/-- A row's cells do not end the line. -/
theorem lineFeed_not_mem_cells (cs : List (Nat × Nat)) : '\n' ∉ cells cs := by
  induction cs with
  | nil => simp [cells]
  | cons c cs ih =>
    cases cs with
    | nil => exact lineFeed_not_mem_cell c.1 c.2
    | cons c' cs =>
      show '\n' ∉ cell c.1 c.2 ++ ' ' :: cells (c' :: cs)
      rw [List.mem_append, List.mem_cons]
      rintro (h | h | h)
      · exact lineFeed_not_mem_cell _ _ h
      · cases h
      · exact ih h

/-! ## Rows -/

/-- The columns of the table of resources. -/
def paramsColumns (a : Application) : List Nat :=
  [a.id.number.toNat, a.params.connections.toNat, a.params.blocks.toNat, a.params.blockLength.toNat]

/-- The columns of the table of traffic. -/
def trafficColumns (a : Application) : List Nat :=
  [a.id.number.toNat,
    a.usage.sent.packets.toNat, a.usage.sent.bytes.toNat,
    a.usage.sent.dataPackets.toNat, a.usage.sent.dataBytes.toNat,
    a.usage.received.packets.toNat, a.usage.received.bytes.toNat,
    a.usage.received.dataPackets.toNat, a.usage.received.dataBytes.toNat,
    a.queue.length]

/-- A row, without the line feed that ends it, that holds numbers. -/
structure Holds (row : List Char) (ns : List Nat) : Prop where
  numbers : (fields row).map Json.NumberLiteral.natural? = ns.map some
  line : '\n' ∉ row

/-- A row whose fields are the digits of numbers holds these. -/
theorem holds_of_fields {row : List Char} {ns : List Nat}
    (h : fields row = ns.map (Nat.toDigits 10)) (line : '\n' ∉ row) : Holds row ns := by
  refine ⟨?_, line⟩
  rw [h, List.map_map]
  apply List.map_congr_left
  intro n _
  exact Json.NumberLiteral.natural?_eq_some_iff.2 rfl

/-- A row of the table of resources holds the number of the application and what it asked for. -/
theorem paramsRow_holds (a : Application) :
    ∃ row, paramsRow (.of a) = row ++ ['\n'] ∧ Holds row (paramsColumns a) := by
  have hcolon : Separates [':', ' '] := ⟨by simp, by simp [isSeparator]⟩
  refine ⟨_, rfl, holds_of_fields ?_ ?_⟩
  · rw [List.append_assoc, fields_cell _ _ (hcolon.setOff _), fields_separators hcolon.2,
      ← List.append_nil (cells _), fields_cells _ setOff_nil]
    rfl
  · simp [lineFeed_not_mem_cell, lineFeed_not_mem_cells]

/-- A row of the table of traffic holds the number of the application, its counters and how many
messages wait. -/
theorem trafficRow_holds (a : Application) :
    ∃ row, trafficRow (.of a) = row ++ ['\n'] ∧ Holds row (trafficColumns a) := by
  have hcolon : Separates [':', ' '] := ⟨by simp, by simp [isSeparator]⟩
  have hbar : Separates [' ', '|', ' '] := ⟨by simp, by simp [isSeparator]⟩
  refine ⟨_, rfl, holds_of_fields ?_ ?_⟩
  · simp only [List.append_assoc]
    rw [fields_cell _ _ (hcolon.setOff _), fields_separators hcolon.2,
      fields_cells _ (hbar.setOff _), fields_separators hbar.2,
      ← List.append_nil (cells (_ ++ _)), fields_cells _ setOff_nil]
    rfl
  · simp [lineFeed_not_mem_cell, lineFeed_not_mem_cells]

/-! ## Tables -/

/-- A text that is a heading and one row for each of a list of applications, each on a line of its
own. -/
def Tabulates (text heading : String) (columns : Application → List Nat)
    (applications : List Application) : Prop :=
  ∃ rows : List (List Char),
    text.toList = heading.toList ++ rows.flatMap (fun row => row ++ ['\n']) ∧
    List.Forall₂ (fun row a => Holds row (columns a)) rows applications

/-- Rows that hold the columns of their applications make a table of these. -/
theorem tabulates_of_rows (heading : String) {columns : Application → List Nat}
    {row : ApplSnapshot → List Char}
    (holds : ∀ a, ∃ r, row (.of a) = r ++ ['\n'] ∧ Holds r (columns a))
    (applications : List Application) :
    Tabulates (String.ofList (heading.toList ++ (applications.map .of).flatMap row)) heading columns
      applications := by
  choose rowOf hrow hholds using holds
  refine ⟨applications.map rowOf, ?_, ?_⟩
  · rw [String.toList_ofList, List.flatMap_map, List.flatMap_map]
    simp only [hrow]
  · rw [List.forall₂_map_left_iff, List.forall₂_same]
    intro a _
    exact hholds a

open Machine (Event Run registered)

variable {config : Config} {history : List Event} {m : Machine}

/-- The snapshots of the applications are those of the registered ones, in their order. -/
theorem applSnapshots_eq (run : Run config history m) :
    m.registry.applSnapshots = (registered history m).map .of := by
  rw [Registry.applSnapshots, run.applTable_values, registered, List.map_map]
  rfl

/-- **The tables can be read back.** Each is its heading and one line for each registered
application, in the order of their registration; cut at colons, bars and blanks, a line gives
the numbers of its columns in their order, however many digits these have. -/
theorem tables_read_back (run : Run config history m) :
    Tabulates (paramsTable m.registry) "ID   : LogConns DataPackets DataLen\n" paramsColumns
      (registered history m) ∧
    Tabulates (trafficTable m.registry)
      ("ID   : txPackets txBytes txDataPackets txDataBytes | " ++
        "rxPackets rxBytes rxDataPackets rxDataBytes rxQueue\n") trafficColumns
      (registered history m) := by
  unfold paramsTable trafficTable
  rw [applSnapshots_eq run]
  constructor
  · exact tabulates_of_rows _ paramsRow_holds _
  · exact tabulates_of_rows _ trafficRow_holds _

/-- Two applications register whose resources are wider than their columns, one after the other, and
the first takes one of the two messages that are queued for it. -/
def registeredWide : List Move :=
  [.call (.register ⟨4294967295, 4294967295, 4294967295⟩), .advance,
    .call (.register ⟨123456789, 0, 123456789⟩), .advance,
    .call (.enqueue 0 ⟨[1, 2, 3]⟩), .call (.enqueue 0 ⟨[4]⟩), .call (.receive default)]

/-- The resources of both applications are read back from their rows, and so is the message that the
first has taken and the one that it has not. -/
theorem tables_read_back_wide :
    let m := (Machine.new .standard).after registeredWide
    (∃ first second : List Char,
      (paramsTable m.registry).toList = "ID   : LogConns DataPackets DataLen\n".toList ++
        (first ++ '\n' :: (second ++ ['\n'])) ∧
      Holds first [1, 4294967295, 4294967295, 4294967295] ∧
      Holds second [2, 123456789, 0, 123456789]) ∧
    ∃ first second : List Char,
      (trafficTable m.registry).toList =
        ("ID   : txPackets txBytes txDataPackets txDataBytes | " ++
          "rxPackets rxBytes rxDataPackets rxDataBytes rxQueue\n").toList ++
        (first ++ '\n' :: (second ++ ['\n'])) ∧
      Holds first [1, 0, 0, 0, 0, 1, 3, 0, 0, 1] ∧ Holds second [2, 0, 0, 0, 0, 0, 0, 0, 0, 0] := by
  intro m
  have hrun : Run .standard ((Machine.new .standard).events registeredWide) m :=
    Run.of_moves .standard registeredWide (by decide +kernel)
  have hkeys : (Machine.registrations ((Machine.new .standard).events registeredWide)).filter
      m.IsRegistered = [0, 1] := by
    decide +kernel
  have hregistered : registered ((Machine.new .standard).events registeredWide) m =
      [m.registry.appls.get 0, m.registry.appls.get 1] := by
    rw [registered, hkeys]
    rfl
  -- a table of two applications is a heading and two rows
  have hrows {text heading : String} {columns : Application → List Nat} {ns ns' : List Nat}
      (h : Tabulates text heading columns [m.registry.appls.get 0, m.registry.appls.get 1])
      (hfirst : columns (m.registry.appls.get 0) = ns)
      (hsecond : columns (m.registry.appls.get 1) = ns') :
      ∃ first second : List Char,
        text.toList = heading.toList ++ (first ++ '\n' :: (second ++ ['\n'])) ∧
          Holds first ns ∧ Holds second ns' := by
    obtain ⟨rows, htext, hholds⟩ := h
    obtain ⟨first, _, hone, hrest, rfl⟩ := List.forall₂_cons_right_iff.1 hholds
    obtain ⟨second, _, htwo, hnone, rfl⟩ := List.forall₂_cons_right_iff.1 hrest
    obtain rfl := List.forall₂_nil_right_iff.1 hnone
    refine ⟨first, second, ?_, hfirst ▸ hone, hsecond ▸ htwo⟩
    rw [htext]
    simp
  obtain ⟨hparams, htraffic⟩ := tables_read_back hrun
  rw [hregistered] at hparams htraffic
  exact ⟨hrows hparams (by decide +kernel) (by decide +kernel),
    hrows htraffic (by decide +kernel) (by decide +kernel)⟩

end Switchboard.Report
