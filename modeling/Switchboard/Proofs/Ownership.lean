import Mathlib.Data.Finset.Card
import Switchboard.Proofs.LifecycleWord
import Switchboard.Trial.Lifecycle

/-! # References and those who hold them

To all who take references to a record under names, share them and give them up, the count of the
references is the number of names that hold one: nothing but who holds what is remembered, and that
the record is retiring. A name that takes a reference while it holds one has the new one before it
gives up the old, so that the record is not drained in between. Main statement:
`references_follow_holders`. -/

namespace Switchboard

namespace Holders

open Lifecycle (Request Response)

/-! ## Who holds a reference -/

/-- The names that hold a reference to a record, and whether it is retiring. -/
structure Ownership where
  holders : Finset String
  retiring : Bool

namespace Ownership

/-- One name holds the first reference. -/
def sole (name : String) : Ownership := ⟨{name}, false⟩

/-- What is answered when only the holders are remembered, and the holders after it. -/
def operate (o : Ownership) : Operation → Json × Ownership
  | .join name =>
    if o.retiring = false ∧ o.holders.Nonempty then
      (.bool true, { o with holders := insert name o.holders })
    else (.bool false, o)
  | .share source name =>
    if source ∈ o.holders then (.bool true, { o with holders := insert name o.holders })
    else (.bool false, o)
  | .leave name => (.bool (name ∈ o.holders), { o with holders := o.holders.erase name })
  | .retire => (.bool !o.retiring, { o with retiring := true })
  | .describe name =>
    (if name ∈ o.holders then .text (Text.wrapped "GuardRef"
      ("Record/" ++ Text.natText o.holders.card)) else .null, o)
  | .refsThrough name =>
    (if name ∈ o.holders then .list [.nat o.holders.card, .nat o.holders.card] else .null, o)
  | .drain => (.null, { o with holders := ∅ })

/-- When nobody holds a reference nobody ever will. -/
theorem holders_operate_eq_empty {o : Ownership} (none : o.holders = ∅) (op : Operation) :
    (o.operate op).2.holders = ∅ := by
  cases op <;> simp [operate, none]

/-- Where nobody is left to hold a reference, nobody gets one again. -/
theorem holders_after_eq_empty {o : Ownership} (none : o.holders = ∅) (operations : List Operation) :
    (Dialogue.after operate o operations).holders = ∅ := by
  induction operations generalizing o with
  | nil => exact none
  | cons op rest ih => exact ih (holders_operate_eq_empty none op)

end Ownership

/-- The references of a record are those of its holders, one each. -/
structure Owned (h : Holders) (o : Ownership) : Prop where
  nodup : h.names.Nodup
  holders : o.holders = h.names.toFinset
  refs : h.lifecycle.refs = h.names.length
  retiring : h.lifecycle.retiring = o.retiring

/-- A new record has the one name as its holder. -/
theorem owned_adopted (name : String) : (adopted name).Owned (.sole name) :=
  ⟨List.nodup_singleton name, rfl, rfl, rfl⟩

section Owned

variable {h : Holders} {o : Ownership}

/-- A name holds a reference exactly when it is among the holders. -/
theorem Owned.holds_iff (w : h.Owned o) (name : String) : h.holds name = true ↔ name ∈ o.holders := by
  rw [holds, List.contains_iff_mem, w.holders, List.mem_toFinset]

/-- There are as many references as holders. -/
theorem Owned.refs_eq_card (w : h.Owned o) : h.lifecycle.refs = o.holders.card := by
  rw [w.refs, w.holders, List.toFinset_card_of_nodup w.nodup]

/-- The record is referred to as long as it has a holder. -/
theorem Owned.refs_ne_zero_iff (w : h.Owned o) : h.lifecycle.refs ≠ 0 ↔ o.holders.Nonempty := by
  rw [w.refs_eq_card, Finset.card_ne_zero]

/-- A reference that is stored has its name among the holders: a new one, or one that gives up what
it held. -/
theorem Owned.store (w : h.Owned o) (name : String) :
    (h.store h.lifecycle.share name).Owned { o with holders := insert name o.holders } := by
  unfold Holders.store
  by_cases hname : h.holds name = true
  · rw [if_pos hname]
    have hmem : name ∈ o.holders := (w.holds_iff name).1 hname
    exact ⟨w.nodup, (Finset.insert_eq_self.2 hmem).trans w.holders, w.refs, w.retiring⟩
  · rw [if_neg hname]
    have hnot : name ∉ h.names := fun hmem => hname (List.contains_iff_mem.2 hmem)
    refine ⟨List.nodup_cons.2 ⟨hnot, w.nodup⟩, ?_, ?_, w.retiring⟩
    · rw [List.toFinset_cons, w.holders]
    · rw [Lifecycle.refs_share, w.refs, List.length_cons]

/-- A name that gives its reference up is no holder. -/
theorem Owned.leave (w : h.Owned o) {name : String} (held : name ∈ o.holders) :
    Owned ⟨h.lifecycle.leave, h.names.erase name⟩ { o with holders := o.holders.erase name } := by
  have hmem : name ∈ h.names := by rwa [w.holders, List.mem_toFinset] at held
  refine ⟨w.nodup.erase name, ?_, ?_, w.retiring⟩
  · ext x
    rw [Finset.mem_erase, w.holders, List.mem_toFinset, List.mem_toFinset, w.nodup.mem_erase_iff]
  · rw [Lifecycle.refs_leave, w.refs, List.length_erase_of_mem hmem]

/-- When every reference is given up nobody holds one. -/
theorem Owned.leaveAll (w : h.Owned o) : h.leaveAll.Owned { o with holders := ∅ } := by
  unfold Holders.leaveAll
  generalize hnames : h.names = names
  induction names generalizing h o with
  | nil =>
    rw [List.foldl_nil]
    exact ⟨w.nodup, by rw [hnames, List.toFinset_nil], w.refs, w.retiring⟩
  | cons name rest ih =>
    have hheld : name ∈ o.holders := by rw [w.holders, hnames, List.toFinset_cons]; simp
    have hleave : h.leave? name = some ⟨h.lifecycle.leave, h.names.erase name⟩ := by
      rw [leave?, if_pos ((w.holds_iff name).2 hheld)]
    have hrest := ih (w.leave hheld) (by rw [hnames, List.erase_cons_head])
    rwa [List.foldl_cons, hleave, Option.getD_some]

/-- A new reference is had exactly while the record is not retiring and somebody holds one. -/
theorem Owned.join?_eq (w : h.Owned o) (name : String) : h.join? name =
    if o.retiring = false ∧ o.holders.Nonempty then some (h.store h.lifecycle.share name)
    else none := by
  rw [Holders.join?]
  by_cases hjoin : o.retiring = false ∧ o.holders.Nonempty
  · have hsome : h.lifecycle.join? = some h.lifecycle.share :=
      Lifecycle.join?_eq_some_iff.2 ⟨w.retiring.trans hjoin.1, w.refs_ne_zero_iff.2 hjoin.2, rfl⟩
    rw [if_pos hjoin, hsome, Option.map_some]
  · rw [if_neg hjoin, Option.map_eq_none_iff, Option.eq_none_iff_forall_ne_some]
    intro l hl
    obtain ⟨hactive, hrefs, -⟩ := Lifecycle.join?_eq_some_iff.1 hl
    exact hjoin ⟨w.retiring.symm.trans hactive, w.refs_ne_zero_iff.1 hrefs⟩

/-- A reference is shared exactly by one who holds it. -/
theorem Owned.share?_eq (w : h.Owned o) (source name : String) : h.share? source name =
    if source ∈ o.holders then some (h.store h.lifecycle.share name) else none := by
  rw [Holders.share?]
  exact if_congr (w.holds_iff source) rfl rfl

/-- **Every operation** is answered as the holders alone would have it. -/
theorem Owned.operate (w : h.Owned o) (op : Operation) :
    (h.operate op).1 = (o.operate op).1 ∧ (h.operate op).2.Owned (o.operate op).2 := by
  cases op with
  -- whether the record can be joined is told by the holders
  | join name =>
    rw [Holders.operate, Ownership.operate, w.join?_eq]
    split
    · exact ⟨rfl, w.store name⟩
    · exact ⟨rfl, w⟩
  | share source name =>
    rw [Holders.operate, Ownership.operate, w.share?_eq]
    split
    · exact ⟨rfl, w.store name⟩
    · exact ⟨rfl, w⟩
  -- a name that holds nothing has nothing to give up
  | leave name =>
    rw [Holders.operate, Ownership.operate, leave?]
    by_cases hheld : name ∈ o.holders
    · rw [if_pos ((w.holds_iff name).2 hheld), decide_eq_true hheld]
      exact ⟨rfl, w.leave hheld⟩
    · rw [if_neg (fun hh => hheld ((w.holds_iff name).1 hh)), decide_eq_false hheld,
        Finset.erase_eq_of_notMem hheld]
      exact ⟨rfl, w⟩
  -- a retirement takes nobody's reference
  | retire =>
    refine ⟨?_, w.nodup, w.holders, w.refs, rfl⟩
    rw [Holders.operate, Ownership.operate, w.retiring]
  | describe name =>
    refine ⟨?_, w⟩
    rw [Holders.operate, Ownership.operate, Holders.describe, w.refs_eq_card]
    exact if_congr (w.holds_iff name) rfl rfl
  | refsThrough name =>
    refine ⟨?_, w⟩
    rw [Holders.operate, Ownership.operate, w.refs_eq_card]
    exact if_congr (w.holds_iff name) rfl rfl
  | drain => exact ⟨rfl, w.leaveAll⟩

end Owned

/-! ## What is asked of the record -/

/-- The reference that a name gives up when it gets another, or lets go. -/
def givenUp (h : Holders) (name : String) : List Request :=
  if h.holds name then [.leave] else []

/-- What an operation asks of the record, in this order: a name that stores a reference has taken it
before it gives up another. -/
def requests (h : Holders) : Operation → List Request
  | .join name => .join :: if (h.join? name).isSome then h.givenUp name else []
  | .share source name => if h.holds source then .share :: h.givenUp name else []
  | .leave name => h.givenUp name
  | .retire => [.retire]
  | .describe _ | .refsThrough _ => []
  | .drain => h.names.map fun _ => .leave

/-- What a list of operations asks of the record. -/
def requestsOf : Holders → List Operation → List Request
  | _, [] => []
  | h, op :: rest => h.requests op ++ requestsOf (h.operate op).2 rest

/-- A reference that is stored replaces the one that the name held. -/
theorem lifecycle_store (h : Holders) (l : Lifecycle) (name : String) :
    (h.store l name).lifecycle = Dialogue.after Lifecycle.serve l (h.givenUp name) := by
  unfold store givenUp
  split <;> rfl

/-- Giving everything up asks the record once for each name. -/
theorem lifecycle_leaveAll (h : Holders) : h.leaveAll.lifecycle =
    Dialogue.after Lifecycle.serve h.lifecycle (h.names.map fun _ => .leave) := by
  unfold leaveAll
  generalize hnames : h.names = names
  induction names generalizing h with
  | nil => rfl
  | cons name rest ih =>
    have hholds : h.holds name = true := by
      rw [holds, hnames, List.contains_cons, beq_self_eq_true, Bool.true_or]
    have hleave : h.leave? name = some ⟨h.lifecycle.leave, h.names.erase name⟩ := by
      rw [leave?, if_pos hholds]
    rw [List.foldl_cons, hleave, Option.getD_some, List.map_cons, Dialogue.after_cons]
    exact ih ⟨h.lifecycle.leave, h.names.erase name⟩ (by rw [hnames, List.erase_cons_head])

/-- An operation does to the record what it asks of it. -/
theorem lifecycle_operate (h : Holders) (op : Operation) : (h.operate op).2.lifecycle =
    Dialogue.after Lifecycle.serve h.lifecycle (h.requests op) := by
  cases op with
  | join name =>
    rw [operate, requests, join?, Dialogue.after_cons, Lifecycle.serve]
    cases h.lifecycle.join? with
    | none => rfl
    | some l => exact h.lifecycle_store l name
  | share source name =>
    rw [operate, requests, share?]
    split
    · exact h.lifecycle_store h.lifecycle.share name
    · rfl
  | leave name =>
    rw [operate, requests, leave?, givenUp]
    split <;> rfl
  | retire | describe name | refsThrough name => rfl
  | drain => exact h.lifecycle_leaveAll

/-- Operations leave the record as the requests do that they make of it. -/
theorem lifecycle_after (h : Holders) (operations : List Operation) :
    (Dialogue.after operate h operations).lifecycle =
      Dialogue.after Lifecycle.serve h.lifecycle (h.requestsOf operations) := by
  induction operations generalizing h with
  | nil => rfl
  | cons op rest ih =>
    rw [Dialogue.after_cons, ih, lifecycle_operate, requestsOf, Dialogue.after_append]

end Holders

/-! ## The last reference -/

namespace Lifecycle

/-- While a record is referred to, only giving up the last reference has it referred to no more. -/
theorem refs_serve_ne_zero {l : Lifecycle} {q : Request} (some : l.refs ≠ 0)
    (notLast : (q, (l.serve q).1) ≠ (Request.leave, Response.truth true)) :
    (l.serve q).2.refs ≠ 0 := by
  cases q with
  | join =>
    rw [serve_join]
    split
    · exact Nat.succ_ne_zero _
    · exact some
  | share => exact Nat.succ_ne_zero _
  | leave =>
    intro hnone
    have hnone' : l.leave.refs = 0 := hnone
    apply notLast
    rw [serve, decide_eq_true hnone']
  | retire | refs | isRetiring => exact some

/-- The last reference has been given up exactly when nothing refers to the record any more. -/
theorem last_mem_iff {l : Lifecycle} {requests : List Request}
    (orderly : Dialogue.Orderly serve Admits l requests) :
    (.leave, .truth true) ∈ requests.zip (Dialogue.answers serve l requests) ↔
      l.refs ≠ 0 ∧ (Dialogue.after serve l requests).refs = 0 := by
  induction requests generalizing l with
  | nil =>
    refine iff_of_false List.not_mem_nil ?_
    rintro ⟨hsome, hnone⟩
    exact hsome hnone
  | cons q rest ih =>
    rw [Dialogue.answers, List.zip_cons_cons, List.mem_cons, ih orderly.2, Dialogue.after_cons]
    by_cases hsome : l.refs = 0
    · -- there is no reference to give up
      have hnone := refs_serve_eq_zero orderly.1 hsome
      refine iff_of_false ?_ fun h => h.1 hsome
      rintro (hlast | ⟨hne, -⟩)
      · exact orderly.1.1 (Or.inr (Prod.mk.inj hlast).1.symm) hsome
      · exact hne hnone
    · by_cases hlast : (q, (l.serve q).1) = (Request.leave, Response.truth true)
      · obtain ⟨rfl, hanswer⟩ := Prod.mk.inj hlast
        have hnone : (l.serve .leave).2.refs = 0 := by
          rw [serve, Response.truth.injEq, decide_eq_true_iff] at hanswer
          exact hanswer
        exact iff_of_true (Or.inl hlast.symm) ⟨hsome, refs_after_eq_zero orderly.2 hnone⟩
      · rw [or_iff_right (Ne.symm hlast), and_iff_right hsome,
          and_iff_right (refs_serve_ne_zero hsome hlast)]

end Lifecycle

namespace Holders

open Lifecycle (Request Response)

/-- As many references are given up in an orderly way as there are. -/
theorem orderly_leaves {l : Lifecycle} {names : List String} (refs : l.refs = names.length)
    (room : l.refs < 2 ^ 31) :
    Dialogue.Orderly Lifecycle.serve Lifecycle.Admits l (names.map fun _ => .leave) := by
  induction names generalizing l with
  | nil => trivial
  | cons name rest ih =>
    rw [List.length_cons] at refs
    have hleave : l.leave.refs = rest.length := by rw [Lifecycle.refs_leave, refs]; rfl
    have hroom : l.leave.refs < 2 ^ 31 - 1 := by omega
    exact ⟨⟨fun _ => by omega, hroom⟩, ih hleave (Nat.lt_of_lt_of_le hroom (Nat.sub_le _ _))⟩

section Owned

variable {h : Holders} {o : Ownership}

/-- A reference that is given up is one that there is. -/
theorem orderly_givenUp {l : Lifecycle} (name : String) (some : l.refs ≠ 0) (room : l.refs < 2 ^ 31) :
    Dialogue.Orderly Lifecycle.serve Lifecycle.Admits l (h.givenUp name) := by
  unfold givenUp
  split
  · refine ⟨⟨fun _ => some, ?_⟩, trivial⟩
    show l.refs - 1 < 2 ^ 31 - 1
    omega
  · trivial

/-- Where there is room for one more reference, what an operation asks of the record is admitted. -/
theorem Owned.orderly_requests (w : h.Owned o) (room : o.holders.card + 2 < 2 ^ 31)
    (op : Operation) : Dialogue.Orderly Lifecycle.serve Lifecycle.Admits h.lifecycle
      (h.requests op) := by
  rw [← w.refs_eq_card] at room
  -- one reference more is still counted
  have hshare : h.lifecycle.share.refs < 2 ^ 31 - 1 := by rw [Lifecycle.refs_share]; omega
  have hgivenUp (name : String) : Dialogue.Orderly Lifecycle.serve Lifecycle.Admits
      h.lifecycle.share (h.givenUp name) :=
    orderly_givenUp name (Nat.succ_ne_zero _) (Nat.lt_of_lt_of_le hshare (Nat.sub_le _ _))
  have hsame : h.lifecycle.refs < 2 ^ 31 - 1 := by omega
  cases op with
  | join name =>
    rw [requests, w.join?_eq]
    -- a record that can be joined has one reference more before the name gives up its own
    by_cases hjoin : o.retiring = false ∧ o.holders.Nonempty
    · have hserve : h.lifecycle.serve .join = (.truth true, h.lifecycle.share) := by
        rw [Lifecycle.serve_join, if_pos ⟨w.retiring.trans hjoin.1,
          Nat.pos_of_ne_zero (w.refs_ne_zero_iff.2 hjoin.2)⟩]
      rw [if_pos hjoin, Option.isSome_some, if_pos rfl]
      refine ⟨⟨by simp, ?_⟩, ?_⟩
      · rw [hserve]
        exact hshare
      · rw [hserve]
        exact hgivenUp name
    · have hserve : h.lifecycle.serve .join = (.truth false, h.lifecycle) := by
        rw [Lifecycle.serve_join, if_neg]
        rintro ⟨hactive, hsome⟩
        exact hjoin ⟨w.retiring.symm.trans hactive, w.refs_ne_zero_iff.1 (Nat.ne_of_gt hsome)⟩
      rw [if_neg hjoin, Option.isSome_none, if_neg Bool.false_ne_true]
      refine ⟨⟨by simp, ?_⟩, trivial⟩
      rw [hserve]
      exact hsame
  -- a name that shares holds a reference, and its record is shared before it gives up its own
  | share source name =>
    rw [requests]
    split
    · rename_i hsource
      have hsome := w.refs_ne_zero_iff.2 ⟨source, (w.holds_iff source).1 hsource⟩
      exact ⟨⟨fun _ => hsome, hshare⟩, hgivenUp name⟩
    · trivial
  | leave name =>
    rw [requests]
    by_cases hname : h.holds name = true
    · have hsome := w.refs_ne_zero_iff.2 ⟨name, (w.holds_iff name).1 hname⟩
      exact orderly_givenUp name hsome (by omega)
    · rw [givenUp, if_neg hname]
      trivial
  | retire => exact ⟨⟨by simp, hsame⟩, trivial⟩
  | describe name | refsThrough name => trivial
  -- everybody gives up the one reference held
  | drain => exact orderly_leaves w.refs (by omega)

/-- Holders ask nothing of a record that it does not admit, while there is room for the count. -/
theorem Owned.orderly_requestsOf (w : h.Owned o) {operations : List Operation}
    (room : Dialogue.Orderly Ownership.operate (fun o _ => o.holders.card + 2 < 2 ^ 31) o
      operations) :
    Dialogue.Orderly Lifecycle.serve Lifecycle.Admits h.lifecycle (h.requestsOf operations) := by
  induction operations generalizing h o with
  | nil => trivial
  | cons op rest ih =>
    refine Dialogue.orderly_append.2 ⟨w.orderly_requests room.1 op, ?_⟩
    rw [← lifecycle_operate]
    exact ih (w.operate op).2 room.2

end Owned

/-! ## References follow their holders -/

/-- What has been done to the references leaves them to their holders. -/
theorem owned_after (name : String) (operations : List Operation) :
    Dialogue.answers operate (adopted name) operations =
      Dialogue.answers Ownership.operate (.sole name) operations ∧
    Owned (Dialogue.after operate (adopted name) operations)
      (Dialogue.after Ownership.operate (.sole name) operations) :=
  Dialogue.answers_eq (fun _ _ op w _ => w.operate op) (owned_adopted name)
    (Dialogue.orderly_of_forall (fun _ _ => trivial) (Ownership.sole name) operations)

/-- Where nobody holds a reference none is to be had. -/
theorem Owned.drained {h : Holders} {o : Ownership} (w : h.Owned o) (none : o.holders = ∅) :
    h.lifecycle.refs = 0 ∧ ∀ n, h.holds n = false ∧ h.join? n = Option.none ∧
      ∀ n', h.share? n n' = Option.none := by
  have hnot (n : String) : n ∉ o.holders := none ▸ Finset.notMem_empty n
  refine ⟨?_, fun n => ⟨?_, ?_, fun n' => ?_⟩⟩
  · rw [w.refs_eq_card, none, Finset.card_empty]
  · rw [Bool.eq_false_iff]
    exact fun hholds => hnot n ((w.holds_iff n).1 hholds)
  · rw [w.join?_eq, if_neg]
    rintro ⟨-, n', hn'⟩
    exact hnot n' hn'
  · rw [w.share?_eq, if_neg (hnot n)]

/-- **References follow those who hold them.** Whatever is done to the references of a record under
names, it is answered as if only the holders were remembered, and the count of the references is the
number of names that hold one. A new reference is had exactly while the record is not retiring and
some name holds one; one is shared exactly by a name that holds one, retiring or not. When no name
holds a reference any more, the count stays at nothing and none is had again. A record whose
lifecycle is kept in one word has the same count and flag, as long as there is room for the
references, and the last one is given up when the last holder lets go and not before. -/
theorem references_follow_holders (name : String) (operations : List Operation) :
    let h := Dialogue.after operate (adopted name) operations
    let o := Dialogue.after Ownership.operate (.sole name) operations
    Dialogue.answers operate (adopted name) operations =
      Dialogue.answers Ownership.operate (.sole name) operations ∧
    (h.lifecycle.refs = o.holders.card ∧ (∀ n, h.holds n = true ↔ n ∈ o.holders) ∧
      h.lifecycle.retiring = o.retiring) ∧
    (∀ n, (h.join? n).isSome = true ↔
      h.lifecycle.retiring = false ∧ ∃ n', h.holds n' = true) ∧
    (∀ n n', (h.share? n n').isSome = true ↔ h.holds n = true) ∧
    -- the end of all references
    ((∀ n, h.holds n = false) → ∀ later,
      let h' := Dialogue.after operate h later
      h'.lifecycle.refs = 0 ∧
        ∀ n, h'.holds n = false ∧ h'.join? n = none ∧ ∀ n', h'.share? n n' = none) ∧
    -- the record in one word
    (Dialogue.Orderly Ownership.operate (fun o _ => o.holders.card + 2 < 2 ^ 31) (.sole name)
        operations →
      let asked := requestsOf (adopted name) operations
      (Dialogue.after LifecycleWord.serve .fresh asked).unpack = h.lifecycle ∧
      ((.leave, .truth true) ∈ asked.zip (Dialogue.answers LifecycleWord.serve .fresh asked) ↔
        ∀ n, h.holds n = false)) := by
  intro h o
  obtain ⟨hanswers, w⟩ : _ ∧ h.Owned o := owned_after name operations
  have hnobody : (∀ n, h.holds n = false) ↔ o.holders = ∅ := by
    rw [Finset.eq_empty_iff_forall_notMem]
    exact forall_congr' fun n => by rw [← w.holds_iff, Bool.eq_false_iff]
  refine ⟨hanswers, ⟨w.refs_eq_card, w.holds_iff, w.retiring⟩, ?joined, ?shared, ?drained, ?word⟩
  case joined =>
    intro n
    have hheld : (∃ n', h.holds n' = true) ↔ o.holders.Nonempty := exists_congr w.holds_iff
    rw [w.join?_eq, Option.isSome_ite, w.retiring, hheld]
  case shared =>
    intro n n'
    rw [w.share?_eq, Option.isSome_ite, w.holds_iff]
  case drained =>
    intro hnone later
    have hlater := owned_after name (operations ++ later)
    rw [Dialogue.after_append, Dialogue.after_append] at hlater
    exact hlater.2.drained (Ownership.holders_after_eq_empty (hnobody.1 hnone) later)
  case word =>
    intro room asked
    have horderly := (owned_adopted name).orderly_requestsOf room
    obtain ⟨hword, hunpack⟩ := LifecycleWord.answers_eq_unpack horderly
    have hlifecycle : h.lifecycle = Dialogue.after Lifecycle.serve .fresh asked :=
      lifecycle_after (adopted name) operations
    refine ⟨hunpack.trans hlifecycle.symm, ?_⟩
    rw [hword, hnobody, ← Finset.card_eq_zero, ← w.refs_eq_card, hlifecycle]
    -- there is a reference at first
    exact (Lifecycle.last_mem_iff horderly).trans (and_iff_right Nat.one_ne_zero)

/-- The only name that holds a reference shares it with itself and, when the record is retiring,
with another name; then both let go. -/
theorem references_follow_holders_to_the_end :
    let operations : List Operation := [.share "owner" "owner", .retire, .join "other",
      .share "owner" "third", .leave "owner", .leave "third"]
    let h := Dialogue.after operate (adopted "owner") operations
    let asked := requestsOf (adopted "owner") operations
    (∀ n, h.holds n = false) ∧
    Dialogue.Orderly Ownership.operate (fun o _ => o.holders.card + 2 < 2 ^ 31) (.sole "owner")
      operations ∧
    (Dialogue.after operate h [.share "third" "owner"]).lifecycle.refs = 0 ∧
    (Dialogue.after LifecycleWord.serve .fresh asked).unpack = ⟨0, true⟩ ∧
    (.leave, .truth true) ∈ asked.zip (Dialogue.answers LifecycleWord.serve .fresh asked) := by
  intro operations h asked
  obtain ⟨-, -, -, -, hdrained, hword⟩ := references_follow_holders "owner" operations
  have hnames : h.names = [] := by decide +kernel
  have hnobody : ∀ n, h.holds n = false := fun n => by rw [holds, hnames]; rfl
  have hroom : Dialogue.Orderly Ownership.operate (fun o _ => o.holders.card + 2 < 2 ^ 31)
      (.sole "owner") operations := by decide +kernel
  obtain ⟨hunpack, hlast⟩ := hword hroom
  exact ⟨hnobody, hroom, (hdrained hnobody _).1, hunpack.trans (by decide +kernel), hlast.2 hnobody⟩

end Holders

end Switchboard
