import Mathlib.Data.Nat.Bitwise
import Switchboard.Lifecycle.Word
import Switchboard.Proofs.Dialogue

/-! # A lifecycle in one word counts

The word of a lifecycle is read as a pair (`LifecycleWord.unpack`): the references counted and the
retiring flag. The operations on the whole word are those on the pair as long as the count stays
clear of the flag's bit, for then nothing is carried into that bit or borrowed from it. Main
statement: `word_counts`. -/

namespace Switchboard

namespace Lifecycle

/-! ## Requests -/

/-- What is asked of a lifecycle. -/
inductive Request where
  | join
  | share
  | leave
  | retire
  | refs
  | isRetiring
deriving DecidableEq

/-- What is answered. -/
inductive Response where
  | done
  | truth (b : Bool)
  | count (n : Nat)
deriving DecidableEq

/-- What a count and a flag answer, and the two after it. -/
def serve (l : Lifecycle) : Request → Response × Lifecycle
  | .join => match l.join? with
    | some m => (.truth true, m)
    | none => (.truth false, l)
  | .share => (.done, l.share)
  | .leave => (.truth (l.leave.refs = 0), l.leave)
  | .retire => (.truth !l.retiring, l.retire)
  | .refs => (.count l.refs, l)
  | .isRetiring => (.truth l.retiring, l)

/-- A reference is had exactly from a record that is referred to and not retiring. -/
theorem serve_join (l : Lifecycle) :
    l.serve .join =
      if l.retiring = false ∧ 0 < l.refs then (.truth true, l.share) else (.truth false, l) := by
  rw [serve]
  split
  · rename_i m hm
    obtain ⟨hactive, hsome, rfl⟩ := join?_eq_some_iff.1 hm
    rw [if_pos ⟨hactive, Nat.pos_of_ne_zero hsome⟩]
  · rename_i hnone
    rw [if_neg]
    rintro ⟨hactive, hsome⟩
    have := join?_eq_some_iff.2 ⟨hactive, Nat.ne_of_gt hsome, rfl⟩
    rw [hnone] at this
    cases this

/-- References are shared and given up while there are any, and there are never too many of them. -/
def Admits (l : Lifecycle) (q : Request) : Prop :=
  (q = .share ∨ q = .leave → l.refs ≠ 0) ∧ (l.serve q).2.refs < 2 ^ 31 - 1

instance (l : Lifecycle) (q : Request) : Decidable (l.Admits q) :=
  inferInstanceAs (Decidable ((q = .share ∨ q = .leave → l.refs ≠ 0) ∧
    (l.serve q).2.refs < 2 ^ 31 - 1))

/-! ## Counts and flags -/

/-- The flag is set by retiring and by nothing else. -/
theorem retiring_serve (l : Lifecycle) (q : Request) :
    (l.serve q).2.retiring = (l.retiring || decide (.retire = q)) := by
  cases q with
  | join => rw [serve_join]; split <;> simp
  | _ => simp [serve]

/-- The record is retiring from the first request to retire on. -/
theorem retiring_after (l : Lifecycle) (requests : List Request) :
    (Dialogue.after serve l requests).retiring =
      (l.retiring || decide (.retire ∈ requests)) := by
  induction requests generalizing l with
  | nil => simp
  | cons q rest ih =>
    rw [Dialogue.after_cons, ih, retiring_serve, Bool.or_assoc]
    simp only [List.mem_cons, Bool.decide_or]

/-- Retiring leaves the count alone. -/
theorem refs_serve_retire (l : Lifecycle) : (l.serve .retire).2.refs = l.refs := rfl

/-- After the retirement only a holder's sharing makes the count grow. -/
theorem eq_share_of_retiring {l : Lifecycle} {q : Request} (retiring : l.retiring = true)
    (grows : l.refs < (l.serve q).2.refs) : q = .share := by
  cases q with
  | join => simp [serve_join, retiring] at grows
  | share => rfl
  | leave =>
    have : l.refs < l.refs - 1 := grows
    omega
  | _ => exact absurd grows (Nat.lt_irrefl _)

/-- Nothing refers again to a record that nothing refers to. -/
theorem refs_serve_eq_zero {l : Lifecycle} {q : Request} (admits : l.Admits q) (none : l.refs = 0) :
    (l.serve q).2.refs = 0 := by
  cases q with
  | join => simp [serve_join, none]
  | share => exact absurd none (admits.1 (Or.inl rfl))
  | leave => exact absurd none (admits.1 (Or.inr rfl))
  | _ => exact none

/-- What is not referred to is not referred to again. -/
theorem refs_after_eq_zero {l : Lifecycle} {requests : List Request}
    (orderly : Dialogue.Orderly serve Admits l requests) (none : l.refs = 0) :
    (Dialogue.after serve l requests).refs = 0 :=
  orderly.after_induction (P := fun l => l.refs = 0) (fun _ _ => refs_serve_eq_zero) none

/-- The last reference is given up once, and only if there is one. -/
theorem count_last_le {l : Lifecycle} {requests : List Request}
    (orderly : Dialogue.Orderly serve Admits l requests) :
    (requests.zip (Dialogue.answers serve l requests)).count (.leave, .truth true) ≤
      if l.refs = 0 then 0 else 1 := by
  induction requests generalizing l with
  | nil => exact Nat.zero_le _
  | cons q rest ih =>
    have hrest := ih orderly.2
    rw [Dialogue.answers, List.zip_cons_cons, List.count_cons]
    by_cases hlast : (q, (l.serve q).1) = (Request.leave, Response.truth true)
    · -- from then on there is nothing to give up
      obtain ⟨rfl, hanswer⟩ := Prod.mk.inj hlast
      have hnone : (l.serve .leave).2.refs = 0 := by
        rw [serve, Response.truth.injEq, decide_eq_true_iff] at hanswer
        exact hanswer
      have hsome := orderly.1.1 (Or.inr rfl)
      rw [if_pos hnone] at hrest
      rw [if_neg hsome, if_pos (beq_iff_eq.2 hlast)]
      omega
    · rw [if_neg (by rwa [beq_iff_eq]), Nat.add_zero]
      refine Nat.le_trans hrest ?_
      by_cases hnone : l.refs = 0
      · rw [if_pos (refs_serve_eq_zero orderly.1 hnone), if_pos hnone]
      · rw [if_neg hnone]
        split <;> omega

end Lifecycle

namespace LifecycleWord

open Lifecycle (Request Response)

/-- What a lifecycle in one word answers, and the word after it. -/
def serve (l : LifecycleWord) : Request → Response × LifecycleWord
  | .join => match l.join? with
    | some m => (.truth true, m)
    | none => (.truth false, l)
  | .share => (.done, l.share)
  | .leave => (.truth l.isLast, l.leave)
  | .retire => (.truth !l.isRetiring, l.retire)
  | .refs => (.count l.refs.toNat, l)
  | .isRetiring => (.truth l.isRetiring, l)

/-! ## The two fields of a word -/

/-- The references are the low bits of the word. -/
theorem toNat_refs (l : LifecycleWord) : l.refs.toNat = l.word.toNat % 2 ^ 31 := by
  rw [refs, UInt32.toNat_and, show countMask.toNat = 2 ^ 31 - 1 from rfl,
    Nat.and_two_pow_sub_one_eq_mod]

/-- The flag is set when the word has its highest bit. -/
theorem isRetiring_eq (l : LifecycleWord) : l.isRetiring = decide (2 ^ 31 ≤ l.word.toNat) := by
  have hlt := l.word.toNat_lt
  rw [isRetiring, Bool.eq_iff_iff, bne_iff_ne, decide_eq_true_iff, ne_eq, ← UInt32.toNat_inj,
    UInt32.toNat_and, show retiringBit.toNat = 2 ^ 31 from rfl, Nat.and_two_pow,
    Nat.testBit_eq_decide_div_mod_eq, UInt32.toNat_zero, Nat.mul_eq_zero]
  simp only [Bool.toNat_eq_zero, decide_eq_false_iff_not]
  omega

/-- A word is its two fields side by side. -/
theorem toNat_word (l : LifecycleWord) :
    l.word.toNat = (if l.isRetiring then 2 ^ 31 else 0) + l.refs.toNat := by
  have hlt := l.word.toNat_lt
  rw [toNat_refs, isRetiring_eq]
  by_cases h : 2 ^ 31 ≤ l.word.toNat
  · rw [decide_eq_true h, if_pos rfl]
    omega
  · rw [decide_eq_false h, if_neg Bool.false_ne_true]
    omega

/-- What stands for a pair in 32 bits can be read back. -/
theorem unpack_eq {l : LifecycleWord} {n : Nat} {b : Bool} (small : n < 2 ^ 31)
    (h : l.word.toNat = (if b then 2 ^ 31 else 0) + n) : l.unpack = ⟨n, b⟩ := by
  rw [unpack, Lifecycle.mk.injEq, toNat_refs, isRetiring_eq, h]
  cases b with
  | true =>
    rw [if_pos rfl]
    exact ⟨by omega, decide_eq_true (by omega)⟩
  | false =>
    rw [if_neg Bool.false_ne_true]
    exact ⟨by omega, decide_eq_false (by omega)⟩

/-- The references that the word counts. -/
@[simp] theorem refs_unpack (l : LifecycleWord) : l.unpack.refs = l.refs.toNat := rfl

/-- The flag that the word bears. -/
@[simp] theorem retiring_unpack (l : LifecycleWord) : l.unpack.retiring = l.isRetiring := rfl

/-! ## The operations on the fields -/

/-- One more reference is counted, and nothing carried into the flag. -/
theorem unpack_share {l : LifecycleWord} (room : l.refs.toNat + 1 < 2 ^ 31) :
    l.share.unpack = ⟨l.refs.toNat + 1, l.isRetiring⟩ := by
  have hword := l.toNat_word
  have hlt := l.word.toNat_lt
  refine unpack_eq room ?_
  rw [share, UInt32.toNat_add, UInt32.toNat_one]
  cases hb : l.isRetiring <;> simp only [hb, if_true, Bool.false_eq_true, if_false] at hword ⊢ <;> omega

/-- One reference less is counted, and nothing borrowed from the flag. -/
theorem unpack_leave {l : LifecycleWord} (some : l.refs.toNat ≠ 0) :
    l.leave.unpack = ⟨l.refs.toNat - 1, l.isRetiring⟩ := by
  have hword := l.toNat_word
  have hlt := l.word.toNat_lt
  have hrefs := l.toNat_refs
  refine unpack_eq (by omega) ?_
  rw [leave, UInt32.toNat_sub_of_le _ _ (UInt32.le_iff_toNat_le.2 (by rw [UInt32.toNat_one]; omega)),
    UInt32.toNat_one]
  omega

/-- Retiring sets the flag and leaves the count alone. -/
theorem unpack_retire (l : LifecycleWord) : l.retire.unpack = ⟨l.refs.toNat, true⟩ := by
  have hor : l.retire.word.toNat = l.word.toNat ||| 2 ^ 31 := UInt32.toNat_or _ _
  rw [unpack, Lifecycle.mk.injEq, toNat_refs, toNat_refs, isRetiring_eq, hor]
  refine ⟨?_, decide_eq_true Nat.right_le_or⟩
  rw [Nat.or_mod_two_pow, Nat.mod_self, Nat.or_zero]

/-- A reference is had exactly from a record that is referred to and not retiring. -/
theorem join?_eq (l : LifecycleWord) :
    l.join? = if l.isRetiring = false ∧ 0 < l.refs.toNat then some l.share else none := by
  have hrefs : (l.word &&& countMask == 0) = decide (l.refs.toNat = 0) := by
    rw [beq_eq_decide, decide_eq_decide]
    exact UInt32.toNat_inj.symm
  rw [join?, hrefs, ← isRetiring, share]
  cases l.isRetiring with
  | true => rw [Bool.true_or, if_pos rfl, if_neg (by simp)]
  | false =>
    rw [Bool.false_or]
    by_cases h : l.refs.toNat = 0
    · rw [decide_eq_true h, if_pos rfl, if_neg (by omega)]
    · rw [decide_eq_false h, if_neg Bool.false_ne_true, if_pos ⟨rfl, by omega⟩]

/-- The reference that is given up is the last when the count is one. -/
theorem isLast_eq (l : LifecycleWord) : l.isLast = decide (l.refs.toNat = 1) := by
  rw [isLast, beq_eq_decide, decide_eq_decide]
  exact UInt32.toNat_inj.symm

/-- **Every request** that the pair admits is answered by the word as by the pair. -/
theorem serve_unpack {l : LifecycleWord} {q : Request} (admits : l.unpack.Admits q) :
    (l.serve q).1 = (l.unpack.serve q).1 ∧ (l.serve q).2.unpack = (l.unpack.serve q).2 := by
  obtain ⟨hheld, hroom⟩ := admits
  cases q with
  | join =>
    rw [Lifecycle.serve_join, refs_unpack, retiring_unpack] at hroom
    rw [serve, join?_eq, Lifecycle.serve_join, refs_unpack, retiring_unpack]
    by_cases h : l.isRetiring = false ∧ 0 < l.refs.toNat
    · rw [if_pos h] at hroom
      rw [if_pos h, if_pos h]
      exact ⟨rfl, unpack_share (Nat.lt_of_lt_of_le hroom (Nat.sub_le _ _))⟩
    · rw [if_neg h, if_neg h]
      exact ⟨rfl, rfl⟩
  | share => exact ⟨rfl, unpack_share (Nat.lt_of_lt_of_le hroom (Nat.sub_le _ _))⟩
  | leave =>
    have hsome : l.refs.toNat ≠ 0 := hheld (Or.inr rfl)
    refine ⟨?_, unpack_leave hsome⟩
    rw [serve, Lifecycle.serve, isLast_eq, Lifecycle.refs_leave, refs_unpack,
      Response.truth.injEq, decide_eq_decide]
    omega
  | retire => exact ⟨rfl, l.unpack_retire⟩
  | refs => exact ⟨rfl, rfl⟩
  | isRetiring => exact ⟨rfl, rfl⟩

/-- Word and pair cannot be told apart by an orderly dialogue. -/
theorem answers_eq_unpack {requests : List Request}
    (orderly : Dialogue.Orderly Lifecycle.serve Lifecycle.Admits .fresh requests) :
    Dialogue.answers serve fresh requests = Dialogue.answers Lifecycle.serve .fresh requests ∧
      (Dialogue.after serve fresh requests).unpack =
        Dialogue.after Lifecycle.serve .fresh requests := by
  have step : ∀ (l : LifecycleWord) (m : Lifecycle) (q : Request), l.unpack = m → m.Admits q →
      (l.serve q).1 = (m.serve q).1 ∧ (l.serve q).2.unpack = (m.serve q).2 := by
    rintro l _ q rfl admits
    exact serve_unpack admits
  exact Dialogue.answers_eq step unpack_fresh orderly

/-- **A lifecycle in one word is a count and a flag.** In every dialogue in which references are
shared and given up only while there are any, and there are fewer than `2 ^ 31 - 1` of them at any
time, the word answers as the pair does that starts with one reference and no retirement. The flag
is set by the first retirement, which alone is told so, and by nothing else; a retirement leaves the
count alone, and after it only a holder's sharing makes the count grow. When nothing refers to the
record any more nothing ever will, and the last reference is given up once at most. -/
theorem word_counts (requests : List Request)
    (orderly : Dialogue.Orderly Lifecycle.serve Lifecycle.Admits .fresh requests) :
    Dialogue.answers serve fresh requests = Dialogue.answers Lifecycle.serve .fresh requests ∧
    (Dialogue.after serve fresh requests).unpack =
      Dialogue.after Lifecycle.serve .fresh requests ∧
    -- one request on its own
    (∀ before q rest, requests = before ++ q :: rest →
      let l := Dialogue.after serve fresh before
      (q = .retire → ((l.serve q).1 = .truth true ↔ .retire ∉ before) ∧
        (l.serve q).2.refs = l.refs) ∧
      (q ≠ .retire → (l.serve q).2.isRetiring = l.isRetiring) ∧
      (.retire ∈ before → l.refs < (l.serve q).2.refs → q = .share ∧ l.refs ≠ 0)) ∧
    -- the end of all references
    (∀ before rest, requests = before ++ rest → (Dialogue.after serve fresh before).refs = 0 →
      (Dialogue.after serve fresh requests).refs = 0) ∧
    (requests.zip (Dialogue.answers serve fresh requests)).count (.leave, .truth true) ≤ 1 := by
  obtain ⟨hanswers, hafter⟩ := answers_eq_unpack orderly
  refine ⟨hanswers, hafter, ?single, ?drained, ?last⟩
  case single =>
    -- the requests before leave the word as they leave the pair, and this one goes on from there
    rintro before q rest rfl l
    obtain ⟨hbefore, hadmits, -⟩ := Dialogue.orderly_append.1 orderly
    have hl : l.unpack = Dialogue.after Lifecycle.serve .fresh before := (answers_eq_unpack hbefore).2
    rw [← hl] at hadmits
    obtain ⟨-, hnext⟩ := serve_unpack hadmits
    have hrefs : (l.serve q).2.refs.toNat = (l.unpack.serve q).2.refs :=
      congrArg Lifecycle.refs hnext
    have hflag : (l.serve q).2.isRetiring = (l.unpack.serve q).2.retiring :=
      congrArg Lifecycle.retiring hnext
    -- the flag is that of the retirements so far
    have hretiring : l.isRetiring = decide (.retire ∈ before) := by
      rw [← retiring_unpack, hl, Lifecycle.retiring_after]
      exact Bool.false_or _
    refine ⟨?_, ?_, ?_⟩
    · rintro rfl
      refine ⟨?_, UInt32.toNat_inj.1 (hrefs.trans (Lifecycle.refs_serve_retire _))⟩
      rw [serve, hretiring]
      simp
    · intro hne
      rw [hflag, Lifecycle.retiring_serve, decide_eq_false (Ne.symm hne), Bool.or_false,
        retiring_unpack]
    · intro hretired hgrows
      rw [UInt32.lt_iff_toNat_lt, hrefs] at hgrows
      have hset : l.unpack.retiring = true := hretiring.trans (decide_eq_true hretired)
      have hshare := Lifecycle.eq_share_of_retiring hset hgrows
      exact ⟨hshare, fun h0 => hadmits.1 (Or.inl hshare) (congrArg UInt32.toNat h0)⟩
  case drained =>
    -- the pair has no references either, and gets none
    rintro before rest rfl hnone
    obtain ⟨hbefore, hrest⟩ := Dialogue.orderly_append.1 orderly
    refine UInt32.toNat_inj.1 ?_
    rw [← refs_unpack, hafter, Dialogue.after_append]
    refine Lifecycle.refs_after_eq_zero hrest ?_
    rw [← (answers_eq_unpack hbefore).2, refs_unpack, hnone]
    rfl
  case last =>
    rw [hanswers]
    exact Lifecycle.count_last_le orderly

/-- A retired word, its references given up to the last and the retirement asked for twice. -/
theorem word_counts_to_the_end :
    let requests : List Request := [.join, .share, .retire, .join, .retire, .share, .leave, .leave,
      .leave, .leave, .join, .refs]
    Dialogue.Orderly Lifecycle.serve Lifecycle.Admits .fresh requests ∧
    Dialogue.answers serve fresh requests = [.truth true, .done, .truth true, .truth false,
      .truth false, .done, .truth false, .truth false, .truth false, .truth true, .truth false,
      .count 0] ∧
    (requests.zip (Dialogue.answers serve fresh requests)).count (.leave, .truth true) ≤ 1 := by
  intro requests
  have orderly : Dialogue.Orderly Lifecycle.serve Lifecycle.Admits .fresh requests := by decide
  obtain ⟨hanswers, -, -, -, hlast⟩ := word_counts requests orderly
  exact ⟨orderly, hanswers.trans (by decide), hlast⟩

end LifecycleWord

end Switchboard
