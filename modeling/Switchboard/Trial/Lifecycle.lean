import Switchboard.Json.Basic
import Switchboard.Lifecycle.Holders
import Switchboard.Lifecycle.Word

/-! # Trials of lifecycles

Trials of a lifecycle in one word, and of references held under names. Each operation yields its
answer together with the state after it. -/

namespace Switchboard.LifecycleWord

/-- An operation on a lifecycle. -/
inductive Operation where
  | join
  | share
  | leave
  | retire
  /-- Gives up every reference while the teardown waits for that. -/
  | drain
  /-- Waits for a change of a word that is not as expected, which is no wait at all. -/
  | waitMismatched

/-- Gives up references until none is left, at most `n`. -/
def leaveTimes : Nat → LifecycleWord → LifecycleWord
  | 0, l => l
  | n + 1, l => if l.refs = 0 then l else leaveTimes n l.leave

/-- Performs an operation. Nothing is shared or given up while there is no reference. -/
def operate (l : LifecycleWord) : Operation → Json × LifecycleWord
  | .join => match l.join? with
    | some m => (.bool true, m)
    | none => (.bool false, l)
  | .share => if l.refs = 0 then (.text "skipped", l) else (.null, l.share)
  | .leave => if l.refs = 0 then (.text "skipped", l) else (.bool l.isLast, l.leave)
  | .retire => (.bool !l.isRetiring, l.retire)
  | .drain => (.null, leaveTimes l.refs.toNat l)
  | .waitMismatched => (.text "NotEqual", l)

/-- The answers of a trial, each with the references, the retiring flag and the description. -/
def answers (l : LifecycleWord) : List Operation → List Json
  | [] => []
  | o :: rest =>
    let r := l.operate o
    .list [r.1, .nat r.2.refs.toNat, .bool r.2.isRetiring, .text r.2.unpack.describe] ::
      r.2.answers rest

end Switchboard.LifecycleWord

namespace Switchboard.Holders

/-- An operation on references held under names. -/
inductive Operation where
  | join (name : String)
  | share (source name : String)
  | leave (name : String)
  | retire
  | describe (name : String)
  | refsThrough (name : String)
  /-- Gives up every reference while the teardown waits for that. -/
  | drain

/-- The description of a reference. -/
def describe (h : Holders) : String :=
  Text.wrapped "GuardRef" ("Record/" ++ Text.natText h.lifecycle.refs)

/-- Performs an operation that may not be possible; the answer says whether it was. -/
def attempt (h : Holders) : Option Holders → Json × Holders
  | some i => (.bool true, i)
  | none => (.bool false, h)

/-- Performs an operation. -/
def operate (h : Holders) : Operation → Json × Holders
  | .join name => h.attempt (h.join? name)
  | .share source name => h.attempt (h.share? source name)
  | .leave name => h.attempt (h.leave? name)
  | .retire => (.bool !h.lifecycle.retiring, h.retire)
  | .describe name => (if h.holds name then .text h.describe else .null, h)
  | .refsThrough name =>
    (if h.holds name then .list [.nat h.lifecycle.refs, .nat h.lifecycle.refs] else .null, h)
  | .drain => (.null, h.leaveAll)

/-- The answers of a trial, each with the references and the retiring flag. -/
def answers (h : Holders) : List Operation → List Json
  | [] => []
  | o :: rest =>
    let r := h.operate o
    .list [r.1, .nat r.2.lifecycle.refs, .bool r.2.lifecycle.retiring] :: r.2.answers rest

end Switchboard.Holders
