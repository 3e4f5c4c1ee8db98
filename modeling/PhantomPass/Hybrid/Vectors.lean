import PhantomPass.Deployment

/-! OutboundMsgs and InboundMsgs as the source writes them: a vector and an
index that nothing ties together. Used with messages of distinct request ids
they are a round robin, as the host has them. -/

set_option autoImplicit false

namespace PhantomPass

open Lib (RoundRobin)

/-- The two classes; their methods differ in the texts of their errors only. -/
inductive MsgsClass
  | outboundMsgs | inboundMsgs
  deriving DecidableEq

namespace MsgsClass

def nextSite : MsgsClass → Site
  | outboundMsgs => .outboundNext
  | inboundMsgs => .inboundNext

def peekNextSite : MsgsClass → Site
  | outboundMsgs => .outboundPeekNext
  | inboundMsgs => .inboundPeekNext

def removeSite : MsgsClass → Site
  | outboundMsgs => .outboundRemove
  | inboundMsgs => .inboundRemove

def nextText : MsgsClass → String
  | outboundMsgs => "hysup::OutboundMsgs:: there is no next() because the array is empty"
  | inboundMsgs => "hysup::InboundMsgs:: there is no next() because the array is empty"

def peekNextText : MsgsClass → String
  | outboundMsgs => "hysup::OutboundMsgs:: there is no peek_next() because the array is empty"
  | inboundMsgs => "hysup::InboundMsgs:: there is no peek_next() because the array is empty"

end MsgsClass

/-- Pointers to messages, each standing for the request id behind it. -/
structure Msgs where
  msgs : List UniqReqId := []
  current : ℕ := 0
  deriving DecidableEq

namespace Msgs

variable (side : MsgsClass) (v : Msgs)

def size : ℕ := v.msgs.length

def append (msg : UniqReqId) : Msgs := { v with msgs := v.msgs ++ [msg] }

def findPos (msg : UniqReqId) : Checked ℕ :=
  match v.msgs.findIdx? (· == msg) with
  | some pos => return pos
  | none => throw (.thrown side.removeSite "Can't find_pos() of msg")

def remove (msg : UniqReqId) : Checked Msgs := do
  let pos ← v.findPos side msg
  let v := { v with msgs := v.msgs.eraseIdx pos }
  if v.size = 0 then return { v with current := 0 }
  else if v.current > pos then return { v with current := v.current - 1 }
  else if v.current = pos then return { v with current := v.current % v.size }
  else return v

def peekNext : Checked UniqReqId :=
  if v.size = 0 then throw (.thrown side.peekNextSite side.peekNextText)
  else
    match v.msgs[v.current]? with
    | some msg => return msg
    | none => throw (.thrown side.peekNextSite "no message on position")

def next : Checked (UniqReqId × Msgs) :=
  if v.size = 0 then throw (.thrown side.nextSite side.nextText)
  else do
    let msg ← v.peekNext side
    return (msg, { v with current := (v.current + 1) % v.size })

def sort (plat : Platform) (key : UniqReqId → ℤ) : Msgs := { v with msgs := plat.sortBy key v.msgs }

def reset : Msgs := { v with current := 0 }

/-- next() called so many times: what it returned, and the vector behind it. -/
def nexts : ℕ → Msgs → Checked (List UniqReqId × Msgs)
  | 0, v => return ([], v)
  | turns + 1, v => do
    let (msg, v) ← v.next side
    let (msgs, v) ← nexts turns v
    return (msg :: msgs, v)

inductive Call
  | append (msg : UniqReqId)
  | remove (msg : UniqReqId)
  | next
  | sort (key : UniqReqId → ℤ)
  | reset

def call (plat : Platform) : Call → Checked Msgs
  | .append msg => return v.append msg
  | .remove msg => v.remove side msg
  | .next => return (← v.next side).2
  | .sort key => return v.sort plat key
  | .reset => return v.reset

/-- Vectors after some calls, none of which adds a request id that is there. -/
inductive Reach (plat : Platform) : Msgs → Prop
  | init : Reach plat {}
  | call {v after : Msgs} (c : Call) : Reach plat v → (∀ msg, c = .append msg → msg ∉ v.msgs) →
      v.call side plat c = .ok after → Reach plat after

end Msgs

def Msgs.ofRoundRobin (r : RoundRobin UniqReqId) : Msgs := ⟨r.msgs, r.current⟩

namespace Msgs

variable (side : MsgsClass) (r : RoundRobin UniqReqId)

theorem findPos_eq (v : Msgs) {msg : UniqReqId} (inside : msg ∈ v.msgs) :
    v.findPos side msg = .ok (v.msgs.idxOf msg) := by
  have found : v.msgs.findIdx? (· == msg) = some (v.msgs.idxOf msg) := by
    rw [List.idxOf, List.findIdx?_eq_some_iff_findIdx_eq]
    exact ⟨List.idxOf_lt_length_of_mem inside, rfl⟩
  simp only [findPos, found]
  rfl

theorem findPos_absent (v : Msgs) {msg : UniqReqId} (outside : msg ∉ v.msgs) :
    v.findPos side msg = .error (.thrown side.removeSite "Can't find_pos() of msg") := by
  have missing : v.msgs.findIdx? (· == msg) = none := by
    rw [List.findIdx?_eq_none_iff]
    intro other inside
    simp only [beq_eq_false_iff_ne, ne_eq]
    rintro rfl
    exact outside inside
  simp only [findPos, missing]
  rfl

theorem remove_eq {msg : UniqReqId} (inside : msg ∈ r.msgs) :
    ∃ left, r.remove msg = some left ∧ (ofRoundRobin r).remove side msg = .ok (ofRoundRobin left) := by
  have found : r.msgs.idxOf msg < r.msgs.length := List.idxOf_lt_length_of_mem inside
  have pos := findPos_eq side (ofRoundRobin r) inside
  refine ⟨_, dif_pos found, ?_⟩
  rw [remove, pos, Lib.ok_bind]
  dsimp only [ofRoundRobin, size]
  by_cases empty : (r.msgs.eraseIdx (r.msgs.idxOf msg)).length = 0
  · simp only [empty, if_true]
    rfl
  · by_cases before : r.current > r.msgs.idxOf msg
    · simp only [empty, before, if_true, if_false]
      rfl
    · by_cases here : r.current = r.msgs.idxOf msg
      · simp only [empty, here, gt_iff_lt, Nat.lt_irrefl, if_true, if_false]
        rfl
      · simp only [empty, before, here, if_false]
        rfl

theorem remove_absent {msg : UniqReqId} (outside : msg ∉ r.msgs) :
    (ofRoundRobin r).remove side msg = .error (.thrown side.removeSite "Can't find_pos() of msg") := by
  rw [remove, findPos_absent side _ outside]
  rfl

theorem next_eq {msg : UniqReqId} {moved : RoundRobin UniqReqId} (step : r.next = some (msg, moved)) :
    (ofRoundRobin r).next side = .ok (msg, ofRoundRobin moved) := by
  unfold RoundRobin.next at step
  split at step
  · next some_msg =>
    injection step with pair
    injection pair with head rest
    have lt : r.current < r.msgs.length := r.current_lt.elim id fun zero => zero ▸ some_msg
    have at_ : r.msgs[r.current]? = some msg := by rw [List.getElem?_eq_getElem lt, ← head]; rfl
    simp only [next, peekNext, size, ofRoundRobin, some_msg.ne', if_false, at_]
    rw [← rest]
    rfl
  · cases step

theorem next_empty (none_left : r.msgs = []) :
    (ofRoundRobin r).next side = .error (.thrown side.nextSite side.nextText) := by
  simp [next, size, ofRoundRobin, none_left]

theorem nexts_eq (k : ℕ) {visited : List UniqReqId} {moved : RoundRobin UniqReqId}
    (walked : RoundRobin.turns k r = some (visited, moved)) :
    nexts side k (ofRoundRobin r) = .ok (visited, ofRoundRobin moved) := by
  -- each call moves the front of the rotation to its end
  induction k generalizing r visited with
  | zero =>
    cases walked
    rfl
  | succ k ih =>
    simp only [RoundRobin.turns, Option.bind_eq_bind, Option.bind_eq_some_iff, Option.pure_def, Option.some.injEq,
      Prod.mk.injEq] at walked
    obtain ⟨⟨msg, after⟩, step, ⟨rest, last⟩, walked, rfl, rfl⟩ := walked
    simp only [nexts, next_eq side r step, Lib.ok_bind, ih after walked]
    rfl

theorem Reach.roundRobin {plat : Platform} {v : Msgs} (reach : Reach side plat v) :
    ∃ r : RoundRobin UniqReqId, v = ofRoundRobin r ∧ r.msgs.Nodup := by
  induction reach with
  | init => exact ⟨.empty, rfl, List.nodup_nil⟩
  | call c reach fresh run ih =>
    obtain ⟨r, rfl, nodup⟩ := ih
    cases c with
    | append msg =>
      cases run
      refine ⟨r.append msg, rfl, ?_⟩
      have new : msg ∉ r.msgs := fresh msg rfl
      exact List.nodup_append.mpr ⟨nodup, List.nodup_singleton msg,
        fun _ inside _ single same => new (List.mem_singleton.mp single ▸ same ▸ inside)⟩
    | remove msg =>
      by_cases inside : msg ∈ r.msgs
      · obtain ⟨left, step, same⟩ := remove_eq side r inside
        rw [Msgs.call, same] at run
        cases run
        exact ⟨left, rfl, (RoundRobin.remove_spec nodup step).2 ▸ nodup.erase msg⟩
      · rw [Msgs.call, remove_absent side r inside] at run
        cases run
    | next =>
      cases step : r.next with
      | none =>
        rw [Msgs.call, next_empty side r (RoundRobin.next_eq_none.mp step)] at run
        cases run
      | some moved =>
        rw [Msgs.call, next_eq side r step] at run
        cases run
        exact ⟨moved.2, rfl, (RoundRobin.next_spec step).1 ▸ nodup⟩
    | sort key =>
      cases run
      have perm := plat.sortBy_perm key r.msgs
      exact ⟨r.reorder _ perm, rfl, perm.nodup_iff.mpr nodup⟩
    | reset =>
      cases run
      exact ⟨r.reset, rfl, nodup⟩

/-- After any calls on messages with distinct request ids: the cursor is zero
in an empty vector and inside of any other; removing a message leaves the
others in their order, and the cursor on its message unless that is the one
removed; and as many calls of next() as there are messages return each of them
once, and bring the cursor back. -/
theorem round_robin {plat : Platform} {v : Msgs} (reach : Reach side plat v) :
    (if v.msgs = [] then v.current = 0 else v.current < v.size) ∧
    (∀ msg ∈ v.msgs, ∃ left, v.remove side msg = .ok left ∧ left.msgs = v.msgs.erase msg ∧
      (v.msgs[v.current]? ≠ some msg → left.msgs[left.current]? = v.msgs[v.current]?)) ∧
    ∃ order, nexts side v.size v = .ok (order, v) ∧ order.Nodup ∧ order.Perm v.msgs := by
  obtain ⟨r, rfl, nodup⟩ := reach.roundRobin
  refine ⟨?_, fun msg inside => ?_, r.upcoming, nexts_eq side r r.size r.turns_size,
    r.upcoming_perm.nodup_iff.mpr nodup, r.upcoming_perm⟩
  · split
    · next none_left =>
      rcases r.current_lt with lt | zero
      · have len : r.msgs.length = 0 := congrArg List.length none_left
        omega
      · exact zero
    · next some_left =>
      have len : 0 < r.msgs.length := List.length_pos_iff.mpr some_left
      rcases r.current_lt with lt | zero
      · exact lt
      · exact lt_of_eq_of_lt zero len
  · obtain ⟨left, step, same⟩ := remove_eq side r inside
    refine ⟨_, same, (RoundRobin.remove_spec nodup step).2, fun other => ?_⟩
    have upcoming := (RoundRobin.remove_spec nodup step).1
    have head : r.upcoming.head? ≠ some msg := r.peekNext_eq_head ▸ other
    calc left.peekNext = left.upcoming.head? := left.peekNext_eq_head
      _ = (r.upcoming.erase msg).head? := by rw [upcoming]
      _ = r.upcoming.head? := by
        cases visits : r.upcoming with
        | nil => rfl
        | cons first rest =>
          rw [visits] at head
          have ne : first ≠ msg := fun same => head (by rw [same]; rfl)
          rw [List.erase_cons_tail (by simpa using ne)]
          rfl
      _ = r.peekNext := r.peekNext_eq_head.symm

/-- Two messages, the cursor on the second. -/
theorem round_robin_two :
    ∃ order, nexts .outboundMsgs 2 ⟨[⟨1, 0, 0⟩, ⟨1, 0, 1⟩], 1⟩ = .ok (order, ⟨[⟨1, 0, 0⟩, ⟨1, 0, 1⟩], 1⟩) ∧
      order.Nodup ∧ order.Perm [⟨1, 0, 0⟩, ⟨1, 0, 1⟩] := by
  have reach : Reach .outboundMsgs .plain ⟨[⟨1, 0, 0⟩, ⟨1, 0, 1⟩], 1⟩ :=
    .call .next (.call (.append ⟨1, 0, 1⟩) (.call (.append ⟨1, 0, 0⟩) .init (by simp) rfl)
      (by rintro msg ⟨⟩; decide) rfl) (by rintro msg ⟨⟩) (by decide)
  exact (round_robin .outboundMsgs reach).2.2

end Msgs

end PhantomPass
