import PhantomPass.Xpass.DropTail

/-! What a queue that throttles credits lets through: over a whole run no more than
its rate, in any window a burst more while it is looked at in time; and a credit
that waits for tokens leaves when the credit timer expires. -/

set_option autoImplicit false

namespace PhantomPass.Xpass.XPassDropTail

open Lib (TokenBucket)

variable {c : XPassDropTail} {s t : State} {p : Packet} {start now : Time}

/-- So many tokens came in: whole ones, none too many, and all of them if the bucket is looked at in time. -/
structure Added (c : XPassDropTail) (s : State) (added : ℤ) : Prop where
  nonneg : 0 ≤ added
  le : (added : ℚ) ≤ c.tokenRefreshRate * (s.now - s.tokenBucketClock)
  cap : (added : ℚ) ≤ 0.1 * c.tokenRefreshRate
  same : c.updateTokenBucket s =
    { s with
      tokens := min (s.tokens + added) c.maxTokens
      tokenBucketClock := s.tokenBucketClock + added / c.tokenRefreshRate }
  all : ∀ k : ℤ, (k : ℚ) ≤ min (s.now - s.tokenBucketClock) 0.1 * c.tokenRefreshRate → k ≤ added

theorem updated (rate : 0 < c.tokenRefreshRate) (clock : s.tokenBucketClock ≤ s.now) (le : s.tokens ≤ c.maxTokens) :
    ∃ added, Added c s added := by
  have elapsed : 0 ≤ s.now - s.tokenBucketClock := sub_nonneg.mpr clock
  have time : 0 ≤ min (s.now - s.tokenBucketClock) 0.1 := le_min elapsed (by norm_num)
  have gain : 0 ≤ min (s.now - s.tokenBucketClock) 0.1 * c.tokenRefreshRate := mul_nonneg time rate.le
  by_cases passed : s.now - s.tokenBucketClock ≤ 0
  · refine ⟨0, le_rfl, ?_, ?_, ?_, fun k most => ?_⟩
    · push_cast
      exact mul_nonneg rate.le elapsed
    · push_cast
      exact mul_nonneg (by norm_num) rate.le
    · unfold updateTokenBucket
      rw [if_pos passed, add_zero, min_eq_left le, Int.cast_zero, zero_div, add_zero]
    · have none : min (s.now - s.tokenBucketClock) 0.1 ≤ 0 := (min_le_left _ _).trans passed
      have nothing := mul_nonpos_of_nonpos_of_nonneg none rate.le
      exact_mod_cast most.trans nothing
  · refine ⟨c.newTokens s, truncInt_nonneg gain, ?_, ?_, ?_, fun k most => ?_⟩
    · calc (c.newTokens s : ℚ) ≤ min (s.now - s.tokenBucketClock) 0.1 * c.tokenRefreshRate := truncInt_le gain
        _ ≤ (s.now - s.tokenBucketClock) * c.tokenRefreshRate := mul_le_mul_of_nonneg_right (min_le_left _ _) rate.le
        _ = c.tokenRefreshRate * (s.now - s.tokenBucketClock) := mul_comm _ _
    · calc (c.newTokens s : ℚ) ≤ min (s.now - s.tokenBucketClock) 0.1 * c.tokenRefreshRate := truncInt_le gain
        _ ≤ 0.1 * c.tokenRefreshRate := mul_le_mul_of_nonneg_right (min_le_right _ _) rate.le
    · unfold updateTokenBucket
      rw [if_neg passed]
    · have floor := truncInt_mono most
      rwa [truncInt_intCast] at floor

theorem Added.prompt {added : ℤ} (adds : Added c s added) (soon : s.now - s.tokenBucketClock ≤ 0.1) :
    c.tokenRefreshRate * (s.now - s.tokenBucketClock) - added ≤ 1 := by
  have whole := adds.all ⌊(s.now - s.tokenBucketClock) * c.tokenRefreshRate⌋
    (by rw [min_eq_left soon]; exact Int.floor_le _)
  have below := Int.lt_floor_add_one ((s.now - s.tokenBucketClock) * c.tokenRefreshRate)
  have cast : ((⌊(s.now - s.tokenBucketClock) * c.tokenRefreshRate⌋ : ℤ) : ℚ) ≤ added := by exact_mod_cast whole
  linarith

/-- The outcomes of deque, from the state behind the update of the bucket. -/
inductive Dequed (c : XPassDropTail) (u : State) : Option Packet → State → Prop
  | credit (p : Packet) (rest : List Packet) : u.creditQ = p :: rest → p.size ≤ u.tokens →
      Dequed c u (some p) { u with creditQ := rest, tokens := u.tokens - p.size }
  | data (p : Packet) (rest : List Packet) : (∀ q ∈ u.creditQ.head?, u.tokens < q.size) → u.dataQ = p :: rest →
      Dequed c u (some p) { u with dataQ := rest }
  | waits (p : Packet) (rest : List Packet) : u.dataQ = [] → u.creditQ = p :: rest → u.tokens < p.size →
      Dequed c u none { u with creditTimer := some (u.now + (p.size - u.tokens : ℤ) / c.tokenRefreshRate) }
  | empty : u.dataQ = [] → u.creditQ = [] → Dequed c u none u

/-- deque never stops: it would exit only with packets in both queues and none at the head of one. -/
theorem dequed (c : XPassDropTail) {u : State} (update : c.updateTokenBucket { s with creditTimer := none } = u) :
    ∃ out t, c.deque s = .ok (out, t) ∧ Dequed c u out t := by
  unfold deque dequeData
  rw [update]
  cases u with | mk dataQ creditQ tokens clock timer blocked now entered dropped left =>
    cases creditQ with
    | nil =>
      cases dataQ with
      | nil => exact ⟨none, _, by simp [byteLength, pure, Except.pure], .empty rfl rfl⟩
      | cons d rest => exact ⟨some d, _, rfl, .data d rest (by simp) rfl⟩
    | cons p rest =>
      by_cases enough : p.size ≤ tokens
      · exact ⟨some p, _, by simp only [if_pos enough]; rfl, .credit p rest rfl enough⟩
      · have short : tokens < p.size := not_le.mp enough
        cases dataQ with
        | nil => exact ⟨none, _, by simp only [if_neg enough]; rfl, .waits p rest rfl rfl short⟩
        | cons d more => exact ⟨some d, _, by simp only [if_neg enough]; rfl, .data d more (by simpa using short) rfl⟩

/-- What leaves blocks the queue; with nothing to send it is free. -/
def sent (out : Option Packet) (t : State) : State :=
  match out with
  | some p => { t with blocked := true, left := t.left ++ [(t.now, p)] }
  | none => { t with blocked := false }

theorem Dequed.blocked {u : State} {out : Option Packet} (deq : Dequed c u out t) : t.blocked = u.blocked := by
  cases deq <;> rfl

theorem sendNext_eq {u : State} {out : Option Packet} (free : u.blocked = false) (run : c.deque s = .ok (out, t))
    (deq : Dequed c u out t) : c.sendNext s = .ok (sent out t) := by
  unfold sendNext sent
  rw [run, Lib.ok_bind]
  cases out with
  | some p => rfl
  | none =>
    rw [← free, ← deq.blocked]
    rfl

theorem resume_eq {u : State} {out : Option Packet} (busy : u.blocked = true) (run : c.deque s = .ok (out, t))
    (deq : Dequed c u out t) : c.resume s = .ok (sent out t) := by
  unfold resume sent
  rw [run, Lib.ok_bind]
  cases out with
  | none => rfl
  | some p =>
    rw [← busy, ← deq.blocked]
    rfl

/-! ### One step -/

theorem Ok.credit (ok : Ok c s) {q : Packet} (inside : q ∈ s.creditQ) : isCredit q = true := by
  have entered : q ∈ s.entered.filter isCredit := ok.credits ▸ List.mem_append_right _ inside
  exact (List.mem_filter.mp entered).2

theorem Ok.plain (ok : Ok c s) {q : Packet} (inside : q ∈ s.dataQ) : isCredit q = false := by
  have entered : q ∈ s.entered.filter (!isCredit ·) := ok.data ▸ List.mem_append_right _ inside
  simpa using (List.mem_filter.mp entered).2

theorem Ok.wait (ok : Ok c s) (later : s.now ≤ now) (timer : Option Time) :
    Ok c { s with now, creditTimer := timer } :=
  ⟨ok.clock.trans later, ok.tokens_nonneg, ok.tokens_le, ok.credits, ok.data, ok.limit,
    fun x inside => (ok.times x inside).trans later⟩

def refilled (c : XPassDropTail) (s : State) (added : ℤ) : State :=
  { s with
    creditTimer := none
    tokens := min (s.tokens + added) c.maxTokens
    tokenBucketClock := s.tokenBucketClock + added / c.tokenRefreshRate }

theorem Ok.refilled (ok : Ok c s) (rate : 0 < c.tokenRefreshRate) {added : ℤ}
    (adds : Added c { s with creditTimer := none } added) :
    Ok c (refilled c s added) := by
  have most : 0 ≤ c.maxTokens := ok.tokens_nonneg.trans ok.tokens_le
  refine ⟨?_, le_min (add_nonneg ok.tokens_nonneg adds.nonneg) most, min_le_right _ _, ok.credits, ok.data,
    ok.limit, ok.times⟩
  have gained : (added : ℚ) / c.tokenRefreshRate ≤ s.now - s.tokenBucketClock := (div_le_iff₀' rate).mpr adds.le
  show s.tokenBucketClock + added / c.tokenRefreshRate ≤ s.now
  linarith

theorem Ok.sent {u : State} {out : Option Packet} (ok : Ok c u) (deq : Dequed c u out t) : Ok c (sent out t) := by
  have times : ∀ p, ∀ x ∈ u.left ++ [(u.now, p)], x.1 ≤ u.now := by
    intro p x inside
    rcases List.mem_append.mp inside with old | new
    · exact ok.times x old
    · rw [List.mem_singleton.mp new]
  cases deq with
  | credit p rest credits enough =>
    have credit : isCredit p = true := ok.credit (by rw [credits]; exact List.mem_cons_self)
    refine ⟨ok.clock, Int.sub_nonneg.mpr enough, ?_, ?_, ?_, Or.inr ?_, times p⟩
    · exact (sub_le_self _ (Int.natCast_nonneg _)).trans ok.tokens_le
    · have order := ok.credits
      rw [credits] at order
      simpa [XPassDropTail.sent, credit] using order
    · simpa [XPassDropTail.sent, credit] using ok.data
    · have within : byteLength (p :: rest) ≤ c.creditQLimit := by
        rcases ok.limit with none | within
        · rw [none] at credits
          cases credits
        · rwa [credits] at within
      have more : byteLength (p :: rest) = p.size + byteLength rest := by simp [byteLength]
      show byteLength rest ≤ c.creditQLimit
      omega
  | data p rest _ datas =>
    have plain : isCredit p = false := ok.plain (by rw [datas]; exact List.mem_cons_self)
    refine ⟨ok.clock, ok.tokens_nonneg, ok.tokens_le, ?_, ?_, ok.limit, times p⟩
    · simpa [XPassDropTail.sent, plain] using ok.credits
    · have order := ok.data
      rw [datas] at order
      simpa [XPassDropTail.sent, plain] using order
  | waits => exact ⟨ok.clock, ok.tokens_nonneg, ok.tokens_le, ok.credits, ok.data, ok.limit, ok.times⟩
  | empty => exact ⟨ok.clock, ok.tokens_nonneg, ok.tokens_le, ok.credits, ok.data, ok.limit, ok.times⟩

/-- Behind deque the credit timer runs exactly if the link stays free and a credit waits. -/
theorem Ok.settled {u : State} {out : Option Packet} (ok : Ok c u) (rate : 0 < c.tokenRefreshRate)
    (timer : u.creditTimer = none) (deq : Dequed c u out t) : Settled c (XPassDropTail.sent out t) := by
  cases deq with
  | credit p rest => exact .busy rfl timer
  | data p rest => exact .busy rfl timer
  | empty datas credits => exact .empty rfl datas credits timer
  | waits p rest datas credits short =>
    have wait : (0 : ℚ) ≤ (p.size - u.tokens : ℤ) / c.tokenRefreshRate :=
      div_nonneg (by exact_mod_cast (Int.sub_pos.mpr short).le) rate.le
    have full : ((p.size - u.tokens : ℤ) : ℚ) / c.tokenRefreshRate ≤ p.size / c.tokenRefreshRate := by
      apply div_le_div_of_nonneg_right _ rate.le
      exact_mod_cast sub_le_self _ ok.tokens_nonneg
    refine .waits p rest _ rfl datas credits rfl (le_add_of_nonneg_right wait) ?_ ?_
    · exact add_le_add_right full u.now
    · exact add_le_add_left ok.clock _

theorem creditsSince_append {x : Time × Packet} (start : Time) (left : t.left = s.left ++ [x]) :
    t.creditsSince start = s.creditsSince start + if isCredit x.2 ∧ start ≤ x.1 then (x.2.size : ℤ) else 0 := by
  unfold State.creditsSince
  rw [left, List.filter_append, List.map_append, List.sum_append, List.filter_singleton]
  by_cases counts : isCredit x.2 ∧ start ≤ x.1 <;> simp [counts]

theorem Ok.creditsSince (ok : Ok c s) (early : s.now < start) : s.creditsSince start = 0 := by
  have none : (s.left.filter fun x => isCredit x.2 ∧ start ≤ x.1) = [] := by
    apply List.filter_eq_nil_iff.mpr
    intro x inside counts
    have counted : start ≤ x.1 := (of_decide_eq_true counts).2
    exact absurd (counted.trans (ok.times x inside)) (not_le.mpr early)
  unfold State.creditsSince
  rw [none]
  rfl

theorem bucket_refilled (c : XPassDropTail) (s : State) (added : ℤ) :
    (refilled c s added).bucket start = (s.bucket start).refill c.rules added := by
  unfold State.bucket TokenBucket.refill refilled rules State.creditsSince
  push_cast
  rfl

theorem Dequed.bucket {u : State} {out : Option Packet} (ok : Ok c u) (deq : Dequed c u out t) (later : start ≤ u.now) :
    (sent out t).bucket start = u.bucket start ∨
      ∃ amount, (sent out t).bucket start = (u.bucket start).spend amount := by
  cases deq with
  | waits => exact Or.inl rfl
  | empty => exact Or.inl rfl
  | data p rest _ datas =>
    have plain : isCredit p = false := ok.plain (by rw [datas]; exact List.mem_cons_self)
    have same := creditsSince_append (s := u) (t := sent (some p) { u with dataQ := rest }) start rfl
    rw [if_neg (by simp [plain]), add_zero] at same
    refine Or.inl ?_
    unfold State.bucket
    rw [same]
    rfl
  | credit p rest credits =>
    have credit : isCredit p = true := ok.credit (by rw [credits]; exact List.mem_cons_self)
    have more := creditsSince_append (s := u)
      (t := sent (some p) { u with creditQ := rest, tokens := u.tokens - p.size }) start rfl
    rw [if_pos ⟨credit, later⟩] at more
    refine Or.inr ⟨p.size, ?_⟩
    unfold State.bucket TokenBucket.spend
    rw [more]
    simp [sent]

inductive Call (c : XPassDropTail) (s : State) : State → Prop
  | mk (added : ℤ) (out : Option Packet) (t : State) : Added c { s with creditTimer := none } added →
      Dequed c (refilled c s added) out t → Call c s (sent out t)

theorem Ok.calls (ok : Ok c s) (rate : 0 < c.tokenRefreshRate) :
    (s.blocked = false → ∃ t, c.sendNext s = .ok t ∧ Call c s t) ∧ (s.blocked = true → ∃ t, c.resume s = .ok t ∧
    Call c s t) := by
  obtain ⟨added, adds⟩ := updated (s := { s with creditTimer := none }) rate ok.clock ok.tokens_le
  obtain ⟨out, t, run, deq⟩ := dequed c (s := s) adds.same
  exact ⟨fun free => ⟨_, sendNext_eq (u := XPassDropTail.refilled c s added) free run deq, .mk added out t adds deq⟩,
    fun busy => ⟨_, resume_eq (u := XPassDropTail.refilled c s added) busy run deq, .mk added out t adds deq⟩⟩

theorem Call.keeps (call : Call c s t) (ok : Ok c s) (rate : 0 < c.tokenRefreshRate) : Ok c t ∧ Settled c t ∧
    t.now = s.now := by
  cases call with
  | mk added out t' adds deq =>
    have refilled : Ok c (refilled c s added) := ok.refilled rate adds
    refine ⟨refilled.sent deq, refilled.settled rate rfl deq, ?_⟩
    cases deq <;> rfl

theorem Call.bounds (call : Call c s t) (ok : Ok c s) (rate : 0 < c.tokenRefreshRate) (later : start ≤ s.now) :
    (∀ bound, (s.bucket start).Bounded c.rules bound → (t.bucket start).Bounded c.rules bound) ∧
      (s.now - s.tokenBucketClock ≤ 0.1 → (s.bucket start).Windowed c.rules start 0 1 →
        (t.bucket start).Windowed c.rules start 0 1) := by
  cases call with
  | mk added out t' adds deq =>
    have spends := deq.bucket (ok.refilled rate adds) later
    have full : ((s.bucket start).refill c.rules added).tokens ≤ c.rules.burst := min_le_right _ _
    rw [bucket_refilled] at spends
    refine ⟨fun bound bounded => ?_, fun soon windowed => ?_⟩
    · rcases spends with same | ⟨amount, same⟩
      · rw [same]
        exact bounded.refill rate added
      · rw [same]
        exact (bounded.refill rate added).spend amount
    · rcases spends with same | ⟨amount, same⟩
      · rw [same]
        exact windowed.refill rate added
      · rw [same]
        apply (windowed.refill rate added).spend rate later full
        rw [TokenBucket.refill_behind rate]
        exact adds.prompt soon

/-- A packet that comes is put behind its queue, or is a credit and dropped. -/
inductive Enqued (c : XPassDropTail) (s : State) (p : Packet) : State → Prop
  | credit : isCredit p = true → byteLength (s.creditQ ++ [p]) ≤ c.creditQLimit →
      Enqued c s p { s with creditQ := s.creditQ ++ [p], entered := s.entered ++ [p] }
  | dropped : isCredit p = true → c.creditQLimit < byteLength (s.creditQ ++ [p]) →
      Enqued c s p { s with dropped := s.dropped ++ [p] }
  | data : isCredit p = false → byteLength (s.dataQ ++ [p]) ≤ c.dataQLimit →
      Enqued c s p { s with dataQ := s.dataQ ++ [p], entered := s.entered ++ [p] }

theorem enqued (run : c.enque s p = .ok t) : Enqued c s p t := by
  unfold enque at run
  split at run
  · next credit =>
    have credit : isCredit p = true := by simp [isCredit, credit]
    split at run
    · next over_ =>
      rw [← (Lib.pure_eq_ok _ _).mp run]
      exact .dropped credit over_
    · next room =>
      rw [← (Lib.pure_eq_ok _ _).mp run]
      exact .credit credit (not_lt.mp room)
  · next plain =>
    simp only [assert, Lib.bind_eq_ok, Lib.require_eq_ok, Lib.pure_eq_ok] at run
    obtain ⟨-, room, rfl⟩ := run
    exact .data (by simpa [isCredit] using plain) room

theorem Enqued.keeps (enq : Enqued c s p t) (ok : Ok c s) : Ok c t := by
  cases enq with
  | credit credit room =>
    refine ⟨ok.clock, ok.tokens_nonneg, ok.tokens_le, ?_, ?_, Or.inr room, ok.times⟩
    · simp [credit, ok.credits]
    · simp [credit, ok.data]
  | dropped => exact ⟨ok.clock, ok.tokens_nonneg, ok.tokens_le, ok.credits, ok.data, ok.limit, ok.times⟩
  | data plain =>
    refine ⟨ok.clock, ok.tokens_nonneg, ok.tokens_le, ?_, ?_, ok.limit, ok.times⟩
    · simp [plain, ok.credits]
    · simp [plain, ok.data]

theorem Enqued.frame (enq : Enqued c s p t) : t.now = s.now ∧ t.blocked = s.blocked ∧ t.creditTimer = s.creditTimer ∧
    t.tokenBucketClock = s.tokenBucketClock ∧ t.bucket start = s.bucket start := by
  cases enq <;> exact ⟨rfl, rfl, rfl, rfl, rfl⟩

/-- One event: time goes on, a packet may be put behind its queue, and deque may be called. -/
inductive Moved (c : XPassDropTail) (s : State) (e : Event) : State → Prop
  | still (now : Time) (t : State) : e.time s = some now → s.now ≤ now → ¬ e.Deques s → t.blocked = true →
      t.creditTimer = none → Ok c t → t.now = now → (∀ start, t.bucket start = (s.bucket start).wait now) →
        Moved c s e t
  | call (now : Time) (u t : State) : e.time s = some now → s.now ≤ now → e.Deques s → Ok c u → u.now = now →
      u.tokenBucketClock = s.tokenBucketClock → (∀ start, u.bucket start = (s.bucket start).wait now) →
        Call c u t → Moved c s e t

theorem moved (rate : 0 < c.tokenRefreshRate) (ok : Ok c s) (settled : Settled c s) {e : Event} (step : Step c s e t) :
    Moved c s e t := by
  obtain ⟨now, time, ⟨later, -⟩, run⟩ := step
  cases e with
  | recv at_ p =>
    cases time
    simp only [fire, XPassDropTail.recv, Lib.bind_eq_ok] at run
    obtain ⟨u, enq, run⟩ := run
    have enq := enqued enq
    have waited : Ok c { s with now } := ok.wait later s.creditTimer
    obtain ⟨now_, same, timer, clock, -⟩ := (enq.frame : _ ∧ _ ∧ _ ∧ _ ∧ u.bucket 0 = _)
    have buckets : ∀ start, u.bucket start = (s.bucket start).wait now := fun start => enq.frame.2.2.2.2
    split at run
    · next busy =>
      cases (Lib.pure_eq_ok _ _).mp run
      have blocked : s.blocked = true := same.symm.trans busy
      have idle : s.creditTimer = none := by
        cases settled with
        | busy _ timer => exact timer
        | empty free => simp [free] at blocked
        | waits _ _ _ free => simp [free] at blocked
      exact .still now t rfl later (by simp [Event.Deques, blocked]) busy (timer.trans idle)
        (enq.keeps waited) now_ buckets
    · next free =>
      have free : u.blocked = false := by simpa using free
      obtain ⟨t', sends, call⟩ := ((enq.keeps waited).calls rate).1 free
      cases run.symm.trans sends
      exact .call now u t rfl later (same.symm.trans free) (enq.keeps waited) now_ clock buckets call
  | resume at_ =>
    have waited : Ok c { s with now } := ok.wait later s.creditTimer
    have busy : s.blocked = true := by
      by_contra free
      simp [Event.time, free] at time
    obtain ⟨t', sends, call⟩ := (waited.calls rate).2 busy
    cases run.symm.trans sends
    exact .call now _ t time later trivial waited rfl rfl (fun _ => rfl) call
  | expire =>
    have waited : Ok c { s with now, creditTimer := none } := ok.wait later none
    have free : s.blocked = false := by
      cases settled with
      | busy _ idle => rw [Event.time, idle] at time; cases time
      | empty free => exact free
      | waits _ _ _ free => exact free
    obtain ⟨t', sends, call⟩ := (waited.calls rate).1 free
    have open_ : ¬ ({ s with now, creditTimer := none } : State).blocked = true := by simp [free]
    unfold fire XPassDropTail.expire at run
    rw [if_neg open_] at run
    cases run.symm.trans sends
    exact .call now _ t time later free waited rfl rfl (fun _ => rfl) call

/-! ### Whole runs -/

structure Good (c : XPassDropTail) (s : State) : Prop where
  ok : Ok c s
  settled : Settled c s
  begun : 0 ≤ s.now
  bounded : (s.bucket 0).Bounded c.rules 0

theorem Good.first (most : 0 ≤ c.maxTokens) : Good c {} :=
  ⟨⟨le_rfl, le_rfl, most, rfl, rfl, Or.inl rfl, by simp⟩, .empty rfl rfl rfl rfl, le_rfl,
    by simp [TokenBucket.Bounded, TokenBucket.level, TokenBucket.behind, State.bucket, State.creditsSince]⟩

theorem Good.step (good : Good c s) (rate : 0 < c.tokenRefreshRate) {e : Event} (step : Step c s e t) : Good c t := by
  cases moved rate good.ok good.settled step with
  | still now _ _ later _ busy idle ok now_ bucket =>
    refine ⟨ok, .busy busy idle, ?_, ?_⟩
    · rw [now_]
      exact good.begun.trans later
    · rw [bucket]
      exact good.bounded.wait now
  | call now u _ _ later _ ok now_ _ bucket call =>
    have began : 0 ≤ u.now := by
      rw [now_]
      exact good.begun.trans later
    obtain ⟨ok', settled, same⟩ := call.keeps ok rate
    refine ⟨ok', settled, ?_, ?_⟩
    · rw [same]
      exact began
    · apply (call.bounds ok rate began).1
      rw [bucket]
      exact good.bounded.wait now

theorem Good.windowed (good : Good c s) (rate : 0 < c.tokenRefreshRate) {e : Event} (prompt : Prompt s e)
    (before : (s.bucket start).Windowed c.rules start 0 1) (step : Step c s e t) :
    (t.bucket start).Windowed c.rules start 0 1 := by
  cases moved rate good.ok good.settled step with
  | still now _ _ _ _ _ _ _ _ bucket =>
    rw [bucket]
    exact before.wait now
  | call now u _ time later deques ok now_ clock bucket call =>
    rcases lt_or_ge u.now start with early | later
    · -- the window has not begun
      obtain ⟨ok', -, same⟩ := call.keeps ok rate
      refine Or.inl ?_
      show ((t.creditsSince start : ℤ) : ℚ) = 0
      rw [ok'.creditsSince (by rwa [same]), Int.cast_zero]
    · apply (call.bounds ok rate later).2
      · rw [now_, clock]
        exact prompt deques now time
      · rw [bucket]
        exact before.wait now

theorem good_of_run (rate : 0 < c.tokenRefreshRate) (most : 0 ≤ c.maxTokens) {trace : List (State × Event)}
    (run : Lib.Run (Step c) {} trace s) : Good c s :=
  run.keeps (Good c) (.first most) fun _ _ _ good step => good.step rate step

/-- Over a whole run no more credit leaves than the rate allows since the beginning. If
the bucket is always looked at in time, then in every window no more than the rate allows
in it, one full bucket, and less than one token. -/
theorem credits_throttled (rate : 0 < c.tokenRefreshRate) (most : 0 ≤ c.maxTokens) {trace : List (State × Event)}
    (run : Lib.Run (Step c) {} trace s) :
    (s.creditsSince 0 : ℚ) ≤ c.tokenRefreshRate * s.now ∧
      ((∀ x ∈ trace, Prompt x.1 x.2) → ∀ start ≤ s.now,
        (s.creditsSince start : ℚ) ≤ c.maxTokens + 1 + c.tokenRefreshRate * (s.now - start)) := by
  have good := good_of_run rate most run
  have tokens : ∀ start, 0 ≤ (s.bucket start).tokens := fun _ => Int.cast_nonneg good.ok.tokens_nonneg
  have behind : ∀ start, 0 ≤ (s.bucket start).behind c.rules :=
    fun _ => mul_nonneg rate.le (sub_nonneg.mpr good.ok.clock)
  constructor
  · have spent := good.bounded.spent_le (tokens 0) (behind 0)
    rwa [zero_add] at spent
  · intro prompt start later
    have first : (State.bucket {} start).Windowed c.rules start 0 1 :=
      Or.inl (by simp [State.bucket, State.creditsSince])
    have kept : Good c s ∧ (s.bucket start).Windowed c.rules start 0 1 :=
      run.keeps_if (fun s => Good c s ∧ (s.bucket start).Windowed c.rules start 0 1) Prompt prompt ⟨.first most, first⟩
        fun _ _ _ before prompt step => ⟨before.1.step rate step, before.1.windowed rate prompt before.2 step⟩
    have room : 0 ≤ c.rules.burst + 1 := add_nonneg (Int.cast_nonneg most) zero_le_one
    have bound := kept.2.spent_le rate later (tokens start) (behind start) room
    rwa [sub_zero] at bound

def slow : XPassDropTail := ⟨672, 153800, 168, 1000⟩

def credit : Packet := { ptype := .credit, size := 84 }

/-- The first credit waits for its tokens. -/
theorem credits_throttled_slow : ∃ s : State, s.left = [(0.084, credit)] ∧
    (s.creditsSince 0 : ℚ) ≤ slow.maxTokens + 1 + slow.tokenRefreshRate * (s.now - 0) := by
  have sent : (Lib.Run.exec (move slow) {} [.recv 0 credit, .expire]).any
      (fun out => out.2.left = [(0.084, credit)] ∧ out.2.now = 0.084 ∧
        ∀ x ∈ out.1, (∀ now ∈ x.2.time x.1, now - x.1.tokenBucketClock ≤ 0.1)) = true := by
    decide +kernel
  obtain ⟨⟨trace, s⟩, run, met⟩ := (Option.any_eq_true _ _).mp sent
  obtain ⟨left, now, soon⟩ := of_decide_eq_true met
  have later : 0 ≤ s.now := by
    rw [now]
    norm_num
  exact ⟨s, left, (credits_throttled (by decide +kernel) (by decide) (Lib.Run.of_exec (move_step slow) run)).2
    (fun x inside _ => soon x inside) 0 later⟩

/-- Behind the tokens for a credit, an update of the bucket finds them if they fit into it. -/
theorem Added.affords {added : ℤ} (adds : Added c s added) (rate : 0 < c.tokenRefreshRate) (tokens : 0 ≤ s.tokens)
    (affords : Affords c s p s.now) (small : (p.size : ℚ) ≤ 0.1 * c.tokenRefreshRate) :
    (p.size : ℤ) ≤ min (s.tokens + added) c.maxTokens ↔ (p.size : ℤ) ≤ c.maxTokens := by
  have gap : ((p.size - s.tokens : ℤ) : ℚ) ≤ (s.now - s.tokenBucketClock) * c.tokenRefreshRate := by
    apply (div_le_iff₀ rate).mp
    have due : s.tokenBucketClock + ((p.size - s.tokens : ℤ) : ℚ) / c.tokenRefreshRate ≤ s.now := affords
    linarith
  have cap : ((p.size - s.tokens : ℤ) : ℚ) ≤ 0.1 * c.tokenRefreshRate := by
    have most : ((p.size - s.tokens : ℤ) : ℚ) ≤ p.size := by exact_mod_cast sub_le_self _ tokens
    exact most.trans small
  have whole : (p.size : ℤ) - s.tokens ≤ added := by
    apply adds.all
    rw [min_mul_of_nonneg _ _ rate.le]
    exact le_min gap cap
  rw [le_min_iff]
  exact ⟨And.right, fun fits => ⟨by linarith, fits⟩⟩

/-- In every run each queue sends its own packets in their order, and the credits stay
within their limit. While the link is free no data waits, and a credit waits for the
timer, which is due before the time of all its tokens: if that is a tenth of a second at
most, the credit leaves then exactly if it fits into the bucket. -/
theorem credit_released (rate : 0 < c.tokenRefreshRate) (most : 0 ≤ c.maxTokens) {trace : List (State × Event)}
    (run : Lib.Run (Step c) {} trace s) :
    (s.entered.filter isCredit = (s.left.map Prod.snd).filter isCredit ++ s.creditQ ∧
      s.entered.filter (!isCredit ·) = (s.left.map Prod.snd).filter (!isCredit ·) ++ s.dataQ ∧
      (s.creditQ = [] ∨ byteLength s.creditQ ≤ c.creditQLimit)) ∧
      (s.blocked = false → s.dataQ = [] ∧ ∀ p rest, s.creditQ = p :: rest → (p.size : ℚ) ≤ 0.1 * c.tokenRefreshRate →
        ∃ due t, s.creditTimer = some due ∧ due ≤ s.now + p.size / c.tokenRefreshRate ∧ Step c s .expire t ∧
          (t.left = s.left ++ [(due, p)] ↔ (p.size : ℤ) ≤ c.maxTokens)) := by
  have good := good_of_run rate most run
  refine ⟨⟨good.ok.credits, good.ok.data, good.ok.limit⟩, fun free => ?_⟩
  cases good.settled with
  | busy busy =>
    rw [free] at busy
    cases busy
  | empty _ datas credits => exact ⟨datas, fun p rest waits => by rw [credits] at waits; cases waits⟩
  | waits p rest due _ datas credits timer later soon affords =>
    refine ⟨datas, fun q more waits small => ?_⟩
    obtain ⟨rfl, rfl⟩ := List.cons.inj (credits.symm.trans waits)
    have waited : Ok c { s with now := due, creditTimer := none } := good.ok.wait later none
    obtain ⟨t, sends, call⟩ := (waited.calls rate).1 free
    have open_ : ¬ ({ s with now := due, creditTimer := none } : State).blocked = true := by simp [free]
    have fires : c.fire s due .expire = .ok t := by
      unfold fire XPassDropTail.expire
      rw [if_neg open_]
      exact sends
    refine ⟨due, t, timer, soon, ⟨due, timer, ⟨later, fun other same => ?_⟩, fires⟩, ?_⟩
    · rw [timer] at same
      cases same
      exact le_rfl
    · cases call with
      | mk added out u adds deq =>
        rw [← adds.affords rate good.ok.tokens_nonneg affords small]
        cases deq with
        | credit q _ first enough =>
          obtain ⟨rfl, -⟩ := List.cons.inj (credits.symm.trans first)
          exact ⟨fun _ => enough, fun _ => rfl⟩
        | data q _ _ first =>
          rw [show s.dataQ = q :: _ from first] at datas
          cases datas
        | waits q _ _ first short =>
          obtain ⟨rfl, -⟩ := List.cons.inj (credits.symm.trans first)
          refine iff_of_false (fun same => ?_) (not_le.mpr short)
          have length := congrArg List.length (show s.left = s.left ++ _ from same)
          simp at length
        | empty _ none =>
          rw [show s.creditQ = [] from none] at credits
          cases credits

theorem credit_released_slow : ∃ s t : State, s.creditQ = [credit] ∧ s.left = [] ∧ Step slow s .expire t ∧
    ∃ due, t.left = [(due, credit)] := by
  have waits : (Lib.Run.exec (move slow) {} [.recv 0 credit]).any
      (fun out => out.2.creditQ = [credit] ∧ out.2.left = [] ∧ out.2.blocked = false) = true := by
    decide +kernel
  obtain ⟨⟨trace, s⟩, run, met⟩ := (Option.any_eq_true _ _).mp waits
  obtain ⟨waits, left, free⟩ := of_decide_eq_true met
  obtain ⟨-, -, released⟩ :=
    (credit_released (by decide +kernel) (by decide) (Lib.Run.of_exec (move_step slow) run)).imp_right
    fun released => released free
  obtain ⟨due, t, -, -, step, leaves⟩ := released credit [] waits (by decide +kernel)
  have gone := leaves.mpr (by decide)
  rw [left] at gone
  exact ⟨s, t, waits, left, step, due, gone⟩

/-! ### Behind a pause -/

/-- Of a queue that was not looked at for long, so many credits left at equal gaps. -/
structure Burst (c : XPassDropTail) (p : Packet) (first gap : Time) (k : ℕ) (s : State) : Prop where
  ok : Ok c s
  credits : s.creditQ = []
  idle : s.creditTimer = none
  blocked : s.blocked = decide (0 < k)
  clock : s.tokenBucketClock ≤ k * 0.1
  now : s.now ≤ first + k * gap
  left : s.left = (List.range k).map fun i : ℕ => (first + i * gap, p)

theorem Call.bursts (rate : 0 < c.tokenRefreshRate) (fits : (p.size : ℤ) ≤ c.maxTokens)
    (small : (p.size : ℚ) ≤ 0.1 * c.tokenRefreshRate) (ok : Ok c s) (waits : s.creditQ = [p])
    (behind : s.tokenBucketClock + 0.1 ≤ s.now) (call : Call c s t) :
    t.creditQ = [] ∧ t.blocked = true ∧ t.creditTimer = none ∧ t.tokenBucketClock ≤ s.tokenBucketClock + 0.1 ∧
      t.left = s.left ++ [(s.now, p)] := by
  cases call with
  | mk added out u adds deq =>
    have most : (p.size : ℤ) ≤ added := by
      apply adds.all
      have full : min (s.now - s.tokenBucketClock) 0.1 = 0.1 := min_eq_right (by linarith)
      show (p.size : ℚ) ≤ min (s.now - s.tokenBucketClock) 0.1 * c.tokenRefreshRate
      rw [full]
      exact small
    have enough : (p.size : ℤ) ≤ min (s.tokens + added) c.maxTokens := by
      have tokens := ok.tokens_nonneg
      exact le_min (by linarith) fits
    have moved : s.tokenBucketClock + added / c.tokenRefreshRate ≤ s.tokenBucketClock + 0.1 :=
      (add_le_add_iff_left _).mpr ((div_le_iff₀ rate).mpr adds.cap)
    cases deq with
    | credit q rest first =>
      obtain ⟨rfl, rfl⟩ := List.cons.inj (waits.symm.trans first)
      exact ⟨rfl, rfl, rfl, moved, rfl⟩
    | data _ _ short =>
      have head : p ∈ s.creditQ.head? := by rw [waits]; rfl
      have short : min (s.tokens + added) c.maxTokens < p.size := short p head
      exact absurd enough (not_le.mpr short)
    | waits q rest _ first short =>
      obtain ⟨rfl, -⟩ := List.cons.inj (waits.symm.trans first)
      exact absurd enough (not_le.mpr short)
    | empty _ none =>
      rw [show s.creditQ = [] from none] at waits
      cases waits

variable {first gap : Time} {k : ℕ}

theorem enque_credit (credit : isCredit p = true) (room : (p.size : ℤ) ≤ c.creditQLimit) (empty : s.creditQ = []) :
    c.enque s p = .ok { s with creditQ := [p], entered := s.entered ++ [p] } := by
  have credit : p.ptype = .credit := by simpa [isCredit] using credit
  have within : ¬ c.creditQLimit < byteLength (s.creditQ ++ [p]) := by simpa [empty, byteLength] using room
  unfold enque
  rw [if_pos credit, if_neg within, empty]
  rfl

theorem fire_recv (time : Time) : c.fire s now (.recv time p) =
    (c.enque { s with now } p >>= fun s => if s.blocked then pure s else c.sendNext s) := rfl

/-- The next credit leaves when it comes: at first at once, then when the link asks for it. -/
theorem Burst.next (burst : Burst c p first gap k s) (rate : 0 < c.tokenRefreshRate) (credit : isCredit p = true)
    (fits : (p.size : ℤ) ≤ c.maxTokens) (small : (p.size : ℚ) ≤ 0.1 * c.tokenRefreshRate)
    (room : (p.size : ℤ) ≤ c.creditQLimit) (nonneg : 0 ≤ gap) (idle : (k + 1 : ℕ) * 0.1 ≤ first)
    {trace : List (State × Event)} (run : Lib.Run (Step c) {} trace s) :
    ∃ trace' t, Lib.Run (Step c) {} trace' t ∧ Burst c p first gap (k + 1) t := by
  have waited : Ok c { s with now := first + k * gap } := burst.ok.wait burst.now s.creditTimer
  have enq := enque_credit (s := { s with now := first + k * gap }) credit room burst.credits
  have ok := (enqued enq).keeps waited
  have due : s.Due (first + k * gap) := ⟨burst.now, fun due timer => by rw [burst.idle] at timer; cases timer⟩
  have behind : s.tokenBucketClock + 0.1 ≤ first + k * gap := by
    have clock := burst.clock
    have later : 0 ≤ k * gap := mul_nonneg (Nat.cast_nonneg k) nonneg
    push_cast at idle
    linarith
  -- what a call leaves is the next burst
  have bursts : ∀ t, Call c { s with now := first + k * gap, creditQ := [p], entered := s.entered ++ [p] } t →
      Burst c p first gap (k + 1) t := by
    intro t call
    obtain ⟨credits, blocked, timer, clock, left⟩ := call.bursts rate fits small ok rfl behind
    obtain ⟨ok', -, now⟩ := call.keeps ok rate
    have clocks := burst.clock
    refine ⟨ok', credits, timer, by simp [blocked], clock.trans ?_, ?_, ?_⟩
    · push_cast
      show s.tokenBucketClock + 0.1 ≤ _
      linarith
    · rw [now]
      push_cast
      show first + k * gap ≤ _
      linarith
    · have one_more : (List.range (k + 1)).map (fun i : ℕ => (first + i * gap, p)) =
          (List.range k).map (fun i : ℕ => (first + i * gap, p)) ++ [(first + k * gap, p)] := by
        rw [List.range_succ, List.map_append]
        rfl
      exact left.trans ((congrArg (· ++ [(first + k * gap, p)]) burst.left).trans one_more.symm)
  rcases Nat.eq_zero_or_pos k with zero | more
  · have free : s.blocked = false := by simp [burst.blocked, zero]
    obtain ⟨t, sends, call⟩ := (ok.calls rate).1 free
    refine ⟨_, t, run.next (.recv (first + k * gap) p) ⟨_, rfl, due, ?_⟩, bursts t call⟩
    rw [fire_recv, enq, Lib.ok_bind, if_neg (by simp [free])]
    exact sends
  · have busy : s.blocked = true := by simp [burst.blocked, more]
    obtain ⟨t, sends, call⟩ := (ok.calls rate).2 busy
    have comes : Step c s (.recv (first + k * gap) p)
        { s with now := first + k * gap, creditQ := [p], entered := s.entered ++ [p] } := by
      refine ⟨_, rfl, due, ?_⟩
      rw [fire_recv, enq, Lib.ok_bind, if_pos (by simp [busy])]
      rfl
    have resumes : Step c { s with now := first + k * gap, creditQ := [p], entered := s.entered ++ [p] }
        (.resume (first + k * gap)) t :=
      ⟨first + k * gap, by simp [Event.time, busy], ⟨le_rfl, due.2⟩, sends⟩
    exact ⟨_, t, (run.next _ comes).next _ resumes, bursts t call⟩

/-- Behind a pause the rate does not hold: with a tenth of a second of pause for each, any
number of credits leave as close behind each other as they come. -/
theorem burst_behind_pause (rate : 0 < c.tokenRefreshRate) (credit : isCredit p = true)
    (fits : (p.size : ℤ) ≤ c.maxTokens)
    (small : (p.size : ℚ) ≤ 0.1 * c.tokenRefreshRate) (room : (p.size : ℤ) ≤ c.creditQLimit)
    (nonneg : 0 ≤ gap) (n : ℕ) :
    ∃ trace s, Lib.Run (Step c) {} trace s ∧
      s.left = (List.range n).map fun i : ℕ => ((n * 0.1 + i * gap : Time), p) := by
  have bursts : ∀ k ≤ n, ∃ trace s, Lib.Run (Step c) {} trace s ∧ Burst c p (n * 0.1) gap k s := by
    intro k
    -- every credit uses up a tenth of a second of the pause
    induction k with
    | zero =>
      intro _
      have most : 0 ≤ c.maxTokens := (Int.natCast_nonneg _).trans fits
      have pause : (0 : ℚ) ≤ n * 0.1 + (0 : ℕ) * gap := by
        rw [Nat.cast_zero, zero_mul, add_zero]
        exact mul_nonneg (Nat.cast_nonneg n) (by norm_num)
      exact ⟨[], {}, .start, (Good.first most).ok, rfl, rfl, rfl, by simp, pause, rfl⟩
    | succ k ih =>
      intro within
      obtain ⟨trace, s, run, burst⟩ := ih (Nat.le_of_succ_le within)
      have idle : ((k + 1 : ℕ) : ℚ) * 0.1 ≤ n * 0.1 := by
        apply mul_le_mul_of_nonneg_right _ (by norm_num)
        exact_mod_cast within
      exact burst.next rate credit fits small room nonneg idle run
  obtain ⟨trace, s, run, burst⟩ := bursts n le_rfl
  exact ⟨trace, s, run, burst.left⟩

/-- A hundred credits in one moment: a second of the rate. -/
theorem burst_behind_pause_slow : ∃ trace s, Lib.Run (Step slow) {} trace s ∧
    s.left = (List.range 100).map fun i : ℕ => ((100 * 0.1 + i * 0 : Time), credit) :=
  burst_behind_pause (by decide +kernel) rfl (by decide) (by decide +kernel) (by decide) le_rfl 100

end PhantomPass.Xpass.XPassDropTail
