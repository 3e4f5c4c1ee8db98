import Mathlib
import PhantomPass.Truncation
import PhantomPass.Xpass.Safety

/-! How many credits an agent sends in any part of a run: one for each request that
arrives, and else no more than its largest rate allows. -/

set_option autoImplicit false

namespace PhantomPass.Xpass

open Lib (Ensures)

/-- Rates that fit: a share of the largest one to begin with, and a jitter of less than the gap. -/
structure Params.Paced (x : Params) : Prop where
  alpha : 0 ≤ x.alpha ∧ x.alpha ≤ 1
  positive : 0 < x.maxCreditRate
  jitter : -1 ≤ x.minJitter

def Params.gap (x : Params) : ℚ := x.avgCreditSize / x.maxCreditRate * (1 + min x.minJitter 0)

theorem Params.avgCreditSize_nonneg (x : Params) : 0 ≤ x.avgCreditSize := by
  unfold avgCreditSize
  positivity

namespace XPassAgent

variable {x : Params} {a : XPassAgent} {now : Time} {draw : Draw} {pkt : Packet} {out : Outcome}

/-- The least rate, a credit in each RTT, is not above the largest. -/
def Floored (x : Params) (a : XPassAgent) : Prop := 0 < a.rtt → truncInt (x.avgCreditSize / a.rtt) ≤ x.maxCreditRate

instance (x : Params) (a : XPassAgent) : Decidable (Floored x a) := inferInstanceAs (Decidable (_ → _))

theorem clampRate_le (floored : Floored x a) (rtt : 0 < a.rtt) (rate : ℤ) : a.clampRate x rate ≤ x.maxCreditRate := by
  unfold clampRate
  dsimp only
  have least := floored rtt
  split_ifs <;> omega

theorem creditFeedbackControl_le (floored : Floored x a) (rate : a.curCreditRate ≤ x.maxCreditRate) :
    (a.creditFeedbackControl x now).curCreditRate ≤ x.maxCreditRate := by
  unfold creditFeedbackControl
  split
  · exact rate
  · next rtt =>
    split
    · exact rate
    · split
      · exact rate
      · exact clampRate_le floored (not_le.mp rtt) _

theorem gap_le_delay (paced : x.Paced) (positive : 0 < a.curCreditRate) (rate : a.curCreditRate ≤ x.maxCreditRate)
    {delay : ℚ} (run : a.creditDelay x draw = .ok delay) : x.gap ≤ delay := by
  have cur : (0 : ℚ) < a.curCreditRate := by exact_mod_cast positive
  have most : (a.curCreditRate : ℚ) ≤ x.maxCreditRate := by exact_mod_cast rate
  have size := x.avgCreditSize_nonneg
  have slower : x.avgCreditSize / x.maxCreditRate ≤ x.avgCreditSize / a.curCreditRate :=
    div_le_div_of_nonneg_left size cur most
  have gap : 0 ≤ x.avgCreditSize / x.maxCreditRate := div_nonneg size (cur.le.trans most)
  have low : min x.minJitter 0 ≤ x.minJitter := min_le_left _ _
  have nonneg : 0 ≤ 1 + min x.minJitter 0 := by
    have jitter : -1 ≤ min x.minJitter 0 := le_min paced.jitter (by norm_num)
    linarith
  unfold creditDelay at run
  dsimp only at run
  unfold Params.gap
  split at run
  · next wider =>
    rw [Lib.pure_eq_ok] at run
    rw [← run]
    have drawn : 0 ≤ (draw.jitter : ℚ) / 2147483647 * (x.maxJitter - x.minJitter) :=
      mul_nonneg (by positivity) (sub_nonneg.mpr wider.le)
    have factor : 1 + min x.minJitter 0 ≤
      1 + ((draw.jitter : ℚ) / 2147483647 * (x.maxJitter - x.minJitter) + x.minJitter) := by
      linarith
    exact mul_le_mul slower factor nonneg (gap.trans slower)
  · simp only [Lib.bind_eq_ok, Lib.pure_eq_ok] at run
    obtain ⟨-, -, rfl⟩ := run
    have zero : min x.minJitter 0 ≤ 0 := min_le_right _ _
    calc x.avgCreditSize / x.maxCreditRate * (1 + min x.minJitter 0)
        ≤ x.avgCreditSize / x.maxCreditRate * 1 := mul_le_mul_of_nonneg_left (by linarith) gap
      _ ≤ x.avgCreditSize / a.curCreditRate := by rw [mul_one]; exact slower

/-- A credit goes out below the largest rate, and the next one a gap later. -/
structure Paces (x : Params) (now : Time) (a : XPassAgent) (out : Outcome) : Prop where
  rate : out.agent.curCreditRate ≤ x.maxCreditRate
  next : ∃ due ∈ out.agent.sendCreditTimer, now + x.gap ≤ due
  counted : out.agent.cSeqno = max 1 (a.cSeqno + 1)

theorem sendCredit_paces (paced : x.Paced) (below : (a.creditFeedbackControl x now).curCreditRate ≤ x.maxCreditRate)
    (run : a.sendCredit x now draw = .ok out) : Paces x now a out := by
  have same := (creditFeedbackControl_same a x now).2.cSeqno
  unfold sendCredit constructCredit at run
  simp only [bind_assoc, pure_bind, Lib.bind_eq_ok, Lib.pure_eq_ok, assert, Lib.require_eq_ok] at run
  obtain ⟨-, -, -, positive, delay, wait, rfl⟩ := run
  have gap := gap_le_delay paced positive below wait
  exact ⟨below, ⟨_, rfl, by simpa using gap⟩, by rw [same]⟩

theorem creditFeedbackControl_fresh (fresh : a.lastCreditRateUpdate = now) : a.creditFeedbackControl x now = a := by
  unfold creditFeedbackControl
  rw [fresh, sub_self]
  split
  · rfl
  · next rtt => rw [if_pos (not_le.mp rtt)]

theorem share_le (paced : x.Paced) (buffered : ℤ) :
    truncInt ((if 40 ≤ buffered then x.alpha else x.alpha * buffered / 40) * x.maxCreditRate) ≤ x.maxCreditRate := by
  have share : (if 40 ≤ buffered then x.alpha else x.alpha * buffered / 40) ≤ 1 := by
    split
    · exact paced.alpha.2
    · next few =>
      have few : (buffered : ℚ) ≤ 40 := by exact_mod_cast (not_le.mp few).le
      have product := mul_le_mul_of_nonneg_left few paced.alpha.1
      have alpha := paced.alpha.2
      rw [div_le_one (by norm_num)]
      linarith
  have most : (0 : ℚ) ≤ x.maxCreditRate := by exact_mod_cast paced.positive.le
  have bound := truncInt_mono ((mul_le_mul_of_nonneg_right share most).trans (one_mul _).le)
  rwa [truncInt_intCast] at bound

theorem recvCreditRequest_paces (paced : x.Paced) (run : a.recvCreditRequest x now draw pkt = .ok out) :
    Paces x now a out ∨ out.agent = a := by
  have begins : ∀ b : XPassAgent, b.cSeqno = a.cSeqno → b.lastCreditRateUpdate = now →
      b.curCreditRate ≤ x.maxCreditRate → ∀ out', b.sendCredit x now draw = .ok out' →
      Paces x now a { out' with agent := { out'.agent with creditSendState := .creditSending } } := by
    intro b counted fresh rate out' sends
    have paces := sendCredit_paces paced (by rwa [creditFeedbackControl_fresh fresh]) sends
    exact ⟨paces.rate, paces.next, counted ▸ paces.counted⟩
  unfold recvCreditRequest at run
  dsimp only at run
  split at run
  · rw [Lib.bind_eq_ok] at run
    obtain ⟨out', sends, same⟩ := run
    rw [← (Lib.pure_eq_ok _ _).mp same]
    refine Or.inl (begins _ ?_ ?_ ?_ out' sends)
    · rfl
    · rfl
    · exact share_le paced pkt.sendbuffer
  · rw [Lib.bind_eq_ok] at run
    obtain ⟨out', sends, same⟩ := run
    rw [← (Lib.pure_eq_ok _ _).mp same]
    refine Or.inl (begins _ ?_ ?_ ?_ out' sends)
    · rfl
    · rfl
    · exact share_le paced pkt.sendbuffer
  · rw [Lib.pure_eq_ok] at run
    exact Or.inr (by rw [← run])
  · rw [Lib.pure_eq_ok] at run
    exact Or.inr (by rw [← run])

/-- A call that sends no credit: the rate stays, and no credit is due that was not before. -/
structure Holds (a a' : XPassAgent) : Prop where
  rate : a'.curCreditRate = a.curCreditRate
  cSeqno : a'.cSeqno = a.cSeqno
  timer : a'.sendCreditTimer = a.sendCreditTimer ∨ a'.sendCreditTimer = none

def Any (_ : Fault) : Prop := True

theorem sendData_holds : Ensures Any (fun r => Holds a r.1) (a.sendData x pkt) := by
  unfold sendData constructData
  split
  · simp only [bind_assoc, pure_bind]
    exact .check (fun _ => trivial) fun _ => .check (fun _ => trivial) fun _ => .pure ⟨rfl, rfl, Or.inl rfl⟩
  · exact .pure ⟨rfl, rfl, Or.inl rfl⟩

theorem schedCreditStop_holds : Ensures Any (Holds a) (a.schedCreditStop now) := by
  unfold schedCreditStop
  split
  · exact .error trivial
  · exact .pure ⟨rfl, rfl, Or.inl rfl⟩

theorem Holds.trans {b c : XPassAgent} (first : Holds a b) (rest : Holds b c) : Holds a c := by
  refine ⟨rest.rate.trans first.rate, rest.cSeqno.trans first.cSeqno, ?_⟩
  rcases rest.timer with same | none
  · rw [same]
    exact first.timer
  · exact Or.inr none

theorem receiving_holds : Ensures Any (fun out => Holds a out.agent) (a.receiving x now pkt) := by
  unfold receiving
  refine Ensures.bind sendData_holds ?_
  rintro ⟨b, sent⟩ holds
  dsimp only
  split
  · exact Ensures.bind schedCreditStop_holds fun c later => .pure (holds.trans later)
  · split
    · split
      · refine Ensures.bind schedCreditStop_holds fun c later => .pure ?_
        exact holds.trans (later.trans ⟨rfl, rfl, Or.inl rfl⟩)
      · exact .pure (holds.trans ⟨rfl, rfl, Or.inl rfl⟩)
    · exact .pure holds

theorem recvCredit_holds : Ensures Any (fun out => Holds a out.agent) (a.recvCredit x now pkt) := by
  unfold recvCredit
  dsimp only
  split
  · exact receiving_holds.mono fun out later => ⟨later.rate, later.cSeqno, later.timer⟩
  · exact receiving_holds.mono fun out later => ⟨later.rate, later.cSeqno, later.timer⟩
  · refine Ensures.bind sendData_holds ?_
    rintro ⟨b, sent⟩ holds
    exact .pure ⟨holds.rate, holds.cSeqno, holds.timer⟩
  · exact .pure ⟨rfl, rfl, Or.inl rfl⟩
  · exact .pure ⟨rfl, rfl, Or.inl rfl⟩

theorem handleSenderRetransmit_holds : Ensures Any (fun out => Holds a out.agent) (a.handleSenderRetransmit x now) := by
  unfold handleSenderRetransmit handleSenderRetransmit.request
  split
  · exact .pure ⟨rfl, rfl, Or.inl rfl⟩
  · split
    · exact .pure ⟨rfl, rfl, Or.inl rfl⟩
    · exact .pure ⟨rfl, rfl, Or.inl rfl⟩
  · split
    · exact .pure ⟨rfl, rfl, Or.inl rfl⟩
    · exact .pure ⟨rfl, rfl, Or.inl rfl⟩
  · exact .error trivial
  · exact .pure ⟨rfl, rfl, Or.inl rfl⟩

theorem sched_any {timer : Option Time} {due : Time} : Ensures Any (fun _ => True) (sched timer due) := by
  unfold sched
  split
  · exact .error trivial
  · exact .pure trivial

theorem advanceBytes_holds {nb : ℤ} : Ensures Any (fun out => Holds a out.agent) (a.advanceBytes x now nb) := by
  unfold advanceBytes
  refine .check (fun _ => trivial) fun _ => .check (fun _ => trivial) fun _ => ?_
  exact Ensures.bind sched_any fun _ _ => .pure ⟨rfl, rfl, Or.inl rfl⟩

theorem advanceMsg_holds {nb : ℤ} {reqId : RequestIdTuple} : Ensures Any (fun out => Holds a out.agent)
    (a.advanceMsg x now nb reqId) := by
  refine .check (fun _ => trivial) fun _ => ?_
  exact advanceBytes_holds.mono fun out later => ⟨later.rate, later.cSeqno, later.timer⟩

theorem recvCreditStop_holds : Ensures Any (fun out => Holds a out.agent) (a.recvCreditStop x now) :=
  Ensures.bind sched_any fun _ _ => .pure ⟨rfl, rfl, Or.inr rfl⟩

theorem recvData_holds : Ensures Any (fun out => Holds a out.agent) (a.recvData x now pkt) := by
  unfold recvData processAck
  refine .check (fun _ => trivial) fun _ => Ensures.bind (?_ : Ensures _ (Holds a) _) fun b holds => .pure ?_
  swap
  · exact holds.trans ⟨rfl, rfl, Or.inl rfl⟩
  refine .check (fun _ => trivial) fun _ => ?_
  split
  · exact .error trivial
  · split
    · split
      · exact .pure ⟨rfl, rfl, Or.inl rfl⟩
      · exact .pure ⟨rfl, rfl, Or.inl rfl⟩
    · exact .pure ⟨rfl, rfl, Or.inl rfl⟩

theorem recv_paces (paced : x.Paced) (run : a.recv x now draw pkt = .ok out) :
    Holds a out.agent ∨ pkt.ptype = .creditRequest ∧ Paces x now a out := by
  unfold recv at run
  split at run
  · next kind =>
    rcases recvCreditRequest_paces paced run with paces | same
    · exact Or.inr ⟨kind, paces⟩
    · exact Or.inl (by rw [same]; exact ⟨rfl, rfl, Or.inl rfl⟩)
  · exact Or.inl (recvCredit_holds.1 out run)
  · exact Or.inl (recvData_holds.1 out run)
  · exact Or.inl (recvCreditStop_holds.1 out run)
  · cases run

end XPassAgent

namespace Net

open XPassAgent (Holds Paces)

variable {x : Params} {net net' start : Net} {e : Event} {side : Side} {asked : ℕ}

def Asks (side : Side) (net : Net) : Event → Prop
  | .deliver receiver _ => receiver = side ∧ ∃ p ∈ (net.toward receiver).head?, p.ptype = .creditRequest
  | _ => False

instance (side : Side) (net : Net) : (e : Event) → Decidable (Asks side net e)
  | .deliver receiver _ =>
    inferInstanceAs (Decidable (receiver = side ∧ ∃ p ∈ (net.toward receiver).head?, p.ptype = .creditRequest))
  | .advanceBytes _ _ | .advanceMsg _ _ _ | .deliverCredit _ | .lose _ _ | .sendCredit _ _ | .creditStop _
  | .senderRetransmit _ | .receiverRetransmit _ | .fct _ | .wait _ => inferInstanceAs (Decidable False)

def requests (side : Side) (trace : List (Net × Event)) : ℕ := trace.countP fun s => Asks side s.1 s.2

/-- A credit in each RTT stays within the largest rate when a credit is sent. -/
def Floored (x : Params) (net : Net) : Event → Prop
  | .sendCredit side _ => (net.agent side).Floored x
  | _ => True

/-- What holds behind the start of a part of a run, in which so many requests came. -/
structure Window (x : Params) (side : Side) (start : Net) (asked : ℕ) (net : Net) : Prop where
  rate : (net.agent side).curCreditRate ≤ x.maxCreditRate
  counted : 0 ≤ (net.agent side).cSeqno
  due : ∀ due ∈ (net.agent side).sendCreditTimer, net.now ≤ due ∧
    ((net.agent side).cSeqno - (start.agent side).cSeqno - asked) * x.gap ≤ due - start.now
  paced : ((net.agent side).cSeqno - (start.agent side).cSeqno - asked - 1) * x.gap ≤ net.now - start.now

theorem gap_nonneg (paced : x.Paced) : 0 ≤ x.gap := by
  have most : (0 : ℚ) ≤ x.maxCreditRate := by exact_mod_cast paced.positive.le
  have jitter : -1 ≤ min x.minJitter 0 := le_min paced.jitter (by norm_num)
  exact mul_nonneg (div_nonneg x.avgCreditSize_nonneg most) (by linarith)

theorem Window.opens (paced : x.Paced) (w : Window x side start asked net) : Window x side net 0 net := by
  refine ⟨w.rate, w.counted, fun due timer => ⟨(w.due due timer).1, ?_⟩, ?_⟩
  · simpa using (w.due due timer).1
  · simpa using gap_nonneg paced

theorem Window.holds (paced : x.Paced) (w : Window x side start asked net) (more : ℕ)
    (now : net'.now = net.now) (holds : Holds (net.agent side) (net'.agent side)) :
    Window x side start (asked + more) net' := by
  have fewer : (0 : ℚ) ≤ more * x.gap := mul_nonneg (Nat.cast_nonneg _) (gap_nonneg paced)
  refine ⟨holds.rate ▸ w.rate, holds.cSeqno ▸ w.counted, fun due timer => ?_, ?_⟩
  · rcases holds.timer with same | none
    · have before := w.due due (same ▸ timer)
      rw [now, holds.cSeqno]
      push_cast
      exact ⟨before.1, by linarith [before.2]⟩
    · rw [none] at timer
      cases timer
  · have before := w.paced
    rw [now, holds.cSeqno]
    push_cast
    linarith

theorem Window.paces (paced : x.Paced) (w : Window x side start asked net) {a : XPassAgent} {out : Outcome} {more : ℕ}
    (now : net'.now = net.now) (agent : net'.agent side = out.agent) (paces : Paces x net.now a out)
    (counted : a.cSeqno = (net.agent side).cSeqno)
    (earned : ((net.agent side).cSeqno - (start.agent side).cSeqno - (asked + more : ℕ)) * x.gap ≤
    net.now - start.now) :
    Window x side start (asked + more) net' := by
  have seqno : (net'.agent side).cSeqno = (net.agent side).cSeqno + 1 := by
    have lower := w.counted
    rw [agent, paces.counted, counted]
    omega
  have gap := gap_nonneg paced
  obtain ⟨next, timer, later⟩ := paces.next
  refine ⟨agent ▸ paces.rate, ?_, fun due inside => ?_, ?_⟩
  · have lower := w.counted
    omega
  · rw [agent] at inside
    have same : due = next := Option.some_injective _ (inside.symm.trans timer)
    rw [same, now, seqno]
    push_cast at earned ⊢
    exact ⟨by linarith, by linarith⟩
  · rw [now, seqno]
    push_cast at earned ⊢
    linarith

theorem absorb_agent (net : Net) (called : Side) (out : Outcome) (side : Side) :
    (net.absorb called out).agent side = if side = called then out.agent else net.agent side := by
  simp only [absorb, Function.update_apply]

theorem Window.calls (paced : x.Paced) (w : Window x side start asked net) (more : ℕ) {mid : Net} {called : Side}
    {out : Outcome}
    (now : mid.now = net.now) (agent : mid.agent = net.agent) (holds : Holds (net.agent called) out.agent) :
    Window x side start (asked + more) (mid.absorb called out) := by
  refine w.holds paced more now ?_
  rw [absorb_agent, agent]
  split
  · next same =>
    rw [same]
    exact holds
  · exact ⟨rfl, rfl, Or.inl rfl⟩

theorem Window.other (paced : x.Paced) (w : Window x side start asked net) (more : ℕ) {mid : Net} {called : Side}
    {out : Outcome} (now : mid.now = net.now) (agent : mid.agent = net.agent) (other : side ≠ called) :
    Window x side start (asked + more) (mid.absorb called out) := by
  refine w.holds paced more now ?_
  rw [absorb_agent, agent, if_neg other]
  exact ⟨rfl, rfl, Or.inl rfl⟩

theorem Window.step (paced : x.Paced) {sane : x.Sane} (good : Good sane net) (w : Window x side start asked net)
    (floored : net.Floored x e) (step : Step x net e net') :
    Window x side start (asked + if Asks side net e then 1 else 0) net' := by
  obtain ⟨enabled, fires⟩ := step
  cases e with
  | advanceBytes called nb =>
    obtain ⟨out, run, rest⟩ := (Lib.bind_eq_ok _ _ _).mp fires
    rw [← (Lib.pure_eq_ok _ _).mp rest]
    exact w.calls paced _ rfl rfl (XPassAgent.advanceBytes_holds.1 out run)
  | advanceMsg called nb reqId =>
    obtain ⟨out, run, rest⟩ := (Lib.bind_eq_ok _ _ _).mp fires
    rw [← (Lib.pure_eq_ok _ _).mp rest]
    exact w.calls paced _ rfl rfl (XPassAgent.advanceMsg_holds.1 out run)
  | deliver called draw =>
    cases toward : net.toward called with
    | nil => exact absurd toward enabled
    | cons p rest =>
      simp only [Net.fire, toward] at fires
      obtain ⟨out, run, last⟩ := (Lib.bind_eq_ok _ _ _).mp fires
      rw [← (Lib.pure_eq_ok _ _).mp last]
      rcases XPassAgent.recv_paces paced run with holds | ⟨kind, paces⟩
      · exact w.calls paced _ rfl rfl holds
      -- a request starts the credits of the side that it comes to
      · by_cases same : side = called
        · subst same
          have asks : Asks side net (.deliver side draw) := ⟨rfl, p, by rw [toward]; rfl, kind⟩
          rw [if_pos asks]
          refine w.paces paced rfl ?_ paces rfl ?_
          · rw [absorb_agent, if_pos rfl]
          · have before := w.paced
            push_cast
            linarith
        · exact w.other paced _ rfl rfl same
  | deliverCredit called =>
    cases credits : net.credits called with
    | nil => exact absurd credits enabled.1
    | cons credit rest =>
      have kind : credit.ptype = .credit := (good.flows called).kinds credit (by
        show credit ∈ net.credits called
        rw [credits]
        exact List.mem_cons_self)
      simp only [Net.fire, credits] at fires
      obtain ⟨out, run, last⟩ := (Lib.bind_eq_ok _ _ _).mp fires
      rw [← (Lib.pure_eq_ok _ _).mp last]
      rcases XPassAgent.recv_paces paced run with holds | ⟨request, -⟩
      · exact w.calls paced _ rfl rfl holds
      · rw [kind] at request
        cases request
  | lose called i =>
    rw [← (Lib.pure_eq_ok _ _).mp fires]
    exact w.holds paced _ rfl ⟨rfl, rfl, Or.inl rfl⟩
  | sendCredit called draw =>
    obtain ⟨out, run, rest⟩ := (Lib.bind_eq_ok _ _ _).mp fires
    rw [← (Lib.pure_eq_ok _ _).mp rest]
    by_cases same : side = called
    · subst same
      obtain ⟨due, timer, passed⟩ := enabled
      have now := w.due due timer
      have quiet : ¬ Asks side net (.sendCredit side draw) := id
      rw [if_neg quiet]
      have below : ({ net.agent side with sendCreditTimer := none }.creditFeedbackControl x net.now).curCreditRate ≤
          x.maxCreditRate := XPassAgent.creditFeedbackControl_le floored w.rate
      refine w.paces paced rfl ?_ (XPassAgent.sendCredit_paces paced below run) rfl ?_
      · rw [absorb_agent, if_pos rfl]
      · have earned := now.2
        rw [add_zero]
        linarith
    · exact w.other paced _ rfl rfl same
  | creditStop called =>
    rw [← (Lib.pure_eq_ok _ _).mp fires]
    exact w.calls paced _ rfl rfl ⟨rfl, rfl, Or.inl rfl⟩
  | senderRetransmit called =>
    obtain ⟨out, run, rest⟩ := (Lib.bind_eq_ok _ _ _).mp fires
    rw [← (Lib.pure_eq_ok _ _).mp rest]
    have holds := XPassAgent.handleSenderRetransmit_holds.1 out run
    exact w.calls paced _ rfl rfl ⟨holds.rate, holds.cSeqno, holds.timer⟩
  | receiverRetransmit called =>
    obtain ⟨out, run, rest⟩ := (Lib.bind_eq_ok _ _ _).mp fires
    cases run
  | fct called =>
    rw [← (Lib.pure_eq_ok _ _).mp fires]
    exact w.calls paced _ rfl rfl ⟨rfl, rfl, Or.inl rfl⟩
  | wait now =>
    obtain ⟨later, kept⟩ := enabled
    rw [← (Lib.pure_eq_ok _ _).mp fires]
    have quiet : ¬ Asks side net (.wait now) := id
    rw [if_neg quiet]
    refine ⟨w.rate, w.counted, fun due timer => ⟨?_, (w.due due timer).2⟩, ?_⟩
    · have timer : (net.agent side).sendCreditTimer = some due := timer
      exact kept side due (by simp [XPassAgent.timers, timer])
    · have before := w.paced
      rw [add_zero]
      linarith

theorem Window.run (paced : x.Paced) (sane : x.Sane) {trace : List (Net × Event)} {last : Net}
    (w : Window x side start 0 net) (good : Good sane net) (run : Lib.Run (Step x) net trace last)
    (floored : ∀ s ∈ trace, s.1.Floored x s.2) : Good sane last ∧ Window x side start (requests side trace) last := by
  -- the steps that ask for a credit are counted one by one
  induction run with
  | start => exact ⟨good, w⟩
  | next e _ step ih =>
    obtain ⟨good, w⟩ := ih fun s inside => floored s (List.mem_append_left _ inside)
    have here := floored _ (List.mem_append_right _ (List.mem_singleton_self _))
    refine ⟨(good.fire e step.1).1 _ step.2, ?_⟩
    have later := w.step paced good here step
    unfold requests at later ⊢
    rw [List.countP_append, List.countP_singleton]
    simpa using later

/-- In any part of any run, an agent sends a credit for each request that comes, one more,
and else one in each gap of its largest rate, as long as a credit in each RTT is not
more than that. -/
theorem credits_paced (sane : x.Sane) (paced : x.Paced) {before trace : List (Net × Event)} {last : Net}
    (begins : Lib.Run (Step x) {} before net) (run : Lib.Run (Step x) net trace last)
    (floored : ∀ s ∈ before ++ trace, s.1.Floored x s.2) (side : Side) :
    ((last.agent side).cSeqno - (net.agent side).cSeqno - requests side trace - 1) * x.gap ≤ last.now - net.now := by
  rw [List.forall_mem_append] at floored
  have first : Window x side {} 0 {} := by
    refine ⟨paced.positive.le, (zero_le_one : (0 : ℤ) ≤ 1), fun due timer => (by cases timer), ?_⟩
    simpa using gap_nonneg paced
  obtain ⟨good, here⟩ := first.run paced sane (.first sane) begins floored.1
  exact ((here.opens paced).run paced sane good run floored.2).2.paced

instance (x : Params) (net : Net) : (e : Event) → Decidable (Floored x net e)
  | .sendCredit side _ => inferInstanceAs (Decidable ((net.agent side).Floored x))
  | .advanceBytes _ _ | .advanceMsg _ _ _ | .deliver _ _ | .deliverCredit _ | .lose _ _ | .creditStop _
  | .senderRetransmit _ | .receiverRetransmit _ | .fct _ | .wait _ => inferInstanceAs (Decidable True)

theorem tenGbps_paced : tenGbps.Paced := ⟨by decide +kernel, by decide, by decide +kernel⟩

/-- Three credits, the first of them for the request. -/
theorem credits_paced_tenGbps : ∃ net last : Net, ∃ asked : ℕ, asked = 1 ∧
    (last.agent true).cSeqno - (net.agent true).cSeqno = 3 ∧
    ((last.agent true).cSeqno - (net.agent true).cSeqno - asked - 1) * tenGbps.gap ≤ last.now - net.now := by
  have some_ : (Lib.Run.exec (move tenGbps) {} [.advanceMsg false 2000 aMessage]).any (fun begun =>
      (∀ s ∈ begun.1, s.1.Floored tenGbps s.2) ∧ (Lib.Run.exec (move tenGbps) begun.2
        [.deliver true {}, .wait 0.00001, .deliverCredit false, .deliver true {}, .wait (27 / 577990),
          .sendCredit true {},
          .wait (26841861 / 547878917362), .sendCredit true {}]).any fun out =>
        (∀ s ∈ out.1, s.1.Floored tenGbps s.2) ∧ requests true out.1 = 1 ∧
          (out.2.agent true).cSeqno - (begun.2.agent true).cSeqno = 3) = true := by
    decide +kernel
  obtain ⟨⟨before, net⟩, begins, met⟩ := (Option.any_eq_true _ _).mp some_
  obtain ⟨first, goes_on⟩ := of_decide_eq_true met
  obtain ⟨⟨trace, last⟩, run, met⟩ := (Option.any_eq_true _ _).mp goes_on
  obtain ⟨later, asked, three⟩ := of_decide_eq_true met
  have paced := credits_paced tenGbps_sane tenGbps_paced (Lib.Run.of_exec (move_step tenGbps) begins)
    (Lib.Run.of_exec (move_step tenGbps) run) (List.forall_mem_append.mpr ⟨first, later⟩) true
  rw [asked] at paced
  exact ⟨net, last, 1, rfl, three, paced⟩

end Net

end PhantomPass.Xpass
