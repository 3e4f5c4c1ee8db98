import PhantomPass.Xpass.Connection

/-! What each call of an agent does to the two directions of its connection. A call of
one half leaves the other half as it is; the receiving half never stops, the sending
half only when its rate is no longer positive. -/

set_option autoImplicit false

namespace PhantomPass.Xpass

open Lib (Ensures)

/-- The checks that can fail: the rate of credits has fallen to nothing, or, where a
message was padded, there seems to be a gap in the data. -/
inductive Stops (long : Prop) : Fault → Prop
  | starved : Stops long (.assertion "XPassAgent::send_credit" "cur_credit_rate_ > 0")
  | gap : ¬ long → Stops long
      (.thrown "XPassAgent::process_ack"
        "This should not happen in SIRD xpass port as buffers (for packets) are infinite")

namespace XPassAgent

/-- What the half that receives credits reads of the state. -/
structure SameReceiving (a a' : XPassAgent) : Prop where
  curseq : a'.curseq = a.curseq
  tSeqno : a'.tSeqno = a.tSeqno
  curReqIdTup : a'.curReqIdTup = a.curReqIdTup
  creditRecvState : a'.creditRecvState = a.creditRecvState
  creditRecved : a'.creditRecved = a.creditRecved
  creditStopTimer : a'.creditStopTimer = a.creditStopTimer
  senderRetransmitTimer : a'.senderRetransmitTimer = a.senderRetransmitTimer

structure SameSending (a a' : XPassAgent) : Prop where
  recvNext : a'.recvNext = a.recvNext
  cRecvNext : a'.cRecvNext = a.cRecvNext
  cSeqno : a'.cSeqno = a.cSeqno
  creditSendState : a'.creditSendState = a.creditSendState
  waitRetransmission : a'.waitRetransmission = a.waitRetransmission
  sendCreditTimer : a'.sendCreditTimer = a.sendCreditTimer
  fctTimer : a'.fctTimer = a.fctTimer
  receiverRetransmitTimer : a'.receiverRetransmitTimer = a.receiverRetransmitTimer

/-- The timers of the half that receives credits, by its state. -/
structure ReceivingOk (a : XPassAgent) : Prop where
  waits : a.senderRetransmitTimer.isSome ↔
    a.creditRecvState = .creditRequestSent ∨ a.creditRecvState = .creditStopSent ∨ a.creditRecvState = .closeWait
  stops : a.creditStopTimer.isSome → a.creditRecvState = .creditReceiving
  never : a.creditRecvState = .closeWait → a.creditRecved = 0
  created : ∀ tuple ∈ a.curReqIdTup, 0 < tuple.ts

structure SendingOk (a : XPassAgent) : Prop where
  sends : a.sendCreditTimer.isSome ↔ a.creditSendState = .creditSending
  waits : a.fctTimer.isSome ↔ a.creditSendState = .closeWait
  complete : a.waitRetransmission = false ∧ a.receiverRetransmitTimer = none

theorem ReceivingOk.same {a a' : XPassAgent} (ok : a.ReceivingOk) (same : SameReceiving a a') : a'.ReceivingOk := by
  obtain ⟨_, _, tuple, state, recved, stop, retransmit⟩ := same
  refine ⟨?_, ?_, ?_, ?_⟩
  · rw [retransmit, state]
    exact ok.waits
  · rw [stop, state]
    exact ok.stops
  · rw [state, recved]
    exact ok.never
  · rw [tuple]
    exact ok.created

theorem SendingOk.same {a a' : XPassAgent} (ok : a.SendingOk) (same : SameSending a a') : a'.SendingOk := by
  obtain ⟨_, _, _, state, waits, credit, fct, retransmit⟩ := same
  refine ⟨?_, ?_, ?_⟩
  · rw [credit, state]
    exact ok.sends
  · rw [fct, state]
    exact ok.waits
  · rw [waits, retransmit]
    exact ok.complete

variable {x : Params} {a : XPassAgent} {now : Time} {draw : Draw} {pkt : Packet} {long : Prop}

/-! ### The sending half -/

theorem creditFeedbackControl_same (a : XPassAgent) (x : Params) (now : Time) :
    SameReceiving a (a.creditFeedbackControl x now) ∧ SameSending a (a.creditFeedbackControl x now) := by
  have refl : SameReceiving a a ∧ SameSending a a :=
    ⟨⟨rfl, rfl, rfl, rfl, rfl, rfl, rfl⟩, ⟨rfl, rfl, rfl, rfl, rfl, rfl, rfl, rfl⟩⟩
  unfold creditFeedbackControl
  split
  · exact refl
  · split
    · exact refl
    · split
      · exact refl
      · dsimp only
        split
        · exact ⟨⟨rfl, rfl, rfl, rfl, rfl, rfl, rfl⟩, ⟨rfl, rfl, rfl, rfl, rfl, rfl, rfl, rfl⟩⟩
        · exact ⟨⟨rfl, rfl, rfl, rfl, rfl, rfl, rfl⟩, ⟨rfl, rfl, rfl, rfl, rfl, rfl, rfl, rfl⟩⟩

structure Credits (a : XPassAgent) (out : Outcome) : Prop where
  receiving : SameReceiving a out.agent
  recvNext : out.agent.recvNext = a.recvNext
  cRecvNext : out.agent.cRecvNext = a.cRecvNext
  cSeqno : out.agent.cSeqno = max 1 (a.cSeqno + 1)
  sendCreditTimer : out.agent.sendCreditTimer.isSome
  rest : out.agent.fctTimer = a.fctTimer ∧ out.agent.waitRetransmission = a.waitRetransmission ∧
    out.agent.receiverRetransmitTimer = a.receiverRetransmitTimer ∧ out.agent.creditSendState = a.creditSendState
  sent : ∃ p, out.sent = some p ∧ p.ptype = .credit ∧ p.creditSeq = a.cSeqno
  taken : out.taken = none

theorem creditDelay_ensures (sane : x.Sane) : Ensures (Stops long) (fun _ => True) (a.creditDelay x draw) := by
  unfold creditDelay
  dsimp only
  split
  · exact .pure trivial
  · exact .require sane.jitter (.pure trivial)

theorem positive_ensures {cond : Prop} [Decidable cond] :
    Ensures (Stops long) (fun _ => True) (assert "XPassAgent::send_credit" "cur_credit_rate_ > 0" cond) := by
  unfold assert Lib.require
  split
  · exact .ok trivial
  · exact .error .starved

theorem sendCredit_ensures (sane : x.Sane) : Ensures (Stops long) (Credits a) (a.sendCredit x now draw) := by
  obtain ⟨receiving, sending⟩ := creditFeedbackControl_same a x now
  unfold sendCredit constructCredit
  simp only [bind_assoc, pure_bind]
  apply Ensures.require sane.credit
  have credits : ∀ due : Time, Credits a
      { agent :=
          { a.creditFeedbackControl x now with
            cSeqno := max 1 ((a.creditFeedbackControl x now).cSeqno + 1), sendCreditTimer := some due }
        sent := some
          { ptype := .credit
            size := x.minCreditSize + draw.size % (x.maxCreditSize - x.minCreditSize + 1)
            seqno := (a.creditFeedbackControl x now).tSeqno
            ackno := (a.creditFeedbackControl x now).recvNext
            hlen := (x.minCreditSize + draw.size % (x.maxCreditSize - x.minCreditSize + 1) : ℕ)
            creditSeq := (a.creditFeedbackControl x now).cSeqno
            creditSentTime := now } } := fun due =>
    { receiving := ⟨receiving.curseq, receiving.tSeqno, receiving.curReqIdTup, receiving.creditRecvState,
        receiving.creditRecved, receiving.creditStopTimer, receiving.senderRetransmitTimer⟩
      recvNext := sending.recvNext
      cRecvNext := sending.cRecvNext
      cSeqno := by rw [sending.cSeqno]
      sendCreditTimer := rfl
      rest := ⟨sending.fctTimer, sending.waitRetransmission, sending.receiverRetransmitTimer, sending.creditSendState⟩
      sent := ⟨_, rfl, rfl, sending.cSeqno⟩
      taken := rfl }
  refine Ensures.bind positive_ensures fun _ _ => ?_
  exact (creditDelay_ensures sane).bind fun delay _ => .pure (credits (now + delay))

/-! Calls of the sending half, by what they do to the direction in which they send credits. -/

structure Takes (x : Params) (b : XPassAgent) (p : Option Packet) (out : Outcome) : Prop where
  receiving : SameReceiving b out.agent
  ok : SendingOk out.agent
  credits : ∀ q ∈ out.sent, q.ptype = .credit
  taken : out.taken = (p.toList.filter Packet.isData).head?.map fun p => (appBytes x p, p.reqId.getD blank)
  moves : ∀ a flight credits handed delivered,
    Flow.Moves x (.between a b (p.toList ++ flight) credits handed delivered)
      (.between a out.agent flight (credits ++ out.sent.toList) handed (delivered ++ p.toList.filter Packet.isData))

theorem sendCredit_takes (sane : x.Sane) (ok : a.SendingOk) (sends : a.creditSendState = .creditSending) :
    Ensures (Stops long) (Takes x a none) ({ a with sendCreditTimer := none }.sendCredit x now draw) := by
  refine (sendCredit_ensures sane).mono fun out credits => ?_
  obtain ⟨receiving, recvNext, cRecvNext, cSeqno, timer, ⟨fct, waits, retransmit, state⟩, ⟨p, sent, kind, seq⟩,
    taken⟩ := credits
  refine ⟨⟨receiving.1, receiving.2, receiving.3, receiving.4, receiving.5, receiving.6, receiving.7⟩,
    ⟨?_, ?_, ?_⟩, ?_, taken, fun b flight credits handed delivered => ?_⟩
  · simp only [timer, state, sends]
  · rw [fct, state]
    exact ok.waits
  · rw [waits, retransmit]
    exact ok.complete
  · rw [sent]
    rintro q ⟨⟩
    exact kind
  · have move := Flow.Move.credit (x := x) (f := .between b a flight credits handed delivered) p kind seq
    unfold Flow.between at move ⊢
    rw [recvNext, cRecvNext, cSeqno, state, sent]
    simpa using move.once

theorem begins_takes {b : XPassAgent} {out : Outcome} (credits : Credits a out) (idle : a.fctTimer = none)
    (receiving : SameReceiving b a) (recvNext : a.recvNext = b.recvNext) (cRecvNext : a.cRecvNext = b.cRecvNext)
    (cSeqno : a.cSeqno = b.cSeqno) (complete : a.waitRetransmission = false ∧ a.receiverRetransmitTimer = none)
    (known : b.creditSendState ≠ .creditStopReceived) (kind : pkt.ptype = .creditRequest) :
    Takes x b (some pkt) { out with agent := { out.agent with creditSendState := .creditSending } } := by
  have notData : pkt.isData = false := by simp [Packet.isData, kind]
  obtain ⟨same, recvNext', cRecvNext', cSeqno', timer, ⟨fct, waits, retransmit, -⟩, ⟨p, sent, credit, seq⟩, taken⟩ :=
    credits
  refine ⟨⟨same.1.trans receiving.1, same.2.trans receiving.2, same.3.trans receiving.3, same.4.trans receiving.4,
    same.5.trans receiving.5, same.6.trans receiving.6, same.7.trans receiving.7⟩, ⟨?_, ?_, ?_⟩, ?_, ?_,
    fun c flight credits handed delivered => ?_⟩
  · simp only [timer]
  · simp [fct, idle]
  · simp only [waits, retransmit]
    exact complete
  · rw [sent]
    rintro q ⟨⟩
    exact credit
  · simp [taken, notData]
  · have asked := Flow.Move.requested (x := x) (f := .between c b (pkt :: flight) credits handed delivered) pkt flight
      rfl kind known
    have move := Flow.Move.credit (x := x)
      (f := { Flow.between c b (pkt :: flight) credits handed delivered with flight, sendState := .creditSending })
      p credit (seq.trans cSeqno)
    have both := asked.once.trans move.once
    unfold Flow.between at both ⊢
    rw [sent, recvNext', cRecvNext', cSeqno', recvNext, cRecvNext, cSeqno]
    simpa [notData] using both

theorem recvCreditRequest_takes (sane : x.Sane) (ok : a.SendingOk) (known : a.creditSendState ≠ .creditStopReceived)
    (kind : pkt.ptype = .creditRequest) :
    Ensures (Stops long) (Takes x a (some pkt)) (a.recvCreditRequest x now draw pkt) := by
  have notData : pkt.isData = false := by simp [Packet.isData, kind]
  have idle : a.creditSendState = .closed → a.fctTimer = none := by
    intro closed
    cases timer : a.fctTimer with
    | none => rfl
    | some due =>
      have waits := ok.waits.mp (by rw [timer]; rfl)
      rw [closed] at waits
      cases waits
  have same : SameReceiving a a := ⟨rfl, rfl, rfl, rfl, rfl, rfl, rfl⟩
  have already : a.creditSendState = .creditSending → Takes x a (some pkt) { agent := a } := by
    intro sends
    refine ⟨same, ok, by simp, by simp [notData], fun b flight credits handed delivered => ?_⟩
    have asked := Flow.Move.requested (x := x) (f := .between b a (pkt :: flight) credits handed delivered) pkt flight
      rfl kind known
    simpa [notData, Flow.between, sends] using asked.once
  unfold recvCreditRequest
  cases state : a.creditSendState with
  | closeWait =>
    refine (sendCredit_ensures sane).bind fun out credits => .pure ?_
    exact begins_takes credits rfl ⟨rfl, rfl, rfl, rfl, rfl, rfl, rfl⟩ rfl rfl rfl ok.complete known kind
  | closed =>
    refine (sendCredit_ensures sane).bind fun out credits => .pure ?_
    exact begins_takes credits (idle state) ⟨rfl, rfl, rfl, rfl, rfl, rfl, rfl⟩ rfl rfl rfl ok.complete known kind
  | creditSending => exact .pure (already state)
  | creditStopReceived => exact absurd state known

theorem recvCreditStop_takes (ok : a.SendingOk) (sends : a.creditSendState = .creditSending)
    (kind : pkt.ptype = .creditStop) :
    Ensures (Stops long) (Takes x a (some pkt)) (a.recvCreditStop x now) := by
  have idle : a.fctTimer = none := by
    cases timer : a.fctTimer with
    | none => rfl
    | some due =>
      have waits := ok.waits.mp (by rw [timer]; rfl)
      rw [sends] at waits
      cases waits
  have notData : pkt.isData = false := by simp [Packet.isData, kind]
  unfold recvCreditStop sched
  rw [idle]
  refine .pure ⟨⟨rfl, rfl, rfl, rfl, rfl, rfl, rfl⟩, ⟨by simp, by simp, ok.complete⟩, by simp, by simp [notData],
    fun b flight credits handed delivered => ?_⟩
  have move := Flow.Move.stopped (x := x) (f := .between b a (pkt :: flight) credits handed delivered) pkt flight
    rfl kind
  simpa [notData, Flow.between] using move.once

theorem recvData_takes (ok : a.SendingOk) (kind : pkt.ptype = .data) (later : a.cRecvNext ≤ pkt.creditSeq)
    (awaited : long → pkt.seqno ≤ a.recvNext) (whole : pkt.hlen ≤ pkt.size) :
    Ensures (Stops long) (Takes x a (some pkt)) (a.recvData x now pkt) := by
  have data : pkt.isData = true := by simp [Packet.isData, kind]
  have takes : ∀ out : Outcome, SameReceiving a out.agent → out.agent.SendingOk → out.sent = none →
      out.taken = some (appBytes x pkt, pkt.reqId.getD blank) → pkt.seqno ≤ a.recvNext →
      out.agent.recvNext = acks a.recvNext pkt.piece →
      out.agent.cRecvNext = pkt.creditSeq + 1 → out.agent.cSeqno = a.cSeqno →
      out.agent.creditSendState = a.creditSendState → Takes x a (some pkt) out := by
    intro out receiving ok' sent taken before recvNext cRecvNext cSeqno state
    refine ⟨receiving, ok', by simp [sent], by simp [taken, data], fun b flight credits handed delivered => ?_⟩
    have move := Flow.Move.data (x := x) (f := .between b a (pkt :: flight) credits handed delivered) pkt flight
      rfl kind later before
    unfold Flow.between at move ⊢
    rw [recvNext, cRecvNext, cSeqno, state, sent]
    simpa [data] using move.once
  unfold recvData processAck
  simp only [ok.complete.1, Bool.false_eq_true, if_false]
  let kept (b : XPassAgent) : Prop := Takes x a (some pkt)
    { agent := b.updateRtt now pkt, taken := some (appBytes x pkt, pkt.reqId.getD blank) }
  refine .require (by omega) (.bind (?_ : Ensures _ kept _) fun b taken => .pure taken)
  refine .require (by omega) ?_
  split
  · next behind =>
    refine .error (.gap fun holds => ?_)
    have before := awaited holds
    omega
  · next before =>
    have before : pkt.seqno ≤ a.recvNext := not_lt.mp before
    split
    · next same =>
      refine .pure (takes _ ⟨rfl, rfl, rfl, rfl, rfl, rfl, rfl⟩ ⟨ok.sends, ok.waits, rfl,
        ok.complete.2⟩ rfl rfl before ?_ rfl rfl rfl)
      exact (if_pos same).symm
    · next other =>
      refine .pure (takes _ ⟨rfl, rfl, rfl, rfl, rfl, rfl, rfl⟩ ⟨ok.sends, ok.waits, rfl,
        ok.complete.2⟩ rfl rfl before ?_ rfl rfl rfl)
      exact (if_neg other).symm

theorem handleFct_takes (ok : a.SendingOk) (waits : a.creditSendState = .closeWait) :
    Takes x a none { agent := { a with fctTimer := none }.handleFct } := by
  have sends : a.sendCreditTimer = none := by
    cases timer : a.sendCreditTimer with
    | none => rfl
    | some due =>
      have sends := ok.sends.mp (by rw [timer]; rfl)
      rw [waits] at sends
      cases sends
  refine ⟨⟨rfl, rfl, rfl, rfl, rfl, rfl, rfl⟩,
    ⟨?_, ?_, ok.complete⟩, by simp, rfl, fun b flight credits handed delivered => ?_⟩
  · simp [handleFct, sends]
  · simp [handleFct]
  · have move := Flow.Move.fct (x := x) (f := .between b a flight credits handed delivered) waits
    simpa [handleFct, Flow.between] using move.once

/-! ### The receiving half -/

structure Gives (x : Params) (a : XPassAgent) (credit : Option Packet) (m : Option Message) (out : Outcome) : Prop where
  sending : SameSending a out.agent
  ok : ReceivingOk out.agent
  data : ∀ q ∈ out.sent, q.ptype ≠ .credit
  taken : out.taken = none
  moves : ∀ b flight credits handed delivered,
    Flow.Moves x (.between a b flight (credit.toList ++ credits) handed delivered)
      (.between out.agent b (flight ++ out.sent.toList) credits (handed ++ m.toList) delivered)

theorem wasted_moves {a' b : XPassAgent} {flight credits : List Packet} {handed : List Message}
    {delivered : List Packet} (credit : Packet) (curseq : a'.curseq = a.curseq) (tSeqno : a'.tSeqno = a.tSeqno)
    (tuple : a'.curReqIdTup = a.curReqIdTup) (state : a'.creditRecvState = a.creditRecvState) :
    Flow.Moves x (.between a b flight (credit :: credits) handed delivered)
    (.between a' b flight credits handed delivered) := by
  have move := Flow.Move.lose (x := x) (f := .between a b flight (credit :: credits) handed delivered)
    [] credits credit rfl
  unfold Flow.between at move ⊢
  rw [curseq, tSeqno, tuple, state]
  exact move.once

theorem sendCreditStop_gives (ok : a.ReceivingOk) (receiving : a.creditRecvState = .creditReceiving) :
    Gives x a none none ({ a with creditStopTimer := none }.sendCreditStop x now) := by
  refine ⟨⟨rfl, rfl, rfl, rfl, rfl, rfl, rfl, rfl⟩, ⟨?_, ?_, ?_, ok.created⟩, ?_, rfl,
    fun b flight credits handed delivered => ?_⟩
  · simp [sendCreditStop]
  · simp [sendCreditStop]
  · simp [sendCreditStop]
  · rintro q ⟨⟩
    simp [constructCreditStop]
  · have move := Flow.Move.stop (x := x) (f := .between a b flight credits handed delivered)
      ({ a with creditStopTimer := none }.constructCreditStop x) receiving rfl
    simpa [Flow.between, sendCreditStop] using move.once

theorem request_gives (ok : a.ReceivingOk)
    (asks : a.creditRecvState = .creditRequestSent ∨ a.creditRecvState = .creditStopSent ∧ 0 < a.datalenRemaining) :
    Ensures (Stops long) (Gives x a none none)
    (handleSenderRetransmit.request x now { a with senderRetransmitTimer := none }) := by
  have idle : a.creditStopTimer = none := by
    cases timer : a.creditStopTimer with
    | none => rfl
    | some due =>
      have stops := ok.stops (by rw [timer]; rfl)
      rcases asks with state | ⟨state, -⟩ <;> rw [state] at stops <;> cases stops
  have left : a.creditRecvState = .creditRequestSent ∨ a.creditRecvState = .creditStopSent ∧ a.tSeqno < a.curseq :=
    asks.imp id fun stopped => ⟨stopped.1, Int.sub_pos.mp stopped.2⟩
  unfold handleSenderRetransmit.request constructCreditRequest
  refine .pure ⟨⟨rfl, rfl, rfl, rfl, rfl, rfl, rfl, rfl⟩, ⟨by simp, by simp [idle], by simp, ok.created⟩, ?_, rfl,
    fun b flight credits handed delivered => ?_⟩
  · rintro q ⟨⟩
    simp
  · have move := Flow.Move.ask (x := x) (f := .between a b flight credits handed delivered)
      ({ a with senderRetransmitTimer := none }.constructCreditRequest x now).2 left rfl
    simpa [Flow.between, constructCreditRequest] using move.once

theorem handleSenderRetransmit_gives (ok : a.ReceivingOk) (within : a.tSeqno ≤ a.curseq)
    (pending : a.senderRetransmitTimer.isSome) :
    Ensures (Stops long) (Gives x a none none)
    ({ a with senderRetransmitTimer := none }.handleSenderRetransmit x now) := by
  have idle : a.creditRecvState ≠ .creditReceiving → a.creditStopTimer = none := by
    intro other
    by_contra runs
    exact other (ok.stops (Option.isSome_iff_ne_none.mpr runs))
  unfold handleSenderRetransmit
  rcases ok.waits.mp pending with state | state | state
  · rw [state]
    exact request_gives ok (Or.inl state)
  · rw [state]
    dsimp only
    split
    · next left => exact request_gives ok (Or.inr ⟨state, left⟩)
    · next none_ =>
      have sent : a.tSeqno = a.curseq := le_antisymm within (sub_nonpos.mp (not_lt.mp none_))
      refine .pure ⟨⟨rfl, rfl, rfl, rfl, rfl, rfl, rfl, rfl⟩,
        ⟨by simp, by simp [idle, state], by simp, ok.created⟩, by simp, rfl,
        fun b flight credits handed delivered => ?_⟩
      have move := Flow.Move.rest (x := x) (f := .between a b flight credits handed delivered) state sent
      simpa [Flow.between] using move.once
  · rw [state]
    dsimp only
    rw [if_pos (ok.never state)]
    refine .pure ⟨⟨rfl, rfl, rfl, rfl, rfl, rfl, rfl, rfl⟩,
      ⟨by simp, by simp [idle, state], by simp, ok.created⟩, by simp, rfl,
      fun b flight credits handed delivered => ?_⟩
    have move := Flow.Move.close (x := x) (f := .between a b flight credits handed delivered) state
    simpa [Flow.between] using move.once

theorem advance_gives {nb : ℤ} {tuple : Option RequestIdTuple} (ok : a.ReceivingOk)
    (closed : a.creditRecvState = .closed) (pos : 0 < nb) (created : ∀ t ∈ tuple, 0 < t.ts) :
    Ensures (Stops long) (fun out => out.agent.curReqIdTup = tuple ∧ Gives x a none (some ⟨nb, tuple⟩) out)
      ({ a with curReqIdTup := tuple }.advanceBytes x now nb) := by
  have idle : a.senderRetransmitTimer = none := by
    by_contra runs
    have waits := ok.waits.mp (Option.isSome_iff_ne_none.mpr runs)
    rw [closed] at waits
    rcases waits with state | state | state <;> cases state
  have stops : a.creditStopTimer = none := by
    by_contra runs
    have receives := ok.stops (Option.isSome_iff_ne_none.mpr runs)
    rw [closed] at receives
    cases receives
  unfold advanceBytes constructCreditRequest sched
  refine .require closed (.require pos ?_)
  simp only [idle]
  refine .pure ⟨rfl, ⟨rfl, rfl, rfl, rfl, rfl, rfl, rfl, rfl⟩, ⟨by simp, by simp [stops], by simp, created⟩, ?_, rfl,
    fun b flight credits handed delivered => ?_⟩
  · rintro q ⟨⟩
    simp
  · have move := Flow.Move.advance (x := x) (f := .between a b flight credits handed delivered) ⟨nb, tuple⟩
      ({ a with curseq := a.curseq + nb, curReqIdTup := tuple }.constructCreditRequest x now).2 closed pos rfl
    exact move.once

theorem sendData_ensures (created : ∀ tuple ∈ a.curReqIdTup, 0 < tuple.ts) (sane : x.Sane)
    (active : a.creditRecvState = .creditReceiving ∨ a.creditRecvState = .creditStopSent) :
    Ensures (Stops long) (fun r => (∃ t, r.1 = { a with tSeqno := t }) ∧ (∀ q ∈ r.2, q.ptype ≠ .credit) ∧
      ∀ b flight credits handed delivered, Flow.Moves x (.between a b flight (pkt :: credits) handed delivered)
        (.between r.1 b (flight ++ r.2.toList) credits handed delivered)) (a.sendData x pkt) := by
  unfold sendData
  split
  · next left =>
    have pos : 0 < min x.maxSegment a.datalenRemaining := by
      have segment := sane.segment
      unfold Params.maxSegment
      omega
    unfold constructData
    simp only [bind_assoc, pure_bind]
    refine .require pos (.require created (.pure ⟨⟨_, rfl⟩, ?_, fun b flight credits handed delivered => ?_⟩))
    · rintro q ⟨⟩
      simp
    · exact Flow.Move.once (.send pkt _ credits active rfl (Int.sub_pos.mp left) rfl rfl rfl)
  · refine .pure ⟨⟨a.tSeqno, rfl⟩, by simp, fun b flight credits handed delivered => ?_⟩
    rw [Option.toList_none, List.append_nil]
    exact wasted_moves pkt rfl rfl rfl rfl

theorem schedCreditStop_ensures (idle : a.creditStopTimer = none) :
    Ensures (Stops long) (fun a' => a' = { a with creditStopTimer := some now }) (a.schedCreditStop now) := by
  unfold schedCreditStop
  rw [idle]
  exact .pure rfl

/-- While credits are asked for, a credit changes nothing else. -/
structure Receives (x : Params) (a : XPassAgent) (credit : Packet) (out : Outcome) : Prop where
  sending : SameSending a out.agent
  state : out.agent.creditRecvState = .creditReceiving
  timers : out.agent.senderRetransmitTimer = a.senderRetransmitTimer
  tuple : out.agent.curReqIdTup = a.curReqIdTup
  data : ∀ q ∈ out.sent, q.ptype ≠ .credit
  taken : out.taken = none
  moves : ∀ b flight credits handed delivered, Flow.Moves x (.between a b flight (credit :: credits) handed delivered)
    (.between out.agent b (flight ++ out.sent.toList) credits handed delivered)

theorem receiving_ensures (created : ∀ tuple ∈ a.curReqIdTup, 0 < tuple.ts) (sane : x.Sane)
    (state : a.creditRecvState = .creditReceiving) (idle : a.creditStopTimer = none) :
    Ensures (Stops long) (Receives x a pkt) (a.receiving x now pkt) := by
  unfold receiving
  refine (sendData_ensures created sane (Or.inl state)).bind ?_
  rintro ⟨_, sent⟩ ⟨⟨t, rfl⟩, data, moves⟩
  dsimp only
  split
  · refine Ensures.bind (schedCreditStop_ensures (a := { a with tSeqno := t }) idle) ?_
    rintro _ rfl
    exact .pure ⟨⟨rfl, rfl, rfl, rfl, rfl, rfl, rfl, rfl⟩, state, rfl, rfl, data, rfl, moves⟩
  · split
    · split
      · refine Ensures.bind (schedCreditStop_ensures (a := { a with tSeqno := t }) idle) ?_
        rintro _ rfl
        exact .pure ⟨⟨rfl, rfl, rfl, rfl, rfl, rfl, rfl, rfl⟩, state, rfl, rfl, data, rfl, moves⟩
      · exact .pure ⟨⟨rfl, rfl, rfl, rfl, rfl, rfl, rfl, rfl⟩, state, rfl, rfl, data, rfl, moves⟩
    · exact .pure ⟨⟨rfl, rfl, rfl, rfl, rfl, rfl, rfl, rfl⟩, state, rfl, rfl, data, rfl, moves⟩

theorem recvCredit_gives (sane : x.Sane) (ok : a.ReceivingOk) (idle : a.creditStopTimer = none) :
    Ensures (Stops long) (Gives x a (some pkt) none) (a.recvCredit x now pkt) := by
  have wasted : ∀ recvedRtt wasted, (a.creditRecvState = .closed ∨ a.creditRecvState = .closeWait) →
      Gives x a (some pkt) none { agent := { a with creditRecvedRtt := recvedRtt, creditWasted := wasted } } := by
    intro _ _ _
    refine ⟨⟨rfl, rfl, rfl, rfl, rfl, rfl, rfl, rfl⟩, ⟨ok.waits, ok.stops, ok.never, ok.created⟩, by simp, rfl,
      fun b flight credits handed delivered => ?_⟩
    simp only [Option.toList_none, List.append_nil]
    exact wasted_moves pkt rfl rfl rfl rfl
  unfold recvCredit
  dsimp only
  split
  -- the first credit answers the request, and is then like any other
  · next asked =>
    refine Ensures.mono (receiving_ensures ok.created sane (by rfl) idle) fun out receives => ?_
    obtain ⟨sending, state, timers, tuple, data, taken, moves⟩ := receives
    refine ⟨⟨sending.1, sending.2, sending.3, sending.4, sending.5, sending.6, sending.7, sending.8⟩,
      ⟨?_, ?_, ?_, ?_⟩, data,
      taken, fun b flight credits handed delivered => ?_⟩
    · rw [timers, state]
      simp
    · exact fun _ => state
    · rw [state]
      intro never
      cases never
    · rw [tuple]
      exact ok.created
    · have begins := Flow.Move.begins (x := x) (f := .between a b flight (pkt :: credits) handed delivered) asked
      simpa [Flow.between] using begins.once.trans (moves b flight credits handed delivered)
  · next state =>
    refine Ensures.mono (receiving_ensures ok.created sane state idle) fun out receives => ?_
    obtain ⟨sending, state', timers, tuple, data, taken, moves⟩ := receives
    refine ⟨⟨sending.1, sending.2, sending.3, sending.4, sending.5, sending.6, sending.7, sending.8⟩,
      ⟨?_, ?_, ?_, ?_⟩, data,
      taken, fun b flight credits handed delivered => ?_⟩
    · rw [timers, state', ← state]
      exact ok.waits
    · exact fun _ => state'
    · rw [state']
      intro never
      cases never
    · rw [tuple]
      exact ok.created
    · simpa [Flow.between] using moves b flight credits handed delivered
  · next state =>
    refine Ensures.bind (sendData_ensures ok.created sane (Or.inr state)) ?_
    rintro ⟨_, sent⟩ ⟨⟨t, rfl⟩, data, moves⟩
    refine .pure ⟨⟨rfl, rfl, rfl, rfl, rfl, rfl, rfl, rfl⟩, ⟨ok.waits, ok.stops, ?_, ok.created⟩, data, rfl,
      fun b flight credits handed delivered => ?_⟩
    · show a.creditRecvState = .closeWait → _
      rw [state]
      intro never
      cases never
    · simpa [Flow.between] using moves b flight credits handed delivered
  · next state => exact .pure (wasted _ _ (Or.inr state))
  · next state => exact .pure (wasted _ _ (Or.inl state))

end XPassAgent

end PhantomPass.Xpass
