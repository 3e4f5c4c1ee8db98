import PhantomPass.Deployment
import PhantomPass.Refinement.Arrival
import PhantomPass.Tracing.Polling

/-! Whole runs of a host that differ in what is traced: the statistics leave every
cursor where it was, so that only the time when they were last written differs. -/

set_option autoImplicit false

namespace PhantomPass

open Lib (RoundRobin bind_map_congr bind_map_same ite_map)

theorem walkInbound_eq {turns : ℕ} {inbound last : RoundRobin UniqReqId} {visited : List UniqReqId}
    (walked : RoundRobin.turns turns inbound = some (visited, last)) : walkInbound turns inbound = .ok last := by
  induction turns generalizing inbound visited with
  | zero =>
    simp only [RoundRobin.turns, Option.some.injEq, Prod.mk.injEq] at walked
    rw [← walked.2]
    rfl
  | succ turns ih =>
    simp only [RoundRobin.turns, Option.bind_eq_bind, Option.bind_eq_some_iff, Prod.exists] at walked
    obtain ⟨id, moved, step, rest, last', walked, done⟩ := walked
    simp only [Option.pure_def, Option.some.injEq, Prod.mk.injEq] at done
    rw [walkInbound, step]
    rw [done.2] at walked
    exact ih walked

theorem walkInbound_size (inbound : RoundRobin UniqReqId) : walkInbound inbound.size inbound = .ok inbound :=
  walkInbound_eq inbound.turns_size

namespace Host

variable {env : Env} {doTrace : Bool} {ival : ℚ} {pos : 0 < ival} {now time : Time} {h : Host}

theorem pollTrace_same (env : Env) (now : Time) (h : Host) : polled 0 <$> h.pollTrace env now = .ok (h.polled 0) := by
  unfold pollTrace
  split
  · rw [walkInbound_size, Lib.ok_bind, walkInbound_size]
    rfl
  · rfl

theorem poll_same (env : Env) (now : Time) (h : Host) :
    polled 0 <$> h.poll env now = polled 0 <$> (h.sendGrants env now >>= (·.sendData env now)) := by
  unfold poll
  simp only [map_bind, pollTrace_same]
  rfl

/-- Two ways to act, on a host that is traced in one way or another, agree but for that time. -/
def Untraced (act' act : Host → Checked Host) : Prop :=
  ∀ h time, polled 0 <$> act' (h.polled time) = polled 0 <$> act h

namespace Untraced

variable {act' act next' next : Host → Checked Host}

theorem of_eq (same : ∀ h time, act' (h.polled time) = polled time <$> act h) : Untraced act' act := by
  intro h time
  rw [same, ← comp_map]
  rfl

theorem bind (first : Untraced act' act) (rest : Untraced next' next) :
    Untraced (fun h => act' h >>= next') fun h => act h >>= next := by
  intro h time
  refine Lib.bind_map_alike (first h time) fun h1' h1 alike => ?_
  have same : (h1'.polled 0).polled h1'.lastPollTrace = (h1.polled 0).polled h1'.lastPollTrace := by rw [alike]
  change h1' = h1.polled h1'.lastPollTrace at same
  rw [same]
  exact rest h1 _

theorem after {α : Type} (x : Checked α) {act' act : α → Host → Checked Host} (rest : ∀ a, Untraced (act' a) (act a)) :
    Untraced (fun h => x >>= (act' · h)) fun h => x >>= (act · h) := fun h time =>
  Lib.bind_map_alike (f := fun a => a) rfl fun _ a alike => alike ▸ rest a h time

end Untraced

theorem poll_untraced : Untraced (poll (env.tracing doTrace ival pos) now) (poll env now) := by
  intro h time
  rw [poll_same, poll_same]
  exact (Untraced.of_eq fun _ _ => sendGrants_polled).bind (Untraced.of_eq fun _ _ => sendData_polled) h time

theorem startPolling_untraced : Untraced (startPolling (env.tracing doTrace ival pos) now) (startPolling env now) := by
  intro h time
  unfold startPolling
  split
  · next started => rw [if_pos (by exact started)]; rfl
  · next idle =>
    rw [if_neg (by exact idle)]
    have start : Untraced (fun h => pure { h with pollStarted := true }) fun h => pure { h with pollStarted := true } :=
      .of_eq fun _ _ => rfl
    exact poll_untraced.bind start h time

section Recv

variable {p : Packet} {stamp : Stamp} {id : UniqReqId}

theorem updateSenderState_tracing : (h.polled time).updateSenderState (env.tracing doTrace ival pos) p stamp =
    polled time <$> h.updateSenderState env p stamp :=
  bind_map_same fun _ => rfl

theorem r2p2Recv_tracing : (h.polled time).r2p2Recv (env.tracing doTrace ival pos) p =
    polled time <$> h.r2p2Recv env p := by
  unfold r2p2Recv
  cases p.hdr.msgType <;> exact bind_map_same fun _ => rfl

theorem receivedData_tracing : (h.polled time).receivedData (env.tracing doTrace ival pos) p id =
    polled time <$> h.receivedData env p id := by
  refine bind_map_same fun _ => ite_map (fun _ => rfl) fun _ => ?_
  refine bind_map_same fun _ => bind_map_same fun _ => ?_
  refine bind_map_same fun _ => bind_map_same fun _ => ite_map (fun _ => ?_) fun _ => rfl
  exact bind_map_same fun _ => bind_map_same fun _ => rfl

theorem noteMsgInfo_tracing : (h.polled time).noteMsgInfo (env.tracing doTrace ival pos) p id =
    polled time <$> h.noteMsgInfo env p id := by
  refine bind_map_same fun _ => bind_map_same fun _ => ?_
  refine bind_map_same fun _ => ite_map (fun _ => ?_) fun _ => rfl
  refine bind_map_same fun _ => bind_map_same fun _ => ?_
  refine ite_map (fun _ => rfl) fun _ => ?_
  exact ite_map (fun _ => rfl) fun _ => rfl

theorem findOrAddInbound_tracing : (h.polled time).findOrAddInbound (env.tracing doTrace ival pos) p =
    polled time <$> h.findOrAddInbound env p := by
  unfold findOrAddInbound
  simp only [polled_rcv]
  cases h.rcv.findInbound p.uniqReqId with
  | none => exact ite_map (fun _ => bind_map_same fun _ => rfl) fun _ => bind_map_same fun _ => rfl
  | some m => exact bind_map_same fun _ => rfl

theorem dispatch_tracing : (h.polled time).dispatch (env.tracing doTrace ival pos) p =
    polled time <$> h.dispatch env p := by
  rw [dispatch_eq, dispatch_eq]
  refine ite_map (fun _ => bind_map_same fun _ => r2p2Recv_tracing) fun _ => ?_
  refine ite_map (fun _ => ?_) fun _ => ?_
  · refine bind_map_same fun _ => bind_map_same fun _ => ?_
    exact bind_map_same fun _ => rfl
  refine bind_map_congr findOrAddInbound_tracing fun _ => ?_
  refine ite_map (fun _ => ?_) fun _ => ?_
  · refine bind_map_congr noteMsgInfo_tracing fun _ => ?_
    refine ite_map (fun _ => bind_map_same fun _ => rfl) fun _ => bind_map_same fun _ => ?_
    exact bind_map_congr receivedData_tracing fun _ => r2p2Recv_tracing
  · refine bind_map_same fun _ => bind_map_same fun _ => ?_
    exact bind_map_congr receivedData_tracing fun _ => r2p2Recv_tracing

def meet (env : Env) (p : Packet) (stamp : Stamp) (h : Host) : Checked Host := do
  let pktSize := p.payload + r2p2AllHeadersSize + p.padding
  assert .recv "pkt_size >= MIN_ETHERNET_FRAME" (minEthernetFrame ≤ pktSize)
  assert .recv "pkt_size <= MAX_ETHERNET_FRAME" (pktSize ≤ maxEthernetFrame)
  let h ← { h with rcvd := h.rcvd ++ [p] }.updateSenderState env p stamp
  (h.updateReceiverState p).dispatch env p

theorem meet_tracing : (h.polled time).meet (env.tracing doTrace ival pos) p stamp =
    polled time <$> h.meet env p stamp := by
  refine bind_map_same fun _ => bind_map_same fun _ => ?_
  refine bind_map_congr (updateSenderState_tracing (h := { h with rcvd := h.rcvd ++ [p] })) fun h1 => ?_
  exact dispatch_tracing (h := h1.updateReceiverState p)

theorem recv_untraced : Untraced (recv (env.tracing doTrace ival pos) now p stamp) (recv env now p stamp) :=
  Untraced.after (checkSize p) fun _ => startPolling_untraced.bind (.of_eq fun _ _ => meet_tracing)

end Recv

section Send

variable {hdr : Hdr} {payload : ℕ} {daddr : Addr} {tuple : RequestIdTuple} {thread : ℤ}

theorem sendToTransportDown_untraced : Untraced
    (sendToTransportDown (env.tracing doTrace ival pos) now hdr payload daddr)
    (sendToTransportDown env now hdr payload daddr) := by
  refine startPolling_untraced.bind (.of_eq fun h time => ?_)
  cases hdr.msgType with
  | request =>
    cases hdr.isSinglePacketMsg with
    | none => rfl
    | some single =>
      refine ite_map (fun _ => rfl) fun _ => ?_
      exact bind_map_same fun _ => rfl
  | reply =>
    cases hdr.isSinglePacketMsg with
    | none => rfl
    | some single => exact bind_map_same fun _ => rfl
  | _ => rfl

theorem handleReqRdy_untraced :
    Untraced (handleReqRdy (env.tracing doTrace ival pos) now hdr) (handleReqRdy env now hdr) := by
  intro h time
  unfold handleReqRdy
  have same : (h.polled time).rpc = h.rpc := rfl
  rw [same]
  cases h.rpc.pendingReqs.find (hdr.clThreadId, hdr.reqId) with
  | none => rfl
  | some state => exact sendToTransportDown_untraced h time

theorem shortingReq0_untraced : Untraced (shortingReq0 (env.tracing doTrace ival pos) now hdr payload)
    (shortingReq0 env now hdr payload) :=
  Untraced.after _ fun _ => Untraced.after _ fun _ => handleReqRdy_untraced

theorem sendToTransport_untraced : Untraced (sendToTransport (env.tracing doTrace ival pos) now hdr payload daddr)
    (sendToTransport env now hdr payload daddr) := by
  unfold sendToTransport
  cases hdr.isReq0OfMultipkt with
  | false => exact sendToTransportDown_untraced
  | true =>
    refine startPolling_untraced.bind fun h time => ?_
    exact shortingReq0_untraced { h with snd := h.snd.prepMsgSend hdr payload daddr } time

theorem sendReq_untraced :
    Untraced (sendReq (env.tracing doTrace ival pos) now payload tuple) (sendReq env now payload tuple) := by
  intro h time
  unfold sendReq
  split
  · rfl
  · exact sendToTransport_untraced { h with rpc := _ } time

theorem sendResponse_untraced :
    Untraced (sendResponse (env.tracing doTrace ival pos) now payload tuple) (sendResponse env now payload tuple) := by
  intro h time
  unfold sendResponse
  have same : (h.polled time).rpc = h.rpc := rfl
  rw [same]
  cases h.rpc.pendingRequests.find tuple.uniqReqId with
  | none => rfl
  | some state => exact sendToTransport_untraced { h with rpc := _ } time

theorem appSendResponse_untraced : Untraced (appSendResponse (env.tracing doTrace ival pos) now thread payload)
    (appSendResponse env now thread payload) := by
  intro h time
  unfold appSendResponse
  have same : (h.polled time).rpc = h.rpc := rfl
  rw [same]
  cases h.rpc.pendingTasks thread with
  | nil => rfl
  | cons tuple rest => exact (sendResponse_untraced.bind (.of_eq fun _ _ => rfl)) h time

end Send

inductive Input
  | poll (now : Time)
  | packet (now : Time) (p : Packet) (stamp : Stamp)
  | request (now : Time) (payload : ℕ) (tuple : RequestIdTuple)
  | response (now : Time) (thread : ℤ) (payload : ℕ)
  | collect
  deriving DecidableEq

def Input.act (env : Env) : Input → Host → Checked Host
  | .poll now => Host.poll env now
  | .packet now p stamp => Host.recv env now p stamp
  | .request now payload tuple => Host.sendReq env now payload tuple
  | .response now thread payload => Host.appSendResponse env now thread payload
  | .collect => fun h => pure { h with rpc := h.rpc.garbageCollectState }

def feed (env : Env) : List Input → Host → Checked Host
  | [], h => return h
  | input :: rest, h => input.act env h >>= feed env rest

theorem act_untraced (input : Input) : Untraced (input.act (env.tracing doTrace ival pos)) (input.act env) := by
  cases input with
  | poll now => exact poll_untraced
  | packet now p stamp => exact recv_untraced
  | request now payload tuple => exact sendReq_untraced
  | response now thread payload => exact appSendResponse_untraced
  | collect => exact .of_eq fun _ _ => rfl

theorem feed_untraced (inputs : List Input) : Untraced (feed (env.tracing doTrace ival pos) inputs)
    (feed env inputs) := by
  induction inputs with
  | nil => exact .of_eq fun _ _ => rfl
  | cons input rest ih => exact (act_untraced input).bind ih

/-- Two runs of a host on the same inputs, that are traced in two ways, send the same
packets and reach the same state after every input, or stop there with the same fault;
only the time when the statistics were last written may differ. -/
theorem tracing_unseen (env : Env) (doTrace : Bool) (ival : ℚ) (pos : 0 < ival) (addr : Addr) (inputs : List Input) :
    polled 0 <$> feed (env.tracing doTrace ival pos) inputs (init (env.tracing doTrace ival pos).cfg addr) =
      polled 0 <$> feed env inputs (init env.cfg addr) :=
  feed_untraced inputs (init env.cfg addr) 0

def quiet : Env := ⟨Config.small 3076 (-1) 0 3 0 twoFrames_set allUnsolicited_set, .plain⟩

def twoPackets : List Input := [.request 10 2000 ⟨0, 0, 0, 1, 0, 0, 10⟩, .poll 11, .poll 12]

/-- The traced host writes its statistics and sends the same two packets. -/
theorem tracing_unseen_twoPackets :
    polled 0 <$> feed (quiet.tracing true (1 / 1000) (by norm_num)) twoPackets (init quiet.cfg 0) =
      polled 0 <$> feed quiet twoPackets (init quiet.cfg 0) ∧
    ((feed (quiet.tracing true (1 / 1000) (by norm_num)) twoPackets (init quiet.cfg 0)).map
      fun h => (h.lastPollTrace, h.sent.length)).toOption = some (12, 2) ∧
    ((feed quiet twoPackets (init quiet.cfg 0)).map fun h => (h.lastPollTrace, h.sent.length)).toOption = some (0, 2) :=
  ⟨tracing_unseen quiet true (1 / 1000) (by norm_num) 0 twoPackets, by decide +kernel, by decide +kernel⟩

end Host

end PhantomPass
