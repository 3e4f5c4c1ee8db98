import PhantomPass.Credit.RecvSide

/-! What the agent makes of one packet's payload: a single frame that carries
it, whatever the marks and the queue length say. -/

set_option autoImplicit false

namespace PhantomPass

namespace Host

variable {env : Env} {hdr : Hdr} {n : ℕ} {daddr : Addr} {h h' : Host}

structure Emits (hdr : Hdr) (n : ℕ) (daddr : Addr) (h : Host) (p : Packet) : Prop where
  carries : p.Carries hdr n h.thisAddr daddr
  seqno : p.seqno = h.agentSeqno daddr

theorem sendFrame_ok {last : Bool} {flowid prio grantedBytes rest : ℤ}
    (run : h.sendFrame env last daddr n flowid prio hdr grantedBytes = .ok (h', rest)) :
    ∃ p, Emits hdr n daddr h p ∧ h' = h.emit p := by
  unfold sendFrame assert at run
  simp only [Lib.bind_eq_ok, Lib.require_eq_ok, Lib.pure_eq_ok, exists_and_left, exists_const, Prod.mk.injEq] at run
  obtain ⟨⟨senderMarked, granted⟩, -, -, qlen, -, same, -⟩ := run
  exact ⟨_, ⟨⟨rfl, rfl, rfl, rfl, rfl⟩, rfl⟩, same.symm⟩

theorem sendFrame_snd {last : Bool} {flowid prio grantedBytes rest : ℤ}
    (run : h.sendFrame env last daddr n flowid prio hdr grantedBytes = .ok (h', rest)) : h'.snd = h.snd := by
  obtain ⟨p, -, rfl⟩ := sendFrame_ok run
  rfl

theorem sendFullFrames_snd {turns : ℕ} {flowid prio grantedBytes rest : ℤ} {hdr' : Hdr}
    (run : h.sendFullFrames env daddr flowid prio turns hdr grantedBytes = .ok (hdr', rest, h')) : h'.snd = h.snd := by
  induction turns generalizing h hdr grantedBytes with
  | zero =>
    simp only [sendFullFrames, Lib.pure_eq_ok, Prod.mk.injEq] at run
    rw [run.2.2]
  | succ turns ih =>
    unfold sendFullFrames at run
    simp only [Lib.bind_eq_ok] at run
    obtain ⟨⟨h1, granted⟩, frame, run⟩ := run
    exact (ih run).trans (sendFrame_snd frame)

theorem forwardToTransport_snd (run : h.forwardToTransport env hdr n daddr = .ok h') : h'.snd = h.snd := by
  unfold forwardToTransport sendmsg at run
  simp only [Lib.bind_eq_ok] at run
  obtain ⟨-, -, ⟨hdr', granted, h1⟩, full, run⟩ := run
  have first := sendFullFrames_snd full
  split at run
  · rw [Lib.pure_eq_ok] at run
    rw [← run, first]
  · simp only [Lib.bind_eq_ok, Lib.pure_eq_ok] at run
    obtain ⟨⟨h2, granted⟩, frame, rfl⟩ := run
    exact (sendFrame_snd frame).trans first

/-- Full frames have room for a whole number of full payloads, the rest goes into a last one. -/
theorem sendmsg_ok {fid prio : ℤ} (run : h.sendmsg env n hdr daddr fid prio = .ok h') (pos : 0 < n)
    (fits : n ≤ maxR2p2Payload) : ∃ p, Emits hdr n daddr h p ∧ h' = h.emit p := by
  unfold sendmsg assert at run
  simp only [Lib.bind_eq_ok, Lib.require_eq_ok, exists_and_left, exists_const] at run
  obtain ⟨-, ⟨hdr', granted, h1⟩, full, rest⟩ := run
  rcases Nat.lt_or_ge n maxR2p2Payload with short | whole
  · rw [Nat.div_eq_of_lt short] at full
    unfold sendFullFrames at full
    simp only [Lib.pure_eq_ok, Prod.mk.injEq] at full
    obtain ⟨rfl, -, rfl⟩ := full
    rw [Nat.mod_eq_of_lt short, if_neg (by omega)] at rest
    simp only [Lib.bind_eq_ok, Lib.pure_eq_ok] at rest
    obtain ⟨⟨h2, granted⟩, frame, rfl⟩ := rest
    exact sendFrame_ok frame
  · have n_eq : n = maxR2p2Payload := Nat.le_antisymm fits whole
    subst n_eq
    rw [Nat.div_self (by decide)] at full
    unfold sendFullFrames sendFullFrames at full
    simp only [Lib.bind_eq_ok, Lib.pure_eq_ok, Prod.mk.injEq] at full
    obtain ⟨⟨h2, granted⟩, frame, -, -, rfl⟩ := full
    rw [Nat.mod_self, if_pos rfl, Lib.pure_eq_ok] at rest
    subst rest
    exact sendFrame_ok frame

theorem forwardToTransport_ok (run : h.forwardToTransport env hdr n daddr = .ok h') (pos : 0 < n)
    (fits : n ≤ maxR2p2Payload) : ∃ p, Emits hdr n daddr h p ∧ h' = h.emit p := sendmsg_ok run pos fits

/-- Data can be marked, and the queue length can be computed. -/
structure CanSend (env : Env) (hdr : Hdr) (daddr : Addr) (s : Sender) : Prop where
  created : 0 < hdr.msgCreationTime
  marks : env.cfg.ecnCapable = 1 → env.cfg.senderAlgo = 1 → hdr.msgType ≠ .request ∧ hdr.msgType ≠ .reply
  qlen : ∃ q, getOutboundVqLen env daddr s = .ok q

theorem markFrame_succeeds {last : Bool} {grantedBytes : ℤ}
    (marks : env.cfg.ecnCapable = 1 → env.cfg.senderAlgo = 1 → hdr.msgType ≠ .request ∧ hdr.msgType ≠ .reply)
    (nonneg : 0 ≤ grantedBytes) :
    ∃ r, markFrame env.cfg last hdr grantedBytes = .ok r := by
  unfold markFrame
  split
  · next data =>
    rw [Bool.and_eq_true, decide_eq_true_eq] at data
    have algo : env.cfg.senderAlgo ≠ 1 := by
      intro one
      obtain ⟨request, reply⟩ := marks data.1 one
      simp [request, reply] at data
    refine Lib.bind_succeeds ⟨_, if_neg algo⟩ fun decision _ => ?_
    have room : -(maxR2p2Payload : ℤ) ≤ grantedBytes - maxR2p2Payload := by omega
    have room' : -(2 * maxR2p2Payload : ℤ) ≤ grantedBytes - maxR2p2Payload := by omega
    cases last <;> simp [assert, Lib.require, room, room']
  · exact ⟨_, rfl⟩

theorem sendFrame_succeeds (last : Bool) (flowid prio : ℤ) {grantedBytes : ℤ} (can : CanSend env hdr daddr h.snd)
    (nonneg : 0 ≤ grantedBytes) (fits : n ≤ maxR2p2Payload) :
    ∃ r, h.sendFrame env last daddr n flowid prio hdr grantedBytes = .ok r := by
  unfold sendFrame
  refine Lib.bind_succeeds (markFrame_succeeds can.marks nonneg) fun marked _ => ?_
  obtain ⟨q, qlen⟩ := can.qlen
  have size : max (n + r2p2AllHeadersSize + interPktGapSize + ethernetPreambleSize) minEthernetFrameOnWire ≤
      maxEthernetFrameOnWire := by
    simp only [r2p2AllHeadersSize, interPktGapSize, ethernetPreambleSize, minEthernetFrameOnWire,
      maxEthernetFrameOnWire, maxR2p2Payload] at *
    omega
  simp [assert, Lib.require, size, qlen]

theorem forwardToTransport_succeeds (can : CanSend env hdr daddr h.snd) (pos : 0 < n) (fits : n ≤ maxR2p2Payload) :
    ∃ h', h.forwardToTransport env hdr n daddr = .ok h' := by
  have granted : (0 : ℤ) ≤ if (hdr.msgType == .request || hdr.msgType == .reply) = true then
      (h.snd.getGrantedBytesQueueLen : ℤ) else 0 := by split <;> omega
  unfold forwardToTransport sendmsg
  refine Lib.bind_succeeds ⟨_, Lib.require_true _ can.created⟩ fun _ _ => ?_
  rcases Nat.lt_or_ge n maxR2p2Payload with short | whole
  · obtain ⟨r, frame⟩ := sendFrame_succeeds true _ _ can granted fits
    rw [Nat.div_eq_of_lt short, Nat.mod_eq_of_lt short]
    unfold sendFullFrames
    simp only [pure_bind, if_neg pos.ne']
    exact Lib.bind_succeeds ⟨r, frame⟩ fun _ _ => ⟨_, rfl⟩
  · have n_eq : n = maxR2p2Payload := Nat.le_antisymm fits whole
    subst n_eq
    rw [Nat.div_self pos, Nat.mod_self]
    unfold sendFullFrames
    refine Lib.bind_succeeds (Lib.bind_succeeds (sendFrame_succeeds _ _ _ can granted fits) fun _ _ =>
      ⟨_, rfl⟩) fun r _ => ?_
    obtain ⟨hdr', granted', h1⟩ := r
    exact ⟨h1, if_pos rfl⟩

end Host

end PhantomPass
