import PhantomPass.Credit.SendOrder
import PhantomPass.Refinement.Transport

/-! The sender as a sending half: the vectors of pointers hold the messages they
should, and a host that sends does nothing to its other parts. -/

set_option autoImplicit false

namespace PhantomPass

open Lib (RoundRobin Store)

namespace Sender

def pool (s : Sender) (addr : Addr) : ℤ := if addr ∈ s.remotes.keys then (s.rcvr addr).availCreditBytes else 0

/-- The sending half that a sender is, with what was sent and the GRANTs that came. -/
def side (s : Sender) (addr : Addr) (out grants : List Packet) : SendSide where
  addr := addr
  msgs := s.outbound
  avail := s.pool
  out := out
  grants := grants

/-- The vectors name each message once: the inactive ones until they are
activated, a receiver's ones as long as they have bytes to send. -/
structure Queues (s : Sender) : Prop where
  inactive_nodup : s.outboundInactive.msgs.Nodup
  inactive : ∀ id, id ∈ s.outboundInactive.msgs ↔ id ∈ s.outbound.keys ∧ (s.msg id).active = false
  queue_nodup : ∀ addr ∈ s.remotes.keys, (s.rcvr addr).outMsgs.msgs.Nodup
  queue : ∀ addr ∈ s.remotes.keys, ∀ id, id ∈ (s.rcvr addr).outMsgs.msgs ↔
    id ∈ s.outbound.keys ∧ (s.msg id).active = true ∧ 0 < (s.msg id).unsentBytes ∧ (s.msg id).remoteAddr = addr
  remote : ∀ id ∈ s.outbound.keys, (s.msg id).remoteAddr ∈ s.remotes.keys

theorem Queues.init : Queues {} where
  inactive_nodup := List.nodup_nil
  inactive := by simp [RoundRobin.empty]
  queue_nodup := by simp
  queue := by simp
  remote := by simp

theorem Queues.congr {s s' : Sender} (queues : Queues s) (outbound : s'.outbound = s.outbound)
    (inactive : s'.outboundInactive = s.outboundInactive) (remotes : s'.remotes = s.remotes) : Queues s' := by
  obtain ⟨nodup, inactive', queue_nodup, queue, remote⟩ := queues
  unfold msg rcvr at *
  constructor <;> simp only [outbound, inactive, remotes, msg, rcvr] <;> assumption

section Update

variable {s : Sender}

@[simp] theorem remotes_modifyMsg (id : UniqReqId) (change : OutboundMsgState → OutboundMsgState) :
    (s.modifyMsg id change).remotes = s.remotes := rfl

@[simp] theorem outbound_modifyRcvr (addr : Addr) (change : ReceiverState → ReceiverState) :
    (s.modifyRcvr addr change).outbound = s.outbound := rfl

theorem rcvr_modifyRcvr (addr other : Addr) (change : ReceiverState → ReceiverState) :
    (s.modifyRcvr addr change).rcvr other = if other = addr then change (s.rcvr addr) else s.rcvr other :=
  Store.get_modify ..

theorem msg_modifyMsg (id other : UniqReqId) (change : OutboundMsgState → OutboundMsgState) :
    (s.modifyMsg id change).msg other = if other = id then change (s.msg id) else s.msg other :=
  Store.get_modify ..

theorem pool_modifyRcvr {addr : Addr} (known : addr ∈ s.remotes.keys) (change : ReceiverState → ReceiverState) :
    (s.modifyRcvr addr change).pool = Function.update s.pool addr (change (s.rcvr addr)).availCreditBytes := by
  funext other
  unfold pool
  rw [rcvr_modifyRcvr]
  have keys : (s.modifyRcvr addr change).remotes.keys = s.remotes.keys := rfl
  rw [keys]
  by_cases same : other = addr
  · subst same; rw [Function.update_self, if_pos known, if_pos rfl]
  · rw [Function.update_of_ne same, if_neg same]

theorem pool_eq {addr : Addr} (known : addr ∈ s.remotes.keys) : s.pool addr = (s.rcvr addr).availCreditBytes :=
  if_pos known

theorem Queues.modifyRcvr (queues : Queues s) {addr : Addr} {change : ReceiverState → ReceiverState}
    (keeps : (change (s.rcvr addr)).outMsgs = (s.rcvr addr).outMsgs) : Queues (s.modifyRcvr addr change) := by
  have same : ∀ other, ((s.modifyRcvr addr change).rcvr other).outMsgs = (s.rcvr other).outMsgs := by
    intro other
    rw [rcvr_modifyRcvr]
    split
    · next h => rw [keeps, h]
    · rfl
  exact {
    inactive_nodup := queues.inactive_nodup
    inactive := queues.inactive
    queue_nodup := fun other known => by rw [same]; exact queues.queue_nodup other known
    queue := fun other known id => by rw [same]; exact queues.queue other known id
    remote := queues.remote }

theorem Queues.addCredit (queues : Queues s) (addr : Addr) (credit data : ℤ) : Queues (s.addCredit addr credit data) :=
  queues.modifyRcvr rfl

theorem Queues.modifyMsg (queues : Queues s) (id : UniqReqId) (change : OutboundMsgState → OutboundMsgState)
    (active : (change (s.msg id)).active = (s.msg id).active)
    (unsent : (change (s.msg id)).unsentBytes = (s.msg id).unsentBytes)
    (remote : (change (s.msg id)).remoteAddr = (s.msg id).remoteAddr) : Queues (s.modifyMsg id change) := by
  have same : ∀ other, ((s.modifyMsg id change).msg other).active = (s.msg other).active ∧
      ((s.modifyMsg id change).msg other).unsentBytes = (s.msg other).unsentBytes ∧
      ((s.modifyMsg id change).msg other).remoteAddr = (s.msg other).remoteAddr := by
    intro other
    rw [msg_modifyMsg]
    split
    · next h => subst h; exact ⟨active, unsent, remote⟩
    · exact ⟨rfl, rfl, rfl⟩
  exact {
    inactive_nodup := queues.inactive_nodup
    inactive := fun other => by rw [(same other).1]; exact queues.inactive other
    queue_nodup := queues.queue_nodup
    queue := fun addr known other => by
      rw [(same other).1, (same other).2.1, (same other).2.2]; exact queues.queue addr known other
    remote := fun other inside => by rw [(same other).2.2]; exact queues.remote other inside }

theorem Queues.advance (queues : Queues s) {inactive : RoundRobin UniqReqId}
    (msgs : inactive.msgs = s.outboundInactive.msgs) : Queues { s with outboundInactive := inactive } where
  inactive_nodup := by dsimp only; rw [msgs]; exact queues.inactive_nodup
  inactive := fun id => by dsimp only; rw [msgs]; exact queues.inactive id
  queue_nodup := queues.queue_nodup
  queue := queues.queue
  remote := queues.remote

end Update

section Create

theorem findOrCreate_of_mem {s : Sender} {addr : Addr} (known : addr ∈ s.remotes.keys) : s.findOrCreate addr = s :=
  if_pos known

theorem mem_findOrCreate (s : Sender) (addr : Addr) : addr ∈ (s.findOrCreate addr).remotes.keys := by
  unfold findOrCreate
  split
  · next known => exact known
  · exact (Store.mem_keys_insert ..).mpr (Or.inr rfl)

@[simp] theorem outbound_findOrCreate (s : Sender) (addr : Addr) : (s.findOrCreate addr).outbound = s.outbound := by
  unfold findOrCreate; split <;> rfl

@[simp] theorem outboundInactive_findOrCreate (s : Sender) (addr : Addr) :
    (s.findOrCreate addr).outboundInactive = s.outboundInactive := by
  unfold findOrCreate; split <;> rfl

theorem mem_keys_findOrCreate (s : Sender) (addr other : Addr) :
    other ∈ (s.findOrCreate addr).remotes.keys ↔ other ∈ s.remotes.keys ∨ other = addr := by
  unfold findOrCreate
  by_cases known : addr ∈ s.remotes.keys
  · rw [if_pos known]
    exact ⟨Or.inl, fun h => h.elim id fun same => same ▸ known⟩
  · rw [if_neg known]
    exact Store.mem_keys_insert ..

theorem rcvr_findOrCreate {s : Sender} {addr other : Addr} (there : other ∈ (s.findOrCreate addr).remotes.keys) :
    other ∈ s.remotes.keys ∧ (s.findOrCreate addr).rcvr other = s.rcvr other ∨
      other ∉ s.remotes.keys ∧ (s.findOrCreate addr).rcvr other = { rcverAddr := addr } := by
  by_cases known : addr ∈ s.remotes.keys
  · rw [findOrCreate_of_mem known] at there ⊢
    exact Or.inl ⟨there, rfl⟩
  · have rcvr : (s.findOrCreate addr).rcvr other = if other = addr then { rcverAddr := addr } else s.rcvr other := by
      unfold findOrCreate Sender.rcvr
      rw [if_neg known]
      exact Store.get_insert ..
    rw [rcvr]
    by_cases same : other = addr
    · exact Or.inr ⟨same ▸ known, if_pos same⟩
    · exact Or.inl ⟨((s.mem_keys_findOrCreate addr other).mp there).resolve_right same, if_neg same⟩

@[simp] theorem pool_findOrCreate (s : Sender) (addr : Addr) : (s.findOrCreate addr).pool = s.pool := by
  funext other
  unfold pool
  by_cases there : other ∈ (s.findOrCreate addr).remotes.keys
  · rw [if_pos there]
    rcases rcvr_findOrCreate there with ⟨known, same⟩ | ⟨unknown, fresh⟩
    · rw [if_pos known, same]
    · rw [if_neg unknown, fresh]
  · rw [if_neg there, if_neg fun known => there ((s.mem_keys_findOrCreate addr other).mpr (Or.inl known))]

theorem Queues.findOrCreate {s : Sender} (queues : Queues s) (addr : Addr) : Queues (s.findOrCreate addr) where
  inactive_nodup := by rw [outboundInactive_findOrCreate]; exact queues.inactive_nodup
  inactive := by unfold msg; rw [outboundInactive_findOrCreate, outbound_findOrCreate]; exact queues.inactive
  queue_nodup other there := by
    rcases rcvr_findOrCreate there with ⟨known, same⟩ | ⟨-, fresh⟩
    · rw [same]; exact queues.queue_nodup other known
    · rw [fresh]; exact List.nodup_nil
  queue other there id := by
    unfold msg
    rw [outbound_findOrCreate]
    rcases rcvr_findOrCreate there with ⟨known, same⟩ | ⟨unknown, fresh⟩
    · rw [same]; exact queues.queue other known id
    · rw [fresh]
      constructor
      · intro queued
        simp [RoundRobin.empty] at queued
      · rintro ⟨inside, -, -, remote⟩
        exact absurd (remote ▸ queues.remote id inside) unknown
  remote id inside := by
    rw [outbound_findOrCreate] at inside
    unfold msg
    rw [outbound_findOrCreate]
    exact (s.mem_keys_findOrCreate addr _).mpr (Or.inl (queues.remote id inside))

end Create

end Sender

namespace Host

def sendSide (h : Host) : SendSide :=
  h.snd.side h.thisAddr (h.sent.filter fun p => !p.isGrant) (h.rcvd.filter Packet.isGrant)

/-- The frames to each destination are numbered in the order they were sent. -/
structure Numbered (h : Host) : Prop where
  src : ∀ p ∈ h.sent, p.src = h.thisAddr
  seqno : ∀ addr, (toAddr addr h.sent).map Packet.seqno = List.range (h.agentSeqno addr)

structure SendOk (cfg : Config) (h : Host) : Prop where
  queues : h.snd.Queues
  inv : SendInv cfg h.sendSide
  covered : h.sendSide.Covered
  numbered : h.Numbered

/-- A host that sends messages leaves its other parts alone. -/
structure Sends (cfg : Config) (h h' : Host) : Prop where
  thisAddr : h'.thisAddr = h.thisAddr
  rcv : h'.rcv = h.rcv
  rpc : h'.rpc = h.rpc
  rcvd : h'.rcvd = h.rcvd
  sent : ∃ more, h'.sent = h.sent ++ more ∧ ∀ p ∈ more, p.isGrant = false
  remotes : h'.snd.remotes.keys = h.snd.remotes.keys
  keys : h'.snd.outbound.keys = h.snd.outbound.keys
  ok : SendOk cfg h'
  steps : SendSide.Steps cfg h.sendSide h'.sendSide

namespace Sends

variable {cfg : Config} {h h1 h2 : Host}

theorem refl (ok : SendOk cfg h) : Sends cfg h h :=
  ⟨rfl, rfl, rfl, rfl, ⟨[], by simp⟩, rfl, rfl, ok, .refl⟩

theorem trans (first : Sends cfg h h1) (second : Sends cfg h1 h2) : Sends cfg h h2 := by
  obtain ⟨more, sent, kinds⟩ := first.sent
  obtain ⟨more', sent', kinds'⟩ := second.sent
  exact {
    thisAddr := second.thisAddr.trans first.thisAddr
    rcv := second.rcv.trans first.rcv
    rpc := second.rpc.trans first.rpc
    rcvd := second.rcvd.trans first.rcvd
    sent := ⟨more ++ more', by rw [sent', sent, List.append_assoc], fun p inside => by
      rcases List.mem_append.mp inside with old | new
      · exact kinds p old
      · exact kinds' p new⟩
    remotes := second.remotes.trans first.remotes
    keys := second.keys.trans first.keys
    ok := second.ok
    steps := first.steps.trans second.steps }

end Sends

theorem Numbered.emit {hdr : Hdr} {n : ℕ} {daddr : Addr} {h : Host} {p : Packet} (numbered : h.Numbered)
    (emits : Emits hdr n daddr h p) : (h.emit p).Numbered where
  src q inside := by
    rcases List.mem_append.mp inside with old | new
    · exact numbered.src q old
    · rw [List.mem_singleton.mp new]; exact emits.carries.src
  seqno addr := by
    change (toAddr addr (h.sent ++ [p])).map Packet.seqno =
      List.range (Function.update h.agentSeqno p.dst (h.agentSeqno p.dst + 1) addr)
    rw [toAddr_append, List.map_append, numbered.seqno addr, toAddr_singleton, emits.carries.dst]
    by_cases same : daddr = addr
    · subst same
      rw [if_pos rfl, Function.update_self, List.range_succ, List.map_singleton, emits.seqno]
    · rw [if_neg same, Function.update_of_ne (Ne.symm same), List.map_nil, List.append_nil]

theorem SendOk.quiet {cfg : Config} {h h' : Host} (ok : SendOk cfg h) (queues : h'.snd.Queues)
    (step : SendSide.Steps cfg h.sendSide h'.sendSide) (addr : h'.thisAddr = h.thisAddr) (sent : h'.sent = h.sent)
    (seqno : h'.agentSeqno = h.agentSeqno) : SendOk cfg h' where
  queues := queues
  inv := ok.inv.steps step
  covered := SendInv.covered_steps ok.inv ok.covered step
  numbered := ⟨by rw [sent, addr]; exact ok.numbered.src, by rw [sent, seqno]; exact ok.numbered.seqno⟩

end Host

end PhantomPass
