import PhantomPass.Congestion.Windows
import PhantomPass.Deployment
import PhantomPass.Network.Conservation
import PhantomPass.Refinement.Checks

/-! The pool of credit of a sender for a receiver lies between what unannounced
messages there credited themselves and what the messages queued there still cost. -/

set_option autoImplicit false

namespace PhantomPass

open Lib (Avoids Store)

namespace Sender

def Silent (s : Sender) (addr : Addr) (id : UniqReqId) : Prop :=
  id ∈ s.outbound.keys ∧ (s.msg id).remoteAddr = addr ∧ (s.msg id).sentAnouncement = false

/-- What the messages to a receiver credited themselves that have sent no packet. -/
def pledgedTo (s : Sender) (addr : Addr) : ℤ :=
  s.outbound.total fun _ m => if m.remoteAddr = addr then m.pledged else 0

/-- As long as a message to the receiver is not announced, the receiver's policy state names such a message. -/
def NamesSilent (s : Sender) (addr : Addr) : Prop :=
  (∃ id, s.Silent addr id) → ∃ id, (s.rcverPolicyStates addr).msgState = some id ∧ s.Silent addr id

end Sender

namespace Host

variable {env : Env} {h : Host} {addr : Addr} {id : UniqReqId}

/-- Once all messages were considered, one that is not announced waits in its queue with credit for its first packet. -/
theorem affords_silent (ok : SendOk env.cfg h) (considered : h.Considered) (known : addr ∈ h.snd.remotes.keys)
    (quiet : h.snd.Silent addr id) : id ∈ (h.snd.rcvr addr).outMsgs.msgs ∧ h.snd.Affords addr id := by
  obtain ⟨inside, rfl, silent⟩ := quiet
  have msgOk : MsgOk env.cfg _ _ (h.snd.msg id) := ok.inv.msg id inside
  have active : (h.snd.msg id).active = true := by
    by_contra idle
    have waits := (ok.queues.inactive id).mpr ⟨inside, by simpa using idle⟩
    rw [considered] at waits
    cases waits
  have credited : (h.snd.msg id).isScheduled = false := by
    by_contra scheduled
    have announced := (msgOk.scheduled active (by simpa using scheduled)).2
    rw [silent] at announced
    cases announced
  have first : (h.snd.msg id).sentFirst = false := (msgOk.announced credited).symm.trans silent
  have unsent : 0 < (h.snd.msg id).unsentBytes := by
    rw [msgOk.unsent_of_sentFirst first]
    exact msgOk.total_pos
  have nonneg : 0 ≤ (h.snd.rcvr (h.snd.msg id).remoteAddr).availCreditBytes := by
    rw [← Sender.pool_eq known]
    exact ok.inv.avail_nonneg _
  refine ⟨(ok.queues.queue _ known id).mpr ⟨inside, active, unsent, rfl⟩, (Sender.affords_iff nonneg).mpr ?_⟩
  rw [← Sender.pool_eq known]
  exact ok.inv.pays_first inside credited first

theorem names_of_pick (ok : SendOk env.cfg h) (considered : h.Considered) (known : addr ∈ h.snd.remotes.keys)
    (pick : h.snd.PickOk addr (h.snd.rcverPolicyStates addr)) : h.snd.NamesSilent addr := by
  rintro ⟨id, quiet⟩
  obtain ⟨queued, afford⟩ := affords_silent ok considered known quiet
  rcases pick with ⟨-, -, nothing⟩ | ⟨-, best, member, state, -, -, prior⟩
  · exact absurd afford (nothing id queued)
  · refine ⟨best, state, ?_⟩
    obtain ⟨inside, -, -, towards⟩ := (ok.queues.queue addr known best).mp member
    refine ⟨inside, towards, ?_⟩
    by_contra announced
    have other := prior (by simpa using announced) id queued afford
    rw [quiet.2.2] at other
    cases other

theorem wantToSend_names (ok : SendOk env.cfg h) (considered : h.Considered) (known : addr ∈ h.snd.remotes.keys) :
    ∃ snd, h.snd.wantToSend env.plat addr = .ok snd ∧ snd.NamesSilent addr := by
  obtain ⟨snd, run⟩ := Sender.wantToSend_succeeds env.plat h.snd addr
  have wants := Sender.wantToSend_ok run
  have chosen := (chooses_ok ok wants.chooses).ok
  exact ⟨snd, run, names_of_pick chosen (considered.chooses wants.chooses) (wants.chooses.remotes ▸ known) wants.pick⟩

theorem updatePolicyState_names {snd : Sender} (ok : SendOk env.cfg h) (considered : h.Considered)
    (run : h.snd.updatePolicyState env = .ok snd) (known : addr ∈ snd.remotes.keys) : snd.NamesSilent addr := by
  obtain ⟨chooses, picks⟩ := Sender.updatePolicyState_ok run
  have chosen := (chooses_ok ok chooses).ok
  exact names_of_pick chosen (considered.chooses chooses) known (picks addr known)

end Host

namespace Net

variable {cfg : Config} {env : Env} {net net' : Net} {src dst : Addr} {id : UniqReqId}

section Ceiling

variable (ok : NetOk cfg net)

include ok

theorem drawn_le (inside : id ∈ (net.msgs src).keys) (towards : (net.msg src id).remoteAddr = dst)
    (known : id ∈ (net.host dst).rcv.inboundObjs.keys) :
    (net.msg src id).selfAllocCredit + ((net.host dst).rcv.msg id).drawn ≤ ethernet.wire
    (net.msg src id).totalBytes := by
  have inv := (ok.host dst).halves.recv.inv
  have msgOk := msgOk ok inside
  obtain ⟨d, le, aligned, data, credit, -⟩ := msgOk.alloc
  have obj : ObjOk (net.host dst).arrived _ id ((net.host dst).rcv.msg id) := inv.obj id known
  obtain ⟨q, arrived, of, hdr, -⟩ := inv.first id known
  subst towards
  obtain ⟨-, -, unsolData, -⟩ := packet_of_rcvd ok inside (List.mem_of_mem_filter arrived) (inv.arrived q arrived).1 of
  have base : ((net.host (net.msg src id).remoteAddr).rcv.msg id).base = d := by
    have first : ((net.host (net.msg src id).remoteAddr).rcv.msg id).firstHeader = q.hdr := hdr.symm
    unfold InboundMsgState.base
    rw [first, unsolData, data, Int.toNat_natCast]
  have whole := wire_prefix le aligned
  have drawn : ((net.host (net.msg src id).remoteAddr).rcv.msg id).drawn ≤
      ethernet.wire ((net.msg src id).totalBytes - d) := by
    unfold InboundMsgState.drawn
    rw [base]
    cases info : ((net.host (net.msg src id).remoteAddr).rcv.msg id).receivedMsgInfo with
    | true =>
      obtain ⟨q', arrived', of', pos, size⟩ := obj.informed info
      obtain ⟨-, -, -, total⟩ :=
        packet_of_rcvd ok inside (List.mem_of_mem_filter arrived') (inv.arrived q' arrived').1 of'
      rw [← size, total.resolve_left pos.ne']
      omega
    | false =>
      obtain ⟨-, expected, -⟩ := obj.idle info
      rw [expected, Nat.zero_sub, Nat.zero_sub, sub_self]
      positivity
  rw [credit]
  omega

/-- Of a message that has neither credited itself nor asked for credit nothing has arrived. -/
theorem unknown_of_idle (inside : id ∈ (net.msgs src).keys) (towards : (net.msg src id).remoteAddr = dst)
    (idle : (net.msg src id).active = false) : id ∉ (net.host dst).rcv.inboundObjs.keys := by
  intro known
  subst towards
  have msgOk := msgOk ok inside
  have inv := (ok.host (net.msg src id).remoteAddr).halves.recv.inv
  obtain ⟨q, arrived, of, -, -⟩ := inv.first id known
  have rcvd := List.mem_of_mem_filter arrived
  have kind := (inv.arrived q arrived).1
  have origin := src_of_rcvd ok inside rfl rcvd kind of
  have sent := (sent_of_rcvd ok rcvd).1
  rw [origin] at sent
  have out : q ∈ (net.host src).sendSide.out := List.mem_filter.mpr ⟨sent, by rw [Packet.isGrant_of_part kind]; rfl⟩
  have name := of.trans (msg_reqId ok inside).symm
  rcases kind with data | req
  · have one := mem_dataOf.mpr ⟨out, data, name⟩
    rw [msgOk.idle_data idle] at one
    cases one
  · have one := mem_creditReqsOf.mpr ⟨out, req, name⟩
    rw [msgOk.idle_creditReqs idle] at one
    cases one

/-- What a message credited itself and was granted is what it has spent and can still take. -/
theorem credit_le_needed (inside : id ∈ (net.msgs src).keys) (towards : (net.msg src id).remoteAddr = dst) :
    (net.msg src id).selfAllocCredit +
        (if id ∈ (net.host dst).rcv.inboundObjs.keys then ((net.host dst).rcv.msg id).drawn else 0) ≤
      (net.msg src id).needed + (net.msg src id).spent := by
  have msgOk := msgOk ok inside
  by_cases waits : (net.msg src id).active = false ∧ (net.msg src id).isScheduled = true
  · have nothing : (net.msg src id).selfAllocCredit = 0 := by
      rcases msgOk.selfAlloc_cases with ⟨-, nothing⟩ | ⟨credited, -⟩
      · exact nothing
      · rw [waits.2] at credited
        cases credited
    unfold OutboundMsgState.needed OutboundMsgState.spent
    rw [if_pos waits, if_neg (unknown_of_idle ok inside towards waits.1), (msgOk.idle waits.1).2, nothing, sub_self]
  · unfold OutboundMsgState.needed OutboundMsgState.spent
    rw [if_neg waits]
    by_cases known : id ∈ (net.host dst).rcv.inboundObjs.keys
    · have := drawn_le ok inside towards known
      rw [if_pos known]
      omega
    · obtain ⟨d, le, aligned, -, credit, -⟩ := msgOk.alloc
      have whole := wire_prefix le aligned
      rw [if_neg known, credit]
      omega

theorem granted_le (src dst : Addr) : creditSum (fromAddr dst ((net.host src).rcvd.filter Packet.isGrant)) ≤
    (net.msgs src).total fun id m =>
      if m.remoteAddr = dst then
        (if id ∈ (net.host dst).rcv.inboundObjs.keys then ((net.host dst).rcv.msg id).drawn else 0)
      else 0 := by
  have split := grants_split ok src dst
  have flying : 0 ≤ creditSum ((net.between dst src).filter Packet.isGrant) := by
    refine creditSum_nonneg fun p inside => ?_
    obtain ⟨flight, grant⟩ := List.mem_filter.mp inside
    obtain ⟨towards, -⟩ := mem_fromAddr.mp flight
    exact (heard_of_grant ok (sent_of_flight ok (mem_toAddr.mp towards).1) grant).1
  have drawn : creditSum (toAddr src ((net.host dst).sent.filter Packet.isGrant)) =
      ((net.host dst).recvSide cfg).ofSender src InboundMsgState.drawn := (ok.host dst).halves.recv.inv.drawn src
  have known : ((net.host dst).recvSide cfg).ofSender src InboundMsgState.drawn = (net.msgs src).total fun id m =>
      if m.remoteAddr = dst then
        (if id ∈ (net.host dst).rcv.inboundObjs.keys then ((net.host dst).rcv.msg id).drawn else 0)
      else 0 := by
    symm
    refine Store.total_eq_total _ _ (fun id _ unknown => ?_) (fun id known foreign => ?_) fun id inside known => ?_
    · split
      · exact if_neg unknown
      · rfl
    · exact if_neg fun here => foreign (member_of_obj ok known here).1
    · by_cases towards : (net.msg src id).remoteAddr = dst
      · have origin := (obj_of_member ok inside towards known).1
        exact ((if_pos towards).trans (if_pos known)).trans (if_pos origin).symm
      · have away : ((net.host dst).rcv.msg id).remoteAddr ≠ src := fun here => towards (member_of_obj ok known here).2
        exact (if_neg towards).trans (if_neg away).symm
  omega

theorem pool_le_needed (src dst : Addr) :
    (net.host src).snd.pool dst ≤ (net.host src).sendSide.toward dst OutboundMsgState.needed := by
  have inv := (ok.host src).halves.send.inv
  have pool := inv.pool dst
  have spent := inv.spent dst
  have granted := granted_le ok src dst
  have each : (net.host src).sendSide.toward dst OutboundMsgState.selfAllocCredit +
      ((net.msgs src).total fun id m =>
        if m.remoteAddr = dst then
          (if id ∈ (net.host dst).rcv.inboundObjs.keys then ((net.host dst).rcv.msg id).drawn else 0)
        else 0) ≤
      (net.host src).sendSide.toward dst OutboundMsgState.needed +
        (net.host src).sendSide.toward dst OutboundMsgState.spent := by
    unfold SendSide.toward
    change (net.msgs src).total _ + _ ≤ (net.msgs src).total _ + (net.msgs src).total _
    rw [← Store.total_add, ← Store.total_add]
    apply Store.total_le_total
    intro id inside
    have msg : (net.msgs src).get id = net.msg src id := rfl
    rw [msg]
    by_cases towards : (net.msg src id).remoteAddr = dst
    · simp only [if_pos towards]
      exact credit_le_needed ok inside towards
    · simp only [if_neg towards]
      exact le_refl _
  change (net.host src).snd.pool dst + _ = _ + creditSum (fromAddr dst ((net.host src).rcvd.filter Packet.isGrant))
    at pool
  omega

theorem covers_of_polls {addr : Addr} {rpc : Rpc} {h : Host} (polls : Host.Polls cfg { net.host addr with rpc } h) :
    h.Covers := by
  have own : Host.Polls cfg (net.host addr) { h with rpc := (net.host addr).rpc } :=
    { polls with rpc := rfl, ok := polls.ok.withRpc _ }
  have ok1 : NetOk cfg (net.act addr net.flight { h with rpc := (net.host addr).rpc }) :=
    ok.polls ((ok.host addr).polls own) own rfl rfl rfl rfl rfl rfl
  intro dst
  have le := pool_le_needed ok1 addr dst
  rw [host_act, if_pos rfl] at le
  exact le

end Ceiling

section Run

theorem update_of_two {p : Packet} {stamp : Stamp} {st st' : SenderState} (two : cfg.senderAlgo = 2) :
    st.update cfg p stamp ≠ .ok st' := by
  intro run
  obtain ⟨-, st2, moved, -⟩ := SenderState.update_ok run
  unfold SenderState.updateSnState at moved
  simp [two] at moved

theorem Reach.rcvd_of_two {cond : Net → Event → Prop} (reach : Reach env cond net) (two : env.cfg.senderAlgo = 2)
    (a : Addr) : (net.host a).rcvd = [] := by
  induction reach generalizing a with
  | init => rfl
  | @step net net' e before enabled _ run ih =>
    have still : ∀ {addr : Addr} {flight : List Packet} {h : Host}, h.rcvd = [] →
      ((net.act addr flight h).host a).rcvd = [] := by
      intro addr flight h none
      rw [host_act]
      split
      · exact none
      · exact ih a
    cases fire_cases before.ok enabled run with
    | tick seconds => exact ih a
    | request client server clThread srThread appLevelId n tuple h1 polls => exact still (polls.rcvd.trans (ih client))
    | reply server thread n tuple rest st h1 polls => exact still (polls.rcvd.trans (ih server))
    | poll addr h polls => exact still (polls.rcvd.trans (ih addr))
    | deliver p stamp h1 h received =>
      obtain ⟨h1, st, -, window, -⟩ := Host.recv_cases received
      exact absurd window (update_of_two two)
    | collect addr => exact still (ih addr)

theorem inbound_of_rcvd {h : Host} (ok : Host.RecvOk cfg h) (none : h.rcvd = []) : h.rcv.inbound.msgs = [] := by
  apply List.eq_nil_iff_forall_not_mem.mpr
  intro id inside
  have known := ok.inv.live id (List.mem_toFinset.mpr inside)
  obtain ⟨q, arrived, -⟩ := ok.inv.first id known
  have rcvd : q ∈ h.rcvd := List.mem_of_mem_filter arrived
  rw [none] at rcvd
  cases rcvd

/-- Where the sender's algorithm 2 runs, no completely scheduled message waits in front of one with an
unsolicited part. -/
def InOrder (cfg : Config) (net : Net) : Prop := cfg.senderAlgo = 2 → ∀ a, (net.host a).snd.InOrder cfg

theorem polls_spare {w : Watched} {cond : Net → Event → Prop} (reach : Reach env cond net)
    (order : w.Asks env → ∀ a, (net.host a).snd.InOrder env.cfg) (a : Addr)
    (granting : w = .sendCreditPolicyCommon → ∀ rpc now, Avoids w.Stops ({ net.host a with rpc }.sendGrants env now)) :
    (net.host a).PollsSpare w env := by
  intro rpc now
  have ok := reach.ok
  apply Host.poll_spares ((ok.host a).halves.withRpc rpc)
  · exact fun h polls => covers_of_polls ok polls
  · constructor
    · exact fun asks => inbound_of_rcvd ((ok.host a).halves.withRpc rpc).recv (reach.rcvd_of_two asks.2 a)
    · exact fun asks => order asks a
  · exact fun same => granting same rpc now

theorem fire_spares {w : Watched} {e : Event} (polls : ∀ a, (net.host a).PollsSpare w env)
    (received : ∀ p stamp, e = .deliver p stamp → Avoids w.Stops ((net.host p.dst).recv env net.clock p stamp)) :
    Avoids w.Stops (net.fire env e) := by
  cases e with
  | tick seconds => exact .pure _
  | request client server clThread srThread appLevelId n =>
    unfold fire
    simp [Host.sendReq_spares (polls client)]
  | reply server thread n =>
    unfold fire
    simp [Host.appSendResponse_spares (polls server)]
  | poll addr =>
    unfold fire
    simp
    exact polls addr (net.host addr).rpc net.clock
  | deliver p stamp =>
    unfold fire
    simp [received p stamp rfl]
  | collect addr => exact .pure _

theorem fire_expects {cond : Net → Event → Prop} (reach : Reach env cond net) (order : net.InOrder env.cfg)
    (e : Event) : Avoids Watched.creditExpected.Stops (net.fire env e) := by
  have polls : ∀ a, (net.host a).PollsSpare .creditExpected env := by
    intro a
    apply polls_spare reach fun asks => order asks.2
    intro same
    cases same
  apply fire_spares polls
  intro p stamp _
  apply Host.recv_spares (polls p.dst)
  exact fun _ _ _ _ _ _ => Host.receivedData_spares fun same => by cases same

/-- A host of a run as a poll hands it to send_data. -/
def Handed (env : Env) (net : Net) (a : Addr) (now : Time) (h : Host) : Prop :=
  ∃ rpc, ({ net.host a with rpc } : Host).sendGrants env now = .ok h

/-- What holds of the pool for a receiver at the end of send_data. -/
structure Sandwiched (env : Env) (h : Host) (addr : Addr) : Prop where
  floor : h.snd.pledgedTo addr ≤ (h.snd.rcvr addr).availCreditBytes
  ceiling : (h.snd.rcvr addr).availCreditBytes ≤ h.snd.unsentBytes addr
  expected : ∃ expected, h.snd.creditExpected addr = .ok expected
  choice : ∃ snd, h.snd.wantToSend env.plat addr = .ok snd ∧ snd.NamesSilent addr

section Call

variable (ok : NetOk env.cfg net) {a addr : Addr} {now : Time} {h h' : Host} (handed : Handed env net a now h)

include ok handed

theorem Handed.grants : ∃ rpc, Host.Polls env.cfg { net.host a with rpc } h := by
  obtain ⟨rpc, granted⟩ := handed
  exact ⟨rpc, (Host.sendGrants_ok ((ok.host a).halves.withRpc rpc) granted).polls⟩

theorem Handed.sandwiched (run : h.sendData env now = .ok h') (known : addr ∈ h'.snd.remotes.keys) :
    Sandwiched env h' addr := by
  obtain ⟨rpc, first⟩ := handed.grants ok
  obtain ⟨sends, considered⟩ := Host.sendData_ok first.ok.send run
  have met : addr ∈ h.snd.remotes.keys := sends.remotes ▸ known
  have considered := considered fun alone => List.not_mem_nil (alone ▸ met)
  have covers := covers_of_polls ok (first.trans (sends.polls first.ok))
  have within := covers.within sends.ok fun id inside => absurd (considered ▸ inside) List.not_mem_nil
  constructor
  · rw [← Sender.pool_eq known]
    exact sends.ok.inv.floor addr
  · exact within addr known
  · exact Sender.creditExpected_succeeds (within addr known)
  · exact Host.wantToSend_names sends.ok considered known

theorem Handed.choice {h1 : Host} {snd : Sender} (announced : (h.updateDataBacklog env now).announce env = .ok h1)
    (update : h1.snd.updatePolicyState env = .ok snd) (known : addr ∈ snd.remotes.keys) : snd.NamesSilent addr := by
  obtain ⟨rpc, first⟩ := handed.grants ok
  have still := first.ok.send
  have updated : Host.SendOk env.cfg (h.updateDataBacklog env now) :=
    ⟨still.queues, still.inv, still.covered, still.numbered.src, still.numbered.seqno⟩
  obtain ⟨sends, considered⟩ := Host.announce_ok updated announced
  exact Host.updatePolicyState_names sends.ok considered update known

end Call

def shortBehindLong : List (Net → Event) :=
  [fun _ => .request 0 1 0 0 0 3000, fun _ => .request 0 1 0 0 0 100, fun _ => .request 0 1 0 0 0 100,
    fun _ => .tick (1 / 1000000)]

def shortUnsolicited (senderAlgo : ℕ) : Env := ⟨Config.small 3076 500 0 3 senderAlgo twoFrames_set (by decide), .plain⟩

end Run

end Net

end PhantomPass
