import PhantomPass.Network.Progress
import PhantomPass.Network.Traffic

/-! How the requests of an incast end. Every event of a run uses up some of the
packets that its requests account for, and until all is delivered there is a next one. -/

set_option autoImplicit false

namespace PhantomPass

/-- Settings with which a receiver takes data, and the stamp of the network. -/
structure Config.Accepts (cfg : Config) (stamp : Stamp) : Prop where
  accounts : cfg.accountUnsched = true
  algo : cfg.senderAlgo = 0 ∨ cfg.senderAlgo = 1 ∨ SenderState.MultiBit cfg ∧ SenderState.Report cfg stamp

namespace Net

variable {env : Env} {cfg : Config} {net net1 net' : Net} {e : Event} {cond cond' : Net → Event → Prop} {stamp : Stamp}
  {senders : Finset Addr} {src dst a : Addr} {p : Packet} {k : ℕ}

theorem Reach.mono (allows : ∀ net e, cond net e → cond' net e) (reach : Reach env cond net) : Reach env cond' net := by
  induction reach with
  | init => exact .init
  | step _ enabled holds run ih => exact ih.step enabled (allows _ _ holds) run

inductive GoesOn (env : Env) (cond : Net → Event → Prop) (net : Net) : Net → Prop
  | refl : GoesOn env cond net net
  | step {net1 net' : Net} {e : Event} : GoesOn env cond net net1 → net1.Enabled env e → cond net1 e →
      net1.fire env e = .ok net' → GoesOn env cond net net'

theorem GoesOn.trans (before : GoesOn env cond net net1) (after : GoesOn env cond net1 net') :
    GoesOn env cond net net' := by
  induction after with
  | refl => exact before
  | step _ enabled holds run ih => exact ih.step enabled holds run

theorem Reach.goesOn (reach : Reach env cond' net) (allows : ∀ net e, cond net e → cond' net e)
    (goesOn : GoesOn env cond net net') : Reach env cond' net' := by
  induction goesOn with
  | refl => exact reach
  | step _ enabled holds run ih => exact ih.step enabled (allows _ _ holds) run

/-- Time passes, hosts poll, and packets arrive in turn, all with one stamp; the applications ask for nothing more. -/
def Serving (stamp : Stamp) (net : Net) : Event → Prop
  | .tick _ | .poll _ => True
  | .deliver p s => s = stamp ∧ net.InTurn (.deliver p s)
  | _ => False

def OrderlyIncast (senders : Finset Addr) (dst : Addr) (net : Net) (e : Event) : Prop :=
    net.Incast senders dst e ∧ net.InTurn e

theorem orderly_of_serving (net : Net) (e : Event) (serving : net.Serving stamp e) :
    net.OrderlyIncast senders dst e := by
  cases e with
  | tick | poll => exact ⟨trivial, trivial⟩
  | deliver => exact ⟨trivial, serving.2⟩
  | request | reply | collect => cases serving

theorem Polled.goesOn (polled : Polled env a k net net') : GoesOn env (Serving stamp) net net' := by
  induction polled with
  | refl => exact .refl
  | tick seconds _ later ih => exact ih.step (e := .tick seconds) later trivial rfl
  | poll addr _ started run ih => exact ih.step (e := .poll addr) started trivial run

section Advance

/-- What was sent and received stays so, and nothing more is asked for. -/
structure Advances (net net' : Net) : Prop where
  requests : ∀ a, (net'.host a).rpc.reqSent = (net.host a).rpc.reqSent
  replies : ∀ a, (net'.host a).rpc.respSent = (net.host a).rpc.respSent
  sent : ∀ a, (net.host a).sent <+: (net'.host a).sent
  rcvd : ∀ a, (net.host a).rcvd <+: (net'.host a).rcvd

theorem Advances.refl (net : Net) : Advances net net :=
  ⟨fun _ => rfl, fun _ => rfl, fun _ => List.prefix_rfl, fun _ => List.prefix_rfl⟩

theorem Advances.trans (first : Advances net net1) (second : Advances net1 net') : Advances net net' where
  requests a := (second.requests a).trans (first.requests a)
  replies a := (second.replies a).trans (first.replies a)
  sent a := (first.sent a).trans (second.sent a)
  rcvd a := (first.rcvd a).trans (second.rcvd a)

theorem Advances.act {addr : Addr} {flight : List Packet} {h : Host}
    (requests : h.rpc.reqSent = (net.host addr).rpc.reqSent)
    (replies : h.rpc.respSent = (net.host addr).rpc.respSent) (sent : (net.host addr).sent <+: h.sent)
    (rcvd : (net.host addr).rcvd <+: h.rcvd) : Advances net (net.act addr flight h) := by
  constructor <;> intro a <;> rw [host_act] <;> split
  case requests.isTrue same => rw [same, requests]
  case replies.isTrue same => rw [same, replies]
  case sent.isTrue same => rw [same]; exact sent
  case rcvd.isTrue same => rw [same]; exact rcvd
  case sent.isFalse | rcvd.isFalse => exact List.prefix_rfl
  case requests.isFalse | replies.isFalse => rfl

theorem fire_advances (ok : NetOk env.cfg net) (enabled : net.Enabled env e) (serving : net.Serving stamp e)
    (run : net.fire env e = .ok net') : Advances net net' := by
  cases fire_cases ok enabled run with
  | tick seconds => exact ⟨fun _ => rfl, fun _ => rfl, fun _ => List.prefix_rfl, fun _ => List.prefix_rfl⟩
  | request | reply | collect => cases serving
  | poll addr h polls =>
    obtain ⟨more, sent⟩ := polls.sent
    exact .act (congrArg Rpc.reqSent polls.rpc) (congrArg Rpc.respSent polls.rpc) ⟨more, sent.symm⟩ (by rw [polls.rcvd])
  | deliver p stamp h1 h _ polls arrives =>
    obtain ⟨more, sent⟩ := polls.sent
    obtain ⟨requests, replies⟩ := Rpc.recvPkt_history arrives.rpc
    apply Advances.act
    · rw [requests, polls.rpc]
    · rw [replies, polls.rpc]
    · rw [arrives.sent]
      exact ⟨more, sent.symm⟩
    · rw [arrives.rcvd, polls.rcvd]
      exact List.prefix_append _ _

theorem GoesOn.advances (reach : Reach env (OrderlyIncast senders dst) net)
    (goesOn : GoesOn env (Serving stamp) net net') :
    Advances net net' := by
  induction goesOn with
  | refl => exact .refl net
  | step before enabled serving run ih =>
    exact ih.trans (fire_advances (reach.goesOn orderly_of_serving before).ok enabled serving run)

end Advance

section Arrivals

variable (ok : NetOk cfg net)

def rcvdFor (net : Net) (src dst : Addr) : List Packet :=
  (fromAddr src (net.host dst).rcvd).filter (fun p => !p.isGrant) ++
    (fromAddr dst (net.host src).rcvd).filter Packet.isGrant

def flightFor (net : Net) (src dst : Addr) : List Packet :=
  (fromAddr src (toAddr dst net.flight)).filter (fun p => !p.isGrant) ++
    (fromAddr dst (toAddr src net.flight)).filter Packet.isGrant

include ok

theorem length_sentFor (src dst : Addr) :
    (net.sentFor src dst).length = (net.flightFor src dst).length + (net.rcvdFor src dst).length := by
  have parts := ((ok.link src dst).filter fun p => !p.isGrant).length_eq
  have grants := ((ok.link dst src).filter Packet.isGrant).length_eq
  rw [List.filter_append, List.length_append] at parts grants
  unfold sentFor flightFor rcvdFor
  rw [List.length_append, List.length_append, List.length_append]
  omega

end Arrivals

section Left

/-- Each packet is sent once, and received once: how many of these the requests leave to be done. -/
def left (senders : Finset Addr) (dst : Addr) (net : Net) : ℕ :=
  ∑ src ∈ senders, (2 * net.allowance src dst - ((net.sentFor src dst).length + (net.rcvdFor src dst).length))

variable (advances : Advances net net')

include advances

theorem Advances.asked (src dst : Addr) : net'.asked src dst = net.asked src dst := by
  unfold Net.asked
  rw [advances.requests, advances.replies]

theorem Advances.sentFor_le (src dst : Addr) : (net.sentFor src dst).length ≤ (net'.sentFor src dst).length := by
  unfold sentFor
  rw [List.length_append, List.length_append]
  apply Nat.add_le_add
  · exact (((advances.sent src).sublist.filter _).filter _).length_le
  · exact (((advances.sent dst).sublist.filter _).filter _).length_le

theorem Advances.rcvdFor_le (src dst : Addr) : (net.rcvdFor src dst).length ≤ (net'.rcvdFor src dst).length := by
  unfold rcvdFor
  rw [List.length_append, List.length_append]
  apply Nat.add_le_add
  · exact (((advances.rcvd dst).sublist.filter _).filter _).length_le
  · exact (((advances.rcvd src).sublist.filter _).filter _).length_le

theorem Advances.left_lt (ok : NetOk cfg net') (inside : src ∈ senders)
    (more : (net.sentFor src dst).length < (net'.sentFor src dst).length ∨
      (net.rcvdFor src dst).length < (net'.rcvdFor src dst).length) : net'.left senders dst < net.left senders dst := by
  have same : ∀ a, net'.allowance a dst = net.allowance a dst := by
    intro a
    unfold allowance
    rw [advances.asked]
  apply Finset.sum_lt_sum
  · intro a _
    have sent := advances.sentFor_le a dst
    have rcvd := advances.rcvdFor_le a dst
    rw [same]
    omega
  · refine ⟨src, inside, ?_⟩
    have bound := sentFor_le_allowance ok src dst
    have split := length_sentFor ok src dst
    have sent := advances.sentFor_le src dst
    have rcvd := advances.rcvdFor_le src dst
    rw [same] at bound ⊢
    omega

end Left

section Deliveries

theorem Gathers.flightFor (gathers : Gathers cfg senders dst net) (flight : p ∈ net.flight) :
    ∃ src ∈ senders, p ∈ net.flightFor src dst := by
  have sent := sent_of_flight gathers.ok flight
  cases grant : p.isGrant with
  | false =>
    obtain ⟨-, inside, towards⟩ := gathers.part sent grant
    refine ⟨p.src, inside, List.mem_append_left _ (List.mem_filter.mpr ⟨?_, by rw [grant]; rfl⟩)⟩
    exact mem_fromAddr.mpr ⟨mem_toAddr.mpr ⟨flight, towards⟩, rfl⟩
  | true =>
    have origin := gathers.grant sent grant
    obtain ⟨member, -⟩ := message_of_grant gathers.ok sent grant
    refine ⟨p.dst, (gathers.message member).1, List.mem_append_right _ (List.mem_filter.mpr ⟨?_, grant⟩)⟩
    exact mem_fromAddr.mpr ⟨mem_toAddr.mpr ⟨flight, rfl⟩, origin⟩

theorem Advances.rcvdFor_lt (advances : Advances net net')
    (rcvd : (net'.host p.dst).rcvd = (net.host p.dst).rcvd ++ [p])
    (flight : p ∈ net.flightFor src dst) : (net.rcvdFor src dst).length < (net'.rcvdFor src dst).length := by
  unfold rcvdFor
  rw [List.length_append, List.length_append]
  rcases List.mem_append.mp flight with part | grant
  · obtain ⟨flies, plain⟩ := List.mem_filter.mp part
    obtain ⟨flies, origin⟩ := mem_fromAddr.mp flies
    obtain ⟨-, towards⟩ := mem_toAddr.mp flies
    rw [towards] at rcvd
    have own : fromAddr src [p] = [p] := by simp [fromAddr, origin]
    apply Nat.add_lt_add_of_lt_of_le
    · rw [rcvd, fromAddr_append, List.filter_append, own, List.length_append,
        List.filter_cons_of_pos (p := fun p : Packet => !p.isGrant) plain]
      exact Nat.lt_succ_self _
    · exact (((advances.rcvd src).sublist.filter _).filter _).length_le
  · obtain ⟨flies, grant⟩ := List.mem_filter.mp grant
    obtain ⟨flies, origin⟩ := mem_fromAddr.mp flies
    obtain ⟨-, towards⟩ := mem_toAddr.mp flies
    rw [towards] at rcvd
    have own : fromAddr dst [p] = [p] := by simp [fromAddr, origin]
    apply Nat.add_lt_add_of_le_of_lt
    · exact (((advances.rcvd dst).sublist.filter _).filter _).length_le
    · rw [rcvd, fromAddr_append, List.filter_append, own, List.length_append, List.filter_cons_of_pos grant]
      exact Nat.lt_succ_self _

theorem Reach.lent (reach : Reach env InTurn net) (flight : p ∈ net.flight) (turn : net.InTurn (.deliver p stamp))
    (single : p.isSingleReply = false) (data : p.isData = true) : (net.host p.dst).rcv.creditReplenished + p.wireCost ≤
      (net.host p.dst).rcv.creditGranted + ((net.host p.dst).rcv.current p).debit p := by
  have halves := (reach.ok.host p.dst).halves
  have budget : ((net.host p.dst).senderOf env p.src).srpbBytes = ((net.host p.dst).senderOf env p.src).srpbBytes := rfl
  have solvent := (solvent_takeIn reach flight turn single data (.refl halves) budget).2.replenished
  have inv : RecvInv (((net.host p.dst).meets p ((net.host p.dst).senderOf env p.src)).rcv.side env.cfg
    (net.host p.dst).thisAddr
      (net.host p.dst).arrived ((net.host p.dst).sent.filter Packet.isGrant)) := by
    rw [Host.side_meets env.cfg budget]
    exact halves.recv.inv.meet p.src
  have met : p.src ∈ ((net.host p.dst).meets p ((net.host p.dst).senderOf env p.src)).rcv.senderState.keys :=
    (Lib.Store.mem_keys_insert ..).mpr (Or.inr rfl)
  obtain ⟨replenished, granted⟩ := Host.accounts_takeIn inv met data
  dsimp only at solvent
  rw [replenished, granted] at solvent
  exact solvent

theorem deliver_succeeds (accepts : env.cfg.Accepts stamp) (provides : env.cfg.Provides senders.card)
    (reach : Reach env (OrderlyIncast senders dst) net) (flight : p ∈ net.flight)
    (turn : net.InTurn (.deliver p stamp)) :
    ∃ net', net.fire env (.deliver p stamp) = .ok net' := by
  have frame := provides.frame
  have windows : ((net.host p.dst).senderOf env p.src).Takes env.cfg stamp := by
    refine ⟨accepts.algo, fun _ => ?_⟩
    have room := (Host.senders_of (reach.senders p.dst) p.src).frame_le_budget frame provides.nw provides.host
    unfold maxEthernetFrameOnWire at room
    omega
  cases grant : p.isGrant with
  | true => exact (reach.deliver_grant_iff flight grant).mpr windows
  | false =>
    have gathers := (reach.mono fun _ _ orderly => orderly.1 : Reach env (Incast senders dst) net).gathers
    refine (reach.deliver_iff flight grant).mpr ⟨windows, fun data single => ⟨accepts.accounts, fun reply => ?_, ?_⟩⟩
    · have type := RpcInv.isRequest_of_type (fits_of_flight reach.ok flight grant) data
      obtain ⟨-, member, -⟩ := part_of_sent reach.ok (sent_of_flight reach.ok flight) grant
      rw [gathers.requests p.src _ member, if_pos rfl, reply] at type
      cases type
    · exact Reach.lent (reach.mono fun _ _ orderly => orderly.2) flight turn single data

theorem exists_in_turn (stamp : Stamp) (flight : net.flight ≠ []) : ∃ p ∈ net.flight, net.InTurn
    (.deliver p stamp) := by
  obtain ⟨p, inside, least⟩ := (net.flight.toFinset).exists_min_image Packet.seqno (by simpa using flight)
  refine ⟨p, List.mem_toFinset.mp inside, fun _ _ q flies overtakes => ?_⟩
  exact absurd overtakes.1.2.2 (least q (List.mem_toFinset.mpr flies)).not_gt

end Deliveries

section Completion

variable (supported : env.cfg.Supported) (policy : env.cfg.senderPolicy ≠ 2) (accepts : env.cfg.Accepts stamp)
  (provides : env.cfg.Provides senders.card) (drains : 1 ≤ env.cfg.drained (1 / 100000))

include supported policy accepts provides drains

/-- From every state of an orderly incast some events lead on to one with fewer packets to come, until all
is delivered. -/
theorem goes_on_or_delivered (reach : Reach env (OrderlyIncast senders dst) net) :
    (net.flight = [] ∧ ∀ src, ∀ id ∈ (net.msgs src).keys, net.Delivered src id) ∨
      ∃ net', GoesOn env (Serving stamp) net net' ∧ net'.left senders dst < net.left senders dst := by
  have gathers : ∀ {net}, Reach env (OrderlyIncast senders dst) net → Gathers env.cfg senders dst net := fun reach =>
    (reach.mono fun _ _ orderly => orderly.1 : Reach env (Incast senders dst) _).gathers
  by_cases quiet : net.flight = []
  · by_cases all : ∀ src, ∀ id ∈ (net.msgs src).keys, net.Delivered src id
    · exact Or.inl ⟨quiet, all⟩
    · push Not at all
      obtain ⟨src, id, inside, undelivered⟩ := all
      have unsent : 0 < (net.msg src id).unsentBytes := by
        refine Nat.pos_of_ne_zero fun sent => undelivered ⟨sent, fun p inside => ?_⟩
        rw [quiet] at inside
        cases inside
      have stalled : Stalled env senders dst net :=
        ⟨reach.mono fun _ _ orderly => orderly.1, quiet, fun a _ two => absurd two policy⟩
      obtain ⟨a, pending, started⟩ := stalled.pending provides inside unsent
      obtain ⟨k, net', polled, emitted⟩ := (⟨stalled, pending, started⟩ : Waits env senders dst a net).emits supported
        provides.frame drains
      have goesOn : GoesOn env (Serving stamp) net net' := polled.goesOn
      have reach' := reach.goesOn orderly_of_serving goesOn
      have advances := goesOn.advances reach
      obtain ⟨p, flight, -⟩ := emitted
      obtain ⟨other, member, flies⟩ := (gathers reach').flightFor flight
      refine Or.inr ⟨net', goesOn, advances.left_lt reach'.ok member (Or.inl ?_)⟩
      -- what flies now was sent meanwhile, since nothing did before
      have before := length_sentFor reach.ok other dst
      have after := length_sentFor reach'.ok other dst
      have rcvd := advances.rcvdFor_le other dst
      have none : net.flightFor other dst = [] := by
        unfold flightFor
        rw [quiet]
        rfl
      have some_packet := List.length_pos_of_mem flies
      rw [none, List.length_nil] at before
      omega
  · obtain ⟨p, flight, turn⟩ := exists_in_turn stamp quiet
    obtain ⟨net', run⟩ := deliver_succeeds accepts provides reach flight turn
    have goesOn : GoesOn env (Serving stamp) net net' := .step (e := .deliver p stamp) .refl flight ⟨rfl, turn⟩ run
    have reach' := reach.goesOn orderly_of_serving goesOn
    have advances := goesOn.advances reach
    obtain ⟨src, member, flies⟩ := (gathers reach).flightFor flight
    have rcvd : (net'.host p.dst).rcvd = (net.host p.dst).rcvd ++ [p] := by
      cases fire_cases (e := .deliver p stamp) reach.ok flight run with
      | deliver _ _ h1 h _ polls arrives =>
        rw [host_act, if_pos rfl, arrives.rcvd, polls.rcvd]
    exact Or.inr ⟨net', goesOn, advances.left_lt reach'.ok member (Or.inr (advances.rcvdFor_lt rcvd flies))⟩

theorem delivers (reach : Reach env (OrderlyIncast senders dst) net) : ∃ net', GoesOn env (Serving stamp) net net' ∧
    net'.flight = [] ∧ ∀ src, ∀ id ∈ (net'.msgs src).keys, net'.Delivered src id := by
  -- on the packets that are still to come
  induction bound : net.left senders dst using Nat.strong_induction_on generalizing net with
  | _ n ih =>
    rcases goes_on_or_delivered supported policy accepts provides drains reach with ⟨quiet, all⟩ | ⟨net1, goesOn, fewer⟩
    · exact ⟨net, .refl, quiet, all⟩
    · have reach1 := reach.goesOn orderly_of_serving goesOn
      obtain ⟨net', after, done⟩ := ih _ (bound ▸ fewer) reach1 rfl
      exact ⟨net', goesOn.trans after, done⟩

/-- Whatever happened before in an incast whose packets come in turn, the requests that were made can be
served to the end: time, polls and arrivals in turn lead to a state with nothing in flight, in which the
receiver's application was handed every request once, no sender has credit left and every receiver has all
of its own. -/
theorem requests_complete (reach : Reach env (OrderlyIncast senders dst) net) : ∃ net', GoesOn env
    (Serving stamp) net net' ∧
    net'.flight = [] ∧
    (∀ client, ∀ r ∈ (net.host client).rpc.reqSent,
      (net'.host dst).rpc.reqRecvd.filter (fun e => e.2.uniqReqId == r.2.uniqReqId) = [r]) ∧
    (∀ src other, (net'.host src).snd.pool other = 0) ∧ ∀ a, (net'.host a).Restored env.cfg := by
  obtain ⟨net', goesOn, quiet, all⟩ := delivers supported policy accepts provides drains reach
  have reach' := reach.goesOn orderly_of_serving goesOn
  have gathers := (reach'.mono fun _ _ orderly => orderly.1 : Reach env (Incast senders dst) net').gathers
  have quiescent : net'.Quiescent := ⟨quiet, fun src id inside => (all src id inside).1⟩
  refine ⟨net', goesOn, quiet, fun client r asked => ?_, pool_of_quiescent reach'.ok quiescent, ?_⟩
  · have still : r ∈ (net'.host client).rpc.reqSent := by
      rw [(goesOn.advances reach).requests]
      exact asked
    have towards := (gathers.asked client r still).2
    have inside := (request_message reach'.ok still).1
    rw [requests_handed reach'.ok still, if_pos ⟨towards.symm, all client _ inside⟩]
  · rw [restored_all_iff reach'.ok quiescent]
    intro server r answered
    exact absurd answered (gathers.answered server r)

end Completion

/-- A request of three packets that was only made. -/
theorem requests_complete_first : ∃ net net', Reach tenFrames (OrderlyIncast {0} 1) net ∧
    (net.msg 0 (firstRequest 3000).2.uniqReqId).unsentBytes = 3000 ∧ GoesOn tenFrames (Serving {}) net net' ∧
    (net'.host 1).rpc.reqRecvd.filter (fun e => e.2.uniqReqId == (firstRequest 3000).2.uniqReqId) =
    [firstRequest 3000] := by
  have ran : ((init tenFrames.cfg).run tenFrames [fun _ => .request 0 1 0 0 0 3000]).map (fun net => decide (
      firstRequest 3000 ∈ (net.host 0).rpc.reqSent ∧ (net.msg 0 (firstRequest 3000).2.uniqReqId).unsentBytes = 3000)) =
      some true := by
    decide +kernel
  obtain ⟨net, run, values⟩ := Option.map_eq_some_iff.mp ran
  obtain ⟨asked, unsent⟩ := of_decide_eq_true values
  have reach : Reach tenFrames (OrderlyIncast {0} 1) net := Reach.run .init (fun e inside net => by
    rw [List.mem_singleton.mp inside]
    exact ⟨⟨Finset.mem_singleton_self 0, rfl⟩, trivial⟩) run
  have supported : tenFrames.cfg.Supported :=
    ⟨⟨by decide, by decide⟩, Or.inl rfl, by decide +kernel, by decide +kernel⟩
  have provides : tenFrames.cfg.Provides (Finset.card {(0 : Addr)}) :=
    ⟨by decide, by decide, by decide +kernel, by decide +kernel⟩
  obtain ⟨net', goesOn, -, handed, -⟩ :=
    requests_complete supported (by decide) ⟨rfl, Or.inl rfl⟩ provides (by decide +kernel) reach
  exact ⟨net, net', reach, unsent, goesOn, handed 0 _ asked⟩

end Net

end PhantomPass
