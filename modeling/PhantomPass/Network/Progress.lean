import PhantomPass.Congestion.Recurrence
import PhantomPass.Credit.Landed
import PhantomPass.Network.Delivery
import PhantomPass.Network.Pauses
import PhantomPass.Network.Pools

/-! Senders of requests and their receiver do not wait for each other. With
nothing in flight and a message not sent yet, a sender can announce or send, or
the receiver can grant. -/

set_option autoImplicit false

namespace PhantomPass

structure Config.Provides (cfg : Config) (n : ℕ) : Prop where
  budget : 1538 * (n + 1) ≤ cfg.budgetBytes
  pair : 2 * 1538 ≤ cfg.maxSrpb
  host : 1538 ≤ cfg.hostMinSrpb
  nw : 1538 ≤ cfg.nwMinSrpb

theorem Config.Provides.frame {cfg : Config} {n : ℕ} (provides : cfg.Provides n) : 1538 ≤ cfg.maxSrpb := by
  have := provides.pair
  omega

namespace Net

variable {env : Env} {net net1 net' : Net} {a b addr dst src : Addr} {senders : Finset Addr} {id : UniqReqId} {h : Host}
  {k : ℕ}

/-- An announcement or data of a sender is in flight, or a GRANT of the receiver. -/
def Emitted (senders : Finset Addr) (dst : Addr) (net : Net) : Prop :=
  ∃ p ∈ net.flight, p.src ∈ senders ∧ (p.isData = true ∨ p.isCreditReq = true) ∨ p.src = dst ∧ p.isGrant = true

/-- Time passes and hosts poll. Those polls of one host are counted whose pacers have drained. -/
inductive Polled (env : Env) (a : Addr) : ℕ → Net → Net → Prop
  | refl (net : Net) : Polled env a 0 net net
  | tick {k : ℕ} {net net1 : Net} (seconds : ℚ) : Polled env a k net net1 → 0 ≤ seconds →
      Polled env a k net { net1 with clock := net1.clock + seconds }
  | poll {k : ℕ} {net net1 net' : Net} (addr : Addr) : Polled env a k net net1 → (net1.host addr).pollStarted = true →
      net1.fire env (.poll addr) = .ok net' →
      Polled env a (k + if addr = a ∧ (net1.host a).PacersDrained env net1.clock then 1 else 0) net net'

theorem Polled.trans {k' : ℕ} (before : Polled env a k net net1) (after : Polled env a k' net1 net') :
    Polled env a (k + k') net net' := by
  induction after with
  | refl => exact before
  | tick seconds _ later ih => exact (ih before).tick seconds later
  | poll addr _ started run ih =>
    rw [← Nat.add_assoc]
    exact (ih before).poll addr started run

theorem emitted_poll (emitted : net.Emitted senders dst) (run : net.fire env (.poll addr) = .ok net') :
    net'.Emitted senders dst := by
  obtain ⟨p, inside, kind⟩ := emitted
  simp only [fire, Lib.bind_eq_ok, Lib.pure_eq_ok] at run
  obtain ⟨h, -, rfl⟩ := run
  exact ⟨p, List.mem_append_left _ inside, kind⟩

/-- Nothing is in flight between senders of requests and their receiver, and a policy for data credit finds some. -/
structure Stalled (env : Env) (senders : Finset Addr) (dst : Addr) (net : Net) : Prop where
  reach : Reach env (Incast senders dst) net
  flight : net.flight = []
  preferable : ∀ a ≠ dst, (net.host a).snd.Preferable env

namespace Stalled

section Hosts

variable (stalled : Stalled env senders dst net)

include stalled

theorem idle_receiver : (net.host dst).snd.Idle := by
  have ok := stalled.reach.ok
  have none : ∀ id, id ∉ (net.host dst).snd.outbound.keys := by
    intro id inside
    obtain ⟨-, towards⟩ := stalled.reach.gathers.message inside
    rcases msg_cases ok inside with ⟨-, -, apart⟩ | ⟨-, reply, -⟩
    · exact apart towards
    · exact nomatch (stalled.reach.gathers.requests dst id inside).symm.trans reply
  have queues := (ok.host dst).halves.send.queues
  constructor
  case inactive =>
    rw [List.eq_nil_iff_forall_not_mem]
    exact fun id waits => none id ((queues.inactive id).mp waits).1
  case queues =>
    intro addr known
    rw [List.eq_nil_iff_forall_not_mem]
    exact fun id waits => none id ((queues.queue addr known id).mp waits).1

theorem served (supported : env.cfg.Supported) (a : Addr) : (net.host a).Served env := by
  by_cases receiver : a = dst
  · rw [receiver]
    exact Or.inl stalled.idle_receiver
  · refine Or.inr ⟨⟨supported.policy, supported.ratio, stalled.reach.policies a, ?_⟩, stalled.preferable a receiver⟩
    rw [← Sender.card_keys]
    apply Finset.card_le_one.mpr
    intro addr known other known'
    rw [stalled.reach.remotes a receiver addr (List.mem_toFinset.mp known),
      stalled.reach.remotes a receiver other (List.mem_toFinset.mp known')]

theorem tick {seconds : ℚ} (later : 0 ≤ seconds) : Stalled env senders dst { net with clock := net.clock + seconds } :=
  ⟨stalled.reach.step (e := .tick seconds) later trivial rfl, stalled.flight, stalled.preferable⟩

theorem passes (pending : (net.host a).Pending env.cfg) : (net.host a).Passes env.cfg := by
  intro _ id only complete
  rcases pending with able | ⟨-, other, inside, offerable⟩
  · by_cases receiver : a = dst
    · rw [receiver] at able
      exact stalled.idle_receiver.not_able able
    · rw [stalled.reach.gathers.inbound receiver] at only
      cases only
  · rw [only, List.mem_singleton] at inside
    exact offerable.incomplete (inside ▸ complete)

theorem polls (started : (net.host b).pollStarted = true) (run : (net.host b).poll env net.clock = .ok h)
    (preferable : b ≠ dst → h.sent = (net.host b).sent → h.snd.Preferable env) :
    (net.act b net.flight h).Emitted senders dst ∨
      Stalled env senders dst (net.act b net.flight h) ∧ h.sent = (net.host b).sent := by
  have fired : net.fire env (.poll b) = .ok (net.act b net.flight h) :=
    congrArg (· >>= fun h => pure (net.act b net.flight h)) run
  have reach : Reach env (Incast senders dst) (net.act b net.flight h) :=
    stalled.reach.step (e := .poll b) started trivial fired
  obtain ⟨more, sent⟩ := (Host.poll_ok (stalled.reach.ok.host b).halves run).1.sent
  have flight : (net.act b net.flight h).flight = more := by
    unfold act
    dsimp only
    rw [stalled.flight, sent, List.nil_append, List.drop_left]
  cases more with
  | nil =>
    rw [List.append_nil] at sent
    refine Or.inr ⟨⟨reach, flight, fun other apart => ?_⟩, sent⟩
    rw [host_act]
    split
    · next same => exact preferable (same ▸ apart) sent
    · exact stalled.preferable other apart
  | cons p rest =>
    have left : p ∈ ((net.act b net.flight h).host b).sent := by
      rw [host_act, if_pos rfl, sent]
      exact List.mem_append_right _ List.mem_cons_self
    have src : p.src = b := src_of_sent reach.ok left
    refine Or.inl ⟨p, by rw [flight]; exact List.mem_cons_self, ?_⟩
    rw [src]
    cases kind : p.isGrant with
    | true => exact Or.inr ⟨reach.gathers.grant left kind, rfl⟩
    | false =>
      obtain ⟨kinds, member, -⟩ := reach.gathers.part left kind
      exact Or.inl ⟨member, kinds⟩

variable (supported : env.cfg.Supported) (frame : 1538 ≤ env.cfg.maxSrpb)

include supported frame

theorem poll_pauses (started : (net.host b).pollStarted = true) (passes : (net.host b).Passes env.cfg) :
    ∃ h, (net.host b).poll env net.clock = .ok h ∧
      (h.sent = (net.host b).sent → Host.Pauses env net.clock (net.host b) h) := by
  have reach := stalled.reach
  have clock : (0 : ℚ) < net.clock := lt_of_lt_of_le (by norm_num) reach.ok.clock
  exact Host.poll_pauses supported frame ((reach.begun b).grants started) clock (reach.grantable supported.weight b)
    (reach.requested b) (stalled.served supported b) passes

end Hosts

section Credit

variable (stalled : Stalled env senders dst net) (unable : ∀ a, ¬ (net.host a).snd.Able)

include stalled unable

theorem active_of_unable (inside : id ∈ (net.msgs src).keys) : (net.msg src id).active = true := by
  by_contra idle
  have waits := ((stalled.reach.ok.host src).halves.send.queues.inactive id).mpr ⟨inside, (Bool.not_eq_true _).mp idle⟩
  exact unable src (Or.inl (List.ne_nil_of_mem waits))

theorem pool_lt_nextCost (inside : id ∈ (net.msgs src).keys) (unsent : 0 < (net.msg src id).unsentBytes) :
    (net.host src).snd.pool dst < (net.msg src id).nextCost := by
  have ok := stalled.reach.ok
  have towards : (net.msg src id).remoteAddr = dst := (stalled.reach.gathers.message inside).2
  have queues := (ok.host src).halves.send.queues
  have known : dst ∈ (net.host src).snd.remotes.keys := towards ▸ queues.remote id inside
  have queued := (queues.queue dst known id).mpr ⟨inside, stalled.active_of_unable unable inside, unsent, towards⟩
  have nonneg : 0 ≤ ((net.host src).snd.rcvr dst).availCreditBytes := by
    rw [← Sender.pool_eq known]
    exact (ok.host src).halves.send.inv.avail_nonneg _
  rw [Sender.pool_eq known]
  by_contra enough
  apply unable src
  exact Or.inr ⟨dst, Sender.mem_ready.mpr ⟨known, id, queued, (Sender.affords_iff nonneg).mpr (not_lt.mp enough)⟩⟩

theorem pool_le (src : Addr) : (net.host src).snd.pool dst ≤ if src ∈ senders then 1537 else 0 := by
  have ok := stalled.reach.ok
  by_cases left : ∃ id ∈ (net.msgs src).keys, 0 < (net.msg src id).unsentBytes
  · obtain ⟨id, inside, unsent⟩ := left
    have less := stalled.pool_lt_nextCost unable inside unsent
    have frame : (net.msg src id).nextCost ≤ 1538 := by
      have cost := ethernet.cost_mono (min_le_left maxR2p2Payload (net.msg src id).unsentBytes)
      have whole : ethernet.cost maxR2p2Payload = 1538 := rfl
      unfold OutboundMsgState.nextCost
      omega
    rw [if_pos (stalled.reach.gathers.message inside).1]
    omega
  · have nothing : (net.host src).sendSide.toward dst OutboundMsgState.needed = 0 := by
      unfold SendSide.toward Lib.Store.total
      apply Finset.sum_eq_zero
      intro id inside
      have sent : (net.msg src id).unsentBytes = 0 :=
        Nat.eq_zero_of_not_pos fun unsent => left ⟨id, List.mem_toFinset.mp inside, unsent⟩
      change (if (net.msg src id).remoteAddr = dst then (net.msg src id).needed else 0) = 0
      unfold OutboundMsgState.needed
      rw [sent, Lib.Framing.wire_zero]
      simp
    have le := pool_le_needed ok src dst
    rw [nothing] at le
    refine le.trans ?_
    split <;> omega

theorem owed_le (src : Addr) : (net.host dst).rcv.owed env.cfg src ≤ if src ∈ senders then 1537 else 0 := by
  have ok := stalled.reach.ok
  have whole := conserved src dst ok
  have none : ∀ src dst, net.between src dst = [] := by
    intro src dst
    unfold between
    rw [stalled.flight]
    rfl
  rw [none, none, untouched_eq_zero ok stalled.reach.gathers.requests] at whole
  have unheard : 0 ≤ net.unheard src dst := by
    apply Lib.Store.total_nonneg
    intro id inside
    split
    · exact (msgOk ok inside).selfAlloc_nonneg
    · exact le_refl _
  have pool := stalled.pool_le unable src
  have grants : creditSum (([] : List Packet).filter Packet.isGrant) = 0 := rfl
  have data : wireSum (dataPkts []) = 0 := rfl
  rw [grants, data] at whole
  omega

theorem budget_left (provides : env.cfg.Provides senders.card) : (maxEthernetFrameOnWire : ℤ) ≤
    (net.host dst).rcv.budgetBytes := by
  have inv := (stalled.reach.ok.host dst).halves.recv.inv
  have lent : env.cfg.budgetBytes - (net.host dst).rcv.budgetBytes =
      ∑ src ∈ (net.host dst).rcv.senderState.keys.toFinset, (net.host dst).rcv.owed env.cfg src := inv.lent
  have most : ∑ src ∈ (net.host dst).rcv.senderState.keys.toFinset, (net.host dst).rcv.owed env.cfg src ≤
    1537 * senders.card := by
    calc ∑ src ∈ (net.host dst).rcv.senderState.keys.toFinset, (net.host dst).rcv.owed env.cfg src
        ≤ ∑ src ∈ (net.host dst).rcv.senderState.keys.toFinset, (if src ∈ senders then 1537 else 0 : ℤ) :=
          Finset.sum_le_sum fun src _ => stalled.owed_le unable src
      _ = 1537 * ((net.host dst).rcv.senderState.keys.toFinset ∩ senders).card := by
          rw [← Finset.sum_filter, Finset.filter_mem_eq_inter, Finset.sum_const, nsmul_eq_mul, mul_comm]
      _ ≤ 1537 * senders.card := by
          have part : (net.host dst).rcv.senderState.keys.toFinset ∩ senders ⊆ senders := Finset.inter_subset_right
          have le := Finset.card_le_card part
          omega
  have budget := provides.budget
  unfold maxEthernetFrameOnWire
  omega

/-- A message that is not sent waits behind one that the receiver has not granted all its credit. -/
theorem ungranted (inside : id ∈ (net.msgs src).keys) (unsent : 0 < (net.msg src id).unsentBytes) :
    ∃ other ∈ (net.msgs src).keys, other ∈ (net.host dst).rcv.inboundObjs.keys ∧
      ((net.host dst).rcv.msg other).receivedMsgInfo = true ∧
      ((net.host dst).rcv.msg other).dataBytesGranted < ((net.host dst).rcv.msg other).dataBytesExpected := by
  have ok := stalled.reach.ok
  have linked := linked_hosts ok src dst
  have landed := landed ok stalled.flight src dst
  have here : ((net.host dst).recvSide env.cfg).addr = dst := ok.addr dst
  -- the receiver knows the sizes of all messages
  have informed : ∀ other ∈ (net.msgs src).keys, other ∈ (net.host dst).rcv.inboundObjs.keys ∧
      ((net.host dst).rcv.msg other).receivedMsgInfo = true := by
    intro other member
    have active := stalled.active_of_unable unable member
    refine linked.informed_of_landed landed member ((stalled.reach.gathers.message member).2.trans here.symm)
      (stalled.reach.gathers.counted member) active ?_
    by_contra quiet
    obtain ⟨unscheduled, fresh⟩ := not_or.mp quiet
    have unscheduled : (net.msg src other).isScheduled = false := (Bool.not_eq_true _).mp unscheduled
    have fresh : (net.msg src other).sentFirst = false := (Bool.not_eq_true _).mp fresh
    have part : 0 < (net.msg src other).unsentBytes := by
      rw [(msgOk ok member).unsent_of_sentFirst fresh]
      exact (msgOk ok member).total_pos
    have pays : (net.msg src other).nextCost ≤ (net.host src).snd.pool (net.msg src other).remoteAddr :=
      (ok.host src).halves.send.inv.pays_first member unscheduled fresh
    rw [(stalled.reach.gathers.message member).2] at pays
    exact absurd pays (not_le.mpr (stalled.pool_lt_nextCost unable member part))
  by_contra none
  have granted : ∀ other ∈ (net.host src).sendSide.msgs.keys,
      ((net.host src).sendSide.msgs.get other).remoteAddr = ((net.host dst).recvSide env.cfg).addr →
      other ∈ ((net.host dst).recvSide env.cfg).objs.keys ∧
      (((net.host dst).recvSide env.cfg).objs.get other).receivedMsgInfo = true ∧
      (((net.host dst).recvSide env.cfg).objs.get other).dataBytesGranted =
        (((net.host dst).recvSide env.cfg).objs.get other).dataBytesExpected := by
    intro other member _
    obtain ⟨known, info⟩ := informed other member
    refine ⟨known, info, ?_⟩
    by_contra apart
    exact none ⟨other, member, known, info, lt_of_le_of_ne (linked.recv.obj other known).granted_le apart⟩
  have covers := linked.unsent_le_of_landed landed granted inside
    ((stalled.reach.gathers.message inside).2.trans here.symm)
  rw [here] at covers
  have cost : (net.msg src id).nextCost ≤ ethernet.wire (net.msg src id).unsentBytes := by
    rw [ethernet.wire_of_pos unsent]
    unfold OutboundMsgState.nextCost
    exact_mod_cast Nat.le_add_right _ _
  have less := stalled.pool_lt_nextCost unable inside unsent
  change (ethernet.wire (net.msg src id).unsentBytes : ℤ) ≤ (net.host src).snd.pool dst at covers
  omega

theorem offerable (provides : env.cfg.Provides senders.card) (inside : id ∈ (net.msgs src).keys)
    (unsent : 0 < (net.msg src id).unsentBytes) :
    ∃ other ∈ (net.host dst).rcv.inbound.msgs, Host.Offerable env.cfg other (net.host dst) := by
  have ok := stalled.reach.ok
  have inv := (ok.host dst).halves.recv.inv
  obtain ⟨other, member, known, info, needs⟩ := stalled.ungranted unable inside unsent
  have live : other ∈ (net.host dst).rcv.inbound.msgs := by
    by_contra gone
    have complete := inv.retired other known fun live => gone (List.mem_toFinset.mp live)
    exact absurd complete.2.2 (Nat.ne_of_lt needs)
  have sender : ((net.host dst).rcv.msg other).remoteAddr = src :=
    (obj_of_member ok member (stalled.reach.gathers.message member).2 known).1
  have heard : src ∈ (net.host dst).rcv.senderState.keys := by
    obtain ⟨q, arrived, -, -, origin⟩ := inv.first other known
    have through := (inv.arrived q arrived).2.2
    rw [origin] at through
    rw [← sender]
    exact through
  have owed := stalled.owed_le unable src
  have budget := stalled.budget_left unable provides
  have window := (stalled.reach.senders dst src heard).frame_le_budget
    (by have := provides.pair; unfold maxEthernetFrameOnWire; omega)
    provides.nw provides.host
  have credit := (Host.creditNeeded_bounds ((net.host dst).rcv.msg other)).2
  unfold Receiver.owed at owed
  rw [if_pos heard, if_pos (stalled.reach.gathers.message member).1] at owed
  have pair := provides.pair
  refine ⟨other, live, info, needs, ?_⟩
  unfold Host.Room
  rw [sender]
  unfold maxEthernetFrameOnWire at *
  constructor
  · apply le_min <;> omega
  · omega

end Credit

theorem pending (stalled : Stalled env senders dst net) (provides : env.cfg.Provides senders.card)
    (inside : id ∈ (net.msgs src).keys)
    (unsent : 0 < (net.msg src id).unsentBytes) : ∃ a, (net.host a).Pending env.cfg ∧
    (net.host a).pollStarted = true := by
  by_cases able : ∃ a, (net.host a).snd.Able
  · obtain ⟨a, able⟩ := able
    refine ⟨a, Or.inl able, ?_⟩
    by_contra asleep
    obtain ⟨alone, -⟩ := (stalled.reach.begun a).idle ((Bool.not_eq_true _).mp asleep)
    exact Host.not_able_of_alone (stalled.reach.ok.host a).halves.send.queues alone able
  · have unable : ∀ a, ¬ (net.host a).snd.Able := fun a holds => able ⟨a, holds⟩
    obtain ⟨other, live, offerable⟩ := stalled.offerable unable provides inside unsent
    refine ⟨dst, Or.inr ⟨stalled.budget_left unable provides, other, live, offerable⟩, ?_⟩
    by_contra asleep
    obtain ⟨-, none, -⟩ := (stalled.reach.begun dst).idle ((Bool.not_eq_true _).mp asleep)
    rw [none] at live
    cases live

end Stalled

/-- Something waits to be sent or granted by a host that polls. -/
structure Waits (env : Env) (senders : Finset Addr) (dst a : Addr) (net : Net) : Prop where
  stalled : Stalled env senders dst net
  pending : (net.host a).Pending env.cfg
  started : (net.host a).pollStarted = true

namespace Waits

variable (supported : env.cfg.Supported) (frame : 1538 ≤ env.cfg.maxSrpb) (waits : Waits env senders dst a net)

section Steps

include waits

theorem tick {seconds : ℚ} (later : 0 ≤ seconds) : Waits env senders dst a { net with clock := net.clock + seconds } :=
  ⟨waits.stalled.tick later, waits.pending, waits.started⟩

include supported frame

theorem poll_self : ∃ h, net.fire env (.poll a) = .ok (net.act a net.flight h) ∧
    ((net.act a net.flight h).Emitted senders dst ∨
      Waits env senders dst a (net.act a net.flight h) ∧ Host.Pauses env net.clock (net.host a) h) := by
  obtain ⟨stalled, pending, started⟩ := waits
  obtain ⟨h, polled, pauses⟩ := stalled.poll_pauses supported frame started (stalled.passes pending)
  refine ⟨h, congrArg (· >>= fun h => pure (net.act a net.flight h)) polled, ?_⟩
  rcases stalled.polls started polled fun _ silent => (pauses silent).preferable with emitted | ⟨stalled', silent⟩
  · exact Or.inl emitted
  · refine Or.inr ⟨⟨stalled', ?_, ?_⟩, pauses silent⟩
    · rw [host_act, if_pos rfl]
      exact ((pauses silent).pending pending).1
    · rw [host_act, if_pos rfl]
      exact (Host.poll_started polled).trans started

theorem poll_other (started : (net.host b).pollStarted = true) (apart : b ≠ a)
    (run : net.fire env (.poll b) = .ok net') :
    net'.Emitted senders dst ∨ Waits env senders dst a net' ∧ net'.host a = net.host a := by
  obtain ⟨stalled, pending, mine⟩ := waits
  simp only [fire, Lib.bind_eq_ok, Lib.pure_eq_ok] at run
  obtain ⟨h, polled, rfl⟩ := run
  have same : (net.act b net.flight h).host a = net.host a := by
    rw [host_act, if_neg apart.symm]
  have prefers : b ≠ dst → h.sent = (net.host b).sent → h.snd.Preferable env := by
    intro sender silent
    have passes : (net.host b).Passes env.cfg := by
      intro _ id only
      rw [stalled.reach.gathers.inbound sender] at only
      cases only
    obtain ⟨h', polled', pauses⟩ := stalled.poll_pauses supported frame started passes
    obtain rfl := Except.ok.inj (polled'.symm.trans polled)
    exact (pauses silent).preferable
  rcases stalled.polls started polled prefers with emitted | ⟨stalled', -⟩
  · exact Or.inl emitted
  · exact Or.inr ⟨⟨stalled', by rw [same]; exact pending, by rw [same]; exact mine⟩, same⟩

/-- Every poll with drained pacers takes a message out of the host's list, or something is emitted. -/
theorem polled (polled : Polled env a k net net') : net'.Emitted senders dst ∨
    Waits env senders dst a net' ∧ (net'.host a).rcv.inbound.size + k ≤ (net.host a).rcv.inbound.size := by
  -- until something leaves, each poll keeps what is pending
  induction polled with
  | refl => exact Or.inr ⟨waits, le_refl _⟩
  | tick seconds _ later ih =>
    rcases ih waits with emitted | ⟨waits1, size⟩
    · exact Or.inl emitted
    · exact Or.inr ⟨waits1.tick later, size⟩
  | @poll k net net1 net' addr _ started run ih =>
    rcases ih waits with emitted | ⟨waits1, size⟩
    · exact Or.inl (emitted_poll emitted run)
    · by_cases here : addr = a
      · subst here
        obtain ⟨h, fired, result⟩ := waits1.poll_self supported frame
        obtain rfl := Except.ok.inj (fired.symm.trans run)
        rcases result with emitted | ⟨waits', pauses⟩
        · exact Or.inl emitted
        · refine Or.inr ⟨waits', ?_⟩
          have le := pauses.size_le
          have fewer := (pauses.pending waits1.pending).2
          rw [host_act, if_pos rfl]
          simp only [true_and]
          split
          · next drained =>
            have := fewer drained
            omega
          · omega
      · rw [if_neg fun both => here both.1]
        rcases waits1.poll_other supported frame started here run with emitted | ⟨waits', same⟩
        · exact Or.inl emitted
        · refine Or.inr ⟨waits', ?_⟩
          rw [same]
          exact size

theorem due (drains : 1 ≤ env.cfg.drained (1 / 100000)) : ∃ k net', Polled env a k net net' ∧
    (net'.Emitted senders dst ∨ Waits env senders dst a net' ∧ 0 < k) := by
  -- on the bytes that the two pacers still hold
  induction backlog : (net.host a).grantPacerBacklog.toNat + (net.host a).dataPacerBacklog.toNat
    using Nat.strong_induction_on generalizing net with
  | _ n ih =>
    let wait : ℚ := |(net.host a).lastGrantTime - net.clock| + |(net.host a).lastGrantPacerUpdate - net.clock| +
      |(net.host a).lastDataPacerUpdate - net.clock| + 1 / 100000
    have grant := le_abs_self ((net.host a).lastGrantTime - net.clock)
    have grant_pos := abs_nonneg ((net.host a).lastGrantTime - net.clock)
    have update := le_abs_self ((net.host a).lastGrantPacerUpdate - net.clock)
    have update_pos := abs_nonneg ((net.host a).lastGrantPacerUpdate - net.clock)
    have data := le_abs_self ((net.host a).lastDataPacerUpdate - net.clock)
    have data_pos := abs_nonneg ((net.host a).lastDataPacerUpdate - net.clock)
    have later : 0 ≤ wait := by positivity
    have waited : Polled env a 0 net { net with clock := net.clock + wait } := .tick wait (.refl net) later
    have late : ¬ net.clock + wait - (net.host a).lastGrantTime < 48 / 100000000 := by
      unfold wait
      linarith
    have long : 1 / 100000 ≤ net.clock + wait - (net.host a).lastGrantPacerUpdate := by
      unfold wait
      linarith
    have long' : 1 / 100000 ≤ net.clock + wait - (net.host a).lastDataPacerUpdate := by
      unfold wait
      linarith
    obtain ⟨h, fired, result⟩ := (waits.tick later).poll_self supported frame
    have polled := Polled.poll a waited waits.started fired
    rcases result with emitted | ⟨waits', pauses⟩
    · exact ⟨_, _, polled, Or.inl emitted⟩
    · by_cases drained : (net.host a).PacersDrained env (net.clock + wait)
      · rw [if_pos ⟨rfl, drained⟩] at polled
        exact ⟨_, _, polled, Or.inr ⟨waits', Nat.succ_pos 0⟩⟩
      · rw [if_neg fun both => drained both.2] at polled
        have here : (Net.act { net with clock := net.clock + wait } a net.flight h).host a = h := by
          rw [host_act, if_pos rfl]
        have grants := pauses.grantBacklog late
        have datas := pauses.dataBacklog
        rw [Host.grantsBegin_backlog long] at grants
        rw [Host.updateDataBacklog_backlog long'] at datas
        have drainedGrant := Host.toNat_drained drains (net.host a).grantPacerBacklog
        have drainedData := Host.toNat_drained drains (net.host a).dataPacerBacklog
        -- one of the pacers is busy, and has less in it than before
        have fewer : h.grantPacerBacklog.toNat + h.dataPacerBacklog.toNat < n := by
          rw [grants, datas, ← backlog]
          by_cases due : (net.host a).GrantsDue env (net.clock + wait)
          · have busy := not_not.mp fun free => drained ⟨due, free⟩
            rw [Host.updateDataBacklog_backlog long'] at busy
            exact Nat.add_lt_add_of_le_of_lt drainedGrant.1 (drainedData.2 busy)
          · have busy := Host.busy_of_not_due late due
            rw [Host.grantsBegin_backlog long] at busy
            exact Nat.add_lt_add_of_lt_of_le (drainedGrant.2 busy) drainedData.1
        obtain ⟨k, net', rest, result⟩ := ih _ fewer waits' (by rw [here])
        exact ⟨_, net', polled.trans rest, result.imp_right fun ⟨waits2, pos⟩ => ⟨waits2, by omega⟩⟩

theorem goes_on (drains : 1 ≤ env.cfg.drained (1 / 100000)) (n : ℕ) : ∃ k net', Polled env a k net net' ∧
    (net'.Emitted senders dst ∨ Waits env senders dst a net' ∧ n ≤ k) := by
  induction n with
  | zero => exact ⟨0, net, .refl net, Or.inr ⟨waits, le_refl _⟩⟩
  | succ n ih =>
    obtain ⟨k, net1, before, emitted | ⟨waits1, enough⟩⟩ := ih
    · exact ⟨k, net1, before, Or.inl emitted⟩
    · obtain ⟨k', net', after, emitted | ⟨waits', pos⟩⟩ := waits1.due supported frame drains
      · exact ⟨k + k', net', before.trans after, Or.inl emitted⟩
      · exact ⟨k + k', net', before.trans after, Or.inr ⟨waits', by omega⟩⟩

theorem emits (drains : 1 ≤ env.cfg.drained (1 / 100000)) : ∃ k net', Polled env a k net net' ∧
    net'.Emitted senders dst := by
  obtain ⟨k, net', after, emitted | ⟨waits', enough⟩⟩ :=
    waits.goes_on supported frame drains ((net.host a).rcv.inbound.size + 1)
  · exact ⟨k, net', after, emitted⟩
  · rcases waits.polled supported frame after with emitted | ⟨-, size⟩
    · exact ⟨k, net', after, emitted⟩
    · omega

end Steps

end Waits

/-- Requests never wait for each other: with nothing in flight and one that is not delivered, some host
polls in vain only as often as there are messages in its list, whatever else happens; its polls go through,
and if the pacers drain they do so until an announcement, data or a GRANT leaves. The policy for data credit
must find some. -/
theorem requests_progress (supported : env.cfg.Supported) (provides : env.cfg.Provides senders.card)
    (reach : Reach env (Incast senders dst) net) (flight : net.flight = [])
    (preferable : ∀ a ≠ dst, (net.host a).snd.Preferable env) (inside : id ∈ (net.msgs src).keys)
    (undelivered : ¬ net.Delivered src id) : ∃ a,
    (∀ k net', Polled env a k net net' → (net.host a).rcv.inbound.size < k → net'.Emitted senders dst) ∧
    (∀ k net', Polled env a k net net' → ¬ net'.Emitted senders dst →
      net'.Enabled env (.poll a) ∧ (∃ later, net'.fire env (.poll a) = .ok later) ∧
      ∀ b, net'.Enabled env (.poll b) → (net'.host b).Passes env.cfg → ∃ later, net'.fire env (.poll b) = .ok later) ∧
    (1 ≤ env.cfg.drained (1 / 100000) → ∃ k net', Polled env a k net net' ∧ net'.Emitted senders dst) := by
  have stalled : Stalled env senders dst net := ⟨reach, flight, preferable⟩
  have unsent : 0 < (net.msg src id).unsentBytes := by
    refine Nat.pos_of_ne_zero fun sent => undelivered ⟨sent, fun p inside => ?_⟩
    rw [flight] at inside
    cases inside
  obtain ⟨a, pending, started⟩ := stalled.pending provides inside unsent
  have waits : Waits env senders dst a net := ⟨stalled, pending, started⟩
  refine ⟨a, fun k net' polled enough => ?_, fun k net' polled silent => ?_, waits.emits supported provides.frame⟩
  · rcases waits.polled supported provides.frame polled with emitted | ⟨-, size⟩
    · exact emitted
    · omega
  · obtain ⟨waits', -⟩ := (waits.polled supported provides.frame polled).resolve_left silent
    obtain ⟨h, fired, -⟩ := waits'.poll_self supported provides.frame
    refine ⟨waits'.started, ⟨_, fired⟩, fun b started passes => ?_⟩
    obtain ⟨h, polled, -⟩ := waits'.stalled.poll_pauses supported provides.frame started passes
    exact ⟨_, congrArg (· >>= fun h => pure (net'.act b net'.flight h)) polled⟩

theorem requests_progress_first : ∃ net, Reach tenFrames (Incast {0} 1) net ∧ net.flight = [] ∧
    (net.msg 0 (firstRequest 3000).2.uniqReqId).unsentBytes = 3000 ∧
    ∃ a k net', Polled tenFrames a k net net' ∧ net'.Emitted {0} 1 := by
  have ran : ((init tenFrames.cfg).run tenFrames [fun _ => .request 0 1 0 0 0 3000]).map (fun net => decide (
      net.flight = [] ∧ (firstRequest 3000).2.uniqReqId ∈ (net.msgs 0).keys ∧
        (net.msg 0 (firstRequest 3000).2.uniqReqId).unsentBytes = 3000)) = some true := by decide +kernel
  obtain ⟨net, run, values⟩ := Option.map_eq_some_iff.mp ran
  obtain ⟨flight, inside, unsent⟩ := of_decide_eq_true values
  have reach : Reach tenFrames (Incast {0} 1) net := Reach.run .init (fun e inside net => by
    rw [List.mem_singleton.mp inside]
    exact ⟨Finset.mem_singleton_self 0, rfl⟩) run
  have supported : tenFrames.cfg.Supported :=
    ⟨⟨by decide, by decide⟩, Or.inl rfl, by decide +kernel, by decide +kernel⟩
  have provides : tenFrames.cfg.Provides (Finset.card {(0 : Addr)}) :=
    ⟨by decide, by decide, by decide +kernel, by decide +kernel⟩
  obtain ⟨a, -, -, emits⟩ := requests_progress supported provides reach flight (fun a _ two => nomatch two) inside
    fun delivered => nomatch delivered.1.symm.trans unsent
  obtain ⟨k, net', polled, emitted⟩ := emits (by decide +kernel)
  exact ⟨net, reach, flight, unsent, a, k, net', polled, emitted⟩

end Net

end PhantomPass
