import PhantomPass.Congestion.Windows
import PhantomPass.Granting.Turns
import PhantomPass.Network.Budgets
import PhantomPass.Network.Senders
import PhantomPass.Pacing.Runs

/-! The time-sharing policy: what a turn of its loop needs to succeed, and where
the cursor stands behind a message that a turn removes. -/

set_option autoImplicit false

namespace PhantomPass

open Lib (RoundRobin Store)

/-- A sender algorithm that update_sender_state and the agent implement. -/
def Config.Implemented (cfg : Config) : Prop := cfg.senderAlgo = 0 ∨ cfg.senderAlgo = 1 ∨ cfg.senderAlgo = 100

instance (cfg : Config) : Decidable cfg.Implemented := inferInstanceAs (Decidable (_ ∨ _))

theorem getOutboundVqLen_implemented {env : Env} (implemented : env.cfg.Implemented) (daddr : Addr) (s : Sender) :
    getOutboundVqLen env daddr s = .ok s.getGrantedBytesQueueLen := by
  unfold getOutboundVqLen
  rcases implemented with algo | algo | algo <;> simp [algo, pure, Except.pure]

namespace RecvInv

variable {r : RecvSide} {id : UniqReqId}

theorem nextData_le (inv : RecvInv r) (inside : id ∈ r.objs.keys) :
    r.dataGranted + (r.objs.get id).nextData ≤ r.requested := by
  have each : ∀ other ∈ r.objs.keys, (0 : ℤ) ≤
      (r.objs.get other).dataBytesExpected - ((r.objs.get other).dataBytesGranted - (r.objs.get other).base) := by
    intro other member
    have := (inv.obj other member).granted_le
    omega
  have part := Store.le_total r.objs (f := fun _ o =>
    (o.dataBytesExpected : ℤ) - ((o.dataBytesGranted : ℤ) - o.base)) inside each
  rw [Store.total_sub, ← inv.requested, ← inv.dataGranted] at part
  have next : (r.objs.get id).nextData ≤ (r.objs.get id).dataBytesExpected - (r.objs.get id).dataBytesGranted :=
    min_le_right _ _
  have := (inv.obj id inside).granted_le
  omega

end RecvInv

namespace Host

variable {env : Env} {h h1 h' : Host} {id : UniqReqId} {now : Time} {ret ret' : Option CreditResult}

structure Grantable (cfg : Config) (h : Host) : Prop where
  halves : HalvesOk cfg h
  budget : h.Budgeted cfg
  rated : ∀ addr ∈ h.rcv.senderState.keys, SenderState.Rated cfg (h.rcv.sender addr)

theorem Grantable.grants {cfg : Config} (grantable : Grantable cfg h) (grants : Grants cfg h h') :
    Grantable cfg h' where
  halves := grants.ok
  budget := grantable.budget.steps grants.steps
  rated addr inside := by
    rw [grants.senders] at inside
    have before := grantable.rated addr inside
    have windows : { h'.rcv.sender addr with srpbBytes := 0 } = { h.rcv.sender addr with srpbBytes := 0 } :=
      congrFun grants.windows addr
    have nw := congrArg SenderState.nw windows
    have host := congrArg SenderState.host windows
    have since := congrArg SenderState.pktsSinceLastRatioUpdate windows
    dsimp only at nw host since
    exact ⟨by rw [nw, since]; exact before.nw, by rw [host, since]; exact before.host⟩

section Turn

variable (grantable : Grantable env.cfg h) (inside : id ∈ h.rcv.inbound.msgs)

include grantable inside

theorem Grantable.obj : ObjOk h.arrived (h.sent.filter Packet.isGrant) id (h.rcv.msg id) :=
  grantable.halves.recv.inv.obj id (grantable.halves.recv.inv.live id (List.mem_toFinset.mpr inside))

theorem Grantable.met : (h.rcv.msg id).remoteAddr ∈ h.rcv.senderState.keys :=
  grantable.halves.recv.inv.remote_met (grantable.halves.recv.inv.live id (List.mem_toFinset.mpr inside))

theorem Grantable.expected_pos (info : (h.rcv.msg id).receivedMsgInfo = true) :
    0 < (h.rcv.msg id).dataBytesExpected := by
  obtain ⟨q, -, -, pos, size⟩ := (grantable.obj inside).informed info
  omega

theorem checkGranted_succeeds : ∃ u, h.checkGranted id = .ok u := by
  have rated := grantable.rated _ (grantable.met inside)
  obtain ⟨hostNonneg, hostLe⟩ := rated.host_bounds
  have nwNonneg := rated.nw.ratio_nonneg
  have nwLe := rated.nw.ratio_le
  unfold checkGranted assert
  refine Lib.bind_succeeds ⟨_, Lib.require_true _ (grantable.obj inside).granted_le⟩ fun _ _ => ?_
  refine Lib.bind_succeeds ⟨_, Lib.require_true _ ⟨?_, ?_⟩⟩ fun _ _ => ⟨_, Lib.require_true _ ⟨?_, ?_⟩⟩
  all_goals linarith

theorem issueGrant_succeeds (implemented : env.cfg.Implemented) (time : 0 < now)
    (needs : (h.rcv.msg id).dataBytesGranted < (h.rcv.msg id).dataBytesExpected) :
    ∃ h', h.issueGrant env now id = .ok h' := by
  have le := Nat.le_of_lt needs
  obtain ⟨data, -, padding⟩ := InboundMsgState.creditNeeded_eq le
  unfold issueGrant
  dsimp only
  split
  · have requested : h.rcv.creditDataGranted + (h.rcv.msg id).creditNeededData ≤ h.rcv.creditDataRequestRcvd := by
      rw [data]
      exact grantable.halves.recv.inv.nextData_le (grantable.halves.recv.inv.live id (List.mem_toFinset.mpr inside))
    refine Lib.bind_succeeds ⟨_, Lib.require_true _ requested⟩ fun _ _ => ?_
    have pads : (h.rcv.msg id).creditPadding < minR2p2Payload := by
      have pos : 0 < (h.rcv.msg id).nextData := lt_min ethernet.mss_pos (Nat.sub_pos_of_lt needs)
      rw [padding]
      simp only [ethernet, Lib.Framing.cost, wireOverhead, r2p2AllHeadersSize, interPktGapSize, ethernetPreambleSize,
        minEthernetFrameOnWire, minR2p2Payload]
      omega
    unfold forwardGrant
    refine Lib.bind_succeeds ⟨_, Lib.require_true _ pads⟩ fun _ _ => ?_
    refine Lib.bind_succeeds ⟨_, traceGrant_eq id (List.ne_nil_of_mem inside)⟩ fun _ _ => ?_
    apply forwardToTransport_succeeds
    · exact ⟨time, fun _ _ => ⟨by simp [grantHdr], by simp [grantHdr]⟩, _, getOutboundVqLen_implemented implemented _ _⟩
    · decide
    · decide
  · exact ⟨h, rfl⟩

theorem grantCredit_succeeds (implemented : env.cfg.Implemented) (time : 0 < now)
    (info : (h.rcv.msg id).receivedMsgInfo = true)
    (needs : (h.rcv.msg id).dataBytesGranted < (h.rcv.msg id).dataBytesExpected) :
    ∃ r, h.grantCredit env now id = .ok r := by
  unfold grantCredit
  refine Lib.bind_succeeds ⟨_, Lib.require_true _ grantable.budget⟩ fun _ _ => ?_
  split
  · exact ⟨_, rfl⟩
  · refine Lib.bind_succeeds (issueGrant_succeeds grantable inside implemented time needs) fun h1 issued => ?_
    obtain ⟨grants, inbound, -⟩ := issueGrant_ok grantable.halves inside info needs issued
    have still : id ∈ h1.rcv.inbound.msgs := by rw [inbound]; exact inside
    exact Lib.bind_succeeds (checkGranted_succeeds (grantable.grants grants) still) fun _ _ => ⟨_, rfl⟩

theorem sendCreditPolicyCommon_succeeds (implemented : env.cfg.Implemented) (time : 0 < now)
    (info : (h.rcv.msg id).receivedMsgInfo = true) : ∃ r, h.sendCreditPolicyCommon env now id = .ok r := by
  have obj := grantable.obj inside
  unfold sendCreditPolicyCommon
  refine Lib.bind_succeeds ⟨_, Lib.require_true _ (obj.bound info)⟩ fun _ _ => ?_
  refine Lib.bind_succeeds ⟨_, Lib.require_true _ info⟩ fun _ _ => ?_
  split
  · obtain ⟨inbound, removed⟩ := RoundRobin.remove_isSome.mpr inside
    refine Lib.bind_succeeds ⟨{ h.rcv with inbound }, ?_⟩ fun _ _ => ⟨_, rfl⟩
    unfold Receiver.removeInbound
    rw [removed]
    rfl
  · refine Lib.bind_succeeds ⟨_, Lib.require_true _ (grantable.expected_pos inside info)⟩ fun _ _ => ?_
    refine Lib.bind_succeeds ⟨_, Lib.require_true _ obj.granted_le⟩ fun _ _ => ?_
    split
    · exact ⟨_, rfl⟩
    · next needs =>
      have le := obj.granted_le
      exact grantCredit_succeeds grantable inside implemented time info (by omega)

theorem grantInformed_succeeds (implemented : env.cfg.Implemented) (time : 0 < now) :
    ∃ r, h.grantInformed env now id ret = .ok r := by
  unfold grantInformed
  dsimp only
  split
  · next info =>
    refine Lib.bind_succeeds ⟨_, Lib.require_true _ (grantable.expected_pos inside info)⟩ fun _ _ => ?_
    exact Lib.bind_succeeds (sendCreditPolicyCommon_succeeds grantable inside implemented time info) fun _ _ => ⟨_, rfl⟩
  · exact ⟨_, rfl⟩

end Turn

theorem tsMsgLoop_succeeds (implemented : env.cfg.Implemented) (time : 0 < now) (turns i : ℕ)
    (ret : Option CreditResult)
    (grantable : Grantable env.cfg h) (last : i = 0 → ∀ id, h.rcv.inbound.msgs = [id] → ¬ (h.rcv.msg id).Complete) :
    ∃ h', h.tsMsgLoop env now turns i ret = .ok h' := by
  -- on the turns left: the size of the list is read anew in each of them
  induction turns generalizing i ret h with
  | zero => exact ⟨h, rfl⟩
  | succ turns ih =>
    unfold tsMsgLoop
    split
    · exact ⟨h, rfl⟩
    · next goes =>
      have more : i < h.rcv.inbound.size := Nat.lt_of_not_le fun small => goes (Or.inl small)
      cases peek : h.rcv.inbound.peekNext with
      | none =>
        rw [RoundRobin.peekNext_eq_head, List.head?_eq_none_iff, RoundRobin.upcoming_eq_nil] at peek
        have size : h.rcv.inbound.size = 0 := List.length_eq_zero_iff.mpr peek
        omega
      | some id =>
        rw [RoundRobin.peekNext_eq_head] at peek
        have inside := (RoundRobin.mem_upcoming _ _).mp (List.mem_of_mem_head? peek)
        have nodup := grantable.halves.recv.nodup
        dsimp only
        refine Lib.bind_succeeds (grantInformed_succeeds grantable inside implemented time) fun result informed => ?_
        obtain ⟨h1, ret1⟩ := result
        have granted := grantable.grants (grantInformed_ok grantable.halves inside informed).1
        dsimp only
        split
        · exact ⟨h1, rfl⟩
        · cases step : h1.rcv.inbound.next with
          | none =>
            -- the turn has emptied the list: its message was the only one, and complete
            obtain ⟨rest, upcoming⟩ := List.head?_eq_some_iff.mp peek
            have left := (grantInformed_visits nodup informed).upcoming
            rw [RoundRobin.upcoming_eq_nil.mpr (RoundRobin.next_eq_none.mp step), upcoming] at left
            split at left
            · next complete =>
              rw [List.erase_cons_head] at left
              have single : h.rcv.inbound.msgs = [id] := by
                rw [← left] at upcoming
                exact List.perm_singleton.mp (upcoming ▸ h.rcv.inbound.upcoming_perm.symm)
              have size : h.rcv.inbound.size = 1 := congrArg List.length single
              exact absurd complete (last (by omega) id single)
            · cases left
          | some turn =>
            obtain ⟨last, inbound⟩ := turn
            have msgs := (RoundRobin.next_spec step).1
            exact ih (i + 1) ret1 (granted.grants (reorder_ok granted.halves inbound (by rw [msgs]))) fun none => by
              cases none

/-- A turn of the loop of send_grants_ts_msg begins. -/
structure TsTurn where
  i : ℕ
  ret : Option CreditResult
  h : Host

namespace TsTurn

def Goes (env : Env) (t : TsTurn) : Prop := ¬ (t.h.rcv.inbound.size ≤ t.i ∨ t.h.grantPacerBusy env.cfg = true)

inductive Step (env : Env) (now : Time) : TsTurn → TsTurn → Prop
  | turn {t : TsTurn} {id last : UniqReqId} {h1 : Host} {ret : Option CreditResult} {inbound : RoundRobin UniqReqId} :
      t.Goes env → t.h.rcv.inbound.peekNext = some id → t.h.grantInformed env now id t.ret = .ok (h1, ret) →
      ret ≠ some .noBudget → h1.rcv.inbound.next = some (last, inbound) →
      Step env now t ⟨t.i + 1, ret, { h1 with rcv := { h1.rcv with inbound } }⟩

def Steps (env : Env) (now : Time) : TsTurn → TsTurn → Prop := Relation.ReflTransGen (Step env now)

/-- The loop from a turn on, with as many turns left as it can take. -/
def Returns (env : Env) (now : Time) (t : TsTurn) : Prop :=
  ∃ turns, t.h.rcv.inbound.size ≤ t.i + turns ∧ ∃ h', t.h.tsMsgLoop env now turns t.i t.ret = .ok h'

/-- Behind a turn that removes a message the cursor stands on the message that followed it. -/
def SkipFree (env : Env) (now : Time) (t : TsTurn) : Prop :=
  ∀ t1 t2, Steps env now t t1 → Step env now t1 t2 → ∀ id, t1.h.rcv.inbound.peekNext = some id →
    id ∉ t2.h.rcv.inbound.msgs → t2.h.rcv.inbound.peekNext = t1.h.rcv.inbound.upcoming.tail.head?

def Fits (env : Env) (now : Time) (t : TsTurn) : Prop :=
  ∀ t1, Steps env now t t1 → t1.Goes env → ∀ id, t1.h.rcv.inbound.peekNext = some id →
    (t1.h.rcv.msg id).Complete → t1.h.rcv.inbound.size = 2

variable {t t1 t2 : TsTurn}

theorem SkipFree.step (free : SkipFree env now t) (step : Step env now t t1) : SkipFree env now t1 :=
  fun _ _ steps => free _ _ (.head step steps)

/-- What a turn does to the order of the messages: a kept one goes to the end, and
behind a removed one the next is passed over. -/
theorem Step.upcoming (nodup : t.h.rcv.inbound.msgs.Nodup) (step : Step env now t t1) :
    ∃ id rest, t.h.rcv.inbound.upcoming = id :: rest ∧
      if (t.h.rcv.msg id).Complete then ∃ next others, rest = next :: others ∧ t1.h.rcv.inbound.upcoming =
      others ++ [next]
      else t1.h.rcv.inbound.upcoming = rest ++ [id] := by
  cases step with
  | turn goes peek informed budget next =>
    rename_i id last h1 ret inbound
    rw [RoundRobin.peekNext_eq_head] at peek
    obtain ⟨rest, upcoming⟩ := List.head?_eq_some_iff.mp peek
    have visits := (grantInformed_visits nodup informed).upcoming
    obtain ⟨-, others, before, behind⟩ := RoundRobin.next_spec next
    refine ⟨id, rest, upcoming, ?_⟩
    rw [upcoming] at visits
    split
    · next complete =>
      rw [if_pos complete, List.erase_cons_head] at visits
      exact ⟨last, others, visits.symm.trans before, behind⟩
    · next incomplete =>
      rw [if_neg incomplete] at visits
      obtain ⟨rfl, rfl⟩ := List.cons.inj (before.symm.trans visits)
      exact behind

theorem Step.grantable (grantable : Grantable env.cfg t.h) (step : Step env now t t1) : Grantable env.cfg t1.h := by
  cases step with
  | turn goes peek informed budget next =>
    rw [RoundRobin.peekNext_eq_head] at peek
    have inside := (RoundRobin.mem_upcoming _ _).mp (List.mem_of_mem_head? peek)
    have granted := grantable.grants (grantInformed_ok grantable.halves inside informed).1
    have msgs := (RoundRobin.next_spec next).1
    exact granted.grants (reorder_ok granted.halves _ (by rw [msgs]))

theorem Returns.step (returns : Returns env now t) (nodup : t.h.rcv.inbound.msgs.Nodup) (step : Step env now t t1) :
    Returns env now t1 := by
  obtain ⟨turns, enough, h', run⟩ := returns
  have smaller : t1.h.rcv.inbound.size ≤ t.h.rcv.inbound.size := by
    obtain ⟨id, rest, before, behind⟩ := step.upcoming nodup
    rw [← RoundRobin.length_upcoming, ← RoundRobin.length_upcoming, before]
    split at behind
    · obtain ⟨next, others, rfl, after⟩ := behind
      rw [after]
      simp
    · rw [behind]
      simp
  cases step with
  | turn goes peek informed budget next =>
    cases turns with
    | zero => exact absurd (Or.inl enough) goes
    | succ turns =>
      unfold tsMsgLoop at run
      rw [if_neg goes] at run
      simp only [peek, informed, Lib.ok_bind, if_neg budget, next] at run
      exact ⟨turns, by dsimp only at smaller ⊢; omega, h', run⟩

theorem Returns.goes_on {id : UniqReqId} (returns : Returns env now t) (nodup : t.h.rcv.inbound.msgs.Nodup)
    (goes : t.Goes env) (peek : t.h.rcv.inbound.peekNext = some id) (complete : (t.h.rcv.msg id).Complete) :
    ∃ t1, Step env now t t1 := by
  obtain ⟨turns, enough, h', run⟩ := returns
  cases turns with
  | zero => exact absurd (Or.inl enough) goes
  | succ turns =>
    unfold tsMsgLoop at run
    rw [if_neg goes] at run
    simp only [peek, Lib.bind_eq_ok] at run
    obtain ⟨⟨h1, ret⟩, informed, run⟩ := run
    have budget : ret ≠ some .noBudget := by
      rw [grantInformed_removed nodup complete informed]
      decide
    rw [if_neg budget] at run
    split at run
    · cases run
    · next next => exact ⟨_, .turn goes peek informed budget next⟩

/-- Where the pass returns and skips nothing, complete messages are only found in lists of two. -/
theorem size_of_complete {id : UniqReqId} (returns : Returns env now t) (free : SkipFree env now t)
    (nodup : t.h.rcv.inbound.msgs.Nodup) (goes : t.Goes env) (peek : t.h.rcv.inbound.peekNext = some id)
    (complete : (t.h.rcv.msg id).Complete) : t.h.rcv.inbound.size = 2 := by
  obtain ⟨t1, step⟩ := returns.goes_on nodup goes peek complete
  obtain ⟨id', rest, before, behind⟩ := step.upcoming nodup
  have same : id' = id := by
    rw [RoundRobin.peekNext_eq_head, before] at peek
    exact Option.some.inj peek
  subst same
  rw [if_pos complete] at behind
  obtain ⟨next, others, rfl, after⟩ := behind
  have once : (id' :: next :: others).Nodup := by
    rw [← before, t.h.rcv.inbound.upcoming_perm.nodup_iff]
    exact nodup
  have gone : id' ∉ t1.h.rcv.inbound.msgs := by
    rw [← RoundRobin.mem_upcoming, after, List.mem_append, List.mem_singleton, or_comm]
    exact fun inside => (List.nodup_cons.mp once).1 (List.mem_cons.mpr inside)
  have stands := free _ _ .refl step id' peek gone
  rw [RoundRobin.peekNext_eq_head, before, after] at stands
  rw [← RoundRobin.length_upcoming, before]
  cases others with
  | nil => rfl
  | cons other others =>
    have skipped : other = next := Option.some.inj stands
    have apart := (List.nodup_cons.mp (List.nodup_cons.mp once).2).1
    exact absurd (skipped ▸ List.mem_cons_self) apart

theorem Returns.fits (returns : Returns env now t) (free : SkipFree env now t) (grantable : Grantable env.cfg t.h) :
    Fits env now t := by
  intro t1 steps
  have all : Returns env now t1 ∧ SkipFree env now t1 ∧ Grantable env.cfg t1.h := by
    -- the two conditions and the invariant are carried along the turns together
    induction steps with
    | refl => exact ⟨returns, free, grantable⟩
    | tail _ last ih =>
      obtain ⟨returns, free, grantable⟩ := ih
      exact ⟨returns.step grantable.halves.recv.nodup last, free.step last, last.grantable grantable⟩
  obtain ⟨returns, free, grantable⟩ := all
  intro goes id peek complete
  exact size_of_complete returns free grantable.halves.recv.nodup goes peek complete

theorem Fits.succeeds (implemented : env.cfg.Implemented) (time : 0 < now) (turns : ℕ) (fits : Fits env now t)
    (grantable : Grantable env.cfg t.h) : ∃ h', t.h.tsMsgLoop env now turns t.i t.ret = .ok h' := by
  by_cases goes : t.Goes env
  · apply tsMsgLoop_succeeds implemented time turns t.i t.ret grantable
    intro _ id single complete
    have peek : t.h.rcv.inbound.peekNext = some id := by
      have upcoming := List.perm_singleton.mp (single ▸ t.h.rcv.inbound.upcoming_perm)
      rw [RoundRobin.peekNext_eq_head, upcoming]
      rfl
    have two := fits t .refl goes id peek complete
    rw [RoundRobin.size, single] at two
    cases two
  · cases turns with
    | zero => exact ⟨t.h, rfl⟩
    | succ turns => exact ⟨t.h, if_pos (not_not.mp goes)⟩

theorem Step.kept {id : UniqReqId} (nodup : t.h.rcv.inbound.msgs.Nodup) (step : Step env now t t1)
    (peek : t.h.rcv.inbound.peekNext = some id) (gone : id ∉ t1.h.rcv.inbound.msgs) : (t.h.rcv.msg id).Complete := by
  by_contra incomplete
  obtain ⟨first, rest, before, behind⟩ := step.upcoming nodup
  rw [RoundRobin.peekNext_eq_head, before] at peek
  have same : first = id := Option.some.inj peek
  subst same
  rw [if_neg incomplete] at behind
  rw [← RoundRobin.mem_upcoming, behind] at gone
  exact gone (List.mem_append_right _ (List.mem_singleton_self first))

theorem Fits.skipFree (fits : Fits env now t) (grantable : Grantable env.cfg t.h) : SkipFree env now t := by
  intro t1 t2 steps step id peek gone
  have still : Grantable env.cfg t1.h := by
    clear step peek gone
    induction steps with
    | refl => exact grantable
    | tail _ last ih => exact last.grantable ih
  have nodup := still.halves.recv.nodup
  have complete := step.kept nodup peek gone
  have goes : t1.Goes env := by
    cases step with
    | turn goes => exact goes
  have two := fits t1 steps goes id peek complete
  obtain ⟨first, rest, before, behind⟩ := step.upcoming nodup
  have same : first = id := by
    rw [RoundRobin.peekNext_eq_head, before] at peek
    exact Option.some.inj peek
  subst same
  rw [if_pos complete] at behind
  obtain ⟨next, others, rfl, after⟩ := behind
  rw [← RoundRobin.length_upcoming, before] at two
  have only : others = [] := List.eq_nil_of_length_eq_zero (by simpa using two)
  rw [RoundRobin.peekNext_eq_head, before, after, only]
  rfl

theorem fits_of_empty (empty : t.h.rcv.inbound.size = 0) : Fits env now t := by
  have stays : ∀ t1, ¬ Step env now t t1 := by
    intro t1 step
    cases step with
    | turn goes => exact goes (Or.inl (by rw [empty]; exact Nat.zero_le _))
  intro t1 steps goes
  rcases Relation.ReflTransGen.cases_head steps with rfl | ⟨t2, step, -⟩
  · exact absurd (Or.inl (by rw [empty]; exact Nat.zero_le _)) goes
  · exact absurd step (stays t2)

end TsTurn

theorem Grantable.begin_ (grantable : Grantable env.cfg h) (now : Time) :
    Grantable env.cfg (h.grantsBegin env now) :=
  grantable.grants (pacing_ok grantable.halves _ _ _)

end Host

namespace Net

variable {env : Env} {net : Net}

theorem Reach.grantable {cond : Net → Event → Prop} (weight : 0 ≤ env.cfg.ceNewWeight ∧ env.cfg.ceNewWeight ≤ 1)
    (reach : Reach env cond net) (a : Addr) : Host.Grantable env.cfg (net.host a) where
  halves := (reach.ok.host a).halves
  budget := reach.budgets a
  rated addr inside := (reach.senders a addr inside).rated weight

/-- In every reachable state a time-sharing pass returns and skips no message
exactly when its turns find complete messages only in lists of two. -/
theorem ts_pass_iff (weight : 0 ≤ env.cfg.ceNewWeight ∧ env.cfg.ceNewWeight ≤ 1) (implemented : env.cfg.Implemented)
    (reach : Reachable env net) (a : Addr) :
    (∃ h', ((net.host a).grantsBegin env net.clock).sendGrantsTsMsg env net.clock = .ok h') ∧
        Host.TsTurn.SkipFree env net.clock ⟨0, none, (net.host a).grantsBegin env net.clock⟩ ↔
      Host.TsTurn.Fits env net.clock ⟨0, none, (net.host a).grantsBegin env net.clock⟩ := by
  have grantable := (Reach.grantable weight reach a).begin_ net.clock
  have time : 0 < net.clock := lt_of_lt_of_le (by norm_num) reach.ok.clock
  constructor
  · rintro ⟨returns, free⟩
    have turns : Host.TsTurn.Returns env net.clock ⟨0, none, (net.host a).grantsBegin env net.clock⟩ :=
      ⟨((net.host a).grantsBegin env net.clock).rcv.inbound.size, by rw [Nat.zero_add], returns⟩
    exact turns.fits free grantable
  · intro fits
    exact ⟨fits.succeeds implemented time _ grantable, fits.skipFree grantable⟩

def timeShared : Env := ⟨Config.small 15380 0 0 0 0 tenFrames_set noUnsolicited_set, .plain⟩

/-- The second request takes the credit of the first, so that all of it has
arrived when it is granted; then the first one arrives, and is removed. -/
def lastLeft : List (Net → Event) :=
  [fun _ => .request 0 1 0 0 0 101, fun _ => .tick (1 / 1000000), fun _ => .poll 0, deliverFirst,
    fun _ => .tick (1 / 1000000), fun _ => .poll 1, fun _ => .request 0 1 0 0 0 100, deliverFirst,
    fun _ => .tick (1 / 1000000), fun _ => .poll 0, deliverFirst, deliverFirst,
    fun _ => .tick (1 / 1000000), fun _ => .poll 1, deliverFirst,
    fun _ => .tick (1 / 1000000), fun _ => .poll 0, deliverFirst, fun _ => .tick (1 / 1000000)]

theorem lastLeft_throws : ∃ net, Reachable timeShared net ∧
    ((net.host 1).grantsBegin timeShared net.clock).sendGrantsTsMsg timeShared net.clock =
      .error (.thrown .inboundNext "there is no next() because the array is empty") ∧
    (net.host 0).rcv.inbound.size = 0 := by
  have ran : ((init timeShared.cfg).run timeShared lastLeft).map (fun net =>
      (match ((net.host 1).grantsBegin timeShared net.clock).sendGrantsTsMsg timeShared net.clock with
        | .ok _ => none
        | .error stop => some stop, (net.host 0).rcv.inbound.size)) =
      some (some (.thrown .inboundNext "there is no next() because the array is empty"), 0) := by decide +kernel
  obtain ⟨net, run, pass⟩ := Option.map_eq_some_iff.mp ran
  obtain ⟨stops, empty⟩ := Prod.mk.inj pass
  refine ⟨net, Reach.run .init (fun _ _ _ => trivial) run, ?_, empty⟩
  split at stops
  · cases stops
  · next stop error => rw [error, Option.some.inj stops]

/-- The pass removes the last message and asks for the next one. -/
theorem ts_pass_throws : ¬ ∀ (env : Env) (net : Net) (a : Addr), env.cfg.receiverPolicy = 0 → Reachable env net →
    ∃ h', ((net.host a).grantsBegin env net.clock).sendGrantsTsMsg env net.clock = .ok h' := by
  intro claimed
  obtain ⟨net, reach, stops, -⟩ := lastLeft_throws
  obtain ⟨h', returns⟩ := claimed timeShared net 1 rfl reach
  rw [stops] at returns
  cases returns

theorem ts_pass_iff_lastLeft : ∃ net, Reachable timeShared net ∧
    ¬ Host.TsTurn.Fits timeShared net.clock ⟨0, none, (net.host 1).grantsBegin timeShared net.clock⟩ ∧
    ∃ h', ((net.host 0).grantsBegin timeShared net.clock).sendGrantsTsMsg timeShared net.clock = .ok h' := by
  obtain ⟨net, reach, stops, empty⟩ := lastLeft_throws
  have iff := @ts_pass_iff timeShared net (by decide +kernel) (by decide) reach
  refine ⟨net, reach, fun fits => ?_, ((iff 0).mpr (Host.TsTurn.fits_of_empty empty)).1⟩
  obtain ⟨h', returns⟩ := ((iff 1).mpr fits).1
  rw [stops] at returns
  cases returns

end Net

end PhantomPass
