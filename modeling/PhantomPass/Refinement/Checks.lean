import PhantomPass.Policy.Pass
import PhantomPass.Refinement.Host

/-! Where checks can fail. A check is followed through everything that leads to
it: every call spares it, but those whose own state decides. -/

set_option autoImplicit false

namespace PhantomPass

open Lib (Avoids RoundRobin Store)

/-- The functions whose checks are followed through everything that calls them. -/
inductive Watched
  | creditExpected | receivedData | sendCreditPolicyCommon
  deriving DecidableEq

def Watched.site : Watched → Site
  | .creditExpected => .creditExpected
  | .receivedData => .receivedData
  | .sendCreditPolicyCommon => .sendCreditPolicyCommon

def Watched.Stops (w : Watched) (fault : Fault) : Prop := fault.site = w.site

namespace Watched

variable (w : Watched) (site : Site) (text : String)

@[simp] theorem stops_assertion : w.Stops (.assertion site text) ↔ site = w.site := Iff.rfl

@[simp] theorem stops_thrown : w.Stops (.thrown site text) ↔ site = w.site := Iff.rfl

@[simp] theorem stops_undefined : w.Stops (.undefined site text) ↔ site = w.site := Iff.rfl

@[simp] theorem assert_spares (cond : Prop) [Decidable cond] :
    Avoids w.Stops (assert site text cond) ↔ (site = w.site → cond) := Avoids.require_iff ..

variable {site} in
@[simp] theorem site_ne (other : site ≠ .creditExpected ∧ site ≠ .receivedData ∧ site ≠ .sendCreditPolicyCommon) :
    ¬ site = w.site := by
  rintro rfl
  cases w with
  | creditExpected => exact other.1 rfl
  | receivedData => exact other.2.1 rfl
  | sendCreditPolicyCommon => exact other.2.2 rfl

@[simp] theorem site_creditExpected : .creditExpected = w.site ↔ w = .creditExpected := by
    cases w <;> simp [Watched.site]

@[simp] theorem site_receivedData : .receivedData = w.site ↔ w = .receivedData := by cases w <;> simp [Watched.site]

@[simp] theorem site_sendCreditPolicyCommon : .sendCreditPolicyCommon = w.site ↔ w = .sendCreditPolicyCommon := by
  cases w <;> simp [Watched.site]

/-- The check of credit_expected is followed, and algorithm 2 makes it for every packet. -/
def Asks (env : Env) : Prop := w = .creditExpected ∧ env.cfg.senderAlgo = 2

end Watched

variable {w : Watched}

/-- No pool holds more than the messages queued there still cost. -/
def Sender.Within (s : Sender) : Prop := ∀ addr ∈ s.remotes.keys, (s.rcvr addr).availCreditBytes ≤ s.unsentBytes addr

namespace Sender

variable {env : Env} {s : Sender}

theorem Within.chooses {s' : Sender} (within : s.Within) (chooses : Chooses s s') : s'.Within := by
  intro addr known
  have same : s'.unsentBytes addr = s.unsentBytes addr := by
    unfold unsentBytes
    simp only [chooses.msg]
    exact ((chooses.queue addr).map _).sum_eq
  rw [same, chooses.credit]
  exact within addr (chooses.remotes ▸ known)

theorem creditExpected_succeeds {addr : Addr} (within : (s.rcvr addr).availCreditBytes ≤ s.unsentBytes addr) :
    ∃ expected, s.creditExpected addr = .ok expected := by
  unfold creditExpected assert
  dsimp only
  rw [Lib.require_true _ (sub_nonneg.mpr within)]
  exact ⟨_, rfl⟩

theorem numReceiversOwingCredit_spares (within : w = .creditExpected → s.Within) {order : List Addr}
    (known : ∀ addr ∈ order, addr ∈ s.remotes.keys) : Avoids w.Stops (s.numReceiversOwingCredit order) := by
  induction order with
  | nil => exact .pure 0
  | cons addr rest ih =>
    have others := ih fun other inside => known other (List.mem_cons_of_mem _ inside)
    have own : Avoids w.Stops (s.creditExpected addr) := by
      unfold creditExpected
      simp
      exact fun asked => within asked addr (known addr List.mem_cons_self)
    simp [numReceiversOwingCredit, own, others]

theorem getOutboundVqLen_spares (within : w.Asks env → s.Within) (daddr : Addr) :
    Avoids w.Stops (getOutboundVqLen env daddr s) := by
  have owing : env.cfg.senderAlgo = 2 → Avoids w.Stops (s.numReceiversOwingCredit (env.plat.walk s.remotes.keys)) := by
    intro two
    apply numReceiversOwingCredit_spares
    · exact fun asked => within ⟨asked, two⟩
    · exact fun addr inside => (env.plat.walk_perm _).mem_iff.mp inside
  unfold getOutboundVqLen
  simp +contextual [owing]

section Choice

theorem wantToSend_spares (plat : Platform) (addr : Addr) : Avoids w.Stops (s.wantToSend plat addr) := by
  obtain ⟨s', run⟩ := wantToSend_succeeds plat s addr
  rw [run]
  exact .ok s'

theorem consider_spares (addr : Addr) (pass : PolicyPass) : Avoids w.Stops (s.consider env addr pass) := by
  unfold consider weigh
  cases (s.rcverPolicyStates addr).msgState <;> simp

theorem findCanSend_spares {order : List Addr} {pass : PolicyPass} : Avoids w.Stops (findCanSend env order s pass) := by
  induction order generalizing s pass with
  | nil => exact .pure _
  | cons addr rest ih =>
    unfold findCanSend
    simp [wantToSend_spares, consider_spares, ih]

theorem addDeficits_spares {high highFlow : Addr} {highQuantum lowQuantum : ℚ} {order : List Addr}
    {states : Addr → PolicyState} :
    Avoids w.Stops (addDeficits high highFlow highQuantum lowQuantum order states) := by
  induction order generalizing states with
  | nil => exact .pure _
  | cons addr rest ih =>
    unfold addDeficits
    simp [ih]

theorem updatePolicyState_spares : Avoids w.Stops (s.updatePolicyState env) := by
  unfold updatePolicyState
  apply Avoids.bind (by simp)
  intro _ _
  apply Avoids.bind findCanSend_spares
  rintro ⟨s1, pass⟩ _
  dsimp only
  split
  · exact .pure _
  · split <;> simp [addDeficits_spares]

theorem highestDeficit_spares {states : Addr → PolicyState} {order : List Addr} {ret : Option Addr} {highest : ℚ} :
    Avoids w.Stops (highestDeficit states order ret highest) := by
  induction order generalizing ret highest with
  | nil => exact .pure _
  | cons addr rest ih =>
    unfold highestDeficit
    simp [ih]

theorem addQuanta_spares {order : List Addr} {states : Addr → PolicyState} : Avoids w.Stops
    (addQuanta order states) := by
  induction order generalizing states with
  | nil => exact .pure _
  | cons addr rest ih =>
    unfold addQuanta
    simp [ih]

theorem selectRounds_spares {order : List Addr} {rounds : ℕ} {states : Addr → PolicyState} :
    Avoids w.Stops (selectRounds order rounds states) := by
  induction rounds generalizing states with
  | zero => simp [selectRounds]
  | succ rounds ih =>
    unfold selectRounds
    apply Avoids.bind highestDeficit_spares
    intro found _
    split <;> simp [addQuanta_spares, ih]

theorem selectMsgToSend_spares (plat : Platform) : Avoids w.Stops (s.selectMsgToSend plat) := by
  unfold selectMsgToSend
  simp [selectRounds_spares]

end Choice

section Credit

variable {cfg : Config} {id : UniqReqId}

theorem selfCredit_spares : Avoids w.Stops (selfCredit cfg id s) := by
  unfold selfCredit
  simp

theorem selfCreditLoop_spares {turns : ℕ} : Avoids w.Stops (selfCreditLoop cfg turns s) := by
  induction turns generalizing s with
  | zero => exact .pure _
  | succ turns ih =>
    unfold selfCreditLoop
    split <;> simp [selfCredit_spares, ih]

theorem moveToReceiver_spares : Avoids w.Stops (s.moveToReceiver id) := by
  unfold moveToReceiver
  split <;> simp

end Credit

end Sender

namespace Host

variable {env : Env} {h h' : Host}

theorem markFrame_spares (cfg : Config) (last : Bool) (hdr : Hdr) (grantedBytes : ℤ) :
    Avoids w.Stops (markFrame cfg last hdr grantedBytes) := by
  unfold markFrame actuallyMark
  simp

theorem sendFrame_spares (within : w.Asks env → h.snd.Within) {last : Bool} {daddr : Addr} {len : ℕ}
    {flowid prio grantedBytes : ℤ} {hdr : Hdr} : Avoids w.Stops
    (h.sendFrame env last daddr len flowid prio hdr grantedBytes) := by
  unfold sendFrame
  simp [markFrame_spares, Sender.getOutboundVqLen_spares within]

theorem sendFullFrames_spares {turns : ℕ} (within : w.Asks env → h.snd.Within) {daddr : Addr}
    {flowid prio grantedBytes : ℤ} {hdr : Hdr} : Avoids w.Stops
    (h.sendFullFrames env daddr flowid prio turns hdr grantedBytes) := by
  induction turns generalizing h hdr grantedBytes with
  | zero => exact .pure _
  | succ turns ih =>
    unfold sendFullFrames
    apply Avoids.bind (sendFrame_spares within)
    intro sent run
    have same : sent.1.snd = h.snd := sendFrame_snd run
    exact ih (by rw [same]; exact within)

theorem forwardToTransport_spares (within : w.Asks env → h.snd.Within) (hdr : Hdr) (nbytes : ℕ) (daddr : Addr) :
    Avoids w.Stops (h.forwardToTransport env hdr nbytes daddr) := by
  unfold forwardToTransport sendmsg
  dsimp only
  apply Avoids.bind (by simp)
  intro _ _
  apply Avoids.bind (sendFullFrames_spares within)
  intro sent run
  have same : sent.2.2.snd = h.snd := sendFullFrames_snd run
  have still : w.Asks env → sent.2.2.snd.Within := by
    rw [same]
    exact within
  simp [sendFrame_spares still]

section Granting

variable {id : UniqReqId} {now : Time}

theorem traceGrant_spares : Avoids w.Stops (h.traceGrant env id) := by
  unfold traceGrant Receiver.msgOrderSize
  simp

theorem forwardGrant_spares (quiet : ¬ w.Asks env) (creditBytes padding : ℤ) :
    Avoids w.Stops (h.forwardGrant env now id creditBytes padding) := by
  unfold forwardGrant
  apply Avoids.bind (by simp)
  intro _ _
  apply Avoids.bind traceGrant_spares
  intro _ _
  apply forwardToTransport_spares
  exact fun asks => absurd asks quiet

theorem grantInformed_spares (quiet : ¬ w.Asks env) (other : w ≠ .sendCreditPolicyCommon) {ret : Option CreditResult} :
    Avoids w.Stops (h.grantInformed env now id ret) := by
  have removed : Avoids w.Stops (h.rcv.removeInbound id) := by
    unfold Receiver.removeInbound
    split <;> simp
  unfold grantInformed sendCreditPolicyCommon grantCredit issueGrant checkGranted
  simp [removed, forwardGrant_spares quiet, other]

/-- What lets a granting loop visit a message, and is left behind by the visit. -/
structure Lets (w : Watched) (env : Env) (now : Time) (P : Host → Prop) : Prop where
  spares : ∀ h id ret, P h → id ∈ h.rcv.inbound.msgs → Avoids w.Stops (h.grantInformed env now id ret)
  keeps : ∀ h id ret h' ret', P h → id ∈ h.rcv.inbound.msgs → h.grantInformed env now id ret = .ok (h', ret') → P h'
  moves : ∀ h (inbound : RoundRobin UniqReqId), P h → inbound.msgs.Perm h.rcv.inbound.msgs →
    P { h with rcv := { h.rcv with inbound } }

variable {P : Host → Prop} (lets : Lets w env now P) (holds : P h)

include lets holds

theorem tsMsgLoop_spares {turns i : ℕ} {ret : Option CreditResult} :
    Avoids w.Stops (h.tsMsgLoop env now turns i ret) := by
  induction turns generalizing h i ret with
  | zero => exact .pure _
  | succ turns ih =>
    unfold tsMsgLoop
    split
    · exact .pure _
    · split
      · simp
      · next id peek =>
        have inside : id ∈ h.rcv.inbound.msgs := by
          rw [RoundRobin.peekNext_eq_head] at peek
          exact (RoundRobin.mem_upcoming _ _).mp (List.mem_of_mem_head? peek)
        apply Avoids.bind (lets.spares h id ret holds inside)
        intro ⟨h1, ret1⟩ informed
        dsimp only
        split
        · exact .pure _
        · split
          · simp
          · next _ inbound next =>
            apply ih
            apply lets.moves h1 inbound (lets.keeps h id ret h1 ret1 holds inside informed)
            rw [(RoundRobin.next_spec next).1]

theorem sortedMsgLoop_spares {turns i : ℕ} {ret : Option CreditResult} :
    Avoids w.Stops (h.sortedMsgLoop env now turns i ret) := by
  induction turns generalizing h i ret with
  | zero => exact .pure _
  | succ turns ih =>
    unfold sortedMsgLoop
    split
    · exact .pure _
    · split
      · simp
      · next id inbound next =>
        obtain ⟨msgs, others, before, -⟩ := RoundRobin.next_spec next
        have inside : id ∈ inbound.msgs := by
          rw [msgs, ← RoundRobin.mem_upcoming, before]
          exact List.mem_cons_self
        have moved := lets.moves h inbound holds (by rw [msgs])
        apply Avoids.bind (lets.spares _ id ret moved inside)
        intro ⟨h1, ret1⟩ informed
        exact ih (lets.keeps _ id ret h1 ret1 moved inside informed)

omit holds in
theorem sendGrants_spares (begin_ : P ({ h with lastGrantTime := now }.updateGrantBacklog env now)) :
    Avoids w.Stops (h.sendGrants env now) := by
  have sorted : ∀ key,
    Avoids w.Stops (({ h with lastGrantTime := now }.updateGrantBacklog env now).sendGrantsSorted env now key) := by
    intro key
    unfold sendGrantsSorted
    split
    · exact .pure _
    · apply sortedMsgLoop_spares lets
      apply lets.moves _ _ begin_
      exact env.plat.sortBy_perm ..
  unfold sendGrants sendGrantsTsMsg sendGrantsSrptMsg sendGrantsEqualBifMsg
  simp [tsMsgLoop_spares lets begin_, sorted]

end Granting

theorem sendGrants_idle {now : Time} (idle : h.rcv.inbound.msgs = []) : Avoids w.Stops (h.sendGrants env now) := by
  have none : ∀ key, env.plat.sortBy key [] = [] := fun key => (env.plat.sortBy_perm key []).eq_nil
  unfold sendGrants sendGrantsTsMsg sendGrantsSrptMsg sendGrantsEqualBifMsg sendGrantsSorted updateGrantBacklog
  simp [RoundRobin.size, idle, none, tsMsgLoop, sortedMsgLoop]

end Host

/-- What a message still takes from the pool, once it is queued. -/
def OutboundMsgState.queued (m : OutboundMsgState) : ℤ := if m.active then ethernet.wire m.unsentBytes else 0

/-- What a message can still take from the pool: nothing before it has credited itself or has asked for credit. -/
def OutboundMsgState.needed (m : OutboundMsgState) : ℤ :=
  if m.active = false ∧ m.isScheduled = true then 0 else ethernet.wire m.unsentBytes

namespace Sender

variable {s : Sender} {addr : Addr}

/-- What the active messages to a receiver still take from its pool. -/
def queuedTo (s : Sender) (addr : Addr) : ℤ :=
  s.outbound.total fun _ m => if m.remoteAddr = addr then m.queued else 0

theorem unsentBytes_eq_total (nodup : (s.rcvr addr).outMsgs.msgs.Nodup) (only : ∀ id ∈ (s.rcvr addr).outMsgs.msgs,
      id ∈ s.outbound.keys ∧ (s.msg id).active = true ∧ (s.msg id).remoteAddr = addr)
    (all : ∀ id ∈ s.outbound.keys, (s.msg id).active = true → 0 < (s.msg id).unsentBytes →
    (s.msg id).remoteAddr = addr →
      id ∈ (s.rcvr addr).outMsgs.msgs) :
    s.unsentBytes addr = s.queuedTo addr := by
  unfold unsentBytes queuedTo Store.total
  rw [← List.sum_toFinset _ nodup]
  have within : (s.rcvr addr).outMsgs.msgs.toFinset ⊆ s.outbound.keys.toFinset := by
    intro id inside
    exact List.mem_toFinset.mpr (only id (List.mem_toFinset.mp inside)).1
  refine Eq.trans ?_ (Finset.sum_subset within ?_)
  · apply Finset.sum_congr rfl
    intro id inside
    obtain ⟨-, active, towards⟩ := only id (List.mem_toFinset.mp inside)
    change _ = if (s.msg id).remoteAddr = addr then (s.msg id).queued else 0
    unfold OutboundMsgState.queued
    rw [if_pos towards, if_pos active, addHeaderOverhead_eq]
  · intro id inside outside
    rw [List.mem_toFinset] at inside outside
    change (if (s.msg id).remoteAddr = addr then (s.msg id).queued else 0) = 0
    unfold OutboundMsgState.queued
    split
    · next towards =>
      split
      · next active =>
        have sent : (s.msg id).unsentBytes = 0 := by
          by_contra pos
          exact outside (all id inside active (Nat.pos_of_ne_zero pos) towards)
        rw [sent, Lib.Framing.wire_zero]
        rfl
      · rfl
    · rfl

theorem Queues.unsentBytes_eq (queues : s.Queues) (known : addr ∈ s.remotes.keys) :
    s.unsentBytes addr = s.queuedTo addr := by
  apply unsentBytes_eq_total (queues.queue_nodup addr known)
  · intro id inside
    obtain ⟨member, active, -, towards⟩ := (queues.queue addr known id).mp inside
    exact ⟨member, active, towards⟩
  · exact fun id member active unsent towards => (queues.queue addr known id).mpr ⟨member, active, unsent, towards⟩

end Sender

namespace Host

variable {env : Env} {h h' : Host} {id : UniqReqId}

def Covers (h : Host) : Prop := ∀ addr, h.snd.pool addr ≤ h.sendSide.toward addr OutboundMsgState.needed

theorem Covers.within (covers : h.Covers) (ok : SendOk env.cfg h)
    (uncredited : ∀ id ∈ h.snd.outboundInactive.msgs, (h.snd.msg id).isScheduled = true) : h.snd.Within := by
  intro addr known
  rw [← Sender.pool_eq known, ok.queues.unsentBytes_eq known]
  apply (covers addr).trans
  apply SendSide.toward_mono (g := OutboundMsgState.queued)
  intro id inside _
  unfold OutboundMsgState.needed OutboundMsgState.queued
  cases active : (h.sendSide.msgs.get id).active with
  | true => simp
  | false =>
    have scheduled := uncredited id ((ok.queues.inactive id).mpr ⟨inside, active⟩)
    rw [if_pos ⟨rfl, scheduled⟩]
    simp

theorem spend_within (ok : SendOk env.cfg h) (within : h.snd.Within) (inside : id ∈ h.snd.outbound.keys)
    (active : (h.snd.msg id).active = true) (unsent : 0 < (h.snd.msg id).unsentBytes) : (h.spend id).snd.Within := by
  intro addr known
  have known : addr ∈ h.snd.remotes.keys := known
  have msg : ∀ other, (h.spend id).snd.msg other =
      if other = id then (h.snd.msg id).afterPacket else h.snd.msg other := fun other => Store.get_modify ..
  have queue : ((h.spend id).snd.rcvr addr).outMsgs = (h.snd.rcvr addr).outMsgs := outMsgs_spend h id addr
  have before := ok.queues.unsentBytes_eq known
  have after : (h.spend id).snd.unsentBytes addr = (h.spend id).snd.queuedTo addr := by
    apply Sender.unsentBytes_eq_total
    · rw [queue]
      exact ok.queues.queue_nodup addr known
    · intro other queued
      rw [queue] at queued
      obtain ⟨member, busy, -, towards⟩ := (ok.queues.queue addr known other).mp queued
      rw [msg]
      split
      · next same =>
        subst same
        exact ⟨member, busy, towards⟩
      · exact ⟨member, busy, towards⟩
    · intro other member busy left towards
      rw [msg] at busy left towards
      rw [queue]
      apply (ok.queues.queue addr known other).mpr
      split at busy
      · next same =>
        subst same
        rw [if_pos rfl] at towards
        exact ⟨member, active, unsent, towards⟩
      · next apart =>
        rw [if_neg apart] at left towards
        exact ⟨member, busy, left, towards⟩
  have freed : (h.snd.msg id).afterPacket.queued = (h.snd.msg id).queued - (h.snd.msg id).nextCost := by
    have wire := OutboundMsgState.wire_unsent unsent
    unfold OutboundMsgState.queued
    rw [if_pos active, if_pos (show (h.snd.msg id).afterPacket.active = true from active), wire]
    exact (add_sub_cancel_left _ _).symm
  have change : (h.spend id).snd.queuedTo addr = h.snd.queuedTo addr -
      if addr = (h.snd.msg id).remoteAddr then (h.snd.msg id).nextCost else 0 := by
    have change := Store.total_modify h.snd.outbound OutboundMsgState.afterPacket inside
      fun _ m => if m.remoteAddr = addr then m.queued else 0
    change (h.spend id).snd.queuedTo addr = h.snd.queuedTo addr -
      (if (h.snd.msg id).remoteAddr = addr then (h.snd.msg id).queued else 0) +
      (if (h.snd.msg id).remoteAddr = addr then (h.snd.msg id).afterPacket.queued else 0) at change
    rw [change, freed]
    by_cases towards : addr = (h.snd.msg id).remoteAddr
    · rw [if_pos towards.symm, if_pos towards.symm, if_pos towards]
      ring
    · rw [if_neg (Ne.symm towards), if_neg (Ne.symm towards), if_neg towards]
      ring
  -- what is queued and the pool lose the same frame
  have le := within addr known
  rw [after, change, ← before, rcvr_spend]
  split
  · exact sub_le_sub_right le _
  · rw [sub_zero]
    exact le

theorem checkTransmit_spares (ps : PolicyState) (m : OutboundMsgState) : Avoids w.Stops (h.checkTransmit env ps m) := by
  unfold checkTransmit checkTurn
  simp

theorem dropSent_spares (addr : Addr) : Avoids w.Stops (h.dropSent id addr) := by
  unfold dropSent
  split <;> simp

theorem traceData_spares : Avoids w.Stops (h.traceData env id) := by
  unfold traceData Sender.getMsgSrptOrder Sender.msgOrderSize
  simp

theorem transmit_spares (ok : SendOk env.cfg h) (within : w.Asks env → h.snd.Within)
    (inside : id ∈ h.snd.outbound.keys) (active : (h.snd.msg id).active = true)
    (unsent : 0 < (h.snd.msg id).unsentBytes) (ps : PolicyState) : Avoids w.Stops (h.transmit env ps id) := by
  unfold transmit
  apply Avoids.bind (checkTransmit_spares _ _)
  intro _ _
  apply Avoids.bind
  · apply forwardToTransport_spares
    exact fun two => spend_within ok (within two) inside active unsent
  · intro sent _
    simp [traceData_spares, dropSent_spares]

theorem sendSelected_spares (ok : SendOk env.cfg h) (within : w.Asks env → h.snd.Within) :
    Avoids w.Stops (h.sendSelected env) := by
  unfold sendSelected
  apply Avoids.bind Sender.updatePolicyState_spares
  intro s1 update
  apply Avoids.bind (Sender.selectMsgToSend_spares _)
  intro ⟨selected, s2⟩ select
  obtain ⟨chooses1, picks⟩ := Sender.updatePolicyState_ok update
  obtain ⟨chooses2, known⟩ := Sender.selectMsgToSend_ok select picks
  have chooses := chooses1.trans chooses2
  have chosen := (chooses_ok ok chooses).ok
  cases selected with
  | none => exact .pure _
  | some addr =>
    obtain ⟨here, can, pick⟩ := known addr rfl
    dsimp only
    split
    · simp
    · next id state =>
      rcases pick with ⟨cannot, -⟩ | ⟨-, best, queued, same, -⟩
      · rw [can] at cannot
        cases cannot
      · have queued : id ∈ (s2.rcvr addr).outMsgs.msgs := by
          rw [state, Option.some.injEq] at same
          rw [same]
          exact queued
        obtain ⟨inside, active, unsent, -⟩ := (chosen.queues.queue addr here id).mp queued
        apply transmit_spares chosen _ inside active unsent
        exact fun two => (within two).chooses chooses

theorem sendGrantReq_spares (within : w.Asks env → h.snd.Within) :
    Avoids w.Stops (h.sendGrantReq env id) := by
  unfold sendGrantReq
  simp [forwardToTransport_spares within]

theorem activate_spares (within : w.Asks env → (h.snd.msg id).isScheduled = true → h.snd.Within) :
    Avoids w.Stops (h.activate env id) := by
  unfold activate
  dsimp only
  split
  · exact .pure _
  · apply Avoids.bind (by simp)
    intro _ _
    split
    · next scheduled =>
      apply Avoids.bind (sendGrantReq_spares fun two => within two scheduled)
      intro h1 _
      simp [Sender.moveToReceiver_spares]
    · simp [Sender.moveToReceiver_spares]

end Host

/-- No completely scheduled message waits in front of one with an unsolicited part. -/
def Sender.InOrder (cfg : Config) (s : Sender) : Prop :=
  s.outboundInactive.upcoming.Pairwise fun id later =>
    Sender.unsolicited cfg (s.msg later).totalBytes → Sender.unsolicited cfg (s.msg id).totalBytes

namespace Host

variable {env : Env} {h h' : Host} {id : UniqReqId}

theorem inOrder_of_steps {cfg : Config} (order : h.snd.InOrder cfg) (queues : h.snd.Queues)
    (steps : SendSide.Steps cfg h.sendSide h'.sendSide)
    (sub : h'.snd.outboundInactive.upcoming.Sublist h.snd.outboundInactive.upcoming) : h'.snd.InOrder cfg := by
  have total : ∀ id ∈ h'.snd.outboundInactive.upcoming, (h'.snd.msg id).totalBytes = (h.snd.msg id).totalBytes := by
    intro id member
    have known := ((queues.inactive id).mp ((RoundRobin.mem_upcoming ..).mp (sub.subset member))).1
    have fixed := (steps.fixed known).2
    unfold OutboundMsgState.fixed at fixed
    simp only [Prod.mk.injEq] at fixed
    exact fixed.2.2.2.1
  unfold Sender.InOrder at order ⊢
  apply (order.sublist sub).imp_of_mem
  intro a b insideA insideB earlier
  rw [total a insideA, total b insideB]
  exact earlier

theorem activateLoop_spares {turns : ℕ} (ok : SendOk env.cfg h) (ready : h.Ready env.cfg)
    (covers : ∀ h', Sends env.cfg h h' → h'.Covers) (order : w.Asks env → h.snd.InOrder env.cfg) :
    Avoids w.Stops (h.activateLoop env turns) := by
  -- a check that one turn spares is spared in all of them
  induction turns generalizing h with
  | zero => exact .pure _
  | succ turns ih =>
    unfold activateLoop
    split
    · simp
    · next id inactive step =>
      obtain ⟨msgs, behind, now, later⟩ := RoundRobin.next_spec step
      have inside : id ∈ inactive.msgs := by
        rw [msgs, ← RoundRobin.mem_upcoming, now]
        exact List.mem_cons_self
      have moved : SendOk env.cfg { h with snd := { h.snd with outboundInactive := inactive } } :=
        ok.quiet (ok.queues.advance msgs) .refl rfl rfl rfl
      have start : Sends env.cfg h { h with snd := { h.snd with outboundInactive := inactive } } :=
        { Sends.refl ok with ok := moved }
      apply Avoids.bind
      · apply activate_spares
        intro two scheduled
        apply (covers _ start).within moved
        intro other waiting
        -- no message behind this one has an unsolicited part
        have large : ¬ Sender.unsolicited env.cfg (h.snd.msg id).totalBytes := fun small =>
          Bool.false_ne_true ((ready id (msgs ▸ inside) small).symm.trans scheduled)
        have others : ¬ Sender.unsolicited env.cfg (h.snd.msg other).totalBytes := by
          have waiting : other ∈ id :: behind := by
            rw [← now, RoundRobin.mem_upcoming, ← msgs]
            exact waiting
          rcases List.mem_cons.mp waiting with rfl | behind
          · exact large
          · have order := order two
            unfold Sender.InOrder at order
            rw [now] at order
            exact fun small => large (List.rel_of_pairwise_cons order behind small)
        have msgOk := moved.inv.msg other ((moved.queues.inactive other).mp waiting).1
        by_contra credited
        exact others (msgOk.unsolicited (Bool.not_eq_true _ ▸ credited))
      · intro h1 one
        obtain ⟨first, ready1, upcoming⟩ := activate_turn ok ready step one
        apply ih first.ok ready1
        · exact fun h2 sends => covers h2 (first.trans sends)
        · intro two
          apply inOrder_of_steps (order two) ok.queues first.steps
          rw [upcoming]
          exact List.sublist_cons_self ..

theorem selfCreditLoop_upcoming {cfg : Config} {turns : ℕ} {s s' : Sender}
    (run : Sender.selfCreditLoop cfg turns s = .ok s') :
    s'.outboundInactive.upcoming = s.outboundInactive.upcoming.rotate turns := by
  induction turns generalizing s with
  | zero =>
    simp only [Sender.selfCreditLoop, Lib.pure_eq_ok] at run
    rw [← run, List.rotate_zero]
  | succ turns ih =>
    unfold Sender.selfCreditLoop at run
    split at run
    · cases run
    · next id inactive step =>
      simp only [Lib.bind_eq_ok] at run
      obtain ⟨s1, one, rest⟩ := run
      obtain ⟨-, behind, now, later⟩ := RoundRobin.next_spec step
      have cursor : s1.outboundInactive = inactive := by
        unfold Sender.selfCredit at one
        dsimp only at one
        split at one
        · simp only [Lib.bind_eq_ok, Lib.pure_eq_ok] at one
          obtain ⟨-, -, -, -, rfl⟩ := one
          rfl
        · rw [Lib.pure_eq_ok] at one
          rw [← one]
      rw [ih rest, cursor, later, now, List.rotate_cons_succ]

theorem announce_spares (ok : SendOk env.cfg h) (covers : ∀ h', Sends env.cfg h h' → h'.Covers)
    (order : w.Asks env → h.snd.InOrder env.cfg) : Avoids w.Stops (h.announce env) := by
  unfold announce
  apply Avoids.bind Sender.selfCreditLoop_spares
  intro snd credits
  obtain ⟨first, settled⟩ := Sender.selfCreditLoop_ok ok.queues ok.inv credits
  have ok1 : SendOk env.cfg { h with snd } := ok.quiet first.queues first.steps rfl rfl rfl
  have ready : ({ h with snd } : Host).Ready env.cfg := by
    intro id inside
    refine settled id ?_
    change id ∈ snd.outboundInactive.msgs at inside
    rw [first.inactive, ← RoundRobin.mem_upcoming] at inside
    rwa [RoundRobin.take_upcoming]
  have start : Sends env.cfg h { h with snd } :=
    ⟨rfl, rfl, rfl, rfl, ⟨[], by simp⟩, first.remotes, first.keys, ok1, first.steps⟩
  apply activateLoop_spares ok1 ready
  · exact fun h2 sends => covers h2 (start.trans sends)
  · intro two
    have same := selfCreditLoop_upcoming credits
    rw [← RoundRobin.length_upcoming, List.rotate_length] at same
    have sub : ({ h with snd } : Host).snd.outboundInactive.upcoming.Sublist h.snd.outboundInactive.upcoming := by
      dsimp only
      rw [same]
    exact inOrder_of_steps (order two) ok.queues first.steps sub

theorem sendData_spares {now : Time} (ok : SendOk env.cfg h) (covers : ∀ h', Sends env.cfg h h' → h'.Covers)
    (order : w.Asks env → h.snd.InOrder env.cfg) : Avoids w.Stops (h.sendData env now) := by
  have updated : Sends env.cfg h (h.updateDataBacklog env now) :=
    ⟨rfl, rfl, rfl, rfl, ⟨[], by simp [updateDataBacklog]⟩, rfl, rfl,
      ⟨ok.queues, ok.inv, ok.covered, ok.numbered.src, ok.numbered.seqno⟩, .refl⟩
  unfold sendData
  dsimp only
  split
  · exact .pure _
  · apply Avoids.bind
    · exact announce_spares updated.ok (fun h2 sends => covers h2 (updated.trans sends)) order
    · intro h1 announce
      obtain ⟨announced, considered⟩ := announce_ok updated.ok announce
      split
      · exact .pure _
      · apply sendSelected_spares announced.ok
        intro _
        apply (covers h1 (updated.trans announced)).within announced.ok
        intro id inside
        rw [considered] at inside
        cases inside

theorem walkInbound_spares {turns : ℕ} {inbound : RoundRobin UniqReqId} : Avoids w.Stops
    (walkInbound turns inbound) := by
  induction turns generalizing inbound with
  | zero => exact .pure _
  | succ turns ih =>
    unfold walkInbound
    split <;> simp [ih]

/-- Where algorithm 2 asks nothing is inbound, and the inactive messages are in order. -/
structure Asks (w : Watched) (env : Env) (h : Host) : Prop where
  idle : w.Asks env → h.rcv.inbound.msgs = []
  order : w.Asks env → h.snd.InOrder env.cfg

theorem poll_spares {now : Time} (ok : HalvesOk env.cfg h) (covers : ∀ h', Polls env.cfg h h' → h'.Covers)
    (asks : h.Asks w env) (granting : w = .sendCreditPolicyCommon → Avoids w.Stops (h.sendGrants env now)) :
    Avoids w.Stops (h.poll env now) := by
  unfold poll
  apply Avoids.bind
  · by_cases quiet : w.Asks env
    · exact sendGrants_idle (asks.idle quiet)
    · by_cases other : w = .sendCreditPolicyCommon
      · exact granting other
      · exact sendGrants_spares (P := fun _ => True)
          ⟨fun _ _ _ _ _ => grantInformed_spares quiet other, fun _ _ _ _ _ _ _ _ => trivial, fun _ _ _ _ =>
            trivial⟩ trivial
  · intro h1 granted
    have grants := sendGrants_ok ok granted
    have first := grants.polls
    apply Avoids.bind
    · apply sendData_spares first.ok.send
      · exact fun h2 sends => covers h2 (first.trans (sends.polls first.ok))
      · rw [grants.snd]
        exact asks.order
    · intro h2 _
      unfold pollTrace
      simp [walkInbound_spares]

end Host

namespace Rpc

variable {cfg : Config} {addr : Addr} {hdr : Hdr} {payload : ℕ} {rpc : Rpc}

theorem sendToApplication_spares : Avoids w.Stops (rpc.sendToApplication cfg addr hdr payload) := by
  unfold sendToApplication reqRecv
  split <;> simp

theorem handleRequestPkt_spares : Avoids w.Stops (rpc.handleRequestPkt cfg addr hdr payload) := by
  unfold handleRequestPkt
  dsimp only
  split <;> split <;> simp [sendToApplication_spares]

theorem handleReplyPkt_spares : Avoids w.Stops (rpc.handleReplyPkt cfg addr hdr payload) := by
  unfold handleReplyPkt
  dsimp only
  split <;> simp [sendToApplication_spares]

end Rpc

theorem SenderState.update_spares (cfg : Config) (p : Packet) (stamp : Stamp) (st : SenderState) :
    Avoids w.Stops (st.update cfg p stamp) := by
  have window : ∀ {site : Site} {minSrpb maxSrpbBytes : ℤ} {marked updateRatios : Bool} {pktsSince : ℕ} {nw : Window},
      ¬ site = w.site → Avoids w.Stops (nw.update site cfg minSrpb maxSrpbBytes marked updateRatios pktsSince) := by
    intro site minSrpb maxSrpbBytes marked updateRatios pktsSince nw other
    unfold Window.update
    simp [other]
  unfold update updateNwState updateSnState updateMultiBit
  simp [window]

namespace Sender

variable {s : Sender} {p : Packet} {hdr : Hdr} {payload : ℕ} {daddr : Addr}

theorem receivedCredit_spares : Avoids w.Stops (s.receivedCredit p) := by
  have activated : Avoids w.Stops (s.activateCredited p.src p.uniqReqId) := by
    rw [activateCredited_eq]
    split <;> simp [moveToReceiver_spares]
  unfold receivedCredit
  simp [activated]

theorem sendingRequest_spares : Avoids w.Stops (s.sendingRequest hdr payload) := by
  unfold sendingRequest
  dsimp only
  split <;> simp

theorem sendingReply_spares : Avoids w.Stops (s.sendingReply hdr payload daddr) := by
  unfold sendingReply
  simp

end Sender

namespace Host

variable {env : Env} {h h' : Host} {p : Packet} {id : UniqReqId} {now : Time} {stamp : Stamp}

theorem r2p2Recv_spares : Avoids w.Stops (h.r2p2Recv env p) := by
  unfold r2p2Recv
  dsimp only
  split <;> simp [Rpc.handleRequestPkt_spares, Rpc.handleReplyPkt_spares]

theorem receivedData_spares (other : w ≠ .receivedData) : Avoids w.Stops (h.receivedData env p id) := by
  have removed : ∀ rcv : Receiver, Avoids w.Stops (rcv.removeInbound id) := by
    intro rcv
    unfold Receiver.removeInbound
    split <;> simp
  unfold receivedData
  simp [removed, other]

theorem noteMsgInfo_spares : Avoids w.Stops (h.noteMsgInfo env p id) := by
  unfold noteMsgInfo
  simp

theorem findOrAddInbound_spares : Avoids w.Stops (h.findOrAddInbound env p) := by
  unfold findOrAddInbound
  dsimp only
  split <;> simp

theorem dispatch_spares (taken : p.isSingleReply = false → p.isData = true →
      Avoids w.Stops (({ h with rcv := (h.rcv.findOrAdd p).noteFirst p } : Host).receivedData env p p.uniqReqId)) :
    Avoids w.Stops (h.dispatch env p) := by
  rw [dispatch_eq]
  split
  · simp [r2p2Recv_spares]
  · next single =>
    have single : p.isSingleReply = false := by simpa using single
    split
    · simp [Sender.receivedCredit_spares]
    · apply Avoids.bind findOrAddInbound_spares
      intro h1 found
      rw [findOrAddInbound_eq found]
      split
      · next learns =>
        have first : (h.rcv.findOrAdd p).noteFirst p = (h.rcv.findOrAdd p).note p :=
          if_pos ((InboundMsgState.learns_iff ..).mpr learns)
        apply Avoids.bind noteMsgInfo_spares
        intro h2 informed
        obtain ⟨rfl, type⟩ := noteMsgInfo_eq informed
        split
        · simp
        · next req =>
          rw [first] at taken
          simp [taken single (Packet.isData_of (Or.inl (type.resolve_left req))), r2p2Recv_spares]
      · next known =>
        have first : (h.rcv.findOrAdd p).noteFirst p = h.rcv.findOrAdd p :=
          if_neg fun learns => known ((InboundMsgState.learns_iff ..).mp learns)
        rw [first] at taken
        apply Avoids.bind (by simp)
        intro _ type
        unfold assert at type
        rw [Lib.require_eq_ok] at type
        simp [taken single (Packet.isData_of type), r2p2Recv_spares]

section Events

/-- Whatever the RPC layer, the next poll does not fail the check. -/
def PollsSpare (w : Watched) (env : Env) (h : Host) : Prop := ∀ rpc now, Avoids w.Stops ({ h with rpc }.poll env now)

variable (polls : h.PollsSpare w env)

include polls

theorem startPolling_spares (rpc : Rpc) : Avoids w.Stops ({ h with rpc }.startPolling env now) := by
  unfold startPolling
  simp [polls rpc now]

theorem recv_spares (taken : ∀ h1 st, h.startPolling env now = .ok h1 →
      (h1.senderOf env p.src).update env.cfg p stamp = .ok st → p.isSingleReply = false → p.isData = true →
      Avoids w.Stops (({ h1.meets p st with rcv := ((h1.meets p st).rcv.findOrAdd p).noteFirst p } :
      Host).receivedData env p
        p.uniqReqId)) :
    Avoids w.Stops (h.recv env now p stamp) := by
  have started : Avoids w.Stops (h.startPolling env now) := startPolling_spares polls h.rpc
  unfold recv
  apply Avoids.bind (by simp [checkSize])
  intro _ _
  apply Avoids.bind started
  intro h1 start
  apply Avoids.bind (by simp)
  intro _ _
  apply Avoids.bind (by simp)
  intro _ _
  unfold updateSenderState
  apply Avoids.bind (by simp [SenderState.update_spares])
  intro h2 updated
  simp only [Lib.bind_eq_ok, Lib.pure_eq_ok] at updated
  obtain ⟨st, update, rfl⟩ := updated
  apply dispatch_spares
  exact taken h1 st start update

theorem sendToTransportDown_spares {hdr : Hdr} {payload : ℕ} {daddr : Addr} (rpc : Rpc) :
    Avoids w.Stops ({ h with rpc }.sendToTransportDown env now hdr payload daddr) := by
  unfold sendToTransportDown
  apply Avoids.bind (startPolling_spares polls rpc)
  intro h1 _
  split <;> simp [Sender.sendingRequest_spares, Sender.sendingReply_spares]

omit polls in
theorem handleReqRdy_spares (started : h.pollStarted = true) {hdr : Hdr} :
    Avoids w.Stops (h.handleReqRdy env now hdr) := by
  unfold handleReqRdy sendToTransportDown
  rw [startPolling_of_started started]
  dsimp only
  split
  · simp
  · rw [Lib.ok_bind]
    split <;> simp [Sender.sendingRequest_spares, Sender.sendingReply_spares]

theorem sendToTransport_spares {hdr : Hdr} {payload : ℕ} {daddr : Addr} (rpc : Rpc) :
    Avoids w.Stops ({ h with rpc }.sendToTransport env now hdr payload daddr) := by
  unfold sendToTransport
  split
  · apply Avoids.bind (startPolling_spares polls rpc)
    intro h1 run
    have started : h1.pollStarted = true := startPolling_started run
    unfold shortingReq0
    simp [handleReqRdy_spares, started]
  · exact sendToTransportDown_spares polls rpc

theorem sendReq_spares {payload : ℕ} {tuple : RequestIdTuple} : Avoids w.Stops (h.sendReq env now payload tuple) := by
  unfold sendReq
  simp [sendToTransport_spares polls]

theorem appSendResponse_spares {thread : ℤ} {payload : ℕ} :
    Avoids w.Stops (h.appSendResponse env now thread payload) := by
  unfold appSendResponse sendResponse
  split
  · simp
  · dsimp only
    split <;> simp [sendToTransport_spares polls]

end Events

end Host

end PhantomPass
