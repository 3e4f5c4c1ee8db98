import PhantomPass.Delivery.Departure
import PhantomPass.Granting.Offering
import PhantomPass.Network.Incast
import PhantomPass.Network.Rest

/-! Polls that send nothing. What can be sent or granted remains so, and when both
pacers have drained such a poll finds nothing to send and removes a complete
message, if it could have granted credit. -/

set_option autoImplicit false

namespace PhantomPass

/-- The algorithms and policies that the source implements, with parameters that they take. -/
structure Config.Supported (cfg : Config) : Prop where
  marks : cfg.Marks
  policy : Sender.PolicyKnown cfg
  ratio : 0 ≤ cfg.senderPolicyRatio ∧ cfg.senderPolicyRatio ≤ 1
  weight : 0 ≤ cfg.ceNewWeight ∧ cfg.ceNewWeight ≤ 1

theorem Sender.Idle.not_able {s : Sender} (idle : s.Idle) : ¬ s.Able := by
  rintro (waiting | ⟨addr, ready⟩)
  · exact waiting idle.inactive
  · obtain ⟨known, id, queued, -⟩ := Sender.mem_ready.mp ready
    rw [idle.queues addr known] at queued
    cases queued

namespace Host

variable {env : Env} {h h' : Host} {now : Time}

def PacersDrained (env : Env) (now : Time) (h : Host) : Prop := h.GrantsDue env now ∧ h.DataDue env now

instance (env : Env) (now : Time) (h : Host) : Decidable (h.PacersDrained env now) :=
    inferInstanceAs (Decidable (_ ∧ _))

/-- No pass of a time-sharing receiver finds a single message that is complete. -/
def Passes (cfg : Config) (h : Host) : Prop :=
  cfg.receiverPolicy = 0 → ∀ id, h.rcv.inbound.msgs = [id] → ¬ (h.rcv.msg id).Complete

def Pending (cfg : Config) (h : Host) : Prop :=
  h.snd.Able ∨ (maxEthernetFrameOnWire : ℤ) ≤ h.rcv.budgetBytes ∧ ∃ id ∈ h.rcv.inbound.msgs, Offerable cfg id h

/-- A host with no messages to send, or with one receiver that the policy serves. -/
def Served (env : Env) (h : Host) : Prop := h.snd.Idle ∨ Attends env h.snd ∧ h.snd.Preferable env

theorem sendData_served (now : Time) (marks : env.cfg.Marks) (pace : env.cfg.paceGrants = true)
    (frame : 1538 ≤ env.cfg.maxSrpb) (sendable : Sendable env.cfg h) (served : h.Served env) :
    ∃ h', h.sendData env now = .ok h' ∧ (h'.sent = h.sent → Withholds env now h h') := by
  rcases served with idle | ⟨attends, preferable⟩
  · obtain ⟨states, run⟩ := sendData_idle env now idle
    have still : ¬ ({ h.snd with rcverPolicyStates := states } : Sender).Able :=
      Sender.Idle.not_able ⟨idle.inactive, idle.queues⟩
    have unable : ¬ h.snd.Able := idle.not_able
    refine ⟨_, run, fun _ => ⟨rfl, iff_of_false still unable, ?_, fun able => absurd able unable⟩⟩
    exact preferable_of_not_able (h := { h with snd := { h.snd with rcverPolicyStates := states } }) still
  · exact sendData_sends now marks pace frame sendable attends preferable

/-- Beside the list of messages a call of send_grants without a GRANT changes the state of its pacer. -/
theorem Declines.same (declines : Declines env now h h') : ∃ backlog update last,
    h' = { h with
      rcv := { h.rcv with inbound := h'.rcv.inbound }
      grantPacerBacklog := backlog
      lastGrantPacerUpdate := update
      lastGrantTime := last } := by
  by_cases early : now - h.lastGrantTime < 48 / 100000000
  · refine ⟨h.grantPacerBacklog, h.lastGrantPacerUpdate, h.lastGrantTime, ?_⟩
    rw [declines.early early]
  · exact ⟨_, _, _, (declines.late early).trims.same⟩

structure Pauses (env : Env) (now : Time) (h h' : Host) : Prop where
  able : h'.snd.Able ↔ h.snd.Able
  preferable : h'.snd.Preferable env
  busy : h.snd.Able → ¬ h.DataDue env now
  rcv : h'.rcv = { h.rcv with inbound := h'.rcv.inbound }
  rest : ∀ id ∈ h.rcv.inbound.msgs, ¬ (h.rcv.msg id).Complete → id ∈ h'.rcv.inbound.msgs
  size_le : h'.rcv.inbound.size ≤ h.rcv.inbound.size
  fewer : h.GrantsDue env now → (maxEthernetFrameOnWire : ℤ) ≤ h.rcv.budgetBytes →
    (∃ id ∈ h.rcv.inbound.msgs, Offerable env.cfg id h) → h'.rcv.inbound.size < h.rcv.inbound.size
  grantBacklog : ¬ now - h.lastGrantTime < 48 / 100000000 →
    h'.grantPacerBacklog = (h.grantsBegin env now).grantPacerBacklog
  dataBacklog : h'.dataPacerBacklog = (h.updateDataBacklog env now).dataPacerBacklog

theorem Declines.pauses {h1 h2 : Host} (declines : Declines env now h h1) (snd : h1.snd = h.snd)
    (withholds : Withholds env now h1 h2) {inbound : Lib.RoundRobin UniqReqId} {last : Time}
    (msgs : inbound.msgs = h2.rcv.inbound.msgs) :
    Pauses env now h { h2 with rcv := { h2.rcv with inbound }, lastPollTrace := last } := by
  obtain ⟨backlog, update, granted, same⟩ := declines.same
  have rcv : h2.rcv = h1.rcv := by
    rw [withholds.same]
    rfl
  have data : h1.dataPacerBacklog = h.dataPacerBacklog ∧ h1.lastDataPacerUpdate = h.lastDataPacerUpdate := by
    rw [same]
    exact ⟨rfl, rfl⟩
  have drained : (h1.updateDataBacklog env now).dataPacerBacklog = (h.updateDataBacklog env now).dataPacerBacklog := by
    unfold updateDataBacklog
    rw [data.1, data.2]
  rw [rcv] at msgs ⊢
  have size : inbound.size = h1.rcv.inbound.size := congrArg List.length msgs
  constructor
  case able =>
    rw [← snd]
    exact withholds.able
  case preferable => exact withholds.preferable
  case busy =>
    intro able due
    rw [← snd] at able
    apply withholds.busy able
    unfold DataDue at due ⊢
    rwa [drained]
  case rcv =>
    dsimp only
    rw [same]
  case rest =>
    intro id inside incomplete
    dsimp only
    rw [msgs]
    by_cases early : now - h.lastGrantTime < 48 / 100000000
    · rwa [declines.early early]
    · exact (declines.late early).rest id inside incomplete
  case size_le =>
    dsimp only
    rw [size]
    by_cases early : now - h.lastGrantTime < 48 / 100000000
    · rw [declines.early early]
    · exact (declines.late early).trims.size_le
  case fewer =>
    intro due budget offerable
    dsimp only
    rw [size]
    exact declines.fewer due budget offerable
  case grantBacklog =>
    intro late
    have kept : h1.grantPacerBacklog = (h.grantsBegin env now).grantPacerBacklog := by
      rw [(declines.late late).trims.same]
    rw [← kept, withholds.same]
    rfl
  case dataBacklog =>
    dsimp only
    rw [withholds.same]
    exact drained

section Poll

variable (supported : env.cfg.Supported) (frame : 1538 ≤ env.cfg.maxSrpb) (grants : env.cfg.Grants) (time : 0 < now)
  (grantable : Grantable env.cfg h) (requested : h.snd.Requested) (served : h.Served env) (passes : h.Passes env.cfg)

include supported frame grants time grantable requested served passes

theorem poll_pauses : ∃ h', h.poll env now = .ok h' ∧ (h'.sent = h.sent → Pauses env now h h') := by
  obtain ⟨h1, granted, first, declines⟩ := sendGrants_offers supported.marks.implemented time grantable grants passes
  have snd : h1.snd = h.snd := first.snd
  have served1 : h1.Served env := by
    unfold Served
    rw [snd]
    exact served
  have sendable : Sendable env.cfg h1 := ⟨first.ok.send, by rw [snd]; exact requested⟩
  obtain ⟨h2, sent, withholds⟩ := sendData_served now supported.marks grants.1 frame sendable served1
  obtain ⟨inbound, last, traced, msgs⟩ := pollTrace_kept env now h2
  refine ⟨_, poll_eq granted sent traced, fun silent => ?_⟩
  obtain ⟨more, sent1, -⟩ := first.sent
  obtain ⟨more', sent2, -⟩ := (sendData_ok first.ok.send sent).1.sent
  have none : more ++ more' = [] := by
    change h2.sent = h.sent at silent
    rw [sent2, sent1, List.append_assoc, List.append_right_eq_self] at silent
    exact silent
  obtain ⟨none1, none2⟩ := List.append_eq_nil_iff.mp none
  rw [none1, List.append_nil] at sent1
  rw [none2, List.append_nil] at sent2
  exact (declines sent1).pauses snd (withholds sent2) msgs

end Poll

theorem Offerable.incomplete {cfg : Config} {id : UniqReqId} (offerable : Offerable cfg id h) :
    ¬ (h.rcv.msg id).Complete :=
  fun complete => absurd complete.2.2 (Nat.ne_of_lt offerable.needs)

/-- What is pending remains so, and with drained pacers the list gets shorter: what can be sent is sent. -/
theorem Pauses.pending (pauses : Pauses env now h h') (pending : h.Pending env.cfg) :
    h'.Pending env.cfg ∧ (h.PacersDrained env now → h'.rcv.inbound.size < h.rcv.inbound.size) := by
  rcases pending with able | ⟨budget, id, inside, offerable⟩
  · exact ⟨Or.inl (pauses.able.mpr able), fun drained => absurd drained.2 (pauses.busy able)⟩
  · refine ⟨Or.inr ⟨?_, id, pauses.rest id inside offerable.incomplete, ?_⟩, fun drained => ?_⟩
    · rw [pauses.rcv]
      exact budget
    · obtain ⟨info, needs, room⟩ := offerable
      have msg : h'.rcv.msg id = h.rcv.msg id := by
        rw [pauses.rcv]
        rfl
      refine ⟨by rw [msg]; exact info, by rw [msg]; exact needs, ?_⟩
      unfold Room
      rw [msg, pauses.rcv]
      exact room
    · exact pauses.fewer drained.1 budget ⟨id, inside, offerable⟩

end Host

end PhantomPass
