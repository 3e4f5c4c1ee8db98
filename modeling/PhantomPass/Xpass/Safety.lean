import PhantomPass.Xpass.Halves

/-! What holds of a connection in every run, whatever credits are lost and whenever
timers expire. -/

set_option autoImplicit false

namespace PhantomPass.Xpass

open Lib (Ensures)
open XPassAgent (Gives Takes appBytes blank)

theorem Flow.Ok.moves {x : Params} {sane : x.Sane} {f g : Flow} (ok : Flow.Ok sane f) (moves : Flow.Moves x f g) :
    Flow.Ok sane g := by
  -- a step of an agent is some moves of the flows it belongs to
  induction moves with
  | refl => exact ok
  | tail _ move ih => exact ih.move move

/-! ### Behind a padded packet -/

namespace Params

variable {x : Params} (sane : x.Sane)

theorem cut_append (x : Params) (reqId : Option RequestIdTuple) (start : ℤ) (lens more : List ℕ) :
    x.cut reqId start (lens ++ more) = x.cut reqId start lens ++ x.cut reqId (start + (lens.sum : ℕ)) more := by
  induction lens generalizing start with
  | nil => simp [cut]
  | cons len lens ih =>
    rw [List.cons_append, cut, ih, cut, List.cons_append, List.sum_cons]
    push_cast
    rw [add_assoc]

theorem Sane.acks_padded {nb : ℤ} (pos : 0 < nb) (padded : ¬ x.Long nb) (reqId : Option RequestIdTuple) (start : ℤ) :
    start + nb < (x.cut reqId start (sane.lens nb)).foldl acks start ∧
      (x.cut reqId start (sane.lens nb)).foldl acks start < start + nb + x.maxSegment := by
  have mss := sane.mss_eq
  have fits := sane.ethernet
  have segment := sane.segment
  have full : sane.framing.mss = x.maxEthernetSize - x.xpassHdrSize := rfl
  have rem : ((nb.toNat % sane.framing.mss : ℕ) : ℤ) = nb % x.maxSegment := by
    rw [← mss, Int.natCast_mod, Int.toNat_of_nonneg pos.le]
  unfold Long at padded
  rw [← rem] at padded
  have some_ : nb.toNat % sane.framing.mss ≠ 0 := by omega
  have lens : sane.lens nb = List.replicate (nb.toNat / sane.framing.mss) sane.framing.mss ++
    [nb.toNat % sane.framing.mss] := by
    show List.replicate _ _ ++ _ = _
    rw [if_neg some_]
  have whole := Nat.div_add_mod nb.toNat sane.framing.mss
  have sum : (List.replicate (nb.toNat / sane.framing.mss) sane.framing.mss).sum =
    nb.toNat - nb.toNat % sane.framing.mss := by
    rw [List.sum_replicate_nat, mul_comm]
    omega
  obtain ⟨first, payload⟩ :=
    cut_consecutive (x := x) reqId start (List.replicate (nb.toNat / sane.framing.mss) sane.framing.mss)
    fun len inside => by
      have same := List.eq_of_mem_replicate inside
      omega
  have size : (XPassAgent.dataSize x (nb.toNat % sane.framing.mss : ℕ) : ℤ) = x.minEthernetSize := by
    unfold XPassAgent.dataSize
    omega
  rw [lens, cut_append, List.foldl_append, first.acks.1, payload, sum]
  have last : ∀ from_ : ℤ, (x.cut reqId from_ [nb.toNat % sane.framing.mss]).foldl acks from_ =
      from_ + (x.minEthernetSize - x.xpassHdrSize) := by
    intro from_
    show acks from_ ⟨from_, _, _, reqId⟩ = _
    unfold acks Piece.payload
    rw [if_pos rfl, size]
  rw [last]
  have less : nb.toNat % sane.framing.mss ≤ nb.toNat := Nat.mod_le _ _
  omega

theorem Sane.refuses {n m : Message} {before after_ : List Message} (posBefore : ∀ k ∈ before, 0 < k.nb)
    (pos : 0 < n.nb) (long : ∀ k ∈ before, x.Long k.nb) (padded : ¬ x.Long n.nb) (more : x.maxSegment < m.nb)
    {accepted rest : List Piece}
    (accepts : Accepts 1 accepted) (stream : accepted ++ rest = sane.stream 1 (before ++ n :: m :: after_)) :
    accepted.length ≤ (sane.stream 1 (before ++ [n])).length + 1 := by
  by_contra beyond
  have mss := sane.mss_eq
  have positive := sane.framing.mss_pos
  obtain ⟨consecutive, sum⟩ := sane.stream_consecutive 1 before posBefore long
  obtain ⟨ahead, below⟩ := sane.acks_padded pos padded n.reqId (1 + (before.map Message.nb).sum)
  have first : min x.maxSegment m.nb = x.maxSegment := min_eq_left more.le
  have segment : (x.maxSegment.toNat : ℤ) = x.maxSegment := by omega
  obtain ⟨c, tail, two⟩ : ∃ (c : ℕ) (tail : List ℕ), sane.lens m.nb = x.maxSegment.toNat :: c :: tail := by
    refine ⟨(min x.maxSegment (m.nb - x.maxSegment)).toNat,
      sane.lens (m.nb - x.maxSegment - min x.maxSegment (m.nb - x.maxSegment)), ?_⟩
    rw [sane.lens_of_pos (by omega), first, sane.lens_of_pos (Int.sub_pos.mpr more)]
  have parts : sane.stream 1 (before ++ [n]) = sane.stream 1 before ++
      x.cut n.reqId (1 + (before.map Message.nb).sum) (sane.lens n.nb) := by
    rw [sane.stream_append, sane.stream_singleton]
  -- the first two packets of the second message
  obtain ⟨p, q, later, all, start, next⟩ : ∃ (p q : Piece) (later : List Piece),
      sane.stream 1 (before ++ n :: m :: after_) = (sane.stream 1 (before ++ [n]) ++ [p, q]) ++ later ∧
        p.seqno = 1 + (before.map Message.nb).sum + n.nb ∧
          q.seqno = 1 + (before.map Message.nb).sum + n.nb + x.maxSegment := by
    refine ⟨⟨1 + (before.map Message.nb).sum + n.nb, XPassAgent.dataSize x (x.maxSegment.toNat : ℕ),
      x.xpassHdrSize, m.reqId⟩,
      ⟨1 + (before.map Message.nb).sum + n.nb + x.maxSegment.toNat, XPassAgent.dataSize x c, x.xpassHdrSize, m.reqId⟩,
      x.cut m.reqId (1 + (before.map Message.nb).sum + n.nb + x.maxSegment.toNat + c) tail ++
        sane.stream (1 + (before.map Message.nb).sum + n.nb + m.nb) after_, ?_, rfl, by rw [segment]⟩
    rw [parts, sane.stream_append, Params.Sane.stream, Params.Sane.stream, two, cut, cut]
    simp only [List.append_assoc, List.cons_append, List.nil_append]
  have short : (sane.stream 1 (before ++ [n]) ++ [p, q]).length ≤ accepted.length := by
    rw [List.length_append]
    show _ + 2 ≤ _
    omega
  have begins : accepted.take (sane.stream 1 (before ++ [n]) ++ [p, q]).length =
    sane.stream 1 (before ++ [n]) ++ [p, q] := by
    rw [← List.take_append_of_le_length short, stream, all]
    exact List.take_left
  have accepts := accepts
  rw [← List.take_append_drop (sane.stream 1 (before ++ [n]) ++ [p, q]).length accepted, begins, accepts_append,
    accepts_append, parts, List.foldl_append, consecutive.acks.1, sum] at accepts
  obtain ⟨⟨-, -, gap, -⟩, -⟩ := accepts
  have same : acks ((x.cut n.reqId (1 + (before.map Message.nb).sum) (sane.lens n.nb)).foldl acks
      (1 + (before.map Message.nb).sum)) p = _ := if_neg (by omega)
  rw [same, next] at gap
  omega

end Params

/-! ### What the application takes -/

def Piece.taken (x : Params) (piece : Piece) : ℤ × RequestIdTuple :=
  (appBytes x { ptype := .data, size := piece.size, hlen := piece.hlen, reqId := piece.reqId }, piece.reqId.getD blank)

namespace Params

variable {x : Params} (sane : x.Sane)

/-- What the application takes of all messages, packet by packet. -/
def Sane.takes (handed : List Message) : List (ℤ × RequestIdTuple) :=
  handed.flatMap fun m => (sane.lens m.nb).map fun len : ℕ => ((len : ℤ), m.reqId.getD blank)

theorem Sane.taken_piece {nb start : ℤ} {reqId : Option RequestIdTuple} (pos : 0 ≤ nb)
    (titled : (reqId.getD blank).msgBytes = nb) {len : ℕ} (inside : len ∈ sane.lens nb) :
    Piece.taken x ⟨start, XPassAgent.dataSize x len, x.xpassHdrSize, reqId⟩ = ((len : ℤ), reqId.getD blank) := by
  have mss := sane.mss_eq
  have fits := sane.ethernet
  have segment := sane.segment
  have full : sane.framing.mss = x.maxEthernetSize - x.xpassHdrSize := rfl
  have rem : ((nb.toNat % sane.framing.mss : ℕ) : ℤ) = nb.tmod x.maxSegment := by
    rw [← mss, Int.tmod_eq_emod_of_nonneg pos, Int.natCast_mod, Int.toNat_of_nonneg pos]
  have size : (XPassAgent.dataSize x len : ℤ) = max (x.minEthernetSize : ℤ) (x.xpassHdrSize + len) := by
    unfold XPassAgent.dataSize
    omega
  unfold Piece.taken appBytes
  simp only [titled, size, Prod.mk.injEq, and_true]
  rcases List.mem_append.mp (show len ∈ List.replicate _ _ ++ _ from inside) with whole | last
  · have same := List.eq_of_mem_replicate whole
    rw [if_neg (by omega)]
    omega
  · split at last
    · cases last
    · next some_ =>
      have same := List.mem_singleton.mp last
      have less : nb.toNat % sane.framing.mss < sane.framing.mss := Nat.mod_lt _ sane.framing.mss_pos
      split <;> omega

theorem Sane.taken_cut {nb : ℤ} {reqId : Option RequestIdTuple} (pos : 0 ≤ nb)
    (titled : (reqId.getD blank).msgBytes = nb)
    (start : ℤ) (lens : List ℕ) (inside : ∀ len ∈ lens, len ∈ sane.lens nb) :
    (x.cut reqId start lens).map (Piece.taken x) = lens.map fun len : ℕ => ((len : ℤ), reqId.getD blank) := by
  induction lens generalizing start with
  | nil => rfl
  | cons len lens ih =>
    rw [cut, List.map_cons, List.map_cons, sane.taken_piece pos titled (inside len List.mem_cons_self),
      ih _ fun other among => inside other (List.mem_cons_of_mem _ among)]

theorem Sane.length_stream (start : ℤ) (handed : List Message) : (sane.stream start handed).length =
    (sane.takes handed).length := by
  have cut : ∀ (reqId : Option RequestIdTuple) (lens : List ℕ) (start : ℤ), (x.cut reqId start lens).length =
    lens.length := by
    intro reqId lens
    induction lens with
    | nil => exact fun _ => rfl
    | cons len lens ih => exact fun start => congrArg (· + 1) (ih _)
  induction handed generalizing start with
  | nil => rfl
  | cons m rest ih =>
    have first : sane.takes (m :: rest) = ((sane.lens m.nb).map fun len : ℕ => ((len : ℤ), m.reqId.getD blank)) ++
      sane.takes rest := rfl
    rw [Sane.stream, List.length_append, cut, ih, first, List.length_append, List.length_map]

theorem Sane.taken_stream (start : ℤ) (handed : List Message) (pos : ∀ m ∈ handed, 0 < m.nb)
    (titled : ∀ m ∈ handed, (m.reqId.getD blank).msgBytes = m.nb) :
    (sane.stream start handed).map (Piece.taken x) = sane.takes handed := by
  induction handed generalizing start with
  | nil => rfl
  | cons m rest ih =>
    have first := sane.taken_cut (pos m List.mem_cons_self).le (titled m List.mem_cons_self) start _ fun _ inside =>
      inside
    rw [Sane.stream, List.map_append, first, ih _ (fun m inside => pos m (List.mem_cons_of_mem _ inside))
      fun m inside => titled m (List.mem_cons_of_mem _ inside)]
    rfl

end Params

namespace Net

structure Good {x : Params} (sane : x.Sane) (net : Net) : Prop where
  flows : ∀ side, (net.flow side).Ok sane
  receiving : ∀ side, (net.agent side).ReceivingOk
  sending : ∀ side, (net.agent side).SendingOk
  taken : ∀ side, net.taken side = (net.delivered side).map fun p => (appBytes x p, p.reqId.getD blank)

def Long (x : Params) (net : Net) : Prop := ∀ side, ∀ m ∈ net.handed side, x.Long m.nb

variable {x : Params} {sane : x.Sane} {net : Net} {side : Side} {out : Outcome}

theorem Good.first (sane : x.Sane) : Good sane {} := by
  refine ⟨fun side => ?_, fun side => ?_, fun side => ?_, fun _ => rfl⟩
  · refine ⟨le_rfl, fun _ => rfl, rfl, by simp [flow, Flow.between], ?_, List.Pairwise.nil,
      by simp [flow, Flow.between, Flow.creditSeqs], by simp [flow, Flow.between, Flow.creditSeqs], ⟨le_rfl, le_rfl⟩,
      by simp [flow, Flow.between], by simp [flow, Flow.between], .none false, rfl, trivial⟩
    show [] ++ x.cut none 1 (sane.lens (1 - 1)) = []
    rw [sub_self, sane.lens_zero]
    rfl
  · exact ⟨by simp, by simp, by simp, by simp⟩
  · exact ⟨by simp, by simp, rfl, rfl⟩

/-! What a call leaves, in both directions. -/

theorem flow_absorb (net : Net) (side : Side) (out : Outcome) :
    (net.absorb side out).flow side = .between out.agent (net.agent (!side))
      (net.toward (!side) ++ out.sent.toList.filter fun p => p.ptype ≠ .credit) (net.credits side) (net.handed side)
      (net.delivered (!side)) := by
  simp [absorb, flow, Function.update_of_ne]

theorem flow_absorb_not (net : Net) (side : Side) (out : Outcome) :
    (net.absorb side out).flow (!side) = .between (net.agent (!side)) out.agent (net.toward side)
      (net.credits (!side) ++ out.sent.toList.filter fun p => p.ptype = .credit) (net.handed (!side))
      (net.delivered side) := by
  simp [absorb, flow, Function.update_of_ne]

theorem side_cases (side other : Side) : other = side ∨ other = !side := by
  cases side <;> cases other <;> simp

theorem absorb_agents {P : XPassAgent → Prop} (there : P (net.agent (!side))) (here : P out.agent) :
    ∀ other, P ((net.absorb side out).agent other) := by
  intro other
  rcases side_cases side other with rfl | rfl
  · simpa [absorb] using here
  · simpa [absorb, Function.update_of_ne] using there

theorem Good.gives {credit : Option Packet} {m : Option Message} {rest : List Packet} (good : Good sane net)
    (gives : Gives x (net.agent side) credit m out) (credits : net.credits side = credit.toList ++ rest) :
    Good sane ({ net with
      credits := Function.update net.credits side rest
      handed := Function.update net.handed side (net.handed side ++ m.toList) }.absorb side out) := by
  have data : (out.sent.toList.filter fun p => p.ptype ≠ .credit) = out.sent.toList :=
    List.filter_eq_self.mpr fun q inside => by simpa using gives.data q (by simpa using inside)
  have none : (out.sent.toList.filter fun p => p.ptype = .credit) = [] :=
    List.filter_eq_nil_iff.mpr fun q inside => by simpa using gives.data q (by simpa using inside)
  refine ⟨fun other => ?_, ?_, ?_, fun other => ?_⟩
  · rcases side_cases side other with rfl | rfl
    · rw [flow_absorb, data]
      have moves := gives.moves (net.agent (!other)) (net.toward (!other)) rest (net.handed other)
        (net.delivered (!other))
      rw [← credits] at moves
      simpa using (good.flows other).moves moves
    · rw [flow_absorb_not, none]
      have same := gives.sending
      have before := good.flows (!side)
      unfold flow Flow.between at before
      unfold Flow.between
      rw [same.recvNext, same.cRecvNext, same.cSeqno, same.creditSendState]
      simpa [Function.update_of_ne] using before
  · exact absorb_agents (good.receiving (!side)) gives.ok
  · exact absorb_agents (good.sending (!side)) ((good.sending side).same gives.sending)
  · have taken := good.taken other
    rcases side_cases side other with rfl | rfl
    · simpa [absorb, gives.taken] using taken
    · simpa [absorb, Function.update_of_ne] using taken

theorem Good.takes {p : Option Packet} {rest : List Packet} (good : Good sane net)
    (takes : Takes x (net.agent side) p out) (toward : net.toward side = p.toList ++ rest) :
    Good sane ({ net with
      toward := Function.update net.toward side rest
      delivered := Function.update net.delivered side
        (net.delivered side ++ p.toList.filter Packet.isData) }.absorb side out) := by
  have none : (out.sent.toList.filter fun p => p.ptype ≠ .credit) = [] :=
    List.filter_eq_nil_iff.mpr fun q inside => by simpa using takes.credits q (by simpa using inside)
  have credits : (out.sent.toList.filter fun p => p.ptype = .credit) = out.sent.toList :=
    List.filter_eq_self.mpr fun q inside => by simpa using takes.credits q (by simpa using inside)
  refine ⟨fun other => ?_, ?_, ?_, fun other => ?_⟩
  · rcases side_cases side other with rfl | rfl
    · rw [flow_absorb, none]
      have same := takes.receiving
      have before := good.flows other
      unfold flow Flow.between at before
      unfold Flow.between
      rw [same.curseq, same.tSeqno, same.curReqIdTup, same.creditRecvState]
      simpa [Function.update_of_ne] using before
    · rw [flow_absorb_not, credits]
      have before := good.flows (!side)
      have moves := takes.moves (net.agent (!side)) rest (net.credits (!side)) (net.handed (!side)) (net.delivered side)
      rw [← toward] at moves
      unfold flow at before
      rw [Bool.not_not] at before
      simpa using before.moves moves
  · exact absorb_agents (good.receiving (!side)) ((good.receiving side).same takes.receiving)
  · exact absorb_agents (good.sending (!side)) takes.ok
  · have taken := good.taken other
    rcases side_cases side other with rfl | rfl
    · simp only [absorb, Function.update_self, List.map_append, ← taken, takes.taken]
      cases p with
      | none => simp
      | some p => cases data : p.isData <;> simp [data]
    · simpa [absorb, Function.update_of_ne] using taken

theorem Good.calls (good : Good sane net) (gives : Gives x (net.agent side) none none out) : Good sane
    (net.absorb side out) := by
  simpa using good.gives gives (List.nil_append _).symm

theorem Good.sends (good : Good sane net) (takes : Takes x (net.agent side) none out) : Good sane
    (net.absorb side out) := by
  simpa using good.takes takes (List.nil_append _).symm

theorem Good.pops {p : Packet} {rest : List Packet} (good : Good sane net) (toward : net.toward side = p :: rest)
    (takes : Takes x (net.agent side) (some p) out) : Good sane ((net.pop side p rest).absorb side out) := by
  have popped := good.takes takes toward
  unfold pop
  split
  · next data => simpa [Packet.isData, data] using popped
  · next other => simpa [Packet.isData, other] using popped

theorem Good.lose (good : Good sane net) (i : ℕ) (inside : i < (net.credits side).length) :
    Good sane (net.popCredit side ((net.credits side).eraseIdx i)) := by
  refine ⟨fun other => ?_, good.receiving, good.sending, good.taken⟩
  rcases side_cases side other with rfl | rfl
  · have split : net.credits other = (net.credits other).take i ++ (net.credits other)[i] ::
      (net.credits other).drop (i + 1) := by
      rw [List.getElem_cons_drop, List.take_append_drop]
    have move := Flow.Move.lose (x := x) (f := net.flow other) _ _ _ split
    simpa [popCredit, flow, Flow.between, List.eraseIdx_eq_take_drop_succ] using (good.flows other).move move
  · simpa [popCredit, flow, Flow.between, Function.update_of_ne] using good.flows (!side)

theorem deliver_ensures {draw : Draw} {p : Packet} {rest : List Packet} (good : Good sane net)
    (toward : net.toward side = p :: rest) :
    Ensures (Stops (net.Long x)) (Takes x (net.agent side) (some p)) ((net.agent side).recv x net.now draw p) := by
  have ok := good.flows (!side)
  have flight : (net.flow (!side)).flight = p :: rest := by
    simpa [flow, Flow.between] using toward
  have agent : ∀ {P : XPassAgent → Prop}, P (net.agent (!!side)) → P (net.agent side) := by
    intro P holds
    simpa using holds
  unfold XPassAgent.recv
  rcases ok.first flight with kind | kind | ⟨kind, sends⟩
  · rw [kind]
    exact XPassAgent.recvCreditRequest_takes sane (good.sending side) (agent (P := fun b => b.creditSendState ≠
      _) ok.sending) kind
  · rw [kind]
    have seq : p.creditSeq ∈ (net.flow (!side)).creditSeqs := by
      unfold Flow.creditSeqs
      rw [flight]
      simp [Packet.isData, kind]
    have later := agent (P := fun b => b.cRecvNext ≤ _) (ok.lower _ seq)
    have whole := ok.whole (by rw [flight]; exact List.mem_cons_self) kind
    exact XPassAgent.recvData_takes (good.sending side) kind later
      (fun long => agent (P := fun b => _ ≤ b.recvNext) (ok.awaited (long (!side)) flight kind).le) whole
  · rw [kind]
    exact XPassAgent.recvCreditStop_takes (good.sending side) (agent (P := fun b => b.creditSendState = _) sends) kind

theorem Good.fire (good : Good sane net) (e : Event) (enabled : net.Enabled e) :
    Ensures (Stops (net.Long x)) (Good sane) (net.fire x e) := by
  cases e with
  | advanceBytes side nb =>
    obtain ⟨closed, pos⟩ := enabled
    refine Ensures.bind (XPassAgent.advance_gives (good.receiving side) closed pos (good.receiving side).created)
      fun out gives => .pure ?_
    obtain ⟨tuple, gives⟩ := gives
    rw [tuple]
    simpa [handDown] using good.gives gives (List.nil_append _).symm
  | advanceMsg side nb reqId =>
    obtain ⟨closed, pos, created⟩ := enabled
    have known : ∀ t ∈ some reqId, 0 < t.ts := by simpa using created
    refine Ensures.bind (.require created (XPassAgent.advance_gives (good.receiving side) closed pos known))
      fun out gives => .pure ?_
    obtain ⟨tuple, gives⟩ := gives
    rw [tuple]
    simpa [handDown] using good.gives gives (List.nil_append _).symm
  | deliver side draw =>
    cases toward : net.toward side with
    | nil => exact absurd toward enabled
    | cons p rest =>
      simp only [Net.fire, toward]
      exact Ensures.bind (deliver_ensures good toward) fun out takes => .pure (good.pops toward takes)
  | deliverCredit side =>
    cases credits : net.credits side with
    | nil => exact absurd credits enabled.1
    | cons credit rest =>
      have kind : credit.ptype = .credit := (good.flows side).kinds credit (by
        show credit ∈ net.credits side
        rw [credits]
        exact List.mem_cons_self)
      simp only [Net.fire, credits]
      refine Ensures.bind (?_ : Ensures _ (Gives x (net.agent side) (some credit) none) _) fun out gives => .pure ?_
      · unfold XPassAgent.recv
        rw [kind]
        exact XPassAgent.recvCredit_gives sane (good.receiving side) enabled.2
      · simpa [popCredit] using good.gives gives credits
  | lose side i => exact .pure (good.lose i enabled)
  | sendCredit side draw =>
    obtain ⟨due, timer, -⟩ := enabled
    have sends := (good.sending side).sends.mp (by rw [Option.mem_def.mp timer]; rfl)
    exact Ensures.bind (XPassAgent.sendCredit_takes sane (good.sending side) sends) fun out takes =>
      .pure (good.sends takes)
  | creditStop side =>
    obtain ⟨due, timer, -⟩ := enabled
    have receiving := (good.receiving side).stops (by rw [Option.mem_def.mp timer]; rfl)
    exact .pure (good.calls (XPassAgent.sendCreditStop_gives (good.receiving side) receiving))
  | senderRetransmit side =>
    obtain ⟨due, timer, -⟩ := enabled
    have pending : (net.agent side).senderRetransmitTimer.isSome := by rw [Option.mem_def.mp timer]; rfl
    exact Ensures.bind (XPassAgent.handleSenderRetransmit_gives (good.receiving side) (good.flows side).within pending)
      fun out gives => .pure (good.calls gives)
  | receiverRetransmit side =>
    obtain ⟨due, timer, -⟩ := enabled
    rw [(good.sending side).complete.2] at timer
    cases timer
  | fct side =>
    obtain ⟨due, timer, -⟩ := enabled
    have waits := (good.sending side).waits.mp (by rw [Option.mem_def.mp timer]; rfl)
    exact .pure (good.sends (XPassAgent.handleFct_takes (good.sending side) waits))
  | wait now => exact .pure ⟨good.flows, good.receiving, good.sending, good.taken⟩

theorem good_of_run (sane : x.Sane) {trace : List (Net × Event)} (run : Lib.Run (Step x) {} trace net) :
    Good sane net :=
  run.keeps (Good sane) (.first sane) fun _ e _ good step => (good.fire e step.1).1 _ step.2

def tenGbps : Params where
  minEthernetSize := 84
  maxEthernetSize := 1538
  minCreditSize := 84
  maxCreditSize := 84
  xpassHdrSize := 78
  maxCreditRate := 64734895
  alpha := 0.5
  targetLossScaling := 0.125
  wInit := 0.5
  minW := 0.01
  retransmitTimeout := 0.1
  defaultCreditStopTimeout := 0.002
  minJitter := -0.1
  maxJitter := 0.1

theorem tenGbps_sane : tenGbps.Sane := ⟨by decide, by decide, le_rfl, by decide +kernel⟩

def aMessage : RequestIdTuple := ⟨1, 2000, true, 0, 0, 1, 10⟩

/-- In every run, each application takes what was handed down at the other end packet by
packet, in order and each byte once, with what it is of; all of it once nothing is left
to send and no data is on its way. -/
theorem taken_in_order (sane : x.Sane) {trace : List (Net × Event)} (run : Lib.Run (Step x) {} trace net) (side : Side)
    (titled : ∀ m ∈ net.handed side, (m.reqId.getD blank).msgBytes = m.nb) :
    net.taken (!side) <+: sane.takes (net.handed side) ∧
      ((net.agent side).datalenRemaining = 0 → (∀ p ∈ net.toward (!side), p.ptype ≠ .data) →
        net.taken (!side) = sane.takes (net.handed side)) := by
  have good := good_of_run sane run
  have ok := good.flows side
  have stream := sane.taken_stream 1 (net.handed side) ok.positive titled
  have taken : net.taken (!side) = ((net.delivered (!side)).map Packet.piece).map (Piece.taken x) := by
    rw [good.taken, List.map_map]
    rfl
  have parts : ((net.delivered (!side) ++ (net.toward (!side)).filter Packet.isData).map Packet.piece ++
      x.cut (net.agent side).curReqIdTup (net.agent side).tSeqno (sane.lens (net.agent side).datalenRemaining)) =
      sane.stream 1 (net.handed side) := ok.stream
  rw [← stream, ← parts, taken]
  constructor
  · rw [List.map_append, List.map_append, List.map_append, List.append_assoc]
    exact List.prefix_append _ _
  · intro sent quiet
    have none : (net.toward (!side)).filter Packet.isData = [] :=
      List.filter_eq_nil_iff.mpr fun p inside => by simpa [Packet.isData] using quiet p inside
    rw [none, sent, sane.lens_zero, List.append_nil]
    simp [Params.cut]

theorem taken_in_order_tenGbps : ∃ net : Net, net.taken true = [(1460, aMessage)] ∧
    net.taken true <+: tenGbps_sane.takes [⟨2000, some aMessage⟩] := by
  have some_ : (Lib.Run.exec (move tenGbps) {}
      [.advanceMsg false 2000 aMessage, .deliver true {}, .wait 0.00001, .deliverCredit false, .deliver true {}]).any
      (fun out => out.2.taken true = [(1460, aMessage)] ∧ out.2.handed false = [⟨2000, some aMessage⟩]) = true := by
    decide +kernel
  obtain ⟨⟨trace, net⟩, run, met⟩ := (Option.any_eq_true _ _).mp some_
  obtain ⟨taken, handed⟩ := of_decide_eq_true met
  have order := taken_in_order tenGbps_sane (Lib.Run.of_exec (move_step tenGbps) run) false (by
    rw [handed]
    rintro m inside
    rw [List.mem_singleton.mp inside]
    rfl)
  rw [handed] at order
  exact ⟨net, taken, order.1⟩

/-- In every run in which a message that ends in a padded packet is followed by one of more
than one packet, the application takes no more than the first packet of the latter. -/
theorem padded_blocks (sane : x.Sane) {trace : List (Net × Event)} (run : Lib.Run (Step x) {} trace net) (side : Side)
    {before after_ : List Message} {n m : Message} (handed : net.handed side = before ++ n :: m :: after_)
    (long : ∀ k ∈ before, x.Long k.nb) (padded : ¬ x.Long n.nb) (more : x.maxSegment < m.nb) :
    (net.taken (!side)).length ≤ (sane.takes (before ++ [n])).length + 1 := by
  have good := good_of_run sane run
  have ok := good.flows side
  have pos : ∀ k ∈ before ++ n :: m :: after_, 0 < k.nb := handed ▸ ok.positive
  have stream := ok.stream
  rw [List.map_append, List.append_assoc, show (net.flow side).handed = _ from handed] at stream
  have refused := sane.refuses (fun k inside => pos k (List.mem_append_left _ inside))
    (pos n (by simp)) long padded more
    ok.accepts stream
  rw [List.length_map, sane.length_stream] at refused
  rw [good.taken, List.length_map]
  exact refused

/-- Behind a message of one byte, one of two packets. -/
theorem padded_blocks_tenGbps : ∃ net : Net, net.taken true = [(1, { aMessage with msgBytes := 1 }), (1460, aMessage)] ∧
    (net.taken true).length ≤ (tenGbps_sane.takes [⟨1, some { aMessage with msgBytes := 1 }⟩]).length + 1 := by
  have some_ : (Lib.Run.exec (move tenGbps) {}
      [.advanceMsg false 1 { aMessage with msgBytes := 1 }, .deliver true {}, .wait 0.00001, .deliverCredit false,
        .creditStop false, .deliver true {}, .deliver true {}, .wait 0.00003, .senderRetransmit false, .wait 0.00004,
        .senderRetransmit false, .advanceMsg false 2000 aMessage, .deliver true {}, .wait 0.00005, .deliverCredit false,
        .deliver true {}]).any
      (fun out => out.2.taken true = [(1, { aMessage with msgBytes := 1 }), (1460, aMessage)] ∧
        out.2.handed false = [⟨1, some { aMessage with msgBytes := 1 }⟩, ⟨2000, some aMessage⟩]) = true := by
    decide +kernel
  obtain ⟨⟨trace, net⟩, run, met⟩ := (Option.any_eq_true _ _).mp some_
  obtain ⟨taken, handed⟩ := of_decide_eq_true met
  exact ⟨net, taken, padded_blocks tenGbps_sane (Lib.Run.of_exec (move_step tenGbps) run) false handed
    (List.forall_mem_nil _) (by unfold Params.Long Params.maxSegment; decide) (by decide)⟩

end Net

end PhantomPass.Xpass
