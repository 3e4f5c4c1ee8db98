import Mathlib
import PhantomPass.Lib.Segments
import PhantomPass.Xpass.Agent

/-! One direction of an ExpressPass connection, from the half of an agent that sends
data to the half of the other one that sends credits. Data and control arrive in their
order, credits in theirs, or not at all. -/

set_option autoImplicit false

namespace PhantomPass.Xpass

/-- What an application hands down: so many bytes, and what they are. -/
structure Message where
  nb : ℤ
  reqId : Option RequestIdTuple
  deriving DecidableEq

structure Piece where
  seqno : ℤ
  size : ℕ
  hlen : ℤ
  reqId : Option RequestIdTuple
  deriving DecidableEq

def Piece.payload (piece : Piece) : ℤ := piece.size - piece.hlen

def acks (awaited : ℤ) (piece : Piece) : ℤ := if piece.seqno = awaited then awaited + piece.payload else awaited

def Accepts : ℤ → List Piece → Prop
  | _, [] => True
  | awaited, piece :: rest => piece.seqno ≤ awaited ∧ Accepts (acks awaited piece) rest

def Packet.piece (p : Packet) : Piece := ⟨p.seqno, p.size, p.hlen, p.reqId⟩

def Packet.isData (p : Packet) : Bool := p.ptype == .data

/-- Sizes that fit: a full packet has room for a payload, and is longer than the shortest. -/
structure Params.Sane (x : Params) : Prop where
  segment : x.xpassHdrSize < x.maxEthernetSize
  ethernet : x.minEthernetSize < x.maxEthernetSize
  credit : x.minCreditSize ≤ x.maxCreditSize
  jitter : x.minJitter ≤ x.maxJitter

namespace Params

variable {x : Params} (sane : x.Sane)

def Sane.framing : Lib.Framing where
  mss := x.maxEthernetSize - x.xpassHdrSize
  header := x.xpassHdrSize
  floor := x.minEthernetSize
  mss_pos := Nat.sub_pos_of_lt sane.segment

def Sane.lens (nb : ℤ) : List ℕ := sane.framing.lens nb.toNat

def Long (x : Params) (nb : ℤ) : Prop :=
  nb % x.maxSegment = 0 ∨ (x.minEthernetSize : ℤ) - x.xpassHdrSize ≤ nb % x.maxSegment

def cut (x : Params) (reqId : Option RequestIdTuple) : ℤ → List ℕ → List Piece
  | _, [] => []
  | start, len :: lens => ⟨start, XPassAgent.dataSize x len, x.xpassHdrSize, reqId⟩ :: cut x reqId (start + len) lens

def Sane.stream : ℤ → List Message → List Piece
  | _, [] => []
  | start, m :: rest => x.cut m.reqId start (sane.lens m.nb) ++ Sane.stream (start + m.nb) rest

end Params

/-- One direction: the half that sends data, the half that takes it, what is on its way
between them, what was handed down at the one end and what was taken at the other. -/
structure Flow where
  curseq : ℤ
  tSeqno : ℤ
  reqId : Option RequestIdTuple
  recvState : RecvState
  recvNext : ℤ
  cRecvNext : ℤ
  cSeqno : ℤ
  sendState : SendState
  flight : List Packet
  credits : List Packet
  handed : List Message
  delivered : List Packet

namespace Flow

def between (a b : XPassAgent) (flight credits : List Packet) (handed : List Message) (delivered : List Packet) :
    Flow where
  curseq := a.curseq
  tSeqno := a.tSeqno
  reqId := a.curReqIdTup
  recvState := a.creditRecvState
  recvNext := b.recvNext
  cRecvNext := b.cRecvNext
  cSeqno := b.cSeqno
  sendState := b.creditSendState
  flight := flight
  credits := credits
  handed := handed
  delivered := delivered

inductive Move (x : Params) (f : Flow) : Flow → Prop
  | advance (m : Message) (p : Packet) : f.recvState = .closed → 0 < m.nb → p.ptype = .creditRequest →
      Move x f { f with
        curseq := f.curseq + m.nb, reqId := m.reqId, recvState := .creditRequestSent
        flight := f.flight ++ [p], handed := f.handed ++ [m] }
  | ask (p : Packet) : f.recvState = .creditRequestSent ∨ f.recvState = .creditStopSent ∧ f.tSeqno < f.curseq →
      p.ptype = .creditRequest → Move x f { f with recvState := .creditRequestSent, flight := f.flight ++ [p] }
  | begins : f.recvState = .creditRequestSent → Move x f { f with recvState := .creditReceiving }
  | send (credit p : Packet) (rest : List Packet) : f.recvState = .creditReceiving ∨ f.recvState = .creditStopSent →
      f.credits = credit :: rest → f.tSeqno < f.curseq → p.ptype = .data → p.creditSeq = credit.creditSeq →
      p.piece = ⟨f.tSeqno, XPassAgent.dataSize x (min x.maxSegment (f.curseq - f.tSeqno)), x.xpassHdrSize, f.reqId⟩ →
      Move x f { f with
        credits := rest, tSeqno := f.tSeqno + min x.maxSegment (f.curseq - f.tSeqno), flight := f.flight ++ [p] }
  | lose (before rest : List Packet) (credit : Packet) : f.credits = before ++ credit :: rest →
      Move x f { f with credits := before ++ rest }
  | stop (p : Packet) : f.recvState = .creditReceiving → p.ptype = .creditStop →
      Move x f { f with recvState := .creditStopSent, flight := f.flight ++ [p] }
  | rest : f.recvState = .creditStopSent → f.tSeqno = f.curseq → Move x f { f with recvState := .closeWait }
  | close : f.recvState = .closeWait → Move x f { f with recvState := .closed }
  | requested (p : Packet) (rest : List Packet) : f.flight = p :: rest → p.ptype = .creditRequest →
      f.sendState ≠ .creditStopReceived → Move x f { f with flight := rest, sendState := .creditSending }
  | stopped (p : Packet) (rest : List Packet) : f.flight = p :: rest → p.ptype = .creditStop →
      Move x f { f with flight := rest, sendState := .closeWait }
  | data (p : Packet) (rest : List Packet) : f.flight = p :: rest → p.ptype = .data → f.cRecvNext ≤ p.creditSeq →
      p.seqno ≤ f.recvNext →
      Move x f { f with
        flight := rest, delivered := f.delivered ++ [p], cRecvNext := p.creditSeq + 1
        recvNext := acks f.recvNext p.piece }
  | credit (p : Packet) : p.ptype = .credit → p.creditSeq = f.cSeqno →
      Move x f { f with credits := f.credits ++ [p], cSeqno := max 1 (f.cSeqno + 1) }
  | fct : f.sendState = .closeWait → Move x f { f with sendState := .closed }

def Moves (x : Params) : Flow → Flow → Prop := Relation.ReflTransGen (Move x)

theorem Move.once {x : Params} {f g : Flow} (move : Move x f g) : Moves x f g := .single move

theorem Moves.trans {x : Params} {f g h : Flow} (first : Moves x f g) (rest : Moves x g h) : Moves x f h :=
  Relation.ReflTransGen.trans first rest

/-- The sequence numbers of the credits that data on its way answers, and of those on their way. -/
def creditSeqs (f : Flow) : List ℤ := ((f.flight.filter Packet.isData) ++ f.credits).map Packet.creditSeq

/-- Stops and requests on their way: a stop arrives only behind a request. -/
inductive Alternate : Bool → List PType → Bool → Prop
  | none (running : Bool) : Alternate running [] running
  | data (running : Bool) (rest : List PType) (last : Bool) : Alternate running rest last →
    Alternate running (.data :: rest) last
  | request (running : Bool) (rest : List PType) (last : Bool) : Alternate true rest last →
      Alternate running (.creditRequest :: rest) last
  | stop (rest : List PType) (last : Bool) : Alternate false rest last → Alternate true (.creditStop :: rest) last

def Asks (state : RecvState) : Bool := state == .creditRequestSent || state == .creditReceiving

structure Ok {x : Params} (sane : x.Sane) (f : Flow) : Prop where
  within : f.tSeqno ≤ f.curseq
  done : f.recvState = .closed ∨ f.recvState = .closeWait → f.tSeqno = f.curseq
  curseq : f.curseq = 1 + (f.handed.map Message.nb).sum
  positive : ∀ m ∈ f.handed, 0 < m.nb
  stream : (f.delivered ++ f.flight.filter Packet.isData).map Packet.piece ++
    x.cut f.reqId f.tSeqno (sane.lens (f.curseq - f.tSeqno)) = sane.stream 1 f.handed
  sorted : f.creditSeqs.Pairwise (· < ·)
  lower : ∀ n ∈ f.creditSeqs, f.cRecvNext ≤ n
  upper : ∀ n ∈ f.creditSeqs, n < f.cSeqno
  seqnos : 1 ≤ f.cRecvNext ∧ f.cRecvNext ≤ f.cSeqno
  kinds : ∀ p ∈ f.credits, p.ptype = .credit
  sending : f.sendState ≠ .creditStopReceived
  control : Alternate (f.sendState == .creditSending) (f.flight.map Packet.ptype) (Asks f.recvState)
  awaits : f.recvNext = (f.delivered.map Packet.piece).foldl acks 1
  accepts : Accepts 1 (f.delivered.map Packet.piece)

end Flow

/-! ### The stream of pieces -/

/-- Each piece starts where the payload of the one before it ends. -/
def Consecutive : ℤ → List Piece → Prop
  | _, [] => True
  | start, piece :: rest => piece.seqno = start ∧ Consecutive (start + piece.payload) rest

theorem consecutive_append (start : ℤ) (before after_ : List Piece) :
    Consecutive start (before ++ after_) ↔
      Consecutive start before ∧ Consecutive (start + (before.map Piece.payload).sum) after_ := by
  induction before generalizing start with
  | nil => simp [Consecutive]
  | cons piece rest ih =>
    rw [List.cons_append, Consecutive, Consecutive, ih, List.map_cons, List.sum_cons, add_assoc, and_assoc]

theorem Consecutive.acks {start : ℤ} {pieces : List Piece} (consecutive : Consecutive start pieces) :
    pieces.foldl acks start = start + (pieces.map Piece.payload).sum ∧ Accepts start pieces := by
  -- the receiver takes exactly the piece it waits for, and waits for the one behind it
  induction pieces generalizing start with
  | nil => simp [Accepts]
  | cons piece rest ih =>
    obtain ⟨first, later⟩ := consecutive
    have next : Xpass.acks start piece = start + piece.payload := if_pos first
    obtain ⟨awaits, accepts⟩ := ih later
    rw [List.foldl_cons, next, awaits, List.map_cons, List.sum_cons, add_assoc]
    exact ⟨rfl, first.le, by rwa [next]⟩

theorem accepts_append (awaited : ℤ) (before after_ : List Piece) :
    Accepts awaited (before ++ after_) ↔ Accepts awaited before ∧ Accepts (before.foldl acks awaited) after_ := by
  induction before generalizing awaited with
  | nil => simp [Accepts]
  | cons piece rest ih => rw [List.cons_append, Accepts, Accepts, ih, List.foldl_cons, and_assoc]

namespace Params

variable {x : Params} (sane : x.Sane)

theorem Sane.mss_eq : (sane.framing.mss : ℤ) = x.maxSegment := by
  have fits := sane.segment
  show ((x.maxEthernetSize - x.xpassHdrSize : ℕ) : ℤ) = _
  unfold maxSegment
  omega

theorem Sane.lens_zero : sane.lens 0 = [] := sane.framing.lens_zero

theorem Sane.lens_of_pos {nb : ℤ} (pos : 0 < nb) :
    sane.lens nb = (min x.maxSegment nb).toNat :: sane.lens (nb - min x.maxSegment nb) := by
  have first : min sane.framing.mss nb.toNat = (min x.maxSegment nb).toNat := by
    have mss := sane.mss_eq
    omega
  have left : (nb - min x.maxSegment nb).toNat = nb.toNat - min sane.framing.mss nb.toNat := by
    have mss := sane.mss_eq
    omega
  unfold Sane.lens
  rw [sane.framing.lens_of_pos (by omega), first, left, first]

theorem Sane.sum_lens {nb : ℤ} (pos : 0 ≤ nb) : (((sane.lens nb).sum : ℕ) : ℤ) = nb := by
  unfold Sane.lens
  rw [sane.framing.sum_lens]
  exact Int.toNat_of_nonneg pos

theorem cut_payload (reqId : Option RequestIdTuple) {len : ℕ} (start : ℤ)
    (long : x.minEthernetSize ≤ x.xpassHdrSize + len) :
    Piece.payload ⟨start, XPassAgent.dataSize x len, x.xpassHdrSize, reqId⟩ = len := by
  show ((XPassAgent.dataSize x len : ℕ) : ℤ) - x.xpassHdrSize = len
  unfold XPassAgent.dataSize
  omega

theorem mem_cut {reqId : Option RequestIdTuple} {start : ℤ} {lens : List ℕ} {piece : Piece}
    (inside : piece ∈ x.cut reqId start lens) : piece.hlen ≤ piece.size := by
  induction lens generalizing start with
  | nil => cases inside
  | cons len lens ih =>
    rcases List.mem_cons.mp inside with rfl | rest
    · show (x.xpassHdrSize : ℤ) ≤ (XPassAgent.dataSize x len : ℕ)
      unfold XPassAgent.dataSize
      omega
    · exact ih rest

theorem cut_consecutive (reqId : Option RequestIdTuple) (start : ℤ) (lens : List ℕ)
    (long : ∀ len ∈ lens, x.minEthernetSize ≤ x.xpassHdrSize + len) :
    Consecutive start (x.cut reqId start lens) ∧ ((x.cut reqId start lens).map Piece.payload).sum = (lens.sum : ℕ) := by
  induction lens generalizing start with
  | nil => exact ⟨trivial, rfl⟩
  | cons len lens ih =>
    have payload := cut_payload reqId start (long len List.mem_cons_self)
    obtain ⟨rest, sum⟩ := ih (start + len) fun other inside => long other (List.mem_cons_of_mem _ inside)
    refine ⟨⟨rfl, by rwa [payload]⟩, ?_⟩
    rw [cut, List.map_cons, List.sum_cons, payload, sum, List.sum_cons]
    push_cast
    rfl

theorem Sane.long {nb : ℤ} (pos : 0 ≤ nb) (long : x.Long nb) : ∀ len ∈ sane.lens nb, x.minEthernetSize ≤
    x.xpassHdrSize + len := by
  intro len inside
  have mss := sane.mss_eq
  have fits := sane.ethernet
  have most := sane.segment
  have rem : ((nb.toNat % sane.framing.mss : ℕ) : ℤ) = nb % x.maxSegment := by
    rw [← mss, Int.natCast_mod, Int.toNat_of_nonneg pos]
  have full : sane.framing.mss = x.maxEthernetSize - x.xpassHdrSize := rfl
  rcases List.mem_append.mp (show len ∈ List.replicate _ _ ++ _ from inside) with whole | last
  · have same := List.eq_of_mem_replicate whole
    omega
  · split at last
    · cases last
    · next some_ =>
      have same := List.mem_singleton.mp last
      unfold Long at long
      omega

theorem Sane.mem_stream {start : ℤ} {handed : List Message} {piece : Piece}
    (inside : piece ∈ sane.stream start handed) :
    ∃ m ∈ handed, ∃ from_, piece ∈ x.cut m.reqId from_ (sane.lens m.nb) := by
  induction handed generalizing start with
  | nil => cases inside
  | cons m rest ih =>
    rcases List.mem_append.mp inside with here | later
    · exact ⟨m, List.mem_cons_self, start, here⟩
    · obtain ⟨other, among, from_, cut⟩ := ih later
      exact ⟨other, List.mem_cons_of_mem _ among, from_, cut⟩

theorem Sane.stream_append (start : ℤ) (before after_ : List Message) :
    sane.stream start (before ++ after_) =
      sane.stream start before ++ sane.stream (start + (before.map Message.nb).sum) after_ := by
  induction before generalizing start with
  | nil => simp [Sane.stream]
  | cons first rest ih =>
    rw [List.cons_append, Sane.stream, ih, Sane.stream, List.append_assoc, List.map_cons, List.sum_cons, add_assoc]

theorem Sane.stream_singleton (start : ℤ) (m : Message) : sane.stream start [m] = x.cut m.reqId start
    (sane.lens m.nb) :=
  List.append_nil _

theorem Sane.stream_consecutive (start : ℤ) (handed : List Message) (pos : ∀ m ∈ handed, 0 < m.nb)
    (long : ∀ m ∈ handed, x.Long m.nb) : Consecutive start (sane.stream start handed) ∧
      ((sane.stream start handed).map Piece.payload).sum = (handed.map Message.nb).sum := by
  induction handed generalizing start with
  | nil => exact ⟨trivial, rfl⟩
  | cons m rest ih =>
    have nonneg : 0 ≤ m.nb := (pos m List.mem_cons_self).le
    obtain ⟨first, sum⟩ := cut_consecutive m.reqId start (sane.lens m.nb) (sane.long nonneg (long m List.mem_cons_self))
    obtain ⟨later, total⟩ := ih (start + m.nb) (fun m inside => pos m (List.mem_cons_of_mem _ inside))
      fun m inside => long m (List.mem_cons_of_mem _ inside)
    rw [Sane.stream, consecutive_append, List.map_append, List.sum_append, sum, sane.sum_lens nonneg, total]
    exact ⟨⟨first, later⟩, rfl⟩

end Params

namespace Flow

variable {x : Params} {sane : x.Sane} {f g : Flow}

theorem Alternate.request_last {running last : Bool} {kinds : List PType} (alternate : Alternate running kinds last) :
    Alternate running (kinds ++ [.creditRequest]) true := by
  induction alternate with
  | none => exact .request _ _ _ (.none true)
  | data running rest last _ ih => exact .data _ _ _ ih
  | request running rest last _ ih => exact .request _ _ _ ih
  | stop rest last _ ih => exact .stop _ _ ih

theorem Alternate.stop_last {running : Bool} {kinds : List PType} (alternate : Alternate running kinds true) :
    Alternate running (kinds ++ [.creditStop]) false := by
  generalize stops : true = last at alternate
  induction alternate with
  | none running =>
    subst stops
    exact .stop _ _ (.none false)
  | data running rest last _ ih => exact .data _ _ _ (ih stops)
  | request running rest last _ ih => exact .request _ _ _ (ih stops)
  | stop rest last _ ih => exact .stop _ _ (ih stops)

theorem Alternate.data_last {running last : Bool} {kinds : List PType} (alternate : Alternate running kinds last) :
    Alternate running (kinds ++ [.data]) last := by
  induction alternate with
  | none running => exact .data _ _ _ (.none running)
  | data running rest last _ ih => exact .data _ _ _ ih
  | request running rest last _ ih => exact .request _ _ _ ih
  | stop rest last _ ih => exact .stop _ _ ih

/-! ### What every move keeps -/

theorem nothing_left (sane : x.Sane) (sent : f.tSeqno = f.curseq) : sane.lens (f.curseq - f.tSeqno) = [] := by
  rw [sent, sub_self, sane.lens_zero]

theorem control_last {p : Packet} (flight : List Packet) (kind : p.isData = false) :
    (flight ++ [p]).filter Packet.isData = flight.filter Packet.isData := by simp [kind]

theorem Ok.awaited (ok : Ok sane f) (long : ∀ m ∈ f.handed, x.Long m.nb) {p : Packet} {rest : List Packet}
    (first : f.flight = p :: rest) (data : p.ptype = .data) : p.seqno = f.recvNext := by
  have consecutive := (sane.stream_consecutive 1 f.handed ok.positive long).1
  have head : f.flight.filter Packet.isData = p :: rest.filter Packet.isData := by
    rw [first, List.filter_cons_of_pos (by simp [Packet.isData, data])]
  rw [← ok.stream, head, List.map_append, List.append_assoc, consecutive_append] at consecutive
  have seqno : p.seqno = 1 + ((f.delivered.map Packet.piece).map Piece.payload).sum := consecutive.2.1
  rw [seqno, ok.awaits, consecutive.1.acks.1]

theorem Ok.whole (ok : Ok sane f) {p : Packet} (inside : p ∈ f.flight) (data : p.ptype = .data) : p.hlen ≤ p.size := by
  have isData : p ∈ f.flight.filter Packet.isData := List.mem_filter.mpr ⟨inside, by simp [Packet.isData, data]⟩
  have piece : p.piece ∈ sane.stream 1 f.handed := by
    rw [← ok.stream]
    exact List.mem_append_left _ (List.mem_map_of_mem (List.mem_append_right _ isData))
  obtain ⟨m, -, _, cut⟩ := sane.mem_stream piece
  exact Params.mem_cut cut

theorem Ok.first (ok : Ok sane f) {p : Packet} {rest : List Packet} (first : f.flight = p :: rest) :
    p.ptype = .creditRequest ∨ p.ptype = .data ∨ (p.ptype = .creditStop ∧ f.sendState = .creditSending) := by
  have control := ok.control
  rw [first, List.map_cons] at control
  generalize running : (f.sendState == .creditSending) = sends at control
  generalize p.ptype = kind at control ⊢
  cases control with
  | data => exact Or.inr (Or.inl rfl)
  | request => exact Or.inl rfl
  | stop => exact Or.inr (Or.inr ⟨rfl, by simpa using running⟩)

theorem Ok.sends_control (ok : Ok sane f) {p : Packet} {state : RecvState} (kind : p.isData = false)
    (open_ : state ≠ .closed ∧ state ≠ .closeWait)
    (control : Alternate (f.sendState == .creditSending) ((f.flight ++ [p]).map Packet.ptype) (Asks state)) :
    Ok sane { f with recvState := state, flight := f.flight ++ [p] } := by
  have data := control_last f.flight kind
  refine { ok with done := ?_, stream := ?_, sorted := ?_, lower := ?_, upper := ?_, control := control }
  · rintro (closed | waits)
    · exact absurd closed open_.1
    · exact absurd waits open_.2
  · rw [data]
    exact ok.stream
  · simpa only [creditSeqs, data] using ok.sorted
  · simpa only [creditSeqs, data] using ok.lower
  · simpa only [creditSeqs, data] using ok.upper

theorem Ok.takes_control (ok : Ok sane f) {p : Packet} {rest : List Packet} {state : SendState}
    (flight : f.flight = p :: rest) (kind : p.isData = false) (goes : state ≠ .creditStopReceived)
    (control : Alternate (state == .creditSending) (rest.map Packet.ptype) (Asks f.recvState)) :
    Ok sane { f with flight := rest, sendState := state } := by
  have data : f.flight.filter Packet.isData = rest.filter Packet.isData := by simp [flight, kind]
  refine { ok with stream := ?_, sorted := ?_, lower := ?_, upper := ?_, sending := goes, control := control }
  · rw [← data]
    exact ok.stream
  · simpa only [creditSeqs, ← data] using ok.sorted
  · simpa only [creditSeqs, ← data] using ok.lower
  · simpa only [creditSeqs, ← data] using ok.upper

theorem Ok.advance (ok : Ok sane f) (m : Message) {p : Packet} (closed : f.recvState = .closed) (pos : 0 < m.nb)
    (kind : p.ptype = .creditRequest) :
    Ok sane { f with
      curseq := f.curseq + m.nb, reqId := m.reqId, recvState := .creditRequestSent
      flight := f.flight ++ [p], handed := f.handed ++ [m] } := by
  have sent := ok.done (Or.inl closed)
  have data := control_last f.flight (p := p) (by simp [Packet.isData, kind])
  -- the message before is cut completely, so that this one is all that is left
  have stream := ok.stream
  rw [nothing_left sane sent, Params.cut, List.append_nil] at stream
  refine { ok with
    within := ?_, done := by simp, curseq := ?_, positive := ?_, stream := ?_, sorted := ?_, lower := ?_, upper := ?_
    control := ?_ }
  · show f.tSeqno ≤ f.curseq + m.nb
    omega
  · rw [List.map_append, List.sum_append, ok.curseq]
    simp [add_assoc]
  · intro other inside
    rcases List.mem_append.mp inside with old | new
    · exact ok.positive other old
    · rwa [List.mem_singleton.mp new]
  · show _ ++ x.cut m.reqId f.tSeqno (sane.lens (f.curseq + m.nb - f.tSeqno)) = _
    rw [data, stream, sane.stream_append, sane.stream_singleton, ← ok.curseq, sent, add_sub_cancel_left]
  · simpa only [creditSeqs, data] using ok.sorted
  · simpa only [creditSeqs, data] using ok.lower
  · simpa only [creditSeqs, data] using ok.upper
  · rw [List.map_append, List.map_singleton, kind]
    exact ok.control.request_last

theorem Ok.send (ok : Ok sane f) {credit p : Packet} {rest : List Packet}
    (active : f.recvState = .creditReceiving ∨ f.recvState = .creditStopSent) (credits : f.credits = credit :: rest)
    (left : f.tSeqno < f.curseq) (kind : p.ptype = .data) (seq : p.creditSeq = credit.creditSeq) (piece : p.piece =
      ⟨f.tSeqno, XPassAgent.dataSize x (min x.maxSegment (f.curseq - f.tSeqno)), x.xpassHdrSize, f.reqId⟩) :
    Ok sane { f with
      credits := rest, tSeqno := f.tSeqno + min x.maxSegment (f.curseq - f.tSeqno), flight := f.flight ++ [p] } := by
  have isData : p.isData = true := by simp [Packet.isData, kind]
  have seqs : f.creditSeqs = (f.flight.filter Packet.isData).map Packet.creditSeq ++ credit.creditSeq ::
    rest.map Packet.creditSeq := by
    simp [creditSeqs, credits]
  -- the packet takes the place of the credit that it answers
  have same : ((f.flight ++ [p]).filter Packet.isData ++ rest).map Packet.creditSeq = f.creditSeqs := by
    rw [seqs]
    simp [isData, seq]
  have pos : 0 < f.curseq - f.tSeqno := by omega
  have most := min_le_right x.maxSegment (f.curseq - f.tSeqno)
  refine { ok with
    within := ?_, done := ?_, stream := ?_, sorted := ?_, lower := ?_, upper := ?_, kinds := ?_, control := ?_ }
  · show f.tSeqno + min x.maxSegment (f.curseq - f.tSeqno) ≤ f.curseq
    omega
  · intro ended
    rcases active with state | state <;> simp [state] at ended
  · have stream := ok.stream
    have size : ((min x.maxSegment (f.curseq - f.tSeqno)).toNat : ℤ) = min x.maxSegment (f.curseq - f.tSeqno) :=
      Int.toNat_of_nonneg (by rw [← sane.mss_eq]; omega)
    have cut : f.curseq - (f.tSeqno + min x.maxSegment (f.curseq - f.tSeqno)) =
        f.curseq - f.tSeqno - min x.maxSegment (f.curseq - f.tSeqno) := by omega
    rw [sane.lens_of_pos pos, Params.cut, size, ← piece] at stream
    rw [cut, List.filter_append, List.filter_singleton, isData, cond_true, ← List.append_assoc, List.map_append,
      List.append_assoc, List.map_singleton, List.singleton_append]
    exact stream
  · unfold creditSeqs
    rw [same]
    exact ok.sorted
  · unfold creditSeqs
    rw [same]
    exact ok.lower
  · unfold creditSeqs
    rw [same]
    exact ok.upper
  · exact fun q inside => ok.kinds q (by rw [credits]; exact List.mem_cons_of_mem _ inside)
  · rw [List.map_append, List.map_singleton, kind]
    exact ok.control.data_last

theorem Ok.lose (ok : Ok sane f) {before rest : List Packet} {credit : Packet}
    (credits : f.credits = before ++ credit :: rest) : Ok sane { f with credits := before ++ rest } := by
  have fewer : List.Sublist (((f.flight.filter Packet.isData) ++ (before ++ rest)).map Packet.creditSeq)
    f.creditSeqs := by
    unfold creditSeqs
    rw [credits]
    exact ((List.Sublist.refl _).append ((List.Sublist.refl _).append (List.sublist_cons_self _ _))).map _
  refine { ok with sorted := ?_, lower := ?_, upper := ?_, kinds := ?_ }
  · exact ok.sorted.sublist fewer
  · exact fun n inside => ok.lower n (fewer.subset inside)
  · exact fun n inside => ok.upper n (fewer.subset inside)
  · intro q inside
    apply ok.kinds
    rw [credits]
    rcases List.mem_append.mp inside with first | last
    · exact List.mem_append_left _ first
    · exact List.mem_append_right _ (List.mem_cons_of_mem _ last)

theorem Ok.data (ok : Ok sane f) {p : Packet} {rest : List Packet} (flight : f.flight = p :: rest)
    (kind : p.ptype = .data) (notBefore : f.cRecvNext ≤ p.creditSeq) (notBehind : p.seqno ≤ f.recvNext) :
    Ok sane { f with
      flight := rest, delivered := f.delivered ++ [p], cRecvNext := p.creditSeq + 1
      recvNext := acks f.recvNext p.piece } := by
  have head : f.flight.filter Packet.isData = p :: rest.filter Packet.isData := by simp [flight, Packet.isData, kind]
  have seqs : f.creditSeqs = p.creditSeq :: ((rest.filter Packet.isData) ++ f.credits).map Packet.creditSeq := by
    simp [creditSeqs, head]
  have sorted := ok.sorted
  have upper := ok.upper
  rw [seqs] at sorted upper
  have below : p.creditSeq < f.cSeqno := upper _ List.mem_cons_self
  have control := ok.control
  rw [flight, List.map_cons, kind] at control
  have seqnos := ok.seqnos
  refine { ok with
    stream := ?_, sorted := ?_, lower := ?_, upper := ?_, seqnos := ?_, control := ?_, awaits := ?_, accepts := ?_ }
  · have stream := ok.stream
    rw [head] at stream
    rw [List.append_assoc, List.singleton_append]
    exact stream
  · exact (List.pairwise_cons.mp sorted).2
  · -- the credits are in order, so that what is left is behind the one answered
    intro n inside
    have later := (List.pairwise_cons.mp sorted).1 n inside
    show p.creditSeq + 1 ≤ n
    omega
  · exact fun n inside => upper n (List.mem_cons_of_mem _ inside)
  · show 1 ≤ p.creditSeq + 1 ∧ p.creditSeq + 1 ≤ f.cSeqno
    omega
  · generalize (f.sendState == .creditSending) = running at control ⊢
    cases control with
    | data _ _ _ later => exact later
  · rw [List.map_append, List.foldl_append, ← ok.awaits]
    rfl
  · rw [List.map_append, accepts_append, ← ok.awaits]
    exact ⟨ok.accepts, notBehind, trivial⟩

theorem Ok.credit (ok : Ok sane f) {p : Packet} (kind : p.ptype = .credit) (seq : p.creditSeq = f.cSeqno) :
    Ok sane { f with credits := f.credits ++ [p], cSeqno := max 1 (f.cSeqno + 1) } := by
  have seqnos := ok.seqnos
  have next : max 1 (f.cSeqno + 1) = f.cSeqno + 1 := by omega
  have more : ((f.flight.filter Packet.isData) ++ (f.credits ++ [p])).map Packet.creditSeq = f.creditSeqs ++
    [f.cSeqno] := by
    simp [creditSeqs, seq]
  refine { ok with sorted := ?_, lower := ?_, upper := ?_, seqnos := ?_, kinds := ?_ }
  · unfold creditSeqs
    rw [more, List.pairwise_append]
    refine ⟨ok.sorted, List.pairwise_singleton _ _, fun n inside last same => ?_⟩
    rw [List.mem_singleton.mp same]
    exact ok.upper n inside
  · unfold creditSeqs
    rw [more]
    intro n inside
    rcases List.mem_append.mp inside with old | new
    · exact ok.lower n old
    · rw [List.mem_singleton.mp new]
      exact seqnos.2
  · unfold creditSeqs
    rw [more]
    show ∀ n ∈ _, n < max 1 (f.cSeqno + 1)
    rw [next]
    intro n inside
    rcases List.mem_append.mp inside with old | new
    · have below := ok.upper n old
      omega
    · rw [List.mem_singleton.mp new]
      omega
  · show 1 ≤ f.cRecvNext ∧ f.cRecvNext ≤ max 1 (f.cSeqno + 1)
    omega
  · intro q inside
    rcases List.mem_append.mp inside with old | new
    · exact ok.kinds q old
    · rwa [List.mem_singleton.mp new]

theorem Ok.move (ok : Ok sane f) (move : Move x f g) : Ok sane g := by
  have control := ok.control
  cases move with
  | advance m p closed pos kind => exact ok.advance m closed pos kind
  | ask p _ kind =>
    refine ok.sends_control (by simp [Packet.isData, kind]) (by decide) ?_
    rw [List.map_append, List.map_singleton, kind]
    exact control.request_last
  | begins asked =>
    rw [asked] at control
    exact { ok with done := by simp, control := control }
  | send credit p rest active credits left kind seq piece => exact ok.send active credits left kind seq piece
  | lose before rest credit credits => exact ok.lose credits
  | stop p receiving kind =>
    rw [receiving] at control
    refine ok.sends_control (by simp [Packet.isData, kind]) (by decide) ?_
    rw [List.map_append, List.map_singleton, kind]
    exact control.stop_last
  | rest stopped sent =>
    rw [stopped] at control
    exact { ok with done := fun _ => sent, control := control }
  | close waits =>
    rw [waits] at control
    exact { ok with done := fun _ => ok.done (Or.inr waits), control := control }
  | requested p rest flight kind _ =>
    refine ok.takes_control flight (by simp [Packet.isData, kind]) (by decide) ?_
    rw [flight, List.map_cons, kind] at control
    generalize (f.sendState == .creditSending) = running at control
    cases control with
    | request _ _ _ later => exact later
  | stopped p rest flight kind =>
    refine ok.takes_control flight (by simp [Packet.isData, kind]) (by decide) ?_
    rw [flight, List.map_cons, kind] at control
    generalize (f.sendState == .creditSending) = running at control
    cases control with
    | stop _ _ later => exact later
  | data p rest flight kind notBefore notBehind => exact ok.data flight kind notBefore notBehind
  | credit p kind seq => exact ok.credit kind seq
  | fct waits =>
    rw [waits] at control
    exact { ok with sending := by simp, control := control }

end Flow

end PhantomPass.Xpass
