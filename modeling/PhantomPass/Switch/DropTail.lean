import PhantomPass.Config
import PhantomPass.Lib.FirstMin
import PhantomPass.Lib.Runs

/-! DropTail::deque with deque_prio_, which serves the best priority first, the
levels merged for one or two of them. The head is compared by its raw priority;
the correction that keeps the order of a flow does not depend on that. -/

set_option autoImplicit false

namespace PhantomPass.Switch

/-- A packet as it is queued: from ten seconds on it leaves its gap and its preamble out. -/
def queued (now : Time) (p : Packet) : Packet :=
  if 10 ≤ now then { p with size := p.size - (interPktGapSize + ethernetPreambleSize) } else p

def dequeued (now : Time) (p : Packet) : Packet :=
  if 10 ≤ now then { p with size := p.size + (interPktGapSize + ethernetPreambleSize) } else p

/-- The bound variables of a DropTail queue with deque_prio_ set. -/
structure DropTail where
  numPrios : ℤ := 8
  keepOrder : Bool := false

/-- prio_mapper, for the two numbers of levels it is called with. -/
def prioMapper (prio numPrios : ℤ) : ℤ :=
  if numPrios = 2 then
    if prio = 0 then prio else 1
  else 0

namespace DropTail

variable (c : DropTail)

def prio (p : Packet) : ℤ := if c.numPrios = 2 ∨ c.numPrios = 1 then prioMapper p.prio c.numPrios else p.prio

/-- Where the packet to send stands, before the order of its flow is looked at. -/
def highestPrioPkt (head : Packet) (rest : List Packet) : ℕ := (Lib.scanMin (0, head.prio) 1 (rest.map c.prio)).1

def flow (p : Packet) : Addr × Addr × ℤ := (p.src, p.dst, p.flowid)

/-- The first packet of the flow, from the head up to the packet chosen. -/
def firstOfFlow (queue : List Packet) (pos : ℕ) : ℕ :=
  match queue[pos]? with
  | none => pos
  | some p => (queue.take pos).findIdx fun pp => flow pp = flow p

def select : List Packet → Option ℕ
  | [] => none
  | head :: rest =>
    let pos := c.highestPrioPkt head rest
    -- an earlier packet of the same flow goes instead
    some (if c.keepOrder then firstOfFlow (head :: rest) pos else pos)

structure State where
  queue : List Packet := []
  entered : List Packet := []
  left : List Packet := []

/-- A packet comes, for which there is room or not; the link takes a packet. -/
inductive Event
  | enque (now : Time) (p : Packet) (doDrop : Bool)
  | deque (now : Time)

def enque (now : Time) (s : State) (p : Packet) (doDrop : Bool) : State :=
  let p := queued now p
  if doDrop then s else { s with queue := s.queue ++ [p], entered := s.entered ++ [p] }

def deque (now : Time) (s : State) : Option Packet × State :=
  match c.select s.queue with
  | none => (none, s)
  | some pos =>
    (s.queue[pos]?.map (dequeued now), { s with queue := s.queue.eraseIdx pos, left := s.left ++ s.queue[pos]?.toList })

def fire (s : State) : Event → State
  | .enque now p doDrop => enque now s p doDrop
  | .deque now => (c.deque now s).2

def Step (s : State) (e : Event) (t : State) : Prop := c.fire s e = t

def ofFlow (f : Addr × Addr × ℤ) (packets : List Packet) : List Packet := packets.filter fun p => flow p = f

theorem firstOfFlow_spec {queue : List Packet} {pos : ℕ} {p : Packet} (chosen : queue[pos]? = some p) :
    ∃ pre q post, queue = pre ++ q :: post ∧ pre.length = firstOfFlow queue pos ∧ ∀ r ∈ pre, flow r ≠ flow q := by
  obtain ⟨inside, at_⟩ := List.getElem?_eq_some_iff.mp chosen
  have place : firstOfFlow queue pos = (queue.take pos).findIdx fun pp => flow pp = flow p := by
    unfold firstOfFlow
    rw [chosen]
  have le : firstOfFlow queue pos ≤ pos := by
    rw [place]
    exact List.findIdx_le_length.trans (List.length_take_le _ _)
  have lt : firstOfFlow queue pos < queue.length := Nat.lt_of_le_of_lt le inside
  have same : flow queue[firstOfFlow queue pos] = flow p := by
    rcases Nat.lt_or_ge (firstOfFlow queue pos) pos with earlier | here
    · have within : (queue.take pos).findIdx (fun pp => flow pp = flow p) < (queue.take pos).length := by
        rw [← place, List.length_take_of_le inside.le]
        exact earlier
      have matches_ := List.findIdx_getElem (w := within)
      simpa [place] using matches_
    · have last : firstOfFlow queue pos = pos := Nat.le_antisymm le here
      simp only [last, at_]
  refine ⟨queue.take (firstOfFlow queue pos), queue[firstOfFlow queue pos], queue.drop (firstOfFlow queue pos + 1), ?_,
    ?_, ?_⟩
  · rw [← List.drop_eq_getElem_cons lt, List.take_append_drop]
  · exact List.length_take_of_le lt.le
  · intro r member
    obtain ⟨k, small, rfl⟩ := List.mem_take_iff_getElem.mp member
    have before : k < firstOfFlow queue pos := Nat.lt_of_lt_of_le small (Nat.min_le_left _ _)
    have other := List.not_of_lt_findIdx (place ▸ before)
    rw [same]
    simpa using other

theorem select_keepOrder (keep : c.keepOrder = true) {queue : List Packet} {pos : ℕ}
    (select : c.select queue = some pos) :
    ∃ pre p post, queue = pre ++ p :: post ∧ pre.length = pos ∧ ∀ q ∈ pre, flow q ≠ flow p := by
  cases queue with
  | nil => cases select
  | cons head rest =>
    have first : Lib.FirstMin _ (c.highestPrioPkt head rest) _ := Lib.scanMin_cons head.prio (rest.map c.prio)
    have inside : c.highestPrioPkt head rest < (head :: rest).length := by
      by_contra outside
      have nothing := first.at_
      rw [List.getElem?_eq_none (by simpa using outside)] at nothing
      cases nothing
    simp only [DropTail.select, keep, if_true, Option.some.injEq] at select
    rw [← select]
    exact firstOfFlow_spec (List.getElem?_eq_getElem inside)

theorem Step.in_order (keep : c.keepOrder = true) {s t : State} {e : Event} (step : c.Step s e t)
    (before : ∀ f, ofFlow f s.entered = ofFlow f s.left ++ ofFlow f s.queue) (f : Addr × Addr × ℤ) :
    ofFlow f t.entered = ofFlow f t.left ++ ofFlow f t.queue := by
  cases step
  cases e with
  | enque now p doDrop =>
    unfold fire enque
    dsimp only
    split
    · exact before f
    · have old := before f
      simp only [ofFlow, List.filter_append] at old ⊢
      rw [old, List.append_assoc]
  | deque now =>
    unfold fire deque
    dsimp only
    split
    · exact before f
    · next pos select =>
      obtain ⟨pre, p, post, queue, rfl, others⟩ := c.select_keepOrder keep select
      have rest : s.queue.eraseIdx pre.length = pre ++ post := by
        rw [queue, List.eraseIdx_append_of_length_le (Nat.le_refl _), Nat.sub_self, List.eraseIdx_cons_zero]
      have here : s.queue[pre.length]? = some p := by rw [queue]; simp
      dsimp only
      rw [before f, rest, here, queue]
      by_cases same : flow p = f
      · have none_before : ofFlow f pre = [] :=
          List.filter_eq_nil_iff.mpr fun q member => by simpa [same] using others q member
        simp only [ofFlow] at none_before
        simp [ofFlow, same, none_before]
      · simp [ofFlow, same]

/-- The packet chosen is the earliest of the best class exactly if the head's
class and its raw priority compare alike with the packets behind it; with one
level it is the head unless that has a priority above zero and is not alone. And
with the correction each flow leaves in its order, whatever was chosen. -/
theorem deque_prio :
    (∀ head rest, (∃ least, Lib.FirstMin ((head :: rest).map c.prio) (c.highestPrioPkt head rest) least) ↔
      ((∀ p ∈ rest, c.prio head ≤ c.prio p) ↔ ∀ p ∈ rest, head.prio ≤ c.prio p)) ∧
    (c.numPrios = 1 → ∀ head rest, c.highestPrioPkt head rest = 0 ↔ rest = [] ∨ head.prio ≤ 0) ∧
    (c.keepOrder = true → ∀ (trace : List (State × Event)) (s : State), Lib.Run c.Step {} trace s →
      ∀ f, ofFlow f s.entered = ofFlow f s.left ++ ofFlow f s.queue) := by
  refine ⟨fun head rest => ?_, fun one head rest => ?_, fun keep trace s run => ?_⟩
  · have scan := Lib.scanMin_iff head.prio (c.prio head) (rest.map c.prio)
    rw [highestPrioPkt, List.map_cons]
    simpa only [List.forall_mem_map] using scan
  · have scan : Lib.FirstMin _ (c.highestPrioPkt head rest) _ := Lib.scanMin_cons head.prio (rest.map c.prio)
    have zero : ∀ p, c.prio p = 0 := fun p => by simp [prio, prioMapper, one]
    constructor
    · intro first
      rw [first] at scan
      have same : head.prio = _ := Option.some.inj scan.at_
      rw [← same] at scan
      cases rest with
      | nil => exact Or.inl rfl
      | cons p rest => exact Or.inr (zero p ▸ Lib.FirstMin.cons_zero.mp scan (c.prio p) (by simp))
    · intro least
      have first : Lib.FirstMin (head.prio :: rest.map c.prio) 0 head.prio := by
        refine Lib.FirstMin.cons_zero.mpr fun x member => ?_
        obtain ⟨p, inside, rfl⟩ := List.mem_map.mp member
        rcases least with none | low
        · exact absurd inside (none ▸ List.not_mem_nil)
        · exact low.trans (zero p).ge
      exact scan.unique first
  · exact run.keeps (fun s => ∀ f, ofFlow f s.entered = ofFlow f s.left ++ ofFlow f s.queue) (fun _ => rfl)
      fun s e t before step => step.in_order c keep before

def frame (prio : ℤ) (seqno : ℕ) : Packet :=
  { hdr := { msgType := .request }, src := 0, dst := 1, size := 1518, padding := 0, flowid := 0, prio,
    ect := true, seqno }

/-- A head of priority zero is served first when there is one level. -/
theorem deque_prio_zero : highestPrioPkt { numPrios := 1 } (frame 0 0) [frame 7 1] = 0 :=
  ((deque_prio { numPrios := 1 }).2.1 rfl (frame 0 0) [frame 7 1]).mpr (Or.inr (le_refl 0))

/-- One level only: the second frame is sent before the first. -/
theorem deque_not_fifo :
    (deque { numPrios := 1 } 10 { queue := [frame 7 0, frame 7 1] }).1 = some { frame 7 1 with size := 1538 } ∧
      ¬ ∃ least, Lib.FirstMin ([frame 7 0, frame 7 1].map (prio { numPrios := 1 }))
        (highestPrioPkt { numPrios := 1 } (frame 7 0) [frame 7 1]) least := by
  refine ⟨by decide, ?_⟩
  rintro ⟨least, first⟩
  have zero : 0 = least := Option.some.inj first.at_
  exact absurd (first.before 0 (by decide) 0 rfl) (by rw [zero]; exact lt_irrefl _)

end DropTail

end PhantomPass.Switch
