import Mathlib
import PhantomPass.Switch.MultiPath

/-! What MultiPathForwarder does with packet after packet while its table stays:
its loops end at a slot that is installed, and the hash of GRANTs and REQUEST
packets does not depend on what came before. -/

set_option autoImplicit false

namespace PhantomPass.Switch.MultiPathForwarder

section Loop

variable (slots : List (Option NsObject)) (fail : ℕ)

def advance (ms : ℕ) : ℕ := (ms + 1) % slots.length

/-- The runs of the do-while loop that end: from a position, to the slot and the
position that the loop leaves. -/
inductive Loop : ℕ → ℕ × ℕ → Prop
  | exit {ms : ℕ} : Filled slots ms ∨ advance slots ms = fail → Loop ms (ms, advance slots ms)
  | again {ms : ℕ} {last : ℕ × ℕ} : ¬ Filled slots ms → advance slots ms ≠ fail → Loop (advance slots ms) last →
    Loop ms last

theorem occupied_loop {d : ℕ} (turns ms : ℕ) (within : d ≤ turns) (taken : Filled slots ((advance slots)^[d] ms))
    (early : ∀ j < d, (advance slots)^[j + 1] ms ≠ fail) :
    Loop slots fail ms (occupied slots fail turns ms) ∧ Filled slots (occupied slots fail turns ms).1 := by
  -- on the distance to the next slot in use
  induction d generalizing turns ms with
  | zero =>
    have here : occupied slots fail turns ms = (ms, advance slots ms) := by
      cases turns with
      | zero => rfl
      | succ turns => exact if_neg fun empty => empty.1 taken
    rw [here]
    exact ⟨.exit (Or.inl taken), taken⟩
  | succ d ih =>
    obtain ⟨turns, rfl⟩ := Nat.exists_eq_add_of_lt within
    have moved : advance slots ms ≠ fail := early 0 (Nat.succ_pos d)
    by_cases here : Filled slots ms
    · have stops : occupied slots fail (d + turns + 1) ms = (ms, advance slots ms) := if_neg fun empty => empty.1 here
      rw [stops]
      exact ⟨.exit (Or.inl here), here⟩
    · have goes : occupied slots fail (d + turns + 1) ms = occupied slots fail (d + turns) (advance slots ms) :=
        if_pos ⟨here, moved⟩
      rw [goes]
      obtain ⟨ends, found⟩ := ih (d + turns) (advance slots ms) (by omega) taken
        fun j lt => early (j + 1) (Nat.succ_lt_succ lt)
      exact ⟨.again here moved ends, found⟩

theorem advance_iterate (d ms : ℕ) : (advance slots)^[d + 1] ms = (ms + d + 1) % slots.length := by
  induction d with
  | zero => rfl
  | succ d ih => rw [Function.iterate_succ_apply', ih, advance, Nat.mod_add_mod, Nat.add_assoc ms d 1]

theorem advance_reaches {slot : ℕ} (start : ℕ) (inside : slot < slots.length) : ∃ d ≤ slots.length,
    (advance slots)^[d] start = slot ∧ ∀ j < d, (advance slots)^[j + 1] start ≠ start := by
  have len : 0 < slots.length := Nat.zero_lt_of_lt inside
  have lt := Nat.mod_lt start len
  rcases eq_or_ne start slot with here | elsewhere
  · exact ⟨0, Nat.zero_le _, here, fun j none => absurd none (Nat.not_lt_zero j)⟩
  · -- how far the slot is behind the start, round the table
    obtain ⟨d, le, reaches, short⟩ : ∃ d < slots.length, (start + d + 1) % slots.length = slot ∧
        (start < slots.length → d + 1 < slots.length) := by
      rcases Nat.lt_or_ge (start % slots.length) slot with before | behind
      · refine ⟨slot - start % slots.length - 1, by omega, ?_, fun _ => by omega⟩
        rw [Nat.add_assoc, ← Nat.mod_add_mod, show start % slots.length + (slot - start % slots.length - 1 + 1) =
          slot by omega]
        exact Nat.mod_eq_of_lt inside
      · refine ⟨slot + slots.length - start % slots.length - 1, by omega, ?_, fun within => ?_⟩
        · rw [Nat.add_assoc, ← Nat.mod_add_mod,
            show start % slots.length + (slot + slots.length - start % slots.length - 1 + 1) = slot + slots.length by
              omega,
            Nat.add_mod_right]
          exact Nat.mod_eq_of_lt inside
        · rw [Nat.mod_eq_of_lt within] at behind ⊢
          omega
    refine ⟨d + 1, le, (advance_iterate slots d start).trans reaches, fun j lt meets => ?_⟩
    rw [advance_iterate] at meets
    have within : start < slots.length := meets ▸ Nat.mod_lt _ len
    have far := short within
    rcases Nat.lt_or_ge (start + j + 1) slots.length with same | wraps
    · rw [Nat.mod_eq_of_lt same] at meets
      omega
    · rw [Nat.mod_eq_sub_mod wraps, Nat.mod_eq_of_lt (by omega)] at meets
      omega

theorem firstOccupied_loop (start : ℕ) (some_taken : ∃ slot, Filled slots slot) :
    Loop slots start start (firstOccupied slots start) ∧ Filled slots (firstOccupied slots start).1 := by
  obtain ⟨slot, taken⟩ := some_taken
  have inside : slot < slots.length := by
    by_contra outside
    exact taken (by rw [List.getElem?_eq_none (not_lt.mp outside)]; rfl)
  obtain ⟨d, within, reaches, early⟩ := advance_reaches slots start inside
  exact occupied_loop slots start slots.length start within (by rw [reaches]; exact taken) early

end Loop

/-- A packet to route: whether its type is PT_UDP, and how the queues stand. -/
structure Offer where
  udp : Bool
  packet : Packet
  now : Time
  byteLength : ℤ → ℤ

variable (f : MultiPathForwarder)

section Table

variable (lib : CLibrary)

def table : List (Option NsObject) :=
  if f.symmetric = true ∧ (f.sortedMaxslot = -1 ∨ f.sortedMaxslot < f.width - 1) then lib.qsort f.slots else f.slots

theorem table_perm : (f.table lib).Perm f.slots := by
  unfold table
  split
  · exact lib.qsort_perm f.slots
  · exact .refl _

/-- The forwarder has settled on a table: it is sorted if it has to be. -/
structure Settled (settled : List (Option NsObject)) (attached : Option DestHashClassifier) (g : MultiPathForwarder) :
    Prop where
  table : g.table lib = settled
  length : g.width = settled.length
  classifier : g.destHashClassifier = attached

theorem settled_start : Settled lib (f.table lib) f.destHashClassifier f :=
  ⟨rfl, (f.table_perm lib).length_eq.symm, rfl⟩

theorem chooseSlot_settles {settled : List (Option NsObject)} {attached : Option DestHashClassifier}
    (start : Settled lib settled attached f) (p : Packet) :
    Settled lib settled attached (f.chooseSlot lib p).2 ∧ (f.chooseSlot lib p).2.slots = settled ∧
      ∃ ms, (f.chooseSlot lib p).1 = (firstOccupied settled ms).1 := by
  obtain ⟨rfl, length, classifier⟩ := start
  unfold chooseSlot
  dsimp only
  by_cases symmetric : f.symmetric = true
  · rw [if_pos symmetric]
    by_cases unsorted : f.sortedMaxslot = -1 ∨ f.sortedMaxslot < f.width - 1
    · have sorted : f.table lib = lib.qsort f.slots := if_pos ⟨symmetric, unsorted⟩
      have same : (lib.qsort f.slots).length = f.slots.length := (lib.qsort_perm f.slots).length_eq
      have pos : 0 < f.slots.length := List.length_pos_iff.mpr f.some_slot
      simp only [if_pos unsorted, sorted]
      refine ⟨⟨if_neg ?_, rfl, classifier⟩, trivial, _, rfl⟩
      -- the index of the last slot is known now
      simp only [width, same]
      omega
    · have sorted : f.table lib = f.slots := if_neg fun h => unsorted h.2
      simp only [if_neg unsorted, sorted]
      exact ⟨⟨sorted, rfl, classifier⟩, trivial, _, rfl⟩
  · have unsorted : f.table lib = f.slots := if_neg fun h => symmetric h.1
    rw [if_neg symmetric, unsorted]
    split
    · exact ⟨⟨unsorted, rfl, classifier⟩, rfl, _, rfl⟩
    · exact ⟨⟨if_neg fun h => symmetric h.1, rfl, classifier⟩, rfl, _, rfl⟩

end Table

def ByHash (x : Offer) : Prop := f.destHashClassifier ≠ none ∧ x.udp = true ∧
  (x.packet.hdr.msgType = .grant ∨ x.packet.hdr.msgType = .request)

instance (x : Offer) : Decidable (f.ByHash x) := inferInstanceAs (Decidable (_ ∧ _))

def hashSlot (p : Packet) : ℕ := (crc32 0 (pathKey p)).toNat % f.width

section Route

variable {α : Type*} [LinearOrder α] [Zero α] [Sub α] [NatCast α] (lengths : Lengths α) (lib : CLibrary)
    (ports : Ports α)

/-- classify for a packet of any type: only UDP packets concern the attached classifier. -/
def route (x : Offer) : ℕ × MultiPathForwarder × Ports α × Bool :=
  if x.udp then f.classify lengths lib ports x.packet x.now x.byteLength
  else
    let (cl, f) := f.chooseSlot lib x.packet
    (cl, f, ports, false)

def routed (packets : List Offer) : MultiPathForwarder × Ports α :=
  packets.foldl (fun s x => let out := s.1.route lengths lib s.2 x; (out.2.1, out.2.2.1)) (f, ports)

theorem route_eq (x : Offer) : (f.route lengths lib ports x).2.1 = (f.chooseSlot lib x.packet).2 ∧
    (f.route lengths lib ports x).1 =
      if f.ByHash x then f.hashSlot x.packet else (f.chooseSlot lib x.packet).1 := by
  obtain ⟨width, same⟩ := f.width_chooseSlot lib x.packet
  unfold route ByHash
  split
  · next udp =>
    unfold classify
    dsimp only
    split
    · next nothing =>
      have unattached : f.destHashClassifier = none := same.symm.trans nothing
      exact ⟨rfl, (if_neg fun h => h.1 unattached).symm⟩
    · next c attached =>
      have some_classifier : f.destHashClassifier ≠ none := by
        rw [← same, attached]
        exact Option.some_ne_none c
      simp only [some_classifier, udp, ne_eq, not_false_eq_true, true_and, hashSlot, width]
      split <;> exact ⟨rfl, rfl⟩
  · next other => exact ⟨rfl, (if_neg fun h => other h.2.1).symm⟩

theorem route_settles {settled : List (Option NsObject)} {attached : Option DestHashClassifier}
    (start : Settled lib settled attached f) (x : Offer) :
    Settled lib settled attached (f.route lengths lib ports x).2.1 ∧ (f.route lengths lib ports x).2.1.slots =
    settled := by
  rw [(f.route_eq lengths lib ports x).1]
  obtain ⟨settles, slots, -⟩ := f.chooseSlot_settles lib start x.packet
  exact ⟨settles, slots⟩

theorem routed_settles (packets : List Offer) {settled : List (Option NsObject)} {attached : Option DestHashClassifier}
    (start : Settled lib settled attached f) : Settled lib settled attached (f.routed lengths lib ports packets).1 := by
  -- the slot of a flow is settled by its first packet, and later ones find it
  induction packets generalizing f ports with
  | nil => exact start
  | cons x packets ih => exact ih _ _ (f.route_settles lengths lib ports start x).1

end Route

/-- The GRANTs from one host to another with some seq, and the REQUEST packets the other way. -/
def Pair (a b : Addr) (seq : ℤ) (p : Packet) : Prop := p.hdr.seq = seq ∧
  ((p.hdr.msgType = .grant ∧ p.src = a ∧ p.dst = b) ∨ (p.hdr.msgType = .request ∧ p.src = b ∧ p.dst = a))

theorem Pair.pathKey {a b : Addr} {seq : ℤ} {p : Packet} (pair : Pair a b seq p) :
    pathKey p = intBytes a ++ intBytes b ++ intBytes seq := by
  obtain ⟨rfl, ⟨grant, rfl, rfl⟩ | ⟨request, rfl, rfl⟩⟩ := pair
  · exact if_neg (by rw [grant]; decide)
  · exact if_pos request

/-- While the table stays, whatever was routed before: the loops over its slots
end, and a packet goes to an installed slot unless the slot of its hash is a
hole; and with a classifier attached, the GRANTs of one direction and the
REQUEST packets of the other with one seq all go to one slot. -/
theorem forwards {α : Type*} [LinearOrder α] [Zero α] [Sub α] [NatCast α] (lengths : Lengths α) (lib : CLibrary)
    (ports : Ports α) (some_filled : ∃ slot, Filled f.slots slot) :
    (∀ (before : List Offer) (x : Offer),
      let g := f.routed lengths lib ports before
      let out := g.1.route lengths lib g.2 x
      (∀ start, Loop out.2.1.slots start start (firstOccupied out.2.1.slots start)) ∧
      (¬ (f.ByHash x ∧ ¬ Filled out.2.1.slots (f.hashSlot x.packet)) → Filled out.2.1.slots out.1)) ∧
    (f.destHashClassifier ≠ none → ∀ a b seq, ∃ slot obj, ∀ (before : List Offer) (x : Offer),
      let g := f.routed lengths lib ports before
      let out := g.1.route lengths lib g.2 x
      x.udp = true → Pair a b seq x.packet → out.1 = slot ∧ out.2.1.slots[slot]? = obj) := by
  have start := f.settled_start lib
  have width := (f.table_perm lib).length_eq
  have some_taken : ∃ slot, Filled (f.table lib) slot := by
    obtain ⟨slot, taken⟩ := some_filled
    obtain ⟨object, filled⟩ := Option.ne_none_iff_exists'.mp taken
    have inside : some object ∈ f.slots := List.mem_of_getElem? (Option.join_eq_some_iff.mp filled)
    obtain ⟨other, at_⟩ := List.getElem?_of_mem ((f.table_perm lib).mem_iff.mpr inside)
    exact ⟨other, by rw [Filled, at_]; exact Option.some_ne_none object⟩
  constructor
  · intro before x
    have settled := f.routed_settles lengths lib ports before start
    dsimp only
    generalize f.routed lengths lib ports before = g at settled ⊢
    have slots := (g.1.route_settles lengths lib g.2 settled x).2
    rw [slots]
    refine ⟨fun ms => (firstOccupied_loop _ ms some_taken).1, fun kept => ?_⟩
    rw [(g.1.route_eq lengths lib g.2 x).2]
    split
    · next hashed =>
      have byHash : f.ByHash x := ⟨settled.classifier ▸ hashed.1, hashed.2⟩
      have same : g.1.hashSlot x.packet = f.hashSlot x.packet := by
        rw [hashSlot, hashSlot, settled.length, width, MultiPathForwarder.width]
      rw [same]
      by_contra hole
      exact kept ⟨byHash, hole⟩
    · obtain ⟨-, -, ms, chosen⟩ := g.1.chooseSlot_settles lib settled x.packet
      rw [chosen]
      exact (firstOccupied_loop _ ms some_taken).2
  · intro attached a b seq
    let slot := (crc32 0 (intBytes a ++ intBytes b ++ intBytes seq)).toNat % f.width
    refine ⟨slot, (f.table lib)[slot]?, fun before x => ?_⟩
    have settled := f.routed_settles lengths lib ports before start
    dsimp only
    generalize f.routed lengths lib ports before = g at settled ⊢
    intro udp pair
    have slots := (g.1.route_settles lengths lib g.2 settled x).2
    have byHash : g.1.ByHash x := by
      refine ⟨settled.classifier ▸ attached, udp, ?_⟩
      rcases pair.2 with grant | request
      · exact Or.inl grant.1
      · exact Or.inr request.1
    rw [slots, (g.1.route_eq lengths lib g.2 x).2, if_pos byHash, hashSlot, pair.pathKey, settled.length, width]
    exact ⟨rfl, rfl⟩

/-- Two links with a classifier attached; the route by the first one is cleared. -/
def cleared : MultiPathForwarder where
  nodeid := 0
  nodetype := 0
  symmetric := false
  perflow := false
  checkpathid := false
  slots := [none, some ⟨1, some 1⟩]
  some_slot := by decide
  destHashClassifier := some .onePort

def spraying : MultiPathForwarder where
  nodeid := 0
  nodetype := 0
  symmetric := false
  perflow := false
  checkpathid := false
  slots := [some ⟨0, some 0⟩, some ⟨1, some 1⟩]
  some_slot := by decide

def offer (msgType : MsgType) (seq : ℤ) (src dst : Addr) : Offer where
  udp := true
  packet := { DestHashClassifier.frame msgType 0 with hdr := { msgType, seq }, src, dst }
  now := 0
  byteLength _ := 0

def plainLibrary : CLibrary := ⟨id, fun _ => .refl _, fun _ => 0⟩

theorem forwards_cleared : Filled cleared.slots (cleared.route whole plainLibrary .fresh (offer .reply 0 0 1)).1 :=
  ((cleared.forwards whole plainLibrary .fresh ⟨1, by decide⟩).1 [] (offer .reply 0 0 1)).2
    fun h => absurd h.1.2.2 (by decide)

/-- The hash leads to the cleared slot; and without a classifier, a GRANT and
its REQUEST packet go round. -/
theorem forwards_hole :
    (Filled cleared.slots 1 ∧ ¬ Filled cleared.slots
      (cleared.route whole plainLibrary .fresh (offer .request 0 0 1)).1) ∧
    (spraying.route whole plainLibrary .fresh (offer .grant 0 1 0)).1 = 0 ∧
    ((spraying.routed whole plainLibrary .fresh [offer .grant 0 1 0]).1.route whole plainLibrary .fresh
      (offer .request 0 0 1)).1 = 1 := by
  exact ⟨⟨by decide, by decide +kernel⟩, by decide +kernel, by decide +kernel⟩

end PhantomPass.Switch.MultiPathForwarder
