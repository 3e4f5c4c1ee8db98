import PhantomPass.Hybrid.Support

/-! update_sender_state: the windows of a receiver for one sender, adjusted with
every packet that the sender's congestion signals arrive on. -/

set_option autoImplicit false

namespace PhantomPass

namespace Window

/-- The counters of a window once a packet has arrived, its burst flag, and
whether the window may grow. -/
def count (cfg : Config) (marked : Bool) (w : Window) : Window × Bool :=
  let w := { w with
    pktsSinceLastWndUpdate := w.pktsSinceLastWndUpdate + 1
    pktsMarkedSinceLastRatioUpdate := w.pktsMarkedSinceLastRatioUpdate + if marked then 1 else 0 }
  -- without ECN there is no increase
  if cfg.ecnCapable = 0 then (w, false)
  else
    -- the flag is brought up to date before the increase depends on it
    let burst := if !w.ecnBurst && marked then true else if w.ecnBurst && !marked then false else w.ecnBurst
    ({ w with ecnBurst := burst }, !marked || burst)

/-- The ratio of marked packets, averaged at the end of its interval. -/
def average (cfg : Config) (updateRatios : Bool) (pktsSince : ℕ) (w : Window) : Window :=
  if updateRatios then
    let ratio : ℚ := w.pktsMarkedSinceLastRatioUpdate / pktsSince
    { w with
      markedRatio := (1 - cfg.ceNewWeight) * w.markedRatio + cfg.ceNewWeight * ratio
      pktsMarkedSinceLastRatioUpdate := 0 }
  else w

/-- Additive increase with a packet that is not marked or opens a burst, at most
one multiplicative decrease for a window of data. -/
def adjust (cfg : Config) (minSrpb maxSrpbBytes : ℤ) (marked shouldAi : Bool) (w : Window) : Window :=
  let up : ℚ :=
    if shouldAi then
      (cfg.additiveIncrMul : ℚ) * ((maxEthernetFrameOnWire * maxEthernetFrameOnWire : ℕ) : ℤ).tdiv maxSrpbBytes
    else 0
  let reduce := marked && decide (w.pktsAtNextWndUpdate ≤ w.pktsSinceLastWndUpdate)
  let change := if reduce then up - w.maxSrpbBytes * w.markedRatio / 2 else up
  let w :=
    if reduce then { w with
      pktsSinceLastWndUpdate := 0
      pktsAtNextWndUpdate := toUInt32 (truncInt (3 / 2 * (maxSrpbBytes : ℚ) / maxEthernetFrameOnWire)) }
    else w
  { w with maxSrpbBytes := min (max minSrpb (truncInt (w.maxSrpbBytes + change))) cfg.maxSrpb }

/-- The body that update_nw_state and the ECN part of update_sn_state share. -/
def update (site : Site) (cfg : Config) (minSrpb maxSrpbBytes : ℤ) (marked updateRatios : Bool)
    (pktsSince : ℕ) (w : Window) : Checked Window := do
  let (w, shouldAi) := count cfg marked w
  let w := average cfg updateRatios pktsSince w
  if shouldAi ∧ maxSrpbBytes = 0 then throw (.undefined site "division by max_srpb_bytes_")
  return adjust cfg minSrpb maxSrpbBytes marked shouldAi w

end Window

namespace SenderState

variable (cfg : Config) (p : Packet) (stamp : Stamp) (st : SenderState)

def updateRatios : Bool := st.pktsSinceLastRatioUpdate == st.pktsAtNextRatioUpdate

def updateNwState : Checked SenderState := do
  let marked := decide (cfg.ecnCapable ≠ 0) && p.ect && stamp.ce
  let nw ← st.nw.update .updateNwState cfg cfg.nwMinSrpb st.maxSrpbBytes marked st.updateRatios
    st.pktsSinceLastRatioUpdate
  return { st with nw }

/-- The multi-bit window: the utilisation of the sender's link, averaged over a
round trip, against its target. -/
def updateMultiBit : Checked SenderState := do
  let txRate := stamp.txRateBps
  let dt := stamp.dt
  assert .updateSnState "tx_rate > 0.0" (0 < txRate)
  assert .updateSnState "tx_rate * 8.0 / 1000000000.0 <= 1.1 * link_speed_gbps_"
    (txRate * 8 / 1000000000 ≤ 11 / 10 * cfg.linkSpeedGbps)
  assert .updateSnState "dt > 0.0" (0 < dt)
  let qlen := min st.prevQlen p.hdr.qlen
  let bwBps := p.hdr.B / 8 * 1000 * 1000 * 1000
  let bdp := bwBps * cfg.rttS
  let uNew := qlen / bdp + txRate / bwBps
  let tau := min dt cfg.rttS
  let u := (1 - tau / cfg.rttS) * st.prevU + tau / cfg.rttS * uNew
  let full := decide (cfg.eta ≤ u) || decide (cfg.maxStage ≤ st.incStage)
  let newSrpb := if full then st.Wc / (u / cfg.eta) + cfg.wai else st.Wc + cfg.wai
  let newSrpb := min newSrpb cfg.maxSrpb
  return { st with
    prevQlen := p.hdr.qlen
    prevU := u
    -- the window before this packet is the new reference
    Wc := if st.updateRatios then (st.host.maxSrpbBytes : ℚ) else st.Wc
    incStage := if st.updateRatios then (if full then 0 else st.incStage + 1) else st.incStage
    host := { st.host with maxSrpbBytes := min (max cfg.hostMinSrpb (truncInt newSrpb)) cfg.maxSrpb } }

def updateSnState : Checked SenderState :=
  if cfg.senderAlgo = 0 ∨ cfg.senderAlgo = 1 ∨ cfg.senderAlgo = 2 ∨ cfg.senderAlgo = 3 then do
    let marked := decide (cfg.ecnCapable ≠ 0) && p.ect && p.hdr.senderMarked
    let host ← st.host.update .updateSnState cfg cfg.hostMinSrpb st.maxSrpbBytes marked st.updateRatios
      st.pktsSinceLastRatioUpdate
    -- these two update the window and then give up
    if cfg.senderAlgo = 2 ∨ cfg.senderAlgo = 3 then throw (.thrown .updateSnState "Correcntess not checked")
    return { st with host }
  else if cfg.senderAlgo = 100 ∨ cfg.senderAlgo = 101 then st.updateMultiBit cfg p stamp
  else throw (.thrown .updateSnState "Unsupported sender algorithm")

/-- update_sender_state on the state of the packet's sender. -/
def update : Checked SenderState := do
  let st := { st with pktsSinceLastRatioUpdate := st.pktsSinceLastRatioUpdate + 1 }
  let updateRatios := st.updateRatios
  let st ← st.updateNwState cfg p stamp
  let st ← st.updateSnState cfg p stamp
  let maxSrpbBytes := min st.nw.maxSrpbBytes st.host.maxSrpbBytes
  let maxSrpbBytes :=
    if cfg.priorityFlow && p.hdr.priorityFlow && p.hdr.msgType == .request then st.srpbCeiling else maxSrpbBytes
  let st := { st with maxSrpbBytes }
  return if updateRatios then
    { st with
      pktsSinceLastRatioUpdate := 0
      pktsAtNextRatioUpdate := toUInt32 (truncInt ((maxSrpbBytes : ℚ) / maxEthernetFrameOnWire)) }
  else st

end SenderState

end PhantomPass
