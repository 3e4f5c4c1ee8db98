import PhantomPass.Tofino.Egress

/-! The whole pipeline of the Tofino program: parse, forward, recompute the
IPv4 checksum, put the headers back, and the same once more at egress. -/

set_option autoImplicit false

namespace PhantomPass.Tofino

open Lib (Byte)
open Lib.OnesSum

/-- The action forward, on the headers. A write to a header that is not valid
is lost. -/
def forward (ingressPort : BitVec 9) (hdr : HeadersT) : HeadersT :=
  { hdr with
    ipv4 := hdr.ipv4.map fun h => { h with ttl := h.ttl - 1 }
    ppass := hdr.ppass.map fun h => { h with ingressPort := ingressPort.setWidth 16 } }

/-- The apply block of Ingress with the entries of table_forward: the headers
and the egress port, nothing when the packet is dropped or gets no port. -/
def ingress (tableForward : BitVec 32 → Option (BitVec 9)) (ingressPort : BitVec 9) (hdr : HeadersT) :
    Option (HeadersT × BitVec 9) := do
  let ipv4 ← hdr.ipv4
  let port ← tableForward ipv4.dstAddr
  pure (forward ingressPort hdr, port)

def checksumFields (h : Ipv4H) : List Byte :=
  [h.version ++ h.ihl, h.diffserv] ++ halves h.totalLen ++ halves h.identification ++
    halves (h.flags ++ h.fragOffset) ++ [h.ttl, h.protocol] ++ quarters h.srcAddr ++ quarters h.dstAddr

def ipv4Checksum (h : Ipv4H) : BitVec 16 := BitVec.ofNat 16 (complement (words (checksumFields h)))

/-- What IngressDeparser does to the headers before it emits them. -/
def ingressDeparser (hdr : HeadersT) : HeadersT :=
  { hdr with ipv4 := hdr.ipv4.map fun h => { h with hdrChecksum := ipv4Checksum h } }

structure Meta where
  ingressPort : BitVec 9
  deqQdepth : BitVec 19
  globalTstamp : BitVec 48
  noCell : BitVec 32

def Meta.arrival (md : Meta) (hdr : HeadersT) (egressPort : BitVec 9) : WordArrival :=
  ⟨hdr, ⟨egressPort, md.deqQdepth, md.globalTstamp, md.noCell⟩⟩

/-- A frame through the pipeline: the registers and the frame that goes out,
nothing when it is dropped. -/
def pipe (tableForward : BitVec 32 → Option (BitVec 9)) (regs : WordRegisters) (md : Meta) (frame : List Byte) :
    Option (WordRegisters × List Byte) := do
  let (hdr, payload) ← etherIPTCPUDPParser frame
  let (hdr, egressPort) ← ingress tableForward md.ingressPort hdr
  -- egress parses what ingress has emitted
  let (hdr, payload) ← etherIPTCPUDPParser ((ingressDeparser hdr).emit ++ payload)
  let (regs, hdr) := bits.egress regs (md.arrival hdr egressPort)
  pure (regs, hdr.emit ++ payload)

/-- Headers as the parser leaves them: a header is there if the one before
says so. -/
def HeadersT.Parsed (hdr : HeadersT) : Prop :=
  match hdr.ipv4 with
  | none => hdr.ethernet.etherType ≠ ETHERTYPE_IPV4 ∧ hdr.tcp = none ∧ hdr.udp = none ∧ hdr.ppass = none
  | some ipv4 => hdr.ethernet.etherType = ETHERTYPE_IPV4 ∧
      (hdr.tcp.isSome ↔ ipv4.protocol = IP_PROTOCOLS_TCP) ∧ (hdr.udp.isSome ↔ ipv4.protocol = IP_PROTOCOLS_UDP) ∧
      (hdr.ppass.isSome ↔ ∃ udp, hdr.udp = some udp ∧ udp.dstPort = PPASS_PORT)

theorem parser_eq_some {frame payload : List Byte} {hdr : HeadersT} :
    etherIPTCPUDPParser frame = some (hdr, payload) ↔ hdr.Parsed ∧ frame = hdr.emit ++ payload := by
  constructor
  · intro parsed
    unfold etherIPTCPUDPParser at parsed
    simp only [Option.bind_eq_bind, Option.bind_eq_some_iff, Prod.exists, EthernetH.extract_eq_some] at parsed
    obtain ⟨ethernet, pkt, rfl, parsed⟩ := parsed
    split at parsed
    · next isIpv4 =>
      simp only [parseIpv4, Option.bind_eq_bind, Option.bind_eq_some_iff, Prod.exists,
        Ipv4H.extract_eq_some] at parsed
      obtain ⟨ipv4, pkt, rfl, parsed⟩ := parsed
      split at parsed
      · next isTcp =>
        simp only [Option.bind_eq_some_iff, Prod.exists, TcpH.extract_eq_some, Option.pure_def,
          Option.some.injEq, Prod.mk.injEq] at parsed
        obtain ⟨tcp, pkt, rfl, rfl, rfl⟩ := parsed
        refine ⟨⟨isIpv4, by simp [isTcp], ?_, by simp⟩, by simp [HeadersT.emit]⟩
        simp [isTcp, IP_PROTOCOLS_TCP, IP_PROTOCOLS_UDP]
      · next notTcp =>
        split at parsed
        · next isUdp =>
          simp only [parseUdp, Option.bind_eq_bind, Option.bind_eq_some_iff, Prod.exists,
            UdpH.extract_eq_some] at parsed
          obtain ⟨udp, pkt, rfl, parsed⟩ := parsed
          split at parsed
          · next isPpass =>
            simp only [Option.bind_eq_some_iff, Prod.exists, PpassH.extract_eq_some, Option.pure_def,
              Option.some.injEq, Prod.mk.injEq] at parsed
            obtain ⟨ppass, pkt, rfl, rfl, rfl⟩ := parsed
            exact ⟨⟨isIpv4, by simp [notTcp], by simp [isUdp], by simp [isPpass]⟩, by simp [HeadersT.emit]⟩
          · next notPpass =>
            simp only [Option.pure_def, Option.some.injEq, Prod.mk.injEq] at parsed
            obtain ⟨rfl, rfl⟩ := parsed
            exact ⟨⟨isIpv4, by simp [notTcp], by simp [isUdp], by simp [notPpass]⟩, by simp [HeadersT.emit]⟩
        · next notUdp =>
          simp only [Option.pure_def, Option.some.injEq, Prod.mk.injEq] at parsed
          obtain ⟨rfl, rfl⟩ := parsed
          exact ⟨⟨isIpv4, by simp [notTcp], by simp [notUdp], by simp⟩, by simp [HeadersT.emit]⟩
    · next notIpv4 =>
      simp only [Option.pure_def, Option.some.injEq, Prod.mk.injEq] at parsed
      obtain ⟨rfl, rfl⟩ := parsed
      exact ⟨⟨notIpv4, rfl, rfl, rfl⟩, by simp [HeadersT.emit]⟩
  · rintro ⟨parsed, rfl⟩
    obtain ⟨ethernet, ipv4, tcp, udp, ppass⟩ := hdr
    cases ipv4 with
    | none =>
      obtain ⟨notIpv4, rfl, rfl, rfl⟩ := parsed
      simp_all [etherIPTCPUDPParser, HeadersT.emit]
    | some ipv4 =>
      obtain ⟨isIpv4, isTcp, isUdp, isPpass⟩ := parsed
      dsimp only at isIpv4 isTcp isUdp isPpass
      have distinct : IP_PROTOCOLS_TCP ≠ IP_PROTOCOLS_UDP := by decide
      cases tcp with
      | some tcp =>
        have protocol := isTcp.mp rfl
        cases udp with
        | some udp => exact absurd (protocol.symm.trans (isUdp.mp rfl)) distinct
        | none =>
          cases ppass with
          | some ppass => simp at isPpass
          | none => simp [etherIPTCPUDPParser, parseIpv4, HeadersT.emit, isIpv4, protocol]
      | none =>
        have notTcp : ipv4.protocol ≠ IP_PROTOCOLS_TCP := fun is => by simp [is] at isTcp
        cases udp with
        | none =>
          have notUdp : ipv4.protocol ≠ IP_PROTOCOLS_UDP := fun is => by simp [is] at isUdp
          cases ppass with
          | some ppass => simp at isPpass
          | none => simp [etherIPTCPUDPParser, parseIpv4, HeadersT.emit, isIpv4, notTcp, notUdp]
        | some udp =>
          have protocol := isUdp.mp rfl
          have notTcp' : IP_PROTOCOLS_UDP ≠ IP_PROTOCOLS_TCP := distinct.symm
          cases ppass with
          | none =>
            have other : udp.dstPort ≠ PPASS_PORT := fun is => by simp [is] at isPpass
            simp [etherIPTCPUDPParser, parseIpv4, parseUdp, HeadersT.emit, isIpv4, protocol, notTcp', other]
          | some ppass =>
            obtain ⟨_, same, port⟩ := isPpass.mp rfl
            cases same
            simp [etherIPTCPUDPParser, parseIpv4, parseUdp, HeadersT.emit, isIpv4, protocol, notTcp', port]

theorem parser_succeeds (frame : List Byte) (long : 54 ≤ frame.length) :
    ∃ hdr payload, etherIPTCPUDPParser frame = some (hdr, payload) := by
  obtain ⟨ethernet, pkt, taken⟩ := EthernetH.extract_succeeds frame (by omega)
  obtain rfl := EthernetH.extract_eq_some.mp taken
  simp only [List.length_append, EthernetH.emit_length] at long
  simp only [etherIPTCPUDPParser, Option.bind_eq_bind, EthernetH.extract_emit, Option.bind_some]
  split
  · obtain ⟨ipv4, pkt, taken⟩ := Ipv4H.extract_succeeds pkt (by omega)
    obtain rfl := Ipv4H.extract_eq_some.mp taken
    simp only [List.length_append, Ipv4H.emit_length] at long
    simp only [parseIpv4, Option.bind_eq_bind, Ipv4H.extract_emit, Option.bind_some]
    split
    · obtain ⟨tcp, pkt, taken⟩ := TcpH.extract_succeeds pkt (by omega)
      exact ⟨_, _, by rw [taken]; rfl⟩
    · split
      · obtain ⟨udp, pkt, taken⟩ := UdpH.extract_succeeds pkt (by omega)
        obtain rfl := UdpH.extract_eq_some.mp taken
        simp only [List.length_append, UdpH.emit_length] at long
        simp only [parseUdp, Option.bind_eq_bind, UdpH.extract_emit, Option.bind_some]
        split
        · obtain ⟨ppass, pkt, taken⟩ := PpassH.extract_succeeds pkt (by omega)
          exact ⟨_, _, by rw [taken]; rfl⟩
        · exact ⟨_, _, rfl⟩
      · exact ⟨_, _, rfl⟩
  · exact ⟨_, _, rfl⟩

end PhantomPass.Tofino
