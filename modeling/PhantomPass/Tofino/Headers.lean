import PhantomPass.Lib.OnesSum

/-! The headers of the Tofino program: how its parser takes them off a frame
of bytes and its deparsers put them back, which gives the same bytes. -/

set_option autoImplicit false

namespace PhantomPass.Tofino

open Lib (Byte)

def PTHR : BitVec 24 := 162500
def kPTHR : BitVec 24 := 1625000
def RHO_LINE_RATE : BitVec 2 := 2
def IsEMPTY_THRESHOLD : BitVec 19 := 37
def PPASS_PORT : BitVec 16 := 9001
def IP_PROTOCOLS_TCP : BitVec 8 := 6
def IP_PROTOCOLS_UDP : BitVec 8 := 17
def ETHERTYPE_IPV4 : BitVec 16 := 0x0800

def halves (w : BitVec 16) : List Byte := [w.extractLsb' 8 8, w.extractLsb' 0 8]

def quarters (w : BitVec 32) : List Byte :=
  [w.extractLsb' 24 8, w.extractLsb' 16 8, w.extractLsb' 8 8, w.extractLsb' 0 8]

def sixths (w : BitVec 48) : List Byte :=
  [w.extractLsb' 40 8, w.extractLsb' 32 8, w.extractLsb' 24 8, w.extractLsb' 16 8, w.extractLsb' 8 8,
    w.extractLsb' 0 8]

structure EthernetH where
  dstAddr : BitVec 48
  srcAddr : BitVec 48
  etherType : BitVec 16
  deriving DecidableEq

structure Ipv4H where
  version : BitVec 4
  ihl : BitVec 4
  diffserv : BitVec 8
  totalLen : BitVec 16
  identification : BitVec 16
  flags : BitVec 3
  fragOffset : BitVec 13
  ttl : BitVec 8
  protocol : BitVec 8
  hdrChecksum : BitVec 16
  srcAddr : BitVec 32
  dstAddr : BitVec 32
  deriving DecidableEq

structure TcpH where
  srcPort : BitVec 16
  dstPort : BitVec 16
  seqNo : BitVec 32
  ackNo : BitVec 32
  dataOffset : BitVec 4
  res : BitVec 4
  flags : BitVec 8
  window : BitVec 16
  checksum : BitVec 16
  urgentPtr : BitVec 16
  deriving DecidableEq

structure UdpH where
  srcPort : BitVec 16
  dstPort : BitVec 16
  hdrLength : BitVec 16
  checksum : BitVec 16
  deriving DecidableEq

/-- msg_type 0 is a credit request, 1 a credit, 2 a request and 3 a reply. -/
structure PpassH where
  msgType : BitVec 8
  hostMarked : BitVec 4
  nwMarked : BitVec 4
  creditReq : BitVec 32
  credit : BitVec 32
  ingressPort : BitVec 16
  deriving DecidableEq

/-- headers_t; a header that is not there is not valid. -/
structure HeadersT where
  ethernet : EthernetH
  ipv4 : Option Ipv4H := none
  tcp : Option TcpH := none
  udp : Option UdpH := none
  ppass : Option PpassH := none
  deriving DecidableEq

namespace EthernetH

def emit (h : EthernetH) : List Byte := sixths h.dstAddr ++ sixths h.srcAddr ++ halves h.etherType

def extract (pkt : List Byte) : Option (EthernetH × List Byte) :=
  match pkt with
  | d₀ :: d₁ :: d₂ :: d₃ :: d₄ :: d₅ :: s₀ :: s₁ :: s₂ :: s₃ :: s₄ :: s₅ :: t₀ :: t₁ :: rest =>
    some (⟨d₀ ++ d₁ ++ d₂ ++ d₃ ++ d₄ ++ d₅, s₀ ++ s₁ ++ s₂ ++ s₃ ++ s₄ ++ s₅, t₀ ++ t₁⟩, rest)
  | _ => none

end EthernetH

namespace Ipv4H

def emit (h : Ipv4H) : List Byte :=
  [h.version ++ h.ihl, h.diffserv] ++ halves h.totalLen ++ halves h.identification ++
    halves (h.flags ++ h.fragOffset) ++ [h.ttl, h.protocol] ++ halves h.hdrChecksum ++
    quarters h.srcAddr ++ quarters h.dstAddr

def extract (pkt : List Byte) : Option (Ipv4H × List Byte) :=
  match pkt with
  | vi :: ds :: l₀ :: l₁ :: i₀ :: i₁ :: f₀ :: f₁ :: ttl :: pr :: c₀ :: c₁ ::
      s₀ :: s₁ :: s₂ :: s₃ :: d₀ :: d₁ :: d₂ :: d₃ :: rest =>
    some ({
      version := vi.extractLsb' 4 4
      ihl := vi.extractLsb' 0 4
      diffserv := ds
      totalLen := l₀ ++ l₁
      identification := i₀ ++ i₁
      flags := (f₀ ++ f₁).extractLsb' 13 3
      fragOffset := (f₀ ++ f₁).extractLsb' 0 13
      ttl := ttl
      protocol := pr
      hdrChecksum := c₀ ++ c₁
      srcAddr := s₀ ++ s₁ ++ s₂ ++ s₃
      dstAddr := d₀ ++ d₁ ++ d₂ ++ d₃ }, rest)
  | _ => none

end Ipv4H

namespace TcpH

def emit (h : TcpH) : List Byte :=
  halves h.srcPort ++ halves h.dstPort ++ quarters h.seqNo ++ quarters h.ackNo ++
    [h.dataOffset ++ h.res, h.flags] ++ halves h.window ++ halves h.checksum ++ halves h.urgentPtr

def extract (pkt : List Byte) : Option (TcpH × List Byte) :=
  match pkt with
  | s₀ :: s₁ :: d₀ :: d₁ :: n₀ :: n₁ :: n₂ :: n₃ :: a₀ :: a₁ :: a₂ :: a₃ :: od :: fl ::
      w₀ :: w₁ :: c₀ :: c₁ :: u₀ :: u₁ :: rest =>
    some ({
      srcPort := s₀ ++ s₁
      dstPort := d₀ ++ d₁
      seqNo := n₀ ++ n₁ ++ n₂ ++ n₃
      ackNo := a₀ ++ a₁ ++ a₂ ++ a₃
      dataOffset := od.extractLsb' 4 4
      res := od.extractLsb' 0 4
      flags := fl
      window := w₀ ++ w₁
      checksum := c₀ ++ c₁
      urgentPtr := u₀ ++ u₁ }, rest)
  | _ => none

end TcpH

namespace UdpH

def emit (h : UdpH) : List Byte := halves h.srcPort ++ halves h.dstPort ++ halves h.hdrLength ++ halves h.checksum

def extract (pkt : List Byte) : Option (UdpH × List Byte) :=
  match pkt with
  | s₀ :: s₁ :: d₀ :: d₁ :: l₀ :: l₁ :: c₀ :: c₁ :: rest =>
    some (⟨s₀ ++ s₁, d₀ ++ d₁, l₀ ++ l₁, c₀ ++ c₁⟩, rest)
  | _ => none

end UdpH

namespace PpassH

def emit (h : PpassH) : List Byte :=
  [h.msgType, h.hostMarked ++ h.nwMarked] ++ quarters h.creditReq ++ quarters h.credit ++ halves h.ingressPort

def extract (pkt : List Byte) : Option (PpassH × List Byte) :=
  match pkt with
  | ty :: hn :: r₀ :: r₁ :: r₂ :: r₃ :: c₀ :: c₁ :: c₂ :: c₃ :: p₀ :: p₁ :: rest =>
    some (⟨ty, hn.extractLsb' 4 4, hn.extractLsb' 0 4, r₀ ++ r₁ ++ r₂ ++ r₃, c₀ ++ c₁ ++ c₂ ++ c₃, p₀ ++ p₁⟩, rest)
  | _ => none

end PpassH

/-- pkt.emit(hdr): the valid headers, in the order of headers_t. -/
def HeadersT.emit (hdr : HeadersT) : List Byte :=
  hdr.ethernet.emit ++ (hdr.ipv4.map Ipv4H.emit).getD [] ++ (hdr.tcp.map TcpH.emit).getD [] ++
    (hdr.udp.map UdpH.emit).getD [] ++ (hdr.ppass.map PpassH.emit).getD []

/-- parse_udp, with parse_ppass behind it. -/
def parseUdp (hdr : HeadersT) (pkt : List Byte) : Option (HeadersT × List Byte) := do
  let (udp, pkt) ← UdpH.extract pkt
  if udp.dstPort = PPASS_PORT then
    let (ppass, pkt) ← PpassH.extract pkt
    pure ({ hdr with udp := some udp, ppass := some ppass }, pkt)
  else pure ({ hdr with udp := some udp }, pkt)

/-- parse_ipv4, with parse_tcp and parse_udp behind it. -/
def parseIpv4 (hdr : HeadersT) (pkt : List Byte) : Option (HeadersT × List Byte) := do
  let (ipv4, pkt) ← Ipv4H.extract pkt
  let hdr := { hdr with ipv4 := some ipv4 }
  if ipv4.protocol = IP_PROTOCOLS_TCP then
    let (tcp, pkt) ← TcpH.extract pkt
    pure ({ hdr with tcp := some tcp }, pkt)
  else if ipv4.protocol = IP_PROTOCOLS_UDP then parseUdp hdr pkt
  else pure (hdr, pkt)

/-- EtherIPTCPUDPParser: the headers and what follows them; nothing when the
frame ends inside a header. -/
def etherIPTCPUDPParser (pkt : List Byte) : Option (HeadersT × List Byte) := do
  let (ethernet, pkt) ← EthernetH.extract pkt
  if ethernet.etherType = ETHERTYPE_IPV4 then parseIpv4 { ethernet } pkt
  else pure ({ ethernet }, pkt)

@[simp] theorem halves_append (a b : Byte) : halves (a ++ b) = [a, b] := by
  simp only [halves, List.cons.injEq, and_true]
  constructor <;> grind

@[simp] theorem low_byte (a b : Byte) : (a ++ b : BitVec 16).extractLsb' 0 8 = b :=
  BitVec.extractLsb'_append_eq_right

@[simp] theorem quarters_append (a b c d : Byte) : quarters (a ++ b ++ c ++ d) = [a, b, c, d] := by
  simp only [quarters, List.cons.injEq, and_true]
  refine ⟨?_, ?_, ?_, ?_⟩ <;> grind

@[simp] theorem sixths_append (a b c d e f : Byte) :
    sixths (a ++ b ++ c ++ d ++ e ++ f) = [a, b, c, d, e, f] := by
  simp only [sixths, List.cons.injEq, and_true]
  refine ⟨?_, ?_, ?_, ?_, ?_, ?_⟩ <;> grind

theorem parts_append {w : ℕ} (x : BitVec w) (start high low : ℕ) :
    x.extractLsb' (start + low) high ++ x.extractLsb' start low = x.extractLsb' start (high + low) := by
  exact BitVec.extractLsb'_append_extractLsb'_eq_extractLsb' (by omega)

@[simp] theorem append_halves (w : BitVec 16) : (w.extractLsb' 8 8 ++ w.extractLsb' 0 8 : BitVec 16) = w :=
  (parts_append w 0 8 8).trans BitVec.extractLsb'_eq_self

@[simp] theorem append_quarters (w : BitVec 32) :
    (w.extractLsb' 24 8 ++ w.extractLsb' 16 8 ++ w.extractLsb' 8 8 ++ w.extractLsb' 0 8 : BitVec 32) = w := by
  grind

@[simp] theorem append_sixths (w : BitVec 48) :
    (w.extractLsb' 40 8 ++ w.extractLsb' 32 8 ++ w.extractLsb' 24 8 ++ w.extractLsb' 16 8 ++
      w.extractLsb' 8 8 ++ w.extractLsb' 0 8 : BitVec 48) = w := by
  grind

@[simp] theorem append_nibbles (b : Byte) : (b.extractLsb' 4 4 ++ b.extractLsb' 0 4 : BitVec 8) = b :=
  (parts_append b 0 4 4).trans BitVec.extractLsb'_eq_self

@[simp] theorem append_flags (w : BitVec 16) : (w.extractLsb' 13 3 ++ w.extractLsb' 0 13 : BitVec 16) = w :=
  (parts_append w 0 3 13).trans BitVec.extractLsb'_eq_self

@[simp] theorem high_nibble (a b : BitVec 4) : (a ++ b : BitVec 8).extractLsb' 4 4 = a :=
  BitVec.extractLsb'_append_eq_left

@[simp] theorem low_nibble (a b : BitVec 4) : (a ++ b : BitVec 8).extractLsb' 0 4 = b :=
  BitVec.extractLsb'_append_eq_right

@[simp] theorem high_flags (a : BitVec 3) (b : BitVec 13) : (a ++ b : BitVec 16).extractLsb' 13 3 = a :=
  BitVec.extractLsb'_append_eq_left

@[simp] theorem low_flags (a : BitVec 3) (b : BitVec 13) : (a ++ b : BitVec 16).extractLsb' 0 13 = b :=
  BitVec.extractLsb'_append_eq_right

/-- Taking a header off a frame leaves what followed it, and putting it back
gives the frame again. -/
theorem EthernetH.extract_eq_some {pkt rest : List Byte} {h : EthernetH} :
    EthernetH.extract pkt = some (h, rest) ↔ pkt = h.emit ++ rest := by
  constructor
  · intro taken
    unfold EthernetH.extract at taken
    split at taken
    · simp only [Option.some.injEq, Prod.mk.injEq] at taken
      obtain ⟨rfl, rfl⟩ := taken
      simp [EthernetH.emit]
    · cases taken
  · rintro rfl
    simp [EthernetH.extract, EthernetH.emit, sixths, halves]

theorem Ipv4H.extract_eq_some {pkt rest : List Byte} {h : Ipv4H} :
    Ipv4H.extract pkt = some (h, rest) ↔ pkt = h.emit ++ rest := by
  constructor
  · intro taken
    unfold Ipv4H.extract at taken
    split at taken
    · simp only [Option.some.injEq, Prod.mk.injEq] at taken
      obtain ⟨rfl, rfl⟩ := taken
      simp [Ipv4H.emit]
    · cases taken
  · rintro rfl
    simp [Ipv4H.extract, Ipv4H.emit, quarters, halves]

theorem TcpH.extract_eq_some {pkt rest : List Byte} {h : TcpH} :
    TcpH.extract pkt = some (h, rest) ↔ pkt = h.emit ++ rest := by
  constructor
  · intro taken
    unfold TcpH.extract at taken
    split at taken
    · simp only [Option.some.injEq, Prod.mk.injEq] at taken
      obtain ⟨rfl, rfl⟩ := taken
      simp [TcpH.emit]
    · cases taken
  · rintro rfl
    simp [TcpH.extract, TcpH.emit, quarters, halves]

theorem UdpH.extract_eq_some {pkt rest : List Byte} {h : UdpH} :
    UdpH.extract pkt = some (h, rest) ↔ pkt = h.emit ++ rest := by
  constructor
  · intro taken
    unfold UdpH.extract at taken
    split at taken
    · simp only [Option.some.injEq, Prod.mk.injEq] at taken
      obtain ⟨rfl, rfl⟩ := taken
      simp [UdpH.emit]
    · cases taken
  · rintro rfl
    simp [UdpH.extract, UdpH.emit, halves]

theorem PpassH.extract_eq_some {pkt rest : List Byte} {h : PpassH} :
    PpassH.extract pkt = some (h, rest) ↔ pkt = h.emit ++ rest := by
  constructor
  · intro taken
    unfold PpassH.extract at taken
    split at taken
    · simp only [Option.some.injEq, Prod.mk.injEq] at taken
      obtain ⟨rfl, rfl⟩ := taken
      simp [PpassH.emit]
    · cases taken
  · rintro rfl
    simp [PpassH.extract, PpassH.emit, quarters, halves]

@[simp] theorem EthernetH.extract_emit (h : EthernetH) (rest : List Byte) :
    EthernetH.extract (h.emit ++ rest) = some (h, rest) := EthernetH.extract_eq_some.mpr rfl

@[simp] theorem Ipv4H.extract_emit (h : Ipv4H) (rest : List Byte) :
    Ipv4H.extract (h.emit ++ rest) = some (h, rest) := Ipv4H.extract_eq_some.mpr rfl

@[simp] theorem TcpH.extract_emit (h : TcpH) (rest : List Byte) :
    TcpH.extract (h.emit ++ rest) = some (h, rest) := TcpH.extract_eq_some.mpr rfl

@[simp] theorem UdpH.extract_emit (h : UdpH) (rest : List Byte) :
    UdpH.extract (h.emit ++ rest) = some (h, rest) := UdpH.extract_eq_some.mpr rfl

@[simp] theorem PpassH.extract_emit (h : PpassH) (rest : List Byte) :
    PpassH.extract (h.emit ++ rest) = some (h, rest) := PpassH.extract_eq_some.mpr rfl

theorem EthernetH.extract_succeeds (pkt : List Byte) (long : 14 ≤ pkt.length) :
    ∃ h rest, EthernetH.extract pkt = some (h, rest) := by
  iterate 14 (rcases pkt with _ | ⟨b, pkt⟩; · simp at long)
  exact ⟨_, _, rfl⟩

theorem Ipv4H.extract_succeeds (pkt : List Byte) (long : 20 ≤ pkt.length) :
    ∃ h rest, Ipv4H.extract pkt = some (h, rest) := by
  iterate 20 (rcases pkt with _ | ⟨b, pkt⟩; · simp at long)
  exact ⟨_, _, rfl⟩

theorem TcpH.extract_succeeds (pkt : List Byte) (long : 20 ≤ pkt.length) :
    ∃ h rest, TcpH.extract pkt = some (h, rest) := by
  iterate 20 (rcases pkt with _ | ⟨b, pkt⟩; · simp at long)
  exact ⟨_, _, rfl⟩

theorem UdpH.extract_succeeds (pkt : List Byte) (long : 8 ≤ pkt.length) :
    ∃ h rest, UdpH.extract pkt = some (h, rest) := by
  iterate 8 (rcases pkt with _ | ⟨b, pkt⟩; · simp at long)
  exact ⟨_, _, rfl⟩

theorem PpassH.extract_succeeds (pkt : List Byte) (long : 12 ≤ pkt.length) :
    ∃ h rest, PpassH.extract pkt = some (h, rest) := by
  iterate 12 (rcases pkt with _ | ⟨b, pkt⟩; · simp at long)
  exact ⟨_, _, rfl⟩

@[simp] theorem EthernetH.emit_length (h : EthernetH) : h.emit.length = 14 := rfl

@[simp] theorem Ipv4H.emit_length (h : Ipv4H) : h.emit.length = 20 := rfl

@[simp] theorem UdpH.emit_length (h : UdpH) : h.emit.length = 8 := rfl

end PhantomPass.Tofino
