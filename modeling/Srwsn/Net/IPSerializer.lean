import Srwsn.Net.TCPIPchecksum

/-! IP headers as bytes, and back. -/
namespace Srwsn.IPSerializer

structure IPDatagram (Packet : Type) where
  version : ℕ
  srcAddress : UInt32
  destAddress : UInt32
  transportProtocol : ℕ
  timeToLive : ℕ
  identification : ℕ
  moreFragments : Bool
  dontFragment : Bool
  fragmentOffset : ℕ
  diffServCodePoint : UInt8
  encapsulatedMsg : Packet

/-- The ICMP, UDP, SCTP and TCP serializers, by protocol. -/
structure Transport (Packet : Type) where
  serialize : IPDatagram Packet → Option (List UInt8)
  parse : ℕ → List UInt8 → Option Packet

def protocols : List ℕ := [1, 17, 132, 6]

def IP_MF : ℕ := 0x2000
def IP_DF : ℕ := 0x4000
def IP_OFFMASK : ℕ := 0x1fff

def htons (n : ℕ) : List UInt8 := [.ofNat (n / 256), .ofNat n]

def htonl (n : ℕ) : List UInt8 := htons (n / 65536) ++ htons n

def ntohs (high low : UInt8) : ℕ := 256 * high.toNat + low.toNat

variable {Packet : Type}

def header (d : IPDatagram Packet) (packetLength : ℕ) : List UInt8 :=
  .ofNat (16 * d.version + 5) :: d.diffServCodePoint ::
    (htons packetLength ++ htons d.identification ++
    htons d.fragmentOffset ++ [.ofNat d.timeToLive, .ofNat d.transportProtocol, 0, 0] ++
    htonl d.srcAddress.toNat ++ htonl d.destAddress.toNat)

variable (t : Transport Packet)

def serialize (d : IPDatagram Packet) : Option (List UInt8) :=
  if d.transportProtocol ∈ protocols then
    (t.serialize d).map fun bytes => header d (20 + bytes.length) ++ bytes
  else none

section Parse

variable (buf : List UInt8)

def wordAt (i : ℕ) : ℕ := ntohs (buf.getD i 0) (buf.getD (i + 1) 0)

/-- What is left for the parser of the transport protocol. Lengths are unsigned. -/
def payload : List UInt8 :=
  let headerLength := (buf.getD 0 0).toNat % 16 * 4
  (buf.drop headerLength).take ((min (wordAt buf 2) buf.length + 2 ^ 32 - headerLength) % 2 ^ 32)

/-- Both flags are read with `!IP_OFFMASK`, which is a truth value, from the word before `ntohs`. -/
def flag (mask : ℕ) : Bool :=
  ntohs (buf.getD 7 0) (buf.getD 6 0) &&& (decide (IP_OFFMASK = 0)).toNat &&& mask != 0

def parse : Option (IPDatagram Packet) :=
  let transportProtocol := (buf.getD 9 0).toNat
  if 20 ≤ buf.length ∧ transportProtocol ∈ protocols then
    (t.parse transportProtocol (payload buf)).map fun packet =>
      { version := (buf.getD 0 0).toNat / 16
        srcAddress := .ofNat (65536 * wordAt buf 12 + wordAt buf 14)
        destAddress := .ofNat (65536 * wordAt buf 16 + wordAt buf 18)
        transportProtocol
        timeToLive := (buf.getD 8 0).toNat
        identification := wordAt buf 4
        moreFragments := flag buf IP_MF
        dontFragment := flag buf IP_DF
        fragmentOffset := wordAt buf 6 &&& IP_OFFMASK
        diffServCodePoint := buf.getD 1 0
        encapsulatedMsg := packet }
  else none

end Parse

structure IPDatagram.InRange (d : IPDatagram Packet) : Prop where
  version : d.version < 16
  timeToLive : d.timeToLive < 256
  identification : d.identification < 65536
  fragmentOffset : d.fragmentOffset < 8192

def IPDatagram.SameHeader (d d' : IPDatagram Packet) : Prop :=
  d' = { d with encapsulatedMsg := d'.encapsulatedMsg }

theorem ntohs_htons {n : ℕ} (short : n < 65536) : ntohs (.ofNat (n / 256)) (.ofNat n) = n := by
  simp only [ntohs, UInt8.toNat_ofNat']
  omega

theorem ofNat_address (a : UInt32) :
    UInt32.ofNat (65536 * ntohs (.ofNat (a.toNat / 65536 / 256)) (.ofNat (a.toNat / 65536)) +
    ntohs (.ofNat (a.toNat / 256)) (.ofNat a.toNat)) = a := by
  have := a.toNat_lt
  simp only [ntohs, UInt8.toNat_ofNat', ← UInt32.toNat_inj, UInt32.toNat_ofNat']
  omega

theorem flag_eq (buf : List UInt8) (mask : ℕ) : flag buf mask = false := by simp [flag, IP_OFFMASK]

/-- A datagram comes back with all the fields of its header if and only if neither flag is set. -/
theorem parse_serialize_iff {t : Transport Packet} {d : IPDatagram Packet} (range : d.InRange)
    {buf : List UInt8} (written : serialize t d = some buf)
    (taken : (t.parse d.transportProtocol (payload buf)).isSome) :
    ∃ d', parse t buf = some d' ∧ (d.SameHeader d' ↔ d.moreFragments = false ∧
      d.dontFragment = false) := by
  obtain ⟨known, written⟩ := Option.ite_none_right_eq_some.mp written
  obtain ⟨bytes, -, rfl⟩ := Option.map_eq_some_iff.mp written
  obtain ⟨packet, taken⟩ := Option.isSome_iff_exists.mp taken
  have protocol : (UInt8.ofNat d.transportProtocol).toNat = d.transportProtocol := by
    have : ∀ p ∈ protocols, (UInt8.ofNat p).toNat = p := by decide
    exact this _ known
  have at_protocol : (header d (20 + bytes.length) ++ bytes).getD 9 0 =
    .ofNat d.transportProtocol := rfl
  have long : 20 ≤ (header d (20 + bytes.length) ++ bytes).length := by simp [header, htonl, htons]
  have version : (UInt8.ofNat (16 * d.version + 5)).toNat / 16 = d.version := by
    have := range.version
    rw [UInt8.toNat_ofNat']
    omega
  have ttl : (UInt8.ofNat d.timeToLive).toNat = d.timeToLive :=
    UInt8.toNat_ofNat_of_lt' range.timeToLive
  have offset : wordAt (header d (20 + bytes.length) ++ bytes) 6 &&& IP_OFFMASK =
      d.fragmentOffset := by
    have := range.fragmentOffset
    have same : wordAt (header d (20 + bytes.length) ++ bytes) 6 = d.fragmentOffset :=
      ntohs_htons (by omega)
    rw [same, IP_OFFMASK, show 0x1fff = 2 ^ 13 - 1 from rfl, Nat.and_two_pow_sub_one_eq_mod]
    omega
  have read : parse t (header d (20 + bytes.length) ++ bytes) =
      some { d with moreFragments := false, dontFragment := false, encapsulatedMsg := packet } := by
    simp only [parse, at_protocol, protocol, taken, flag_eq, offset]
    rw [if_pos ⟨long, known⟩]
    apply congrArg some
    dsimp only
    congr 1
    exacts [ofNat_address _, ofNat_address _, ntohs_htons range.identification]
  refine ⟨_, read, ?_⟩
  simp [IPDatagram.SameHeader, eq_comm (a := false)]

structure UDPPacket where
  sourcePort : ℕ
  destinationPort : ℕ
  byteLength : ℕ

/- `UDPSerializer`, into a buffer of zeros. The data of the packet is not written. -/
def udpSerializer : Transport UDPPacket where
  serialize d :=
    let pkt := d.encapsulatedMsg
    let words := htons pkt.sourcePort ++ htons pkt.destinationPort ++ htons pkt.byteLength
    let sum := ~~~ TCPIPchecksum.checksum words
    let data : List UInt8 := List.replicate (pkt.byteLength - 8) 0
    some ((words ++ [sum.toUInt8, (sum >>> 8).toUInt8] ++ data).take pkt.byteLength)
  parse _ buf :=
    if 8 ≤ wordAt buf 4 then some ⟨wordAt buf 0, wordAt buf 2, wordAt buf 4⟩ else none

def fragment (moreFragments : Bool) : IPDatagram UDPPacket :=
  ⟨4, 0x0A000001, 0x0A000002, 17, 64, 7, moreFragments, false, 185, 0, ⟨5000, 53, 10⟩⟩

theorem inRange_fragment (moreFragments : Bool) : (fragment moreFragments).InRange :=
  ⟨by simp [fragment], by simp [fragment], by simp [fragment], by simp [fragment]⟩

theorem serialize_fragment (moreFragments : Bool) :
    serialize udpSerializer (fragment moreFragments) =
      some (header (fragment moreFragments) 30 ++ [19, 136, 0, 53, 0, 10, 236, 56, 0, 0]) := by
  have sum : TCPIPchecksum.checksum [19, 136, 0, 53, 0, 10] = 50963 := by
    rw [TCPIPchecksum.checksum, TCPIPchecksum.foldCarries, if_pos (by decide)]
    rfl
  have bytes : udpSerializer.serialize (fragment moreFragments) =
      some [19, 136, 0, 53, 0, 10, 236, 56, 0, 0] := by
    simp only [udpSerializer, fragment]
    rw [show htons 5000 ++ htons 53 ++ htons 10 = [19, 136, 0, 53, 0, 10] from rfl, sum]
    rfl
  have known : (fragment moreFragments).transportProtocol ∈ protocols := by
    simp [fragment, protocols]
  rw [serialize, if_pos known, bytes]
  rfl

theorem parse_serialize_last : ∃ buf d', serialize udpSerializer (fragment false) = some buf ∧
    parse udpSerializer buf = some d' ∧ (fragment false).SameHeader d' := by
  have written := serialize_fragment false
  obtain ⟨d', read, same⟩ := parse_serialize_iff (inRange_fragment false) written rfl
  exact ⟨_, d', written, read, same.mpr ⟨rfl, rfl⟩⟩

/-- A fragment in the middle comes back as the last one. -/
theorem parse_serialize_middle : (fragment true).InRange ∧ ∃ buf d',
    serialize udpSerializer (fragment true) = some buf ∧ parse udpSerializer buf = some d' ∧
      ¬ (fragment true).SameHeader d' := by
  refine ⟨inRange_fragment true, _, _, serialize_fragment true, rfl, fun same => ?_⟩
  cases congrArg IPDatagram.moreFragments same

end Srwsn.IPSerializer
