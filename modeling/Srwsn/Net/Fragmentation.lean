import Srwsn.Net.Reassembly

/-! How a datagram is cut for a link, and what a path of links makes of it. -/
namespace Srwsn

open Tiling IPDatagram List IPFragBuf

namespace IP

/-- What `fragmentAndSend` hands to the link, and the datagrams it sends an ICMP error about. -/
structure Sending where
  output : List IPDatagram
  icmpErrors : List IPDatagram

/-- The count in exact arithmetic. -/
def noOfFragments (mtu headerLength payload : Nat) : Nat :=
  ⌈((payload : ℚ) / mtu) / (1 - (headerLength : ℚ) / mtu)⌉.toNat

def fragment (mtu noOfFragments : Nat) (datagram : IPDatagram) (i : Nat) : IPDatagram :=
  { datagram with
    moreFragments := if i ≠ noOfFragments - 1 then true else datagram.moreFragments
    byteLength := if i ≠ noOfFragments - 1 then mtu
      else datagram.byteLength - (noOfFragments - 1) * (mtu - datagram.headerLength)
    fragmentOffset := i * (mtu - datagram.headerLength) }

def fragmentAndSend (mtu : Nat) (datagram : IPDatagram) : Sending :=
  if datagram.byteLength ≤ mtu then ⟨[datagram], []⟩
  else
    let n := noOfFragments mtu datagram.headerLength datagram.payloadLength
    if datagram.dontFragment && decide (n > 1) then ⟨[], [datagram]⟩
    else ⟨(List.range n).map (fragment mtu n datagram), []⟩

theorem noOfFragments_bounds {mtu headerLength payload : Nat} (room : headerLength < mtu)
    (some : 0 < payload) :
    (noOfFragments mtu headerLength payload - 1) * (mtu - headerLength) < payload ∧
      payload ≤ noOfFragments mtu headerLength payload * (mtu - headerLength) ∧
      0 < noOfFragments mtu headerLength payload := by
  have wide : (0 : ℚ) < (mtu - headerLength : Nat) := by exact_mod_cast Nat.sub_pos_of_lt room
  have mtuPos : (0 : ℚ) < mtu := by exact_mod_cast Nat.zero_lt_of_lt room
  have ratio : ((payload : ℚ) / mtu) / (1 - (headerLength : ℚ) / mtu) =
      payload / (mtu - headerLength : Nat) := by
    have cast : ((mtu - headerLength : Nat) : ℚ) = mtu - headerLength := Nat.cast_sub room.le
    rw [cast] at wide ⊢
    field_simp
  have payloadPos : (0 : ℚ) < payload := by exact_mod_cast some
  have above := Nat.le_ceil ((payload : ℚ) / (mtu - headerLength : Nat))
  have below := Nat.ceil_lt_add_one (div_nonneg payloadPos.le wide.le)
  have positive := Nat.ceil_pos.mpr (div_pos payloadPos wide)
  rw [noOfFragments, ratio, Int.ceil_toNat]
  rw [div_le_iff₀ wide] at above
  refine ⟨?_, by exact_mod_cast above, positive⟩
  have fewer : ((⌈(payload : ℚ) / (mtu - headerLength : Nat)⌉₊ - 1 : Nat) : ℚ) <
      payload / (mtu - headerLength : Nat) := by
    rw [Nat.cast_sub positive]
    simpa using sub_lt_iff_lt_add.mpr below
  rw [lt_div_iff₀ wide] at fewer
  exact_mod_cast fewer

structure TooLong (mtu : Nat) (d : IPDatagram) : Prop where
  room : d.headerLength < mtu
  long : mtu < d.byteLength

section Cut

variable {mtu i : Nat} {d f : IPDatagram}

def pieces (mtu : Nat) (d : IPDatagram) : Nat := noOfFragments mtu d.headerLength d.payloadLength

theorem TooLong.bounds (long : TooLong mtu d) :
    (pieces mtu d - 1) * (mtu - d.headerLength) < d.payloadLength ∧
      d.payloadLength ≤ pieces mtu d * (mtu - d.headerLength) ∧ 1 < pieces mtu d := by
  have room := long.room
  have more := long.long
  have wide : mtu - d.headerLength < d.payloadLength := by
    rw [payloadLength]
    omega
  obtain ⟨below, above, some⟩ := noOfFragments_bounds room (by omega : 0 < d.payloadLength)
  refine ⟨below, above, ?_⟩
  by_contra few
  have one : noOfFragments mtu d.headerLength d.payloadLength = 1 := by
    rw [pieces] at few
    omega
  rw [one] at above
  omega

def cut (mtu : Nat) (d : IPDatagram) : List IPDatagram :=
  (List.range (pieces mtu d)).map (fragment mtu (pieces mtu d) d)

theorem fragmentAndSend_short (short : d.byteLength ≤ mtu) :
    (fragmentAndSend mtu d).output = [d] := by
  rw [fragmentAndSend, if_pos short]

theorem fragmentAndSend_long (long : TooLong mtu d) :
    (fragmentAndSend mtu d).output = if d.dontFragment then [] else cut mtu d := by
  rw [fragmentAndSend, if_neg (by have := long.long; omega)]
  have several : noOfFragments mtu d.headerLength d.payloadLength > 1 := long.bounds.2.2
  simp only [several, decide_true, Bool.and_true]
  split_ifs <;> rfl

theorem fragment_range (long : TooLong mtu d) (below : i < pieces mtu d) :
    (fragment mtu (pieces mtu d) d i).fragmentOffset =
    min (i * (mtu - d.headerLength)) d.payloadLength ∧
    (fragment mtu (pieces mtu d) d i).stop =
    min ((i + 1) * (mtu - d.headerLength)) d.payloadLength ∧
    min (i * (mtu - d.headerLength)) d.payloadLength <
    min ((i + 1) * (mtu - d.headerLength)) d.payloadLength := by
  obtain ⟨fewer, enough, several⟩ := long.bounds
  have room := long.room
  have first : i * (mtu - d.headerLength) ≤ (pieces mtu d - 1) * (mtu - d.headerLength) :=
    Nat.mul_le_mul_right _ (by omega)
  have next : (i + 1) * (mtu - d.headerLength) =
    i * (mtu - d.headerLength) + (mtu - d.headerLength) := Nat.succ_mul _ _
  have inside : i * (mtu - d.headerLength) ≤ d.payloadLength := by omega
  refine ⟨(min_eq_left inside).symm, ?_, by omega⟩
  simp only [fragment, stop, payloadLength] at fewer enough ⊢
  by_cases last : i = pieces mtu d - 1
  · have all : (i + 1) = pieces mtu d := by omega
    rw [all] at next ⊢
    rw [← last] at fewer first ⊢
    simp only [ne_eq, not_true, if_false]
    omega
  · have inner : (i + 1) * (mtu - d.headerLength) ≤ (pieces mtu d - 1) * (mtu - d.headerLength) :=
      Nat.mul_le_mul_right _ (by omega)
    simp only [ne_eq, last, not_false_eq_true, if_true]
    omega

theorem cut_tiles (long : TooLong mtu d) :
    Tiles fragmentOffset stop 0 (cut mtu d) d.payloadLength := by
  have laid := @tiles_range _ fragmentOffset stop (fragment mtu (pieces mtu d) d)
    (fun i => min (i * (mtu - d.headerLength)) d.payloadLength) (pieces mtu d)
    fun i below => fragment_range long below
  simp only [Nat.zero_mul, Nat.zero_min, min_eq_right long.bounds.2.1] at laid
  exact laid

structure Like (d f : IPDatagram) : Prop where
  key : f.key = d.key
  headerLength : f.headerLength = d.headerLength
  dontFragment : f.dontFragment = d.dontFragment
  encapsulatedMsg : f.encapsulatedMsg = d.encapsulatedMsg

theorem Like.refl (d : IPDatagram) : Like d d := ⟨rfl, rfl, rfl, rfl⟩

theorem Like.trans {g : IPDatagram} (first : Like d f) (second : Like f g) : Like d g :=
  ⟨second.key.trans first.key, second.headerLength.trans first.headerLength,
    second.dontFragment.trans first.dontFragment,
    second.encapsulatedMsg.trans first.encapsulatedMsg⟩

theorem mem_cut (long : TooLong mtu d) (member : f ∈ cut mtu d) :
    Like d f ∧ f.byteLength ≤ mtu ∧ d.headerLength < f.byteLength ∧ f.isFragment ∧
      (f.moreFragments = false ↔ d.moreFragments = false ∧ f.stop = d.payloadLength) := by
  obtain ⟨i, below, rfl⟩ := List.mem_map.mp member
  rw [mem_range] at below
  obtain ⟨fewer, enough, several⟩ := long.bounds
  obtain ⟨-, stop, -⟩ := fragment_range long below
  have room := long.room
  refine ⟨⟨rfl, rfl, rfl, rfl⟩, ?_⟩
  rw [stop]
  simp only [fragment, isFragment, payloadLength] at fewer enough ⊢
  by_cases last : i = pieces mtu d - 1
  · have all : i + 1 = pieces mtu d := by omega
    have next : (i + 1) * (mtu - d.headerLength) =
        i * (mtu - d.headerLength) + (mtu - d.headerLength) :=
      Nat.succ_mul _ _
    have beyond : i * (mtu - d.headerLength) ≠ 0 := Nat.mul_ne_zero (by omega) (by omega)
    rw [← all] at enough
    rw [← last] at fewer ⊢
    simp only [ne_eq, not_true, if_false]
    exact ⟨by omega, by omega, by simp [beyond], by simp [enough]⟩
  · have inner : (i + 1) * (mtu - d.headerLength) ≤ (pieces mtu d - 1) * (mtu - d.headerLength) :=
      Nat.mul_le_mul_right _ (by omega)
    simp only [ne_eq, last, not_false_eq_true, if_true]
    exact ⟨le_rfl, room, by simp, ⟨nofun, fun same => by omega⟩⟩

end Cut

/-- The payload ranges hold each byte below `length` once, and the flag is clear in the one datagram
that reaches the end. -/
structure Partition (length : Nat) (l : List IPDatagram) : Prop where
  once : ∀ k, cover fragmentOffset stop l k = if k < length then 1 else 0
  last : ∀ d ∈ l, d.moreFragments = false ↔ d.stop = length
  one : l.countP (fun d => !d.moreFragments) = 1

theorem partition_of_tiles {length : Nat} {l : List IPDatagram}
    (tiles : Tiles fragmentOffset stop 0 l length) (some : l ≠ [])
    (last : ∀ d ∈ l, d.moreFragments = false ↔ d.stop = length) : Partition length l := by
  refine ⟨fun k => by simpa using tiles.cover k, last, ?_⟩
  rw [← tiles.count_last some]
  refine countP_congr fun d hd => ?_
  simpa using last d hd

structure Whole (d : IPDatagram) : Prop where
  fragmentOffset : d.fragmentOffset = 0
  moreFragments : d.moreFragments = false
  headerLength : d.headerLength ≤ d.byteLength

structure PiecesOf (d : IPDatagram) (l : List IPDatagram) : Prop where
  tiles : Tiles fragmentOffset stop 0 l d.payloadLength
  last : ∀ f ∈ l, f.moreFragments = false ↔ f.stop = d.payloadLength
  like : ∀ f ∈ l, Like d f

section Pieces

variable {mtu : Nat} {d : IPDatagram} {l : List IPDatagram}

def PiecesOf.fragmented (pieces : PiecesOf d l) (proper : ∀ f ∈ l, f.isFragment) : Fragmented where
  key := d.key
  length := d.payloadLength
  pieces := l
  keyed f hf := (pieces.like f hf).key
  tiled := pieces.tiles
  last := pieces.last
  proper := proper

theorem stop_of_first (first : d.fragmentOffset = 0) :
    d.stop = d.payloadLength := by rw [stop, first, Nat.zero_add]

theorem cut_pieces (whole : Whole d) (long : TooLong mtu d) : PiecesOf d (cut mtu d) where
  tiles := cut_tiles long
  last f hf := by simp [(mem_cut long hf).2.2.2.2, whole.moreFragments]
  like f hf := (mem_cut long hf).1

theorem whole_pieces (whole : Whole d) (payload : 0 < d.payloadLength) : PiecesOf d [d] := by
  have stop := stop_of_first whole.fragmentOffset
  refine ⟨⟨whole.fragmentOffset, by rw [whole.fragmentOffset, stop]; exact payload, stop⟩, ?_, ?_⟩
  · simp [whole.moreFragments, stop]
  · simp [Like.refl]

theorem Whole.byteLength (whole : Whole d) : d.headerLength + d.payloadLength = d.byteLength :=
  Nat.add_sub_of_le whole.headerLength

theorem PiecesOf.restorable (pieces : PiecesOf d l) (proper : ∀ f ∈ l, f.isFragment)
    (some : l ≠ []) (short : d.payloadLength < 65536) (content : d.encapsulatedMsg.isSome) :
    (pieces.fragmented proper).Restorable := by
  obtain ⟨f, hf⟩ := exists_mem_of_ne_nil l some
  exact ⟨short, f, hf, by rwa [(pieces.like f hf).encapsulatedMsg]⟩

/-- Fed in any order, with duplicates, the buffer returns nothing before all of `l` has arrived and
then one datagram of the length. -/
def Feeds (l : List IPDatagram) (length : Nat) : Prop :=
  ∀ (arrivals : List (IPDatagram × Nat)) (a : IPDatagram × Nat), (∀ x ∈ arrivals ++ [a], x.1 ∈ l) →
    ¬ (∀ f ∈ l, f ∈ arrivals.map Prod.fst) →
    ∃ b r b', receive arrivals {} = .ok b ∧ b.addFragment a.1 a.2 = .ok (r, b') ∧
      if ∀ f ∈ l, f ∈ (arrivals ++ [a]).map Prod.fst then ∃ x, r = some x ∧ x.byteLength = length
      else r = none

theorem PiecesOf.feeds (pieces : PiecesOf d l) (whole : Whole d) {proper : ∀ f ∈ l, f.isFragment}
    (restorable : (pieces.fragmented proper).Restorable) : Feeds l d.byteLength := by
  intro arrivals a known more
  have valid : Interleaving [pieces.fragmented proper] (arrivals ++ [a]) := by
    intro before x after same
    refine ⟨_, mem_singleton_self _, known x (by simp [same]), fun all => more fun f hf => ?_⟩
    -- what came before `x` came before `a`
    have shorter := congrArg List.length same
    simp only [length_append, length_cons, length_nil] at shorter
    have early : before <+: arrivals :=
      prefix_of_prefix_length_le ⟨x :: after, same.symm⟩ (prefix_append _ _) (by omega)
    exact (early.map Prod.fst).subset (all f hf)
  obtain ⟨b, r, b', received, added, -, returns⟩ :=
    receive_addFragment (by simp) (by simpa using restorable) valid
  refine ⟨b, r, b', received, added, ?_⟩
  have returned := returns _ (mem_singleton_self _) (known a (by simp))
  split_ifs with all
  · obtain ⟨x, hx, rfl⟩ := returned.complete all
    refine ⟨_, rfl, ?_⟩
    rw [← whole.byteLength, ← (pieces.like x hx).headerLength]
    rfl
  · exact returned.missing all

def CutsAndRestores (mtu : Nat) (d : IPDatagram) : Prop :=
  (∀ f ∈ (fragmentAndSend mtu d).output, f.byteLength ≤ mtu) ∧
    Partition d.payloadLength (fragmentAndSend mtu d).output ∧
    Feeds (fragmentAndSend mtu d).output d.byteLength

theorem whole_partition (whole : Whole d) : Partition d.payloadLength [d] := by
  have stop := stop_of_first whole.fragmentOffset
  refine ⟨fun k => ?_, by simp [whole.moreFragments, stop], by simp [whole.moreFragments]⟩
  simp [cover, whole.fragmentOffset, stop, countP_cons]

/-- The bytes that leave are a partition when the link takes the datagram or it may be cut, and what
was cut can be put together again when it has content. -/
theorem fragmentAndSend_restores (whole : Whole d) (size : d.byteLength ≤ 65535)
    (room : d.headerLength < mtu) : (d.byteLength ≤ mtu ∨ d.dontFragment = false →
      (∀ f ∈ (fragmentAndSend mtu d).output, f.byteLength ≤ mtu) ∧
        Partition d.payloadLength (fragmentAndSend mtu d).output) ∧
    (mtu < d.byteLength → d.dontFragment = false → d.encapsulatedMsg.isSome →
      Feeds (fragmentAndSend mtu d).output d.byteLength) := by
  by_cases fits : d.byteLength ≤ mtu
  · rw [fragmentAndSend_short fits]
    exact ⟨fun _ => ⟨by simpa using fits, whole_partition whole⟩, fun long => by omega⟩
  · have long : TooLong mtu d := ⟨room, by omega⟩
    rw [fragmentAndSend_long long]
    have pieces := cut_pieces whole long
    have some : cut mtu d ≠ [] := by
      have several := long.bounds.2.2
      rw [cut, ne_eq, map_eq_nil_iff, range_eq_nil]
      omega
    constructor
    · rintro (fits' | may)
      · exact absurd fits' fits
      · simp only [may, Bool.false_eq_true, if_false]
        exact ⟨fun f hf => (mem_cut long hf).2.1, partition_of_tiles pieces.tiles some pieces.last⟩
    · intro _ may content
      simp only [may, Bool.false_eq_true, if_false]
      refine pieces.feeds whole (pieces.restorable (fun f hf => (mem_cut long hf).2.2.2.1) some
        ?_ content)
      rw [payloadLength]
      omega

end Pieces

def packet (dontFragment : Bool) (content : Option Nat) : IPDatagram :=
  ⟨1, 10, 20, 20, 220, false, dontFragment, 0, content⟩

theorem packet_whole (dontFragment : Bool) (content : Option Nat) :
    Whole (packet dontFragment content) :=
  ⟨rfl, rfl, by simp [packet]⟩

theorem packet_long (dontFragment : Bool) (content : Option Nat) :
    TooLong 120 (packet dontFragment content) :=
  ⟨by simp [packet], by simp [packet]⟩

theorem packet_cut (content : Option Nat) : cut 120 (packet false content) =
    [⟨1, 10, 20, 20, 120, true, false, 0, content⟩,
      ⟨1, 10, 20, 20, 120, false, false, 100, content⟩] := by
  have two : pieces 120 (packet false content) = 2 := by
    have bounds := (packet_long false content).bounds
    simp only [packet, payloadLength] at bounds ⊢
    omega
  rw [cut, two]
  rfl

theorem packet_restored : (Partition 200 (fragmentAndSend 120 (packet false (some 7))).output) ∧
    Feeds (fragmentAndSend 120 (packet false (some 7))).output 220 := by
  have restores :=
    @fragmentAndSend_restores 120 _ (packet_whole false (some 7)) (by decide) (by decide)
  exact ⟨(restores.1 (.inr rfl)).2, restores.2 (by decide) rfl rfl⟩

/-- A datagram that must not be cut is discarded; one that the link takes as it is makes the buffer
erase through an invalid iterator, and one without content ends at a null pointer. A second copy of
all fragments gives a second datagram. -/
theorem packet_not_restored : ¬ CutsAndRestores 120 (packet true (some 7)) ∧
    ¬ CutsAndRestores 1500 (packet false (some 7)) ∧ ¬ CutsAndRestores 120 (packet false none) ∧
    ∃ first second, (fragmentAndSend 120 (packet false (some 7))).output = [first, second] ∧
      ∃ b b' c c' x, receive [(first, 0)] {} = .ok b ∧ b.addFragment second 0 = .ok (some x, b') ∧
        receive [(first, 0), (second, 0), (first, 0)] {} = .ok c ∧
        c.addFragment second 0 = .ok (some x, c') := by
  refine ⟨fun ⟨_, partition, _⟩ => ?_, fun ⟨_, _, feeds⟩ => ?_, fun ⟨_, _, feeds⟩ => ?_, ?_⟩
  · have one := partition.one
    rw [fragmentAndSend_long (packet_long true (some 7))] at one
    cases one
  · rw [fragmentAndSend_short (by decide)] at feeds
    obtain ⟨b, r, b', received, added, -⟩ :=
      feeds [] (packet false (some 7), 0) (by decide) (by decide)
    cases received
    cases added
  · rw [fragmentAndSend_long (packet_long false none)] at feeds
    change Feeds (cut 120 (packet false none)) _ at feeds
    rw [packet_cut] at feeds
    obtain ⟨b, r, b', received, added, -⟩ := feeds [(⟨1, 10, 20, 20, 120, true, false, 0, none⟩, 0)]
      (⟨1, 10, 20, 20, 120, false, false, 100, none⟩, 0) (by decide) (by decide)
    cases received
    cases added
  · refine ⟨_, _, (fragmentAndSend_long (packet_long false (some 7))).trans (packet_cut (some 7)),
      ?_⟩
    exact ⟨_, _, _, _, _, rfl, rfl, rfl, rfl⟩

def forward (mtu : Nat) (l : List IPDatagram) : List IPDatagram :=
  l.flatMap fun d => (fragmentAndSend mtu d).output

def travel : List Nat → List IPDatagram → List IPDatagram
  | [], l => l
  | mtu :: mtus, l => travel mtus (forward mtu l)

/-- No router cuts a datagram that does not begin at offset 0. -/
def Uncut : List Nat → List IPDatagram → Prop
  | [], _ => True
  | mtu :: mtus, l => (∀ d ∈ l, d.fragmentOffset ≠ 0 → d.byteLength ≤ mtu) ∧
      Uncut mtus (forward mtu l)

def reassembleAndDeliver (out : List IPDatagram) (b : IPFragBuf) (a : IPDatagram × Nat) :
    Except FragFault (List IPDatagram × IPFragBuf) :=
  if a.1.isFragment then (b.addFragment a.1 a.2).map fun r => (out ++ r.1.toList, r.2)
  else .ok (out ++ [a.1], b)

def deliver (arrivals : List (IPDatagram × Nat)) : Except FragFault (List IPDatagram × IPFragBuf) :=
  arrivals.foldlM (fun s a => reassembleAndDeliver s.1 s.2 a) ([], {})

def Arrives (mtus : List Nat) (d : IPDatagram) : Prop :=
  Partition d.payloadLength (travel mtus [d]) ∧
    ∀ arrivals : List (IPDatagram × Nat), (arrivals.map Prod.fst).Perm (travel mtus [d]) →
      ∃ r b, deliver arrivals = .ok ([r], b) ∧ r.byteLength = d.byteLength

section Path

variable {mtu : Nat} {mtus : List Nat} {d f : IPDatagram} {l : List IPDatagram}

theorem travel_fits (fits : ∀ m ∈ mtus, d.byteLength ≤ m) : travel mtus [d] = [d] := by
  induction mtus with
  | nil => rfl
  | cons mtu mtus ih =>
    rw [travel, forward, flatMap_singleton, fragmentAndSend_short (fits mtu mem_cons_self)]
    exact ih fun m hm => fits m (mem_cons_of_mem mtu hm)

theorem mem_output (room : d.headerLength < mtu) (member : f ∈ (fragmentAndSend mtu d).output) :
    Like d f ∧ (d.isFragment ∨ mtu < d.byteLength → f.isFragment) := by
  by_cases fits : d.byteLength ≤ mtu
  · rw [fragmentAndSend_short fits, mem_singleton] at member
    subst member
    exact ⟨⟨rfl, rfl, rfl, rfl⟩, fun h => h.resolve_right (by omega)⟩
  · have long : TooLong mtu d := ⟨room, by omega⟩
    rw [fragmentAndSend_long long] at member
    split_ifs at member with locked
    · cases member
    · exact ⟨(mem_cut long member).1, fun _ => (mem_cut long member).2.2.2.1⟩

section

variable (room : ∀ m ∈ mtus, d.headerLength < m)

include room

theorem travel_like (like : ∀ f ∈ l, Like d f) :
    ∀ f ∈ travel mtus l, Like d f ∧ ((∀ e ∈ l, e.isFragment) → f.isFragment) := by
  induction mtus generalizing l with
  | nil => exact fun f hf => ⟨like f hf, fun proper => proper f hf⟩
  | cons mtu mtus ih =>
    obtain ⟨here, later⟩ := forall_mem_cons.mp room
    have output : ∀ f ∈ IP.forward mtu l, Like d f ∧ ((∀ e ∈ l, e.isFragment) → f.isFragment) := by
      intro f hf
      obtain ⟨e, he, member⟩ := mem_flatMap.mp hf
      obtain ⟨alike, proper⟩ := mem_output ((like e he).headerLength ▸ here) member
      exact ⟨(like e he).trans alike, fun all => proper (.inl (all e he))⟩
    intro f hf
    obtain ⟨alike, proper⟩ := ih later (fun f hf => (output f hf).1) f hf
    exact ⟨alike, fun all => proper fun f hf => (output f hf).2 all⟩

theorem travel_narrow (narrow : ¬ ∀ m ∈ mtus, d.byteLength ≤ m) :
    (∀ f ∈ travel mtus [d], f.isFragment) ∧ (d.dontFragment → travel mtus [d] = []) := by
  induction mtus with
  | nil => exact absurd nofun narrow
  | cons mtu mtus ih =>
    obtain ⟨here, later⟩ := forall_mem_cons.mp room
    rw [travel, forward, flatMap_singleton]
    by_cases fits : d.byteLength ≤ mtu
    · rw [fragmentAndSend_short fits]
      exact ih later fun all => narrow (forall_mem_cons.mpr ⟨fits, all⟩)
    · refine ⟨fun f hf => (travel_like later (fun f hf => (mem_output here hf).1) f hf).2
        fun f hf => (mem_output here hf).2 (.inr (by omega)), fun locked => ?_⟩
      rw [fragmentAndSend_long ⟨here, by omega⟩, if_pos locked]
      clear * -
      induction mtus with
      | nil => rfl
      | cons mtu mtus ih => exact ih

end

theorem PiecesOf.forward (pieces : PiecesOf d l) (room : d.headerLength < mtu)
    (may : d.dontFragment = false) (uncut : ∀ f ∈ l, f.fragmentOffset ≠ 0 → f.byteLength ≤ mtu) :
    PiecesOf d (forward mtu l) := by
  have output : ∀ f ∈ l, (fragmentAndSend mtu f).output = [f] ∨
      f.fragmentOffset = 0 ∧ TooLong mtu f ∧ (fragmentAndSend mtu f).output = cut mtu f := by
    intro f hf
    have like := pieces.like f hf
    by_cases fits : f.byteLength ≤ mtu
    · exact .inl (fragmentAndSend_short fits)
    · have long : TooLong mtu f := ⟨like.headerLength ▸ room, by omega⟩
      refine .inr ⟨by_contra fun off => fits (uncut f hf off), long, ?_⟩
      rw [fragmentAndSend_long long, like.dontFragment, may]
      rfl
  refine ⟨pieces.tiles.flatMap fun f hf => ?_, fun g hg => ?_, fun g hg => ?_⟩
  · obtain same | ⟨first, long, same⟩ := output f hf
    · rw [same]
      exact ⟨rfl, (pieces.tiles.mem hf).2.1, rfl⟩
    · rw [same, stop_of_first first, first]
      exact cut_tiles long
  · obtain ⟨f, hf, member⟩ := mem_flatMap.mp hg
    obtain same | ⟨first, long, same⟩ := output f hf
    · rw [same, mem_singleton] at member
      exact member ▸ pieces.last f hf
    · rw [same] at member
      have stop := stop_of_first first
      have inside := (cut_tiles long).mem member
      have outer := pieces.tiles.mem hf
      rw [(mem_cut long member).2.2.2.2, pieces.last f hf]
      omega
  · exact (@travel_like [mtu] d l (by simpa using room) pieces.like g hg).1

theorem PiecesOf.travel (pieces : PiecesOf d l) (room : ∀ m ∈ mtus, d.headerLength < m)
    (may : d.dontFragment = false) (uncut : Uncut mtus l) : PiecesOf d (travel mtus l) := by
  induction mtus generalizing l with
  | nil => exact pieces
  | cons mtu mtus ih =>
    obtain ⟨here, later⟩ := forall_mem_cons.mp room
    exact ih (pieces.forward here may uncut.1) later uncut.2

def positions (l : List IPDatagram) : Nat := weight fragmentOffset stop l

/-- Offsets count from the start of the datagram that is cut, so the positions of its bytes fall by
its own offset. -/
theorem positions_output (room : d.headerLength < mtu) : positions (fragmentAndSend mtu d).output ≤
    positions [d] ∧
    (d.fragmentOffset ≠ 0 → mtu < d.byteLength → positions (fragmentAndSend mtu d).output <
      positions [d]) := by
  have own : positions [d] = d.payloadLength * d.fragmentOffset + ∑ k ∈
      Finset.range d.payloadLength, k := by
    have shifted : positions [d] = ∑ k ∈ Finset.range d.payloadLength, (d.fragmentOffset + k) := by
      simp [positions, weight, Finset.sum_Ico_eq_sum_range, stop]
    rw [shifted, Finset.sum_add_distrib, Finset.sum_const, Finset.card_range, smul_eq_mul]
  by_cases fits : d.byteLength ≤ mtu
  · rw [fragmentAndSend_short fits]
    exact ⟨le_rfl, fun _ long => by omega⟩
  · have long : TooLong mtu d := ⟨room, by omega⟩
    have less : positions (fragmentAndSend mtu d).output ≤ ∑ k ∈ Finset.range d.payloadLength,
        k := by
      rw [fragmentAndSend_long long]
      split_ifs with locked
      · exact Nat.zero_le _
      · rw [positions, weight_of_cover fun k => by simpa using (cut_tiles long).cover k]
    have some : 0 < d.payloadLength := by
      rw [payloadLength]
      omega
    rw [own]
    refine ⟨by omega, fun off _ => ?_⟩
    have := Nat.mul_pos some (Nat.pos_of_ne_zero off)
    omega

theorem positions_forward (room : ∀ f ∈ l, f.headerLength < mtu) :
    positions (IP.forward mtu l) ≤ positions l ∧
      (positions (IP.forward mtu l) = positions l → ∀ f ∈ l, f.fragmentOffset ≠ 0 → f.byteLength ≤
        mtu) := by
  induction l with
  | nil => exact ⟨le_rfl, nofun⟩
  | cons d l ih =>
    obtain ⟨less, same⟩ := ih fun f hf => room f (mem_cons_of_mem d hf)
    obtain ⟨lessHere, strict⟩ := positions_output (room d mem_cons_self)
    have split : positions (IP.forward mtu (d :: l)) =
        positions (fragmentAndSend mtu d).output + positions (IP.forward mtu l) := by
      simp [positions, weight, IP.forward]
    have whole : positions (d :: l) = positions [d] + positions l := by
      simp [positions, weight]
    rw [split, whole]
    refine ⟨by omega, fun equal f hf off => ?_⟩
    cases hf with
    | head =>
      by_contra long
      have := strict off (by omega)
      omega
    | tail _ hf => exact same (by omega) f hf off

theorem positions_travel (room : ∀ m ∈ mtus, d.headerLength < m) (like : ∀ f ∈ l, Like d f) :
    positions (IP.travel mtus l) ≤ positions l ∧ (positions (IP.travel mtus l) = positions l →
      Uncut mtus l) := by
  induction mtus generalizing l with
  | nil => exact ⟨le_rfl, fun _ => trivial⟩
  | cons mtu mtus ih =>
    obtain ⟨here, later⟩ := forall_mem_cons.mp room
    obtain ⟨less, same⟩ := @ih (IP.forward mtu l) later fun f hf =>
      (@travel_like [mtu] d l (by simpa using here) like f hf).1
    obtain ⟨lessHere, sameHere⟩ := positions_forward fun f hf => (like f hf).headerLength ▸ here
    refine ⟨less.trans lessHere, fun equal => ?_⟩
    rw [IP.travel] at equal
    exact ⟨sameHere (by omega), same (by omega)⟩

end Path

section Delivery

open Outcome

variable {mtus : List Nat} {d f : IPDatagram} {b : IPFragBuf} {l : List IPDatagram}

theorem deliver_append (arrivals : List (IPDatagram × Nat)) (a : IPDatagram × Nat) :
    deliver (arrivals ++ [a]) = deliver arrivals >>= fun s => reassembleAndDeliver s.1 s.2 a := by
  simp [deliver, foldlM_append]

variable {arrivals : List (IPDatagram × Nat)}

theorem deliver_fragments {c : Fragmented} (some : c.pieces ≠ []) (restorable : c.Restorable)
    (valid : Interleaving [c] arrivals) :
    ∃ out b, deliver arrivals = .ok (out, b) ∧ Holding [c] (arrivals.map Prod.fst) b ∧
      (¬ c.Complete (arrivals.map Prod.fst) → out = []) ∧
      (c.Complete (arrivals.map Prod.fst) → ∃ x ∈ c.pieces, out = [restore c x]) := by
  induction arrivals using List.reverseRecOn with
  | nil =>
    refine ⟨[], {}, rfl, holding_new, fun _ => rfl, fun all => ?_⟩
    obtain ⟨x, hx⟩ := exists_mem_of_ne_nil _ some
    cases all x hx
  | append_singleton arrivals a ih =>
    obtain ⟨out, b, delivered, holding, before, -⟩ := ih valid.init
    obtain ⟨e, known, member, more⟩ := valid arrivals a [] rfl
    obtain rfl := mem_singleton.mp known
    obtain ⟨r, b', added, after, returns⟩ :=
      addFragment_spec holding (by simp) member known more restorable a.2
    rw [deliver_append, delivered, map_append]
    refine ⟨out ++ r.toList, b', ?_, after, fun more' => ?_, fun all => ?_⟩
    · change reassembleAndDeliver out b a = _
      rw [reassembleAndDeliver, if_pos (e.proper a.1 member), added]
      rfl
    · rw [before more, returns.missing more']
      rfl
    · obtain ⟨x, hx, rfl⟩ := returns.complete all
      exact ⟨x, hx, by rw [before more]; rfl⟩

theorem deliver_pieces (pieces : PiecesOf d l) (whole : Whole d) {proper : ∀ f ∈ l, f.isFragment}
    (some : l ≠ []) (restorable : (pieces.fragmented proper).Restorable)
    (perm : (arrivals.map Prod.fst).Perm l) :
    ∃ r b, deliver arrivals = .ok ([r], b) ∧ r.byteLength = d.byteLength := by
  have nodup := perm.nodup_iff.mpr pieces.tiles.nodup
  have valid : Interleaving [pieces.fragmented proper] arrivals := by
    rintro before x after rfl
    have member : x.1 ∈ l := perm.subset (by simp)
    refine ⟨_, mem_singleton_self _, member, fun all => ?_⟩
    rw [map_append, map_cons, nodup_append'] at nodup
    exact nodup.2.2 (all x.1 member) mem_cons_self
  obtain ⟨out, b, delivered, -, -, done⟩ := deliver_fragments some restorable valid
  obtain ⟨x, hx, rfl⟩ := done fun f hf => perm.symm.subset hf
  refine ⟨_, b, delivered, ?_⟩
  rw [← whole.byteLength, ← (pieces.like x hx).headerLength]
  rfl

def Kept (d : IPDatagram) (b : IPFragBuf) : Prop :=
  ∀ key buf, b.bufs key = some buf →
    ∀ x ∈ buf.datagram, d.encapsulatedMsg.isSome ∧ x.headerLength = d.headerLength

theorem take_kept (kept : Kept d b) (like : Like d f) :
    ∀ x ∈ (((b.bufs f.key).getD {}).take f).datagram,
      d.encapsulatedMsg.isSome ∧ x.headerLength = d.headerLength := by
  intro x hx
  rw [DatagramBuffer.take] at hx
  split_ifs at hx with content
  · cases hx
    exact ⟨like.encapsulatedMsg ▸ content, like.headerLength⟩
  · cases stored : b.bufs f.key with
    | none =>
      rw [stored] at hx
      cases hx
    | some buf =>
      rw [stored] at hx
      exact kept f.key buf stored x hx

theorem Kept.update (kept : Kept d b) (key : Key) {entry : Option DatagramBuffer}
    (new : ∀ buf ∈ entry, ∀ x ∈ buf.datagram,
      d.encapsulatedMsg.isSome ∧ x.headerLength = d.headerLength) : Kept d
      ⟨Function.update b.bufs key entry⟩ := by
  intro other buf stored
  by_cases same : other = key
  · subst same
    exact new buf (by simpa using stored)
  · exact kept other buf (by simpa [same] using stored)

theorem addFragment_kept {now : Nat} (kept : Kept d b) (like : Like d f) :
    Yields (b.addFragment f now) fun r => Kept d r.2 ∧
      ∀ x ∈ r.1, d.encapsulatedMsg.isSome ∧ x.byteLength < d.headerLength + 65536 := by
  have own := take_kept kept like
  rw [addFragment]
  refine yields_ite (fun complete => ?_) fun _ => .ok ⟨kept.update _ ?_, by simp⟩
  · cases stored : (((b.bufs f.key).getD {}).take f).datagram with
    | none => exact .error
    | some x =>
      have content := own x stored
      refine .ite .error (.ok ⟨kept.update _ (by simp), ?_⟩)
      rintro _ ⟨⟩
      exact ⟨content.1, by
        have := (((b.bufs f.key).getD {}).take f).buf.getTotalLength.toNat_lt
        simp only [content.2]
        omega⟩
  · rintro _ ⟨⟩
    exact own

theorem deliver_kept (fragments : ∀ a ∈ arrivals, a.1.isFragment ∧ Like d a.1) :
    Yields (deliver arrivals) fun s => Kept d s.2 ∧
      ∀ x ∈ s.1, d.encapsulatedMsg.isSome ∧ x.byteLength < d.headerLength + 65536 := by
  induction arrivals using List.reverseRecOn with
  | nil => exact .ok ⟨nofun, nofun⟩
  | append_singleton arrivals a ih =>
    rw [deliver_append]
    refine (ih fun x hx => fragments x (mem_append_left _ hx)).bind fun s ⟨kept, out⟩ => ?_
    obtain ⟨proper, like⟩ := fragments a (by simp)
    rw [reassembleAndDeliver, if_pos proper]
    have added := @addFragment_kept _ _ _ a.2 kept like
    cases result : s.2.addFragment a.1 a.2 with
    | error e => exact .error
    | ok r =>
      obtain ⟨kept', returned⟩ := added r result
      refine .ok ⟨kept', fun x hx => ?_⟩
      obtain hx | hx := mem_append.mp hx
      · exact out x hx
      · exact returned x (by simpa using hx)

theorem uncut_of_partition (whole : Whole d) (room : ∀ m ∈ mtus, d.headerLength < m)
    (partition : Partition d.payloadLength (travel mtus [d])) : Uncut mtus [d] := by
  refine (positions_travel room (by simp [Like.refl])).2 ?_
  rw [positions, weight_of_cover partition.once, positions,
    weight_of_cover (whole_partition whole).once]

/-- A partition arrives and is put together, unless a datagram that some link is too narrow for must
not be cut, is longer than 16 bits can say, has no content, or is cut again behind its start. -/
theorem arrives_iff (whole : Whole d) (room : ∀ m ∈ mtus, d.headerLength < m) :
    Arrives mtus d ↔ (∀ m ∈ mtus, d.byteLength ≤ m) ∨
      d.dontFragment = false ∧ d.payloadLength ≤ 65535 ∧ d.encapsulatedMsg.isSome ∧
      Uncut mtus [d] := by
  by_cases fits : ∀ m ∈ mtus, d.byteLength ≤ m
  · refine iff_of_true ⟨?_, fun arrivals perm => ?_⟩ (.inl fits)
    · rw [travel_fits fits]
      exact whole_partition whole
    · rw [travel_fits fits, perm_singleton, map_eq_singleton_iff] at perm
      obtain ⟨a, rfl, rfl⟩ := perm
      refine ⟨a.1, {}, ?_, rfl⟩
      simp [deliver, reassembleAndDeliver, isFragment, whole.fragmentOffset, whole.moreFragments]
  obtain ⟨proper, locked⟩ := travel_narrow room fits
  have like := @travel_like mtus d [d] room (by simp [Like.refl])
  rw [or_iff_right fits]
  constructor
  · rintro ⟨partition, delivers⟩
    have some : travel mtus [d] ≠ [] := by
      intro none
      have one := partition.one
      rw [none] at one
      cases one
    obtain ⟨r, b, delivered, same⟩ :=
      delivers ((travel mtus [d]).map (·, 0)) (by simp [Function.comp_def])
    obtain ⟨-, out⟩ :=
      deliver_kept (by simpa using fun f hf => ⟨proper f hf, (like f hf).1⟩) _ delivered
    obtain ⟨content, short⟩ := out r mem_cons_self
    refine ⟨by simpa using mt locked some, ?_, content, ?_⟩
    · have := whole.byteLength
      omega
    · exact uncut_of_partition whole room partition
  · rintro ⟨may, short, content, uncut⟩
    have payload : 0 < d.payloadLength := by
      push Not at fits
      obtain ⟨m, hm, long⟩ := fits
      have := room m hm
      rw [payloadLength]
      omega
    have pieces := (whole_pieces whole payload).travel room may uncut
    have some : travel mtus [d] ≠ [] := by
      intro none
      have ends := pieces.tiles
      rw [none] at ends
      exact payload.ne ends
    exact ⟨partition_of_tiles pieces.tiles some pieces.last, fun arrivals perm =>
      deliver_pieces pieces whole some (pieces.restorable proper some (by omega) content) perm⟩

end Delivery

theorem packet_forward (content : Option Nat) :
    forward 120 [packet false content] = cut 120 (packet false content) := by
  rw [forward, flatMap_singleton, fragmentAndSend_long (packet_long false content)]
  rfl

theorem packet_arrives : Arrives [120, 1500] (packet false (some 7)) := by
  refine (arrives_iff (packet_whole false (some 7)) (by simp [packet])).mpr
    (.inr ⟨rfl, by decide, rfl, ?_⟩)
  simp only [Uncut, packet_forward, packet_cut]
  exact ⟨by decide, by decide, trivial⟩

/-- The second half is cut into pieces at offsets 0 and 50. -/
theorem packet_cut_twice : (∀ m ∈ [120, 70], (packet false (some 7)).headerLength < m) ∧
    ¬ Arrives [120, 70] (packet false (some 7)) := by
  have room : ∀ m ∈ [120, 70], (packet false (some 7)).headerLength < m := by decide
  refine ⟨room, fun ⟨partition, _⟩ => ?_⟩
  have uncut := uncut_of_partition (packet_whole false (some 7)) room partition
  simp only [Uncut, packet_forward, packet_cut] at uncut
  exact absurd uncut.2.1 (by decide)

end IP

end Srwsn
