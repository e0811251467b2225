import Srwsn.Lib.Tiling
import Srwsn.Lib.Outcome

/-! The reassembly of fragmented IPv4 datagrams. -/
namespace Srwsn

open List Function

/-- Lengths are in bytes. `encapsulatedMsg` is the transport packet, by its number. -/
structure IPDatagram where
  identification : Nat
  srcAddress : UInt32
  destAddress : UInt32
  headerLength : Nat
  byteLength : Nat
  moreFragments : Bool
  dontFragment : Bool
  fragmentOffset : Nat
  encapsulatedMsg : Option Nat
deriving DecidableEq

namespace IPDatagram

def payloadLength (d : IPDatagram) : Nat := d.byteLength - d.headerLength

def stop (d : IPDatagram) : Nat := d.fragmentOffset + d.payloadLength

def isFragment (d : IPDatagram) : Bool := d.fragmentOffset != 0 || d.moreFragments

end IPDatagram

structure ReassemblyBuffer.Region where
  beg : UInt16
  stop : UInt16
  islast : Bool
deriving DecidableEq

structure ReassemblyBuffer where
  main : ReassemblyBuffer.Region := ⟨0, 0, false⟩
  fragments : List ReassemblyBuffer.Region := []
deriving DecidableEq

namespace ReassemblyBuffer

def mergePass : Region → List Region → Region × List Region × Bool
  | main, [] => (main, [], false)
  | main, frag :: rest =>
    if main.stop = frag.beg then
      let later :=
        mergePass { main with stop := frag.stop, islast := main.islast || frag.islast } rest
      (later.1, later.2.1, true)
    else if main.beg = frag.stop then
      let later := mergePass { main with beg := frag.beg } rest
      (later.1, later.2.1, true)
    else if main.beg ≤ frag.beg ∧ frag.stop ≤ main.stop then
      let later := mergePass main rest
      (later.1, later.2.1, true)
    else
      let later := mergePass main rest
      (later.1, frag :: later.2.1, later.2.2)

/-- Each round but the last deletes a fragment, so the rounds are fewer than the fuel. -/
def mergeRounds : Nat → ReassemblyBuffer → ReassemblyBuffer
  | 0, b => b
  | n + 1, b =>
    let round := mergePass b.main b.fragments
    if round.2.2 then mergeRounds n ⟨round.1, round.2.1⟩ else ⟨round.1, round.2.1⟩

def mergeFragments (b : ReassemblyBuffer) : ReassemblyBuffer :=
  mergeRounds (b.fragments.length + 1) b

def merge (r : Region) (b : ReassemblyBuffer) : ReassemblyBuffer :=
  if b.main.stop = r.beg then
    mergeFragments { b with
      main := { b.main with stop := r.stop, islast := b.main.islast || r.islast } }
  else if b.main.beg = r.stop then
    mergeFragments { b with main := { b.main with beg := r.beg } }
  else if b.main.stop < r.beg ∨ r.stop < b.main.beg then
    { b with fragments := b.fragments ++ [r] }
  else b

def isComplete (b : ReassemblyBuffer) : Bool := b.main.beg == 0 && b.main.islast

def getTotalLength (b : ReassemblyBuffer) : UInt16 := b.main.stop

end ReassemblyBuffer

structure IPFragBuf.Key where
  id : UInt16
  src : UInt32
  dest : UInt32
deriving DecidableEq

def IPDatagram.key (d : IPDatagram) : IPFragBuf.Key :=
  ⟨UInt16.ofNat d.identification, d.srcAddress, d.destAddress⟩

def IPDatagram.region (d : IPDatagram) : ReassemblyBuffer.Region :=
  ⟨UInt16.ofNat d.fragmentOffset, UInt16.ofNat (d.fragmentOffset + d.payloadLength),
    !d.moreFragments⟩

structure IPFragBuf.DatagramBuffer where
  buf : ReassemblyBuffer := {}
  datagram : Option IPDatagram := none
  lastupdate : Nat := 0

structure IPFragBuf where
  bufs : IPFragBuf.Key → Option IPFragBuf.DatagramBuffer := fun _ => none

/-- A completed datagram that is a null pointer, and an erase through the iterator `end()`. -/
inductive FragFault where
  | nullDatagram
  | invalidIterator
deriving DecidableEq

namespace IPFragBuf

def DatagramBuffer.take (datagram : IPDatagram) (b : DatagramBuffer) : DatagramBuffer :=
  { b with
    buf := b.buf.merge datagram.region
    datagram := if datagram.encapsulatedMsg.isSome then some datagram else b.datagram }

def addFragment (datagram : IPDatagram) (now : Nat) (b : IPFragBuf) :
    Except FragFault (Option IPDatagram × IPFragBuf) :=
  let i := b.bufs datagram.key
  let buf := (i.getD {}).take datagram
  if buf.buf.isComplete then
    match buf.datagram with
    | none => .error .nullDatagram
    | some ret =>
      -- the iterator was obtained before the buffer was created
      if i.isNone then .error .invalidIterator
      else .ok (some { ret with
          byteLength := ret.headerLength + buf.buf.getTotalLength.toNat
          fragmentOffset := 0
          moreFragments := false }, ⟨update b.bufs datagram.key none⟩)
  else .ok (none, ⟨update b.bufs datagram.key (some { buf with lastupdate := now })⟩)

def receive (arrivals : List (IPDatagram × Nat)) (b : IPFragBuf) : Except FragFault IPFragBuf :=
  arrivals.foldlM (fun b a => (addFragment a.1 a.2 b).map Prod.snd) b

end IPFragBuf

open Tiling

structure Fragmented where
  key : IPFragBuf.Key
  length : Nat
  pieces : List IPDatagram
  keyed : ∀ d ∈ pieces, d.key = key
  tiled : Tiles IPDatagram.fragmentOffset IPDatagram.stop 0 pieces length
  last : ∀ d ∈ pieces, d.moreFragments = false ↔ d.stop = length
  proper : ∀ d ∈ pieces, d.isFragment

namespace ReassemblyBuffer

/-- Where a buffer stands when the fragments in `arrived` have come in: the range it has reached
from offset 0, and fragments that may still have to be merged. -/
structure Loose (c : Fragmented) (arrived : List IPDatagram) (main : Region)
    (fragments : List Region) : Prop where
  begins : main.beg = 0
  cut : IsCut IPDatagram.fragmentOffset c.pieces c.length main.stop.toNat
  last : main.islast ↔ main.stop.toNat = c.length
  inside : ∀ d ∈ c.pieces, d.stop ≤ main.stop.toNat → d ∈ arrived
  stored : ∀ r ∈ fragments, ∃ d ∈ c.pieces, d ∈ arrived ∧ d.region = r
  held : ∀ d ∈ c.pieces, d ∈ arrived → d.stop ≤ main.stop.toNat ∨ d.region ∈ fragments

structure Gathered (c : Fragmented) (arrived : List IPDatagram) (b : ReassemblyBuffer) : Prop
    extends Loose c arrived b.main b.fragments where
  beyond : ∀ r ∈ b.fragments, b.main.stop < r.beg

section Merging

variable {c : Fragmented} {arrived : List IPDatagram} {main r : Region}
  {fragments rest : List Region} {d : IPDatagram}

theorem region_toNat (short : c.length < 65536) (member : d ∈ c.pieces) :
    d.region.beg.toNat = d.fragmentOffset ∧ d.region.stop.toNat = d.stop := by
  have inside := c.tiled.mem member
  have first : d.fragmentOffset < 65536 := by omega
  have last : d.stop < 65536 := by omega
  exact ⟨UInt16.toNat_ofNat_of_lt first, UInt16.toNat_ofNat_of_lt last⟩

theorem Loose.arrive (loose : Loose c arrived main fragments) (member : d ∈ c.pieces) :
    Loose c (arrived ++ [d]) main (fragments ++ [d.region]) where
  begins := loose.begins
  cut := loose.cut
  last := loose.last
  inside e he below := mem_append_left _ (loose.inside e he below)
  stored s hs := by
    obtain hs | hs := mem_append.mp hs
    · obtain ⟨e, he, came, same⟩ := loose.stored s hs
      exact ⟨e, he, mem_append_left _ came, same⟩
    · exact ⟨d, member, by simp, (mem_singleton.mp hs).symm⟩
  held e he came := by
    obtain came | came := mem_append.mp came
    · exact (loose.held e he came).imp_right (mem_append_left _)
    · obtain rfl := mem_singleton.mp came
      exact .inr (by simp)

section

variable (short : c.length < 65536) (loose : Loose c arrived main fragments)

include short loose

theorem Loose.absorb (split : ∀ s, s ∈ fragments ↔ s = r ∨ s ∈ rest) (follows : main.stop = r.beg) :
    Loose c arrived { main with stop := r.stop, islast := main.islast || r.islast } rest := by
  obtain ⟨d, member, came, rfl⟩ := loose.stored r ((split r).mpr (.inl rfl))
  obtain ⟨begNat, stopNat⟩ := region_toNat short member
  have bounds := c.tiled.mem member
  have start : main.stop.toNat = d.fragmentOffset := by rw [follows, begNat]
  refine ⟨loose.begins, ?_, ?_, ?_, ?_, ?_⟩
  · rw [stopNat]
    exact c.tiled.stop_cut member
  · have before : main.islast = false := by
      have := loose.last
      simp only [Bool.eq_false_iff, ne_eq, this]
      omega
    rw [stopNat, before, Bool.false_or, ← c.last d member]
    simp [IPDatagram.region]
  · intro e he below
    rw [stopNat] at below
    obtain early | late := c.tiled.apart he loose.cut
    · exact loose.inside e he early
    · rwa [c.tiled.eq_of_inside member he (by omega) below]
  · exact fun s hs => loose.stored s ((split s).mpr (.inr hs))
  · intro e he here
    rw [stopNat]
    obtain early | kept := loose.held e he here
    · exact .inl (by omega)
    · obtain same | kept := (split _).mp kept
      · have : e.stop = d.stop := by rw [← stopNat, ← same, (region_toNat short he).2]
        exact .inl this.le
      · exact .inr kept

theorem Loose.drop (split : ∀ s, s ∈ fragments ↔ s = r ∨ s ∈ rest) (within : r.stop ≤ main.stop) :
    Loose c arrived main rest where
  begins := loose.begins
  cut := loose.cut
  last := loose.last
  inside := loose.inside
  stored s hs := loose.stored s ((split s).mpr (.inr hs))
  held e he here := by
    obtain early | kept := loose.held e he here
    · exact .inl early
    · obtain rfl | kept := (split _).mp kept
      · have stopNat := (region_toNat short he).2
        have := UInt16.le_iff_toNat_le.mp within
        exact .inl (by omega)
      · exact .inr kept

theorem Loose.not_before (stored : r ∈ fragments) : main.beg ≠ r.stop := by
  obtain ⟨d, member, -, rfl⟩ := loose.stored r stored
  have bounds := c.tiled.mem member
  have stopNat := (region_toNat short member).2
  rw [loose.begins]
  intro same
  rw [← same, UInt16.toNat_zero] at stopNat
  omega

end

theorem mergePass_loose (short : c.length < 65536) {aside : List Region}
    (loose : Loose c arrived main (aside ++ fragments)) :
    Loose c arrived (mergePass main fragments).1 (aside ++ (mergePass main fragments).2.1) := by
  induction fragments generalizing main aside with
  | nil => exact loose
  | cons frag fragments ih =>
    have split : ∀ s, s ∈ aside ++ frag :: fragments ↔ s = frag ∨ s ∈ aside ++ fragments := by
      intro s
      simp only [mem_append, mem_cons]
      tauto
    rw [mergePass]
    split_ifs with follows precedes within
    · exact ih (loose.absorb short split follows)
    · exact absurd precedes (loose.not_before short ((split frag).mpr (.inl rfl)))
    · exact ih (loose.drop short split within.2)
    · have moved := @ih main (aside ++ [frag]) (by simpa using loose)
      simpa using moved

theorem mergePass_again (main : Region) (fragments : List Region) :
    (mergePass main fragments).2.1.length + (mergePass main fragments).2.2.toNat ≤
    fragments.length := by
  induction fragments generalizing main with
  | nil => rfl
  | cons frag fragments ih =>
    rw [mergePass]
    split_ifs <;> simp only [length_cons, Bool.toNat_true]
    · have := ih { main with stop := frag.stop, islast := main.islast || frag.islast }
      omega
    · have := ih { main with beg := frag.beg }
      omega
    · have := ih main
      omega
    · have := ih main
      omega

theorem mergePass_settled (settled : (mergePass main fragments).2.2 = false) :
    (mergePass main fragments).1 = main ∧ (mergePass main fragments).2.1 = fragments ∧
      ∀ r ∈ fragments, main.stop ≠ r.beg ∧ ¬ (main.beg ≤ r.beg ∧ r.stop ≤ main.stop) := by
  induction fragments with
  | nil => exact ⟨rfl, rfl, nofun⟩
  | cons frag fragments ih =>
    rw [mergePass] at settled ⊢
    split_ifs at settled ⊢ with follows precedes within
    obtain ⟨same, all, none⟩ := ih settled
    refine ⟨same, congrArg (frag :: ·) all, fun r hr => ?_⟩
    cases hr with
    | head => exact ⟨follows, within⟩
    | tail _ hr => exact none r hr

variable {b : ReassemblyBuffer}

theorem Loose.gathered (short : c.length < 65536) (loose : Loose c arrived b.main b.fragments)
    (settled : ∀ r ∈ b.fragments, b.main.stop ≠ r.beg ∧
      ¬ (b.main.beg ≤ r.beg ∧ r.stop ≤ b.main.stop)) :
    Gathered c arrived b := by
  refine ⟨loose, fun r hr => ?_⟩
  obtain ⟨apart, outside⟩ := settled r hr
  obtain ⟨d, member, -, rfl⟩ := loose.stored r hr
  obtain ⟨begNat, stopNat⟩ := region_toNat short member
  rw [loose.begins] at outside
  simp only [ne_eq, ← UInt16.toNat_inj, UInt16.le_iff_toNat_le, UInt16.lt_iff_toNat_lt,
    begNat, stopNat] at apart outside ⊢
  obtain early | late := c.tiled.apart member loose.cut
  · exact absurd ⟨Nat.zero_le _, early⟩ outside
  · omega

theorem mergeRounds_gathered (short : c.length < 65536) {n : Nat}
    (enough : b.fragments.length < n) (loose : Loose c arrived b.main b.fragments) :
    Gathered c arrived (mergeRounds n b) := by
  induction n generalizing b with
  | zero => omega
  | succ n ih =>
    have round := @mergePass_loose c arrived b.main b.fragments short [] loose
    have fewer := mergePass_again b.main b.fragments
    rw [mergeRounds]
    split_ifs with again
    · rw [again, Bool.toNat_true] at fewer
      exact ih (by simp only; omega) round
    · obtain ⟨same, all, none⟩ := mergePass_settled (Bool.eq_false_iff.mpr again)
      refine Loose.gathered short round ?_
      simp only [same, all]
      exact none

theorem merge_gathered (short : c.length < 65536) (gathered : Gathered c arrived b)
    (member : d ∈ c.pieces) : Gathered c (arrived ++ [d]) (b.merge d.region) := by
  have loose := gathered.arrive member
  have split : ∀ s, s ∈ b.fragments ++ [d.region] ↔ s = d.region ∨ s ∈ b.fragments := by
    simp [or_comm]
  rw [merge]
  split_ifs with follows precedes disjoint
  · exact mergeRounds_gathered short (Nat.lt_succ_self _) (loose.absorb short split follows)
  · exact absurd precedes (loose.not_before short (by simp))
  · refine ⟨loose, fun r hr => ?_⟩
    obtain hr | rfl := (mem_append.mp hr).imp_right mem_singleton.mp
    · exact gathered.beyond r hr
    · rw [loose.begins] at disjoint
      exact disjoint.resolve_right (by simp)
  · have within : d.region.stop ≤ b.main.stop := by
      obtain ⟨begNat, stopNat⟩ := region_toNat short member
      simp only [not_or, ← UInt16.toNat_inj, UInt16.le_iff_toNat_le, UInt16.lt_iff_toNat_lt, begNat,
        stopNat] at disjoint follows ⊢
      obtain early | late := c.tiled.apart member loose.cut
      · exact early
      · omega
    exact ⟨loose.drop short split within, gathered.beyond⟩

theorem Gathered.complete_iff (short : c.length < 65536)
    (gathered : Gathered c arrived b) : b.isComplete ↔ ∀ d ∈ c.pieces, d ∈ arrived := by
  simp only [isComplete, gathered.begins, beq_self_eq_true, Bool.true_and, gathered.last]
  constructor
  · intro reached d member
    exact gathered.inside d member (reached ▸ (c.tiled.mem member).2.2)
  · intro all
    obtain reached | ⟨d, member, begins⟩ := gathered.cut
    · exact reached
    · have bounds := c.tiled.mem member
      obtain early | kept := gathered.held d member (all d member)
      · omega
      · have beyond := UInt16.lt_iff_toNat_lt.mp (gathered.beyond _ kept)
        rw [(region_toNat short member).1] at beyond
        omega

theorem mem_frame (other : d ∉ c.pieces) {e : IPDatagram} (he : e ∈ c.pieces) : e ∈ arrived ++ [d] ↔
    e ∈ arrived := by
  rw [mem_append, mem_singleton, or_iff_left]
  rintro rfl
  exact other he

theorem Gathered.frame (gathered : Gathered c arrived b) (other : d ∉ c.pieces) :
    Gathered c (arrived ++ [d]) b where
  begins := gathered.begins
  cut := gathered.cut
  last := gathered.last
  inside e he below := mem_append_left _ (gathered.inside e he below)
  stored r hr := by
    obtain ⟨e, he, came, same⟩ := gathered.stored r hr
    exact ⟨e, he, mem_append_left _ came, same⟩
  held e he came := gathered.held e he ((mem_frame other he).mp came)
  beyond := gathered.beyond

end Merging

end ReassemblyBuffer

namespace Fragmented

variable {c : Fragmented} {arrived : List IPDatagram} {d : IPDatagram}

def Started (c : Fragmented) (arrived : List IPDatagram) : Prop := ∃ d ∈ c.pieces, d ∈ arrived
  deriving Decidable

def Complete (c : Fragmented) (arrived : List IPDatagram) : Prop := ∀ d ∈ c.pieces, d ∈ arrived
  deriving Decidable

/-- Offsets are kept in 16 bits, and only a fragment with content is kept as the datagram. -/
def Restorable (c : Fragmented) : Prop :=
  c.length < 65536 ∧ ∃ d ∈ c.pieces, d.encapsulatedMsg.isSome

theorem started_append (member : d ∈ c.pieces) : c.Started (arrived ++ [d]) := ⟨d, member, by simp⟩

theorem started_frame (other : d ∉ c.pieces) : c.Started (arrived ++ [d]) ↔ c.Started arrived :=
  exists_congr fun _ => and_congr_right fun he => ReassemblyBuffer.mem_frame other he

theorem complete_frame (other : d ∉ c.pieces) : c.Complete (arrived ++ [d]) ↔ c.Complete arrived :=
  forall₂_congr fun _ he => ReassemblyBuffer.mem_frame other he

theorem not_complete_first (member : d ∈ c.pieces) (first : ¬ c.Started arrived) :
    ¬ c.Complete (arrived ++ [d]) := by
  intro all
  have only : ∀ e ∈ c.pieces, e = d := by
    intro e he
    obtain came | came := mem_append.mp (all e he)
    · exact absurd ⟨e, he, came⟩ first
    · exact mem_singleton.mp came
  have bounds := c.tiled.mem member
  have begins : d.fragmentOffset = 0 := by
    obtain none | ⟨e, he, begins⟩ := c.tiled.low_cut
    · omega
    · rwa [only e he] at begins
  have whole : d.stop = c.length := by
    obtain whole | ⟨e, he, begins⟩ := c.tiled.stop_cut member
    · exact whole
    · rw [only e he] at begins
      omega
  have proper := c.proper d member
  rw [IPDatagram.isFragment, begins, (c.last d member).mpr whole] at proper
  cases proper

end Fragmented

namespace IPFragBuf

open ReassemblyBuffer

variable {c : Fragmented} {arrived : List IPDatagram} {d : IPDatagram}

structure DatagramBuffer.Holds (c : Fragmented) (arrived : List IPDatagram) (b : DatagramBuffer) :
    Prop where
  gathered : Gathered c arrived b.buf
  content : ∀ d ∈ c.pieces, d ∈ arrived → d.encapsulatedMsg.isSome → b.datagram.isSome
  kept : ∀ d ∈ b.datagram, d ∈ c.pieces

theorem DatagramBuffer.holds_new (member : d ∈ c.pieces) (first : ¬ c.Started arrived) :
    Holds c arrived {} where
  gathered := by
    have bounds := c.tiled.mem member
    refine ⟨⟨rfl, c.tiled.low_cut, ⟨nofun, fun none => ?_⟩, fun e he below => ?_, nofun,
      fun e he came => absurd ⟨e, he, came⟩ first⟩, nofun⟩
    · change 0 = c.length at none
      omega
    · have := c.tiled.mem he
      change e.stop ≤ 0 at below
      omega
  content e he came := absurd ⟨e, he, came⟩ first
  kept := nofun

variable {b : DatagramBuffer}

theorem DatagramBuffer.Holds.take (short : c.length < 65536)
    (holds : b.Holds c arrived) (member : d ∈ c.pieces) : (b.take d).Holds c (arrived ++ [d]) where
  gathered := merge_gathered short holds.gathered member
  content e he came some := by
    rw [DatagramBuffer.take]
    split_ifs with content
    · rfl
    · obtain came | came := mem_append.mp came
      · exact holds.content e he came some
      · exact absurd (mem_singleton.mp came ▸ some) content
  kept e he := by
    rw [DatagramBuffer.take] at he
    split_ifs at he with content
    · cases he
      exact member
    · exact holds.kept e he

theorem DatagramBuffer.Holds.frame (holds : b.Holds c arrived) (other : d ∉ c.pieces) :
    b.Holds c (arrived ++ [d]) where
  gathered := holds.gathered.frame other
  content e he came := holds.content e he ((mem_frame other he).mp came)
  kept := holds.kept

structure Holding (ds : List Fragmented) (arrived : List IPDatagram) (b : IPFragBuf) : Prop where
  absent : ∀ c ∈ ds, b.bufs c.key = none → c.Started arrived → c.Complete arrived
  present : ∀ key buf, b.bufs key = some buf →
    ∃ c ∈ ds, c.key = key ∧ c.Started arrived ∧ ¬ c.Complete arrived ∧ buf.Holds c arrived

def restore (c : Fragmented) (d : IPDatagram) : IPDatagram :=
  { d with byteLength := d.headerLength + c.length, fragmentOffset := 0, moreFragments := false }

def Returns (c : Fragmented) (arrived : List IPDatagram) (r : Option IPDatagram) : Prop :=
  if c.Complete arrived then ∃ d ∈ c.pieces, r = some (restore c d) else r = none

variable {r : Option IPDatagram}

theorem Returns.complete (returns : Returns c arrived r) (all : c.Complete arrived) :
    ∃ d ∈ c.pieces, r = some (restore c d) := by
  rwa [Returns, if_pos all] at returns

theorem Returns.missing (returns : Returns c arrived r) (more : ¬ c.Complete arrived) :
    r = none := by
  rwa [Returns, if_neg more] at returns

section Arrivals

variable {ds : List Fragmented} {b : IPFragBuf}

theorem not_piece {e : Fragmented} (member : d ∈ c.pieces) (other : e.key ≠ c.key) : d ∉ e.pieces :=
  fun also => other ((e.keyed d also).symm.trans (c.keyed d member))

section

variable (holding : Holding ds arrived b) (distinct : ∀ e ∈ ds, e.key = c.key → e = c)
  (member : d ∈ c.pieces)

include holding distinct member

theorem Holding.put {entry : Option DatagramBuffer}
    (absent : entry = none → c.Complete (arrived ++ [d]))
    (present : ∀ buf, entry = some buf → c ∈ ds ∧ ¬ c.Complete (arrived ++ [d]) ∧
      buf.Holds c (arrived ++ [d])) :
    Holding ds (arrived ++ [d]) ⟨update b.bufs c.key entry⟩ where
  absent e he missing started := by
    by_cases same : e.key = c.key
    · obtain rfl := distinct e he same
      change update b.bufs e.key entry e.key = none at missing
      exact absent (by rwa [update_self] at missing)
    · have other := not_piece member same
      change update b.bufs c.key entry e.key = none at missing
      rw [update_of_ne same] at missing
      rw [Fragmented.started_frame other] at started
      rw [Fragmented.complete_frame other]
      exact holding.absent e he missing started
  present key buf stored := by
    by_cases same : key = c.key
    · subst same
      change update b.bufs c.key entry c.key = some buf at stored
      obtain ⟨known, more, holds⟩ := present buf (by rwa [update_self] at stored)
      exact ⟨c, known, rfl, Fragmented.started_append member, more, holds⟩
    · change update b.bufs c.key entry key = some buf at stored
      rw [update_of_ne same] at stored
      obtain ⟨e, he, rfl, started, more, holds⟩ := holding.present key buf stored
      have other := not_piece member same
      exact ⟨e, he, rfl, (Fragmented.started_frame other).mpr started,
        fun all => more ((Fragmented.complete_frame other).mp all), holds.frame other⟩

theorem Holding.take (known : c ∈ ds) (more : ¬ c.Complete arrived) (short : c.length < 65536) :
    (((b.bufs c.key).getD {}).take d).Holds c (arrived ++ [d]) ∧
    (b.bufs c.key = none → ¬ c.Started arrived) := by
  cases stored : b.bufs c.key with
  | none =>
    have first : ¬ c.Started arrived := fun started => more (holding.absent c known stored started)
    exact ⟨(DatagramBuffer.holds_new member first).take short member, fun _ => first⟩
  | some buf =>
    obtain ⟨e, he, same, -, -, holds⟩ := holding.present c.key buf stored
    obtain rfl := distinct e he same
    exact ⟨holds.take short member, nofun⟩

theorem addFragment_spec (known : c ∈ ds) (more : ¬ c.Complete arrived) (restorable : c.Restorable)
    (now : Nat) : ∃ r b', addFragment d now b = .ok (r, b') ∧ Holding ds (arrived ++ [d]) b' ∧
      Returns c (arrived ++ [d]) r := by
  obtain ⟨short, e, he, content⟩ := restorable
  obtain ⟨holds, first⟩ := holding.take distinct member known more short
  have complete := holds.gathered.complete_iff short
  rw [← Fragmented.Complete] at complete
  have key := c.keyed d member
  simp only [addFragment, key, Returns]
  by_cases all : c.Complete (arrived ++ [d])
  · -- every fragment has arrived, the one with the content among them
    obtain ⟨x, kept⟩ := Option.isSome_iff_exists.mp (holds.content e he (all e he) content)
    have old : (b.bufs c.key).isNone = false := by
      cases stored : b.bufs c.key with
      | none => exact absurd all (Fragmented.not_complete_first member (first stored))
      | some buf => rfl
    have total :=
      holds.gathered.last.mp (by simpa [isComplete, holds.gathered.begins] using complete.mpr all)
    rw [if_pos (complete.mpr all), kept]
    simp only [old, Bool.false_eq_true, if_false, if_pos all]
    exact ⟨_, _, rfl, holding.put distinct member (fun _ => all) nofun, x, holds.kept x kept,
      by rw [getTotalLength, total, restore]⟩
  · simp only [if_neg (fun done => all (complete.mp done)), if_neg all]
    refine ⟨_, _, rfl, holding.put distinct member nofun ?_, rfl⟩
    rintro _ ⟨⟩
    exact ⟨known, all, holds.gathered, holds.content, holds.kept⟩

end

/-- Fragments in any order and with duplicates, none of a datagram that is already complete. -/
def Interleaving (ds : List Fragmented) (arrivals : List (IPDatagram × Nat)) : Prop :=
  ∀ before a after, arrivals = before ++ a :: after →
    ∃ c ∈ ds, a.1 ∈ c.pieces ∧ ¬ c.Complete (before.map Prod.fst)

variable {arrivals : List (IPDatagram × Nat)}

theorem Interleaving.init {a : IPDatagram × Nat}
    (valid : Interleaving ds (arrivals ++ [a])) : Interleaving ds arrivals := by
  rintro before x after rfl
  exact valid before x (after ++ [a]) (by simp)

theorem receive_append (arrivals : List (IPDatagram × Nat)) (a : IPDatagram × Nat) :
    receive (arrivals ++ [a]) b = receive arrivals b >>= fun b =>
    (addFragment a.1 a.2 b).map Prod.snd := by
  simp [receive, foldlM_append]

theorem holding_new : Holding ds [] {} where
  absent c _ _ started := by
    obtain ⟨d, -, came⟩ := started
    cases came
  present := nofun

variable (distinct : (ds.map Fragmented.key).Nodup) (restorable : ∀ c ∈ ds, c.Restorable)

include distinct restorable

theorem addFragment_next {a : IPDatagram × Nat} (valid : Interleaving ds (arrivals ++ [a]))
    (holding : Holding ds (arrivals.map Prod.fst) b) :
    ∃ r b', addFragment a.1 a.2 b = .ok (r, b') ∧ Holding ds ((arrivals ++ [a]).map Prod.fst) b' ∧
      ∀ c ∈ ds, a.1 ∈ c.pieces → Returns c ((arrivals ++ [a]).map Prod.fst) r := by
  obtain ⟨c, known, member, more⟩ := valid arrivals a [] rfl
  have unique : ∀ e ∈ ds, e.key = c.key → e = c :=
    fun e he same => inj_on_of_nodup_map distinct he known same
  obtain ⟨r, b', added, after, returns⟩ :=
    addFragment_spec holding unique member known more (restorable c known) a.2
  rw [map_append]
  refine ⟨r, b', added, after, fun e he also => ?_⟩
  obtain rfl := unique e he ((e.keyed _ also).symm.trans (c.keyed _ member))
  exact returns

theorem receive_holding (valid : Interleaving ds arrivals) :
    ∃ b, receive arrivals {} = .ok b ∧ Holding ds (arrivals.map Prod.fst) b := by
  induction arrivals using List.reverseRecOn with
  | nil => exact ⟨_, rfl, holding_new⟩
  | append_singleton arrivals a ih =>
    obtain ⟨b, received, holding⟩ := ih valid.init
    obtain ⟨r, b', added, after, -⟩ := addFragment_next distinct restorable valid holding
    refine ⟨b', ?_, after⟩
    rw [receive_append, received]
    change (addFragment a.1 a.2 b).map Prod.snd = _
    rw [added]
    rfl

theorem receive_addFragment {a : IPDatagram × Nat} (valid : Interleaving ds (arrivals ++ [a])) :
    ∃ b r b', receive arrivals {} = .ok b ∧ addFragment a.1 a.2 b = .ok (r, b') ∧
      Holding ds ((arrivals ++ [a]).map Prod.fst) b' ∧
      ∀ c ∈ ds, a.1 ∈ c.pieces → Returns c ((arrivals ++ [a]).map Prod.fst) r := by
  obtain ⟨b, received, holding⟩ := receive_holding distinct restorable valid.init
  obtain ⟨r, b', next⟩ := addFragment_next distinct restorable valid holding
  exact ⟨b, r, b', received, next⟩

/-- After the arrivals, one more fragment: its datagram is returned just when it is complete, and
there are buffers for the incomplete datagrams only. -/
def Reassembles (ds : List Fragmented) (arrivals : List (IPDatagram × Nat)) (a : IPDatagram × Nat) :
    Prop :=
  ∃ b r b', receive arrivals {} = .ok b ∧ addFragment a.1 a.2 b = .ok (r, b') ∧
    (∀ c ∈ ds, a.1 ∈ c.pieces → Returns c ((arrivals ++ [a]).map Prod.fst) r) ∧
    ∀ key, (b'.bufs key).isSome ↔ ∃ c ∈ ds, c.key = key ∧
      c.Started ((arrivals ++ [a]).map Prod.fst) ∧ ¬ c.Complete ((arrivals ++ [a]).map Prod.fst)

theorem interleaving_reassembles {arrivals : List (IPDatagram × Nat)} {a : IPDatagram × Nat}
    (valid : Interleaving ds (arrivals ++ [a])) : Reassembles ds arrivals a := by
  obtain ⟨b, r, b', received, added, holding, returns⟩ :=
    receive_addFragment distinct restorable valid
  refine ⟨b, r, b', received, added, returns, fun key => ⟨fun some => ?_, ?_⟩⟩
  · obtain ⟨buf, stored⟩ := Option.isSome_iff_exists.mp some
    obtain ⟨e, he, same, started, more, -⟩ := holding.present key buf stored
    exact ⟨e, he, same, started, more⟩
  · rintro ⟨e, he, rfl, started, more⟩
    rw [Option.isSome_iff_ne_none]
    exact fun missing => more (holding.absent e he missing started)

end Arrivals

def firstHalf (content : Option Nat) : IPDatagram :=
  ⟨0, 1024, 2048, 24, 124, true, false, 0, content⟩

def secondHalf (content : Option Nat) : IPDatagram :=
  ⟨0, 1024, 2048, 24, 124, false, false, 100, content⟩

def halves (content : Option Nat) : Fragmented where
  key := ⟨0, 1024, 2048⟩
  length := 200
  pieces := [firstHalf content, secondHalf content]
  keyed := by simp [IPDatagram.key, firstHalf, secondHalf]
  tiled := by simp [Tiles, IPDatagram.stop, IPDatagram.payloadLength, firstHalf, secondHalf]
  last := by simp [IPDatagram.stop, IPDatagram.payloadLength, firstHalf, secondHalf]
  proper := by simp [IPDatagram.isFragment, firstHalf, secondHalf]

theorem halves_interleaving (content : Option Nat) :
    Interleaving [halves content] ([(secondHalf content, 0)] ++ [(firstHalf content, 1)]) := by
  have apart : firstHalf content ≠ secondHalf content := by simp [firstHalf, secondHalf]
  rintro (_ | ⟨x, _ | ⟨y, before⟩⟩) a after same
  · obtain ⟨rfl, -⟩ := List.cons.inj same
    refine ⟨_, mem_singleton_self _, by simp [halves], fun all => ?_⟩
    exact absurd (all (firstHalf content) (by simp [halves])) (by simp)
  · simp only [cons_append, nil_append, List.cons.injEq] at same
    obtain ⟨rfl, rfl, -⟩ := same
    refine ⟨_, mem_singleton_self _, by simp [halves], fun all => ?_⟩
    exact absurd (all (firstHalf content) (by simp [halves])) (by simpa using apart)
  · simp at same

theorem halves_reassemble :
    Reassembles [halves (some 7)] [(secondHalf (some 7), 0)] (firstHalf (some 7), 1) := by
  refine interleaving_reassembles (by decide) (fun c known => ?_) (halves_interleaving _)
  obtain rfl := mem_singleton.mp known
  exact ⟨by decide, firstHalf (some 7), by decide, rfl⟩

/-- Without content no fragment is kept, and the datagram that is complete is a null pointer. -/
theorem halves_without_content : ([halves none].map Fragmented.key).Nodup ∧
    Interleaving [halves none] ([(secondHalf none, 0)] ++ [(firstHalf none, 1)]) ∧
    ¬ Reassembles [halves none] [(secondHalf none, 0)] (firstHalf none, 1) := by
  refine ⟨by decide, halves_interleaving none, ?_⟩
  rintro ⟨b, r, b', received, added, -⟩
  cases received
  cases added

end IPFragBuf

end Srwsn
