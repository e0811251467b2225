import Srwsn.Lib.KeyMap
import Srwsn.Lib.Outcome
import Srwsn.Lib.Trace
import Srwsn.Link.MACAddress

/-! The relay unit of an Ethernet switch: learning addresses, ageing, and forwarding frames. -/
namespace Srwsn

open Outcome Trace KeyMap List

instance : LT MACAddress := ⟨fun a b => a.address < b.address⟩
instance : LE MACAddress := ⟨fun a b => a.address ≤ b.address⟩
instance : DecidableLT MACAddress := fun a b => inferInstanceAs (Decidable (a.address < b.address))

instance : Std.IsLinearOrder MACAddress where
  le_refl a := Std.le_refl a.address
  le_trans a b c := Std.le_trans (a := a.address) (b := b.address) (c := c.address)
  le_antisymm _ _ above below := MACAddress.ext_address (Std.le_antisymm above below)
  le_total a b := Std.le_total (a := a.address) (b := b.address)

instance : Std.LawfulOrderLT MACAddress where
  lt_iff a b := Std.lt_iff_le_and_not_ge (a := a.address) (b := b.address)

def SECOND : Nat := 10 ^ 12

structure AddressEntry where
  portno : Int
  insertionTime : Nat
  deriving DecidableEq

abbrev AddressTable := KeyMap MACAddress AddressEntry

structure EtherFrame where
  src : MACAddress
  dest : MACAddress
  deriving DecidableEq

inductive RelayFault where
  | noGate
  deriving DecidableEq

structure MACRelayUnitBase where
  numPorts : Nat
  addressTableSize : Nat
  agingTime : Nat
  addresstable : AddressTable := {}

def readAddressTable (lines : List (MACAddress × Int)) : AddressTable :=
  lines.foldl (fun table line => table.insert line.1 ⟨line.2, 0⟩) {}

namespace MACRelayUnitBase

def configure (numPorts : Nat) (addressTableSize : Int) (agingTime : Nat)
    (lines : List (MACAddress × Int)) : MACRelayUnitBase where
  numPorts := numPorts
  addressTableSize := addressTableSize.toNat
  agingTime := if 0 < agingTime then agingTime else 10 * SECOND
  addresstable := readAddressTable lines

variable (u : MACRelayUnitBase) (now : Nat)

def aged (entry : AddressEntry) : Bool :=
  decide (entry.insertionTime + u.agingTime ≤ now)

def removeAgedEntriesFromTable : MACRelayUnitBase :=
  { u with addresstable :=
    ⟨u.addresstable.entries.filter fun e => !u.aged now e.2, u.addresstable.sorted.filter _⟩ }

def oldest : Option MACAddress × Nat → List (MACAddress × AddressEntry) → Option MACAddress × Nat
  | best, [] => best
  | best, e :: rest =>
    if e.2.insertionTime < best.2 then oldest (some e.1, e.2.insertionTime) rest
      else oldest best rest

def oldestTableEntry : Option MACAddress :=
  (oldest (none, now + SECOND) u.addresstable.entries).1

def removeOldestTableEntry : MACRelayUnitBase :=
  match u.oldestTableEntry now with
  | some address => { u with addresstable := u.addresstable.erase address }
  | none => u

def full : Bool :=
  decide (u.addressTableSize ≠ 0) && decide (u.addresstable.entries.length = u.addressTableSize)

def makeRoom : MACRelayUnitBase :=
  if u.full then
    let swept := u.removeAgedEntriesFromTable now
    if swept.addresstable.entries.length = swept.addressTableSize then swept.removeOldestTableEntry
      now else swept
  else u

def updateTableWithAddress (address : MACAddress) (portno : Int) : MACRelayUnitBase :=
  match u.addresstable.find? address with
  | none =>
    let u := u.makeRoom now
    { u with addresstable := u.addresstable.insert address ⟨portno, now⟩ }
  | some _ => { u with addresstable := u.addresstable.modify address fun _ => ⟨portno, now⟩ }

def getPortForAddress (address : MACAddress) : Int × MACRelayUnitBase :=
  match u.addresstable.find? address with
  | none => (-1, u)
  | some entry =>
    if u.aged now entry then (-1, { u with addresstable := u.addresstable.erase address })
      else (entry.portno, u)

def broadcastFrame (inputport : Nat) : List Nat :=
  (List.range u.numPorts).filter (· ≠ inputport)

def handleAndDispatchFrame (frame : EtherFrame) (inputport : Nat) :
    Except RelayFault (List Nat × MACRelayUnitBase) :=
  let u := u.updateTableWithAddress now frame.src inputport
  if frame.dest.isBroadcast then .ok (u.broadcastFrame inputport, u)
  else
    let r := u.getPortForAddress now frame.dest
    if (inputport : Int) = r.1 then .ok ([], r.2)
    else if 0 ≤ r.1 then
      if r.1.toNat < u.numPorts then .ok ([r.1.toNat], r.2) else .error .noGate
    else .ok (r.2.broadcastFrame inputport, r.2)

variable {u : MACRelayUnitBase} {now : Nat} {address address' : MACAddress} {entry : AddressEntry}

theorem find?_removeAged : (u.removeAgedEntriesFromTable now).addresstable.find? address =
    some entry ↔ u.addresstable.find? address = some entry ∧ u.aged now entry = false := by
  simp only [find?_eq_some_iff, removeAgedEntriesFromTable, mem_filter, Bool.not_eq_true']

theorem oldest_mem (best : Option MACAddress × Nat) (l : List (MACAddress × AddressEntry)) :
    oldest best l = best ∨ ∃ e ∈ l, oldest best l = (some e.1, e.2.insertionTime) := by
  induction l generalizing best with
  | nil => exact .inl rfl
  | cons e rest ih =>
    unfold oldest
    split_ifs
    · rcases ih (some e.1, e.2.insertionTime) with same | ⟨d, inside, found⟩
      · exact .inr ⟨e, mem_cons_self, same⟩
      · exact .inr ⟨d, mem_cons_of_mem e inside, found⟩
    · rcases ih best with same | ⟨d, inside, found⟩
      · exact .inl same
      · exact .inr ⟨d, mem_cons_of_mem e inside, found⟩

variable {e : MACAddress × AddressEntry}

theorem oldest_least {best : Option MACAddress × Nat} {l : List (MACAddress × AddressEntry)}
    (inside : e ∈ l) : (oldest best l).2 ≤ e.2.insertionTime := by
  have low : ∀ (best : Option MACAddress × Nat) (l : List (MACAddress × AddressEntry)),
      (oldest best l).2 ≤ best.2 := by
    intro best l
    induction l generalizing best with
    | nil => exact le_rfl
    | cons d rest ih =>
      unfold oldest
      split_ifs with less
      · exact (ih _).trans less.le
      · exact ih _
  induction l generalizing best with
  | nil => cases inside
  | cons d rest ih =>
    unfold oldest
    rcases mem_cons.mp inside with rfl | later
    · split_ifs with less
      · exact low (some e.1, e.2.insertionTime) rest
      · exact (low best rest).trans (Nat.le_of_not_lt less)
    · split_ifs
      · exact ih later
      · exact ih later

theorem oldestTableEntry_eq_some (inside : e ∈ u.addresstable.entries)
    (past : e.2.insertionTime ≤ now) : ∃ d ∈ u.addresstable.entries, u.oldestTableEntry now =
      some d.1 ∧ ∀ e ∈ u.addresstable.entries, d.2.insertionTime ≤ e.2.insertionTime := by
  have least : ∀ e ∈ u.addresstable.entries,
      (oldest (none, now + SECOND) u.addresstable.entries).2 ≤ e.2.insertionTime :=
      fun e => oldest_least
  rcases oldest_mem (none, now + SECOND) u.addresstable.entries with same | ⟨d, member, found⟩
  · have low := least e inside
    rw [same, SECOND] at low
    omega
  · refine ⟨d, member, congrArg Prod.fst found, ?_⟩
    rw [found] at least
    exact least

/-- The address `makeRoom` throws out although its entry is not aged. -/
def evictedBy (u : MACRelayUnitBase) (now : Nat) : Option MACAddress :=
  if u.full then
    let swept := u.removeAgedEntriesFromTable now
    if swept.addresstable.entries.length = swept.addressTableSize then swept.oldestTableEntry now
      else none
  else none

theorem makeRoom_cases (u : MACRelayUnitBase) (now : Nat) :
    (u.full = false ∧ u.evictedBy now = none ∧ u.makeRoom now = u) ∨
    ((u.removeAgedEntriesFromTable now).addresstable.entries.length ≠ u.addressTableSize ∧
      u.evictedBy now = none ∧ u.makeRoom now = u.removeAgedEntriesFromTable now) ∨
    ((u.removeAgedEntriesFromTable now).addresstable.entries.length = u.addressTableSize ∧
      u.addressTableSize ≠ 0 ∧
      u.evictedBy now = (u.removeAgedEntriesFromTable now).oldestTableEntry now ∧
      u.makeRoom now = (u.removeAgedEntriesFromTable now).removeOldestTableEntry now) := by
  cases full : u.full with
  | false => exact .inl ⟨rfl, by simp [evictedBy, full], by simp [makeRoom, full]⟩
  | true =>
    have some : u.addressTableSize ≠ 0 := by
      simp only [MACRelayUnitBase.full, Bool.and_eq_true, decide_eq_true_eq] at full
      exact full.1
    by_cases still : (u.removeAgedEntriesFromTable now).addresstable.entries.length =
      u.addressTableSize
    · refine .inr (.inr ⟨still, some, ?_, ?_⟩)
      · rw [evictedBy, if_pos full]
        exact if_pos still
      · rw [makeRoom, if_pos full]
        exact if_pos still
    · refine .inr (.inl ⟨still, ?_, ?_⟩)
      · rw [evictedBy, if_pos full]
        exact if_neg still
      · rw [makeRoom, if_pos full]
        exact if_neg still

theorem find?_removeOldest :
    (u.removeOldestTableEntry now).addresstable.find? address = some entry ↔
    u.addresstable.find? address = some entry ∧ u.oldestTableEntry now ≠ some address := by
  unfold removeOldestTableEntry
  cases u.oldestTableEntry now with
  | none => simp
  | some k =>
    rw [find?_erase]
    by_cases same : address = k
    · simp [same]
    · simp [same, Ne.symm same]

theorem find?_makeRoom (found : (u.makeRoom now).addresstable.find? address = some entry) :
    u.addresstable.find? address = some entry ∧ u.evictedBy now ≠ some address := by
  rcases makeRoom_cases u now with ⟨-, none, same⟩ | ⟨-, none, same⟩ | ⟨-, -, evicted, same⟩
  · rw [same] at found
    exact ⟨found, by simp [none]⟩
  · rw [same] at found
    exact ⟨(find?_removeAged.mp found).1, by simp [none]⟩
  · rw [same] at found
    obtain ⟨swept, kept⟩ := find?_removeOldest.mp found
    exact ⟨(find?_removeAged.mp swept).1, evicted ▸ kept⟩

theorem makeRoom_find? (found : u.addresstable.find? address = some entry)
    (young : u.aged now entry = false) (kept : u.evictedBy now ≠ some address) :
    (u.makeRoom now).addresstable.find? address = some entry := by
  have swept := find?_removeAged.mpr ⟨found, young⟩
  rcases makeRoom_cases u now with ⟨-, -, same⟩ | ⟨-, -, same⟩ | ⟨-, -, evicted, same⟩
  · rw [same]
    exact found
  · rw [same]
    exact swept
  · rw [same]
    exact find?_removeOldest.mpr ⟨swept, evicted ▸ kept⟩

theorem makeRoom_length (size : u.addresstable.entries.length ≤ u.addressTableSize)
    (some : u.addressTableSize ≠ 0) (past : ∀ e ∈ u.addresstable.entries, e.2.insertionTime ≤ now) :
    (u.makeRoom now).addresstable.entries.length < u.addressTableSize := by
  have shorter : (u.removeAgedEntriesFromTable now).addresstable.entries.length ≤
      u.addresstable.entries.length :=
    length_filter_le _ _
  rcases makeRoom_cases u now with ⟨room, -, same⟩ | ⟨room, -, same⟩ | ⟨still, -, -, same⟩
  · rw [same]
    refine lt_of_le_of_ne size fun equal => ?_
    simp [full, some, equal] at room
  · rw [same]
    omega
  · have inside : 0 < (u.removeAgedEntriesFromTable now).addresstable.entries.length := by omega
    obtain ⟨e, member⟩ := exists_mem_of_length_pos inside
    obtain ⟨d, found, oldest, -⟩ :=
      oldestTableEntry_eq_some member (past e (mem_of_mem_filter member))
    have one := length_erase (find?_eq_some_iff.mpr found)
    rw [same, removeOldestTableEntry, oldest]
    dsimp only
    omega

variable {k : MACAddress}

theorem evictedBy_oldest (evicted : u.evictedBy now = some k)
    (past : ∀ e ∈ u.addresstable.entries, e.2.insertionTime ≤ now) :
    ∃ entry, u.addresstable.find? k = some entry ∧
      ∀ e ∈ (u.makeRoom now).addresstable.entries, entry.insertionTime ≤ e.2.insertionTime := by
  rcases makeRoom_cases u now with ⟨-, none, -⟩ | ⟨-, none, -⟩ | ⟨still, some, oldest, same⟩
  · rw [none] at evicted
    cases evicted
  · rw [none] at evicted
    cases evicted
  · have inside : 0 < (u.removeAgedEntriesFromTable now).addresstable.entries.length := by omega
    obtain ⟨e, member⟩ := exists_mem_of_length_pos inside
    obtain ⟨d, found, least, all⟩ :=
      oldestTableEntry_eq_some member (past e (mem_of_mem_filter member))
    rw [← oldest, evicted] at least
    cases least
    refine ⟨d.2, find?_eq_some_iff.mpr (mem_of_mem_filter found), fun e member => all e ?_⟩
    rw [same] at member
    exact find?_eq_some_iff.mp (find?_removeOldest.mp (find?_eq_some_iff.mpr member)).1

variable {portno : Int}

def evictedFor (u : MACRelayUnitBase) (now : Nat) (address : MACAddress) : Option MACAddress :=
  match u.addresstable.find? address with
  | none => u.evictedBy now
  | some _ => none

theorem update_cases (u : MACRelayUnitBase) (now : Nat) (address : MACAddress) (portno : Int) :
    (u.addresstable.find? address = none ∧ u.evictedFor now address = u.evictedBy now ∧
      (u.updateTableWithAddress now address portno).addresstable =
        (u.makeRoom now).addresstable.insert address ⟨portno, now⟩) ∨
    (u.addresstable.find? address ≠ none ∧ u.evictedFor now address = none ∧
      (u.updateTableWithAddress now address portno).addresstable =
        u.addresstable.modify address fun _ => ⟨portno, now⟩) := by
  unfold evictedFor updateTableWithAddress
  cases u.addresstable.find? address with
  | none => exact .inl ⟨rfl, rfl, rfl⟩
  | some entry => exact .inr ⟨Option.some_ne_none entry, rfl, rfl⟩

theorem find?_update_self :
    (u.updateTableWithAddress now address portno).addresstable.find? address =
    some ⟨portno, now⟩ := by
  rcases update_cases u now address portno with ⟨-, -, same⟩ | ⟨known, -, same⟩
  · rw [same, find?_insert, if_pos rfl]
  · obtain ⟨entry, found⟩ := Option.ne_none_iff_exists'.mp known
    rw [same, find?_modify, if_pos rfl, found]
    rfl

theorem find?_update (other : address' ≠ address)
    (found : (u.updateTableWithAddress now address portno).addresstable.find? address' =
      some entry) :
    u.addresstable.find? address' = some entry ∧ u.evictedFor now address ≠ some address' := by
  rcases update_cases u now address portno with ⟨-, evicted, same⟩ | ⟨-, evicted, same⟩
  · rw [same, find?_insert, if_neg other] at found
    exact evicted ▸ find?_makeRoom found
  · rw [same, find?_modify, if_neg other] at found
    exact ⟨found, by simp [evicted]⟩

theorem update_find? (other : address' ≠ address)
    (found : u.addresstable.find? address' = some entry) (young : u.aged now entry = false)
    (kept : u.evictedFor now address ≠ some address') :
    (u.updateTableWithAddress now address portno).addresstable.find? address' = some entry := by
  rcases update_cases u now address portno with ⟨-, evicted, same⟩ | ⟨-, -, same⟩
  · rw [same, find?_insert, if_neg other]
    exact makeRoom_find? found young (evicted ▸ kept)
  · rw [same, find?_modify, if_neg other]
    exact found

theorem length_update (size : u.addresstable.entries.length ≤ u.addressTableSize)
    (some : u.addressTableSize ≠ 0) (past : ∀ e ∈ u.addresstable.entries, e.2.insertionTime ≤ now) :
    (u.updateTableWithAddress now address portno).addresstable.entries.length ≤
    u.addressTableSize := by
  rcases update_cases u now address portno with ⟨unknown, -, same⟩ | ⟨-, -, same⟩
  · have room := makeRoom_length size some past
    have absent : (u.makeRoom now).addresstable.find? address = none := by
      refine Option.eq_none_iff_forall_ne_some.mpr fun entry found => ?_
      rw [(find?_makeRoom found).1] at unknown
      cases unknown
    have one := length_insert (v := ⟨portno, now⟩) absent
    rw [same, one]
    omega
  · rw [same]
    exact (length_map _).trans_le size

theorem evictedFor_oldest (evicted : u.evictedFor now address = some k)
    (past : ∀ e ∈ u.addresstable.entries, e.2.insertionTime ≤ now) :
    ∃ entry, u.addresstable.find? k = some entry ∧
      ∀ e ∈ (u.updateTableWithAddress now address portno).addresstable.entries, e.1 ≠ address →
        entry.insertionTime ≤ e.2.insertionTime := by
  rcases update_cases u now address portno with ⟨-, by_room, same⟩ | ⟨-, none, -⟩
  · rw [by_room] at evicted
    obtain ⟨entry, found, least⟩ := evictedBy_oldest evicted past
    refine ⟨entry, found, fun e member other => least e ?_⟩
    have here := find?_eq_some_iff.mpr member
    rw [same, find?_insert, if_neg other] at here
    exact find?_eq_some_iff.mp here
  · rw [none] at evicted
    cases evicted

theorem removeOldest_eq : u.removeOldestTableEntry now =
    { u with addresstable := (u.removeOldestTableEntry now).addresstable } := by
  unfold removeOldestTableEntry
  cases u.oldestTableEntry now <;> rfl

theorem update_eq : u.updateTableWithAddress now address portno =
    { u with addresstable := (u.updateTableWithAddress now address portno).addresstable } := by
  unfold updateTableWithAddress
  cases u.addresstable.find? address with
  | some entry => rfl
  | none =>
    rcases makeRoom_cases u now with ⟨-, -, same⟩ | ⟨-, -, same⟩ | ⟨-, -, -, same⟩
    · simp only [same]
    · simp only [same, removeAgedEntriesFromTable]
    · rw [removeOldest_eq] at same
      simp only [same, removeAgedEntriesFromTable]

theorem getPort_cases (u : MACRelayUnitBase) (now : Nat) (address : MACAddress) :
    (u.addresstable.find? address = none ∧ u.getPortForAddress now address = (-1, u)) ∨
    (∃ entry, u.addresstable.find? address = some entry ∧ u.aged now entry = true ∧
      u.getPortForAddress now address =
      (-1, { u with addresstable := u.addresstable.erase address })) ∨
    ∃ entry, u.addresstable.find? address = some entry ∧ u.aged now entry = false ∧
      u.getPortForAddress now address = (entry.portno, u) := by
  unfold getPortForAddress
  cases u.addresstable.find? address with
  | none => exact .inl ⟨rfl, rfl⟩
  | some entry =>
    cases aged : u.aged now entry with
    | true => exact .inr (.inl ⟨entry, rfl, aged, by simp [aged]⟩)
    | false => exact .inr (.inr ⟨entry, rfl, aged, by simp [aged]⟩)

theorem getPort_portno (found : (u.getPortForAddress now address).2.addresstable.find? address =
    some entry) : (u.getPortForAddress now address).1 = entry.portno := by
  rcases getPort_cases u now address with ⟨none, same⟩ | ⟨entry', -, -, same⟩ | ⟨entry',
    here, -, same⟩
  · rw [same, none] at found
    cases found
  · rw [same, find?_erase, if_pos rfl] at found
    cases found
  · rw [same, here] at found
    rw [same, Option.some.inj found]

theorem getPort_nonneg (usable : 0 ≤ (u.getPortForAddress now address).1) :
    ∃ entry, (u.getPortForAddress now address).2.addresstable.find? address = some entry ∧
      (u.getPortForAddress now address).2.aged now entry = false ∧ 0 ≤ entry.portno := by
  rcases getPort_cases u now address with ⟨-, same⟩ | ⟨entry, -, -, same⟩ | ⟨entry, found,
    young, same⟩
  · rw [same] at usable
    cases usable
  · rw [same] at usable
    cases usable
  · rw [same] at usable ⊢
    exact ⟨entry, found, young, usable⟩

end MACRelayUnitBase

structure FrameEvent where
  time : Nat
  frame : EtherFrame
  inputport : Nat
  deriving DecidableEq

/- `seen` has the source, port and time of each frame, the newest first; `evicted` the addresses
that lost their entry to make room and were not seen since. -/
structure SwitchRun where
  unit : MACRelayUnitBase
  now : Nat := 0
  seen : List (MACAddress × AddressEntry)
  evicted : List MACAddress := []
  last : Option (FrameEvent × List Nat) := none

namespace SwitchRun

def handle (w : SwitchRun) (e : FrameEvent) : Except RelayFault SwitchRun :=
  (w.unit.handleAndDispatchFrame e.time e.frame e.inputport).map fun r =>
    { unit := r.2
      now := e.time
      seen := (e.frame.src, ⟨e.inputport, e.time⟩) :: w.seen
      evicted :=
        ((w.unit.evictedFor e.time e.frame.src).toList ++ w.evicted).filter (· ≠ e.frame.src)
      last := some (e, r.1) }

def Next (w : SwitchRun) (e : FrameEvent) (w' : SwitchRun) : Prop :=
  w.now ≤ e.time ∧ e.inputport < w.unit.numPorts ∧ w.handle e = .ok w'

def fresh (w : SwitchRun) (address : MACAddress) : Option AddressEntry :=
  (w.seen.lookup address).filter fun entry =>
    decide (w.now < entry.insertionTime + w.unit.agingTime) && decide (address ∉ w.evicted)

/-- A negative port, which only an address table file can have, stands for none. -/
structure Forwarded (w : SwitchRun) (e : FrameEvent) (ports : List Nat) : Prop where
  notBack : e.inputport ∉ ports
  unicast : e.frame.dest.isBroadcast = false → ∀ entry, w.fresh e.frame.dest = some entry →
    0 ≤ entry.portno → ports = if entry.portno = e.inputport then [] else [entry.portno.toNat]
  unknown : e.frame.dest.isBroadcast = false → (∀ entry, w.fresh e.frame.dest = some entry →
    entry.portno < 0) → ports = (List.range w.unit.numPorts).filter (· ≠ e.inputport)

structure Correct (w : SwitchRun) : Prop where
  size : w.unit.addressTableSize ≠ 0 → w.unit.addresstable.entries.length ≤ w.unit.addressTableSize
  forwarded : ∀ f ∈ w.last, w.Forwarded f.1 f.2
  oldest : ∀ address ∈ w.evicted, ∀ entry, w.seen.lookup address = some entry →
    ∀ e ∈ w.unit.addresstable.entries, entry.insertionTime ≤ e.2.insertionTime

end SwitchRun

open MACRelayUnitBase (find?_update_self find?_update getPort_portno getPort_nonneg aged
    update_find? evictedFor_oldest getPort_cases broadcastFrame length_update)

structure Tracks (u : MACRelayUnitBase) (now : Nat) (seen : List (MACAddress × AddressEntry))
    (evicted : List MACAddress) : Prop where
  size : u.addressTableSize ≠ 0 → u.addresstable.entries.length ≤ u.addressTableSize
  known : ∀ address entry, u.addresstable.find? address = some entry →
    seen.lookup address = some entry ∧ address ∉ evicted
  kept : ∀ address entry, seen.lookup address = some entry → address ∉ evicted →
    u.aged now entry = false → u.addresstable.find? address = some entry
  past : ∀ address entry, seen.lookup address = some entry → entry.insertionTime ≤ now
  oldest : ∀ address ∈ evicted, ∀ entry, seen.lookup address = some entry →
    ∀ e ∈ u.addresstable.entries, entry.insertionTime ≤ e.2.insertionTime

namespace Tracks

variable {u : MACRelayUnitBase} {before now : Nat} {seen : List (MACAddress × AddressEntry)}
  {evicted : List MACAddress} {src : MACAddress} {portno : Int}

theorem entry_past (tracks : Tracks u before seen evicted) (later : before ≤ now) :
    ∀ e ∈ u.addresstable.entries, e.2.insertionTime ≤ now := by
  intro e member
  have found := (tracks.known e.1 e.2 (find?_eq_some_iff.mpr member)).1
  exact (tracks.past e.1 e.2 found).trans later

theorem mem_evicted {address : MACAddress} :
    address ∈ ((u.evictedFor now src).toList ++ evicted).filter (· ≠ src) ↔
      (u.evictedFor now src = some address ∨ address ∈ evicted) ∧ address ≠ src := by
  simp [mem_filter, Option.mem_toList, or_and_right]

theorem learn (tracks : Tracks u before seen evicted) (later : before ≤ now) :
    Tracks (u.updateTableWithAddress now src portno) now ((src, ⟨portno, now⟩) :: seen)
      (((u.evictedFor now src).toList ++ evicted).filter (· ≠ src)) := by
  have past := tracks.entry_past later
  have params := @MACRelayUnitBase.update_eq u now src portno
  refine ⟨?_, fun address entry found => ?_, fun address entry found free young => ?_,
    fun address entry found => ?_, fun address gone entry found e member => ?_⟩
  · rw [params]
    exact fun some => length_update (tracks.size some) some past
  · rw [lookup_cons_eq, mem_evicted]
    by_cases same : address = src
    · rw [if_pos same]
      rw [same, find?_update_self] at found
      exact ⟨found, fun gone => gone.2 same⟩
    · obtain ⟨old, spared⟩ := find?_update same found
      obtain ⟨here, free⟩ := tracks.known address entry old
      rw [if_neg same]
      refine ⟨here, ?_⟩
      rintro ⟨gone | gone, -⟩
      · exact spared gone
      · exact free gone
  · rw [lookup_cons_eq] at found
    split_ifs at found with same
    · rw [same, find?_update_self]
      exact found
    · rw [mem_evicted, not_and_or, not_or, not_not, or_iff_left same] at free
      rw [params] at young
      have young' : u.aged before entry = false := by
        simp only [aged, decide_eq_false_iff_not] at young ⊢
        omega
      exact update_find? same (tracks.kept address entry found free.2 young') young free.1
  · rw [lookup_cons_eq] at found
    split_ifs at found
    · rw [← Option.some.inj found]
    · exact (tracks.past address entry found).trans later
  · obtain ⟨gone, other⟩ := mem_evicted.mp gone
    rw [lookup_cons_eq, if_neg other] at found
    by_cases here : e.1 = src
    · have entered := find?_eq_some_iff.mpr member
      rw [here, find?_update_self] at entered
      rw [← Option.some.inj entered]
      exact (tracks.past address entry found).trans later
    · rcases gone with gone | gone
      · obtain ⟨entry', found', least⟩ := evictedFor_oldest gone past
        rw [(tracks.known address entry' found').1] at found
        rw [← Option.some.inj found]
        exact least e member here
      · have old := (find?_update here (find?_eq_some_iff.mpr member)).1
        exact tracks.oldest address gone entry found e (find?_eq_some_iff.mp old)

theorem lookup (tracks : Tracks u now seen evicted) (address : MACAddress) :
    Tracks (u.getPortForAddress now address).2 now seen evicted := by
  rcases getPort_cases u now address with ⟨-, same⟩ | ⟨entry, found, aged, same⟩ | ⟨entry,
    -, -, same⟩
  · rw [same]
    exact tracks
  · rw [same]
    have shorter := length_erase found
    refine ⟨fun some => ?_, fun a e here => ?_, fun a e here free young => ?_, tracks.past,
      fun a gone e here d member => ?_⟩
    · have size := tracks.size some
      dsimp only
      omega
    · rw [find?_erase] at here
      split_ifs at here
      exact tracks.known a e here
    · have kept := tracks.kept a e here free young
      rw [find?_erase, if_neg]
      · exact kept
      · rintro rfl
        rw [found] at kept
        rw [← Option.some.inj kept] at young
        exact Bool.noConfusion (aged.symm.trans young)
    · exact tracks.oldest a gone e here d (mem_of_mem_filter member)
  · rw [same]
    exact tracks

end Tracks

namespace SwitchRun

variable {w w' : SwitchRun}

theorem fresh_iff (tracks : Tracks w.unit w.now w.seen w.evicted) {address : MACAddress}
    {entry : AddressEntry} : w.fresh address = some entry ↔
      w.unit.addresstable.find? address = some entry ∧ w.unit.aged w.now entry = false := by
  have young : w.now < entry.insertionTime + w.unit.agingTime ↔
      w.unit.aged w.now entry = false := by
    rw [aged, decide_eq_false_iff_not, Nat.not_le]
  simp only [fresh, Option.filter_eq_some_iff, Bool.and_eq_true, decide_eq_true_eq, young]
  constructor
  · rintro ⟨seen, recent, free⟩
    exact ⟨tracks.kept address entry seen free recent, recent⟩
  · rintro ⟨found, recent⟩
    obtain ⟨seen, free⟩ := tracks.known address entry found
    exact ⟨seen, recent, free⟩

theorem forwarded_of_port (tracks : Tracks w.unit w.now w.seen w.evicted) {e : FrameEvent}
    {ports : List Nat} (notBack : e.inputport ∉ ports)
    (known : ∀ entry, w.unit.addresstable.find? e.frame.dest = some entry →
      w.unit.aged w.now entry = false →
      0 ≤ entry.portno → ports = if entry.portno = e.inputport then [] else [entry.portno.toNat])
    (unknown : (∀ entry, w.unit.addresstable.find? e.frame.dest = some entry →
      w.unit.aged w.now entry = false →
      entry.portno < 0) → ports = (List.range w.unit.numPorts).filter (· ≠ e.inputport)) :
      w.Forwarded e ports := by
  refine ⟨notBack, fun _ entry fresh usable => ?_, fun _ none => unknown fun entry found young =>
    ?_⟩
  · obtain ⟨found, young⟩ := (fresh_iff tracks).mp fresh
    exact known entry found young usable
  · exact none entry ((fresh_iff tracks).mpr ⟨found, young⟩)

structure Inv (w : SwitchRun) : Prop where
  tracks : Tracks w.unit w.now w.seen w.evicted
  forwarded : ∀ f ∈ w.last, w.Forwarded f.1 f.2

theorem not_mem_broadcastFrame (u : MACRelayUnitBase) (inputport : Nat) :
    inputport ∉ u.broadcastFrame inputport := by
  simp [broadcastFrame]

theorem Inv.step (inv : w.Inv) {e : FrameEvent} (next : w.Next e w') : w'.Inv := by
  obtain ⟨later, -, done⟩ := next
  obtain ⟨r, dispatched, rfl⟩ := map_eq_ok done
  have learnt : Tracks (w.unit.updateTableWithAddress e.time e.frame.src e.inputport) _ _ _ :=
    inv.tracks.learn later
  unfold MACRelayUnitBase.handleAndDispatchFrame at dispatched
  dsimp only at dispatched
  generalize w.unit.updateTableWithAddress e.time e.frame.src e.inputport = u at learnt dispatched
  split_ifs at dispatched with broadcast same usable gate
  · cases dispatched
    refine ⟨learnt, ?_⟩
    rintro f ⟨⟩
    refine ⟨not_mem_broadcastFrame u e.inputport, fun single => ?_, fun _ _ => rfl⟩
    exact Bool.noConfusion (broadcast.symm.trans single)
  all_goals
    have looked := learnt.lookup e.frame.dest
    cases dispatched
    refine ⟨looked, ?_⟩
    rintro f ⟨⟩
  · have usable : 0 ≤ (u.getPortForAddress e.time e.frame.dest).1 := same ▸ Int.natCast_nonneg _
    refine forwarded_of_port looked (by simp) (fun entry found _ _ => ?_) fun none => ?_
    · rw [if_pos ((getPort_portno found).symm.trans same.symm)]
    · obtain ⟨entry, found, young, nonneg⟩ := getPort_nonneg usable
      exact absurd (none entry found young) (Int.not_lt.mpr nonneg)
  · refine forwarded_of_port looked ?_ (fun entry found _ _ => ?_) fun none => ?_
    · intro back
      have equal : e.inputport = (u.getPortForAddress e.time e.frame.dest).1.toNat :=
        mem_singleton.mp back
      omega
    · have port := getPort_portno found
      rw [if_neg fun equal => same (equal.symm.trans port.symm), port]
    · obtain ⟨entry, found, young, nonneg⟩ := getPort_nonneg usable
      exact absurd (none entry found young) (Int.not_lt.mpr nonneg)
  · refine forwarded_of_port looked (not_mem_broadcastFrame _ _)
      (fun entry found _ nonneg => ?_) fun _ => rfl
    exact absurd (getPort_portno found ▸ nonneg) usable

/-- A switch before the first frame. With `seen` the lines of the address table file, they count as
frames at time 0. -/
def start (u : MACRelayUnitBase) (seen : List (MACAddress × AddressEntry)) : SwitchRun :=
  { unit := u, seen := seen }

theorem inv_start {u : MACRelayUnitBase}
    (size : u.addressTableSize ≠ 0 → u.addresstable.entries.length ≤ u.addressTableSize)
    (zero : ∀ e ∈ u.addresstable.entries, e.2.insertionTime = 0) :
    (start u u.addresstable.entries).Inv where
  tracks := by
    refine ⟨size, fun address entry found => ⟨found, not_mem_nil⟩, fun address entry found _ _ =>
      found, fun address entry found => ?_, fun address gone => ?_⟩
    · rw [zero _ (find?_eq_some_iff.mp found)]
      exact Nat.zero_le _
    · cases gone
  forwarded := by
    intro f last
    cases last

theorem Inv.correct (inv : w.Inv) : w.Correct := ⟨inv.tracks.size, inv.forwarded, inv.tracks.oldest⟩

end SwitchRun

theorem readAddressTable_time (lines : List (MACAddress × Int)) :
    ∀ e ∈ (readAddressTable lines).entries, e.2.insertionTime = 0 := by
  suffices along : ∀ table : AddressTable, (∀ e ∈ table.entries, e.2.insertionTime = 0) →
      ∀ e ∈ (lines.foldl (fun table line => table.insert line.1 ⟨line.2, 0⟩) table).entries,
      e.2.insertionTime = 0 by
    exact along {} (by simp)
  induction lines with
  | nil => exact fun table zero => zero
  | cons line lines ih =>
    intro table zero
    refine ih _ fun e member => ?_
    rcases insertEntry_mem member with rfl | old
    · rfl
    · exact zero e old

/-- Every run of a switch, with its address table file counted as frames at time 0. -/
theorem frames_forwarded (numPorts : Nat) (addressTableSize : Int) (agingTime : Nat)
    (lines : List (MACAddress × Int))
    (size : addressTableSize.toNat ≠ 0 → (readAddressTable lines).entries.length ≤
      addressTableSize.toNat)
    (es : List FrameEvent) : Always SwitchRun.Next SwitchRun.Correct
      (.start (.configure numPorts addressTableSize agingTime lines)
        (readAddressTable lines).entries) es := by
  apply always_of_invariant (I := SwitchRun.Inv)
  · exact fun w e w' inv next => inv.step next
  · exact fun w inv => inv.correct
  · exact SwitchRun.inv_start size (readAddressTable_time lines)

def hostAddress (n : UInt8) : MACAddress := ⟨[2, 0, 0, 0, 0, n], rfl⟩

/-- Room for two addresses, one of them from the file, on port 1. -/
def switchStart : SwitchRun :=
  .start (.configure 3 2 60 [(hostAddress 7, 1)]) (readAddressTable [(hostAddress 7, 1)]).entries

def switchFrames : List FrameEvent :=
  [⟨5, ⟨hostAddress 9, hostAddress 7⟩, 0⟩, ⟨10, ⟨hostAddress 8, hostAddress 9⟩, 2⟩,
    ⟨20, ⟨hostAddress 9, hostAddress 7⟩, 0⟩, ⟨100, ⟨hostAddress 8, hostAddress 9⟩, 2⟩]

/-- The second frame evicts the address of the file, so that the third one is flooded; before the
last one its destination has aged. -/
theorem frames_forwarded_four :
    (([1, 2, 3, 4].map fun n => ((switchFrames.take n).foldlM SwitchRun.handle
      switchStart).toOption.bind fun w =>
      w.last.map (·.2)) = [some [1], some [0], some [1, 2], some [0, 1]]) ∧
    Always SwitchRun.Next SwitchRun.Correct switchStart switchFrames := by
  refine ⟨by decide +kernel, ?_⟩
  apply frames_forwarded
  decide

/-- No frame has come from an address of the file. -/
theorem frames_not_forwarded : ¬ ∀ (numPorts : Nat) (addressTableSize : Int) (agingTime : Nat)
    (lines : List (MACAddress × Int)),
    (addressTableSize.toNat ≠ 0 → (readAddressTable lines).entries.length ≤
      addressTableSize.toNat) →
    ∀ es : List FrameEvent, Always SwitchRun.Next SwitchRun.Correct
      (.start (.configure numPorts addressTableSize agingTime lines) []) es := by
  intro all
  have along := all 3 0 60 [(hostAddress 7, 1)] (fun some => absurd rfl some)
    [⟨5, ⟨hostAddress 9, hostAddress 7⟩, 0⟩]
  have ends : (SwitchRun.handle (.start (.configure 3 0 60 [(hostAddress 7, 1)]) []) ⟨5,
    ⟨hostAddress 9, hostAddress 7⟩, 0⟩).toOption.map
      (fun w => (w.last, w.fresh (hostAddress 7), w.unit.numPorts)) =
        some (some (⟨5, ⟨hostAddress 9, hostAddress 7⟩, 0⟩, [1]), none, 3) := by decide +kernel
  obtain ⟨w, ran, same⟩ := Option.map_eq_some_iff.mp ends
  simp only [Prod.mk.injEq] at same
  obtain ⟨last, unseen, ports⟩ := same
  have correct := along.2 w ⟨Nat.zero_le 5, by decide, eq_ok_of_toOption ran⟩
  have flooded := (correct.head.forwarded _ last).unknown (by decide) (by simp [unseen])
  rw [ports] at flooded
  revert flooded
  decide

end Srwsn
