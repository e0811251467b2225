import Srwsn.Net.RoutingTable

/-! The sets of local addresses and of local broadcast addresses. A change of an interface clears
the first one only. -/
namespace Srwsn

def IPAddress.getBroadcastAddress (addr netmask : UInt32) : UInt32 := addr ||| ~~~netmask

structure LocalTable where
  table : RoutingTable
  localBroadcastAddresses : List UInt32 := []

namespace LocalTable

def broadcastAddress (ie : IPv4Interface) : UInt32 :=
  IPAddress.getBroadcastAddress ie.address ie.netmask

variable (s : LocalTable)

def fillLocalBroadcastAddresses : LocalTable :=
  if s.localBroadcastAddresses.isEmpty then
    { s with localBroadcastAddresses :=
        (s.table.ift.map broadcastAddress).filter fun a => !IPAddress.isUnspecified a }
  else s

def isLocalBroadcastAddress (dest : UInt32) (s : LocalTable) : Bool :=
  s.fillLocalBroadcastAddresses.localBroadcastAddresses.contains dest

inductive Use where
  | change (id : Nat) (address netmask : UInt32)
  | isLocalAddress (dest : UInt32)
  | isLocalBroadcastAddress (dest : UInt32)

def changed (id : Nat) (address netmask : UInt32) : RoutingTable :=
  match s.table.step (.interfaceIPv4ConfigChanged id address netmask) with
  | .ok table => table
  | .error _ => s.table

def use : Use → LocalTable
  | .change id address netmask => { s with table := s.changed id address netmask }
  | .isLocalAddress _ => { s with table := s.table.fillLocalAddresses }
  | .isLocalBroadcastAddress _ => s.fillLocalBroadcastAddresses

def Next (s : LocalTable) (e : Use) (s' : LocalTable) : Prop := s' = s.use e

def HasAddress (table : RoutingTable) (dest : UInt32) : Prop := ∃ ie ∈ table.ift, ie.address = dest

def HasBroadcast (table : RoutingTable) (dest : UInt32) : Prop :=
  ∃ ie ∈ table.ift, broadcastAddress ie = dest ∧ dest ≠ 0

structure Answers (s : LocalTable) : Prop where
  address : ∀ dest, s.table.isLocalAddress dest ↔ HasAddress s.table dest
  broadcast : ∀ dest, s.isLocalBroadcastAddress dest ↔ HasBroadcast s.table dest

/-- A change that finds the broadcast addresses collected leaves them as they are. -/
def Harmless (s : LocalTable) : Use → Prop
  | .change id address netmask => s.localBroadcastAddresses = [] ∨
      ∀ dest, HasBroadcast (s.changed id address netmask) dest ↔ HasBroadcast s.table dest
  | _ => True

def Holds (cache : List UInt32) (P : UInt32 → Prop) : Prop := cache = [] ∨ ∀ a, a ∈ cache ↔ P a

structure Fresh (s : LocalTable) : Prop where
  addresses : Holds s.table.localAddresses (HasAddress s.table)
  broadcasts : Holds s.localBroadcastAddresses (HasBroadcast s.table)

variable {s}

theorem Holds.fill {cache all : List UInt32} {P : UInt32 → Prop} (holds : Holds cache P)
    (every : ∀ a, a ∈ all ↔ P a) (a : UInt32) :
    a ∈ (if cache.isEmpty then all else cache) ↔ P a := by
  obtain rfl | filled := holds
  · exact every a
  · split
    · exact every a
    · exact filled a

theorem mem_fillLocalAddresses (fresh : Fresh s) (a : UInt32) :
    a ∈ s.table.fillLocalAddresses.localAddresses ↔ HasAddress s.table a := by
  have every (a : UInt32) : a ∈ s.table.ift.map IPv4Interface.address ↔ HasAddress s.table a := by
    simp [HasAddress]
  have filled := fresh.addresses.fill every a
  unfold RoutingTable.fillLocalAddresses
  split at filled <;> simp_all

theorem mem_fillLocalBroadcastAddresses (fresh : Fresh s) (a : UInt32) :
    a ∈ s.fillLocalBroadcastAddresses.localBroadcastAddresses ↔ HasBroadcast s.table a := by
  have every (a : UInt32) : a ∈ (s.table.ift.map broadcastAddress).filter
      (fun a => !IPAddress.isUnspecified a) ↔ HasBroadcast s.table a := by
    simp only [List.mem_filter, List.mem_map, HasBroadcast, IPAddress.isUnspecified]
    aesop
  have filled := fresh.broadcasts.fill every a
  unfold fillLocalBroadcastAddresses
  split at filled <;> simp_all

theorem Fresh.answers (fresh : Fresh s) : Answers s where
  address dest := List.contains_iff_mem.trans (mem_fillLocalAddresses fresh dest)
  broadcast dest := List.contains_iff_mem.trans (mem_fillLocalBroadcastAddresses fresh dest)

theorem fillLocalAddresses_ift (table : RoutingTable) :
    table.fillLocalAddresses.ift = table.ift := by
  unfold RoutingTable.fillLocalAddresses
  split <;> rfl

theorem fillLocalBroadcastAddresses_table (s : LocalTable) :
    s.fillLocalBroadcastAddresses.table = s.table := by
  unfold fillLocalBroadcastAddresses
  split <;> rfl

theorem Fresh.use {e : Use} (fresh : Fresh s) (harmless : Harmless s e) : Fresh (s.use e) := by
  cases e with
  | change id address netmask =>
    refine ⟨.inl rfl, ?_⟩
    obtain empty | filled := fresh.broadcasts
    · exact .inl empty
    · exact harmless.imp_right fun same a => (filled a).trans (same a).symm
  | isLocalAddress dest =>
    simp only [LocalTable.use]
    refine ⟨.inr fun a => ?_, ?_⟩
    · simpa only [HasAddress, fillLocalAddresses_ift] using mem_fillLocalAddresses fresh a
    · simpa only [Holds, HasBroadcast, fillLocalAddresses_ift] using fresh.broadcasts
  | isLocalBroadcastAddress dest =>
    simp only [LocalTable.use]
    refine ⟨?_, .inr fun a => ?_⟩ <;> rw [fillLocalBroadcastAddresses_table]
    · exact fresh.addresses
    · exact mem_fillLocalBroadcastAddresses fresh a

theorem Fresh.harmless {e : Use} (fresh : Fresh s) (answers : Answers (s.use e)) :
    Harmless s e := by
  cases e with
  | change id address netmask =>
    obtain empty | filled := fresh.broadcasts
    · exact .inl empty
    · by_cases empty : s.localBroadcastAddresses = []
      · exact .inl empty
      · refine .inr fun dest => (answers.broadcast dest).symm.trans ?_
        rw [← filled dest, isLocalBroadcastAddress, fillLocalBroadcastAddresses, LocalTable.use,
          if_neg (by simpa using empty), List.contains_iff_mem]
  | _ => trivial

theorem answers_iff_harmless (table : RoutingTable) (empty : table.localAddresses = [])
    (es : List Use) :
    Trace.Always Next Answers ⟨table, []⟩ es ↔ Trace.Each Next Harmless ⟨table, []⟩ es := by
  refine Trace.always_iff_each_kept (I := Fresh) ?_ (fun _ => Fresh.answers) ?_ ⟨.inl empty,
    .inl rfl⟩ es
  · rintro s e s' fresh harmless rfl
    exact fresh.use harmless
  · rintro s e s' fresh rfl answers
    exact fresh.harmless answers

def oneAddress : RoutingTable where
  timetolive := RoutingTable.maxTime
  ift := [⟨0, 0x0A000001, 0xFFFFFF00⟩]

theorem answers_in_network :
    oneAddress.localAddresses = [] ∧ Trace.Always Next Answers ⟨oneAddress, []⟩
    [.isLocalBroadcastAddress 0x0A0000FF, .change 0 0x0A000002 0xFFFFFF00] := by
  refine ⟨rfl, (answers_iff_harmless oneAddress rfl _).mpr ?_⟩
  rintro _ rfl
  refine ⟨trivial, ?_⟩
  rintro _ rfl
  refine ⟨.inr fun dest => ?_, trivial⟩
  have same : (0x0A000002 ||| ~~~0xFFFFFF00 : UInt32) = 0x0A000001 ||| ~~~0xFFFFFF00 := by decide
  simp [same, HasBroadcast, use, fillLocalBroadcastAddresses, changed, oneAddress,
    RoutingTable.step,
    RoutingTable.updateNetmaskRoutes, RoutingTable.invalidateCache, broadcastAddress,
    IPAddress.getBroadcastAddress]

/-- After a move to another network the broadcast address is still that of the old one. -/
theorem stale_broadcast : ¬ Trace.Always Next Answers ⟨oneAddress, []⟩
    [.isLocalBroadcastAddress 0x0A0000FF, .change 0 0x0B000001 0xFFFFFF00] := by
  intro always
  have broadcast := ((always.2 _ rfl).2 _ rfl).broadcast 0x0A0000FF
  obtain ⟨ie, member, same, -⟩ := broadcast.mp (by decide)
  obtain rfl : ie = ⟨0, 0x0B000001, 0xFFFFFF00⟩ := List.mem_singleton.mp member
  exact absurd same (by decide)

end LocalTable
end Srwsn
