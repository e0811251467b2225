import Srwsn.Lib.Trace

/-! The guaranteed time slots a PAN coordinator hands out. Whether a request is granted depends on
how `tmp_finalCap - length + 1` wraps. -/
namespace Srwsn

open List

def aNumSuperframeSlots : UInt8 := 16
def aBaseSlotDuration : UInt8 := 60
def aMinCAPLength : UInt16 := 440

structure DevCapability where
  alterPANCoor : Bool
  ffd : Bool
  recvOnWhenIdle : Bool
  secuCapable : Bool
  alloShortAddr : Bool
  hostName : String
  deriving DecidableEq, Repr

structure GTSDescriptor where
  devShortAddr : UInt16
  startSlot : UInt8
  length : UInt8
  isRecvGTS : Bool
  isTxPending : Bool
  deriving DecidableEq, Repr

structure PANCoordinator where
  txSfSlotDuration : UInt32
  tmpFinalCap : UInt8
  gtsList : List GTSDescriptor
  deviceList : Std.TreeMap UInt16 DevCapability

namespace PANCoordinator

variable (s : PANCoordinator)

def gtsCount : Nat := s.gtsList.length

def startPANCoor (macBeaconOrder macSuperframeOrder : UInt8) : Except String PANCoordinator :=
  if macBeaconOrder > 15 || macSuperframeOrder > macBeaconOrder then
    .error "[MAC]: wrong values for MAC parameter BO or SO"
  else if macBeaconOrder == 15 then
    .error "[MAC]: non-beacon mode (BO = 15) has not been tested!"
  else if macSuperframeOrder == macBeaconOrder then
    .error "[MAC]: warning!! the case BO == SO has not been tested!"
  else .ok {
    txSfSlotDuration := aBaseSlotDuration.toUInt32 * (1 <<< macSuperframeOrder.toUInt32)
    tmpFinalCap := aNumSuperframeSlots - 1
    gtsList := []
    deviceList := ∅ }

def associateRequestCmd (extAddr : UInt16) (capaInfo : DevCapability) : UInt16 × PANCoordinator :=
  (extAddr, { s with deviceList := s.deviceList.insert extAddr capaInfo })

/-- The difference is an `int`, which the product turns into a `UINT_32`. -/
def tCap (length : UInt8) : UInt32 :=
  s.txSfSlotDuration * (s.tmpFinalCap.toUInt32 - length.toUInt32 + 1)

def grant (macShortAddr : UInt16) (length : UInt8) (isReceive : Bool) : PANCoordinator :=
  { s with
    tmpFinalCap := s.tmpFinalCap - length
    gtsList := s.gtsList ++ [{
      devShortAddr := macShortAddr
      startSlot := s.tmpFinalCap - length + 1
      length := length
      isRecvGTS := isReceive
      isTxPending := false }] }

def gtsRequestCmd (macShortAddr : UInt16) (length : UInt8) (isReceive : Bool) :
    UInt8 × PANCoordinator :=
  if !s.deviceList.contains macShortAddr then (0, s)
  else if s.gtsCount ≥ 7 then (0, s)
  else if s.tCap length < aMinCAPLength.toUInt32 then (0, s)
  else (s.tmpFinalCap - length + 1, s.grant macShortAddr length isReceive)

inductive Call where
  | associate (extAddr : UInt16) (capaInfo : DevCapability)
  | request (macShortAddr : UInt16) (length : UInt8) (isReceive : Bool) (asked : 1 ≤ length)

def call : Call → PANCoordinator
  | .associate extAddr capaInfo => (s.associateRequestCmd extAddr capaInfo).2
  | .request macShortAddr length isReceive _ => (s.gtsRequestCmd macShortAddr length isReceive).2

end PANCoordinator

def GTSDescriptor.Covers (g : GTSDescriptor) (slot : Nat) : Prop :=
  g.startSlot.toNat ≤ slot ∧ slot < g.startSlot.toNat + g.length.toNat
  deriving Decidable

/-- The superframe splits into the contention access period, which ends with `tmp_finalCap`, and the
granted slots, one behind the other up to the last slot. -/
structure SlotsSound (s : PANCoordinator) : Prop where
  apart : s.gtsList.Pairwise fun g h => ∀ slot, g.Covers slot → ¬ h.Covers slot
  filled : ∀ slot, (∃ g ∈ s.gtsList, g.Covers slot) ↔ s.tmpFinalCap.toNat + 1 ≤ slot ∧ slot ≤ 15
  few : s.gtsList.length ≤ 7
  inFrame : s.tmpFinalCap.toNat ≤ 15
  accessible : s.gtsList ≠ [] →
    aMinCAPLength.toNat ≤ s.txSfSlotDuration.toNat * (s.tmpFinalCap.toNat + 1)

/-- The slots asked for are there: a request that gets as far as the length check is not longer than
what is left of the superframe. -/
def Affordable (s : PANCoordinator) : PANCoordinator.Call → Prop
  | .associate _ _ => True
  | .request macShortAddr length _ _ =>
    s.deviceList.contains macShortAddr → s.gtsCount < 7 → length.toNat ≤ s.tmpFinalCap.toNat + 1

namespace PANCoordinator

theorem gtsRequestCmd_eq (s : PANCoordinator) (macShortAddr : UInt16) (length : UInt8)
    (isReceive : Bool) :
    s.gtsRequestCmd macShortAddr length isReceive = if s.deviceList.contains macShortAddr ∧
          s.gtsCount < 7 ∧ aMinCAPLength.toUInt32 ≤ s.tCap length then
        (s.tmpFinalCap - length + 1, s.grant macShortAddr length isReceive) else (0, s) := by
  simp only [gtsRequestCmd]
  split_ifs <;> simp_all <;> grind

variable {s : PANCoordinator} {length : UInt8}

theorem tCap_of_le (enough : length.toNat ≤ s.tmpFinalCap.toNat + 1)
    (short : s.txSfSlotDuration.toNat ≤ 2 ^ 19) : (s.tCap length).toNat =
    s.txSfSlotDuration.toNat * (s.tmpFinalCap.toNat + 1 - length.toNat) := by
  have := s.tmpFinalCap.toNat_lt
  have := length.toNat_lt
  have slots : (s.tmpFinalCap.toUInt32 - length.toUInt32 + 1).toNat =
      s.tmpFinalCap.toNat + 1 - length.toNat := by
    simp only [UInt32.toNat_add, UInt32.toNat_sub, UInt8.toNat_toUInt32, UInt32.toNat_one]
    omega
  rw [tCap, UInt32.toNat_mul, slots, Nat.mod_eq_of_lt]
  calc s.txSfSlotDuration.toNat * (s.tmpFinalCap.toNat + 1 - length.toNat)
      ≤ 2 ^ 19 * 2 ^ 8 := Nat.mul_le_mul short (by omega)
    _ < 2 ^ 32 := by norm_num

/-- A negative number of slots becomes a huge one, and the request passes the check. -/
theorem tCap_of_lt (missing : s.tmpFinalCap.toNat + 1 < length.toNat)
    (short : s.txSfSlotDuration.toNat ≤ 2 ^ 19) (running : 0 < s.txSfSlotDuration.toNat) :
    aMinCAPLength.toNat ≤ (s.tCap length).toNat := by
  have := length.toNat_lt
  obtain ⟨k, excess⟩ : ∃ k, length.toNat = s.tmpFinalCap.toNat + 1 + k :=
    ⟨_, (Nat.add_sub_of_le missing.le).symm⟩
  have slots : s.tmpFinalCap.toUInt32 - length.toUInt32 + 1 = - UInt32.ofNat k := by
    apply UInt32.toNat_inj.mp
    simp only [UInt32.toNat_add, UInt32.toNat_sub, UInt8.toNat_toUInt32, UInt32.toNat_one,
      UInt32.toNat_neg, UInt32.toNat_ofNat', UInt32.size]
    omega
  have lower : 1 ≤ s.txSfSlotDuration.toNat * k := Nat.mul_pos running (by omega)
  have upper : s.txSfSlotDuration.toNat * k ≤ 2 ^ 19 * 2 ^ 8 := Nat.mul_le_mul short (by omega)
  have product : (s.txSfSlotDuration * UInt32.ofNat k).toNat = s.txSfSlotDuration.toNat * k := by
    simp only [UInt32.toNat_mul, UInt32.toNat_ofNat']
    rw [Nat.mod_eq_of_lt (by omega : k < 2 ^ 32)]
    omega
  have minimum : aMinCAPLength.toNat = 440 := rfl
  rw [tCap, slots, UInt32.mul_neg, UInt32.toNat_neg, product, minimum, UInt32.size]
  omega

theorem refused_unchanged {macShortAddr : UInt16} {isReceive : Bool} (asked : 1 ≤ length)
    (refused : (s.gtsRequestCmd macShortAddr length isReceive).1 = 0) :
    (s.gtsRequestCmd macShortAddr length isReceive).2 = s := by
  rw [gtsRequestCmd_eq] at refused ⊢
  split
  · rename_i granted
    rw [if_pos granted] at refused
    -- the first slot of a grant is slot 0 only for a request of all that is left and one more
    have next : (s.tmpFinalCap - length + 1).toNat = 0 := congrArg UInt8.toNat refused
    have exhausted : length.toNat = s.tmpFinalCap.toNat + 1 := by
      have := s.tmpFinalCap.toNat_lt
      have := length.toNat_lt
      have : 1 ≤ length.toNat := UInt8.le_iff_toNat_le.mp asked
      simp only [UInt8.toNat_add, UInt8.toNat_sub, UInt8.toNat_one] at next
      omega
    have none_left : s.tmpFinalCap.toUInt32 - length.toUInt32 + 1 = 0 := by
      apply UInt32.toNat_inj.mp
      have := length.toNat_lt
      simp only [UInt32.toNat_add, UInt32.toNat_sub, UInt8.toNat_toUInt32, UInt32.toNat_one,
        UInt32.toNat_zero]
      omega
    have zero : s.tCap length = 0 := by rw [tCap, none_left, UInt32.mul_zero]
    rw [zero] at granted
    exact absurd granted.2.2 (by decide)
  · rfl

end PANCoordinator

open PANCoordinator

variable {s : PANCoordinator} {macShortAddr : UInt16} {length : UInt8} {isReceive : Bool}

theorem grant_sound (sound : SlotsSound s) (asked : 1 ≤ length) (room : s.gtsCount < 7)
    (enough : length.toNat ≤ s.tmpFinalCap.toNat) (kept : aMinCAPLength.toNat ≤
      s.txSfSlotDuration.toNat * (s.tmpFinalCap.toNat + 1 - length.toNat)) :
    SlotsSound (s.grant macShortAddr length isReceive) := by
  have positive : 1 ≤ length.toNat := UInt8.le_iff_toNat_le.mp asked
  have inFrame := sound.inFrame
  have last : (s.tmpFinalCap - length).toNat = s.tmpFinalCap.toNat - length.toNat := by
    rw [UInt8.toNat_sub]
    omega
  have first : (s.tmpFinalCap - length + 1).toNat = s.tmpFinalCap.toNat - length.toNat + 1 := by
    rw [UInt8.toNat_add, last, UInt8.toNat_one]
    omega
  constructor
  case apart =>
    apply pairwise_append.mpr
    refine ⟨sound.apart, pairwise_singleton _ _, ?_⟩
    intro g held h new slot inside overlap
    -- what is held lies above the old end of the access period, the new interval below it
    have above := ((sound.filled slot).mp ⟨g, held, inside⟩).1
    obtain rfl := mem_singleton.mp new
    simp only [GTSDescriptor.Covers, first] at overlap
    omega
  case filled =>
    intro slot
    simp only [grant, mem_append, mem_singleton, or_and_right, exists_or, exists_eq_left]
    rw [sound.filled slot]
    simp only [GTSDescriptor.Covers, first, last]
    omega
  case few =>
    simp only [grant, length_append, length_singleton]
    exact room
  case inFrame =>
    simp only [grant, last]
    omega
  case accessible =>
    intro _
    have slots : s.tmpFinalCap.toNat - length.toNat + 1 =
        s.tmpFinalCap.toNat + 1 - length.toNat := by
      omega
    simp only [grant, last, slots]
    exact kept

theorem grant_unsound (missing : s.tmpFinalCap.toNat + 1 < length.toNat) :
    ¬ SlotsSound (s.grant macShortAddr length isReceive) := by
  intro sound
  have := length.toNat_lt
  have first : (s.tmpFinalCap - length + 1).toNat = s.tmpFinalCap.toNat + 257 - length.toNat := by
    simp only [UInt8.toNat_add, UInt8.toNat_sub, UInt8.toNat_one]
    omega
  have outside :=
    (sound.filled (s.tmpFinalCap.toNat + 256)).mp ⟨_, mem_append_right _ (mem_singleton_self _), by
      simp only [GTSDescriptor.Covers, first]
      omega⟩
  omega

theorem call_sound_iff (running : 0 < s.txSfSlotDuration.toNat)
    (short : s.txSfSlotDuration.toNat ≤ 2 ^ 19) (sound : SlotsSound s) (c : Call) :
    SlotsSound (s.call c) ↔ Affordable s c := by
  cases c with
  | associate extAddr capaInfo => exact iff_of_true { sound with } trivial
  | request macShortAddr length isReceive asked =>
    simp only [call, Affordable, gtsRequestCmd_eq, UInt32.le_iff_toNat_le, UInt16.toNat_toUInt32]
    rcases Nat.lt_or_ge (s.tmpFinalCap.toNat + 1) length.toNat with missing | enough
    · have passes := tCap_of_lt missing short running
      split
      · rename_i granted
        exact iff_of_false (grant_unsound missing)
          fun affordable => Nat.not_lt.mpr (affordable granted.1 granted.2.1) missing
      · rename_i refused
        exact iff_of_true sound fun known room => absurd ⟨known, room, passes⟩ refused
    · apply iff_of_true _ fun _ _ => enough
      split
      · rename_i granted
        obtain ⟨-, room, kept⟩ := granted
        rw [tCap_of_le enough short] at kept
        have left : length.toNat ≤ s.tmpFinalCap.toNat := by
          by_contra all
          have gone : s.tmpFinalCap.toNat + 1 - length.toNat = 0 := by omega
          rw [gone, Nat.mul_zero] at kept
          exact absurd kept (by decide)
        exact grant_sound sound asked room left kept
      · exact sound

theorem call_txSfSlotDuration (s : PANCoordinator) (c : Call) :
    (s.call c).txSfSlotDuration = s.txSfSlotDuration := by
  cases c with
  | associate extAddr capaInfo => rfl
  | request macShortAddr length isReceive asked =>
    simp only [call, gtsRequestCmd_eq]
    split <;> rfl

theorem slotDuration_bounds :
    ∀ n < 14, 0 < (aBaseSlotDuration.toUInt32 * (1 <<< UInt32.ofNat n)).toNat ∧
      (aBaseSlotDuration.toUInt32 * (1 <<< UInt32.ofNat n)).toNat ≤ 2 ^ 19 := by decide

theorem startPANCoor_sound {bo so : UInt8} (started : startPANCoor bo so = .ok s) :
    SlotsSound s ∧ 0 < s.txSfSlotDuration.toNat ∧ s.txSfSlotDuration.toNat ≤ 2 ^ 19 := by
  simp only [startPANCoor] at started
  split_ifs at started with invalid unbounded equal
  cases started
  have order : so.toNat < 14 := by
    simp only [Bool.or_eq_true, decide_eq_true_eq, not_or, UInt8.not_lt, UInt8.le_iff_toNat_le,
      beq_iff_eq, ← UInt8.toNat_inj, UInt8.reduceToNat] at invalid unbounded equal
    omega
  have bounds := slotDuration_bounds so.toNat order
  rw [UInt32.ofNat_uInt8ToNat] at bounds
  refine ⟨?_, bounds⟩
  constructor
  case apart => exact List.Pairwise.nil
  case filled =>
    intro slot
    have last : (aNumSuperframeSlots - 1).toNat = 15 := rfl
    simp only [not_mem_nil, false_and, exists_false, last, false_iff]
    omega
  case few => exact Nat.zero_le 7
  case inFrame => exact Nat.le_refl 15
  case accessible => exact fun some => absurd rfl some

/-- The slots stay sound for as long as nobody asks for more slots than are left. -/
theorem guaranteed_slots_sound_iff {bo so : UInt8} {s : PANCoordinator}
    (started : startPANCoor bo so = .ok s) (calls : List Call) :
    (∀ (t : PANCoordinator) (macShortAddr : UInt16) (length : UInt8) (isReceive : Bool),
      1 ≤ length → (t.gtsRequestCmd macShortAddr length isReceive).1 = 0 →
        (t.gtsRequestCmd macShortAddr length isReceive).2 = t) ∧
    (Trace.Always (fun t c t' => t.call c = t') SlotsSound s calls ↔
      Trace.Each (fun t c t' => t.call c = t') Affordable s calls) := by
  refine ⟨fun _ _ _ _ asked refused => refused_unchanged asked refused, ?_⟩
  obtain ⟨sound, running, short⟩ := startPANCoor_sound started
  apply Trace.always_iff_each (I := fun t => t.txSfSlotDuration = s.txSfSlotDuration) _ _ rfl sound
  · rintro t c _ same rfl
    exact (call_txSfSlotDuration t c).trans same
  · rintro t c _ same sound rfl
    exact call_sound_iff (same ▸ running) (same ▸ short) sound c

def sensorCapability : DevCapability := ⟨false, true, true, false, true, "host[7]"⟩

def twoSlots : List Call :=
  [.associate 7 sensorCapability, .request 7 2 false (by decide), .request 9 1 false (by decide)]

theorem twoSlots_sound : ∃ s, startPANCoor 1 0 = .ok s ∧
    Trace.Always (fun t c t' => t.call c = t') SlotsSound s twoSlots := by
  obtain ⟨s, started⟩ : ∃ s, startPANCoor 1 0 = .ok s := ⟨_, rfl⟩
  refine ⟨s, started, (guaranteed_slots_sound_iff started twoSlots).2.mpr ?_⟩
  cases started
  rintro _ rfl
  refine ⟨trivial, ?_⟩
  rintro _ rfl
  refine ⟨fun _ _ => by decide, ?_⟩
  rintro _ rfl
  exact ⟨fun known => absurd known (by decide), trivial⟩

def seventeenSlots : List Call :=
  [.associate 7 sensorCapability, .request 7 17 false (by decide)]

/-- Asked for seventeen of sixteen slots, the coordinator grants them, and its access period ends
with slot 254. -/
theorem seventeenSlots_granted :
    ∃ s, startPANCoor 1 0 = .ok s ∧ (seventeenSlots.foldl call s).tmpFinalCap = 254 ∧
      ¬ SlotsSound (seventeenSlots.foldl call s) := by
  refine ⟨_, rfl, by decide, fun sound => ?_⟩
  exact absurd sound.inFrame (by decide)

end Srwsn
