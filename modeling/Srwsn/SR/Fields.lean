import Srwsn.SR.Node
import Srwsn.Lib.Outcome

/-! The fields of an identifier: where the loop that cuts an address ends, and what is read back
after any writes. -/
namespace Srwsn

open List

namespace IDBuilder

def lastField (mac : List Char) : List Char := (mac.reverse.takeWhile (· != '-')).reverse

variable {mac : List Char}

theorem lastField_plain (plain : '-' ∉ mac) : lastField mac = mac := by
  have all : mac.reverse.takeWhile (· != '-') = mac.reverse := by
    apply takeWhile_eq_self_iff.mpr
    intro c inside
    simp only [bne_iff_ne]
    rintro rfl
    exact plain (mem_reverse.mp inside)
  simp [lastField, all]

theorem takeWhile_before {before after : List Char} :
    (before ++ '-' :: after).takeWhile (· != '-') = before.takeWhile (· != '-') := by
  induction before with
  | nil => simp
  | cons c before ih => by_cases dash : c = '-' <;> simp [dash, ih]

theorem lastField_cut (before after : List Char) :
    lastField (before ++ '-' :: after) = lastField after := by
  simp only [lastField, reverse_append, reverse_cons, append_assoc, singleton_append]
  rw [takeWhile_before]

theorem lastField_drop {i : Nat} (found : mac.findIdx? (· == '-') = some i) :
    i < mac.length ∧ lastField (mac.drop (i + 1)) = lastField mac := by
  obtain ⟨inside, dash, -⟩ := findIdx?_eq_some_iff_getElem.mp found
  refine ⟨inside, ?_⟩
  have split := take_append_drop i mac
  rw [drop_eq_getElem_cons inside, beq_iff_eq.mp dash] at split
  rw [← lastField_cut (mac.take i), split]

theorem find_none (npos : Nat) (absent : mac.findIdx? (· == '-') = none) :
    find_first_of npos mac = npos ∧ '-' ∉ mac := by
  refine ⟨by simp [find_first_of, absent], fun inside => ?_⟩
  have := findIdx?_eq_none_iff.mp absent '-' inside
  simp at this

theorem cutLoop_ends {fuel : Nat} (short : mac.length < 2 ^ 32 - 1) (enough : mac.length < fuel) :
    cutLoop (2 ^ 32 - 1) fuel mac = some (lastField mac) := by
  induction fuel generalizing mac with
  | zero => omega
  | succ fuel ih =>
    cases found : mac.findIdx? (· == '-') with
    | none =>
      obtain ⟨stops, plain⟩ := find_none (2 ^ 32 - 1) found
      have ends : ¬ (2 ^ 32 - 1) % 2 ^ 32 ≠ 2 ^ 32 - 1 := by decide
      rw [cutLoop, stops]
      simp only [if_neg ends, lastField_plain plain]
    | some i =>
      obtain ⟨inside, same⟩ := lastField_drop found
      have cut : find_first_of (2 ^ 32 - 1) mac = i := by simp [find_first_of, found]
      have small : i % 2 ^ 32 = i := Nat.mod_eq_of_lt (by omega)
      have next : (i + 1) % 2 ^ 32 = i + 1 := Nat.mod_eq_of_lt (by omega)
      have goes_on : i ≠ 2 ^ 32 - 1 := by omega
      rw [cutLoop, cut]
      simp only [small, next, if_pos goes_on]
      rw [ih (by simp; omega) (by simp; omega), same]

theorem cutLoop_goes_on (fuel : Nat) (mac : List Char) : cutLoop (2 ^ 64 - 1) fuel mac = none := by
  induction fuel generalizing mac with
  | zero => rfl
  | succ fuel ih =>
    have other : find_first_of (2 ^ 64 - 1) mac % 2 ^ 32 ≠ 2 ^ 64 - 1 := by
      have := Nat.mod_lt (find_first_of (2 ^ 64 - 1) mac) (by decide : 0 < 2 ^ 32)
      omega
    rw [cutLoop]
    simp only [if_pos other]
    exact ih _

/-- The loop ends just when `size_t` has the width of `cutAt`. A string is shorter than `npos`. -/
theorem cutting_ends (w : Nat) (width : w = 32 ∨ w = 64) (mac : List Char)
    (fits : mac.length < 2 ^ w - 1) :
    ((∃ fuel, cutLoop (2 ^ w - 1) fuel mac = some (lastField mac)) ↔ w = 32) ∧
      (w = 64 → ∀ fuel, cutLoop (2 ^ w - 1) fuel mac = none) := by
  rcases width with rfl | rfl
  · have ends := cutLoop_ends fits (Nat.lt_succ_self mac.length)
    exact ⟨iff_of_true ⟨_, ends⟩ rfl, fun wide => absurd wide (by decide)⟩
  · have never := fun fuel => cutLoop_goes_on fuel mac
    refine ⟨iff_of_false ?_ (by decide), fun _ => never⟩
    rintro ⟨fuel, ends⟩
    rw [never fuel] at ends
    cases ends

theorem cutting_ends_two : ∃ fuel, cutLoop (2 ^ 32 - 1) fuel "00-AE".toList = some "AE".toList :=
  (cutting_ends 32 (.inl rfl) "00-AE".toList (by decide)).1.mpr rfl

/-- With 64 bits even the empty string is cut forever. -/
theorem cutting_runs_on : ¬ ∀ (w : Nat) (mac : List Char), w = 32 ∨ w = 64 →
    mac.length < 2 ^ w - 1 → ∃ fuel, cutLoop (2 ^ w - 1) fuel mac = some (lastField mac) := by
  intro all
  obtain ⟨fuel, ends⟩ := all 64 [] (.inr rfl) (by decide)
  rw [cutLoop_goes_on] at ends
  cases ends

inductive Write where
  | macExt (mac : List Char)
  | sinkDistance (d : UInt16)
  | area (a : UInt16)

def write (b : IDBuilder) : Write → Except Failure IDBuilder
  | .macExt mac => b.setMACExt mac
  | .sinkDistance d => b.setSinkDistance d
  | .area a => b.setArea a

namespace Write

def ext : Write → Option Nat
  | macExt mac => some (readHex (lastField mac)).toNat
  | _ => none

def distance : Write → Option Nat
  | sinkDistance d => some d.toNat
  | _ => none

def areaValue : Write → Option Nat
  | area a => some a.toNat
  | _ => none

def ReadsLast : Write → Prop
  | macExt mac => getLastMACNumberToInt mac = some (readHex (lastField mac))
  | _ => True

end Write

def lastWritten (value : Write → Option Nat) (start : Nat) (writes : List Write) : Nat :=
  (writes.reverse.findSome? value).getD start

theorem lastWritten_cons (value : Write → Option Nat) (start : Nat) (w : Write)
    (writes : List Write) :
    lastWritten value start (w :: writes) = lastWritten value ((value w).getD start) writes := by
  simp only [lastWritten, reverse_cons, findSome?_append, findSome?_cons, findSome?_nil]
  cases writes.reverse.findSome? value <;> cases value w <;> rfl

variable {b c : IDBuilder}

theorem write_ok {w : Write} (reads : w.ReadsLast) (done : b.write w = .ok c) :
    macExtOf c.my_id = w.ext.getD (macExtOf b.my_id) ∧
    distanceOf c.my_id = w.distance.getD (distanceOf b.my_id) ∧
      areaOf c.my_id = w.areaValue.getD (areaOf b.my_id) := by
  cases w with
  | macExt mac => exact setMACExt_ok reads done
  | sinkDistance d =>
    obtain ⟨ext, distance, area⟩ := setSinkDistance_ok done
    exact ⟨ext, distance, area⟩
  | area a =>
    obtain ⟨-, ext, distance, area⟩ := setArea_ok done
    exact ⟨ext, distance, area⟩

theorem writes_ok {writes : List Write} (reads : ∀ w ∈ writes, w.ReadsLast)
    (done : writes.foldlM write b = .ok c) :
    macExtOf c.my_id = lastWritten Write.ext (macExtOf b.my_id) writes ∧
      distanceOf c.my_id = lastWritten Write.distance (distanceOf b.my_id) writes ∧
      areaOf c.my_id = lastWritten Write.areaValue (areaOf b.my_id) writes := by
  induction writes generalizing b with
  | nil =>
    cases done
    exact ⟨rfl, rfl, rfl⟩
  | cons w writes ih =>
    rw [foldlM_cons] at done
    obtain ⟨d, first, rest⟩ := Outcome.bind_eq_ok done
    obtain ⟨ext, distance, area⟩ := write_ok (reads w mem_cons_self) first
    obtain ⟨ext', distance', area'⟩ := ih (fun w inside => reads w (mem_cons_of_mem _ inside)) rest
    simp only [lastWritten_cons, ← ext, ← distance, ← area]
    exact ⟨ext', distance', area'⟩

theorem my_id_fields (b : IDBuilder) :
    b.my_id.toNat = b.getMACExt.toNat * 64 + b.getSinkDistance.toNat * 4 + b.getArea.toNat := by
  simp only [getMACExt_toNat, getSinkDistance_toNat, getArea_toNat, macExtOf, distanceOf, areaOf]
  omega

end IDBuilder

/-- The index is below six at the only call. -/
def MACAddress.setAddressByte (mac : MACAddress) (k : Nat) (addrbyte : UInt8) : MACAddress :=
  ⟨mac.address.set k addrbyte, by simp [mac.size]⟩

theorem MACAddress.setAddressByte_last {mac other : MACAddress} {b : UInt8}
    (shared : mac.address.take 5 = other.address.take 5) (last : b = other.lastOctet) :
    mac.setAddressByte 5 b = other := by
  have long : (mac.address.take 5).length = 5 := by simp [mac.size]
  have bytes : mac.address.set 5 b = other.address := by
    rw [mac.address_split, other.address_split, set_append_right _ _ (by omega), long, shared, last]
    simp
  cases other
  simpa [setAddressByte] using bytes

/-- The builder of the node is left with the identifier asked about. -/
def SR.idToMACAddress (me : SR) (id : UInt16) : MACAddress × SR :=
  let iDBuilder := me.iDBuilder.setID id
  let mac_ext := iDBuilder.getMACExt
  (me.myMACAddress.setAddressByte 5 mac_ext.toUInt8, { me with iDBuilder := iDBuilder })

namespace IDBuilder

def Write.address : Write → Option (List Char)
  | macExt mac => some mac
  | _ => none

theorem ext_of_address {writes : List Write} {mac : List Char} (start : Nat)
    (last : writes.reverse.findSome? Write.address = some mac) :
    lastWritten Write.ext start writes = (readHex (lastField mac)).toNat := by
  have same : ∀ w : Write, w.ext = w.address.map fun mac => (readHex (lastField mac)).toNat := by
    intro w
    cases w <;> rfl
  have found : ∀ ws : List Write, ws.findSome? Write.ext =
      (ws.findSome? Write.address).map fun mac => (readHex (lastField mac)).toNat := by
    intro ws
    induction ws with
    | nil => rfl
    | cons w ws ih =>
      rw [findSome?_cons, findSome?_cons, same w, ih]
      cases w.address <;> rfl
  rw [lastWritten, found, last]
  rfl

theorem ext_of_str {mac : MACAddress} (reads : (Write.macExt mac.str).ReadsLast) :
    (readHex (lastField mac.str)).toUInt8 = mac.lastOctet := by
  obtain ⟨n, last, value⟩ :=
    getLastMACNumberToInt_str mac (mac.address.take 5) mac.lastOctet mac.address_split
  have same : n = readHex (lastField mac.str) := Option.some.inj (last.symm.trans reads)
  rw [← same, ← UInt8.toNat_inj, UInt16.toNat_toUInt8, value]
  exact Nat.mod_eq_of_lt mac.lastOctet.toNat_lt

/-- Each getter returns what was last written to its field, and an address survives the 
identifier. -/
theorem writes_read_back (start : UInt16) (writes : List Write) (reads : ∀ w ∈ writes, w.ReadsLast)
    (b : IDBuilder) (done : writes.foldlM write ⟨start⟩ = .ok b) :
    b.getMACExt.toNat = lastWritten Write.ext (getMACExt ⟨start⟩).toNat writes ∧
      b.getSinkDistance.toNat = lastWritten Write.distance (getSinkDistance ⟨start⟩).toNat writes ∧
      b.getArea.toNat = lastWritten Write.areaValue (getArea ⟨start⟩).toNat writes ∧
      b.my_id.toNat = b.getMACExt.toNat * 64 + b.getSinkDistance.toNat * 4 + b.getArea.toNat ∧
      ∀ (me : SR) (m : MACAddress), me.myMACAddress.address.take 5 = m.address.take 5 →
        writes.reverse.findSome? Write.address = some m.str →
        (me.idToMACAddress b.my_id).1 = m := by
  obtain ⟨ext, distance, area⟩ := writes_ok reads done
  simp only [getMACExt_toNat, getSinkDistance_toNat, getArea_toNat]
  refine ⟨ext, distance, area, ?_, ?_⟩
  · simpa only [getMACExt_toNat, getSinkDistance_toNat, getArea_toNat] using my_id_fields b
  · intro me m shared last
    obtain ⟨w, inside, is_str⟩ := exists_of_findSome?_eq_some last
    have read : (Write.macExt m.str).ReadsLast := by
      cases w with
      | macExt mac =>
        cases is_str
        exact reads _ (mem_reverse.mp inside)
      | sinkDistance d => cases is_str
      | area a => cases is_str
    have same : b.getMACExt = readHex (lastField m.str) := by
      rw [← UInt16.toNat_inj, getMACExt_toNat, ext, ext_of_address _ last]
    apply MACAddress.setAddressByte_last shared
    change b.getMACExt.toUInt8 = m.lastOctet
    rw [same, ext_of_str read]

theorem writes_read_back_three : ∃ b : IDBuilder,
    [Write.sinkDistance 5, .macExt "0A-AA-00-00-00-2B".toList, .area 2].foldlM write ⟨65535⟩ =
      .ok b ∧ b.getMACExt.toNat = 43 ∧ b.getSinkDistance.toNat = 5 := by
  have done : [Write.sinkDistance 5, .macExt "0A-AA-00-00-00-2B".toList, .area 2].foldlM write
      ⟨65535⟩ = .ok ⟨2774⟩ := by decide +kernel
  have reads : ∀ w ∈ [Write.sinkDistance 5, .macExt "0A-AA-00-00-00-2B".toList, .area 2],
      w.ReadsLast := by
    simp only [forall_mem_cons]
    exact ⟨trivial, by unfold Write.ReadsLast; decide +kernel, trivial, by simp⟩
  obtain ⟨ext, distance, -⟩ := writes_read_back 65535 _ reads ⟨2774⟩ done
  exact ⟨_, done, ext.trans (by decide +kernel), distance⟩

end IDBuilder

end Srwsn
