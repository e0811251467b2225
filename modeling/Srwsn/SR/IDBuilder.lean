import Srwsn.Link.MACAddress

/-! The packed node identifier: ten bits of address extension, four of sink distance and two of
area. -/
namespace Srwsn

open MACAddress List

structure IDBuilder where
  my_id : UInt16
  deriving DecidableEq

namespace IDBuilder

/-- Which `assert` failed; `diverges` is the cutting loop that never reaches `npos`. -/
inductive Failure where
  | macExt
  | sinkDistance
  | area
  | diverges
  deriving DecidableEq, Repr

/-- `npos` where `size_t` has 32 bits, the width at which `unsigned int cutAt` can hold it. -/
def npos : Nat := 2 ^ 32 - 1

def find_first_of (npos : Nat) (mac : List Char) : Nat := (mac.findIdx? (· == '-')).getD npos

/-- `cutAt` is an `unsigned int` whatever the width of `npos`. -/
def cutLoop (npos : Nat) : Nat → List Char → Option (List Char)
  | 0, _ => none
  | fuel + 1, mac =>
    let cutAt := find_first_of npos mac % 2 ^ 32
    if cutAt ≠ npos then cutLoop npos fuel (mac.drop ((cutAt + 1) % 2 ^ 32)) else some mac

/-- `stream >> std::hex >> dec_n` on a 16-bit target: leading digits, clipped at the maximum. -/
def readHex (s : List Char) : UInt16 :=
  let n := (s.takeWhile isxdigit).foldl (fun v c => 16 * v + digitValue c) 0
  if n < 65536 then UInt16.ofNat n else 65535

def getLastMACNumberToInt (mac : List Char) : Option UInt16 :=
  (cutLoop npos (mac.length + 1) mac).map readHex

variable (b : IDBuilder)

def getMACExt : UInt16 := (b.my_id &&& 65472) >>> 6
def getSinkDistance : UInt16 := (b.my_id &&& 60) >>> 2
def getArea : UInt16 := b.my_id &&& 3

def setID (_ : IDBuilder) (id : UInt16) : IDBuilder := ⟨id⟩

def setMACExt (mac : List Char) : Except Failure IDBuilder :=
  match getLastMACNumberToInt mac with
  | none => .error .diverges
  | some dec_n => if dec_n < 1024 then .ok ⟨(b.my_id &&& (63 : UInt16)) + (dec_n <<< (6 : UInt16))⟩
      else .error .macExt

def setSinkDistance (sinkDistance : UInt16) : Except Failure IDBuilder :=
  if sinkDistance < 16 then .ok ⟨(b.my_id &&& (65475 : UInt16)) + (sinkDistance <<< (2 : UInt16))⟩
  else .error .sinkDistance

def setArea (area : UInt16) : Except Failure IDBuilder :=
  if area < 4 then .ok ⟨(b.my_id &&& (65532 : UInt16)) + area⟩ else .error .area

def macExtOf (id : UInt16) : Nat := id.toNat / 64
def distanceOf (id : UInt16) : Nat := id.toNat / 4 % 16
def areaOf (id : UInt16) : Nat := id.toNat % 4

theorem id_eq_iff (a b : UInt16) :
    a = b ↔ macExtOf a = macExtOf b ∧ distanceOf a = distanceOf b ∧ areaOf a = areaOf b := by
  rw [← UInt16.toNat_inj]
  simp only [macExtOf, distanceOf, areaOf]
  omega

theorem land_split (x high low : Nat) (small : low < 64) :
    x &&& (64 * high + low) = 64 * (x / 64 &&& high) + (x % 64 &&& low) := by
  have div : (x &&& (64 * high + low)) / 64 = x / 64 &&& high := by
    have h := @Nat.and_div_two_pow x (64 * high + low) 6
    have e : (64 * high + low) / 64 = high := by omega
    simpa [e] using h
  have rem : (x &&& (64 * high + low)) % 64 = x % 64 &&& low := by
    have h := @Nat.and_mod_two_pow x (64 * high + low) 6
    have e : (64 * high + low) % 64 = low := by omega
    simpa [e] using h
  have whole := Nat.div_add_mod (x &&& (64 * high + low)) 64
  rw [div, rem] at whole
  exact whole.symm

theorem low_masks : ∀ l, l < 64 → l &&& 60 = 4 * (l / 4) ∧ l &&& 3 = l % 4 ∧
    l &&& 63 = l := by decide

theorem high_mask (x : Nat) (small : x < 65536) : x / 64 &&& 1023 = x / 64 := by
  have h := Nat.and_two_pow_sub_one_eq_mod (x / 64) 10
  simp only [Nat.reducePow, Nat.reduceSub] at h
  rw [h]
  omega

theorem mask_distance (x : Nat) : x &&& 60 = 4 * (x / 4 % 16) := by
  have h := land_split x 0 60 (by decide)
  have low := (low_masks (x % 64) (by omega)).1
  simp only [Nat.mul_zero, Nat.zero_add, Nat.and_zero, low] at h
  omega

theorem mask_area (x : Nat) : x &&& 3 = x % 4 := by
  simpa using Nat.and_two_pow_sub_one_eq_mod x 2

theorem mask_low (x : Nat) : x &&& 63 = x % 64 := by
  simpa using Nat.and_two_pow_sub_one_eq_mod x 6

theorem mask_keep_ends (x : Nat) (small : x < 65536) : x &&& 65475 = 64 * (x / 64) + x % 4 := by
  have h : x &&& 65475 = _ := land_split x 1023 3 (by decide)
  have low := (low_masks (x % 64) (by omega)).2.1
  simp only [high_mask x small, low] at h
  omega

theorem mask_clear_area (x : Nat) (small : x < 65536) : x &&& 65532 = x - x % 4 := by
  have h : x &&& 65532 = _ := land_split x 1023 60 (by decide)
  have low := (low_masks (x % 64) (by omega)).1
  simp only [high_mask x small, low] at h
  omega

theorem mask_ext (x : Nat) (small : x < 65536) : x &&& 65472 = 64 * (x / 64) := by
  have h : x &&& 65472 = _ := land_split x 1023 0 (by decide)
  simpa only [high_mask x small, Nat.and_zero, Nat.add_zero] using h

theorem getSinkDistance_toNat : b.getSinkDistance.toNat = distanceOf b.my_id := by
  simp only [getSinkDistance, UInt16.toNat_shiftRight, UInt16.toNat_and, distanceOf]
  change (b.my_id.toNat &&& 60) >>> 2 = _
  rw [mask_distance, Nat.shiftRight_eq_div_pow]
  omega

theorem getArea_toNat : b.getArea.toNat = areaOf b.my_id := by
  simp only [getArea, UInt16.toNat_and, areaOf]
  exact mask_area _

theorem getMACExt_toNat : b.getMACExt.toNat = macExtOf b.my_id := by
  have small := b.my_id.toNat_lt
  simp only [getMACExt, UInt16.toNat_shiftRight, UInt16.toNat_and, macExtOf]
  change (b.my_id.toNat &&& 65472) >>> 6 = _
  rw [mask_ext _ (by simpa using small), Nat.shiftRight_eq_div_pow]
  omega

theorem setSinkDistance_ok {b c : IDBuilder} {d : UInt16} (h : b.setSinkDistance d = .ok c) :
    macExtOf c.my_id = macExtOf b.my_id ∧ distanceOf c.my_id = d.toNat ∧
    areaOf c.my_id = areaOf b.my_id := by
  unfold setSinkDistance at h
  split at h
  · rename_i small
    cases h
    have bound : d.toNat < 16 := by simpa [UInt16.lt_iff_toNat_lt] using small
    have wide := b.my_id.toNat_lt
    have value : ((b.my_id &&& (65475 : UInt16)) + (d <<< (2 : UInt16))).toNat =
        64 * (b.my_id.toNat / 64) + b.my_id.toNat % 4 + 4 * d.toNat := by
      simp only [UInt16.toNat_add, UInt16.toNat_and, UInt16.toNat_shiftLeft]
      change ((b.my_id.toNat &&& 65475) + d.toNat <<< 2 % 65536) % 65536 = _
      rw [mask_keep_ends _ (by simpa using wide), Nat.shiftLeft_eq]
      omega
    simp only [macExtOf, distanceOf, areaOf, value]
    omega
  · cases h

theorem setArea_ok {b c : IDBuilder} {a : UInt16} (h : b.setArea a = .ok c) :
    a.toNat < 4 ∧ macExtOf c.my_id = macExtOf b.my_id ∧
      distanceOf c.my_id = distanceOf b.my_id ∧ areaOf c.my_id = a.toNat := by
  unfold setArea at h
  split at h
  · rename_i small
    cases h
    have bound : a.toNat < 4 := by simpa [UInt16.lt_iff_toNat_lt] using small
    have wide := b.my_id.toNat_lt
    have value : ((b.my_id &&& (65532 : UInt16)) + a).toNat = b.my_id.toNat - b.my_id.toNat % 4 +
        a.toNat := by
      simp only [UInt16.toNat_add, UInt16.toNat_and]
      change ((b.my_id.toNat &&& 65532) + a.toNat) % 65536 = _
      rw [mask_clear_area _ (by simpa using wide)]
      omega
    simp only [macExtOf, distanceOf, areaOf, value]
    omega
  · cases h

theorem setMACExt_ok {b c : IDBuilder} {mac : List Char} {n : UInt16}
    (last : getLastMACNumberToInt mac = some n) (h : b.setMACExt mac = .ok c) :
    macExtOf c.my_id = n.toNat ∧ distanceOf c.my_id = distanceOf b.my_id ∧
    areaOf c.my_id = areaOf b.my_id := by
  simp only [setMACExt, last] at h
  split at h
  · rename_i small
    cases h
    have bound : n.toNat < 1024 := by simpa [UInt16.lt_iff_toNat_lt] using small
    have value : ((b.my_id &&& (63 : UInt16)) + (n <<< (6 : UInt16))).toNat =
        b.my_id.toNat % 64 + 64 * n.toNat := by
      simp only [UInt16.toNat_add, UInt16.toNat_and, UInt16.toNat_shiftLeft]
      change ((b.my_id.toNat &&& 63) + n.toNat <<< 6 % 65536) % 65536 = _
      rw [mask_low, Nat.shiftLeft_eq]
      omega
    simp only [macExtOf, distanceOf, areaOf, value]
    omega
  · cases h

theorem find_octet (b : UInt8) (s : List Char) : find_first_of npos (octet b ++ s) = 2 := by
  obtain ⟨high, low⟩ := octet_halves b
  have plain : ∀ n, n < 16 → (hexDigit n == '-') = false := by decide
  simp [find_first_of, octet, findIdx?_cons, plain _ high, plain _ low]

theorem find_last (b : UInt8) : find_first_of npos (render [b]) = npos := by
  obtain ⟨high, low⟩ := octet_halves b
  have plain : ∀ n, n < 16 → (hexDigit n == '-') = false := by decide
  simp [find_first_of, render, octet, findIdx?_cons, plain _ high, plain _ low]

theorem cutLoop_render (octets : List UInt8) (b : UInt8) (fuel : Nat)
    (enough : octets.length < fuel) :
    cutLoop npos fuel (render (octets ++ [b])) = some (render [b]) := by
  induction octets generalizing fuel with
  | nil =>
    obtain ⟨fuel, rfl⟩ := Nat.exists_eq_succ_of_ne_zero (Nat.ne_of_gt enough)
    simp only [nil_append, cutLoop, find_last]
    rfl
  | cons a octets ih =>
    obtain ⟨fuel, rfl⟩ := Nat.exists_eq_succ_of_ne_zero (Nat.ne_of_gt (Nat.zero_lt_of_lt enough))
    have shape : render (a :: octets ++ [b]) = octet a ++ render (octets ++ [b]) := by
      cases octets with
      | nil => exact render_cons a b []
      | cons c octets => exact render_cons a c (octets ++ [b])
    rw [shape]
    simp only [cutLoop, find_octet]
    exact ih fuel (by simpa using enough)

theorem readHex_octet (b : UInt8) : (readHex (render [b])).toNat = b.toNat := by
  obtain ⟨high, low⟩ := octet_halves b
  have hh := digit_facts _ high
  have hl := digit_facts _ low
  have wide := b.toNat_lt
  have value : 16 * (b.toNat / 16) + b.toNat % 16 = b.toNat := by omega
  have small : b.toNat < 65536 := by omega
  simp only [readHex, render, octet, flatMap_cons, flatMap_nil,
    append_nil, List.dropLast, List.takeWhile, hh.1, hl.1, foldl_cons, foldl_nil,
    hh.2, hl.2, Nat.mul_zero, Nat.zero_add, value, if_pos small]
  simp

theorem getLastMACNumberToInt_str (mac : MACAddress) (octets : List UInt8) (b : UInt8)
    (split : mac.address = octets ++ [b]) : ∃ n, getLastMACNumberToInt mac.str = some n ∧
    n.toNat = b.toNat := by
  have enough : octets.length < (render (octets ++ [b])).length + 1 := by
    have back := render_digits (octets ++ [b])
    have filtered := length_filter_le isxdigit (render (octets ++ [b]))
    simp only [length_append, length_singleton] at back
    omega
  refine ⟨readHex (render [b]), ?_, readHex_octet b⟩
  simp only [getLastMACNumberToInt, str, split, cutLoop_render octets b _ enough, Option.map_some]

theorem setMACExt_str (mac : MACAddress) : ∃ c, b.setMACExt mac.str = .ok c ∧
    macExtOf c.my_id = mac.lastOctet.toNat ∧
      distanceOf c.my_id = distanceOf b.my_id ∧ areaOf c.my_id = areaOf b.my_id := by
  obtain ⟨n, last, value⟩ :=
    getLastMACNumberToInt_str mac (mac.address.take 5) mac.lastOctet mac.address_split
  have wide := mac.lastOctet.toNat_lt
  have small : n < 1024 := by
    rw [UInt16.lt_iff_toNat_lt, value]
    exact Nat.lt_trans wide (by decide)
  have written : b.setMACExt mac.str =
      .ok ⟨(b.my_id &&& (63 : UInt16)) + (n <<< (6 : UInt16))⟩ := by
    simp only [setMACExt, last, if_pos small]
  exact ⟨_, written, value ▸ setMACExt_ok last written⟩

theorem setSinkDistance_next : (distanceOf b.my_id = 15 ∧
      b.setSinkDistance (b.getSinkDistance + 1) = .error .sinkDistance) ∨
    ∃ c, b.setSinkDistance (b.getSinkDistance + 1) = .ok c ∧
      macExtOf c.my_id = macExtOf b.my_id ∧ distanceOf c.my_id = distanceOf b.my_id + 1 ∧
      areaOf c.my_id = areaOf b.my_id := by
  have bound : distanceOf b.my_id < 16 := Nat.mod_lt _ (by decide)
  have next : (b.getSinkDistance + 1).toNat = distanceOf b.my_id + 1 := by
    rw [UInt16.toNat_add, getSinkDistance_toNat]
    exact Nat.mod_eq_of_lt (by change _ + 1 < 65536; omega)
  cases written : b.setSinkDistance (b.getSinkDistance + 1) with
  | ok c =>
    obtain ⟨ext, distance, area⟩ := setSinkDistance_ok written
    exact .inr ⟨c, rfl, ext, next ▸ distance, area⟩
  | error failure =>
    unfold setSinkDistance at written
    split at written
    · cases written
    · rename_i large
      cases written
      rw [UInt16.lt_iff_toNat_lt, next] at large
      exact .inl ⟨by change ¬ _ + 1 < 16 at large; omega, rfl⟩

end IDBuilder
end Srwsn
