import Mathlib

/-! Link-layer addresses: six octets, their printed form and the parser that reads it. -/
namespace Srwsn

open List

structure MACAddress where
  address : List UInt8
  size : address.length = 6
  deriving DecidableEq

namespace MACAddress

def MAC_ADDRESS_BYTES : Nat := 6

def isdigit (c : Char) : Bool := '0' ≤ c && c ≤ '9'
def islower (c : Char) : Bool := 'a' ≤ c && c ≤ 'z'
def isxdigit (c : Char) : Bool := isdigit c || ('a' ≤ c && c ≤ 'f') || ('A' ≤ c && c ≤ 'F')

def digitValue (c : Char) : Nat :=
  if isdigit c then c.toNat - '0'.toNat
  else if islower c then c.toNat - 'a'.toNat + 10
  else c.toNat - 'A'.toNat + 10

/-- The inner `while (*s && !isxdigit(*s)) s++` of the converter. -/
def skipSeparators (s : List Char) : List Char := s.dropWhile (fun c => !isxdigit c)

def hextobin : Nat → List Char → List UInt8
  | 0, _ => []
  | size + 1, s =>
    match skipSeparators s with
    | [] => 0 :: hextobin size []
    | high :: rest =>
      match skipSeparators rest with
      | [] => 0 :: hextobin size []
      | low :: tail =>
        UInt8.ofNat (digitValue high * 16 + digitValue low) :: hextobin size tail

theorem hextobin_length (size : Nat) (s : List Char) : (hextobin size s).length = size := by
  induction size generalizing s with
  | zero => rfl
  | succ size ih =>
    unfold hextobin
    split
    · simp only [length_cons, ih]
    · split <;> simp only [length_cons, ih]

def wellFormed (hexstr : List Char) : Bool :=
  hexstr.all (fun c => isxdigit c || c == ' ' || c == ':' || c == '-') &&
    (hexstr.filter isxdigit).length == 2 * MAC_ADDRESS_BYTES

/-- `none` is the `false` of the source; the object then keeps its old octets. -/
def tryParse (hexstr : List Char) : Option MACAddress :=
  if wellFormed hexstr then
    some ⟨hextobin MAC_ADDRESS_BYTES hexstr, hextobin_length _ _⟩
  else none

variable (mac : MACAddress)

def lastOctet : UInt8 := mac.address.getD 5 0

theorem address_split : mac.address = mac.address.take 5 ++ [mac.lastOctet] := by
  have inside : 5 < mac.address.length := by simp [mac.size]
  have whole : mac.address.drop 6 = [] := drop_eq_nil_of_le (by simp [mac.size])
  have tail : mac.address.drop 5 = [mac.lastOctet] := by
    rw [drop_eq_getElem_cons inside, whole, lastOctet, getD_eq_getElem _ _ inside]
  rw [← tail, take_append_drop]

def UNSPECIFIED_ADDRESS : MACAddress := ⟨[0, 0, 0, 0, 0, 0], rfl⟩
def BROADCAST_ADDRESS : MACAddress := ⟨[0xff, 0xff, 0xff, 0xff, 0xff, 0xff], rfl⟩

def isBroadcast : Bool := mac.address.foldl (· &&& ·) 0xff == 0xff
def isUnspecified : Bool := !(mac.address.any (· != 0))
def equals (other : MACAddress) : Bool := mac.address == other.address

def compareTo (other : MACAddress) : Ordering := compare mac.address other.address

def hexDigit (n : Nat) : Char :=
  if n < 10 then Char.ofNat ('0'.toNat + n) else Char.ofNat ('A'.toNat + (n - 10))

def octet (b : UInt8) : List Char := [hexDigit (b.toNat / 16), hexDigit (b.toNat % 16), '-']

def render (octets : List UInt8) : List Char := (octets.flatMap octet).dropLast

def str : List Char := render mac.address

def autoAddress (autoAddressCtr : UInt32) : MACAddress :=
  ⟨[0x0A, 0xAA, ((autoAddressCtr >>> 24) &&& 0xff).toUInt8,
    ((autoAddressCtr >>> 16) &&& 0xff).toUInt8,
    ((autoAddressCtr >>> 8) &&& 0xff).toUInt8, (autoAddressCtr &&& 0xff).toUInt8], rfl⟩

def generateAutoAddress (autoAddressCtr : UInt32) : MACAddress × UInt32 :=
  (autoAddress (autoAddressCtr + 1), autoAddressCtr + 1)

theorem ext_address {mac other : MACAddress} (h : mac.address = other.address) : mac = other := by
  cases mac
  cases other
  cases h
  rfl

@[simp] theorem equals_iff (other : MACAddress) : mac.equals other = true ↔ mac = other := by
  constructor
  · intro h
    exact ext_address (by simpa [equals] using h)
  · rintro rfl
    simp [equals]

theorem isUnspecified_iff : mac.isUnspecified = true ↔ mac = UNSPECIFIED_ADDRESS := by
  obtain ⟨octets, size⟩ := mac
  constructor
  · intro h
    apply ext_address
    have zero : ∀ b ∈ octets, b = 0 := by simpa [isUnspecified] using h
    have all := eq_replicate_of_mem zero
    simpa [UNSPECIFIED_ADDRESS, size] using all
  · intro h
    rw [h]
    decide

theorem lastOctet_autoAddress (ctr : UInt32) :
    (autoAddress ctr).lastOctet.toNat = ctr.toNat % 256 := by
  change ((ctr &&& 0xff).toUInt8).toNat = _
  rw [UInt32.toNat_toUInt8, UInt32.toNat_and]
  change (ctr.toNat &&& 255) % 256 = _
  rw [Nat.and_two_pow_sub_one_eq_mod ctr.toNat 8]
  omega

theorem autoAddress_specified (ctr : UInt32) : (autoAddress ctr).isUnspecified = false := by
  rw [Bool.eq_false_iff]
  intro h
  have same := (isUnspecified_iff _).mp h
  have first := congrArg (fun mac => mac.address.head?) same
  cases first

theorem digit_facts : ∀ n, n < 16 → isxdigit (hexDigit n) = true ∧
    digitValue (hexDigit n) = n := by decide

theorem digit_compare : ∀ m, m < 16 → ∀ n, n < 16 →
    compare (hexDigit m) (hexDigit n) = compare m n := by decide

theorem separator_skipped (s : List Char) : skipSeparators ('-' :: s) = skipSeparators s := rfl

theorem digit_kept {n : Nat} (small : n < 16) (s : List Char) :
    skipSeparators (hexDigit n :: s) = hexDigit n :: s := by
  simp [skipSeparators, (digit_facts n small).1]

theorem octet_halves (b : UInt8) : b.toNat / 16 < 16 ∧ b.toNat % 16 < 16 := by
  have := b.toNat_lt
  omega

theorem hextobin_octet (size : Nat) (b : UInt8) (s : List Char) :
    hextobin (size + 1) (hexDigit (b.toNat / 16) :: hexDigit (b.toNat % 16) :: s) =
    b :: hextobin size s := by
  obtain ⟨high, low⟩ := octet_halves b
  have value : b.toNat / 16 * 16 + b.toNat % 16 = b.toNat := by omega
  simp only [hextobin, digit_kept high, digit_kept low, (digit_facts _ high).2,
    (digit_facts _ low).2, value, UInt8.ofNat_toNat]

theorem hextobin_separator (size : Nat) (s : List Char) :
    hextobin size ('-' :: s) = hextobin size s := by
  cases size with
  | zero => rfl
  | succ size => simp only [hextobin, separator_skipped]

theorem render_cons (b c : UInt8) (octets : List UInt8) :
    render (b :: c :: octets) = octet b ++ render (c :: octets) := by
  simp only [render, flatMap_cons]
  rw [dropLast_append_of_ne_nil]
  simp [octet]

theorem hextobin_render (octets : List UInt8) :
    hextobin octets.length (render octets) = octets := by
  induction octets with
  | nil => rfl
  | cons b octets ih =>
    cases octets with
    | nil => exact hextobin_octet 0 b []
    | cons c octets =>
      rw [render_cons]
      simp only [octet, cons_append, nil_append]
      rw [length_cons, hextobin_octet, hextobin_separator, ih]

theorem render_digits (octets : List UInt8) :
    (render octets).all (fun c => isxdigit c || c == ' ' || c == ':' || c == '-') = true ∧
      ((render octets).filter isxdigit).length = 2 * octets.length := by
  induction octets with
  | nil => exact ⟨rfl, rfl⟩
  | cons b octets ih =>
    obtain ⟨high, low⟩ := octet_halves b
    have hh := (digit_facts _ high).1
    have hl := (digit_facts _ low).1
    have dash : isxdigit '-' = false := rfl
    cases octets with
    | nil => simp [render, octet, hh, hl]
    | cons c octets =>
      rw [render_cons]
      refine ⟨?_, ?_⟩
      · simp only [octet, cons_append, nil_append, all_cons, hh, hl, ih.1]
        rfl
      · simp only [octet, cons_append, nil_append, filter_cons, hh, hl, dash,
          if_true, length_cons, ih.2, Bool.false_eq_true, if_false]
        omega

theorem tryParse_str : tryParse mac.str = some mac := by
  have digits := render_digits mac.address
  have ok : wellFormed mac.str = true := by
    simp [wellFormed, str, digits.1, digits.2, mac.size, MAC_ADDRESS_BYTES]
  rw [tryParse, if_pos ok]
  have back := hextobin_render mac.address
  rw [mac.size] at back
  exact congrArg some (ext_address back)

theorem str_injective {mac other : MACAddress} (h : mac.str = other.str) : mac = other := by
  have parsed := tryParse_str mac
  rw [h, tryParse_str] at parsed
  exact (Option.some.inj parsed).symm

theorem octet_compare (b c : UInt8) : compare b c =
    (compare (b.toNat / 16) (c.toNat / 16)).then (compare (b.toNat % 16) (c.toNat % 16)) := by
  have same : compare b c = compare b.toNat c.toNat := by
    simp only [compare, compareOfLessAndEq, UInt8.lt_iff_toNat_lt, ← UInt8.toNat_inj]
  rw [same]
  simp only [Nat.compare_eq_ite_lt]
  by_cases high : b.toNat / 16 = c.toNat / 16
  · rw [high, if_neg (Nat.lt_irrefl (c.toNat / 16)), if_neg (Nat.lt_irrefl (c.toNat / 16))]
    split_ifs <;> first | rfl | omega
  · split_ifs <;> first | rfl | omega

theorem octet_compare_append (b c : UInt8) (s t : List Char) :
    compare (octet b ++ s) (octet c ++ t) = (compare b c).then (compare s t) := by
  obtain ⟨hb, lb⟩ := octet_halves b
  obtain ⟨hc, lc⟩ := octet_halves c
  simp only [octet, cons_append, nil_append, List.compare_cons_cons,
    digit_compare _ hb _ hc, digit_compare _ lb _ lc, octet_compare b c]
  cases compare (b.toNat / 16) (c.toNat / 16) <;>
    cases compare (b.toNat % 16) (c.toNat % 16) <;> rfl

/-- The separators stand at the same places in both strings, so they never decide. -/
theorem render_compare (octets others : List UInt8) (same : octets.length = others.length) :
    compare (render octets) (render others) = compare octets others := by
  induction octets generalizing others with
  | nil =>
    cases others with
    | nil => rfl
    | cons c others => cases same
  | cons b octets ih =>
    cases others with
    | nil => cases same
    | cons c others =>
      have tails : octets.length = others.length := by simpa using same
      cases octets with
      | nil =>
        cases others with
        | nil =>
          obtain ⟨hb, lb⟩ := octet_halves b
          obtain ⟨hc, lc⟩ := octet_halves c
          simp only [render, octet, flatMap_cons, flatMap_nil, append_nil,
            List.dropLast, List.compare_cons_cons, digit_compare _ hb _ hc,
            digit_compare _ lb _ lc, octet_compare b c, Ordering.then_assoc]
          rfl
        | cons c' others => cases tails
      | cons b' octets =>
        cases others with
        | nil => cases tails
        | cons c' others =>
          rw [render_cons, render_cons, octet_compare_append, ih _ tails]
          exact List.compare_cons_cons.symm

theorem str_compareTo (other : MACAddress) : compare mac.str other.str = mac.compareTo other :=
  render_compare _ _ (mac.size.trans other.size.symm)

def parse (hexstr : Option (List Char)) : Bool × MACAddress :=
  match hexstr.bind tryParse with
  | some parsed => (true, parsed)
  | none => (false, mac)

def hexValue (c : Char) : Nat := "0123456789abcdef".toList.idxOf c.toLower

def spelled : List Char → List UInt8
  | high :: low :: digits => UInt8.ofNat (16 * hexValue high + hexValue low) :: spelled digits
  | _ => []

theorem digitValue_eq {c : Char} (digit : isxdigit c = true) : digitValue c = hexValue c := by
  have all : ∀ n, n < 128 → isxdigit (Char.ofNat n) = true →
      digitValue (Char.ofNat n) = hexValue (Char.ofNat n) := by decide +kernel
  have small : c.toNat < 128 := by
    simp only [isxdigit, isdigit, Bool.or_eq_true, Bool.and_eq_true, decide_eq_true_eq, Char.le_def,
      UInt32.le_iff_toNat_le] at digit
    simp only [Char.toNat] at digit ⊢
    have nine : ('9' : Char).val.toNat = 57 := rfl
    have f : ('f' : Char).val.toNat = 102 := rfl
    have F : ('F' : Char).val.toNat = 70 := rfl
    omega
  rw [← Char.ofNat_toNat c] at digit ⊢
  exact all c.toNat small digit

theorem skipSeparators_digits {s digits : List Char} {c : Char}
    (found : s.filter isxdigit = c :: digits) :
    ∃ rest, skipSeparators s = c :: rest ∧ rest.filter isxdigit = digits ∧ isxdigit c = true := by
  induction s with
  | nil => cases found
  | cons d s ih =>
    cases digit : isxdigit d with
    | true =>
      simp only [filter_cons, digit, if_true, List.cons.injEq] at found
      obtain ⟨rfl, rest⟩ := found
      exact ⟨s, by simp [skipSeparators, digit], rest, digit⟩
    | false =>
      simp only [filter_cons, digit, Bool.false_eq_true, if_false] at found
      obtain ⟨rest, skipped, kept⟩ := ih found
      refine ⟨rest, ?_, kept⟩
      simpa [skipSeparators, digit] using skipped

theorem hextobin_spelled (size : Nat) {s : List Char}
    (digits : (s.filter isxdigit).length = 2 * size) :
    hextobin size s = spelled (s.filter isxdigit) := by
  induction size generalizing s with
  | zero =>
    rw [length_eq_zero_iff.mp digits]
    rfl
  | succ size ih =>
    obtain ⟨high, low, more, found⟩ : ∃ high low more, s.filter isxdigit = high :: low :: more := by
      match found : s.filter isxdigit, digits with
      | high :: low :: more, _ => exact ⟨high, low, more, rfl⟩
    obtain ⟨rest, first, behind, digit⟩ := skipSeparators_digits found
    obtain ⟨rest', second, behind', digit'⟩ := skipSeparators_digits behind
    have fewer : (rest'.filter isxdigit).length = 2 * size := by
      simp only [found, length_cons, ← behind'] at digits
      omega
    simp only [hextobin, first, second, ih fewer, found, spelled, digitValue_eq digit,
      digitValue_eq digit', behind', Nat.mul_comm 16]

/-- What is accepted, what it is read as, and that nothing else changes the address. -/
theorem parse_exact (s : List Char) : ((mac.parse (some s)).1 = true ↔
      (∀ c ∈ s, isxdigit c = true ∨ c = ' ' ∨ c = ':' ∨ c = '-') ∧
      (s.filter isxdigit).length = 12) ∧
    ((mac.parse (some s)).1 = true → (mac.parse (some s)).2.address = spelled (s.filter isxdigit)) ∧
    ((mac.parse (some s)).1 = false → (mac.parse (some s)).2 = mac) ∧
    mac.parse none = (false, mac) ∧ ∀ a : MACAddress, mac.parse (some a.str) = (true, a) := by
  have syntactic : wellFormed s = true ↔
      (∀ c ∈ s, isxdigit c = true ∨ c = ' ' ∨ c = ':' ∨ c = '-') ∧
      (s.filter isxdigit).length = 12 := by
    simp [wellFormed, MAC_ADDRESS_BYTES, or_assoc]
  refine ⟨?_, ?_, ?_, rfl, fun a => by simp [parse, tryParse_str]⟩
  · rw [← syntactic]
    by_cases ok : wellFormed s = true <;> simp [parse, tryParse, ok]
  · intro accepted
    by_cases ok : wellFormed s = true
    · simp only [parse, Option.bind_some, tryParse, if_pos ok]
      exact hextobin_spelled 6 (syntactic.mp ok).2
    · simp [parse, tryParse, ok] at accepted
  · intro refused
    by_cases ok : wellFormed s = true
    · simp [parse, tryParse, ok] at refused
    · simp [parse, tryParse, ok]

end MACAddress
end Srwsn
