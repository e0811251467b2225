import Srwsn.SR.BloomTable
import Srwsn.Lib.Outcome

/-! What a Bloom filter answers, after any words have been added to it, and which neighbour a query
goes to. -/
namespace Srwsn

open Outcome BloomFilter MACAddress List

/-- The object as the constructor leaves it. The length of the array is computed in `size_t`, where
it may wrap. -/
structure FilterObject where
  asize : UInt32
  a : List UInt8
  funcs : List hashfunc_t

namespace FilterObject

def construct (size : UInt32) (memory : Nat → UInt8) (funcs : List hashfunc_t) : FilterObject :=
  ⟨size, (List.range ((size + 7) / 8).toNat).map memory, funcs⟩

variable (f : FilterObject)

def position (func : hashfunc_t) (s : List Char) : Except Fault Nat :=
  if f.asize = 0 then .error .divisionByZero else .ok (func s % f.asize).toNat

def setBit (a : List UInt8) (n : Nat) : Except Fault (List UInt8) :=
  if n / 8 < a.length then .ok (SETBIT a n) else .error .outOfBounds

def getBit (a : List UInt8) (n : Nat) : Except Fault Bool :=
  if n / 8 < a.length then .ok (GETBIT a n) else .error .outOfBounds

def Add (s : List Char) : Except Fault FilterObject := do
  let a ← f.funcs.foldlM (fun a func => do setBit a (← f.position func s)) f.a
  return { f with a := a }

def checkFuncs (f : FilterObject) (s : List Char) : List hashfunc_t → Except Fault Bool
  | [] => .ok true
  | func :: funcs => do
    let bit ← getBit f.a (← f.position func s)
    if bit then checkFuncs f s funcs else return false

def Check (s : List Char) : Except Fault Bool := f.checkFuncs s f.funcs

def answer (words : List (List Char)) (w : List Char) : Except Fault Bool := do
  (← words.foldlM Add f).Check w

def bitOf (func : hashfunc_t) (s : List Char) : Nat := (func s).toNat % f.asize.toNat

def bits (s : List Char) : List Nat := f.funcs.map (f.bitOf · s)

/-- No access is outside the array, no added word is missed, and neither the order of the words nor
their repetition counts. -/
structure Exact (f : FilterObject) : Prop where
  answers : ∀ words w, ∃ found, f.answer words w = .ok found ∧
    (found = true ↔ ∀ n ∈ f.bits w, GETBIT f.a n = true ∨ ∃ u ∈ words, n ∈ f.bits u)
  present : ∀ words w, w ∈ words → f.answer words w = .ok true
  unordered : ∀ words words' w, (∀ u, u ∈ words ↔ u ∈ words') → f.answer words w = f.answer words' w

variable {k : Nat}

theorem bit_iff (b : UInt8) (small : k < 8) :
    (b &&& ((1 : UInt8) <<< UInt8.ofNat k) != 0) = b.toNat.testBit k := by
  have all : ∀ n < 256, ∀ k < 8,
      (UInt8.ofNat n &&& ((1 : UInt8) <<< UInt8.ofNat k) != 0) = n.testBit k := by decide +kernel
  simpa using all b.toNat b.toNat_lt k small

theorem or_toNat (b : UInt8) (small : k < 8) : (b ||| ((1 : UInt8) <<< UInt8.ofNat k)).toNat =
    b.toNat ||| 2 ^ k := by
  have all : ∀ k < 8, ((1 : UInt8) <<< UInt8.ofNat k).toNat = 2 ^ k := by decide
  rw [UInt8.toNat_or, all k small]

variable {a : List UInt8}

theorem GETBIT_SETBIT {n : Nat} (inside : n / 8 < a.length) (m : Nat) :
    GETBIT (SETBIT a n) m = true ↔ GETBIT a m = true ∨ m = n := by
  have low : m % 8 < 8 := Nat.mod_lt m (by decide)
  simp only [GETBIT, SETBIT, bit_iff _ low, getD_eq_getElem?_getD, getElem?_modify]
  by_cases same : n / 8 = m / 8
  · have byte : a[m / 8]? = some a[m / 8] := getElem?_eq_getElem (same ▸ inside)
    have written := or_toNat a[m / 8] (Nat.mod_lt n (by decide : 0 < 8))
    have bit : n % 8 = m % 8 ↔ m = n := by omega
    simp only [if_pos same, byte, Option.map_eq_map, Option.map_some, Option.getD_some, written,
      Nat.testBit_or, Nat.testBit_two_pow, Bool.or_eq_true, decide_eq_true_eq, bit]
  · have other : m ≠ n := by
      rintro rfl
      exact same rfl
    simp [same, other]

theorem GETBIT_setPositions {ns : List Nat} (inside : ∀ n ∈ ns, n / 8 < a.length) (m : Nat) :
    GETBIT (setPositions a ns) m = true ↔ GETBIT a m = true ∨ m ∈ ns := by
  induction ns generalizing a with
  | nil => simp [setPositions]
  | cons n ns ih =>
    have here := GETBIT_SETBIT (inside n mem_cons_self) m
    have later :=
      ih (a := SETBIT a n) (by simpa [SETBIT] using fun k hk => inside k (mem_cons_of_mem n hk))
    rw [setPositions, foldl_cons, ← setPositions, later, here, mem_cons, or_assoc]

section Roomy

def Roomy (size : UInt32) : Prop := size ≠ 0 ∧ size.toNat + 7 < 2 ^ 32

variable {f : FilterObject} {size : UInt32}

theorem bytes_toNat (roomy : Roomy size) : ((size + 7) / 8).toNat = (size.toNat + 7) / 8 := by
  rw [UInt32.toNat_div, UInt32.toNat_add]
  have := roomy.2
  change (size.toNat + 7) % 2 ^ 32 / 8 = _
  omega

structure Sized (f : FilterObject) : Prop where
  roomy : Roomy f.asize
  length : f.a.length = (f.asize.toNat + 7) / 8

theorem construct_sized (roomy : Roomy size) (memory : Nat → UInt8) (funcs : List hashfunc_t) :
    Sized (construct size memory funcs) :=
  ⟨roomy, by simpa [construct] using bytes_toNat roomy⟩

variable (sized : Sized f)

include sized

theorem Sized.position (func : hashfunc_t) (s : List Char) :
    f.position func s = .ok (f.bitOf func s) := by
  simp [FilterObject.position, bitOf, sized.roomy.1]

theorem Sized.inside (func : hashfunc_t) (s : List Char) : f.bitOf func s / 8 < f.a.length := by
  have positive : 0 < f.asize.toNat := by
    rw [Nat.pos_iff_ne_zero, Ne, ← UInt32.toNat_zero, UInt32.toNat_inj]
    exact sized.roomy.1
  have := Nat.mod_lt (func s).toNat positive
  rw [sized.length, bitOf]
  omega

theorem Sized.Add (s : List Char) :
    f.Add s = .ok ⟨f.asize, setPositions f.a (f.bits s), f.funcs⟩ := by
  have loop : ∀ (funcs : List hashfunc_t) (a : List UInt8), a.length = f.a.length →
      funcs.foldlM (fun a func => do setBit a (← f.position func s)) a =
        .ok (setPositions a (funcs.map (f.bitOf · s))) := by
    intro funcs
    induction funcs with
    | nil => exact fun a _ => rfl
    | cons func funcs ih =>
      intro a same
      have inside := same ▸ sized.inside func s
      rw [foldlM_cons, sized.position, ok_bind, setBit, if_pos inside, ok_bind,
        ih _ (by simpa [SETBIT] using same)]
      rfl
  rw [FilterObject.Add, loop f.funcs f.a rfl]
  rfl

theorem Sized.adds (words : List (List Char)) :
    words.foldlM FilterObject.Add f = .ok ⟨f.asize, setPositions f.a (words.flatMap f.bits),
      f.funcs⟩ := by
  induction words generalizing f with
  | nil => rfl
  | cons s words ih =>
    have more : Sized ⟨f.asize, setPositions f.a (f.bits s), f.funcs⟩ :=
      ⟨sized.roomy, (setPositions_length _ _).trans sized.length⟩
    rw [foldlM_cons, sized.Add, ok_bind, ih more, flatMap_cons]
    simp only [setPositions, foldl_append]
    rfl

theorem Sized.Check (s : List Char) :
    f.Check s = .ok (f.funcs.all fun func => GETBIT f.a (f.bitOf func s)) := by
  have loop : ∀ funcs : List hashfunc_t,
      f.checkFuncs s funcs = .ok (funcs.all fun func => GETBIT f.a (f.bitOf func s)) := by
    intro funcs
    induction funcs with
    | nil => rfl
    | cons func funcs ih =>
      rw [checkFuncs, sized.position, ok_bind, getBit, if_pos (sized.inside func s), ok_bind, ih]
      cases bit : GETBIT f.a (f.bitOf func s) <;> simp [bit]
  exact loop f.funcs

theorem Sized.answer (words : List (List Char)) (w : List Char) :
    ∃ found, f.answer words w = .ok found ∧
      (found = true ↔ ∀ n ∈ f.bits w, GETBIT f.a n = true ∨ ∃ u ∈ words, n ∈ f.bits u) := by
  have after : Sized ⟨f.asize, setPositions f.a (words.flatMap f.bits), f.funcs⟩ :=
    ⟨sized.roomy, (setPositions_length _ _).trans sized.length⟩
  have inside : ∀ n ∈ words.flatMap f.bits, n / 8 < f.a.length := by
    simp only [mem_flatMap, bits, List.mem_map]
    rintro n ⟨u, -, func, -, rfl⟩
    exact sized.inside func u
  refine ⟨_, by rw [FilterObject.answer, sized.adds, ok_bind, after.Check], ?_⟩
  simp only [List.all_eq_true, GETBIT_setPositions inside, mem_flatMap, bits, List.forall_mem_map]
  rfl

theorem Sized.exact : Exact f where
  answers := sized.answer
  present words w added := by
    obtain ⟨found, answered, iff⟩ := sized.answer words w
    rw [answered, iff.mpr fun n bit => .inr ⟨w, added, bit⟩]
  unordered words words' w same := by
    obtain ⟨found, answered, iff⟩ := sized.answer words w
    obtain ⟨found', answered', iff'⟩ := sized.answer words' w
    have equal : found = found' := by
      rw [Bool.eq_iff_iff, iff, iff']
      simp only [same]
    rw [answered, answered', equal]

end Roomy

theorem construct_cramped {size : UInt32} (cramped : ¬ Roomy size) (memory : Nat → UInt8)
    (funcs : List hashfunc_t) : (construct size memory funcs).a = [] := by
  have none : ((size + 7) / 8).toNat = 0 := by
    by_cases zero : size = 0
    · simp [zero]
    · have wrapped : ¬ size.toNat + 7 < 2 ^ 32 := fun less => cramped ⟨zero, less⟩
      have := size.toNat_lt
      rw [UInt32.toNat_div, UInt32.toNat_add]
      change (size.toNat + 7) % 2 ^ 32 / 8 = 0
      omega
  simp [construct, none]

variable {func : hashfunc_t} {funcs : List hashfunc_t}

theorem Check_empty {f : FilterObject} (empty : f.a = [])
    (some : f.funcs = func :: funcs) {w : List Char} {found : Bool} : f.Check w ≠ .ok found := by
  intro checked
  rw [Check, some, checkFuncs] at checked
  obtain ⟨n, -, checked⟩ := bind_eq_ok checked
  obtain ⟨bit, read, -⟩ := bind_eq_ok checked
  simp [getBit, empty] at read

/-- A filter of any other size reads and writes outside its array, or divides by zero. -/
theorem filters_exact_iff (size : UInt32) :
    (∀ memory funcs, Exact (construct size memory funcs)) ↔ size ≠ 0 ∧ size.toNat + 7 < 2 ^ 32 := by
  constructor
  · intro exact
    obtain ⟨found, answered, -⟩ := (exact (fun _ => 0) [sax_hash]).answers [] []
    by_contra cramped
    exact Check_empty (construct_cramped cramped _ _) rfl answered
  · exact fun roomy memory funcs => (construct_sized roomy memory funcs).exact

/-- The largest size: no byte is allocated, and the first word is written outside. -/
theorem largest_filter_outside : (construct 0xFFFFFFFF (fun _ => 0) [sax_hash]).a = [] ∧
    ((construct 0xFFFFFFFF (fun _ => 0) [sax_hash]).answer ["LIGTH".toList] []) =
    .error .outOfBounds :=
  ⟨rfl, rfl⟩

def Honest : Prop :=
  ∀ words w, f.answer words w = .ok true → ∀ n ∈ f.bits w, ∃ u ∈ words, n ∈ f.bits u

theorem Add_empty {f f' : FilterObject} (empty : f.a = [])
    (some : f.funcs = func :: funcs) {s : List Char} : f.Add s ≠ .ok f' := by
  intro added
  obtain ⟨a, written, -⟩ := bind_eq_ok added
  rw [some, foldlM_cons] at written
  obtain ⟨b, wrote, -⟩ := bind_eq_ok written
  obtain ⟨n, -, wrote⟩ := bind_eq_ok wrote
  simp [setBit, empty] at wrote

theorem honest_of_empty {f : FilterObject} (empty : f.a = []) : Honest f := by
  intro words w answered n bit
  obtain ⟨g, added, checked⟩ := bind_eq_ok answered
  cases some : f.funcs with
  | nil => simp [bits, some] at bit
  | cons func funcs =>
    cases words with
    | nil =>
      cases added
      exact absurd checked (Check_empty empty some)
    | cons s words =>
      rw [foldlM_cons] at added
      obtain ⟨h, first, -⟩ := bind_eq_ok added
      exact absurd first (Add_empty empty some)

/-- A new filter is honest, whatever its functions, just when no bit that a word can have was left
set in the memory. -/
theorem filters_honest_iff (size : UInt32) (memory : Nat → UInt8) :
    (∀ funcs, Honest (construct size memory funcs)) ↔
      ∀ n, n < size.toNat → GETBIT (construct size memory []).a n = false := by
  by_cases roomy : Roomy size
  · constructor
    · intro honest n inside
      have word : (construct size memory [fun _ => UInt32.ofNat n]).bits [] = [n] := by
        have hash : (UInt32.ofNat n).toNat = n := by
          have small := inside.trans size.toNat_lt
          rw [UInt32.toNat_ofNat', Nat.mod_eq_of_lt small]
        simp [bits, bitOf, construct, hash, Nat.mod_eq_of_lt inside]
      obtain ⟨found, answered, iff⟩ :=
        (construct_sized roomy memory [fun _ => UInt32.ofNat n]).answer [] []
      rw [word] at iff
      rw [Bool.eq_false_iff]
      intro set
      have here : found = true := iff.mpr fun m bit => .inl (mem_singleton.mp bit ▸ set)
      obtain ⟨u, none, -⟩ := honest _ [] [] (here ▸ answered) n (by simp [word])
      cases none
    · intro clear funcs words w answered n bit
      have sized := construct_sized roomy memory funcs
      obtain ⟨found, answered', iff⟩ := sized.answer words w
      cases answered.symm.trans answered'
      refine (iff.mp rfl n bit).resolve_left fun set => ?_
      obtain ⟨func, -, rfl⟩ := List.mem_map.mp bit
      have positive : 0 < size.toNat :=
        Nat.pos_of_ne_zero fun zero => roomy.1 (UInt32.toNat_inj.mp zero)
      have inside : (func w).toNat % size.toNat < size.toNat := Nat.mod_lt _ positive
      exact Bool.false_ne_true ((clear _ inside).symm.trans set)
  · have empty := fun funcs => construct_cramped roomy memory funcs
    refine iff_of_true (fun funcs => honest_of_empty (empty funcs)) fun n _ => ?_
    simp [empty, GETBIT]

/-- Memory that was all ones: every word is found in a filter that nothing was added to. -/
theorem new_filter_full : (construct 100 (fun _ => 0xFF) [sax_hash, sdbm_hash]).answer
    [] "LIGTH".toList = .ok true ∧
      ¬ Honest (construct 100 (fun _ => 0xFF) [sax_hash, sdbm_hash]) := by
  have full : (construct 100 (fun _ => 0xFF) [sax_hash, sdbm_hash]).answer [] "LIGTH".toList =
    .ok true := rfl
  refine ⟨full, fun honest => ?_⟩
  obtain ⟨u, none, -⟩ := honest [] _ full _ mem_cons_self
  cases none

end FilterObject

namespace BloomTable

def addFilters (bt : BloomTable) (adds : List (BloomFilter × MACAddress)) : BloomTable :=
  adds.foldl (fun bt add => bt.AddFilter (some add.1) add.2) bt

def latest (adds : List (BloomFilter × MACAddress)) (mac : MACAddress) : Option BloomFilter :=
  adds.foldl (fun old add => if add.2 = mac then some add.1 else old) none

def Serves (adds : List (BloomFilter × MACAddress)) (query_str : List Char) (mac : MACAddress) :
    Prop :=
  ∃ bloom, latest adds mac = some bloom ∧ bloom.Check query_str = true

structure Rows (adds : List (BloomFilter × MACAddress))
    (l : List (List Char × Option BloomFilter)) : Prop where
  ordered : l.Pairwise fun a b => compare a.1 b.1 = .lt
  printed : ∀ row ∈ l, ∃ mac bloom, row = (str mac, some bloom)
  held : ∀ mac bloom, (str mac, some bloom) ∈ l ↔ latest adds mac = some bloom

theorem addFilters_rows (own : BloomFilter) (adds : List (BloomFilter × MACAddress)) :
    Rows adds (addFilters ⟨own, ∅⟩ adds).NeighborsTable.toList := by
  have lookup : (∀ key row, (addFilters ⟨own, ∅⟩ adds).NeighborsTable[key]? = some row →
      ∃ mac bloom, key = str mac ∧ row = some bloom) ∧
      ∀ mac, (addFilters ⟨own, ∅⟩ adds).NeighborsTable[str mac]? = (latest adds mac).map some := by
    induction adds using List.reverseRecOn with
    | nil => simp [addFilters, latest]
    | append_singleton adds add ih =>
      simp only [addFilters, latest, foldl_append, foldl_cons, foldl_nil, AddFilter,
        Std.TreeMap.getElem?_insert, Std.LawfulEqCmp.compare_eq_iff_eq] at ih ⊢
      constructor
      · intro key row found
        split at found
        · rename_i same
          exact ⟨add.2, add.1, same.symm, (Option.some.inj found).symm⟩
        · exact ih.1 key row found
      · intro mac
        by_cases same : add.2 = mac
        · simp [same]
        · have other : ¬ add.2.str = mac.str := fun equal => same (str_injective equal)
          simp [same, other, ih.2 mac]
  refine ⟨Std.TreeMap.ordered_keys_toList, fun row inside => ?_, fun mac bloom => ?_⟩
  · obtain ⟨mac, bloom, key, value⟩ :=
      lookup.1 row.1 row.2 (Std.TreeMap.mem_toList_iff_getElem?_eq_some.mp inside)
    exact ⟨mac, bloom, Prod.ext key value⟩
  · rw [Std.TreeMap.mem_toList_iff_getElem?_eq_some, lookup.2]
    simp

theorem firstNeighbor_first (query_str : List Char) {l : List (List Char × Option BloomFilter)}
    (ordered : l.Pairwise fun a b => compare a.1 b.1 = .lt)
    (printed : ∀ row ∈ l, ∃ mac bloom, row = (str mac, some bloom)) :
    (∃ mac bloom, firstNeighbor query_str l = .ok mac ∧ (mac.str, some bloom) ∈ l ∧
      bloom.Check query_str = true ∧
      ∀ n other, (str n, some other) ∈ l → other.Check query_str = true → mac.compareTo n ≠ .gt) ∨
    firstNeighbor query_str l = .ok UNSPECIFIED_ADDRESS ∧
      ∀ n other, (str n, some other) ∈ l → other.Check query_str = false := by
  induction l with
  | nil => exact .inr ⟨rfl, by simp⟩
  | cons row l ih =>
    obtain ⟨mac, bloom, rfl⟩ := printed row mem_cons_self
    obtain ⟨before, ordered⟩ := pairwise_cons.mp ordered
    have same : ∀ n other, (str n, some other) = (mac.str, some bloom) → n = mac ∧
        other = bloom := by
      intro n other equal
      simp only [Prod.mk.injEq, Option.some.injEq] at equal
      exact ⟨str_injective equal.1, equal.2⟩
    cases has : bloom.Check query_str with
    | true =>
      refine .inl ⟨mac, bloom, by simp [firstNeighbor, has, tryParse_str], mem_cons_self, has, ?_⟩
      intro n other inside _
      rcases mem_cons.mp inside with equal | later
      · simp [(same n other equal).1, ← str_compareTo]
      · simp [← str_compareTo, before _ later]
    | false =>
      have scan : firstNeighbor query_str ((mac.str, some bloom) :: l) =
          firstNeighbor query_str l := by
        simp [firstNeighbor, has]
      rw [scan]
      rcases ih ordered fun row inside => printed row (mem_cons_of_mem _ inside) with
        ⟨m, b, result, inside, serves, least⟩ | ⟨result, none⟩
      · refine .inl ⟨m, b, result, mem_cons_of_mem _ inside, serves, fun n other inside serves' =>
          ?_⟩
        rcases mem_cons.mp inside with equal | later
        · rw [(same n other equal).2, has] at serves'
          cases serves'
        · exact least n other later serves'
      · refine .inr ⟨result, fun n other inside => ?_⟩
        rcases mem_cons.mp inside with equal | later
        · rw [(same n other equal).2, has]
        · exact none n other later

theorem compareTo_unspecified {mac : MACAddress} (low : mac.compareTo UNSPECIFIED_ADDRESS ≠ .gt) :
    mac = UNSPECIFIED_ADDRESS := by
  have zeros : ∀ l : List UInt8, compare l (List.replicate l.length 0) ≠ .gt →
      l = List.replicate l.length 0 := by
    intro l
    induction l with
    | nil => exact fun _ => rfl
    | cons b l ih =>
      intro low
      rw [length_cons, replicate_succ, List.compare_cons_cons] at low
      by_cases zero : b = 0
      · subst zero
        rw [length_cons, replicate_succ, ← ih (by simpa using low)]
      · have above : compare b 0 = .gt := by
          simp [compare, compareOfLessAndEq, zero]
        simp [above] at low
  apply ext_address
  have whole := zeros mac.address
  rw [mac.size] at whole
  exact whole low

/-- Where a query goes. The answer "nobody" is an address that a neighbour may have. -/
theorem next_hop_exact (own : BloomFilter) (adds : List (BloomFilter × MACAddress))
    (QueryId : Int32) (query_str : List Char)
    (translated : QueryTranslation2[QueryId]? = some query_str) (Source : Bool)
    (myMAC : MACAddress) : (Source = false ∧ own.Check query_str = true →
      (addFilters ⟨own, ∅⟩ adds).GetNextHop QueryId Source myMAC = .ok myMAC) ∧
    (¬ (Source = false ∧ own.Check query_str = true) →
      ∃ mac, (addFilters ⟨own, ∅⟩ adds).GetNextHop QueryId Source myMAC = .ok mac ∧
      ((∃ n, Serves adds query_str n) →
          Serves adds query_str mac ∧ ∀ n, Serves adds query_str n → mac.compareTo n ≠ .gt) ∧
        (mac = UNSPECIFIED_ADDRESS ↔
          (¬ ∃ n, Serves adds query_str n) ∨ Serves adds query_str UNSPECIFIED_ADDRESS)) := by
  have perso : (addFilters ⟨own, ∅⟩ adds).BloomPerso = own := by
    induction adds using List.reverseRecOn with
    | nil => rfl
    | append_singleton adds add ih =>
      rw [addFilters, foldl_append]
      exact ih
  obtain ⟨ordered, printed, held⟩ := addFilters_rows own adds
  simp only [GetNextHop, translated, perso]
  refine ⟨fun ⟨asked, has⟩ => by simp [asked, has], fun elsewhere => ?_⟩
  have scan : (!Source && own.Check query_str) = false := by
    rw [Bool.eq_false_iff]
    intro both
    exact elsewhere (by simpa using both)
  simp only [scan, Bool.false_eq_true, if_false]
  rcases firstNeighbor_first query_str ordered printed with ⟨mac, bloom, result, inside, has,
    least⟩ | ⟨result, none⟩
  · have serves : Serves adds query_str mac := ⟨bloom, (held mac bloom).mp inside, has⟩
    refine ⟨mac, result, fun _ => ⟨serves, ?_⟩, fun null => .inr (null ▸ serves), ?_⟩
    · rintro n ⟨other, found, has'⟩
      exact least n other ((held n other).mpr found) has'
    · rintro (nobody | ⟨other, found, has'⟩)
      · exact absurd ⟨mac, serves⟩ nobody
      · -- no address is below the unspecified one
        exact compareTo_unspecified (least _ other ((held _ other).mpr found) has')
  · have nobody : ¬ ∃ n, Serves adds query_str n := by
      rintro ⟨n, other, found, has⟩
      rw [none n other ((held n other).mpr found)] at has
      cases has
    exact ⟨_, result, fun some => absurd some nobody, iff_of_true rfl (.inl nobody)⟩

def blank : BloomFilter := create tailleFiltre tailleFiltre_pos (fun _ => 0) [sax_hash, sdbm_hash]

def replaced : List (BloomFilter × MACAddress) :=
  [(blank.Add "LIGTH".toList, autoAddress 2), (blank.Add "LIGTH".toList, autoAddress 4),
    (blank.Add "LIGTH".toList, autoAddress 3), (blank, autoAddress 2)]

theorem serves_replaced {n : MACAddress} :
    Serves replaced "LIGTH".toList n ↔ n = autoAddress 3 ∨ n = autoAddress 4 := by
  have others : Serves replaced "LIGTH".toList n → n = autoAddress 3 ∨ n = autoAddress 4 := by
    rintro ⟨bloom, last, has⟩
    simp only [latest, replaced, foldl_cons, foldl_nil] at last
    split_ifs at last with second third fourth
    · cases last
      exact absurd has (by decide)
    · exact .inl third.symm
    · exact .inr fourth.symm
  refine ⟨others, ?_⟩
  rintro (rfl | rfl)
  · exact ⟨blank.Add "LIGTH".toList, rfl, rfl⟩
  · exact ⟨blank.Add "LIGTH".toList, rfl, rfl⟩

theorem next_hop_exact_replaced : (addFilters ⟨blank, ∅⟩ replaced).GetNextHop SENSOR_LIGTH false
    BROADCAST_ADDRESS = .ok (autoAddress 3) := by
  obtain ⟨mac, result, least, -⟩ := (next_hop_exact blank replaced SENSOR_LIGTH "LIGTH".toList rfl
    false BROADCAST_ADDRESS).2 (by decide)
  obtain ⟨serves, least⟩ := least ⟨autoAddress 3, serves_replaced.mpr (.inl rfl)⟩
  rcases serves_replaced.mp serves with rfl | rfl
  · exact result
  · exact absurd rfl (least (autoAddress 3) (serves_replaced.mpr (.inl rfl)))

/-- A neighbour with the unspecified address has the word, and the query is answered as if nobody
had. -/
theorem next_hop_unspecified :
      Serves [(blank.Add "LIGTH".toList, UNSPECIFIED_ADDRESS)] "LIGTH".toList UNSPECIFIED_ADDRESS ∧
    (addFilters ⟨blank, ∅⟩ [(blank.Add "LIGTH".toList, UNSPECIFIED_ADDRESS)]).GetNextHop
      SENSOR_LIGTH true BROADCAST_ADDRESS = .ok UNSPECIFIED_ADDRESS :=
  ⟨⟨_, rfl, rfl⟩, rfl⟩

end BloomTable

end Srwsn
