import Srwsn.SR.IDBuilder

/-! Bloom filters over an uninitialised bit array, and the table of the neighbours' filters. -/
namespace Srwsn

inductive Fault where
  | idBuilder (failure : IDBuilder.Failure)
  | areaExhausted
  | unspecifiedAddress
  | wrongAddressSyntax
  | noTranslation
  | uninitialisedFilter
  | divisionByZero
  | outOfBounds
  | overflow
  | outOfDraws
  | outOfFuel
  deriving DecidableEq, Repr

abbrev hashfunc_t := List Char → UInt32

def unsignedChar (c : Char) : UInt32 := UInt32.ofNat (c.toNat % 256)

def sax_hash : hashfunc_t :=
  List.foldl (fun h key => h ^^^ ((h <<< 5) + (h >>> 2) + unsignedChar key)) 0

def sdbm_hash : hashfunc_t :=
  List.foldl (fun h key => unsignedChar key + (h <<< 6) + (h <<< 16) - h) 0

structure BloomFilter where
  asize : Nat
  a : List UInt8
  funcs : List hashfunc_t
  allocated : a.length = (asize + 7) / 8
  positive : 0 < asize

namespace BloomFilter

/-- `new char[...]` leaves whatever bytes the memory held. -/
def create (size : Nat) (positive : 0 < size) (memory : Nat → UInt8) (funcs : List hashfunc_t) :
    BloomFilter :=
  ⟨size, (List.range ((size + 7) / 8)).map memory, funcs, by simp, positive⟩

def position (f : BloomFilter) (func : hashfunc_t) (s : List Char) : Nat := (func s).toNat % f.asize

def SETBIT (a : List UInt8) (n : Nat) : List UInt8 :=
  a.modify (n / 8) (· ||| ((1 : UInt8) <<< UInt8.ofNat (n % 8)))

def GETBIT (a : List UInt8) (n : Nat) : Bool :=
  a.getD (n / 8) 0 &&& ((1 : UInt8) <<< UInt8.ofNat (n % 8)) != 0

def setPositions (a : List UInt8) (positions : List Nat) : List UInt8 := positions.foldl SETBIT a

theorem setPositions_length (a : List UInt8) (positions : List Nat) :
    (setPositions a positions).length = a.length := by
  induction positions generalizing a with
  | nil => rfl
  | cons n positions ih =>
    simp only [setPositions, List.foldl_cons] at ih ⊢
    rw [ih]
    exact List.length_modify _ _ _

def Add (f : BloomFilter) (s : List Char) : BloomFilter :=
  { f with
    a := setPositions f.a (f.funcs.map (fun func => f.position func s))
    allocated := (setPositions_length _ _).trans f.allocated }

def Check (f : BloomFilter) (s : List Char) : Bool :=
  f.funcs.all (fun func => GETBIT f.a (f.position func s))

end BloomFilter

/-- The table is keyed by the printed address. A filter is `none` where the packet carried a
default-constructed one. -/
structure BloomTable where
  BloomPerso : BloomFilter
  NeighborsTable : Std.TreeMap (List Char) (Option BloomFilter)

namespace BloomTable

def tailleFiltre : Nat := 100

theorem tailleFiltre_pos : 0 < tailleFiltre := by decide

def SENSOR_HUMIDITY : Int32 := 0
def SENSOR_LIGTH : Int32 := 1
def SENSOR_PRESSURE : Int32 := 2
def SENSOR_SONG : Int32 := 3
def SENSOR_TEMPERATURE : Int32 := 4
def SENSOR_SINK : Int32 := 5

def QueryTranslation2 : Std.TreeMap Int32 (List Char) :=
  (((((∅ : Std.TreeMap Int32 (List Char)).insert SENSOR_HUMIDITY "HUMIDITY".toList).insert
    SENSOR_LIGTH "LIGTH".toList).insert SENSOR_PRESSURE "PRESSURE".toList).insert
    SENSOR_SONG "SONG".toList).insert SENSOR_TEMPERATURE "TEMPERATURE".toList

def firstNeighbor (query_str : List Char) : List (List Char × Option BloomFilter) →
    Except Fault MACAddress
  | [] => .ok MACAddress.UNSPECIFIED_ADDRESS
  | (_, none) :: _ => .error .uninitialisedFilter
  | (mac_str, some bloom) :: rest =>
    if bloom.Check query_str then
      match MACAddress.tryParse mac_str with
      | some mac => .ok mac
      | none => .error .wrongAddressSyntax
    else firstNeighbor query_str rest

variable (bt : BloomTable)

/-- A source does not look into its own filter. -/
def GetNextHop (QueryId : Int32) (Source : Bool) (myMAC : MACAddress) : Except Fault MACAddress :=
  match QueryTranslation2[QueryId]? with
  | none => .error .noTranslation
  | some query_str =>
    if !Source && bt.BloomPerso.Check query_str then .ok myMAC
    else firstNeighbor query_str bt.NeighborsTable.toList

def AddFilter (neighborBloom : Option BloomFilter) (neighborMAC : MACAddress) : BloomTable :=
  { bt with NeighborsTable := bt.NeighborsTable.insert neighborMAC.str neighborBloom }

def AddToBloomPerso (info : List Char) : BloomTable :=
  { bt with BloomPerso := bt.BloomPerso.Add info }

def selectRandomType (param : Fin 5) : BloomTable :=
  { bt with BloomPerso :=
    bt.BloomPerso.Add ((QueryTranslation2[Int32.ofNat param]?).getD []) }

def HasFilter (mac : MACAddress) : Prop := mac.str ∈ bt.NeighborsTable
  deriving Decidable

theorem hasFilter_addFilter (bloom : Option BloomFilter) (mac other : MACAddress) :
    (bt.AddFilter bloom mac).HasFilter other ↔ mac = other ∨ bt.HasFilter other := by
  simp only [HasFilter, AddFilter, Std.TreeMap.mem_insert, Std.LawfulEqCmp.compare_eq_iff_eq]
  constructor
  · rintro (h | h)
    · exact Or.inl (MACAddress.str_injective h)
    · exact Or.inr h
  · rintro (rfl | h)
    · exact Or.inl rfl
    · exact Or.inr h

end BloomTable
end Srwsn
