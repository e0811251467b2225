import Srwsn.SR.Handlers

/-! A network of SR nodes: the handlers of one node over an arbitrary radio topology. -/
namespace Srwsn

variable {ι : Type*} [DecidableEq ι]

abbrev Net (ι : Type*) := Radio.System ι SR Statics SRPacket Input Note Fault
abbrev World (ι : Type*) := Radio.Config ι SR Statics SRPacket Note
abbrev Snapshot (ι : Type*) := Radio.View ι SR Statics SRPacket Note

def network (hears : ι → ι → Bool) : Net ι := ⟨hears, SR.accepts, SR.handleMessage⟩

structure Addressed (nodes : ι → SR) : Prop where
  mac_injective : ∀ i j, (nodes i).myMACAddress = (nodes j).myMACAddress → i = j
  id_injective : ∀ i j, (nodes i).myID = (nodes j).myID → i = j
  specified : ∀ i, (nodes i).myMACAddress.isUnspecified = false
  unicast : ∀ i, (nodes i).myMACAddress.isBroadcast = false

/-- No request has been made yet. Neighbours, filters and learning tables are arbitrary. -/
structure Quiet (c : World ι) : Prop where
  pending : c.pending = []
  air : c.air = []
  history : c.history = []
  record : ∀ i, (c.nodes i).RecordTable = ∅
  stamp : ∀ i, (c.nodes i).currentRequestTimeStamp = 0

omit [DecidableEq ι] in
theorem Quiet.carries_nothing {c : World ι} (h : Quiet c) (p : SRPacket) : ¬ c.Carries p := by
  rintro (⟨j, member⟩ | ⟨f, member, -⟩)
  · rw [h.pending] at member
    cases member
  · rw [h.air] at member
    cases member

section Trio
open SR MACAddress

def filterOf (sensorType : List Char) : BloomFilter :=
  (BloomFilter.create BloomTable.tailleFiltre BloomTable.tailleFiltre_pos (fun _ => 0)
    [sax_hash, sdbm_hash]).Add sensorType

def trioId : Fin 3 → UInt16
  | 0 => 132
  | 1 => 197
  | 2 => 262

def trioMAC (i : Fin 3) : MACAddress := autoAddress (UInt32.ofNat (i + 2))

variable (kind : Fin 3 → List Char) (hears : Fin 3 → Fin 3 → Bool)

def trioSensor (i : Fin 3) : SR :=
  ((List.finRange 3).filter (hears i)).foldl
    (fun me j => me.addNeighbor (trioMAC j) (trioId j) (some (filterOf (kind j))))
    { isSink := false, myMACAddress := trioMAC i, bt := ⟨filterOf (kind i), ∅⟩,
      tr := TableRARE.initializeTable 3, myID := trioId i, iDBuilder := ⟨trioId i⟩,
      firstSinkMsg := false, hasSentAdvertMsg := true, sensorStatus := .normal,
      iAmTheLast := false, selfGenerateRequestMsg := some 1 }

def trio : World (Fin 3) :=
  ⟨⟨trioSensor kind hears, {}, []⟩, [], []⟩

def triangleHears (i j : Fin 3) : Bool := i != j

def triangle : World (Fin 3) := trio (fun _ => "LIGTH".toList) triangleHears

def lineHears (i j : Fin 3) : Bool := i != j && (i == 0 || j == 0)

def line : World (Fin 3) :=
  trio (fun i => if i = 1 then "HUMIDITY".toList else "LIGTH".toList) lineHears

theorem trioSensor_fields (i : Fin 3) :
    (trioSensor kind hears i).myMACAddress = trioMAC i ∧ (trioSensor kind hears i).myID = trioId i ∧
    (trioSensor kind hears i).RecordTable = ∅ ∧
    (trioSensor kind hears i).currentRequestTimeStamp = 0 := by
  unfold trioSensor
  induction (List.finRange 3).filter (hears i) using List.reverseRecOn with
  | nil => exact ⟨rfl, rfl, rfl, rfl⟩
  | append_singleton js j ih =>
    rw [List.foldl_append]
    exact ih

theorem trio_addressed : Addressed (trio kind hears).nodes := by
  have fields := trioSensor_fields kind hears
  constructor
  · intro i j
    change (trioSensor kind hears i).myMACAddress = (trioSensor kind hears j).myMACAddress → i = j
    rw [(fields i).1, (fields j).1]
    revert i j
    decide
  · intro i j
    change (trioSensor kind hears i).myID = (trioSensor kind hears j).myID → i = j
    rw [(fields i).2.1, (fields j).2.1]
    revert i j
    decide
  · intro i
    change (trioSensor kind hears i).myMACAddress.isUnspecified = false
    rw [(fields i).1]
    revert i
    decide
  · intro i
    change (trioSensor kind hears i).myMACAddress.isBroadcast = false
    rw [(fields i).1]
    revert i
    decide

theorem trio_quiet : Quiet (trio kind hears) :=
  ⟨rfl, rfl, rfl, fun i => (trioSensor_fields kind hears i).2.2.1,
    fun i => (trioSensor_fields kind hears i).2.2.2⟩

end Trio
end Srwsn
