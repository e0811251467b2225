import Srwsn.Lib.Scan
import Srwsn.SR.BloomTable

/-! The table that learns which neighbour brought back an answer to which query. Counts wrap around;
`size_t` and `unsigned int` have 32 bits. -/
namespace Srwsn

abbrev Row := Std.TreeMap (List Char) Int32

def Row.scores (row : Row) : List (List Char × Int) :=
  row.toList.map fun entry => (entry.1, entry.2.toInt)

structure TableRARE where
  QueryRelaxationMaxRetry : Int32
  QueryRelaxationRetryTime : Int32
  learningTable : List Row
  queriesSimilarity : Std.TreeMap Int32 UInt64

namespace TableRARE
open BloomTable

def initialSimilarity : Std.TreeMap Int32 UInt64 :=
  ((((((∅ : Std.TreeMap Int32 UInt64).insert SENSOR_HUMIDITY 1).insert SENSOR_LIGTH 6).insert
    SENSOR_PRESSURE 8).insert SENSOR_SINK 0).insert SENSOR_SONG 3).insert SENSOR_TEMPERATURE 13

def initializeTable (queryRelaxationMaxRetry : Int32) : TableRARE :=
  ⟨queryRelaxationMaxRetry, 0, [], initialSimilarity⟩

def unsignedInt (q : Int32) : Nat := q.toUInt32.toNat

variable (tr : TableRARE)

def row (index : Nat) : Row := tr.learningTable.getD index ∅

def resize (table : List Row) (size : Nat) : List Row :=
  (table ++ List.replicate (size - table.length) ∅).take size

def store (table : List Row) (index : Nat) (newRow : Row) : Except Fault TableRARE :=
  if index < table.length then .ok { tr with learningTable := table.set index newRow }
  else .error .outOfBounds

def UpdateTable (QueryId : Int32) (MAC : MACAddress) : Except Fault TableRARE :=
  if tr.learningTable.length ≤ unsignedInt QueryId then
    -- `QueryId+1` is the new size
    if QueryId = Int32.maxValue then .error .overflow
    else tr.store (resize tr.learningTable (unsignedInt (QueryId + 1))) (unsignedInt QueryId)
      ((∅ : Row).insert MAC.str 1)
  else
    let mapMACInt := tr.row (unsignedInt QueryId)
    match mapMACInt[MAC.str]? with
    | some responses =>
      tr.store tr.learningTable (unsignedInt QueryId) (mapMACInt.insert MAC.str (responses + 1))
    | none => tr.store tr.learningTable (unsignedInt QueryId) (mapMACInt.insert MAC.str 1)

def bitSumFrom : Nat → Nat → Nat
  | 0, _ => 0
  | fuel + 1, number => if number = 0 then 0 else number % 2 + bitSumFrom fuel (number / 2)

def bitSum (number : UInt64) : Nat := bitSumFrom 64 number.toNat

/-- The loop keeps the number and the id of the best query so far. The number of the other query
passes through a `uint16_t`. -/
def relaxStep (queryId : Int32) (myQueryIdNumber : UInt64) (last : UInt64 × Int32)
    (entry : Int32 × UInt64) : UInt64 × Int32 :=
  let anotherQueryNumber := entry.2.toUInt16.toUInt64
  if entry.1 = queryId then last
  else if bitSum (myQueryIdNumber &&& anotherQueryNumber) > bitSum (myQueryIdNumber &&& last.1) then
    (anotherQueryNumber, entry.1)
  else last

def QueryRelaxation (queryId : Int32) : Int32 :=
  match tr.queriesSimilarity[queryId]? with
  | none => queryId
  | some myQueryIdNumber =>
    (tr.queriesSimilarity.toList.foldl (relaxStep queryId myQueryIdNumber) (0, queryId)).2

/- `rand() % (learningTable.size()-1)` until the row drawn has a peer. -/
def drawRow (table : List Row) : List Nat → Except Fault (Int32 × List Nat)
  | [] => .error .outOfDraws
  | rand :: draws =>
    let randomQuery := rand % (table.length - 1)
    if (table.getD randomQuery ∅).isEmpty then drawRow table draws
    else .ok (Int32.ofNat randomQuery, draws)

def LearningPeerSelection :
    Nat → TableRARE → List Nat → Int32 → Except Fault (MACAddress × TableRARE × List Nat)
  | 0, _, _, _ => .error .outOfFuel
  | fuel + 1, tr, draws, QueryId =>
    let mac_str := if unsignedInt QueryId < tr.learningTable.length then
      (Scan.scan 0 [] (tr.row (unsignedInt QueryId)).scores).2 else []
    if mac_str ≠ [] then
      match MACAddress.tryParse mac_str with
      | some mac => .ok (mac, tr, draws)
      | none => .error .wrongAddressSyntax
    else
      let newQueryId := tr.QueryRelaxation QueryId
      if newQueryId ≠ QueryId ∧ tr.QueryRelaxationRetryTime < tr.QueryRelaxationMaxRetry then
        LearningPeerSelection fuel
          { tr with QueryRelaxationRetryTime := tr.QueryRelaxationRetryTime + 1 } draws newQueryId
      else
        let tr := { tr with QueryRelaxationRetryTime := 0 }
        if tr.learningTable.length = 0 then .ok (MACAddress.UNSPECIFIED_ADDRESS, tr, draws)
        else if tr.learningTable.length - 1 = 0 then .error .divisionByZero
        else
          match drawRow tr.learningTable draws with
          | .error fault => .error fault
          | .ok (randomQuery, draws) => LearningPeerSelection fuel tr draws randomQuery

/-- Each draw starts at most one more round of relaxations. -/
def selectionFuel (draws : List Nat) : Nat :=
  (draws.length + 1) *
    (tr.QueryRelaxationMaxRetry.toInt.toNat + tr.QueryRelaxationRetryTime.toInt.natAbs + 2)

end TableRARE
end Srwsn
