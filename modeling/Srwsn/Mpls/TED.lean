import Srwsn.Lib.Outcome
import Srwsn.Lib.Relax

/-! The traffic engineering database: least-cost paths over the links that have enough bandwidth
left. Metrics and bandwidths are exact. -/
namespace Srwsn

open Outcome Weighted Relax Relation

structure TELinkStateInfo where
  advrouter : UInt32
  linkid : UInt32
  metric : ℚ
  UnResvBandwidth : Fin 8 → ℚ
  state : Bool

inductive TEDFault where
  | assertion | badIndex | endless
  deriving DecidableEq

namespace TED

def LS_INFINITY : ℚ := 10 ^ 16

/- `parent` is an index into the vector of vertices; there is none where the source has -1. -/
structure Vertex where
  node : UInt32
  parent : Option Nat := none
  dist : ℚ := LS_INFINITY
  deriving DecidableEq

structure Edge where
  src : Nat
  dest : Nat
  metric : ℚ
  deriving DecidableEq

def assignIndex (vertices : List Vertex) (nodeAddr : UInt32) : Nat × List Vertex :=
  match vertices.findIdx? (·.node == nodeAddr) with
  | some i => (i, vertices)
  | none => (vertices.length, vertices ++ [{ node := nodeAddr }])

def selectEdge (req_bandwidth : ℚ) (priority : Fin 8) (g : List Vertex × List Edge)
    (link : TELinkStateInfo) : List Vertex × List Edge :=
  if !link.state then g
  else if link.UnResvBandwidth priority < req_bandwidth then g
  else
    let src := assignIndex g.1 link.advrouter
    let dest := assignIndex src.2 link.linkid
    (dest.2, g.2 ++ [⟨src.1, dest.1, link.metric⟩])

def tryEdge (v : List Vertex × Bool) (edge : Edge) : Except TEDFault (List Vertex × Bool) :=
  match v.1[edge.src]?, v.1[edge.dest]? with
  | some src, some dest =>
    if edge.src = edge.dest then .error .assertion
    else if src.dist + edge.metric ≥ dest.dist then .ok v
    else .ok (v.1.set edge.dest
      { dest with dist := src.dist + edge.metric, parent := some edge.src }, true)
  | _, _ => .error .assertion

def rounds (edges : List Edge) : Nat → List Vertex → Except TEDFault (List Vertex)
  | 0, vertices => .ok vertices
  | n + 1, vertices => do
    let v ← edges.foldlM tryEdge (vertices, false)
    if v.2 then rounds edges n v.1 else .ok v.1

def graph (routerId : UInt32) (topology : List TELinkStateInfo) (req_bandwidth : ℚ)
    (priority : Fin 8) : List Vertex × List Edge :=
  let g := topology.foldl (selectEdge req_bandwidth priority) ([], [])
  let src := assignIndex g.1 routerId
  (src.2.modify src.1 ({ · with dist := 0 }), g.2)

def calculateShortestPaths (routerId : UInt32) (topology : List TELinkStateInfo) (req_bandwidth : ℚ)
    (priority : Fin 8) : Except TEDFault (List Vertex) :=
  let g := graph routerId topology req_bandwidth priority
  rounds g.2 (g.1.length - 1) g.1

def closest (dest : List UInt32) : List Vertex → Nat → ℚ × Option Nat → ℚ × Option Nat
  | [], _, m => m
  | v :: rest, i, m =>
    closest dest rest (i + 1) (if v.dist ≥ m.1 then m else if v.node ∈ dest then (v.dist, some i)
      else m)

/- `endless` if the loop goes on after as many steps as there are vertices. -/
def pathTo (v : List Vertex) : Nat → Nat → List UInt32 → Except TEDFault (List UInt32)
  | 0, _, _ => .error .endless
  | fuel + 1, i, result =>
    match v[i]? with
    | none => .error .badIndex
    | some vertex =>
      match vertex.parent with
      | none => .ok result
      | some parent =>
        match v[parent]? with
        | none => .error .badIndex
        | some up => pathTo v fuel parent (up.node :: result)

def choosePath (dest : List UInt32) (v : List Vertex) : Except TEDFault (List UInt32) :=
  match (closest dest v 0 (LS_INFINITY, none)).2 with
  | none => .ok []
  | some minIndex =>
    match v[minIndex]? with
    | none => .error .badIndex
    | some vertex => pathTo v v.length minIndex [vertex.node]

def calculateShortestPath (routerId : UInt32) (dest : List UInt32) (topology : List TELinkStateInfo)
    (req_bandwidth : ℚ) (priority : Fin 8) : Except TEDFault (List UInt32) :=
  calculateShortestPaths routerId topology req_bandwidth priority >>= choosePath dest

def Usable (topology : List TELinkStateInfo) (req_bandwidth : ℚ) (priority : Fin 8) (a b : UInt32)
    (metric : ℚ) : Prop :=
  ∃ link ∈ topology, link.state = true ∧ req_bandwidth ≤ link.UnResvBandwidth priority ∧
    link.advrouter = a ∧ link.linkid = b ∧ link.metric = metric

end TED
end Srwsn
