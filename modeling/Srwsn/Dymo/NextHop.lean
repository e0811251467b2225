import Srwsn.Dymo.Handling

/-! The next hop that a node infers from a message, compared with the node that transmitted it. -/
namespace Srwsn.DYMO

open Trace Outcome List

namespace Transmission

/-- The originator sends it itself, and tells of another node. Only intermediate routers do so. -/
def FromIntermediateRouter (t : Transmission) : Prop :=
  t.message.origNode.address = t.transmitter ∧ t.message.additionalNodes ≠ []
  deriving Decidable

inductive Shaped (t : Transmission) : Prop where
  | own (orig : t.message.origNode.address = t.transmitter) (alone : t.message.additionalNodes = [])
  | relayed {nodes : List AddressBlock} {last : AddressBlock}
      (orig : t.message.origNode.address ≠ t.transmitter)
      (additional : t.message.additionalNodes = nodes ++ [last]) (own : last.address =
        t.transmitter)
  | reply {ab : AddressBlock} (orig : t.message.origNode.address = t.transmitter)
      (additional : t.message.additionalNodes = [ab]) (other : ab.address ≠ t.transmitter)

theorem Shaped.nextHop_iff {t : Transmission} (h : t.Shaped) :
    getNextHopAddress t.message = t.transmitter ↔ ¬ t.FromIntermediateRouter := by
  cases h with
  | own orig alone =>
    refine iff_of_true ?_ fun from_router => from_router.2 alone
    rw [getNextHopAddress, alone]
    exact orig
  | relayed orig additional own =>
    refine iff_of_true ?_ fun from_router => orig from_router.1
    rw [getNextHopAddress, additional, getLast?_concat]
    exact own
  | reply orig additional other =>
    refine iff_of_false ?_ fun other => other ⟨orig, by simp [additional]⟩
    rw [getNextHopAddress, additional]
    exact other

end Transmission

def RecordedOver (n : Node) (t : Transmission) : Prop :=
  ∀ n' kept, n.updateRoutes t.message (getNextHopAddress t.message) = .ok (n', kept) →
    ∀ entry ∈ n'.routingTable, entry ∈ n.routingTable ∨ entry.routeNextHopAddress = t.transmitter

def RecordsTransmitter (s : Network) : Event → Prop
  | .receive addr t _ => getNextHopAddress t.message = t.transmitter ∧ RecordedOver (s.nodes addr) t
  | _ => True

def NotFromIntermediateRouter (_ : Network) : Event → Prop
  | .receive _ t _ => ¬ t.FromIntermediateRouter
  | _ => True

/-- No node has a route to itself, and every message tells of its transmitter. -/
structure Network.Announced (s : Network) : Prop where
  named : ∀ addr, (s.nodes addr).myAddr = addr
  ownFree : ∀ addr, ∀ entry ∈ (s.nodes addr).routingTable, entry.routeAddress ≠ addr
  shaped : ∀ t ∈ s.air, t.Shaped

namespace Node

variable {n n' : Node}

def OwnFree (n : Node) : Prop := ∀ entry ∈ n.routingTable, entry.routeAddress ≠ n.myAddr

theorem Learnt.ownFree {hop : UInt32} {blocks : List AddressBlock} (learnt : Learnt hop blocks n n')
    (free : n.OwnFree) : n'.OwnFree := by
  intro entry inside
  rw [learnt.myAddr]
  rcases learnt.entries entry inside with old | ⟨ab, -, other, seqNum, -, rfl⟩
  · exact free entry old
  · exact other

theorem Made.shaped {heard : Option RM} {t : Transmission} (made : Made n heard t.message)
    (transmitter : t.transmitter = n.myAddr) (free : n.OwnFree)
    (other : ∀ pkt, heard = some pkt → pkt.origNode.address ≠ n.myAddr) : t.Shaped := by
  cases made with
  | own orig alone => exact .own (by rw [orig, transmitter]; rfl) alone
  | relayed received fits orig additional =>
    refine .relayed ?_ additional transmitter.symm
    rw [orig, transmitter]
    exact other _ received
  | toOrig received asked valid answered orig additional =>
    refine .reply (by rw [orig, transmitter]; rfl) additional ?_
    rw [transmitter]
    exact free _ (validRoute_mem valid)
  | toTarget received orig additional =>
    refine .reply (by rw [orig, transmitter]; rfl) additional ?_
    rw [transmitter]
    exact other _ received

theorem Answered.shaped {heard : Option RM} {done : Node × List Transmission}
    (answered : Answered n heard done) (free : n.OwnFree)
    (other : ∀ pkt, heard = some pkt → pkt.origNode.address ≠ n.myAddr) :
    ∀ t ∈ done.2, t.Shaped := by
  intro t sent
  obtain ⟨transmitter, made⟩ := answered.sent t sent
  apply made.shaped (transmitter.trans answered.myAddr.symm)
  · intro entry inside
    rw [answered.myAddr]
    exact free entry (answered.routingTable ▸ inside)
  · intro pkt received
    rw [answered.myAddr]
    exact other pkt received

end Node

structure Event.Announces (n : Node) (done : Node × List Transmission) : Prop where
  myAddr : done.1.myAddr = n.myAddr
  ownFree : done.1.OwnFree
  shaped : ∀ t ∈ done.2, t.Shaped

variable {n : Node}

theorem Node.Answered.announces {done : Node × List Transmission} (answered : n.Answered none done)
    (free : n.OwnFree) : Event.Announces n done where
  myAddr := answered.myAddr
  ownFree := by
    intro entry inside
    rw [answered.myAddr]
    exact free entry (answered.routingTable ▸ inside)
  shaped := answered.shaped free fun pkt received => by cases received

theorem Event.announces_handle (nextHop : Transmission → UInt32) (free : n.OwnFree) (e : Event) :
    Yields (e.handle nextHop n) (Event.Announces n) := by
  cases e with
  | packet _ destAddr isLocal granted =>
    exact (Node.answered_processPacket destAddr isLocal granted).mono fun done answered =>
      answered.announces free
  | rreqTimeout _ i granted =>
    exact .ok ((Node.answered_handleRREQTimeout i granted).announces free)
  | receive _ t granted =>
    intro done ran
    obtain ⟨n₁, heard, updated, answered⟩ := Node.handleLowerRM_cases ran
    have learnt := Node.learnt_updateRoutes updated
    have free₁ := learnt.ownFree free
    refine ⟨answered.myAddr.trans learnt.myAddr, ?_, ?_⟩
    · intro entry inside
      rw [answered.myAddr]
      exact free₁ entry (answered.routingTable ▸ inside)
    · apply answered.shaped free₁
      rintro pkt rfl
      obtain ⟨other, n₂, nodes, -, -, rfl⟩ := Node.updateRoutes_kept updated
      rw [learnt.myAddr]
      exact other
  | broken _ which =>
    refine .ok ⟨rfl, fun entry inside => ?_, fun t sent => absurd sent not_mem_nil⟩
    obtain ⟨old, there, broken, rfl⟩ := Node.mem_markBroken inside
    exact free old there
  | expired _ i =>
    refine .ok ⟨rfl, fun entry inside => ?_, fun t sent => absurd sent not_mem_nil⟩
    exact free entry (mem_of_mem_eraseIdx inside)
  | seqNumLoss _ => exact .ok ⟨rfl, free, fun t sent => absurd sent not_mem_nil⟩

namespace Network

theorem announced_start (parameters : UInt32 → Parameters) : (start parameters).Announced where
  named _ := rfl
  ownFree _ _ inside := absurd inside not_mem_nil
  shaped _ sent := absurd sent not_mem_nil

theorem Announced.ownFree_node {s : Network} (h : s.Announced) (addr : UInt32) :
    (s.nodes addr).OwnFree := by
  intro entry inside
  rw [h.named addr]
  exact h.ownFree addr entry inside

theorem Announced.next {nextHop : Transmission → UInt32} {s s' : Network} {e : Event}
    (h : s.Announced) (stepped : Next nextHop s e s') : s'.Announced := by
  obtain ⟨done, ran, acted, others, air⟩ := next_cases stepped
  have left := Event.announces_handle nextHop (h.ownFree_node e.addr) e done ran
  refine ⟨fun addr => ?_, fun addr entry inside => ?_, fun t sent => ?_⟩
  · by_cases same : addr = e.addr
    · rw [same, acted, left.myAddr, h.named]
    · rw [others addr same, h.named]
  · by_cases same : addr = e.addr
    · subst same
      rw [acted] at inside
      rw [← h.named e.addr, ← left.myAddr]
      exact left.ownFree entry inside
    · rw [others addr same] at inside
      exact h.ownFree addr entry inside
  · rw [air] at sent
    rcases mem_append.mp sent with old | new
    · exact h.shaped t old
    · exact left.shaped t new

end Network

variable {nextHop : Transmission → UInt32} {s s' : Network} {e : Event}

theorem recordsTransmitter_iff (h : s.Announced)
    (stepped : Network.Next nextHop s e s') :
    RecordsTransmitter s e ↔ NotFromIntermediateRouter s e := by
  cases e with
  | receive addr t granted =>
    have infers := (h.shaped t stepped.1.1).nextHop_iff
    refine ⟨fun records => infers.mp records.1,
      fun other => ⟨infers.mpr other, fun n kept updated entry inside => ?_⟩⟩
    rcases (Node.learnt_updateRoutes updated).entries entry inside with old | ⟨ab, -, -,
      seqNum, -, rfl⟩
    · exact .inl old
    · exact .inr (infers.mpr other)
  | _ => exact Iff.rfl

/-- The recorded next hop is the transmitter of a message just when it does not come straight from
the intermediate router that made it. -/
theorem next_hops_recorded (parameters : UInt32 → Parameters) (es : List Event) :
    Each (Network.Next fun t => getNextHopAddress t.message) RecordsTransmitter
    (Network.start parameters) es ↔
      Each (Network.Next fun t => getNextHopAddress t.message) NotFromIntermediateRouter
        (Network.start parameters) es := by
  apply each_iff (I := Network.Announced)
  · exact fun _ _ _ inside stepped => inside.next stepped
  · exact fun _ _ _ inside stepped => recordsTransmitter_iff inside stepped
  · exact Network.announced_start parameters

def Network.step (nextHop : Transmission → UInt32) (s : Network) (e : Event) : Option Network :=
  if s.Enabled e then (s.act nextHop e).toOption else none

theorem Network.next_of_step (stepped : s.step nextHop e = some s') : Next nextHop s e s' := by
  obtain ⟨enabled, acted⟩ := Option.ite_none_right_eq_some.mp stepped
  exact ⟨enabled, eq_ok_of_toOption acted⟩

/-- Node 1 asks for a route to node 3, node 2 answers, and node 1 records a route to node 2 over
node 3. -/
theorem next_hops_not_recorded :
    ¬ ∀ parameters es, Each (Network.Next fun t => getNextHopAddress t.message)
      (fun s e => ∀ addr t granted, e = .receive addr t granted → RecordedOver (s.nodes addr) t)
      (Network.start parameters) es := by
  intro all
  let flood : Transmission := ⟨3, IPAddress.ALLONES_ADDRESS,
    ⟨.RREQ, 5, ⟨9, none, none, none⟩, ⟨3, some 2, none, some 0⟩, []⟩⟩
  let request : Transmission := ⟨1, IPAddress.ALLONES_ADDRESS,
    ⟨.RREQ, 5, ⟨3, some 2, none, some 1⟩, ⟨1, some 3, none, some 0⟩, []⟩⟩
  let reply : Transmission := ⟨2, 1,
    ⟨.RREP, 10, ⟨1, some 3, none, some 1⟩, ⟨2, some 3, none, some 0⟩, [⟨3, some 2, none, some 1⟩]⟩⟩
  let es : List Event := [.packet 3 9 true true, .receive 2 flood true, .receive 1 flood true,
    .broken 1 fun _ => true, .packet 1 3 true true, .receive 2 request true]
  let nextHop : Transmission → UInt32 := fun t => getNextHopAddress t.message
  let wrong : RoutingEntry := ⟨2, 3, 3, false, 1, 32⟩
  have ran : ((es.foldlM (Network.step nextHop) (Network.start fun _ => {})).bind fun s =>
      (s.step nextHop (.receive 1 reply true)).bind fun _ =>
        ((s.nodes 1).updateRoutes reply.message (getNextHopAddress reply.message)).toOption.map
          fun updated =>
          (decide (wrong ∈ updated.1.routingTable), decide (wrong ∈ (s.nodes 1).routingTable))) =
      some (true, false) := by decide +kernel
  obtain ⟨s, reached, ran⟩ := Option.bind_eq_some_iff.mp ran
  obtain ⟨s', received, ran⟩ := Option.bind_eq_some_iff.mp ran
  obtain ⟨⟨n, kept⟩, updated, recorded⟩ := Option.map_eq_some_iff.mp ran
  obtain ⟨recorded, new⟩ := Prod.mk.inj recorded
  have along := (all (fun _ => {}) (es ++ [.receive 1 reply true])).last
    (fun _ _ _ => Network.next_of_step) reached (Network.next_of_step received)
  rcases along 1 reply true rfl n kept (eq_ok_of_toOption updated) wrong
    (of_decide_eq_true recorded) with
    old | hop
  · exact of_decide_eq_false new old
  · exact absurd hop (by decide)

end Srwsn.DYMO
