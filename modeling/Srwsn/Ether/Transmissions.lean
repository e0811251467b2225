import Srwsn.Ether.EtherMAC
import Srwsn.Lib.Tally

/-! What became of every frame, read off the actions, the newest of which is the first of the 
list. -/
namespace Srwsn

open Trace Outcome Tally List

namespace MacAction

def wire : List MacAction → Option EtherMacFrame
  | [] => none
  | transmits copy :: _ => some copy
  | _ :: rest => wire rest

def failed : List MacAction → List Nat
  | [] => []
  | jams :: rest => (wire rest).toList.map (·.number) ++ failed rest
  | _ :: rest => failed rest

/-- The frames removed at the end of a transmission, with the copy that was on the wire. -/
def ended : List MacAction → List (EtherMacFrame × Option EtherMacFrame)
  | [] => []
  | completes frame :: rest => (frame, wire rest) :: ended rest
  | _ :: rest => ended rest

def givenUp : List MacAction → List (EtherMacFrame × Nat)
  | [] => []
  | cancels frame :: rest => (frame, (failed rest).count frame.number) :: givenUp rest
  | _ :: rest => givenUp rest

def Aside (log log' : List MacAction) : Prop :=
  wire log' = wire log ∧ failed log' = failed log ∧ ended log' = ended log ∧
    givenUp log' = givenUp log

end MacAction

open MacAction

def EtherMacFrame.isData (f : EtherMacFrame) : Bool := f.pauseTime.isNone

structure Transmitted (queue : List EtherMacFrame) (log : List MacAction) (n : Nat) : Prop where
  all : Tallied (·.number) ((ended log).map (·.1) ++ (givenUp log).map (·.1) ++ queue) n
  matched : ∀ p ∈ ended log, ∃ copy, p.2 = some copy ∧ copy.number = p.1.number
  once : (((ended log).filterMap (·.2)).map (·.number)).Nodup
  tried : ∀ p ∈ givenUp log, MAX_ATTEMPTS < p.2
  order : ((((ended log).map (·.1)).reverse.filter (·.isData)).map (·.number)).Pairwise (· < ·)

/-- The frame on the wire is the first of the queue, and the attempts counted are its own. -/
structure TxLedger (queue : List EtherMacFrame) (backoffs : Nat) (state : TransmitState)
    (log : List MacAction) (n : Nat) : Prop where
  all : Tallied (·.number) ((ended log).map (·.1) ++ (givenUp log).map (·.1) ++ queue) n
  matched : ∀ p ∈ ended log, ∃ copy, p.2 = some copy ∧ copy.number = p.1.number
  tried : ∀ p ∈ givenUp log, MAX_ATTEMPTS < p.2
  order : (((((ended log).map (·.1)).reverse ++ queue).filter (·.isData)).map (·.number)).Pairwise
    (· < ·)
  wired : state = .transmitting ∨ state = .jamming →
    ∃ frame rest copy, queue = frame :: rest ∧ wire log = some copy ∧ copy.number = frame.number
  first : ∀ frame ∈ queue.head?,
    (failed log).count frame.number = backoffs + if state = .jamming then 1 else 0
  others : ∀ frame ∈ queue.tail, (failed log).count frame.number = 0
  empty : queue = [] → backoffs = 0
  past : ∀ k ∈ failed log, k < n

namespace TxLedger

variable {queue rest : List EtherMacFrame} {frame : EtherMacFrame} {backoffs n : Nat}
  {state state' : TransmitState} {log log' : List MacAction}

def Calm (state : TransmitState) : Prop := state ≠ .transmitting ∧ state ≠ .jamming
  deriving Decidable

theorem calm_txIdle : Calm .txIdle := by decide
theorem calm_waitIFG : Calm .waitIFG := by decide
theorem calm_backoff : Calm .backoff := by decide
theorem calm_pause : Calm .pause := by decide

section Ledger

variable (ledger : TxLedger queue backoffs state log n)

include ledger

theorem transmitted : Transmitted queue log n where
  all := ledger.all
  matched := ledger.matched
  once := by
    have same : ∀ l : List (EtherMacFrame × Option EtherMacFrame),
        (∀ p ∈ l, ∃ copy, p.2 = some copy ∧ copy.number = p.1.number) →
        (l.filterMap (·.2)).map (·.number) = (l.map (·.1)).map (·.number) := by
      intro l
      induction l with
      | nil => exact fun _ => rfl
      | cons p l ih =>
        intro all
        obtain ⟨copy, wired, number⟩ := all p mem_cons_self
        rw [filterMap_cons_some wired, map_cons, map_cons, map_cons, number,
          ih fun q member => all q (mem_cons_of_mem p member)]
    rw [same _ ledger.matched]
    have all := ledger.all.nodup
    rw [map_append, map_append] at all
    exact (nodup_append.mp (nodup_append.mp all).1).1
  tried := ledger.tried
  order := by
    have all := ledger.order
    rw [filter_append, map_append] at all
    exact (pairwise_append.mp all).1

theorem calm (calm : Calm state) (calm' : Calm state') : TxLedger queue backoffs state' log n := by
  refine { ledger with
    wired := fun busy => absurd busy (not_or.mpr calm')
    first := fun frame member => ?_ }
  have count := ledger.first frame member
  rw [if_neg calm.2] at count
  rw [if_neg calm'.2]
  exact count

theorem aside (same : Aside log log') : TxLedger queue backoffs state log' n := by
  obtain ⟨wire, failed, ended, givenUp⟩ := same
  refine ⟨?_, ?_, ?_, ?_, ?_, ?_, ?_, ledger.empty, ?_⟩ <;> simp only [wire, failed, ended, givenUp]
  exacts [ledger.all, ledger.matched, ledger.tried, ledger.order, ledger.wired, ledger.first,
    ledger.others, ledger.past]

theorem count_new : (failed log).count n = 0 :=
  count_eq_zero.mpr fun member => Nat.lt_irrefl n (ledger.past n member)

end Ledger

theorem append (ledger : TxLedger queue backoffs state log frame.number) :
    TxLedger (queue ++ [frame]) backoffs state log (frame.number + 1) := by
  refine ⟨ledger.all.add_last rfl (.refl _), ledger.matched, ledger.tried, ?_, fun busy => ?_,
    ?_, ?_, ?_, fun k member => (ledger.past k member).trans (Nat.lt_succ_self _)⟩
  · rw [← append_assoc, filter_append, map_append, pairwise_append]
    refine ⟨ledger.order, ?_, fun a earlier b last => ?_⟩
    · exact (pairwise_singleton _ _).sublist (filter_sublist.map _)
    · obtain ⟨f, member, rfl⟩ := List.mem_map.mp earlier
      obtain ⟨g, new, rfl⟩ := List.mem_map.mp last
      rw [mem_singleton.mp (mem_of_mem_filter new)]
      apply ledger.all.lt
      have inside := mem_of_mem_filter member
      simp only [mem_append, mem_reverse] at inside ⊢
      exact inside.elim (fun e => .inl (.inl e)) .inr
  · obtain ⟨first, rest, copy, rfl, wired, number⟩ := ledger.wired busy
    exact ⟨first, rest ++ [frame], copy, rfl, wired, number⟩
  · cases queue with
    | nil =>
      rintro f ⟨⟩
      have idle : ¬ (state = .transmitting ∨ state = .jamming) := fun busy => by
        obtain ⟨first, rest, copy, filled, -⟩ := ledger.wired busy
        cases filled
      rw [ledger.count_new, ledger.empty rfl, if_neg (not_or.mp idle).2]
    | cons first rest => exact ledger.first
  · cases queue with
    | nil => simp
    | cons first rest =>
      intro f member
      rcases mem_snoc member with old | rfl
      · exact ledger.others f old
      · exact ledger.count_new
  · simp

theorem cons (ledger : TxLedger queue backoffs state log frame.number)
    (pause : frame.isData = false) (before : queue ≠ [] → Calm state ∧ backoffs = 0) :
    TxLedger (frame :: queue) backoffs state log (frame.number + 1) := by
  obtain ⟨calm, none⟩ : Calm state ∧ backoffs = 0 := by
    by_cases some : queue = []
    · refine ⟨not_or.mp fun busy => ?_, ledger.empty some⟩
      obtain ⟨first, rest, copy, filled, -⟩ := ledger.wired busy
      rw [some] at filled
      cases filled
    · exact before some
  refine ⟨ledger.all.add_last rfl (perm_append_singleton frame queue).symm, ledger.matched,
    ledger.tried, ?_, fun busy => absurd busy (not_or.mpr calm), ?_, ?_, by simp,
    fun k member => (ledger.past k member).trans (Nat.lt_succ_self _)⟩
  · have order := ledger.order
    rw [filter_append] at order ⊢
    rw [filter_cons_of_neg (by simp [pause])]
    exact order
  · rintro f ⟨⟩
    rw [ledger.count_new, none, if_neg calm.2]
  · intro f member
    cases queue with
    | nil => cases member
    | cons first rest =>
      rcases mem_cons.mp member with rfl | later
      · rw [ledger.first f rfl, none, if_neg calm.2]
      · exact ledger.others f later

theorem relabel (ledger : TxLedger (frame :: rest) backoffs state log n) {f : EtherMacFrame}
    (number : f.number = frame.number) (pauseTime : f.pauseTime = frame.pauseTime) :
    TxLedger (f :: rest) backoffs state log n := by
  have data : f.isData = frame.isData := congrArg Option.isNone pauseTime
  refine ⟨?_, ledger.matched, ledger.tried, ?_, fun busy => ?_, ?_,
    ledger.others, by simp, ledger.past⟩
  · have all := ledger.all
    simp only [Tallied, map_append, map_cons, number] at all ⊢
    exact all
  · have order := ledger.order
    simp only [filter_append, map_append, filter_cons, data] at order ⊢
    split_ifs at order ⊢
    · rw [map_cons, number]
      exact order
    · exact order
  · obtain ⟨first, tail, copy, same, wired, equal⟩ := ledger.wired busy
    obtain ⟨rfl, rfl⟩ := List.cons.inj same
    exact ⟨f, rest, copy, rfl, wired, equal.trans number.symm⟩
  · rintro g ⟨⟩
    rw [number]
    exact ledger.first frame rfl

theorem transmit (ledger : TxLedger (frame :: rest) backoffs state log n) (calm : Calm state)
    {copy : EtherMacFrame} (number : copy.number = frame.number) :
    TxLedger (frame :: rest) backoffs .transmitting (transmits copy :: log) n := by
  refine ⟨ledger.all, ledger.matched, ledger.tried, ledger.order,
    fun _ => ⟨frame, rest, copy, rfl, rfl, number⟩, ?_, ledger.others, by simp, ledger.past⟩
  rintro f ⟨⟩
  have count := ledger.first frame rfl
  rw [if_neg calm.2] at count
  exact count

theorem jam (ledger : TxLedger queue backoffs .transmitting log n) :
    TxLedger queue backoffs .jamming (jams :: log) n := by
  obtain ⟨frame, rest, copy, rfl, wired, number⟩ := ledger.wired (.inl rfl)
  have more : failed (jams :: log) = frame.number :: failed log := by
    rw [failed, wired, ← number]
    rfl
  refine ⟨ledger.all, ledger.matched, ledger.tried, ledger.order,
    fun _ => ⟨frame, rest, copy, rfl, wired, number⟩, ?_, ?_, ledger.empty, ?_⟩
  · rintro f ⟨⟩
    have count := ledger.first frame rfl
    rw [more, count_cons_self, count]
    simp
  · intro f member
    have other : f.number ≠ frame.number := ledger.all.ne member
    rw [more, count_cons_of_ne other.symm]
    exact ledger.others f member
  · rw [more]
    intro k member
    rcases mem_cons.mp member with rfl | old
    · exact ledger.all.lt (mem_append_right _ mem_cons_self)
    · exact ledger.past k old

theorem complete (ledger : TxLedger (frame :: rest) backoffs .transmitting log n)
    (calm : Calm state) : TxLedger rest 0 state (completes frame :: log) n := by
  refine ⟨?_, ?_, ledger.tried, ?_, fun busy => absurd busy (not_or.mpr calm), ?_, ?_,
    fun _ => rfl, ledger.past⟩
  · exact ledger.all.perm perm_middle.symm
  · intro p member
    rcases mem_cons.mp member with rfl | old
    · obtain ⟨first, tail, copy, same, wired, number⟩ := ledger.wired (.inl rfl)
      obtain ⟨rfl, rfl⟩ := List.cons.inj same
      exact ⟨copy, wired, number⟩
    · exact ledger.matched p old
  · have order := ledger.order
    rw [ended, map_cons, reverse_cons, append_assoc]
    exact order
  · intro f member
    rw [if_neg calm.2]
    exact ledger.others f (mem_of_mem_head? member)
  · exact fun f member => ledger.others f (mem_of_mem_tail member)

theorem cancel (ledger : TxLedger (frame :: rest) backoffs .jamming log n)
    (many : MAX_ATTEMPTS ≤ backoffs) (calm : Calm state) :
    TxLedger rest 0 state (cancels frame :: log) n := by
  refine ⟨?_, ledger.matched, ?_, ?_, fun busy => absurd busy (not_or.mpr calm), ?_, ?_,
    fun _ => rfl, ledger.past⟩
  · refine ledger.all.perm ?_
    rw [append_assoc, append_assoc]
    exact perm_middle.symm.append_left _
  · intro p member
    rcases mem_cons.mp member with rfl | old
    · have count := ledger.first frame rfl
      dsimp only
      rw [count, if_pos rfl]
      exact Nat.lt_succ_of_le many
    · exact ledger.tried p old
  · refine ledger.order.sublist (List.Sublist.map _ (List.Sublist.filter _ ?_))
    exact (sublist_cons_self frame rest).append_left _
  · intro f member
    rw [if_neg calm.2]
    exact ledger.others f (mem_of_mem_head? member)
  · exact fun f member => ledger.others f (mem_of_mem_tail member)

theorem backOff (ledger : TxLedger queue backoffs .jamming log n) :
    TxLedger queue (backoffs + 1) .backoff log n := by
  refine { ledger with
    wired := fun busy => absurd busy (by decide)
    first := fun f member => ?_
    empty := fun none => ?_ }
  · rw [ledger.first f member]
    simp
  · obtain ⟨frame, rest, copy, filled, -⟩ := ledger.wired (.inr rfl)
    rw [none] at filled
    cases filled

end TxLedger

namespace EtherMAC

open TxLedger

structure Kept (mac : EtherMAC) (n : Nat) : Prop where
  ledger : TxLedger mac.txQueue mac.backoffs mac.transmitState mac.log n
  configured : mac.autoconfigInProgress = false

variable {mac mac' : EtherMAC} {now n : Nat} {frame : EtherMacFrame} {log : List MacAction}

theorem aside_passesUp : Aside log (passesUp frame :: log) := ⟨rfl, rfl, rfl, rfl⟩

theorem aside_requestsPacket : Aside log (requestsPacket :: log) := ⟨rfl, rfl, rfl, rfl⟩

theorem kept_startFrameTransmission (done : mac.startFrameTransmission now = .ok mac')
    (ledger : TxLedger mac.txQueue mac.backoffs .txIdle mac.log n)
    (configured : mac.autoconfigInProgress = false) :
    mac'.Kept n := by
  obtain ⟨frame, rest, copy, a, b, queue, number, split⟩ := startFrameTransmission_eq done
  rw [queue] at ledger
  have sent := ledger.transmit calm_txIdle number
  rw [← queue] at sent
  rcases split with ⟨-, time, f, rfl⟩ | ⟨time, rfl⟩
  · exact ⟨sent.jam, configured⟩
  · exact ⟨sent, configured⟩

theorem kept_beginSendFrames (done : mac.beginSendFrames now = .ok mac')
    (ledger : TxLedger mac.txQueue mac.backoffs .txIdle mac.log n)
    (configured : mac.autoconfigInProgress = false) :
    mac'.Kept n := by
  rcases beginSendFrames_cases done with ⟨time, rfl⟩ | ⟨-, log, rfl | rfl, rfl⟩
  · exact ⟨ledger.calm calm_txIdle calm_waitIFG, configured⟩
  · exact ⟨ledger, configured⟩
  · exact ⟨ledger.aside aside_requestsPacket, configured⟩

theorem kept_completeReception (done : mac.completeReception now = .ok mac') (kept : mac.Kept n) :
    mac'.Kept n := by
  obtain ⟨ledger, configured⟩ := kept
  obtain ⟨frame, -, ⟨-, log, rfl | ⟨f, rfl⟩, rfl⟩ | ⟨pauseUnits, -, done⟩⟩ :=
    completeReception_cases done
  · exact ⟨ledger, configured⟩
  · exact ⟨ledger.aside aside_passesUp, configured⟩
  · rcases processPauseCommand_cases done with ⟨-, -, rfl⟩ | ⟨-, -, rfl⟩ | ⟨state, -, time,
      rfl⟩ | ⟨-, -, rfl⟩
    · exact ⟨ledger, configured⟩
    · exact ⟨ledger, configured⟩
    · refine ⟨ledger.calm ?_ calm_pause, configured⟩
      rcases state with idle | pausing
      · exact idle ▸ calm_txIdle
      · exact pausing ▸ calm_pause
    · exact ⟨ledger, configured⟩

theorem Kept.processMsgFromNetwork (kept : mac.Kept n) {sendingTime : Nat} {msg : NetworkMsg}
    (done : mac.processMsgFromNetwork now sendingTime msg = .ok mac') : mac'.Kept n := by
  obtain ⟨ledger, configured⟩ := kept
  rcases processMsgFromNetwork_cases done with
    ⟨-, -, done⟩ | ⟨transmitting, done⟩ | ⟨frame, rfl, ⟨-, m, done⟩ | ⟨-, m, completed, started⟩⟩
  · obtain ⟨s, k, b, rfl, -⟩ := processOverlap_eq done
    exact ⟨ledger, configured⟩
  · obtain ⟨k, jam, time, rfl⟩ := processCollision_eq done
    rw [transmitting] at ledger
    exact ⟨ledger.jam, configured⟩
  · obtain ⟨time, rfl⟩ := startReception_eq done
    exact ⟨ledger, configured⟩
  · obtain ⟨time, rfl⟩ := startReception_eq started
    have ended : m.Kept n := kept_completeReception completed ⟨ledger, configured⟩
    exact ⟨ended.ledger, ended.configured⟩

theorem Kept.handleSelfMsg (kept : mac.Kept n) {msg : SelfMsg} {slotNumber : Nat}
    (done : (mac.cancelEvent msg).handleSelfMsg now slotNumber msg = .ok mac') : mac'.Kept n := by
  obtain ⟨ledger, configured⟩ := kept
  cases msg with
  | endIFG =>
    obtain ⟨state, frame, f, rest, a, b, queue, number, pauseTime, done⟩ :=
      handleEndIFGPeriod_eq done
    rw [show mac.txQueue = frame :: rest from queue, show mac.transmitState = .waitIFG from state]
      at ledger
    exact kept_startFrameTransmission done ((ledger.relabel number pauseTime).calm calm_waitIFG
      calm_txIdle) configured
  | endTransmission =>
    obtain ⟨state, frame, rest, queue, done⟩ := handleEndTxPeriod_eq done
    rw [show mac.txQueue = frame :: rest from queue,
      show mac.transmitState = .transmitting from state] at ledger
    have ended : TxLedger rest 0 .txIdle (completes frame :: mac.log) n :=
      ledger.complete calm_txIdle
    rcases afterTransmission_cases done with ⟨time, rfl⟩ | done | done
    · exact ⟨ended.calm calm_txIdle calm_pause, configured⟩
    · exact kept_startFrameTransmission done ended configured
    · exact kept_beginSendFrames done ended configured
  | endReception =>
    obtain ⟨m, received, rest⟩ := handleEndRxPeriod_cases done
    have ended : m.Kept n := by
      rcases received with ⟨-, completed⟩ | ⟨-, rfl⟩
      · exact kept_completeReception completed ⟨ledger, configured⟩
      · exact ⟨ledger, configured⟩
    rcases rest with ⟨idle, -, time, rfl⟩ | ⟨-, rfl⟩
    · exact ⟨ended.ledger.calm (idle ▸ calm_txIdle) calm_waitIFG, ended.configured⟩
    · exact ⟨ended.ledger, ended.configured⟩
  | endBackoff =>
    obtain ⟨state, ⟨time, rfl⟩ | ⟨-, rfl⟩⟩ := handleEndBackoffPeriod_cases done
    · exact ⟨ledger.calm (state ▸ calm_backoff) calm_waitIFG, configured⟩
    · exact ⟨ledger.calm (state ▸ calm_backoff) calm_txIdle, configured⟩
  | endJamming =>
    obtain ⟨state, ⟨many, frame, rest, queue, rfl⟩ | ⟨-, time, rfl⟩⟩ :=
      handleEndJammingPeriod_cases done
    · rw [show mac.txQueue = frame :: rest from queue, show mac.transmitState = .jamming from state]
        at ledger
      exact ⟨ledger.cancel many calm_txIdle, configured⟩
    · rw [show mac.transmitState = .jamming from state] at ledger
      exact ⟨ledger.backOff, configured⟩
  | endPause =>
    obtain ⟨state, done⟩ := handleEndPausePeriod_eq done
    exact kept_beginSendFrames done (ledger.calm (state ▸ calm_pause) calm_txIdle) configured
  | endAutoconfig => cases done

/-- The upper layer hands over a PAUSE only before the first attempt for the frame at the head of
the queue. -/
def Unstarted (mac : EtherMAC) : MacEvent → Prop
  | .upper frame => frame.pauseTime ≠ none → mac.txQueue ≠ [] → Calm mac.transmitState ∧
      mac.backoffs = 0
  | _ => True

theorem ledger_processFrameFromUpperLayer
    (done : mac.processFrameFromUpperLayer now frame = .ok mac')
    (unstarted : mac.Unstarted (.upper frame))
    (ledger : TxLedger mac.txQueue mac.backoffs mac.transmitState mac.log frame.number) :
    TxLedger mac'.txQueue mac'.backoffs mac'.transmitState mac'.log (frame.number + 1) ∧
      mac'.autoconfigInProgress = mac.autoconfigInProgress ∧
      (Calm mac.transmitState → Calm mac'.transmitState) := by
  obtain ⟨m, queued, rest⟩ := processFrameFromUpperLayer_cases done
  obtain ⟨f, number, pauseTime, rfl⟩ := enqueue_eq queued
  have more : TxLedger (if frame.pauseTime = none then mac.txQueue ++ [f]
      else f :: mac.txQueue) mac.backoffs mac.transmitState mac.log (frame.number + 1) := by
    rw [← number] at ledger ⊢
    split_ifs with data
    · exact ledger.append
    · refine ledger.cons ?_ (unstarted data)
      rw [EtherMacFrame.isData, pauseTime, Option.isNone_eq_false_iff, Option.isSome_iff_ne_none]
      exact data
  rcases rest with ⟨idle, time, rfl⟩ | ⟨-, rfl⟩
  · exact ⟨more.calm (idle ▸ calm_txIdle) calm_waitIFG, rfl, fun _ => calm_waitIFG⟩
  · exact ⟨more, rfl, id⟩

theorem endAutoconfig_eq (done : mac.endAutoconfig now = .ok mac') :
    mac'.txQueue = mac.txQueue ∧ mac'.backoffs = mac.backoffs ∧ mac'.log = mac.log ∧
      mac'.autoconfigInProgress = false ∧
      (mac'.transmitState = mac.transmitState ∨ mac'.transmitState = .waitIFG) := by
  obtain ⟨params, -, done⟩ := bind_eq_ok done
  dsimp only at done
  split_ifs at done
  · cases enter_eq done
    exact ⟨rfl, rfl, rfl, rfl, .inr rfl⟩
  · cases done
    exact ⟨rfl, rfl, rfl, rfl, .inl rfl⟩

end EtherMAC

namespace MacRun

variable {w w' : MacRun} {e : Nat × MacEvent}

structure Inv (w : MacRun) : Prop where
  ledger : TxLedger w.mac.txQueue w.mac.backoffs w.mac.transmitState w.mac.log w.accepted
  waits : w.mac.autoconfigInProgress = true → TxLedger.Calm w.mac.transmitState

def Unstarted (w : MacRun) (e : Nat × MacEvent) : Prop := w.mac.Unstarted e.2

theorem Inv.step (inv : w.Inv) (unstarted : w.Unstarted e) (next : w.Next e w') : w'.Inv := by
  obtain ⟨-, done⟩ := next
  obtain ⟨mac, handled, rfl⟩ := map_eq_ok done
  obtain ⟨time, e⟩ := e
  unfold EtherMAC.handleMessage at handled
  split_ifs at handled with waiting inconsistent
  · have calm := inv.waits waiting
    cases e with
    | upper frame =>
      obtain ⟨ledger, -, still⟩ :=
        EtherMAC.ledger_processFrameFromUpperLayer handled unstarted inv.ledger
      exact ⟨ledger, fun _ => still calm⟩
    | network sendingTime msg =>
      cases msg with
      | autoconfig txrate halfDuplex =>
        cases handled
        exact ⟨inv.ledger, inv.waits⟩
      | frame f => cases handled
      | jam byteLength => cases handled
    | selfMsg msg slotNumber =>
      obtain ⟨queue, backoffs, log, configured, state⟩ := EtherMAC.endAutoconfig_eq handled
      have calm' : TxLedger.Calm mac.transmitState := by
        rcases state with same | gap
        · exact same ▸ calm
        · exact gap ▸ TxLedger.calm_waitIFG
      have ledger := inv.ledger.calm calm calm'
      refine ⟨?_, fun _ => calm'⟩
      dsimp only
      rw [queue, backoffs, log]
      exact ledger
  · have configured : w.mac.autoconfigInProgress = false := Bool.not_eq_true _ ▸ waiting
    have kept : w.mac.Kept w.accepted := ⟨inv.ledger, configured⟩
    have normal : ∀ {n : Nat}, mac.Kept n → Inv ⟨mac, time, n⟩ := fun kept' =>
      ⟨kept'.ledger, fun waits => Bool.noConfusion (waits.symm.trans kept'.configured)⟩
    cases e with
    | upper frame =>
      obtain ⟨ledger, same, -⟩ :=
        EtherMAC.ledger_processFrameFromUpperLayer handled unstarted inv.ledger
      exact normal ⟨ledger, same.trans configured⟩
    | network sendingTime msg => exact normal (kept.processMsgFromNetwork handled)
    | selfMsg msg slotNumber => exact normal (kept.handleSelfMsg handled)

theorem inv_begin {base mac : EtherMAC} (started : base.begin = .ok mac) : Inv { mac := mac } := by
  have nothing : ∀ {log : List MacAction}, Aside [] log → TxLedger [] 0 .txIdle log 0 := fun same =>
    TxLedger.aside ⟨tallied_nil, by simp [ended], by simp [givenUp], by simp [ended], by simp,
      by simp, by simp, by simp, by simp [failed]⟩ same
  have silent : Aside [] base.reset.log := by
    unfold EtherMAC.reset
    dsimp only
    split_ifs
    · exact ⟨rfl, rfl, rfl, rfl⟩
    · exact ⟨rfl, rfl, rfl, rfl⟩
  unfold EtherMAC.begin at started
  split_ifs at started
  · unfold EtherMAC.startAutoconfig at started
    obtain ⟨-, rfl⟩ := EtherMAC.scheduleAt_eq started
    obtain ⟨same, others, ends, ups⟩ := silent
    dsimp only
    split_ifs
    · exact ⟨nothing ⟨same, others, ends, ups⟩, fun _ => TxLedger.calm_txIdle⟩
    · exact ⟨nothing ⟨same, others, ends, ups⟩, fun _ => TxLedger.calm_txIdle⟩
  · obtain ⟨params, -, rfl⟩ := map_eq_ok started
    exact ⟨nothing silent, fun _ => TxLedger.calm_txIdle⟩

end MacRun

theorem frames_transmitted (base mac : EtherMAC) (started : base.begin = .ok mac)
    (es : List (Nat × MacEvent)) (each : Each MacRun.Next MacRun.Unstarted { mac := mac } es) :
    Always MacRun.Next (fun w => Transmitted w.mac.txQueue w.mac.log w.accepted)
    { mac := mac } es := by
  apply always_of_each (I := MacRun.Inv)
  · exact fun w e w' inv unstarted next => inv.step unstarted next
  · exact fun w inv => inv.ledger.transmitted
  · exact MacRun.inv_begin started
  · exact each

instance (w : MacRun) (e : Nat × MacEvent) : Decidable (w.Unstarted e) := by
  unfold MacRun.Unstarted EtherMAC.Unstarted
  split <;> infer_instance

def connectedMac : EtherMAC := ((fastEthernet true).begin.toOption).getD (fastEthernet true)

theorem begin_connectedMac : (fastEthernet true).begin = .ok connectedMac := rfl

/-- A data frame waits for the end of autoconfiguration; a PAUSE that is handed over then goes
first. -/
theorem frames_transmitted_five :
    Always MacRun.Next (fun w => Transmitted w.mac.txQueue w.mac.log w.accepted)
    { mac := connectedMac }
      [(0, .upper (dataFrame 64)), (1, .upper { pauseFrame 5 with dest := hostAddress 2 }),
        (1000000000, .selfMsg .endAutoconfig 0), (1000960000, .selfMsg .endIFG 0),
        (1007360000, .selfMsg .endTransmission 0)] := by
  apply frames_transmitted (fastEthernet true) connectedMac begin_connectedMac
  iterate 5 refine .cons (fun _ next => next.eq_after) (by decide +kernel) ?_
  trivial

def latePause : List (Nat × MacEvent) :=
  [(0, .upper (dataFrame 64)), (1000000000, .selfMsg .endAutoconfig 0),
    (1000960000, .selfMsg .endIFG 0),
    (1000970000, .upper { pauseFrame 5 with dest := hostAddress 2 }),
    (1006720000, .selfMsg .endTransmission 0)]

/-- The PAUSE is removed at the end of the transmission, in the place of the data frame. -/
theorem frames_not_transmitted : ¬ ∀ (base mac : EtherMAC), base.begin = .ok mac → ∀ es :
    List (Nat × MacEvent),
    Always MacRun.Next (fun w => Transmitted w.mac.txQueue w.mac.log w.accepted)
    { mac := mac } es := by
  intro all
  have along := all (fastEthernet true) connectedMac begin_connectedMac latePause
  have ends : (latePause.foldlM MacRun.step { mac := connectedMac }).map
      (fun w => (ended w.mac.log).map fun p => (p.1.number, p.2.map (·.number))) =
      some [(1, some 0)] := by decide +kernel
  obtain ⟨w, ran, same⟩ := Option.map_eq_some_iff.mp ends
  have matched := (along.last MacRun.next_of_step ran).matched
  obtain ⟨p, rest, list⟩ := exists_cons_of_ne_nil (l := ended w.mac.log) (by
    intro none
    rw [none] at same
    cases same)
  rw [list, map_cons] at same
  obtain ⟨numbers, -⟩ := List.cons.inj same
  obtain ⟨removed, wired⟩ := Prod.mk.inj numbers
  obtain ⟨copy, some, number⟩ := matched p (list ▸ mem_cons_self)
  rw [some, Option.map_some, number, removed] at wired
  cases wired

end Srwsn
