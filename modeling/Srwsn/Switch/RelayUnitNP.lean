import Srwsn.Lib.Tally
import Srwsn.Switch.RelayUnit

/-! The switch with several processors: a frame is held in the buffer until a processor has dealt
with it. -/
namespace Srwsn

open Trace Outcome Tally List

/-- A frame with the gate it came in on. `number` counts the frames received before it. -/
structure HeldFrame where
  frame : EtherFrame
  byteLength : Nat
  arrivalGate : Nat
  number : Nat
  deriving DecidableEq

structure EndProcEvent where
  scheduled : Option Nat := none
  context : Option HeldFrame := none
  deriving DecidableEq

inductive NPFault where
  | assertion
  | relay (fault : RelayFault)
  deriving DecidableEq

inductive NPAction where
  | pause (port : Nat) (pauseUnits : Int)
  | starts (cpu : Nat) (frame : HeldFrame)
  | drops (frame : HeldFrame) (bufferUsed : Int)
  | sends (port : Nat) (frame : HeldFrame)
  | completes (cpu : Nat) (frame : HeldFrame)
  deriving DecidableEq

structure MACRelayUnitNP where
  base : MACRelayUnitBase
  processingTime : Nat
  bufferSize : Int
  highWatermark : Int
  pauseUnits : Int
  pauseLastSent : Nat := 0
  bufferUsed : Int := 0
  endProcEvents : List EndProcEvent
  queue : List HeldFrame := []
  numProcessedFrames : Nat := 0
  numDroppedFrames : Nat := 0

namespace MACRelayUnitNP

def start (base : MACRelayUnitBase) (numCPUs processingTime : Nat)
    (bufferSize highWatermark pauseUnits : Int) : MACRelayUnitNP where
  base := base
  processingTime := processingTime
  bufferSize := bufferSize
  highWatermark := highWatermark
  pauseUnits := pauseUnits
  endProcEvents := List.replicate numCPUs {}

variable (u : MACRelayUnitNP) (now : Nat)

/- 512 bit times at 100000 bits a second for each unit. -/
def pauseInterval : Int := u.pauseUnits * (512 * (SECOND / 100000) : Nat)

def pauseDue : Bool :=
  decide (0 < u.pauseUnits) && decide (0 < u.highWatermark) &&
    decide (u.highWatermark ≤ u.bufferUsed) &&
    decide (u.pauseInterval < (now : Int) - u.pauseLastSent)

def sendPause : List NPAction × MACRelayUnitNP :=
  if u.pauseDue now then
    ((List.range u.base.numPorts).map (.pause · u.pauseUnits), { u with pauseLastSent := now })
  else ([], u)

def freeCPU : Option Nat := u.endProcEvents.findIdx? fun e => e.scheduled.isNone

def startProcessing (cpu : Nat) (frame : HeldFrame) : MACRelayUnitNP :=
  { u with endProcEvents := u.endProcEvents.set cpu ⟨some (now + u.processingTime), some frame⟩ }

def assign (frame : HeldFrame) : Except NPFault (List NPAction × MACRelayUnitNP) :=
  match u.freeCPU with
  | none => .ok ([], { u with queue := u.queue ++ [frame] })
  | some cpu =>
    if (u.endProcEvents[cpu]?).bind (·.context) = none then
      .ok ([.starts cpu frame], u.startProcessing now cpu frame)
    else .error .assertion

def handleIncomingFrame (frame : HeldFrame) : Except NPFault (List NPAction × MACRelayUnitNP) :=
  if frame.byteLength + u.bufferUsed < u.bufferSize then
    let paused := { u with bufferUsed := u.bufferUsed + frame.byteLength }.sendPause now
    (paused.2.assign now frame).map fun r => (paused.1 ++ r.1, r.2)
  else .ok ([.drops frame u.bufferUsed], { u with numDroppedFrames := u.numDroppedFrames + 1 })

def takeNext (cpu : Nat) : List NPAction × MACRelayUnitNP :=
  match u.queue with
  | [] => ([], { u with endProcEvents := u.endProcEvents.set cpu {} })
  | newframe :: queue => ([.starts cpu newframe],
      { u with queue := queue }.startProcessing now cpu newframe)

def processFrame (cpu : Nat) : Except NPFault (List NPAction × MACRelayUnitNP) :=
  match (u.endProcEvents[cpu]?).bind (·.context) with
  | none => .error .assertion
  | some frame =>
    match u.base.handleAndDispatchFrame now frame.frame frame.arrivalGate with
    | .error fault => .error (.relay fault)
    | .ok r =>
      let next := { u with
        base := r.2
        bufferUsed := u.bufferUsed - frame.byteLength
        numProcessedFrames := u.numProcessedFrames + 1 }.takeNext now cpu
      .ok (r.1.map (.sends · frame) ++ .completes cpu frame :: next.1, next.2)

def inProcessing : List HeldFrame := u.endProcEvents.filterMap (·.context)

def held : List HeldFrame := u.queue ++ u.inProcessing

theorem inProcessing_set {u : MACRelayUnitNP} {cpu : Nat} {e : EndProcEvent}
    (here : u.endProcEvents[cpu]? = some e) :
    ∃ rest, u.inProcessing.Perm (e.context.toList ++ rest) ∧
      ∀ e', ((u.endProcEvents.set cpu e').filterMap (·.context)).Perm
      (e'.context.toList ++ rest) := by
  obtain ⟨inside, rfl⟩ := List.getElem?_eq_some_iff.mp here
  have middle : ∀ (l r : List EndProcEvent) (e : EndProcEvent),
    ((l ++ e :: r).filterMap (·.context)).Perm
      (e.context.toList ++ (l.filterMap (·.context) ++ r.filterMap (·.context))) := by
    intro l r e
    have split : (e :: r).filterMap (·.context) = e.context.toList ++ r.filterMap (·.context) := by
      rw [filterMap_cons]
      cases e.context with
      | none => rfl
      | some frame => rfl
    rw [filterMap_append, split, ← append_assoc, ← append_assoc]
    exact perm_append_comm.append_right _
  refine ⟨(u.endProcEvents.take cpu).filterMap (·.context) ++
    (u.endProcEvents.drop (cpu + 1)).filterMap (·.context), ?_, fun e' => ?_⟩
  · have whole :=
      middle (u.endProcEvents.take cpu) (u.endProcEvents.drop (cpu + 1)) u.endProcEvents[cpu]
    rwa [getElem_cons_drop, take_append_drop] at whole
  · rw [set_eq_take_append_cons_drop, if_pos inside]
    exact middle _ _ e'

theorem sendPause_cases :
    ∃ (ports : List Nat) (sent : Nat), u.sendPause now = (ports.map (.pause · u.pauseUnits),
      { u with pauseLastSent := sent }) := by
  unfold sendPause
  split_ifs
  · exact ⟨_, now, rfl⟩
  · exact ⟨[], u.pauseLastSent, rfl⟩

theorem handleIncomingFrame_cases {u u' : MACRelayUnitNP} {now : Nat} {frame : HeldFrame}
    {acts : List NPAction} (done : u.handleIncomingFrame now frame = .ok (acts, u')) :
    (u.bufferSize ≤ frame.byteLength + u.bufferUsed ∧ acts = [.drops frame u.bufferUsed] ∧
      u' = { u with numDroppedFrames := u.numDroppedFrames + 1 }) ∨
    (frame.byteLength + u.bufferUsed < u.bufferSize ∧ ∃ (ports : List Nat) (sent : Nat),
      (u.freeCPU = none ∧ acts = ports.map (.pause · u.pauseUnits) ∧ u' = { u with
          bufferUsed := u.bufferUsed + frame.byteLength, pauseLastSent := sent, queue :=
            u.queue ++ [frame] }) ∨
      ∃ cpu, u.freeCPU = some cpu ∧
      acts = ports.map (.pause · u.pauseUnits) ++ [.starts cpu frame] ∧ u' = { u with
          bufferUsed := u.bufferUsed + frame.byteLength, pauseLastSent := sent
          endProcEvents :=
            u.endProcEvents.set cpu ⟨some (now + u.processingTime), some frame⟩ }) := by
  unfold handleIncomingFrame at done
  split_ifs at done with room
  · obtain ⟨ports, sent, paused⟩ :=
      sendPause_cases { u with bufferUsed := u.bufferUsed + frame.byteLength } now
    dsimp only at done
    rw [paused] at done
    obtain ⟨r, assigned, same⟩ := map_eq_ok done
    cases same
    refine .inr ⟨room, ports, sent, ?_⟩
    unfold assign at assigned
    split at assigned
    · next free =>
      cases assigned
      exact .inl ⟨free, append_nil _, rfl⟩
    · next cpu free =>
      split_ifs at assigned
      cases assigned
      exact .inr ⟨cpu, free, rfl, rfl⟩
  · cases done
    exact .inl ⟨Int.not_lt.mp room, rfl, rfl⟩

theorem processFrame_cases {u u' : MACRelayUnitNP} {now cpu : Nat} {acts : List NPAction}
    (done : u.processFrame now cpu = .ok (acts, u')) :
    ∃ e frame r x queue, u.endProcEvents[cpu]? = some e ∧ e.context = some frame ∧
      u.base.handleAndDispatchFrame now frame.frame frame.arrivalGate = .ok r ∧
      x.scheduled.isSome = x.context.isSome ∧ u.queue = x.context.toList ++ queue ∧
      (x.context = none → queue = []) ∧
      acts = r.1.map (.sends · frame) ++ .completes cpu frame :: x.context.toList.map
      (.starts cpu) ∧ u' = { u with
        base := r.2, bufferUsed := u.bufferUsed - frame.byteLength, numProcessedFrames :=
          u.numProcessedFrames + 1
        queue := queue, endProcEvents := u.endProcEvents.set cpu x } := by
  unfold processFrame at done
  split at done
  · cases done
  · next frame held =>
    obtain ⟨e, here, context⟩ := Option.bind_eq_some_iff.mp held
    split at done
    · cases done
    · next r dispatched =>
      cases done
      unfold takeNext
      dsimp only
      cases waiting : u.queue with
      | nil =>
        exact ⟨e, frame, r, {}, [], here, context, dispatched, rfl, rfl, fun _ => rfl, rfl, rfl⟩
      | cons newframe queue =>
        exact ⟨e, frame, r, ⟨some (now + u.processingTime), some newframe⟩, queue, here, context,
          dispatched, rfl, rfl, nofun, rfl, rfl⟩

end MACRelayUnitNP

namespace NPAction

def started : NPAction → Option HeldFrame
  | starts _ frame => some frame
  | _ => none

def dropped : NPAction → Option (HeldFrame × Int)
  | drops frame bufferUsed => some (frame, bufferUsed)
  | _ => none

def completed : NPAction → Option HeldFrame
  | completes _ frame => some frame
  | _ => none

end NPAction

inductive NPEvent where
  | incomingFrame (time : Nat) (frame : EtherFrame) (byteLength arrivalGate : Nat)
  | endProcessing (time cpu : Nat)

structure NPRun where
  unit : MACRelayUnitNP
  now : Nat := 0
  received : Nat := 0
  log : List NPAction := []

namespace NPRun

variable (w : NPRun)

def started : List HeldFrame := w.log.filterMap NPAction.started
def dropped : List (HeldFrame × Int) := w.log.filterMap NPAction.dropped
def processed : List HeldFrame := w.log.filterMap NPAction.completed

def handle : NPEvent → Except NPFault NPRun
  | .incomingFrame time frame byteLength arrivalGate =>
    (w.unit.handleIncomingFrame time ⟨frame, byteLength, arrivalGate, w.received⟩).map fun r =>
      { unit := r.2, now := time, received := w.received + 1, log := w.log ++ r.1 }
  | .endProcessing time cpu =>
    (w.unit.processFrame time cpu).map fun r =>
      { w with unit := r.2, now := time, log := w.log ++ r.1 }

def Enabled : NPEvent → Prop
  | .incomingFrame time _ _ arrivalGate => w.now ≤ time ∧ arrivalGate < w.unit.base.numPorts
  | .endProcessing time cpu => w.now ≤ time ∧
      (w.unit.endProcEvents[cpu]?).bind (·.scheduled) = some time

def Next (e : NPEvent) (w' : NPRun) : Prop := w.Enabled e ∧ w.handle e = .ok w'

structure Correct (numCPUs : Nat) (w : NPRun) : Prop where
  buffer : w.unit.bufferUsed = (w.unit.held.map (·.byteLength)).sum
  below : w.unit.bufferUsed < w.unit.bufferSize
  cpus : w.unit.inProcessing.length ≤ numCPUs
  busy : w.unit.queue ≠ [] → w.unit.inProcessing.length = numCPUs
  order : (w.started.map (·.number)).Pairwise (· < ·)
  fates : ((w.processed ++ w.dropped.map (·.1) ++ w.unit.held).map (·.number)).Perm
    (List.range w.received)
  full : ∀ d ∈ w.dropped, w.unit.bufferSize ≤ d.1.byteLength + d.2

end NPRun

/-- The frames that wait are the next to start, and a processor has a frame just when its timer
runs. -/
structure Account (numCPUs : Nat) (u : MACRelayUnitNP) (n : Nat) (started : List HeldFrame)
    (dropped : List (HeldFrame × Int)) (processed : List HeldFrame) : Prop where
  buffer : u.bufferUsed = (u.held.map (·.byteLength)).sum
  below : u.bufferUsed < u.bufferSize
  size : u.endProcEvents.length = numCPUs
  paired : ∀ e ∈ u.endProcEvents, e.scheduled.isSome = e.context.isSome
  busy : u.queue ≠ [] → ∀ e ∈ u.endProcEvents, e.scheduled.isSome = true
  order : ((started ++ u.queue).map (·.number)).Pairwise (· < ·)
  past : ∀ f ∈ started ++ u.queue, f.number < n
  fates : Tallied (·.number) (processed ++ dropped.map (·.1) ++ u.held) n
  full : ∀ d ∈ dropped, u.bufferSize ≤ d.1.byteLength + d.2

namespace Account

variable {numCPUs n : Nat} {u : MACRelayUnitNP} {started processed : List HeldFrame}
  {dropped : List (HeldFrame × Int)} {frame : HeldFrame}

variable {held held' : List HeldFrame} {used : Int}

theorem used_append (more : held'.Perm (held ++ [frame]))
    (same : used = (held.map (·.byteLength)).sum) :
    used + frame.byteLength = (held'.map (·.byteLength)).sum := by
  rw [(more.map _).sum_nat, map_append, sum_append, same]
  simp

theorem used_cons (less : held.Perm (frame :: held'))
    (same : used = (held.map (·.byteLength)).sum) :
    used - frame.byteLength = (held'.map (·.byteLength)).sum := by
  rw [same, (less.map _).sum_nat, map_cons, sum_cons]
  omega

theorem set_paired (acc : Account numCPUs u n started dropped processed) {x : EndProcEvent}
    (cpu : Nat) (own : x.scheduled.isSome = x.context.isSome) :
    (u.endProcEvents.set cpu x).length = numCPUs ∧
      ∀ e ∈ u.endProcEvents.set cpu x, e.scheduled.isSome = e.context.isSome := by
  refine ⟨(length_set ..).trans acc.size, fun e inside => ?_⟩
  rcases mem_or_eq_of_mem_set inside with old | rfl
  · exact acc.paired e old
  · exact own

section Incoming

variable (acc : Account numCPUs u frame.number started dropped processed)

include acc

theorem drop (full : u.bufferSize ≤ frame.byteLength + u.bufferUsed) (count : Nat) :
    Account numCPUs { u with numDroppedFrames := count } (frame.number + 1) started
      (dropped ++ [(frame, u.bufferUsed)]) processed where
  buffer := acc.buffer
  below := acc.below
  size := acc.size
  paired := acc.paired
  busy := acc.busy
  order := acc.order
  past f member := (acc.past f member).trans (Nat.lt_succ_self _)
  fates := by
    rw [map_append]
    exact acc.fates.add_middle rfl
  full := by
    intro d member
    rcases mem_snoc member with old | rfl
    · exact acc.full d old
    · exact full

theorem order_append : ((started ++ u.queue ++ [frame]).map (·.number)).Pairwise (· < ·) ∧
      ∀ f ∈ started ++ u.queue ++ [frame], f.number < frame.number + 1 := by
  constructor
  · rw [map_append, pairwise_append]
    refine ⟨acc.order, pairwise_singleton _ _, ?_⟩
    intro a earlier b last
    obtain ⟨f, member, rfl⟩ := List.mem_map.mp earlier
    rw [mem_singleton.mp last]
    exact acc.past f member
  · intro f member
    rcases mem_snoc member with old | rfl
    · exact (acc.past f old).trans (Nat.lt_succ_self _)
    · exact Nat.lt_succ_self _

theorem wait (room : frame.byteLength + u.bufferUsed < u.bufferSize) (none : u.freeCPU = none)
    (sent : Nat) : Account numCPUs { u with
      bufferUsed := u.bufferUsed + frame.byteLength, pauseLastSent := sent, queue :=
        u.queue ++ [frame] }
      (frame.number + 1) started dropped processed := by
  have more : (u.queue ++ [frame] ++ u.inProcessing).Perm (u.held ++ [frame]) := by
    rw [MACRelayUnitNP.held, append_assoc, append_assoc]
    exact perm_append_comm.append_left u.queue
  have order := acc.order_append
  rw [append_assoc] at order
  refine ⟨used_append more acc.buffer, ?_, acc.size, acc.paired, fun _ e member => ?_,
    order.1, order.2, acc.fates.add_last rfl more, acc.full⟩
  · dsimp only
    omega
  · have unfree := findIdx?_eq_none_iff.mp none e member
    simpa using unfree

theorem start (room : frame.byteLength + u.bufferUsed < u.bufferSize) {cpu : Nat}
    (free : u.freeCPU = some cpu) (sent time : Nat) : Account numCPUs { u with
      bufferUsed := u.bufferUsed + frame.byteLength, pauseLastSent := sent
      endProcEvents := u.endProcEvents.set cpu ⟨some time, some frame⟩ }
      (frame.number + 1) (started ++ [frame]) dropped processed := by
  obtain ⟨inside, idle, -⟩ := findIdx?_eq_some_iff_getElem.mp free
  have member := getElem_mem inside
  have unscheduled : u.endProcEvents[cpu].scheduled = none := by simpa using idle
  have empty : u.queue = [] := by
    by_contra waiting
    have busy := acc.busy waiting _ member
    rw [unscheduled] at busy
    cases busy
  have unused : u.endProcEvents[cpu].context = none := by
    have paired := acc.paired _ member
    rw [unscheduled] at paired
    exact Option.isNone_iff_eq_none.mp (by simpa using paired)
  obtain ⟨rest, before, after⟩ := MACRelayUnitNP.inProcessing_set (getElem?_eq_getElem inside)
  rw [unused] at before
  have more : (u.queue ++ (u.endProcEvents.set cpu ⟨some time, some frame⟩).filterMap
      (·.context)).Perm (u.held ++ [frame]) := by
    rw [MACRelayUnitNP.held, append_assoc]
    refine .append_left _ ((after _).trans ?_)
    exact .trans (perm_append_comm) (before.symm.append_right [frame])
  have order := acc.order_append
  rw [empty, append_nil] at order
  have set := acc.set_paired (x := ⟨some time, some frame⟩) cpu rfl
  refine ⟨used_append more acc.buffer, ?_, set.1, set.2, fun waiting => absurd empty waiting, ?_,
    ?_, acc.fates.add_last rfl more, acc.full⟩
  · dsimp only
    omega
  · simpa [empty] using order.1
  · simpa [empty] using order.2

end Incoming

variable {cpu : Nat} {x : EndProcEvent}

theorem goOn (acc : Account numCPUs u n started dropped processed) {e : EndProcEvent}
    (here : u.endProcEvents[cpu]? = some e) (context : e.context = some frame)
    (paired : x.scheduled.isSome = x.context.isSome) {queue : List HeldFrame}
    (waiting : u.queue = x.context.toList ++ queue) (idle : x.context = none → queue = [])
    (base : MACRelayUnitBase)
    (count : Nat) : Account numCPUs { u with
      base := base, bufferUsed := u.bufferUsed - frame.byteLength, numProcessedFrames := count
      queue := queue, endProcEvents := u.endProcEvents.set cpu x }
      n (started ++ x.context.toList) dropped (processed ++ [frame]) := by
  obtain ⟨rest, before, after⟩ := MACRelayUnitNP.inProcessing_set here
  rw [context] at before
  have less :
      u.held.Perm (frame :: (queue ++ (u.endProcEvents.set cpu x).filterMap (·.context))) := by
    rw [MACRelayUnitNP.held, waiting]
    refine .trans (before.append_left _) (.trans perm_middle (.cons frame ?_))
    rw [append_assoc]
    exact .trans (perm_append_comm_assoc ..) ((after x).symm.append_left queue)
  have order := acc.order
  have past := acc.past
  rw [waiting, ← append_assoc] at order past
  have set := acc.set_paired cpu paired
  refine ⟨used_cons less acc.buffer, ?_, set.1, set.2, fun more e inside => ?_, order, past,
    acc.fates.move less, acc.full⟩
  · have below := acc.below
    dsimp only
    omega
  · rcases mem_or_eq_of_mem_set inside with old | rfl
    · exact acc.busy (by simp [waiting, more]) e old
    · rw [paired, Option.isSome_iff_ne_none]
      exact mt idle more

end Account

namespace NPRun

variable {numCPUs : Nat} {w w' : NPRun}

def Inv (numCPUs : Nat) (w : NPRun) : Prop :=
  Account numCPUs w.unit w.received w.started w.dropped w.processed

theorem Inv.correct (inv : w.Inv numCPUs) : w.Correct numCPUs where
  buffer := inv.buffer
  below := inv.below
  cpus := inv.size ▸ length_filterMap_le _ _
  busy := by
    intro waiting
    rw [← inv.size]
    refine filterMap_length_eq_length.mpr fun e member => ?_
    rw [← inv.paired e member]
    exact inv.busy waiting e member
  order := by
    have all := inv.order
    rw [map_append] at all
    exact (pairwise_append.mp all).1
  fates := inv.fates
  full := inv.full

variable {α β : Type} {f : NPAction → Option β} {act : α → NPAction}

theorem filterMap_quiet (quiet : ∀ a, f (act a) = none) (l : List α) :
    (l.map act).filterMap f = [] := by
  rw [filterMap_map, filterMap_eq_nil_iff]
  exact fun a _ => quiet a

theorem filterMap_after_quiet (quiet : ∀ a, f (act a) = none) (l : List α) (rest : List NPAction) :
    (l.map act ++ rest).filterMap f = rest.filterMap f := by
  rw [filterMap_append, filterMap_quiet quiet, nil_append]

theorem inv_append {u' : MACRelayUnitNP} {now n : Nat} {acts : List NPAction} {s p : List HeldFrame}
    {d : List (HeldFrame × Int)} (starts : acts.filterMap NPAction.started = s)
    (drops : acts.filterMap NPAction.dropped = d)
    (completes : acts.filterMap NPAction.completed = p)
    (acc : Account numCPUs u' n (w.started ++ s) (w.dropped ++ d) (w.processed ++ p)) :
    Inv numCPUs { unit := u', now := now, received := n, log := w.log ++ acts } := by
  unfold Inv NPRun.started NPRun.dropped NPRun.processed
  simp only [filterMap_append, starts, drops, completes]
  exact acc

theorem Inv.step (inv : w.Inv numCPUs) {e : NPEvent} (next : w.Next e w') : w'.Inv numCPUs := by
  obtain ⟨-, done⟩ := next
  cases e with
  | incomingFrame time frame byteLength arrivalGate =>
    obtain ⟨⟨acts, u'⟩, handled, rfl⟩ := map_eq_ok done
    have acc : Account numCPUs w.unit (HeldFrame.number ⟨frame, byteLength, arrivalGate,
      w.received⟩) _ _ _ := inv
    rcases MACRelayUnitNP.handleIncomingFrame_cases handled with
      ⟨full, rfl, rfl⟩ | ⟨room, ports, sent, ⟨busy, rfl, rfl⟩ | ⟨cpu, free, rfl, rfl⟩⟩
    · apply inv_append (s := []) (d := [(⟨frame, byteLength, arrivalGate, w.received⟩,
        w.unit.bufferUsed)]) (p := []) rfl rfl rfl
      simpa using acc.drop full (w.unit.numDroppedFrames + 1)
    · apply inv_append (filterMap_quiet (fun _ => rfl) ports) (filterMap_quiet (fun _ => rfl) ports)
        (filterMap_quiet (fun _ => rfl) ports)
      simpa using acc.wait room busy sent
    · apply inv_append (s := [⟨frame, byteLength, arrivalGate, w.received⟩]) (d := []) (p := [])
        (filterMap_after_quiet (fun _ => rfl) ports _)
        (filterMap_after_quiet (fun _ => rfl) ports _)
        (filterMap_after_quiet (fun _ => rfl) ports _)
      simpa using acc.start room free sent (time + w.unit.processingTime)
  | endProcessing time cpu =>
    obtain ⟨⟨acts, u'⟩, handled, rfl⟩ := map_eq_ok done
    obtain ⟨e, frame, r, x, queue, here, context, -, paired, waiting, idle, rfl, rfl⟩ :=
      MACRelayUnitNP.processFrame_cases handled
    apply inv_append (s := x.context.toList) (d := []) (p := [frame])
    · rw [filterMap_after_quiet fun _ => rfl]
      cases x.context <;> rfl
    · rw [filterMap_after_quiet fun _ => rfl]
      cases x.context <;> rfl
    · rw [filterMap_after_quiet fun _ => rfl]
      cases x.context <;> rfl
    · simpa using inv.goOn here context paired waiting idle r.2 (w.unit.numProcessedFrames + 1)

theorem inv_start {base : MACRelayUnitBase} {processingTime : Nat}
    {bufferSize highWatermark pauseUnits : Int} (room : 0 < bufferSize) :
    Inv numCPUs {
      unit := .start base numCPUs processingTime bufferSize highWatermark pauseUnits } := by
  have none : (List.replicate numCPUs ({} : EndProcEvent)).filterMap (·.context) = [] := by simp
  refine ⟨?_, room, length_replicate, fun e member => ?_, fun waiting => absurd rfl waiting, .nil,
    ?_, ?_, ?_⟩
  · rw [MACRelayUnitNP.held, MACRelayUnitNP.inProcessing]
    simp [MACRelayUnitNP.start]
  · rw [eq_of_mem_replicate member]
    rfl
  · simp [started, MACRelayUnitNP.start]
  · simp [Tallied, processed, dropped, MACRelayUnitNP.held, MACRelayUnitNP.inProcessing,
      MACRelayUnitNP.start]
  · simp [dropped]

end NPRun

theorem frames_accounted (base : MACRelayUnitBase) (numCPUs processingTime : Nat)
    (bufferSize highWatermark pauseUnits : Int) (room : 0 < bufferSize) (es : List NPEvent) :
    Always NPRun.Next (NPRun.Correct numCPUs)
      { unit := .start base numCPUs processingTime bufferSize highWatermark pauseUnits } es := by
  apply always_of_invariant (I := NPRun.Inv numCPUs)
  · exact fun w e w' inv next => inv.step next
  · exact fun w inv => inv.correct
  · exact NPRun.inv_start room

theorem frames_accounted_two :
    Always NPRun.Next (NPRun.Correct 1) { unit := .start (.configure 3 0 60 []) 1 5 1500 0 0 }
      [.incomingFrame 1 ⟨hostAddress 1, hostAddress 2⟩ 64 0,
        .incomingFrame 2 ⟨hostAddress 2, hostAddress 1⟩ 64 1,
        .endProcessing 6 0, .endProcessing 11 0] := by
  apply frames_accounted
  decide

end Srwsn
