import Srwsn.Ether.EtherMAC

/-! Every transmit state has its own timer, and a frame in the queue has an event that will serve
it. -/
namespace Srwsn

open Trace Outcome Function

def TransmitState.timer : TransmitState → Option SelfMsg
  | txIdle => none
  | waitIFG => some .endIFG
  | transmitting => some .endTransmission
  | jamming => some .endJamming
  | backoff => some .endBackoff
  | pause => some .endPause

def SelfMsg.OfTransmitter (msg : SelfMsg) : Prop := msg ≠ .endReception ∧ msg ≠ .endAutoconfig

theorem TransmitState.ofTransmitter {state : TransmitState} {msg : SelfMsg}
    (own : state.timer = some msg) : msg.OfTransmitter := by
  cases state <;> cases own <;> constructor <;> intro same <;> cases same

open TransmitState (timer ofTransmitter)

namespace EtherMAC

def Tidy (mac : EtherMAC) : Prop :=
  ∀ msg : SelfMsg, msg.OfTransmitter →
    ((mac.scheduled msg).isSome ↔ mac.transmitState.timer = some msg)

structure Served (mac : EtherMAC) : Prop where
  tidy : mac.Tidy
  reception : (mac.scheduled .endReception).isSome ↔ mac.receiveState ≠ .rxIdle
  idle : mac.transmitState = .txIdle → mac.txQueue ≠ [] → mac.receiveState ≠ .rxIdle

structure Inv (mac : EtherMAC) : Prop extends Served mac where
  configured : mac.autoconfigInProgress = false

structure Clear (mac : EtherMAC) : Prop where
  quiet : ∀ msg : SelfMsg, msg.OfTransmitter → mac.scheduled msg = none
  reception : (mac.scheduled .endReception).isSome ↔ mac.receiveState ≠ .rxIdle
  configured : mac.autoconfigInProgress = false

variable {mac mac' : EtherMAC} {msg : SelfMsg} {time now : Nat}

theorem Tidy.unscheduled (tidy : mac.Tidy) (transmit : msg.OfTransmitter)
    (other : mac.transmitState.timer ≠ some msg) : mac.scheduled msg = none := by
  by_contra running
  exact other ((tidy msg transmit).mp (Option.isSome_iff_ne_none.mpr running))

theorem Tidy.congr (tidy : mac.Tidy) (timers : ∀ m, m ≠ .endReception → mac'.scheduled m =
    mac.scheduled m) (state : mac'.transmitState = mac.transmitState) : mac'.Tidy := by
  intro m transmit
  rw [timers m transmit.1, state]
  exact tidy m transmit

theorem Tidy.quiet_idle (tidy : mac.Tidy) (idle : mac.transmitState = .txIdle) :
    ∀ m : SelfMsg, m.OfTransmitter → mac.scheduled m = none := by
  intro m transmit
  apply tidy.unscheduled transmit
  rw [idle]
  simp [timer]

theorem Inv.clear_idle (inv : mac.Inv) (idle : mac.transmitState = .txIdle) : mac.Clear :=
  ⟨inv.tidy.quiet_idle idle, inv.reception, inv.configured⟩

theorem Inv.clear (inv : mac.Inv) (own : mac.transmitState.timer = some msg) :
    (mac.cancelEvent msg).Clear := by
  refine ⟨fun m transmit => ?_, ?_, inv.configured⟩
  · by_cases same : m = msg
    · simp [cancelEvent, same]
    · simp only [cancelEvent, update_of_ne same]
      apply inv.tidy.unscheduled transmit
      rw [own]
      exact fun equal => same (Option.some.inj equal).symm
  · simp only [cancelEvent, update_of_ne (ofTransmitter own).1.symm]
    exact inv.reception

variable {m : EtherMAC}

theorem Clear.enter (clear : mac.Clear)
    (timers : m.scheduled = update mac.scheduled msg (some time))
    (own : m.transmitState.timer = some msg)
    (rx : m.receiveState = mac.receiveState)
    (configured : m.autoconfigInProgress = mac.autoconfigInProgress) : m.Inv := by
  refine ⟨⟨fun m transmit => ?_, ?_, fun idle => ?_⟩, configured.trans clear.configured⟩
  · rw [own, timers]
    by_cases same : m = msg
    · simp [same]
    · rw [update_of_ne same, clear.quiet m transmit]
      simp [Ne.symm same]
  · rw [timers, rx, update_of_ne (ofTransmitter own).1.symm]
    exact clear.reception
  · rw [idle] at own
    cases own

theorem Clear.rest (clear : mac.Clear) (timers : m.scheduled = mac.scheduled)
    (idle : m.transmitState = .txIdle) (rx : m.receiveState = mac.receiveState)
    (configured : m.autoconfigInProgress = mac.autoconfigInProgress)
    (served : m.txQueue ≠ [] → m.receiveState ≠ .rxIdle) : m.Inv := by
  refine ⟨⟨fun m transmit => ?_, ?_, fun _ => served⟩, configured.trans clear.configured⟩
  · rw [timers, clear.quiet m transmit, idle]
    simp [timer]
  · rw [timers, rx]
    exact clear.reception

theorem inv_beginSendFrames (done : mac.beginSendFrames now = .ok mac') (clear : mac.Clear) :
    mac'.Inv := by
  rcases beginSendFrames_cases done with ⟨time, rfl⟩ | ⟨empty, log, -, rfl⟩
  · exact clear.enter rfl rfl rfl rfl
  · exact clear.rest rfl rfl rfl rfl fun waiting => absurd empty waiting

theorem inv_startFrameTransmission (done : mac.startFrameTransmission now = .ok mac')
    (clear : mac.Clear) : mac'.Inv := by
  obtain ⟨frame, rest, copy, a, b, -, -, ⟨busy, time, f, rfl⟩ | ⟨time, rfl⟩⟩ :=
    startFrameTransmission_eq done
  · have jams : (mac.entered .endJamming time .jamming).Inv := clear.enter rfl rfl rfl rfl
    refine ⟨⟨jams.tidy, ?_, fun _ _ => ?_⟩, jams.configured⟩
    · simpa using jams.reception.mpr busy
    · simp
  · exact clear.enter rfl rfl rfl rfl

variable {frame : EtherMacFrame}

theorem Inv.processFrameFromUpperLayer (inv : mac.Inv)
    (done : mac.processFrameFromUpperLayer now frame = .ok mac') : mac'.Inv := by
  obtain ⟨m, queued, rest⟩ := processFrameFromUpperLayer_cases done
  obtain ⟨f, -, -, rfl⟩ := enqueue_eq queued
  rcases rest with ⟨idle, time, rfl⟩ | ⟨busy, rfl⟩
  · exact (inv.clear_idle idle).enter rfl rfl rfl rfl
  · exact ⟨⟨inv.tidy, inv.reception, fun ready _ idle => busy ⟨inv.configured, idle, ready⟩⟩,
      inv.configured⟩

def completed (mac : EtherMAC) (now : Nat) : MacEvent → Option EtherMacFrame
  | .selfMsg .endReception _ => if mac.receiveState = .receiving then mac.frameBeingReceived
      else none
  | .network _ (.frame _) => if mac.backToBack now then mac.frameBeingReceived else none
  | _ => none

/-- A PAUSE for no time that is received while the MAC pauses. -/
def EndlessPause (mac : EtherMAC) (now : Nat) (e : MacEvent) : Prop :=
  mac.transmitState = .pause ∧ ∃ frame ∈ mac.completed now e, ∃ pauseUnits ∈ frame.pauseTime,
    ¬ 0 < pauseUnits

/-- A frame is given up while another one waits and nothing is received. -/
def Stranding (mac : EtherMAC) : MacEvent → Prop
  | .selfMsg .endJamming _ => MAX_ATTEMPTS ≤ mac.backoffs ∧ 1 < mac.txQueue.length ∧
      mac.receiveState = .rxIdle
  | _ => False

theorem Tidy.completeReception (tidy : mac.Tidy) (done : mac.completeReception now = .ok mac')
    (ending : mac.transmitState = .pause → ∀ frame pauseUnits, mac.frameBeingReceived = some frame →
      frame.pauseTime = some pauseUnits → 0 < pauseUnits) :
    mac'.Tidy ∧ mac'.scheduled .endReception = mac.scheduled .endReception ∧
      mac'.autoconfigInProgress = mac.autoconfigInProgress := by
  obtain ⟨frame, received, ⟨-, log, -, rfl⟩ | ⟨pauseUnits, pauseTime, done⟩⟩ :=
    completeReception_cases done
  · exact ⟨tidy, rfl, rfl⟩
  · rcases processPauseCommand_cases done with
      ⟨-, -, rfl⟩ | ⟨pausing, short, -⟩ | ⟨state, -, time, rfl⟩ | ⟨-, -, rfl⟩
    · exact ⟨tidy, rfl, rfl⟩
    · exact absurd (ending pausing frame pauseUnits received pauseTime) short
    · refine ⟨fun m transmit => ?_, rfl, rfl⟩
      by_cases same : m = .endPause
      · rw [same]
        simp [timer]
      · have none : mac.scheduled m = none := by
          apply tidy.unscheduled transmit
          rcases state with idle | pausing
          · rw [show mac.transmitState = .txIdle from idle]
            simp [timer]
          · rw [show mac.transmitState = .pause from pausing]
            exact fun equal => same (Option.some.inj equal).symm
        simp [timer, same, Ne.symm same, none]
    · exact ⟨tidy, rfl, rfl⟩

theorem Tidy.startReception (tidy : mac.Tidy) (configured : mac.autoconfigInProgress = false)
    (done : mac.startReception now frame = .ok mac') : mac'.Inv := by
  obtain ⟨time, rfl⟩ := startReception_eq done
  exact ⟨⟨tidy.congr (fun m other => update_of_ne other ..) rfl, by simp, by simp⟩, configured⟩

variable (inv : mac.Inv)

include inv

theorem Inv.processOverlap (busy : mac.receiveState ≠ .rxIdle) {msg : NetworkMsg}
    (done : mac.processOverlap now msg = .ok mac') : mac'.Inv := by
  obtain ⟨s, n, b, rfl, rfl | ⟨time, rfl⟩⟩ := processOverlap_eq done
  · refine ⟨⟨inv.tidy, ?_, by simp⟩, inv.configured⟩
    simpa using inv.reception.mpr busy
  · exact ⟨⟨inv.tidy.congr (fun m other => update_of_ne other ..) rfl, by simp, by simp⟩,
      inv.configured⟩

theorem Inv.processCollision (transmitting : mac.transmitState = .transmitting) {msg : NetworkMsg}
    (done : mac.processCollision now msg = .ok mac') : mac'.Inv := by
  obtain ⟨n, jam, time, rfl⟩ := processCollision_eq done
  have clear := inv.clear (congrArg timer transmitting)
  have jams : ((mac.cancelEvent .endTransmission).entered .endJamming jam .jamming).Inv :=
    clear.enter rfl rfl rfl rfl
  exact ⟨⟨jams.tidy.congr (fun m other => update_of_ne other ..) rfl, by simp, by simp⟩,
    jams.configured⟩

theorem Inv.processMsgFromNetwork {sendingTime : Nat} {msg : NetworkMsg}
    (ending : ¬ mac.EndlessPause now (.network sendingTime msg))
    (done : mac.processMsgFromNetwork now sendingTime msg = .ok mac') : mac'.Inv := by
  rcases processMsgFromNetwork_cases done with
    ⟨busy, -, done⟩ | ⟨transmitting, done⟩ | ⟨frame, rfl,
      ⟨-, n, done⟩ | ⟨next, m, completed, started⟩⟩
  · exact inv.processOverlap busy done
  · exact inv.processCollision transmitting done
  · have tidy : Tidy { mac with numConcurrentTransmissions := n } := inv.tidy
    exact tidy.startReception inv.configured done
  · have tidy : (mac.cancelEvent .endReception).Tidy :=
      inv.tidy.congr (fun m other => update_of_ne other ..) rfl
    obtain ⟨tidy', -, configured⟩ :=
      tidy.completeReception completed fun pausing f u received pauseTime => by
      by_contra short
      exact ending ⟨pausing, f, (if_pos next).trans received, u, pauseTime, short⟩
    exact tidy'.startReception (configured.trans inv.configured) started

variable {slotNumber : Nat}

theorem Inv.handleEndRxPeriod (ending : ¬ mac.EndlessPause now (.selfMsg .endReception slotNumber))
    (done : (mac.cancelEvent .endReception).handleEndRxPeriod now = .ok mac') : mac'.Inv := by
  have tidy : (mac.cancelEvent .endReception).Tidy :=
    inv.tidy.congr (fun m other => update_of_ne other ..) rfl
  obtain ⟨m, received, rest⟩ := handleEndRxPeriod_cases done
  obtain ⟨tidy', timer, configured⟩ : m.Tidy ∧ m.scheduled .endReception = none ∧
      m.autoconfigInProgress = false := by
    rcases received with ⟨receiving, completed⟩ | ⟨-, rfl⟩
    · obtain ⟨tidy', timer, configured⟩ :=
        tidy.completeReception completed fun pausing f u received pauseTime => by
        by_contra short
        exact ending ⟨pausing, f, (if_pos receiving).trans received, u, pauseTime, short⟩
      exact ⟨tidy', timer.trans (by simp [cancelEvent]), configured.trans inv.configured⟩
    · exact ⟨tidy, by simp [cancelEvent], inv.configured⟩
  rcases rest with ⟨idle, -, time, rfl⟩ | ⟨free, rfl⟩
  · have clear : Clear { m with receiveState := .rxIdle, numConcurrentTransmissions := 0 } :=
      ⟨tidy'.quiet_idle idle, by simp [timer], configured⟩
    exact clear.enter rfl rfl rfl rfl
  · exact ⟨⟨tidy', by simp [timer], fun idle waiting => absurd ⟨idle, waiting⟩ free⟩, configured⟩

theorem Inv.handleEndIFGPeriod (done : (mac.cancelEvent .endIFG).handleEndIFGPeriod now =
    .ok mac') : mac'.Inv := by
  obtain ⟨state, frame, f, rest, a, b, -, -, -, done⟩ := handleEndIFGPeriod_eq done
  have clear := inv.clear (congrArg timer state)
  exact inv_startFrameTransmission done ⟨clear.quiet, clear.reception, clear.configured⟩

theorem Inv.handleEndTxPeriod
    (done : (mac.cancelEvent .endTransmission).handleEndTxPeriod now = .ok mac') : mac'.Inv := by
  obtain ⟨state, frame, rest, -, done⟩ := handleEndTxPeriod_eq done
  have clear := inv.clear (congrArg timer state)
  rcases afterTransmission_cases done with ⟨time, rfl⟩ | done | done
  · exact clear.enter rfl rfl rfl rfl
  · exact inv_startFrameTransmission done ⟨clear.quiet, clear.reception, clear.configured⟩
  · exact inv_beginSendFrames done ⟨clear.quiet, clear.reception, clear.configured⟩

theorem Inv.handleEndBackoffPeriod
    (done : (mac.cancelEvent .endBackoff).handleEndBackoffPeriod now = .ok mac') : mac'.Inv := by
  obtain ⟨state, ⟨time, rfl⟩ | ⟨busy, rfl⟩⟩ := handleEndBackoffPeriod_cases done
  · exact (inv.clear (congrArg timer state)).enter rfl rfl rfl rfl
  · exact (inv.clear (congrArg timer state)).rest rfl rfl rfl rfl fun _ => busy

theorem Inv.handleEndJammingPeriod (serving : ¬ mac.Stranding (.selfMsg .endJamming slotNumber))
    (done : (mac.cancelEvent .endJamming).handleEndJammingPeriod now slotNumber = .ok mac') :
    mac'.Inv := by
  obtain ⟨state, ⟨many, frame, rest, queue, rfl⟩ | ⟨-, time, rfl⟩⟩ :=
    handleEndJammingPeriod_cases done
  · refine (inv.clear (congrArg timer state)).rest rfl rfl rfl rfl fun waiting idle => ?_
    refine serving ⟨many, ?_, idle⟩
    rw [show mac.txQueue = frame :: rest from queue, List.length_cons]
    exact Nat.succ_lt_succ (List.length_pos_iff.mpr waiting)
  · exact (inv.clear (congrArg timer state)).enter rfl rfl rfl rfl

theorem Inv.handleEndPausePeriod (done : (mac.cancelEvent .endPause).handleEndPausePeriod now =
    .ok mac') : mac'.Inv := by
  obtain ⟨state, done⟩ := handleEndPausePeriod_eq done
  exact inv_beginSendFrames done (inv.clear (congrArg timer state))

variable {e : MacEvent}

theorem Inv.handleMessage (ending : ¬ mac.EndlessPause now e) (serving : ¬ mac.Stranding e)
    (done : mac.handleMessage now e = .ok mac') : mac'.Inv := by
  unfold EtherMAC.handleMessage at done
  rw [if_neg (by simp [inv.configured])] at done
  split_ifs at done
  cases e with
  | upper frame => exact inv.processFrameFromUpperLayer done
  | network sendingTime msg => exact inv.processMsgFromNetwork ending done
  | selfMsg msg slotNumber =>
    cases msg with
    | endIFG => exact inv.handleEndIFGPeriod done
    | endTransmission => exact inv.handleEndTxPeriod done
    | endReception => exact inv.handleEndRxPeriod ending done
    | endBackoff => exact inv.handleEndBackoffPeriod done
    | endJamming => exact inv.handleEndJammingPeriod serving done
    | endPause => exact inv.handleEndPausePeriod done
    | endAutoconfig => cases done

theorem not_tidy_of_endlessPause (endless : mac.EndlessPause now e)
    (done : mac.handleMessage now e = .ok mac') : ¬ mac'.Tidy := by
  obtain ⟨pausing, frame, completed, pauseUnits, pauseTime, short⟩ := endless
  have ends : ∀ {m : EtherMAC}, (mac.cancelEvent .endReception).completeReception now = .ok m →
      mac.frameBeingReceived = some frame → m.transmitState = .pause ∧
      m.scheduled .endPause = none := by
    intro m finished received
    obtain ⟨f, same, ⟨data, -⟩ | ⟨units, time, done⟩⟩ := completeReception_cases finished
    · rw [← Option.some.inj (received.symm.trans same), pauseTime] at data
      cases data
    · rw [← Option.some.inj (received.symm.trans same), pauseTime] at time
      cases time
      rcases processPauseCommand_cases done with
        ⟨idle, -, -⟩ | ⟨-, -, rfl⟩ | ⟨-, long, -⟩ | ⟨-, other, -⟩
      · exact absurd (pausing.symm.trans idle) (by decide)
      · exact ⟨pausing, by simp [cancelEvent]⟩
      · exact absurd long short
      · exact absurd pausing other
  have untidy : ∀ {m : EtherMAC}, m.transmitState = .pause → m.scheduled .endPause = none →
      ¬ m.Tidy := by
    intro m state none tidy
    have own : m.transmitState.timer = some .endPause := congrArg timer state
    have runs := (tidy .endPause (ofTransmitter own)).mpr own
    rw [none] at runs
    cases runs
  unfold EtherMAC.handleMessage at done
  rw [if_neg (by simp [inv.configured])] at done
  split_ifs at done
  cases e with
  | upper frame => cases completed
  | network sendingTime msg =>
    cases msg with
    | jam byteLength => cases completed
    | autoconfig txrate halfDuplex => cases completed
    | frame next =>
      obtain ⟨behind, received⟩ := Option.ite_none_right_eq_some.mp completed
      rcases processMsgFromNetwork_cases done with
        ⟨-, apart, -⟩ | ⟨transmitting, -⟩ | ⟨f, -, ⟨idle, -⟩ | ⟨-, m, finished, started⟩⟩
      · exact absurd behind (apart ⟨next, rfl⟩)
      · exact absurd (pausing.symm.trans transmitting) (by decide)
      · simp [backToBack, idle] at behind
      · obtain ⟨state, none⟩ := ends finished received
        obtain ⟨time, rfl⟩ := startReception_eq started
        exact untidy state none
  | selfMsg msg slotNumber =>
    cases msg with
    | endReception =>
      obtain ⟨receiving, received⟩ := Option.ite_none_right_eq_some.mp completed
      obtain ⟨m, ⟨-, finished⟩ | ⟨other, -⟩, rest⟩ := handleEndRxPeriod_cases done
      · obtain ⟨state, none⟩ := ends finished received
        rcases rest with ⟨idle, -⟩ | ⟨-, rfl⟩
        · exact absurd (state.symm.trans idle) (by decide)
        · exact untidy state none
      · exact absurd receiving other
    | _ => cases completed

theorem not_served_of_stranding (stranding : mac.Stranding e)
    (done : mac.handleMessage now e = .ok mac') : ¬ mac'.Served := by
  obtain ⟨slotNumber, rfl⟩ : ∃ slotNumber, e = .selfMsg .endJamming slotNumber := by
    unfold Stranding at stranding
    split at stranding
    · exact ⟨_, rfl⟩
    · cases stranding
  obtain ⟨many, waiting, idle⟩ := stranding
  unfold EtherMAC.handleMessage at done
  rw [if_neg (by simp [inv.configured])] at done
  split_ifs at done
  obtain ⟨-, ⟨-, frame, rest, queue, rfl⟩ | ⟨few, -⟩⟩ := handleEndJammingPeriod_cases done
  · intro served
    refine served.idle rfl ?_ idle
    rw [show mac.txQueue = frame :: rest from queue, List.length_cons] at waiting
    exact List.ne_nil_of_length_pos (Nat.succ_lt_succ_iff.mp waiting)
  · exact absurd many (Nat.not_le.mpr few)

end EtherMAC

namespace MacRun

instance (mac : EtherMAC) (now : Nat) (e : MacEvent) : Decidable (mac.EndlessPause now e) := by
  unfold EtherMAC.EndlessPause
  infer_instance

instance (mac : EtherMAC) (e : MacEvent) : Decidable (mac.Stranding e) := by
  unfold EtherMAC.Stranding
  split <;> infer_instance

def Orderly (w : MacRun) (e : Nat × MacEvent) : Prop :=
  ¬ w.mac.EndlessPause e.1 (w.numbered e.2) ∧ ¬ w.mac.Stranding (w.numbered e.2)
  deriving Decidable

end MacRun

/-- The states are in order all along just when neither of the two events happens. -/
theorem timers_in_order (base : EtherMAC) (es : List (Nat × MacEvent)) :
    Always MacRun.Next (fun w => w.mac.Served) { mac := base.reset } es ↔
      Each MacRun.Next MacRun.Orderly { mac := base.reset } es := by
  apply always_iff_each_kept (I := fun w => w.mac.Inv)
  · rintro w e w' inv ⟨ending, serving⟩ ⟨-, done⟩
    obtain ⟨mac, handled, rfl⟩ := map_eq_ok done
    exact inv.handleMessage ending serving handled
  · exact fun w inv => inv.toServed
  · rintro w e w' inv ⟨-, done⟩ served
    obtain ⟨mac, handled, rfl⟩ := map_eq_ok done
    exact ⟨fun endless => EtherMAC.not_tidy_of_endlessPause inv endless handled served.tidy,
      fun stranding => EtherMAC.not_served_of_stranding inv stranding handled served⟩
  · refine ⟨⟨fun m _ => by simp [EtherMAC.reset, timer], ?_, ?_⟩, rfl⟩ <;> simp [EtherMAC.reset]

theorem timers_in_order_four :
    Always MacRun.Next (fun w => w.mac.Served) { mac := (fastEthernet true).reset }
      [(0, .upper (dataFrame 64)), (0, .network 0 (.frame (pauseFrame 2))),
        (960000, .selfMsg .endIFG 0), (5760000, .selfMsg .endReception 0)] := by
  apply (timers_in_order _ _).mpr
  iterate 4 refine .cons (fun _ next => next.eq_after) (by decide +kernel) ?_
  trivial

def twoPauses : List (Nat × MacEvent) :=
  [(0, .network 0 (.frame (pauseFrame 2))), (5760000, .selfMsg .endReception 0),
    (6000000, .network 6000000 (.frame (pauseFrame 0))), (11760000, .selfMsg .endReception 0)]

/-- It leaves the MAC in a pause without end. -/
theorem timers_not_in_order : ¬ ∀ (base : EtherMAC) (es : List (Nat × MacEvent)),
    Always MacRun.Next (fun w => w.mac.Served) { mac := base.reset } es := by
  intro all
  have along := all (fastEthernet true) twoPauses
  have ends : (twoPauses.foldlM MacRun.step { mac := (fastEthernet true).reset }).map
      (fun w => (w.mac.transmitState, w.mac.scheduled .endPause)) =
      some (.pause, none) := by decide +kernel
  obtain ⟨w, ran, same⟩ := Option.map_eq_some_iff.mp ends
  obtain ⟨state, none⟩ := Prod.mk.inj same
  have own : w.mac.transmitState.timer = some .endPause := congrArg timer state
  have runs := ((along.last MacRun.next_of_step ran).tidy .endPause (ofTransmitter own)).mpr own
  rw [none] at runs
  cases runs

end Srwsn
