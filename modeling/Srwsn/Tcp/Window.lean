import Srwsn.Tcp.ReceiveQueue

/-! The receive window that a TCP connection advertises, from the SYN of the peer on. -/
namespace Srwsn

open List

structure TCPParameters where
  delayedAcksEnabled : Bool
  nagleEnabled : Bool
  limitedTransmitEnabled : Bool
  increasedIWEnabled : Bool
  advertisedWindow : UInt32
  mss : UInt32
  sackSupport : Bool
  reno : Bool
deriving DecidableEq

structure TCPSettings where
  delayedAcksEnabled : Bool := false
  nagleEnabled : Bool := false
  limitedTransmitEnabled : Bool := false
  increasedIWEnabled : Bool := false
  rcvWnd : UInt32 := 0
  rcvAdv : UInt32 := 0
  maxRcvBuffer : UInt32 := 0
  sndMss : UInt32 := 0
  sackSupport : Bool := false
deriving DecidableEq

structure TCPStateVariables extends TCPSettings where
  active : Bool := false
  fork : Bool := false
  rcvNxt : UInt32 := 0
  irs : UInt32 := 0
  finRcvd : Bool := false
  rcvFinSeq : UInt32 := 0
  usedRcvBuffer : UInt32 := 0
  freeRcvBuffer : UInt32 := 0
deriving DecidableEq

/-- The window is also the first value of `rcv_adv`, which is a sequence number. -/
def TCPParameters.settings (par : TCPParameters) : TCPSettings where
  delayedAcksEnabled := par.delayedAcksEnabled
  nagleEnabled := par.nagleEnabled
  limitedTransmitEnabled := par.limitedTransmitEnabled
  increasedIWEnabled := par.increasedIWEnabled
  rcvWnd := par.advertisedWindow
  rcvAdv := par.advertisedWindow
  maxRcvBuffer := par.advertisedWindow
  sndMss := par.mss
  sackSupport := par.sackSupport

def configureStateVariables (par : TCPParameters) (state : TCPStateVariables) :
    Except TcpFault TCPStateVariables :=
  if par.sackSupport && !par.reno then .error .assertion
    else .ok { state with toTCPSettings := par.settings }

def TCP_MAX_WIN : UInt32 := 65535

def TCPStateVariables.nextWindow (v : TCPStateVariables) : UInt32 :=
  let win := v.freeRcvBuffer
  -- don't advertise less than one full-sized segment
  let win := if win < v.maxRcvBuffer / 4 && win < v.sndMss then 0 else win
  -- do not shrink the window
  let win := if win < v.rcvAdv - v.rcvNxt then v.rcvAdv - v.rcvNxt else win
  if TCP_MAX_WIN < win then TCP_MAX_WIN else win

/-- The right edge and the window, the free part of the buffer, and the part of the window
advertised before that was not used yet. -/
structure Advertisement where
  edge : UInt32
  window : UInt32
  free : UInt32
  unused : UInt32
deriving DecidableEq

/- `setUp`: the SYN of the peer has arrived; `log` is what was advertised since. -/
structure Window where
  par : TCPParameters
  state : TCPStateVariables
  receiveQueue : TCPVirtualDataRcvQueue
  setUp : Bool
  unused : UInt32
  log : List Advertisement
deriving DecidableEq

/- `takesText`: the connection is in a data transfer state; `before`, `between` and `after` are how
many segments are sent before the text is processed, after it and after the FIN. -/
structure DataArrival where
  sequenceNo : UInt32
  payloadLength : UInt32
  finBit : Bool
  takesText : Bool
  before : Nat
  between : Nat
  after : Nat

namespace Window

open Serial Outcome

def new (par : TCPParameters) (active fork : Bool) : Except TcpFault Window := do
  let state ← configureStateVariables par { active := active, fork := fork }
  return ⟨par, state, .init 0, false, state.rcvWnd, []⟩

variable (s : Window)

def updateRcvQueueVars : Window :=
  let free := s.receiveQueue.getAmountOfFreeBytes s.state.maxRcvBuffer
  { s with state := { s.state with
      freeRcvBuffer := free, usedRcvBuffer := s.state.maxRcvBuffer - free } }

def updateRcvWnd : Window :=
  let s := s.updateRcvQueueVars
  let win := s.state.nextWindow
  let rcvAdv := if 0 < win && seqGE (s.state.rcvNxt + win) s.state.rcvAdv then s.state.rcvNxt + win
    else s.state.rcvAdv
  { s with state := { s.state with rcvAdv := rcvAdv, rcvWnd := win } }

def advertise : Window :=
  let s := s.updateRcvWnd
  { s with
    unused := s.state.rcvWnd
    log := s.log ++ [⟨s.state.rcvNxt + s.state.rcvWnd, s.state.rcvWnd, s.state.freeRcvBuffer,
      s.unused⟩] }

/-- What was advertised is used up as `rcv_nxt` moves on. -/
def moveTo (rcvNxt : UInt32) : Window :=
  { s with
    state := { s.state with rcvNxt := rcvNxt }
    unused := if rcvNxt - s.state.rcvNxt ≤ s.unused then s.unused - (rcvNxt - s.state.rcvNxt)
      else 0 }

def receiveSyn (sequenceNo : UInt32) : Window :=
  { s with
    state := { s.state with rcvNxt := sequenceNo + 1, irs := sequenceNo }
    receiveQueue := { s.receiveQueue with rcvNxt := sequenceNo + 1 }
    setUp := true
    unused := s.state.rcvWnd
    log := [] }

def readMss : Option UInt32 → Window
  | none => s
  | some mss =>
    let sndMss := min s.state.sndMss mss
    { s with state := { s.state with sndMss := if sndMss = 0 then 536 else sndMss } }

def insertSynText (sequenceNo payloadLength : UInt32) : Bool × Window :=
  if payloadLength = 0 then (true, s)
  else
    let s := s.updateRcvQueueVars
    if payloadLength ≤ s.state.freeRcvBuffer then
      (true, { s with
        receiveQueue := s.receiveQueue.insertBytesFromSegment sequenceNo payloadLength })
    else (false, s)

/-- A connection that forks is configured once more. -/
def configured : Except TcpFault Window := do
  let state ← (if s.state.fork then configureStateVariables s.par s.state else .ok s.state)
  return { s with state := state }

/-- The SYN+ACK goes out before the text is looked at. -/
def synInListen (sequenceNo payloadLength : UInt32) (mss : Option UInt32) :
    Except TcpFault Window := do
  let s ← s.configured
  let s := ((s.receiveSyn sequenceNo).readMss mss).advertise
  return (s.insertSynText sequenceNo payloadLength).2

/-- With an ACK of our SYN the connection is established, and the options are read last. -/
def synInSynSent (sequenceNo payloadLength : UInt32) (mss : Option UInt32) (acked : Bool) :
    Window :=
  let s := s.receiveSyn sequenceNo
  if acked then
    let text := s.insertSynText sequenceNo payloadLength
    if text.1 then text.2.readMss mss else text.2
  else (s.advertise.insertSynText sequenceNo payloadLength).2

def receiver : Receiver :=
  ⟨s.state.irs, s.state.rcvNxt, s.state.maxRcvBuffer, s.receiveQueue, []⟩

def processText (a : DataArrival) : Except TcpFault (Bool × Window) :=
  if a.takesText && a.payloadLength != 0 then
    let s := s.updateRcvQueueVars
    if a.payloadLength ≤ s.state.freeRcvBuffer then do
      let r ← s.receiver.processText ⟨a.sequenceNo, a.payloadLength, s.state.rcvWnd⟩
      let finNext := r.rcvNxt != s.state.rcvNxt && s.state.finRcvd && r.rcvNxt == s.state.rcvFinSeq
      return (true, { s.moveTo (if finNext then s.state.rcvFinSeq + 1 else r.rcvNxt) with
        receiveQueue := r.receiveQueue })
    else .ok (false, s)
  else .ok (true, s)

def checkFin (a : DataArrival) : Window :=
  let finSeq := a.sequenceNo + a.payloadLength
  if a.finBit then
    if s.state.rcvNxt = finSeq then s.moveTo (s.state.rcvNxt + 1)
    else { s with state := { s.state with finRcvd := true, rcvFinSeq := finSeq } }
  else s

def accepts (a : DataArrival) : Bool :=
  isSegmentAcceptable s.state.rcvNxt s.state.rcvWnd a.sequenceNo a.payloadLength

def arrive (a : DataArrival) : Except TcpFault Window :=
  if s.accepts a then do
    let text ← (advertise^[a.before] s).processText a
    let s := advertise^[a.between] text.2
    return advertise^[a.after] (if text.1 then s.checkFin a else s)
  else .ok (advertise^[a.after] s)

inductive Event where
  | synInListen (sequenceNo payloadLength : UInt32) (mss : Option UInt32)
  | synInSynSent (sequenceNo payloadLength : UInt32) (mss : Option UInt32) (acked : Bool)
  | segment (a : DataArrival)
  | send

def step : Event → Except TcpFault Window
  | .synInListen sequenceNo payloadLength mss => s.synInListen sequenceNo payloadLength mss
  | .synInSynSent sequenceNo payloadLength mss acked =>
    .ok (s.synInSynSent sequenceNo payloadLength mss acked)
  -- before the SYN there is no data transfer state
  | .segment a => if s.setUp then s.arrive a else .error .assertion
  | .send => .ok s.advertise

def Moves (e : Event) (s' : Window) : Prop := s.step e = .ok s'

/-- The right edge never moves back, and no window is larger than what is free or was promised
before. -/
structure Sound (log : List Advertisement) : Prop where
  chain : log.IsChain fun a b => seqLE a.edge b.edge = true
  bounded : ∀ a ∈ log, a.window.toNat ≤ min (max a.free.toNat a.unused.toNat) 65535

def Reaches (rcvNxt : UInt32) : Prop :=
  ahead s.state.rcvNxt rcvNxt ≤ ahead s.state.rcvNxt s.state.rcvAdv

def Fits (sequenceNo : UInt32) : Prop :=
  ahead (sequenceNo + 1) s.state.rcvAdv ≤ min s.state.rcvWnd.toNat 65535

def Meets : Event → Prop
  | .synInListen sequenceNo _ _ => ∀ t, s.configured = .ok t → t.Fits sequenceNo
  | .synInSynSent sequenceNo _ _ _ => s.Fits sequenceNo
  | .segment a => s.accepts a → ∀ text, (advertise^[a.before] s).processText a = .ok text →
      (advertise^[a.before] s).Reaches text.2.state.rcvNxt ∧
        (text.1 → (advertise^[a.between] text.2).Reaches ((advertise^[a.between] text.2).checkFin
          a).state.rcvNxt)
  | .send => True

/-- After the SYN: the numbers that `updateRcvWnd` compares are what they are taken for. -/
structure Open (s : Window) : Prop where
  setUp : s.setUp = true
  promised : ahead s.state.rcvNxt s.state.rcvAdv ≤ s.unused.toNat
  small : ahead s.state.rcvNxt s.state.rcvAdv ≤ 65535
  last : ∀ a ∈ s.log.getLast?, a.edge = s.state.rcvAdv
  sound : Sound s.log

structure Opening (s : Window) : Prop where
  setUp : s.setUp = false
  rcvNxt : s.state.rcvNxt = 0
  regionList : s.receiveQueue.regionList = []
  rcvAdv : s.state.rcvAdv.toNat ≤ s.state.maxRcvBuffer.toNat
  last : ∀ a ∈ s.log.getLast?, a.edge.toNat = min s.state.maxRcvBuffer.toNat 65535
  sound : Sound s.log

section Advertise

variable {s : Window}

theorem nextWindow_bounds (v : TCPStateVariables) :
    min (ahead v.rcvNxt v.rcvAdv) 65535 ≤ v.nextWindow.toNat ∧ v.nextWindow.toNat ≤ 65535 ∧
      v.nextWindow.toNat ≤ max v.freeRcvBuffer.toNat (ahead v.rcvNxt v.rcvAdv) := by
  have limit : TCP_MAX_WIN.toNat = 65535 := rfl
  have zero : (0 : UInt32).toNat = 0 := rfl
  unfold TCPStateVariables.nextWindow ahead
  simp only [UInt32.lt_iff_toNat_lt, limit, Bool.and_eq_true, decide_eq_true_eq]
  split_ifs <;> omega

theorem Sound.append {log : List Advertisement} (sound : Sound log) {a : Advertisement}
    (onward : ∀ b ∈ log.getLast?, seqLE b.edge a.edge = true)
    (bounded : a.window.toNat ≤ min (max a.free.toNat a.unused.toNat) 65535) :
    Sound (log ++ [a]) := by
  refine ⟨?_, ?_⟩
  · rw [isChain_append]
    refine ⟨sound.chain, isChain_singleton a, ?_⟩
    intro b hb c hc
    cases hc
    exact onward b hb
  · intro b hb
    obtain hb | hb := mem_append.mp hb
    · exact sound.bounded b hb
    · cases mem_singleton.mp hb
      exact bounded

theorem ahead_window (s : Window) (win : UInt32) : ahead s.state.rcvNxt (s.state.rcvNxt + win) =
    win.toNat := by
  have start : ahead s.state.rcvNxt s.state.rcvNxt = 0 := ahead_self
  have turn :=
    @ahead_add s.state.rcvNxt s.state.rcvNxt win (by rw [start, zero_add]; exact win.toNat_lt)
  rwa [start, zero_add] at turn

theorem Open.advertised (h : s.Open) :
    s.updateRcvWnd.state.rcvAdv = s.state.rcvNxt + s.updateRcvQueueVars.state.nextWindow := by
  obtain ⟨low, high, -⟩ := nextWindow_bounds s.updateRcvQueueVars.state
  change min (ahead s.state.rcvNxt s.state.rcvAdv) 65535 ≤ _ at low
  have small := h.small
  change (if _ then _ else _) = _
  split_ifs with moved
  · rfl
  · -- the comparison fails for an empty window only
    have width := s.ahead_window s.updateRcvQueueVars.state.nextWindow
    have reached : seqGE (s.state.rcvNxt + s.updateRcvQueueVars.state.nextWindow) s.state.rcvAdv =
        true := by
      apply (@seqGE_iff s.state.rcvNxt _ _ (by omega) (by omega)).mpr
      omega
    have empty : s.updateRcvQueueVars.state.nextWindow.toNat = 0 := by
      by_contra positive
      apply moved
      rw [Bool.and_eq_true, decide_eq_true_eq, UInt32.lt_iff_toNat_lt]
      exact ⟨Nat.pos_of_ne_zero positive, reached⟩
    apply (@ahead_inj s.state.rcvNxt _ _).mp
    change ahead s.state.rcvNxt s.state.rcvAdv = _
    omega

theorem Open.advertise (h : s.Open) : s.advertise.Open := by
  obtain ⟨low, high, bound⟩ := nextWindow_bounds s.updateRcvQueueVars.state
  change min (ahead s.state.rcvNxt s.state.rcvAdv) 65535 ≤ _ at low
  change _ ≤ max _ (ahead s.state.rcvNxt s.state.rcvAdv) at bound
  have width := s.ahead_window s.updateRcvQueueVars.state.nextWindow
  have small := h.small
  have promised := h.promised
  refine ⟨h.setUp, ?_, ?_, ?_, h.sound.append ?_ ?_⟩
  · change ahead s.state.rcvNxt s.updateRcvWnd.state.rcvAdv ≤ _
    rw [h.advertised, width]
    exact le_rfl
  · change ahead s.state.rcvNxt s.updateRcvWnd.state.rcvAdv ≤ _
    rw [h.advertised, width]
    exact high
  · intro a ha
    change a ∈ (s.log ++ [_]).getLast? at ha
    rw [getLast?_concat] at ha
    cases ha
    exact h.advertised.symm
  · intro b hb
    rw [h.last b hb]
    apply (@seqLE_iff s.state.rcvNxt _ _ (by omega) ?_).mpr
    · change _ ≤ ahead s.state.rcvNxt (s.state.rcvNxt + s.updateRcvQueueVars.state.nextWindow)
      omega
    · change ahead s.state.rcvNxt (s.state.rcvNxt + s.updateRcvQueueVars.state.nextWindow) < _
      omega
  · change s.updateRcvQueueVars.state.nextWindow.toNat ≤
      min (max s.updateRcvQueueVars.state.freeRcvBuffer.toNat s.unused.toNat) 65535
    omega

theorem nextWindow_whole (v : TCPStateVariables) (free : v.freeRcvBuffer = v.maxRcvBuffer)
    (fits : ahead v.rcvNxt v.rcvAdv ≤ v.maxRcvBuffer.toNat) :
    v.nextWindow.toNat = min v.maxRcvBuffer.toNat 65535 := by
  have limit : TCP_MAX_WIN.toNat = 65535 := rfl
  have quarter : (v.maxRcvBuffer / 4).toNat = v.maxRcvBuffer.toNat / 4 := UInt32.toNat_div _ _
  unfold ahead at fits
  unfold TCPStateVariables.nextWindow
  simp only [free, UInt32.lt_iff_toNat_lt, limit, quarter, Bool.and_eq_true, decide_eq_true_eq]
  split_ifs <;> omega

theorem Opening.nextWindow (h : s.Opening) :
    s.updateRcvQueueVars.state.nextWindow.toNat = min s.state.maxRcvBuffer.toNat 65535 ∧
      s.updateRcvQueueVars.state.freeRcvBuffer = s.state.maxRcvBuffer := by
  have free : s.updateRcvQueueVars.state.freeRcvBuffer = s.state.maxRcvBuffer := by
    change s.receiveQueue.getAmountOfFreeBytes s.state.maxRcvBuffer = _
    simp [TCPVirtualDataRcvQueue.getAmountOfFreeBytes,
      TCPVirtualDataRcvQueue.getAmountOfBufferedBytes, h.regionList]
  refine ⟨nextWindow_whole _ free ?_, free⟩
  change ahead s.state.rcvNxt s.state.rcvAdv ≤ s.state.maxRcvBuffer.toNat
  rw [h.rcvNxt, ahead, sub_zero]
  exact h.rcvAdv

theorem Opening.advertise (h : s.Opening) : s.advertise.Opening := by
  obtain ⟨width, free⟩ := h.nextWindow
  have edge : (s.state.rcvNxt + s.updateRcvQueueVars.state.nextWindow).toNat =
      min s.state.maxRcvBuffer.toNat 65535 := by
    rw [h.rcvNxt, zero_add, width]
  refine ⟨h.setUp, h.rcvNxt, h.regionList, ?_, ?_, h.sound.append ?_ ?_⟩
  · change (if _ then s.state.rcvNxt + s.updateRcvQueueVars.state.nextWindow
      else s.state.rcvAdv).toNat ≤ _
    split_ifs
    · rw [edge]
      exact Nat.min_le_left _ _
    · exact h.rcvAdv
  · intro a ha
    change a ∈ (s.log ++ [_]).getLast? at ha
    rw [getLast?_concat] at ha
    cases ha
    exact edge
  · intro b hb
    have same : b.edge = s.state.rcvNxt + s.updateRcvQueueVars.state.nextWindow :=
      UInt32.toNat_inj.mp ((h.last b hb).trans edge.symm)
    rw [same, seqLE_eq]
    change decide (ahead _ (s.state.rcvNxt + s.updateRcvQueueVars.state.nextWindow) < 2 ^ 31) = true
    rw [ahead_self]
    rfl
  · change s.updateRcvQueueVars.state.nextWindow.toNat ≤
      min (max s.updateRcvQueueVars.state.freeRcvBuffer.toNat s.unused.toNat) 65535
    rw [width, free]
    omega

end Advertise

section Steps

variable {s t : Window} {a : DataArrival} {sequenceNo payloadLength : UInt32}

theorem Open.of_same (h : s.Open) (setUp : t.setUp = s.setUp)
    (rcvNxt : t.state.rcvNxt = s.state.rcvNxt) (rcvAdv : t.state.rcvAdv = s.state.rcvAdv)
    (unused : t.unused = s.unused) (log : t.log = s.log) :
    t.Open := by
  refine ⟨setUp.trans h.setUp, ?_, ?_, ?_, log ▸ h.sound⟩
  · rw [rcvNxt, rcvAdv, unused]
    exact h.promised
  · rw [rcvNxt, rcvAdv]
    exact h.small
  · rw [log, rcvAdv]
    exact h.last

theorem Open.moveTo (h : s.Open) {rcvNxt : UInt32} (reaches : s.Reaches rcvNxt) :
    (s.moveTo rcvNxt).Open := by
  have rest : ahead rcvNxt s.state.rcvAdv =
      ahead s.state.rcvNxt s.state.rcvAdv - ahead s.state.rcvNxt rcvNxt :=
    ahead_of_le reaches
  have promised := h.promised
  have small := h.small
  have used : rcvNxt - s.state.rcvNxt ≤ s.unused :=
    UInt32.le_iff_toNat_le.mpr (reaches.trans promised)
  refine ⟨h.setUp, ?_, ?_, h.last, h.sound⟩
  · change ahead rcvNxt s.state.rcvAdv ≤ (if _ then _ else _ : UInt32).toNat
    rw [if_pos used, UInt32.toNat_sub_of_le _ _ used]
    change _ ≤ s.unused.toNat - ahead s.state.rcvNxt rcvNxt
    omega
  · change ahead rcvNxt s.state.rcvAdv ≤ 65535
    omega

theorem receiveSyn_open (fits : s.Fits sequenceNo) : (s.receiveSyn sequenceNo).Open := by
  refine ⟨rfl, fits.trans (Nat.min_le_left _ _), fits.trans (Nat.min_le_right _ _), ?_, ?_, ?_⟩
  · exact fun _ none => absurd none (Option.not_mem_none _)
  · exact isChain_nil
  · exact fun _ none => absurd none not_mem_nil

theorem Open.readMss (h : s.Open) (mss : Option UInt32) : (s.readMss mss).Open := by
  cases mss with
  | none => exact h
  | some mss => exact h.of_same rfl rfl rfl rfl rfl

theorem Open.insertSynText (h : s.Open) : (s.insertSynText sequenceNo payloadLength).2.Open := by
  unfold Window.insertSynText
  dsimp only
  split_ifs
  · exact h
  · exact h.of_same rfl rfl rfl rfl rfl
  · exact h.of_same rfl rfl rfl rfl rfl

theorem Open.sends (h : s.Open) (n : Nat) : (Window.advertise^[n] s).Open := by
  induction n generalizing s with
  | zero => exact h
  | succ n ih => exact ih h.advertise

theorem Open.processText {text : Bool × Window} (h : s.Open) (done : s.processText a = .ok text)
    (reaches : s.Reaches text.2.state.rcvNxt) : text.2.Open := by
  have counted : s.updateRcvQueueVars.Open := h.of_same rfl rfl rfl rfl rfl
  unfold Window.processText at done
  dsimp only at done
  split at done
  · split at done
    · cases processed : s.updateRcvQueueVars.receiver.processText
        ⟨a.sequenceNo, a.payloadLength, s.updateRcvQueueVars.state.rcvWnd⟩ with
      | error fault =>
        rw [processed] at done
        cases done
      | ok r =>
        rw [processed] at done
        cases done
        exact (counted.moveTo reaches).of_same rfl rfl rfl rfl rfl
    · cases done
      exact counted
  · cases done
    exact h

theorem Open.checkFin (h : s.Open) (reaches : s.Reaches (s.checkFin a).state.rcvNxt) :
    (s.checkFin a).Open := by
  unfold Window.checkFin at reaches ⊢
  dsimp only at reaches ⊢
  split_ifs at reaches ⊢
  · exact h.moveTo reaches
  · exact h.of_same rfl rfl rfl rfl rfl
  · exact h

theorem Open.arrive (h : s.Open) (meets : s.Meets (.segment a)) : Yields (s.arrive a) Open := by
  apply yields_ite
  · intro accepted
    refine .bind (P := fun text => (Window.advertise^[a.before] s).processText a = .ok text)
      (fun _ done => done) fun text done => ?_
    obtain ⟨reaches, reaches'⟩ := meets accepted text done
    have processed := ((h.sends a.before).processText done reaches).sends a.between
    refine .ok ?_
    split_ifs with more
    · exact (processed.checkFin (reaches' more)).sends a.after
    · exact processed.sends a.after
  · intro _
    exact .ok (h.sends a.after)

theorem synInListen_open {mss : Option UInt32}
    (fits : ∀ t, s.configured = .ok t → t.Fits sequenceNo) :
    Yields (s.synInListen sequenceNo payloadLength mss) Open := by
  refine .bind fits fun t fits => ?_
  exact .ok ((receiveSyn_open fits).readMss mss).advertise.insertSynText

theorem synInSynSent_open {mss : Option UInt32} (fits : s.Fits sequenceNo) (acked : Bool) :
    (s.synInSynSent sequenceNo payloadLength mss acked).Open := by
  have opened := receiveSyn_open fits
  unfold synInSynSent
  dsimp only
  split_ifs
  · exact opened.insertSynText.readMss mss
  · exact opened.insertSynText
  · exact opened.advertise.insertSynText

theorem step_kept {e : Event} (h : s.Open ∨ s.Opening) (meets : s.Meets e) (moves : s.Moves e t) :
    t.Open ∨ t.Opening := by
  cases e with
  | synInListen sequenceNo payloadLength mss => exact .inl (synInListen_open meets t moves)
  | synInSynSent sequenceNo payloadLength mss acked =>
    cases moves
    exact .inl (synInSynSent_open meets acked)
  | segment a =>
    change (if s.setUp then s.arrive a else .error .assertion) = .ok t at moves
    split_ifs at moves with setUp
    obtain opened | opening := h
    · exact .inl (opened.arrive meets t moves)
    · rw [opening.setUp] at setUp
      cases setUp
  | send =>
    cases moves
    exact h.imp Open.advertise Opening.advertise

variable {par : TCPParameters} {active fork : Bool} (start : new par active fork = .ok s)

include start

theorem new_opening : s.Opening := by
  unfold new configureStateVariables at start
  split_ifs at start
  · cases start
  · cases start
    refine ⟨rfl, rfl, rfl, le_rfl, ?_, ?_, ?_⟩
    · exact fun _ none => absurd none (Option.not_mem_none _)
    · exact isChain_nil
    · exact fun _ none => absurd none not_mem_nil

/-- Where no SYN makes `rcv_adv` look far ahead and no segment takes `rcv_nxt` past it. -/
theorem window_sound
    {es : List Event} (meets : Trace.Each Moves Meets s es) :
    Trace.Always Moves (fun s => Sound s.log) s es := by
  apply Trace.always_of_each (I := fun s => s.Open ∨ s.Opening) ?_ ?_ (.inr (new_opening start))
    meets
  · exact fun s e t h meets moves => step_kept h meets moves
  · exact fun s h => h.elim Open.sound Opening.sound

end Steps

def defaults : TCPParameters := ⟨true, true, true, true, 7504, 536, false, true⟩

def server : Window :=
  ⟨defaults, { toTCPSettings := defaults.settings, fork := true }, .init 0, false, 7504, []⟩

def text (sequenceNo payloadLength : UInt32) (finBit : Bool) : DataArrival :=
  ⟨sequenceNo, payloadLength, finBit, true, 0, 0, 1⟩

theorem server_sound :
    Trace.Always Moves (fun s => Sound s.log) server [.synInListen 0 0 none,
      .segment (text 1 1000 false)] := by
  have start : new defaults false true = .ok server := rfl
  apply window_sound start
  refine .cons (fun _ => Except.ok.inj) ?_ ?_
  · intro t done
    cases done
    exact Nat.le_of_ble_eq_true rfl
  refine .cons (fun _ => Except.ok.inj) ?_ trivial
  intro _ processed done
  cases done
  exact ⟨Nat.le_of_ble_eq_true rfl, fun _ => Nat.le_of_ble_eq_true rfl⟩

/-- A SYN with the number 250000 is answered with a window of 65535, and so is text that fills the
window, with a FIN. -/
theorem server_not_sound :
    ¬ Trace.Always Moves (fun s => Sound s.log) server [.synInListen 250000 0 none] ∧
      ¬ Trace.Always Moves (fun s => Sound s.log) server [.synInListen 0 0 none,
        .segment (text 1 7504 true)] := by
  have agrees : ∀ s e t, (step s e).toOption = some t → Moves s e t :=
    fun _ _ _ => eq_ok_of_toOption
  refine ⟨fun always => ?_, fun always => ?_⟩
  · have ended := (always.last agrees rfl).bounded
    exact absurd (ended ⟨315536, 65535, 7504, 7504⟩ (by decide)) (by decide)
  · have ended := (always.last agrees rfl).bounded
    exact absurd (ended ⟨73041, 65535, 7504, 0⟩ (by decide)) (by decide)

end Window

end Srwsn
