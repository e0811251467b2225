import Srwsn.Tcp.Module

/-! The maps of the TCP module: every connection is found under its current keys, and an ephemeral
port is marked as used once for each connection on it. -/
namespace Srwsn

open Outcome Index TCPConnection Function

namespace TCP

variable {s t : TCP} {i j : Nat} {c c' : TCPConnection} {localAddr remoteAddr : IPvXAddress}
  {localPort remotePort : Int} {a : SegmentArrival} {key : AppConnKey}

def onPort (port : Int) (c : TCPConnection) : Bool := c.localPort == port

structure Kept (s : TCP) : Prop where
  app : Exact appKey s.conns s.tcpAppConnMap
  sock : Exact sockPair s.conns s.tcpConnMap
  bounded : ∀ i c, s.conns i = some c → i < s.fresh
  fits : ∀ i c, s.conns i = some c → (Int16.ofInt c.localPort).toInt = c.localPort
  drawn : ∀ i c, s.conns i = some c → c.connId ∈ s.numbers
  ports : ∀ p : Int16, s.usedEphemeralPorts.count p =
    if isEphemeral p.toInt then tally (onPort p.toInt) s.conns s.fresh else 0

theorem Kept.next_free (h : s.Kept) : s.conns s.fresh = none := by
  cases held : s.conns s.fresh with
  | none => rfl
  | some c => exact absurd (h.bounded _ c held) (Nat.lt_irrefl _)

theorem start_kept (par : TCPParameters) : (start par).Kept where
  app := exact_empty
  sock := exact_empty
  bounded _ _ held := absurd held.symm (Option.some_ne_none _)
  fits _ _ held := absurd held.symm (Option.some_ne_none _)
  drawn _ _ held := absurd held.symm (Option.some_ne_none _)
  ports _ := (ite_self 0).symm

theorem Kept.rekey (h : s.Kept) (held : s.conns i = some c) (c' : TCPConnection)
    (port : c'.localPort = c.localPort) (appFree : ∀ n, s.tcpAppConnMap c'.appKey = some n → n = i)
    (sockFree : ∀ n, s.tcpConnMap c'.sockPair = some n → n = i) (drawn : c'.connId ∈ t.numbers)
    (number : s.numbers ⊆ t.numbers) (conns : t.conns = update s.conns i (some c'))
    (fresh : t.fresh = s.fresh)
    (app : t.tcpAppConnMap = update (update s.tcpAppConnMap c.appKey none) c'.appKey (some i))
    (sock : t.tcpConnMap = update (update s.tcpConnMap c.sockPair none) c'.sockPair (some i))
    (ports : t.usedEphemeralPorts = s.usedEphemeralPorts) : t.Kept := by
  have below := h.bounded i c held
  refine ⟨?_, ?_, ?_, ?_, ?_, fun p => ?_⟩
  · rw [conns, app]
    exact h.app.rekey held appFree
  · rw [conns, sock]
    exact h.sock.rekey held sockFree
  · rw [conns, fresh]
    exact all_update (fun _ _ => below) h.bounded
  · rw [conns]
    refine all_update ?_ h.fits
    rintro _ ⟨⟩
    rw [port]
    exact h.fits i c held
  · rw [conns]
    refine all_update ?_ fun n d held' => number (h.drawn n d held')
    rintro _ ⟨⟩
    exact drawn
  · have same : onPort p.toInt c' = onPort p.toInt c := by rw [onPort, onPort, port]
    rw [conns, fresh, ports, tally_replace below held same]
    exact h.ports p

theorem refiled {κ : Type*} [DecidableEq κ] {f : TCPConnection → κ} {index : κ → Option Nat}
    (exact : Exact f s.conns index) (held : s.conns i = some c) (same : f c' = f c) :
    index = update (update index (f c) none) (f c') (some i) := by
  rw [same, update_idem]
  exact (Function.update_eq_self_iff.mpr (exact.find held).symm).symm

theorem Kept.refile (h : s.Kept) (held : s.conns i = some c) (app : c'.appKey = c.appKey)
    (port : c'.localPort = c.localPort)
    (sockFree : ∀ n, s.tcpConnMap c'.sockPair = some n → n = i) :
    (s.refile i c c').Kept := by
  have number : c'.connId = c.connId := congrArg AppConnKey.connId app
  have drawn : c'.connId ∈ s.numbers := by
    rw [number]
    exact h.drawn i c held
  exact h.rekey held c' port (h.app.own held app) sockFree drawn (List.Subset.refl _) rfl rfl
    (refiled h.app held app) rfl rfl

theorem Kept.setConn (h : s.Kept) (held : s.conns i = some c) (app : c'.appKey = c.appKey)
    (sock : c'.sockPair = c.sockPair) (port : c'.localPort = c.localPort) :
    (s.setConn i c').Kept := by
  have same : s.refile i c c' = s.setConn i c' := by
    unfold TCP.refile
    rw [← refiled h.sock held sock]
    rfl
  rw [← same]
  exact h.refile held app port (h.sock.own held sock)

theorem onPort_iff (fits : (Int16.ofInt c.localPort).toInt = c.localPort) (p : Int16) :
    onPort p.toInt c = true ↔ Int16.ofInt c.localPort = p := by
  rw [onPort, beq_iff_eq]
  constructor
  · intro same
    rw [same]
    exact Int16.ofInt_toInt p
  · rintro rfl
    exact fits.symm

theorem count_erase_port (h : s.Kept) (held : s.conns i = some c) (p : Int16) :
    (s.usedEphemeralPorts.erase (.ofInt c.localPort)).count p =
      if isEphemeral p.toInt then tally (onPort p.toInt) (update s.conns i none) s.fresh
      else 0 := by
  have below := h.bounded i c held
  have gone := @tally_remove _ s.conns (onPort p.toInt) s.fresh i c below held
  have counted := h.ports p
  rw [List.count_erase, counted]
  by_cases here : Int16.ofInt c.localPort = p
  · have its := (onPort_iff (h.fits i c held) p).mpr here
    rw [its, Bool.toNat_true] at gone
    rw [if_pos (beq_iff_eq.mpr here)]
    split_ifs <;> omega
  · have off : onPort p.toInt c = false := by
      rw [Bool.eq_false_iff]
      exact fun its => here ((onPort_iff (h.fits i c held) p).mp its)
    rw [off, Bool.toNat_false] at gone
    rw [if_neg (fun same => here (beq_iff_eq.mp same))]
    split_ifs <;> omega

theorem Kept.removeConnection (h : s.Kept) (held : s.conns i = some c) :
    (s.removeConnection i c).Kept := by
  refine ⟨h.app.remove held, h.sock.remove held, ?_, ?_, ?_, count_erase_port h held⟩
  · exact all_erase h.bounded
  · exact all_erase h.fits
  · exact all_erase h.drawn

theorem Kept.insert (h : s.Kept) (absent : s.tcpAppConnMap c.appKey = none)
    (free : s.tcpConnMap c.sockPair = none) (fits : (Int16.ofInt c.localPort).toInt = c.localPort)
    (drawn : c.connId ∈ s.numbers) (conns : t.conns = update s.conns s.fresh (some c))
    (fresh : t.fresh = s.fresh + 1)
    (app : t.tcpAppConnMap = update s.tcpAppConnMap c.appKey (some s.fresh))
    (sock : t.tcpConnMap = update s.tcpConnMap c.sockPair (some s.fresh))
    (ports : t.usedEphemeralPorts =
      if isEphemeral c.localPort then .ofInt c.localPort :: s.usedEphemeralPorts
      else s.usedEphemeralPorts)
    (number : t.numbers = s.numbers) : t.Kept := by
  have new := h.next_free
  refine ⟨?_, ?_, ?_, ?_, ?_, fun p => ?_⟩
  · rw [conns, app]
    exact h.app.insert new absent
  · rw [conns, sock]
    exact h.sock.insert new free
  · rw [conns, fresh]
    exact all_update (fun _ _ => Nat.lt_succ_self _) fun n d held =>
      Nat.lt_succ_of_lt (h.bounded n d held)
  · rw [conns]
    refine all_update ?_ h.fits
    rintro _ ⟨⟩
    exact fits
  · rw [conns, number]
    refine all_update ?_ h.drawn
    rintro _ ⟨⟩
    exact drawn
  · rw [conns, fresh, ports, tally_insert new]
    have counted := h.ports p
    have its : onPort p.toInt c = true ↔ Int16.ofInt c.localPort = p := onPort_iff fits p
    by_cases here : Int16.ofInt c.localPort = p
    · rw [its.mpr here, Bool.toNat_true, ← here, fits]
      rw [← here, fits] at counted
      split_ifs at counted ⊢ with range
      · rw [List.count_cons_self]
        omega
      · exact counted
    · rw [Bool.eq_false_iff.mpr (fun same => here (its.mp same)), Bool.toNat_false, Nat.add_zero,
        ← counted]
      split_ifs
      · exact List.count_cons_of_ne here
      · rfl

theorem Kept.enter (h : s.Kept) (held : s.conns i = some c) (app : c'.appKey = c.appKey)
    (sock : c'.sockPair = c.sockPair) (port : c'.localPort = c.localPort) {fsm : TcpState} :
    (s.enter i c' fsm).Kept := by
  unfold TCP.enter
  split_ifs
  · have gone := h.removeConnection held
    rw [TCP.removeConnection, ← app, ← sock, ← port] at gone
    exact gone
  · exact h.setConn held app sock port

def clonedConn (s : TCP) (c : TCPConnection) : TCPConnection :=
  { c with
    rexmitQueue := some s.rexmitQueues.length, state :=
      { c.state with toTCPSettings := s.par.settings } }

def forkedConn (s : TCP) (c : TCPConnection) (a : SegmentArrival) : TCPConnection :=
  { (s.clonedConn c).withSockets a.destAddr a.srcAddr c.localPort a.srcPort.toNat with
    connId := a.number }

abbrev takenBy (c : TCPConnection) (a : SegmentArrival) : TCPConnection :=
  c.withSockets a.destAddr a.srcAddr c.localPort a.srcPort.toNat

abbrev forkedMap (s : TCP) (i : Nat) (c : TCPConnection) (a : SegmentArrival) :
    SockPair → Option Nat :=
  update (update s.tcpConnMap c.sockPair none) (s.forkedConn c a).sockPair (some i)

def afterFork (s : TCP) (i : Nat) (c : TCPConnection) (a : SegmentArrival) : TCP :=
  { s with
    conns := update (update s.conns i (some (s.forkedConn c a))) s.fresh (some c.newConn)
    fresh := s.fresh + 1
    tcpAppConnMap := update (update (update s.tcpAppConnMap c.appKey none)
      (s.forkedConn c a).appKey (some i)) c.newConn.appKey (some s.fresh)
    tcpConnMap := update (update (update s.tcpConnMap c.sockPair none)
      (s.forkedConn c a).sockPair (some i)) c.newConn.sockPair (some s.fresh)
    usedEphemeralPorts :=
      if isEphemeral c.localPort then .ofInt c.localPort :: s.usedEphemeralPorts
        else s.usedEphemeralPorts
    rexmitQueues := s.rexmitQueues ++ [i]
    numbers := a.number :: s.numbers }

theorem configured_spec (par : TCPParameters) (c : TCPConnection) :
    Yields (c.configured par) fun r => r =
    { c with state := { c.state with toTCPSettings := par.settings } } := by
  unfold configured configureStateVariables
  split_ifs
  · exact .error
  · exact .ok rfl

theorem updateSockPair_spec :
    Yields (s.updateSockPair i c localAddr remoteAddr localPort remotePort) fun r =>
    r = (c.withSockets localAddr remoteAddr c.localPort remotePort,
      s.refile i c (c.withSockets localAddr remoteAddr c.localPort remotePort)) ∧
      s.tcpConnMap c.sockPair = some i ∧ c.localPort = localPort := by
  unfold updateSockPair
  refine yields_ite (fun _ => .error) fun good => .ok ⟨rfl, ?_⟩
  simpa using good

theorem addSockPair_spec :
    Yields (s.addSockPair i c localAddr remoteAddr localPort remotePort) fun r =>
    r = (c.withSockets localAddr remoteAddr localPort remotePort,
      { s.setConn i (c.withSockets localAddr remoteAddr localPort remotePort) with
        tcpConnMap := update s.tcpConnMap (c.withSockets localAddr remoteAddr localPort
          remotePort).sockPair (some i)
        usedEphemeralPorts :=
          if isEphemeral localPort then .ofInt localPort :: s.usedEphemeralPorts
            else s.usedEphemeralPorts }) ∧
      s.tcpConnMap (c.withSockets localAddr remoteAddr localPort remotePort).sockPair = none := by
  unfold addSockPair
  refine yields_ite (fun _ => .error) fun free => .ok ⟨rfl, ?_⟩
  exact Option.not_isSome_iff_eq_none.mp free

theorem cloneListeningConnection_eq : s.cloneListeningConnection i c =
    if s.par.sackSupport && !s.par.reno then .error .assertion else .ok (s.clonedConn c,
      { (s.setConn i (s.clonedConn c)).setConn s.fresh c.newConn with
        rexmitQueues := s.rexmitQueues ++ [i], fresh := s.fresh + 1 }) := by
  unfold cloneListeningConnection configured configureStateVariables
  split_ifs <;> rfl

theorem takeSyn_eq (forks : c.state.fork = true) (other : i ≠ s.fresh) : s.takeSyn i c a =
    if s.par.sackSupport && !s.par.reno then .error .assertion
    else if s.tcpConnMap c.sockPair ≠ some i || c.localPort ≠ a.destPort.toNat then
      .error .assertion
    else if (s.forkedMap i c a c.newConn.sockPair).isSome then .error .addressInUse
    else .ok (s.forkedConn c a, s.afterFork i c a) := by
  have conns : ∀ c₁ c₂ : TCPConnection,
    update (update (update (update (update s.conns i (some c₁)) s.fresh
      (some c.newConn)) i (some c₂)) s.fresh (some c.newConn)) i (some (s.forkedConn c a)) =
        (s.afterFork i c a).conns := by
    intro c₁ c₂
    rw [update_comm other.symm, update_idem, update_comm other, update_idem, update_comm other.symm,
      update_idem]
    rfl
  have module : ∀ f, f = (s.afterFork i c a).conns →
      { s.afterFork i c a with conns := f } = s.afterFork i c a := by
    rintro _ rfl
    rfl
  unfold takeSyn
  rw [if_pos forks, cloneListeningConnection_eq, guard_bind]
  refine if_congr Iff.rfl rfl ?_
  unfold addForkedConnection updateSockPair
  rw [guard_bind]
  refine if_congr Iff.rfl rfl ?_
  unfold addSockPair
  rw [guard_bind]
  refine if_congr Iff.rfl rfl ?_
  exact congrArg Except.ok (Prod.ext rfl (module _ (conns _ _)))

theorem takeSyn_fork (forks : c.state.fork = true) (other : i ≠ s.fresh) :
    Yields (s.takeSyn i c a) fun r =>
    r = (s.forkedConn c a, s.afterFork i c a) ∧ c.localPort = a.destPort.toNat ∧ s.forkedMap i c a
        c.newConn.sockPair = none := by
  rw [takeSyn_eq forks other]
  refine .ite .error (yields_ite (fun _ => .error) fun good => ?_)
  refine yields_ite (fun _ => .error) fun free => .ok ⟨rfl, ?_, ?_⟩
  · simp only [Bool.or_eq_true, decide_eq_true_eq, not_or, not_not] at good
    exact good.2
  · exact Option.not_isSome_iff_eq_none.mp free

theorem takeSyn_plain (plain : c.state.fork = false) :
    Yields (s.takeSyn i c a) fun r => r = (takenBy c a,
      s.refile i c (takenBy c a)) ∧ c.localPort = a.destPort.toNat := by
  unfold takeSyn
  rw [if_neg (by simp [plain])]
  exact updateSockPair_spec.mono fun _ done => ⟨done.1, done.2.2⟩

def createdConn (s : TCP) (key : AppConnKey) : TCPConnection where
  appGateIndex := key.appGateIndex
  connId := key.connId
  state := { toTCPSettings := s.par.settings }
  rexmitQueue := some s.rexmitQueues.length

def afterOpen (s : TCP) (c : TCPConnection) (last : Int16) : TCP :=
  { s with
    conns := update s.conns s.fresh (some c)
    fresh := s.fresh + 1
    tcpAppConnMap := update s.tcpAppConnMap c.appKey (some s.fresh)
    tcpConnMap := update s.tcpConnMap c.sockPair (some s.fresh)
    lastEphemeralPort := last
    usedEphemeralPorts :=
      if isEphemeral c.localPort then .ofInt c.localPort :: s.usedEphemeralPorts
        else s.usedEphemeralPorts
    rexmitQueues := s.rexmitQueues ++ [s.fresh] }

theorem initConnection_spec (key : AppConnKey) :
    Yields ((s.createConnection key).2.initConnection s.fresh (s.createConnection key).1) fun r =>
      r = (s.createdConn key, { (s.createConnection key).2.setConn s.fresh (s.createdConn key) with
          rexmitQueues := s.rexmitQueues ++ [s.fresh] }) := by
  refine (configured_spec _ _).bind ?_
  rintro _ rfl
  exact .ok rfl

theorem afterOpen_eq {c₀ c₁ c₂ : TCPConnection} (t : TCP) (last : Int16)
    (same : t = { s.afterOpen c last with
      conns := update (update (update (update s.conns s.fresh (some c₀)) s.fresh
        (some c₁)) s.fresh (some c₂)) s.fresh (some c) }) : t = s.afterOpen c last := by
  rw [same, update_idem, update_idem, update_idem]
  rfl

def activeConn (s : TCP) (key : AppConnKey) (cmd : TCPOpenCommand) (port : Int16) : TCPConnection :=
  { (s.createdConn key).withSockets cmd.localAddr cmd.remoteAddr port.toInt
      (Int16.ofInt cmd.remotePort).toInt with
    state := { toTCPSettings := s.par.settings, active := true }
    fsm := .synSent }

theorem processOpenActive_spec (key : AppConnKey) (cmd : TCPOpenCommand) :
    Yields ((s.createConnection key).2.processOpenActive s.fresh (s.createConnection key).1 cmd)
    fun t =>
      ∃ port last, t = s.afterOpen (s.activeConn key cmd port) last ∧
        s.tcpConnMap (s.activeConn key cmd port).sockPair = none := by
  refine (initConnection_spec key).bind ?_
  rintro _ rfl
  refine .ite .error ?_
  refine .bind (P := fun r => ∃ last,
    r.2 = { (s.createConnection key).2.setConn s.fresh (s.createdConn key) with
    rexmitQueues := s.rexmitQueues ++ [s.fresh], lastEphemeralPort := last }) ?_ ?_
  · refine .ite ?_ (.ok ⟨s.lastEphemeralPort, rfl⟩)
    refine .after fun port => .ok ⟨port, rfl⟩
  rintro ⟨port, _⟩ ⟨last, rfl⟩
  refine addSockPair_spec.bind ?_
  rintro _ ⟨rfl, free⟩
  refine .ite .error (.ok ⟨port, last, ?_, free⟩)
  exact afterOpen_eq _ last rfl

def passiveConn (s : TCP) (key : AppConnKey) (cmd : TCPOpenCommand) : TCPConnection :=
  { (s.createdConn key).withSockets cmd.localAddr .unspecified
      (Int16.ofInt cmd.localPort).toInt (-1) with
    state := { toTCPSettings := s.par.settings, fork := cmd.fork }
    origin := if cmd.fork then some s.fresh else none
    fsm := .listen }

theorem processOpenPassive_spec (key : AppConnKey) (cmd : TCPOpenCommand) :
    Yields ((s.createConnection key).2.processOpenPassive s.fresh (s.createConnection key).1 cmd)
    fun t =>
      t = s.afterOpen (s.passiveConn key cmd) s.lastEphemeralPort ∧
        s.tcpConnMap (s.passiveConn key cmd).sockPair = none := by
  refine (initConnection_spec key).bind ?_
  rintro _ rfl
  refine .ite .error ?_
  refine addSockPair_spec.bind ?_
  rintro _ ⟨rfl, free⟩
  refine .ite .error (.ok ⟨?_, free⟩)
  exact afterOpen_eq _ _ rfl

def synConn (c : TCPConnection) (rcvNxt irs : UInt32) (heard : Bool) : TCPConnection :=
  { c with state := { c.state with rcvNxt := rcvNxt, irs := irs }, heard := heard }

/-- The application draws a number or opens a connection; nothing happens; one connection changes
its state; it gets other sockets before; or it forks before. -/
inductive Handled (s : TCP) (e : Event) (t : TCP) : Prop where
  | socket (number : Int32) (same : t = { s with numbers := number :: s.numbers })
  | openedActive (key : AppConnKey) (cmd : TCPOpenCommand) (port last : Int16) (is : e =
      .openActive key cmd)
      (absent : s.tcpAppConnMap key =
        none) (free : s.tcpConnMap (s.activeConn key cmd port).sockPair = none)
      (same : t = s.afterOpen (s.activeConn key cmd port) last)
  | openedPassive (key : AppConnKey) (cmd : TCPOpenCommand) (is : e = .openPassive key cmd)
      (absent : s.tcpAppConnMap key = none) (free : s.tcpConnMap (s.passiveConn key cmd).sockPair =
        none)
      (same : t = s.afterOpen (s.passiveConn key cmd) s.lastEphemeralPort)
  | idle (same : t = s)
  | moved (i : Nat) (c : TCPConnection) (active : Bool) (target : s.target e = some i)
      (held : s.conns i = some c) (listening : c.fsm = .listen → e.isSegment = false)
      (sends : c.fsm = .listen → e.isSend → c.remoteAddr.isUnspecified = false)
      (same : t = s.enter i { c with state := { c.state with active := active } }
        (c.fsm.next active e.code))
  | refiled (i : Nat) (c : TCPConnection) (a : SegmentArrival) (rcvNxt irs : UInt32) (heard : Bool)
      (code : TCPEventCode) (is : e = .segment a) (found : s.findConnForSegment a = some i)
      (held : s.conns i = some c)
      (state : c.fsm = .synSent ∨ c.fsm = .listen ∧ c.state.fork = false)
      (port : c.localPort = a.destPort.toNat)
      (same : t = (s.refile i c (synConn (takenBy c a) rcvNxt
        irs heard)).enter i (synConn (takenBy c a) rcvNxt irs heard)
          (c.fsm.next c.state.active code))
  | forked (i : Nat) (c : TCPConnection) (a : SegmentArrival) (is : e = .segment a)
      (found : s.findConnForSegment a = some i) (held : s.conns i = some c) (listens : c.fsm =
        .listen)
      (syn : (a.seg.rstBit || a.seg.ackBit || !a.seg.synBit) = false) (forks : c.state.fork = true)
      (port : c.localPort = a.destPort.toNat)
      (free : s.forkedMap i c a
        c.newConn.sockPair = none)
      (same : t = ((s.afterFork i c a).setConn i (synConn (s.forkedConn c a) (a.seg.sequenceNo + 1)
        a.seg.sequenceNo true)).enter i (synConn (s.forkedConn c a) (a.seg.sequenceNo + 1)
          a.seg.sequenceNo true) (c.fsm.next c.state.active
            (if a.seg.payloadLength ≤ s.par.advertisedWindow - a.buffered then .rcvSyn
              else .ignore)))

theorem performStateTransition_spec {code : TCPEventCode} :
    Yields (s.performStateTransition i c code) fun t =>
    t = s.enter i c (c.fsm.next c.state.active code) :=
  .ite .error (.ok rfl)

theorem bind_conn {found : Option Nat} {conn : Nat × TCPConnection}
    (looked : (found.bind fun i => (s.conns i).map (i, ·)) = some conn) :
    found = some conn.1 ∧ s.conns conn.1 = some conn.2 := by
  obtain ⟨i, here, rest⟩ := Option.bind_eq_some_iff.mp looked
  obtain ⟨c, held, rfl⟩ := Option.map_eq_some_iff.mp rest
  exact ⟨here, held⟩

theorem refile_setConn {c'' : TCPConnection} (same : c''.sockPair = c'.sockPair) :
    (s.refile i c c').setConn i c'' = s.refile i c c'' := by
  unfold refile TCP.setConn
  rw [same, update_idem]

theorem enter_same (held : s.conns i = some c) (open_ : c.fsm ≠ .closed) :
    s.enter i c c.fsm = s := by
  unfold TCP.enter TCP.setConn
  rw [if_neg open_, Function.update_eq_self_iff.mpr held.symm]

theorem processSegmentInListen_handled (found : s.findConnForSegment a = some i)
    (held : s.conns i = some c) (other : i ≠ s.fresh) (listens : c.fsm = .listen) :
    Yields (s.processSegmentInListen i c a) fun done => Handled s (.segment a)
      (done.2.2.enter i done.2.1 (done.2.1.fsm.next done.2.1.state.active done.1)) := by
  unfold processSegmentInListen
  refine yields_ite (fun _ => .ok ?_) fun syn => ?_
  · have stays : c.fsm.next c.state.active .ignore = c.fsm := by
      rw [listens]
      rfl
    refine .idle ?_
    dsimp only
    rw [stays]
    exact enter_same held (by simp [listens])
  cases forks : c.state.fork with
  | true =>
    refine (takeSyn_fork forks other).bind ?_
    rintro _ ⟨rfl, port, free⟩
    refine .ite .error (.ok ?_)
    exact .forked i c a rfl found held listens (Bool.eq_false_iff.mpr syn) forks port free rfl
  | false =>
    refine (takeSyn_plain forks).bind ?_
    rintro _ ⟨rfl, port⟩
    refine .ite .error (.ok ?_)
    have again : (s.refile i c (takenBy c a)).setConn i
      (synConn (takenBy c a) (a.seg.sequenceNo + 1)
          a.seg.sequenceNo true) = _ := refile_setConn rfl
    exact .refiled i c a (a.seg.sequenceNo + 1) a.seg.sequenceNo true
      (if a.seg.payloadLength ≤ c.state.maxRcvBuffer - a.buffered then .rcvSyn
        else .ignore) rfl found held
      (.inr ⟨listens, forks⟩) port (congrArg (TCP.enter · i _ _) again)

theorem processTCPSegment_handled (found : s.findConnForSegment a = some i)
    (held : s.conns i = some c) (other : i ≠ s.fresh) :
    Yields (s.processTCPSegment i c a) (Handled s (.segment a)) := by
  have moved (apart : c.fsm ≠ .listen) : Yields (s.performStateTransition i c a.code)
      (Handled s (.segment a)) := by
    refine performStateTransition_spec.mono ?_
    rintro _ rfl
    exact .moved i c c.state.active found held (absurd · apart) (absurd · apart) rfl
  unfold processTCPSegment
  refine .ite .error ?_
  split
  · refine (processSegmentInListen_handled found held other ‹_›).bind fun done handled => ?_
    refine performStateTransition_spec.mono ?_
    rintro _ rfl
    exact handled
  · rename_i synSent
    split_ifs
    · refine updateSockPair_spec.bind ?_
      rintro _ ⟨rfl, -, port⟩
      refine performStateTransition_spec.mono ?_
      rintro _ rfl
      exact .refiled i c a c.state.rcvNxt c.state.irs c.heard a.code rfl found held
        (.inl synSent) port rfl
    · exact moved (by simp [synSent])
  · rename_i apart _
    exact moved apart

theorem handleMessage_handled (h : s.Kept) (e : Event) :
    Yields (s.handleMessage e) (Handled s e) := by
  have other : ∀ {i c}, s.conns i = some c → i ≠ s.fresh :=
    fun held => Nat.ne_of_lt (h.bounded _ _ held)
  cases e with
  | newSocket number => exact .ok (.socket number rfl)
  | openActive key cmd =>
    unfold handleMessage
    dsimp only
    split
    · exact .error
    · rename_i absent
      refine (processOpenActive_spec key cmd).mono ?_
      rintro t ⟨port, last, same, free⟩
      exact .openedActive key cmd port last rfl absent free same
  | openPassive key cmd =>
    unfold handleMessage
    dsimp only
    split
    · exact .error
    · rename_i absent
      refine (processOpenPassive_spec key cmd).mono ?_
      rintro t ⟨same, free⟩
      exact .openedPassive key cmd rfl absent free same
  | command key event code =>
    unfold handleMessage
    dsimp only
    split
    · exact .error
    · rename_i conn looked
      obtain ⟨found, held⟩ := bind_conn looked
      unfold processCommand
      split
      · refine .ite .error (yields_ite (fun _ => .error) fun specified => ?_)
        refine performStateTransition_spec.mono ?_
        rintro _ rfl
        exact .moved conn.1 conn.2 true found held (fun _ => rfl) (fun _ _ => by simp_all) rfl
      · rename_i event _ _ apart
        refine performStateTransition_spec.mono ?_
        rintro _ rfl
        refine .moved conn.1 conn.2 conn.2.state.active found held
          (fun _ => rfl) (fun listens sends => ?_) rfl
        cases event with
        | send iss byteLength calls => exact (apart iss byteLength calls listens rfl).elim
        | _ => cases sends
  | segment a =>
    unfold handleMessage
    dsimp only
    split
    · exact .ok (.idle rfl)
    · rename_i conn looked
      obtain ⟨found, held⟩ := bind_conn looked
      exact processTCPSegment_handled found held (other held)
  | timer i event code =>
    unfold handleMessage
    dsimp only
    split
    · exact .error
    · rename_i c held
      refine performStateTransition_spec.mono ?_
      rintro _ rfl
      exact .moved i c c.state.active rfl held
        (fun _ => rfl) (fun _ sends => absurd sends nofun) rfl

theorem found_first (found : s.findConnForSegment a = some i)
    (pair : c'.sockPair = ⟨a.destAddr, a.srcAddr, .ofNat a.destPort.toNat, .ofNat a.srcPort.toNat⟩)
    (n : Nat)
    (listed : s.tcpConnMap c'.sockPair = some n) : n = i := by
  rw [pair] at listed
  unfold findConnForSegment at found
  simp only [listed] at found
  exact Option.some.inj found

/-- First the connection that forks gets its keys, then the clone is new under the keys it had. -/
theorem Kept.afterFork (h : s.Kept) (held : s.conns i = some c) (unique : s.Unique a.number)
    (sockFree : ∀ n, s.tcpConnMap (s.forkedConn c a).sockPair = some n → n = i)
      (free : s.forkedMap i c a c.newConn.sockPair = none) : (s.afterFork i c a).Kept := by
  have number := h.drawn i c held
  have unknown : ∀ n, s.tcpAppConnMap (s.forkedConn c a).appKey = some n → n = i := by
    intro n found
    obtain ⟨d, held', same⟩ := (h.app _ _).mp found
    have taken : d.connId = a.number := congrArg AppConnKey.connId same
    exact absurd (taken ▸ h.drawn n d held') unique
  have between : TCP.Kept { s with
      conns := update s.conns i (some (s.forkedConn c a))
      tcpAppConnMap := update (update s.tcpAppConnMap c.appKey none) (s.forkedConn c a).appKey
        (some i)
      tcpConnMap := s.forkedMap i c a
      rexmitQueues := s.rexmitQueues ++ [i]
      numbers := a.number :: s.numbers } :=
    h.rekey held (s.forkedConn c a) rfl unknown sockFree List.mem_cons_self
      (List.subset_cons_self _ _) rfl rfl rfl
      rfl rfl
  have apart : c.newConn.appKey ≠ (s.forkedConn c a).appKey := by
    intro same
    have taken : c.connId = a.number := congrArg AppConnKey.connId same
    exact unique (taken ▸ number)
  refine between.insert ?_ free (h.fits i c held) (List.mem_cons_of_mem _ number) rfl rfl rfl
    rfl rfl rfl
  exact (update_of_ne apart _ _).trans (update_self _ _ _)

theorem Kept.afterOpen (h : s.Kept) {last : Int16} (absent : s.tcpAppConnMap c.appKey = none)
    (free : s.tcpConnMap c.sockPair = none) (fits : (Int16.ofInt c.localPort).toInt = c.localPort)
    (drawn : c.connId ∈ s.numbers) : (s.afterOpen c last).Kept :=
  h.insert absent free fits drawn rfl rfl rfl rfl rfl rfl

theorem step_kept (s : TCP) (e : Event) (t : TCP) (h : s.Kept) (step : Moves s e t) : t.Kept := by
  obtain ⟨answered, run⟩ := step
  cases handleMessage_handled h e t run with
  | socket number same =>
    subst same
    exact { h with drawn := fun i c held => List.mem_cons_of_mem _ (h.drawn i c held) }
  | openedActive key cmd port last is absent free same =>
    subst is same
    exact h.afterOpen absent free (congrArg Int16.toInt (Int16.ofInt_toInt port)) answered
  | openedPassive key cmd is absent free same =>
    subst is same
    exact h.afterOpen absent free (congrArg Int16.toInt (Int16.ofInt_toInt _)) answered
  | idle same =>
    subst same
    exact h
  | moved i c active target held listening sends same =>
    subst same
    apply h.enter held <;> rfl
  | refiled i c a rcvNxt irs heard code is found held state port same =>
    subst same
    have pair : (synConn (takenBy c a) rcvNxt irs heard).sockPair =
        ⟨a.destAddr, a.srcAddr, .ofNat a.destPort.toNat, .ofNat a.srcPort.toNat⟩ := by
      unfold sockPair synConn takenBy withSockets
      rw [port]
      rfl
    have filed : (s.refile i c (synConn (takenBy c a) rcvNxt
        irs heard)).Kept := h.refile held rfl rfl (found_first found pair)
    exact filed.enter (update_self _ _ _) rfl rfl rfl
  | forked i c a is found held listens syn forks port free same =>
    subst is same
    have pair : (s.forkedConn c a).sockPair =
        ⟨a.destAddr, a.srcAddr, .ofNat a.destPort.toNat, .ofNat a.srcPort.toNat⟩ := by
      unfold sockPair forkedConn withSockets
      rw [port]
      rfl
    have unique := ((answered i c found held).1 listens).1
    have filed := h.afterFork held unique (found_first found pair) free
    have here : (s.afterFork i c a).conns i = some (s.forkedConn c a) :=
      (update_of_ne (Nat.ne_of_lt (h.bounded i c held)) _ _).trans (update_self _ _ _)
    have numbered :
      ((s.afterFork i c a).setConn i (synConn (s.forkedConn c a) (a.seg.sequenceNo + 1)
        a.seg.sequenceNo true)).Kept := filed.setConn here rfl rfl rfl
    exact numbered.enter (update_self _ _ _) rfl rfl rfl

/-- Each map holds every connection, once and under its current key, and nothing else. -/
structure Consistent (s : TCP) : Prop where
  app : Exact appKey s.conns s.tcpAppConnMap
  sock : Exact sockPair s.conns s.tcpConnMap
  distinct : ∀ i j c d, s.conns i = some c → s.conns j = some d →
    c.appKey = d.appKey ∨ c.sockPair = d.sockPair → i = j
  ports : ∀ p : Int16, isEphemeral p.toInt →
    s.usedEphemeralPorts.count p = {i | ∃ c, s.conns i = some c ∧ c.localPort = p.toInt}.ncard

theorem Kept.consistent (h : s.Kept) : s.Consistent where
  app := h.app
  sock := h.sock
  distinct _ _ _ _ held held' same := same.elim (h.app.inj held held') (h.sock.inj held held')
  ports p range := by
    rw [h.ports p, if_pos range, tally_eq_ncard h.bounded]
    simp only [onPort, beq_iff_eq]

theorem maps_consistent (par : TCPParameters) (es : List Event) :
    Trace.Always Moves Consistent (start par) es :=
  Trace.always_of_invariant step_kept (fun _ h => h.consistent) (start_kept par) es

/-- The keys of a segment: with its remote socket, then with a blank one. -/
def lookups (a : SegmentArrival) : List SockPair :=
  [(a.srcAddr, .ofNat a.srcPort.toNat), (.unspecified, -1)].flatMap fun remote =>
    [a.destAddr, .unspecified].map (⟨·, remote.1, .ofNat a.destPort.toNat, remote.2⟩)

theorem findConnForSegment_eq (a : SegmentArrival) :
    s.findConnForSegment a = (lookups a).findSome? s.tcpConnMap := by
  change _ = [_, _, _, _].findSome? _
  grind [findConnForSegment]

/-- A segment goes to the connection that has the first of them that any has. -/
theorem segments_found (par : TCPParameters) (es : List Event) : Trace.Always Moves (fun s => ∀ a i,
    s.findConnForSegment a = some i ↔ ∃ before pair after, lookups a = before ++ pair :: after ∧
      (∃ c, s.conns i = some c ∧ c.sockPair = pair) ∧
        ∀ earlier ∈ before, ∀ j d, s.conns j = some d → d.sockPair ≠ earlier) (start par) es := by
  refine Trace.always_of_invariant step_kept (fun s h a i => ?_) (start_kept par) es
  rw [findConnForSegment_eq, List.findSome?_eq_some_iff]
  simp only [Option.eq_none_iff_forall_ne_some, ne_eq, h.sock _ _, not_exists, not_and]

end TCP

end Srwsn
