import Srwsn.Tcp.Sockets

/-! Passive opens with forking: at a SYN the listening connection becomes the one to the peer, under
a new connId, and a clone listens on under the old one. -/
namespace Srwsn

open Outcome Index Function

namespace TCP

variable {s t : TCP} {i j n : Nat} {c c' d : TCPConnection} {a : SegmentArrival} {e : Event}
  {fsm : TcpState} {key : AppConnKey}

theorem enter_other (other : n ≠ i) : (s.enter i c fsm).conns n = s.conns n := by
  unfold TCP.enter
  split_ifs
  · exact update_of_ne other _ _
  · exact update_of_ne other _ _

theorem enter_self (stays : fsm ≠ .closed) :
    (s.enter i c fsm).conns i = some { c with fsm := fsm } := by
  unfold TCP.enter
  rw [if_neg stays]
  exact update_self _ _ _

theorem all_enter {P : Nat → TCPConnection → Prop} (here : P i { c with fsm := fsm })
    (others : ∀ n d, n ≠ i → s.conns n = some d → P n d) :
    ∀ n d, (s.enter i c fsm).conns n = some d → P n d := by
  intro n d held
  by_cases same : n = i
  · subst same
    unfold TCP.enter at held
    split_ifs at held
    · exact absurd ((update_self _ _ _).symm.trans held).symm (Option.some_ne_none d)
    · cases (update_self _ _ _).symm.trans held
      exact here
  · rw [enter_other same] at held
    exact others n d same held

@[simp] theorem enter_fresh : (s.enter i c fsm).fresh = s.fresh := by
  unfold TCP.enter
  split_ifs <;> rfl

@[simp] theorem enter_rexmitQueues : (s.enter i c fsm).rexmitQueues = s.rexmitQueues := by
  unfold TCP.enter
  split_ifs <;> rfl

structure Sane (s : TCP) (i : Nat) (c : TCPConnection) : Prop where
  queue : ∀ q, c.rexmitQueue = some q → s.rexmitQueues[q]? = some i
  stems : ∀ j, c.origin = some j → j < s.fresh ∧ c.state.fork = true

theorem Sane.change (h : s.Sane i c) (queue : c'.rexmitQueue = c.rexmitQueue)
    (origin : c'.origin = c.origin) (fork : c'.state.fork = c.state.fork) : s.Sane i c' where
  queue q owned := h.queue q (queue ▸ owned)
  stems j stems := by
    rw [fork]
    exact h.stems j (origin ▸ stems)

theorem Sane.grow (h : s.Sane i c) {more : List Nat}
    (queues : t.rexmitQueues = s.rexmitQueues ++ more) (fresh : s.fresh ≤ t.fresh) :
    t.Sane i c where
  queue q owned := by
    have created := h.queue q owned
    obtain ⟨below, -⟩ := List.getElem?_eq_some_iff.mp created
    rw [queues, List.getElem?_append_left below, created]
  stems j stems := ⟨(h.stems j stems).1.trans_le fresh, (h.stems j stems).2⟩

theorem created_last (queues : t.rexmitQueues = s.rexmitQueues ++ [i]) (q : Nat)
    (owned : some s.rexmitQueues.length = some q) : t.rexmitQueues[q]? = some i := by
  cases owned
  rw [queues]
  exact List.getElem?_concat_length

theorem Sane.forked (h : s.Sane i c) (a : SegmentArrival) :
    (s.afterFork i c a).Sane i (s.forkedConn c a) where
  queue := created_last rfl
  stems j stems := ⟨Nat.lt_succ_of_lt (h.stems j stems).1, (h.stems j stems).2⟩

theorem Sane.cloned (h : s.Sane i c) (a : SegmentArrival) :
    (s.afterFork i c a).Sane s.fresh c.newConn where
  queue _ owned := absurd owned.symm (Option.some_ne_none _)
  stems j stems := ⟨Nat.lt_succ_of_lt (h.stems j stems).1, rfl⟩

def AllSane (s : TCP) : Prop := ∀ n d, s.conns n = some d → s.Sane n d

variable {last : Int16}

theorem AllSane.afterOpen (h : s.AllSane) (queue : c.rexmitQueue = some s.rexmitQueues.length)
    (stems : ∀ j, c.origin = some j → j = s.fresh ∧ c.state.fork = true) :
    (s.afterOpen c last).AllSane := by
  refine all_update ?_ fun n d held => (h n d held).grow rfl (Nat.le_succ _)
  rintro _ ⟨⟩
  refine ⟨fun q owned => created_last rfl q (queue ▸ owned),
    fun j origin => ⟨?_, (stems j origin).2⟩⟩
  rw [(stems j origin).1]
  exact Nat.lt_succ_self _

theorem AllSane.set (h : s.AllSane) (here : s.Sane i c)
    (conns : t.conns = update s.conns i (some c)) (queues : t.rexmitQueues = s.rexmitQueues)
    (fresh : t.fresh = s.fresh) : t.AllSane ∧ t.Sane i c := by
  have same : ∀ n d, s.Sane n d → t.Sane n d := fun n d sane =>
    sane.grow (queues.trans (List.append_nil _).symm) fresh.ge
  refine ⟨?_, same i c here⟩
  unfold AllSane
  rw [conns]
  refine all_update ?_ fun n d held => same n d (h n d held)
  rintro _ ⟨⟩
  exact same i c here

theorem AllSane.enter (h : s.AllSane) (here : s.Sane i c) : (s.enter i c fsm).AllSane := by
  have same : ∀ n d, s.Sane n d → (s.enter i c fsm).Sane n d := fun n d sane =>
    sane.grow (enter_rexmitQueues.trans (List.append_nil _).symm) enter_fresh.ge
  refine all_enter ?_ fun n d _ held => same n d (h n d held)
  exact same _ _ (here.change rfl rfl rfl)

theorem AllSane.fork (h : s.AllSane) (held : s.conns i = some c) (a : SegmentArrival)
    (rcvNxt irs : UInt32) (heard : Bool) :
    ((s.afterFork i c a).setConn i (synConn (s.forkedConn c a) rcvNxt irs heard)).AllSane ∧
      ((s.afterFork i c a).setConn i (synConn (s.forkedConn c a) rcvNxt irs heard)).Sane i
        (synConn (s.forkedConn c a) rcvNxt irs heard) := by
  have sane := h i c held
  have both : (s.afterFork i c a).AllSane := by
    refine all_update ?_ (all_update ?_ fun n d held => (h n d held).grow rfl (Nat.le_succ _))
    · rintro _ ⟨⟩
      exact sane.cloned a
    · rintro _ ⟨⟩
      exact sane.forked a
  exact both.set ((sane.forked a).change rfl rfl rfl) rfl rfl rfl

structure Owning (s : TCP) : Prop where
  kept : s.Kept
  sane : s.AllSane

theorem start_owning (par : TCPParameters) : (start par).Owning :=
  ⟨start_kept par, fun _ _ held => absurd held.symm (Option.some_ne_none _)⟩

theorem step_owning (s : TCP) (e : Event) (t : TCP) (h : s.Owning) (step : Moves s e t) :
    t.Owning := by
  refine ⟨step_kept s e t h.kept step, ?_⟩
  cases handleMessage_handled h.kept e t step.2 with
  | socket number same =>
    subst same
    exact fun i c held => ⟨(h.sane i c held).queue, (h.sane i c held).stems⟩
  | openedActive key cmd port last is absent free same =>
    subst same
    exact h.sane.afterOpen rfl nofun
  | openedPassive key cmd is absent free same =>
    subst same
    refine h.sane.afterOpen rfl fun j stems => ?_
    obtain ⟨forks, ⟨⟩⟩ := Option.ite_none_right_eq_some.mp stems
    exact ⟨rfl, forks⟩
  | idle same =>
    subst same
    exact h.sane
  | moved i c active target held listening sends same =>
    subst same
    exact h.sane.enter ((h.sane i c held).change rfl rfl rfl)
  | refiled i c a rcvNxt irs heard code is found held state port same =>
    subst same
    have here : s.Sane i (synConn (takenBy c a) rcvNxt irs heard) :=
      (h.sane i c held).change rfl rfl rfl
    have filed := @AllSane.set s (s.refile i c _) i _ h.sane here rfl rfl rfl
    exact filed.1.enter filed.2
  | forked i c a is found held listens syn forks port free same =>
    subst same
    have forked := h.sane.fork held a (a.seg.sequenceNo + 1) a.seg.sequenceNo true
    exact forked.1.enter forked.2

def OwnsQueue (s : TCP) (i : Nat) (c : TCPConnection) : Prop :=
  ∃ q, c.rexmitQueue = some q ∧ s.rexmitQueues[q]? = some i ∧
    ∀ j d, s.conns j = some d → d.rexmitQueue = some q → j = i

theorem AllSane.ownsQueue (h : s.AllSane) (here : s.Sane i c) {q : Nat}
    (owned : c.rexmitQueue = some q) : s.OwnsQueue i c := by
  refine ⟨q, owned, here.queue q owned, fun j d held owned' => ?_⟩
  have created := (h j d held).queue q owned'
  rw [here.queue q owned] at created
  exact (Option.some.inj created).symm

theorem initConnection_settings (accepted : ¬ (s.par.sackSupport && !s.par.reno) = true) :
    ∃ opened, s.initConnection i c = .ok opened ∧
    opened.1.state.toTCPSettings = s.par.settings := by
  unfold initConnection TCPConnection.configured configureStateVariables
  rw [if_neg accepted]
  exact ⟨_, rfl, rfl⟩

theorem Owning.syn (h : s.Owning) (held : s.conns i = some c) (stems : c.origin.isSome)
    (syn : (a.seg.rstBit || a.seg.ackBit || !a.seg.synBit) = false) :
    Averts .nullPointer (s.processSegmentInListen i c a) fun done =>
      done.2.2.OwnsQueue i done.2.1 ∧ ∃ opened, s.initConnection i c = .ok opened ∧
        done.2.1.state.toTCPSettings = opened.1.state.toTCPSettings := by
  obtain ⟨j, origin⟩ := Option.isSome_iff_exists.mp stems
  have forks := ((h.sane i c held).stems j origin).2
  have other := Nat.ne_of_lt (h.kept.bounded i c held)
  have forked := h.sane.fork held a (a.seg.sequenceNo + 1) a.seg.sequenceNo true
  unfold processSegmentInListen
  rw [if_neg (by simp [syn]), takeSyn_eq forks other]
  refine .bind (P := fun taken => taken = (s.forkedConn c a, s.afterFork i c a) ∧
    ¬ (s.par.sackSupport && !s.par.reno) = true) ?_ ?_
  · refine averts_ite (fun _ => .error nofun) fun accepted => ?_
    refine .ite (.error nofun) ?_
    exact .ite (.error nofun) (.ok ⟨rfl, accepted⟩)
  · rintro _ ⟨rfl, accepted⟩
    obtain ⟨opened, done, settings⟩ := @initConnection_settings s i c accepted
    refine averts_ite (fun none => absurd none nofun) fun _ => .ok ⟨?_, opened, done, settings.symm⟩
    exact forked.1.ownsQueue forked.2 rfl

theorem listener_configured (par : TCPParameters) (es : List Event) :
    Trace.Always Moves (fun s => ∀ i c a, s.conns i = some c → c.fsm = .listen → c.origin.isSome →
      (a.seg.rstBit || a.seg.ackBit || !a.seg.synBit) = false →
        Averts .nullPointer (s.processSegmentInListen i c a) fun done =>
          done.2.2.OwnsQueue i done.2.1 ∧ ∃ opened, s.initConnection i c = .ok opened ∧
            done.2.1.state.toTCPSettings = opened.1.state.toTCPSettings) (start par) es :=
  Trace.always_of_invariant step_owning (fun _ h _ _ _ held _ stems syn => h.syn held stems syn)
    (start_owning par) es

def serverHost : TCP := { start Window.defaults with numbers := [0] }

def serverKey : AppConnKey := ⟨0, 0⟩

def serverCommand : TCPOpenCommand := ⟨.v4 1, .unspecified, 80, -1, true⟩

def syn : TCPSegment := ⟨⟨100, 0, 0, 7504, [], 0⟩, true, false, false, false, none, false⟩

def rst : TCPSegment := ⟨⟨101, 0, 0, 0, [], 0⟩, false, false, false, true, none, false⟩

def fromPeer (port : UInt16) (seg : TCPSegment) (code : TCPEventCode) : SegmentArrival :=
  ⟨.v4 2, .v4 1, port, 80, seg, 0, 7504, [], .ofNat port.toNat, 0, false, code⟩

def serverListening : TCP :=
  (serverHost.handleMessage (.openPassive serverKey serverCommand)).toOption.getD serverHost

def serverForked : TCP :=
  (serverListening.handleMessage (.segment (fromPeer 2000 syn .rcvSyn))).toOption.getD
    serverListening

theorem serverHost_moves :
    Moves serverHost (.openPassive serverKey serverCommand) serverListening :=
  ⟨List.mem_singleton_self 0, rfl⟩

theorem serverListening_moves :
    Moves serverListening (.segment (fromPeer 2000 syn .rcvSyn)) serverForked := by
  refine ⟨?_, rfl⟩
  have unique : (2000 : Int32) ∉ [0] := by decide
  rintro i c ⟨⟩ ⟨⟩
  exact ⟨fun _ => ⟨unique, fun _ => rfl⟩, absurd rfl⟩

theorem serverHost_drawn : Moves (start Window.defaults) (.newSocket 0) serverHost :=
  ⟨List.not_mem_nil, rfl⟩

/-- The connection that has forked has a new connId, and the clone is filed under the old one. -/
theorem server_maps_consistent : serverForked.numbers = [2000, 0] ∧ serverForked.Consistent := by
  have run := maps_consistent Window.defaults [.newSocket 0, .openPassive serverKey serverCommand,
    .segment (fromPeer 2000 syn .rcvSyn)]
  exact ⟨rfl, ((run.2 serverHost serverHost_drawn).2 serverListening serverHost_moves).2
    serverForked serverListening_moves⟩

/-- The clone that listens after the first SYN gets its queue and its variables with the second 
one. -/
theorem second_syn_configured : ∃ c done, serverForked.conns 1 = some c ∧
    serverForked.processSegmentInListen 1 c (fromPeer 2001 syn .rcvSyn) = .ok done ∧
      done.2.2.OwnsQueue 1 done.2.1 ∧ done.2.1.state.toTCPSettings = Window.defaults.settings := by
  have run :=
    listener_configured Window.defaults [.newSocket 0, .openPassive serverKey serverCommand,
    .segment (fromPeer 2000 syn .rcvSyn)]
  have forked :=
    ((run.2 serverHost serverHost_drawn).2 serverListening serverHost_moves).2 serverForked
    serverListening_moves
  obtain ⟨owns, opened, init, settings⟩ :=
    (forked 1 _ (fromPeer 2001 syn .rcvSyn) rfl rfl rfl rfl).2 _ rfl
  cases init
  exact ⟨_, _, rfl, rfl, owns, settings⟩

variable {active : Bool} {opened : Nat} {code : TCPEventCode}

theorem next_eq_listen (listens : fsm.next active code = .listen) :
    fsm = .init ∨ fsm = .listen ∨ fsm = .synRcvd ∧ (code = .rcvRst ∨ code = .timeoutConnEstab) := by
  revert listens
  cases fsm <;> cases code <;> simp [TcpState.next]

theorem next_ne_init (opened : fsm ≠ .init) : fsm.next active code ≠ .init := by
  revert opened
  cases fsm <;> cases code <;> cases active <;> simp [TcpState.next]

/-- An event that leaves a half-open connection alone. A listening connection is not closed, the
text of a SYN fits into the buffer, and a SYN has a sender: port 65535 is -1 in a socket pair, which
is no port. -/
def Spared (window : UInt32) (c : TCPConnection) (e : Event) : Prop :=
  match c.fsm, e with
  | .synRcvd, e => e.code ≠ .rcvRst ∧ e.code ≠ .timeoutConnEstab
  | .listen, .segment a => (a.seg.rstBit || a.seg.ackBit || !a.seg.synBit) = false →
      a.seg.payloadLength ≤ window ∧ ¬ (a.destAddr = c.localAddr ∧ a.srcAddr = .unspecified ∧
        a.srcPort = 65535)
  | .listen, .command _ event _ => event ≠ .close ∧ event ≠ .abort
  | _, _ => True

def Meets (opened : Nat) (s : TCP) (e : Event) : Prop :=
  ∀ i c, s.target e = some i → s.conns i = some c → c.origin = some opened →
    Spared s.par.advertisedWindow c e

structure Listens (key : AppConnKey) (c : TCPConnection) : Prop where
  forks : c.state.fork = true
  opened : c.fsm ≠ .init
  original : c.fsm = .listen → c.appKey = key ∧ c.remoteAddr = .unspecified ∧ c.remotePort = -1 ∧
    c.heard = false

theorem Listens.next (h : Listens key c) (elsewhere : fsm ≠ .listen) (opened : fsm ≠ .init)
    (forks : c'.state.fork = c.state.fork) : Listens key { c' with fsm := fsm } where
  forks := forks.trans h.forks
  opened := opened
  original listens := absurd listens elsewhere

structure Served (opened : Nat) (key : AppConnKey) (s : TCP) : Prop where
  kept : s.Kept
  past : opened < s.fresh
  all : ∀ i c, s.conns i = some c → c.origin = some opened → Listens key c
  one : ∃ i c, s.conns i = some c ∧ c.origin = some opened ∧ c.fsm = .listen

theorem Served.afterOpen (h : Served opened key s)
    (kept : (s.afterOpen c last).Kept) (new : c.origin ≠ some opened) :
    Served opened key (s.afterOpen c last) := by
  obtain ⟨l, b, listener, origin, listens⟩ := h.one
  refine ⟨kept, Nat.lt_succ_of_lt h.past, all_update ?_ h.all, l, b, ?_, origin, listens⟩
  · rintro _ ⟨⟩ same
    exact absurd same new
  · exact (update_of_ne (Nat.ne_of_lt (h.kept.bounded l b listener)) _ _).trans listener

variable {window : UInt32}

/-- Neither STATUS nor a SEND, which fails, takes a listening connection out of its state. -/
theorem next_listening (answered : s.Answered e) (target : s.target e = some i)
    (held : s.conns i = some c) (listens : c.fsm = .listen) (message : e.isSegment = false)
    (sends : e.isSend → c.remoteAddr.isUnspecified = false) (blank : c.remoteAddr = .unspecified)
    (spared : Spared window c e) : TcpState.next active .listen e.code = .listen := by
  cases e with
  | newSocket => cases target
  | openActive key cmd => cases target
  | openPassive key cmd => cases target
  | segment a => cases message
  | timer n event code =>
    cases target
    exact absurd listens (answered.2 c held).1
  | command key event code =>
    unfold Spared at spared
    rw [listens] at spared
    obtain ⟨d, d', -, -, -, run⟩ := answered.2 i c target held
    have command := answered.1
    cases event with
    | send iss byteLength calls =>
      have specified := sends rfl
      rw [blank] at specified
      cases specified
    | close => exact absurd rfl spared.1
    | abort => exact absurd rfl spared.2
    | status =>
      change d.processStatus = _ at run
      unfold Connection.processStatus at run
      split_ifs at run
      cases run
      rfl
    | _ => cases command

theorem next_elsewhere (opened : c.fsm ≠ .init) (elsewhere : c.fsm ≠ .listen)
    (spared : Spared window c e) : c.fsm.next active e.code ≠ .listen := by
  intro listens
  rcases next_eq_listen listens with init | listen | ⟨half, code⟩
  · exact opened init
  · exact elsewhere listen
  · unfold Spared at spared
    rw [half] at spared
    exact code.elim spared.1 spared.2

theorem Served.moved (h : Served opened key s) (meets : Meets opened s e)
    (answered : s.Answered e) (target : s.target e = some i) (held : s.conns i = some c)
    (listening : c.fsm = .listen → e.isSegment = false)
    (sends : c.fsm = .listen → e.isSend → c.remoteAddr.isUnspecified = false) (d : TCPConnection)
    (same : d = { c with state := { c.state with active := active } })
    (kept : (s.enter i d (c.fsm.next active e.code)).Kept) :
    Served opened key (s.enter i d (c.fsm.next active e.code)) := by
  obtain ⟨l, b, listener, origin, listens⟩ := h.one
  have past : opened < (s.enter i d (c.fsm.next active e.code)).fresh := by
    rw [enter_fresh]
    exact h.past
  have others : ∀ n d, n ≠ i → s.conns n = some d → d.origin = some opened → Listens key d :=
    fun n d _ => h.all n d
  -- if the listener is another connection, it listens on
  have still : l ≠ i → ∃ n d', (s.enter i d (c.fsm.next active e.code)).conns n = some d' ∧
      d'.origin = some opened ∧ d'.fsm = .listen :=
    fun apart => ⟨l, b, (enter_other apart).trans listener, origin, listens⟩
  subst same
  by_cases stems : c.origin = some opened
  · have here := h.all i c held stems
    have spared := meets i c target held stems
    by_cases listen : c.fsm = .listen
    · have original := here.original listen
      have stays := @next_listening s i c e active _ answered target held listen (listening listen)
        (sends listen) original.2.1 spared
      rw [listen, stays] at kept past ⊢
      refine ⟨kept, past, all_enter ?_ others, i, _, enter_self nofun, stems, rfl⟩
      exact fun _ => ⟨here.forks, nofun, fun _ => original⟩
    · have elsewhere := @next_elsewhere c e active _ here.opened listen spared
      refine ⟨kept, past, all_enter ?_ others, still ?_⟩
      · exact fun _ => here.next elsewhere (next_ne_init here.opened) rfl
      · rintro rfl
        cases listener.symm.trans held
        exact listen listens
  · refine ⟨kept, past, all_enter ?_ others, still ?_⟩
    · exact fun again => absurd again stems
    · rintro rfl
      cases listener.symm.trans held
      exact stems origin

theorem Served.refiled (h : Served opened key s) (held : s.conns i = some c)
    (state : c.fsm = .synSent ∨ c.fsm = .listen ∧ c.state.fork = false) (d : TCPConnection)
    (forks : d.state.fork = c.state.fork) (origin : d.origin = c.origin)
    (kept : ((s.refile i c d).enter i d (c.fsm.next c.state.active code)).Kept) :
    Served opened key ((s.refile i c d).enter i d (c.fsm.next c.state.active code)) := by
  obtain ⟨l, b, listener, originL, listens⟩ := h.one
  have apart : l ≠ i := by
    rintro rfl
    cases listener.symm.trans held
    have always := (h.all l c held originL).forks
    rcases state with synSent | ⟨-, plain⟩
    · rw [synSent] at listens
      cases listens
    · rw [plain] at always
      cases always
  refine ⟨kept, ?_, all_enter ?_ ?_, l, b, ?_, originL, listens⟩
  · rw [enter_fresh]
    exact h.past
  · intro stems
    have here := h.all i c held (origin ▸ stems)
    rcases state with synSent | ⟨-, plain⟩
    · rw [synSent]
      refine here.next ?_ (next_ne_init nofun) forks
      intro listens
      rcases next_eq_listen listens with init | listen | ⟨half, -⟩
      · cases init
      · cases listen
      · cases half
    · exact absurd here.forks (by simp [plain])
  · intro n d' other held'
    exact h.all n d' ((update_of_ne other _ _).symm.trans held')
  · exact (enter_other apart).trans ((update_of_ne apart _ _).trans listener)

theorem afterFork_other (other : n ≠ i) : ((s.afterFork i c a).setConn i d).conns n =
    update s.conns s.fresh (some c.newConn) n := by
  refine (update_of_ne other _ _).trans ?_
  by_cases clone : n = s.fresh
  · subst clone
    rw [update_self]
    exact update_self _ _ _
  · refine (update_of_ne clone _ _).trans ?_
    rw [update_of_ne other, update_of_ne clone]

/-- The clone takes the place of the connection that forks. -/
theorem Served.forked (h : Served opened key s) (held : s.conns i = some c)
    (listens : c.fsm = .listen) (d : TCPConnection) (forks : d.state.fork = c.state.fork)
    (origin : d.origin = c.origin) (half : c.origin = some opened → fsm = .synRcvd)
    (kept : (((s.afterFork i c a).setConn i d).enter i d fsm).Kept) :
    Served opened key (((s.afterFork i c a).setConn i d).enter i d fsm) := by
  have bounded := h.kept.bounded
  have clone : c.origin = some opened → Listens key c.newConn := fun stems =>
    ⟨rfl, nofun, fun _ => ⟨((h.all i c held stems).original listens).1, rfl, rfl, rfl⟩⟩
  refine ⟨kept, ?_, all_enter ?_ ?_, ?_⟩
  · rw [enter_fresh]
    exact Nat.lt_succ_of_lt h.past
  · intro stems
    rw [half (origin ▸ stems)]
    exact (h.all i c held (origin ▸ stems)).next nofun nofun forks
  · intro n d' other held'
    rw [afterFork_other other] at held'
    refine all_update ?_ h.all n d' held'
    rintro _ ⟨⟩
    exact clone
  · by_cases stems : c.origin = some opened
    · have other : s.fresh ≠ i := (Nat.ne_of_lt (bounded i c held)).symm
      refine ⟨s.fresh, c.newConn, ?_, stems, rfl⟩
      rw [enter_other other, afterFork_other other]
      exact update_self _ _ _
    · obtain ⟨l, b, listener, originL, listensL⟩ := h.one
      have other : l ≠ i := by
        rintro rfl
        cases listener.symm.trans held
        exact stems originL
      refine ⟨l, b, ?_, originL, listensL⟩
      rw [enter_other other, afterFork_other other,
        update_of_ne (Nat.ne_of_lt (bounded l b listener))]
      exact listener

theorem step_served (opened : Nat) (key : AppConnKey) (s : TCP) (e : Event) (t : TCP)
    (h : Served opened key s) (meets : Meets opened s e) (step : Moves s e t) :
    Served opened key t := by
  have kept := step_kept s e t h.kept step
  cases handleMessage_handled h.kept e t step.2 with
  | socket number same =>
    subst same
    exact ⟨kept, h.past, h.all, h.one⟩
  | openedActive key' cmd port last is absent free same =>
    subst same
    exact h.afterOpen kept nofun
  | openedPassive key' cmd is absent free same =>
    subst same
    refine h.afterOpen kept fun stems => ?_
    obtain ⟨-, ⟨⟩⟩ := Option.ite_none_right_eq_some.mp stems
    exact absurd h.past (Nat.lt_irrefl _)
  | idle same =>
    subst same
    exact h
  | moved i c active target held listening sends same =>
    subst same
    exact h.moved meets step.1 target held listening sends _ rfl kept
  | refiled i c a rcvNxt irs heard code is found held state port same =>
    subst same
    exact h.refiled held state _ rfl rfl kept
  | forked i c a is found held listens syn forks port free same =>
    subst is same
    refine h.forked held listens _ rfl rfl ?_ kept
    intro stems
    have spared := meets i c found held stems
    unfold Spared at spared
    rw [listens] at spared ⊢
    have empty :=
      ((step.1 i c found held).1 listens).2 ((h.all i c held stems).original listens).2.2.2
    rw [empty, UInt32.sub_zero, if_pos (spared syn).1]
    rfl

theorem blank_port {port : UInt16} (blank : Int16.ofInt port.toNat = -1) : port = 65535 := by
  have below := port.toNat_lt
  have wrapped : (Int16.ofInt port.toNat).toInt = -1 := congrArg Int16.toInt blank
  rw [Int16.toInt_ofInt, Int.bmod_def, Int16.size] at wrapped
  apply UInt16.toNat_inj.mp
  change port.toNat = 65535
  split_ifs at wrapped <;> omega

theorem clone_free (listens : c.fsm = .listen)
    (original : c.remoteAddr = .unspecified ∧ c.remotePort = -1)
    (spared : Spared window c (.segment a))
    (syn : (a.seg.rstBit || a.seg.ackBit || !a.seg.synBit) = false) :
    s.forkedMap i c a c.newConn.sockPair = none := by
  have pair : c.newConn.sockPair = c.sockPair := by
    unfold TCPConnection.sockPair
    rw [original.1, original.2]
    rfl
  unfold Spared at spared
  rw [listens] at spared
  have apart : c.newConn.sockPair ≠ (s.forkedConn c a).sockPair := by
    intro same
    obtain ⟨localAddr, remoteAddr, -, remotePort⟩ := SockPair.mk.inj same
    exact (spared syn).2 ⟨localAddr.symm, remoteAddr.symm, blank_port remotePort.symm⟩
  rw [forkedMap, update_of_ne apart, pair]
  exact update_self _ _ _

theorem Served.averts (h : Served opened key s) (meets : Meets opened s (.segment a))
    (only : ∀ i c, s.findConnForSegment a = some i → s.conns i = some c → c.state.fork = true →
      c.origin = some opened) : Averts .addressInUse (s.handleMessage (.segment a)) fun _ =>
      True := by
  have moves : ∀ (s : TCP) (i : Nat) (c : TCPConnection) (code : TCPEventCode),
      Averts .addressInUse (s.performStateTransition i c code) fun _ => True :=
    fun _ _ _ _ => .ite (.error nofun) (.ok trivial)
  have updates : ∀ (s : TCP) (i : Nat) (c : TCPConnection) (localAddr remoteAddr : IPvXAddress)
    (localPort remotePort : Int),
      Averts .addressInUse (s.updateSockPair i c localAddr remoteAddr localPort remotePort) fun _ =>
      True :=
    fun _ _ _ _ _ _ _ => .ite (.error nofun) (.ok trivial)
  unfold handleMessage
  dsimp only
  split
  · exact .ok trivial
  rename_i conn looked
  obtain ⟨found, held⟩ := bind_conn looked
  have other := Nat.ne_of_lt (h.kept.bounded conn.1 conn.2 held)
  refine .ite (.error nofun) ?_
  split
  · rename_i listens
    refine .bind (P := fun _ => True) ?_ fun _ _ => moves _ _ _ _
    refine averts_ite (fun _ => .ok trivial) fun syn => ?_
    refine .bind (P := fun _ => True) ?_ fun _ _ =>
      .ite (.error nofun) (.ok trivial)
    cases forks : conn.2.state.fork with
    | true =>
      have stems := only conn.1 conn.2 found held forks
      have original := (h.all conn.1 conn.2 held stems).original listens
      have spared := meets conn.1 conn.2 found held stems
      rw [takeSyn_eq forks other, clone_free listens ⟨original.2.1, original.2.2.1⟩ spared
        (Bool.eq_false_iff.mpr syn)]
      refine .ite (.error nofun) ?_
      exact .ite (.error nofun) (.ok trivial)
    | false =>
      unfold takeSyn
      rw [if_neg (by simp [forks])]
      exact updates _ _ _ _ _ _ _
  · refine .bind (P := fun _ => True) ?_ fun _ _ => moves _ _ _ _
    exact .ite (updates _ _ _ _ _ _ _) (.ok trivial)
  · exact moves _ _ _ _

theorem openPassive_served {cmd : TCPOpenCommand} (h : s.Owning) (forks : cmd.fork = true)
    (step : Moves s (.openPassive key cmd) t) : Served s.fresh key t := by
  have kept := step_kept s _ t h.kept step
  have opened : t = s.afterOpen (s.passiveConn key cmd) s.lastEphemeralPort := by
    have run := step.2
    unfold handleMessage at run
    dsimp only at run
    split at run
    · cases run
    · exact (processOpenPassive_spec key cmd t run).1
  subst opened
  refine ⟨kept, Nat.lt_succ_self _, all_update ?_ ?_, s.fresh, _, update_self _ _ _,
    if_pos forks, rfl⟩
  · rintro _ ⟨⟩ -
    exact ⟨forks, nofun, fun _ => ⟨rfl, rfl, rfl, rfl⟩⟩
  · intro n d held stems
    exact absurd ((h.sane n d held).stems _ stems).1 (Nat.lt_irrefl _)

/-- One connection listens for the passive open, the one with the connId of the application. -/
def OneListener (opened : Nat) (key : AppConnKey) (s : TCP) : Prop :=
  ∃ i c, s.conns i = some c ∧ c.fsm = .listen ∧ c.origin = some opened ∧ c.appKey = key ∧
    ∀ j d, s.conns j = some d → d.fsm = .listen → d.origin = some opened → j = i

theorem Served.oneListener (h : Served opened key s) : OneListener opened key s := by
  obtain ⟨i, c, held, stems, listens⟩ := h.one
  have original := (h.all i c held stems).original listens
  refine ⟨i, c, held, listens, stems, original.1, fun j d held' listens' stems' => ?_⟩
  have again := (h.all j d held' stems').original listens'
  exact h.kept.app.inj held' held (again.1.trans original.1.symm)

theorem fork_one_listener (par : TCPParameters) (es : List Event) :
    Trace.Always Moves (fun s => ∀ key cmd t, cmd.fork = true → Moves s (.openPassive key cmd) t →
      ∀ later, Trace.Each Moves (Meets s.fresh) t later →
        Trace.Always Moves (fun u => OneListener s.fresh key u ∧ ∀ a, Meets s.fresh u (.segment a) →
          (∀ i c, u.findConnForSegment a = some i → u.conns i = some c → c.state.fork = true →
            c.origin = some s.fresh) → u.handleMessage (.segment a) ≠ .error .addressInUse) t later)
      (start par) es := by
  refine Trace.always_of_invariant step_owning (fun s h key cmd t forks step later each => ?_)
    (start_owning par) es
  refine Trace.always_of_each (step_served s.fresh key) (fun u served => ?_)
    (openPassive_served h forks step) each
  exact ⟨served.oneListener, fun a meets only => (served.averts meets only).1⟩

theorem server_one_listener : OneListener 0 serverKey serverForked ∧
    serverForked.handleMessage (.segment (fromPeer 2001 syn .rcvSyn)) ≠ .error .addressInUse := by
  have sender : ¬ (IPvXAddress.v4 2 = .unspecified) := by decide
  have first : Meets 0 serverListening (.segment (fromPeer 2000 syn .rcvSyn)) := by
    rintro i c ⟨⟩ ⟨⟩ -
    exact fun _ => ⟨Nat.zero_le _, fun blank => sender blank.2.1⟩
  have second : Meets 0 serverForked (.segment (fromPeer 2001 syn .rcvSyn)) := by
    rintro i c ⟨⟩ ⟨⟩ -
    exact fun _ => ⟨Nat.zero_le _, fun blank => sender blank.2.1⟩
  have opened := (fork_one_listener Window.defaults [.newSocket 0]).2 serverHost serverHost_drawn
  have forked := (opened serverKey serverCommand serverListening rfl serverHost_moves
    [.segment (fromPeer 2000 syn .rcvSyn)] (.cons (fun _ step => Except.ok.inj step.2) first
      trivial)).2 serverForked serverListening_moves
  refine ⟨forked.1, forked.2 _ second ?_⟩
  rintro i c ⟨⟩ ⟨⟩ -
  rfl

/-- The peer resets the half-open connection, which listens again, beside the clone. Another SYN of
the peer then is for it. -/
theorem reset_listens_again : Moves (start Window.defaults) (.newSocket 0) serverHost ∧
    Moves serverHost (.openPassive serverKey serverCommand) serverListening ∧
      Moves serverListening (.segment (fromPeer 2000 syn .rcvSyn)) serverForked ∧
        ∃ t, Moves serverForked (.segment (fromPeer 2000 rst .rcvRst)) t ∧
        ¬ OneListener 0 serverKey t ∧
          t.handleMessage (.segment (fromPeer 2000 syn .rcvSyn)) = .error .addressInUse := by
  refine ⟨serverHost_drawn, serverHost_moves, serverListening_moves, _, ⟨?_, rfl⟩, ?_, rfl⟩
  · rintro i c ⟨⟩ ⟨⟩
    refine ⟨nofun, fun _ => ?_⟩
    exact ⟨{ (Connection.new 536 7504 false true).answerSyn syn 0 with fsm := .synRcvd }, _, rfl,
      rfl, nofun, rfl⟩
  · rintro ⟨i, c, -, -, -, -, unique⟩
    have forked := unique 0 _ rfl rfl rfl
    have cloned := unique 1 _ rfl rfl rfl
    omega

end TCP

end Srwsn
