import Srwsn.Lib.Tally
import Srwsn.Net.ARP

/-! Every packet that needs resolution is sent once, deleted or waits, in every run. -/
namespace Srwsn

open Trace Outcome Tally KeyMap List

namespace ArpAction

def sentPacket : ArpAction → Option OutPacket
  | toNIC (.packet p) _ _ => if p.resolves then some p else none
  | _ => none

def deletedPacket : ArpAction → Option OutPacket
  | deletes p => some p
  | _ => none

def sent (log : List ArpAction) : List OutPacket := log.filterMap sentPacket
def deleted (log : List ArpAction) : List OutPacket := log.filterMap deletedPacket

/-- The requests sent since the last resolution of the address began. -/
def asked (address : UInt32) : List ArpAction → Nat
  | [] => 0
  | toNIC (.arp arp) _ _ :: rest =>
    asked address rest + if arp.opcode = .request ∧ arp.destIPAddress = address then 1 else 0
  | starts a :: rest => if a = address then 0 else asked address rest
  | _ :: rest => asked address rest

def Aside (log log' : List ArpAction) : Prop :=
  sent log' = sent log ∧ deleted log' = deleted log ∧ ∀ a, asked a log' = asked a log

end ArpAction

open ArpAction

def OutPacket.goesTo (address : UInt32) (p : OutPacket) : Bool := p.hop == some address

namespace ARP

structure Resolved (s : ARP) (n : Nat) : Prop where
  all : Tallied (·.number) (sent s.log ++ deleted s.log ++ s.pendingQueue) n
  order : ∀ address, (((sent s.log).filter (·.goesTo address)).map (·.number)).Pairwise (· > ·)
  timer : ∀ address e, s.arpCache.find? address = some e →
    (e.pending = true ↔ ∃ id t, e.timer = some id ∧ s.timers.find? id = some (address, t))
  waiting : ∀ p ∈ s.pendingQueue, ∃ address e, s.arpCache.find? address = some e ∧
    p ∈ e.pendingPackets
  pending : ∀ address e, s.arpCache.find? address = some e → ∀ p ∈ e.pendingPackets,
    e.pending = true ∧ p.goesTo address = true
  single : ∀ id id' address t t', s.timers.find? id = some (address, t) →
    s.timers.find? id' = some (address, t') → id = id'
  asks : ∀ address, (asked address s.log : Int) ≤ max 1 s.retryCount

def waitingFor (s : ARP) (address : UInt32) : List OutPacket :=
  ((s.arpCache.find? address).map (·.pendingPackets)).getD []

def Runs (s : ARP) (id : Nat) (address : UInt32) : Prop :=
  ∃ t, s.timers.find? id = some (address, t)

def sentTo (address : UInt32) (log : List ArpAction) : List OutPacket :=
  (sent log).filter (·.goesTo address)

structure Local (s : ARP) (a : UInt32) : Prop where
  busy : ∀ e, s.arpCache.find? a = some e → e.pending = true → ∃ id, e.timer = some id ∧ s.Runs id a
  idle : ∀ e, s.arpCache.find? a = some e → e.pending = false → e.timer = none ∧
    e.pendingPackets = []
  timer : ∀ id, s.Runs id a → ∃ e, s.arpCache.find? a = some e ∧ e.timer = some id
  own : ∀ p ∈ s.waitingFor a, p.goesTo a = true ∧ p.resolves = true
  order : ((s.waitingFor a).reverse ++ sentTo a s.log).Pairwise (·.number > ·.number)
  asks : (asked a s.log : Int) ≤ max 1 s.retryCount
  retries : ∀ e, s.arpCache.find? a = some e → e.pending = true → asked a s.log = e.numRetries + 1

structure Inv (s : ARP) (n : Nat) : Prop where
  each : ∀ a, s.Local a
  fresh : ∀ id v, s.timers.find? id = some v → id < s.nextTimer
  queue : (s.pendingQueue : Multiset OutPacket) = s.arpCache.total fun e =>
    (e.pendingPackets : Multiset OutPacket)
  all : Tallied (·.number) (sent s.log ++ deleted s.log ++ s.pendingQueue) n

abbrev waits (cache : KeyMap UInt32 ARPCacheEntry) : Multiset OutPacket :=
  cache.total fun e => (e.pendingPackets : Multiset OutPacket)

variable {s s' : ARP} {n : Nat} {a : UInt32} {e : ARPCacheEntry} {p : OutPacket}

theorem waitingFor_eq (found : s.arpCache.find? a = some e) :
    s.waitingFor a = e.pendingPackets := by
  rw [waitingFor, found]
  rfl

theorem Local.sent_order (here : s.Local a) : (sentTo a s.log).Pairwise (·.number > ·.number) :=
  (pairwise_append.mp here.order).2.1

theorem Local.timer_of (here : s.Local a) (found : s.arpCache.find? a = some e) {id : Nat}
    (running : s.Runs id a) : e.timer = some id := by
  obtain ⟨d, found', own⟩ := here.timer id running
  rwa [← Option.some.inj (found.symm.trans found')] at own

theorem Inv.resolved (inv : s.Inv n) : s.Resolved n where
  all := inv.all
  order address := pairwise_map.mpr (inv.each address).sent_order
  timer := by
    intro address e found
    constructor
    · intro busy
      obtain ⟨id, own, t, running⟩ := (inv.each address).busy e found busy
      exact ⟨id, t, own, running⟩
    · rintro ⟨id, t, own, -⟩
      by_contra idle
      rw [((inv.each address).idle e found (Bool.not_eq_true _ ▸ idle)).1] at own
      cases own
  waiting := by
    intro p member
    rw [← Multiset.mem_coe, inv.queue] at member
    exact mem_total.mp member
  pending := by
    intro address e found p member
    refine ⟨?_, ((inv.each address).own p (waitingFor_eq found ▸ member)).1⟩
    by_contra idle
    rw [((inv.each address).idle e found (Bool.not_eq_true _ ▸ idle)).2] at member
    cases member
  single := by
    intro id id' address t t' first second
    obtain ⟨e, found, own⟩ := (inv.each address).timer id ⟨t, first⟩
    exact Option.some.inj (own.symm.trans ((inv.each address).timer_of found ⟨t', second⟩))
  asks address := (inv.each address).asks

theorem Local.of_entry (look : s.arpCache.find? a = some e)
    (busy : e.pending = true → (∃ id, e.timer = some id ∧ s.Runs id a) ∧
      asked a s.log = e.numRetries + 1)
    (idle : e.pending = false → e.timer = none ∧ e.pendingPackets = [])
    (timer : ∀ id, s.Runs id a → e.timer = some id)
    (own : ∀ p ∈ e.pendingPackets, p.goesTo a = true ∧ p.resolves = true)
    (order : (e.pendingPackets.reverse ++ sentTo a s.log).Pairwise (·.number > ·.number))
    (asks : (asked a s.log : Int) ≤ max 1 s.retryCount) : s.Local a := by
  have only : ∀ {d}, s.arpCache.find? a = some d → d = e :=
    fun found => Option.some.inj (found.symm.trans look)
  refine ⟨fun d found => ?_, fun d found => ?_, fun id runs => ⟨e, look, timer id runs⟩, ?_, ?_,
    asks, fun d found => ?_⟩
  · rw [only found]
    exact fun now => (busy now).1
  · rw [only found]
    exact idle
  · rw [waitingFor_eq look]
    exact own
  · rw [waitingFor_eq look]
    exact order
  · rw [only found]
    exact fun now => (busy now).2

def Quiet (e : ARPCacheEntry) : Prop := e.pending = false ∧ e.timer = none ∧ e.pendingPackets = []

theorem Local.of_quiet (quiet : ∀ e, s.arpCache.find? a = some e → Quiet e)
    (unused : ∀ id, ¬ s.Runs id a) (order : (sentTo a s.log).Pairwise (·.number > ·.number))
    (asks : (asked a s.log : Int) ≤ max 1 s.retryCount) :
    s.Local a := by
  have waiting : s.waitingFor a = [] := by
    cases found : s.arpCache.find? a with
    | none => rw [waitingFor, found]; rfl
    | some e => rw [waitingFor_eq found, (quiet e found).2.2]
  have free : ∀ e, s.arpCache.find? a = some e → ¬ e.pending = true :=
    fun e found => by simp [(quiet e found).1]
  refine ⟨fun e found busy => absurd busy (free e found), fun e found _ => (quiet e found).2,
    fun id runs => absurd runs (unused id), by simp [waiting], by simpa [waiting] using order, asks,
    fun e found busy => absurd busy (free e found)⟩

theorem modify_self (found : s.arpCache.find? a = some e) (f : ARPCacheEntry → ARPCacheEntry) :
    (s.arpCache.modify a f).find? a = some (f e) := by
  simp [found]

theorem total_same (found : s.arpCache.find? a = some e) {f : ARPCacheEntry → ARPCacheEntry}
    (same : (f e).pendingPackets = e.pendingPackets) :
    waits (s.arpCache.modify a f) = waits s.arpCache := by
  rw [waits, waits, total_modify _ found, total_erase _ found, same]

theorem idle_of (found : s.arpCache.find? a = some e) (idle : e.pending = false) :
    ∀ d, s.arpCache.find? a = some d → d.pending = false := by
  intro d here
  rw [← Option.some.inj (found.symm.trans here)]
  exact idle

theorem Local.congr (here : s.Local a) (look : s'.arpCache.find? a = s.arpCache.find? a)
    (runs : ∀ id, s'.Runs id a ↔ s.Runs id a) (out : sentTo a s'.log = sentTo a s.log)
    (asks : asked a s'.log = asked a s.log) (count : s'.retryCount = s.retryCount) :
    s'.Local a := by
  have waiting : s'.waitingFor a = s.waitingFor a := by rw [waitingFor, waitingFor, look]
  refine ⟨?_, ?_, ?_, ?_, ?_, ?_, ?_⟩
  · rw [look]
    intro e found busy
    obtain ⟨id, own, running⟩ := here.busy e found busy
    exact ⟨id, own, (runs id).mpr running⟩
  · rw [look]
    exact here.idle
  · intro id running
    rw [look]
    exact here.timer id ((runs id).mp running)
  · rw [waiting]
    exact here.own
  · rw [waiting, out]
    exact here.order
  · rw [asks, count]
    exact here.asks
  · rw [look, asks]
    exact here.retries

theorem Local.unused (here : s.Local a) (idle : ∀ e, s.arpCache.find? a = some e →
    e.pending = false) : (∀ id, ¬ s.Runs id a) ∧ s.waitingFor a = [] := by
  constructor
  · intro id running
    obtain ⟨e, found, own⟩ := here.timer id running
    rw [(here.idle e found (idle e found)).1] at own
    cases own
  · cases found : s.arpCache.find? a with
    | none => rw [waitingFor, found]; rfl
    | some e => rw [waitingFor_eq found, (here.idle e found (idle e found)).2]

theorem Inv.aside (inv : s.Inv n) {log : List ArpAction} (same : Aside s.log log) :
    Inv { s with log := log } n := by
  obtain ⟨out, gone, asks⟩ := same
  refine ⟨fun a => (inv.each a).congr rfl (fun _ => .rfl) ?_ (asks a) rfl, inv.fresh, inv.queue, ?_⟩
  · exact congrArg (List.filter (·.goesTo a)) out
  · dsimp only
    rw [out, gone]
    exact inv.all

theorem Inv.put (inv : s.Inv n) {cache : KeyMap UInt32 ARPCacheEntry}
    (look : ∀ b, cache.find? b = if b = a then some e else s.arpCache.find? b)
    (total : waits cache = waits s.arpCache)
    (before : ∀ d, s.arpCache.find? a = some d → d.pending = false) (quiet : Quiet e) :
    Inv { s with arpCache := cache } n := by
  refine ⟨fun b => ?_, inv.fresh, inv.queue.trans total.symm, inv.all⟩
  by_cases same : b = a
  · rw [same]
    refine .of_quiet (fun d found => ?_) ((inv.each a).unused before).1 (inv.each a).sent_order
      (inv.each a).asks
    cases ((look a).trans (if_pos rfl)).symm.trans found
    exact quiet
  · exact (inv.each b).congr (by dsimp only; rw [look, if_neg same]) (fun _ => .rfl) rfl rfl rfl

theorem Inv.put_new (inv : s.Inv n) (absent : s.arpCache.find? a = none) (interfaceId : Int) :
    Inv { s with arpCache := s.arpCache.insert a { interfaceId := interfaceId } } n :=
  inv.put (fun b => find?_insert) (by rw [waits, total_insert _ absent]; simp)
    (fun d found => by cases absent.symm.trans found) ⟨rfl, rfl, rfl⟩

variable {id j : Nat}

theorem runs_insert {t : Nat} (b : UInt32) :
    Runs { s with timers := s.timers.insert j (a, t) } id b ↔ (id = j ∧ b = a) ∨
    (id ≠ j ∧ s.Runs id b) := by
  unfold Runs
  dsimp only
  rw [find?_insert]
  by_cases same : id = j
  · simp [same, eq_comm]
  · simp [same]

theorem runs_erase (b : UInt32) : Runs { s with timers := s.timers.erase j } id b ↔ id ≠ j ∧
    s.Runs id b := by
  unfold Runs
  dsimp only
  rw [find?_erase]
  by_cases same : id = j
  · simp [same]
  · simp [same]

theorem Runs.unique {b : UInt32} (first : s.Runs id a) (second : s.Runs id b) : b = a := by
  obtain ⟨x, first⟩ := first
  obtain ⟨y, second⟩ := second
  exact (Prod.mk.inj (Option.some.inj (second.symm.trans first))).1

theorem Inv.initiate (inv : s.Inv n) (found : s.arpCache.find? a = some e)
    (idle : e.pending = false) {arp : ARPPacket} (request : arp.opcode = .request)
    (target : arp.destIPAddress = a) (gate : Int)
    (dest : MACAddress) (t : Nat) : Inv { s with
      log := .toNIC (.arp arp) gate dest :: .starts a :: s.log
      arpCache := s.arpCache.modify a fun e =>
        { e with pending := true, numRetries := 0, lastUpdate := 0, timer := some s.nextTimer }
      timers := s.timers.insert s.nextTimer (a, t)
      nextTimer := s.nextTimer + 1 } n := by
  obtain ⟨unused, -⟩ := (inv.each a).unused (idle_of found idle)
  have packets : e.pendingPackets = [] := ((inv.each a).idle e found idle).2
  refine ⟨fun b => ?_, fun id v here => ?_, ?_, inv.all⟩
  · by_cases same : b = a
    · rw [same]
      refine .of_entry (modify_self found _)
        (fun _ => ⟨⟨s.nextTimer, rfl, (runs_insert a).mpr (.inl ⟨rfl, rfl⟩)⟩, ?_⟩)
        (fun quiet => by cases quiet) (fun id running => ?_) ?_ ?_ ?_
      · simp [asked, request, target]
      · rcases (runs_insert a).mp running with ⟨own, -⟩ | ⟨-, old⟩
        · rw [own]
        · exact absurd old (unused id)
      · simp [packets]
      · rw [packets]
        exact (inv.each a).sent_order
      · simp [asked, request, target]
    · refine (inv.each b).congr ?_ (fun id => ?_) rfl ?_ rfl
      · simp [same]
      · refine (runs_insert b).trans ⟨?_, fun running => .inr ⟨?_, running⟩⟩
        · rintro (⟨-, here⟩ | ⟨-, running⟩)
          · exact absurd here same
          · exact running
        · rintro rfl
          obtain ⟨t, here⟩ := running
          exact Nat.lt_irrefl _ (inv.fresh _ _ here)
      · simp [asked, target, Ne.symm same]
  · dsimp only at here ⊢
    rw [find?_insert] at here
    split_ifs at here with same
    · omega
    · exact (inv.fresh id v here).trans (Nat.lt_succ_self _)
  · exact inv.queue.trans (total_same found rfl).symm

theorem Inv.waiting_lt (inv : s.Inv n) (member : p ∈ s.waitingFor a ++ sentTo a s.log) :
    p.number < n := by
  apply inv.all.lt
  rcases mem_append.mp member with waits | out
  · refine mem_append_right _ (Multiset.mem_coe.mp ?_)
    rw [inv.queue]
    cases found : s.arpCache.find? a with
    | none =>
      rw [waitingFor, found] at waits
      cases waits
    | some e => exact mem_total.mpr ⟨a, e, found, waitingFor_eq found ▸ waits⟩
  · exact mem_append_left _ (mem_append_left _ (mem_of_mem_filter out))

theorem Inv.enqueue (inv : s.Inv p.number) (found : s.arpCache.find? a = some e)
    (busy : e.pending = true) (hop : p.goesTo a = true) (resolves : p.resolves = true) :
    (s.enqueuePacket a p).Inv (p.number + 1) := by
  refine ⟨fun b => ?_, inv.fresh, ?_, ?_⟩
  · by_cases same : b = a
    · rw [same]
      have here := inv.each a
      refine .of_entry (modify_self found _) (fun _ => ⟨here.busy e found busy,
        here.retries e found busy⟩)
        (fun quiet => Bool.noConfusion (busy.symm.trans quiet)) (fun id => here.timer_of found)
        (fun q member => ?_) ?_ here.asks
      · rcases mem_snoc member with old | rfl
        · exact here.own q (waitingFor_eq found ▸ old)
        · exact ⟨hop, resolves⟩
      · have order := here.order
        rw [waitingFor_eq found] at order
        rw [reverse_append, append_assoc]
        refine pairwise_cons.mpr ⟨fun q member => ?_, order⟩
        have member : q ∈ e.pendingPackets.reverse ++ sentTo a s.log := member
        apply inv.waiting_lt
        rw [waitingFor_eq found]
        simpa using member
    · exact (inv.each b).congr (by simp [enqueuePacket, same]) (fun _ => .rfl) rfl rfl rfl
  · have queue := inv.queue
    rw [total_erase _ found] at queue
    rw [enqueuePacket]
    dsimp only
    rw [total_modify _ found, ← Multiset.coe_add, queue, ← Multiset.coe_add]
    exact add_right_comm _ _ _
  · exact inv.all.add_last rfl (.refl _)

theorem not_goesTo {b : UInt32} (hop : p.goesTo a = true) (other : b ≠ a) : p.goesTo b = false := by
  rw [OutPacket.goesTo, beq_iff_eq] at hop
  rw [OutPacket.goesTo, hop, beq_eq_false_iff_ne]
  exact fun same => other (Option.some.inj same).symm

theorem Inv.hit (inv : s.Inv p.number) (found : s.arpCache.find? a = some e)
    (idle : e.pending = false) (hop : p.goesTo a = true) (resolves : p.resolves = true) (gate : Int)
    (dest : MACAddress) :
    Inv { s with log := .toNIC (.packet p) gate dest :: s.log } (p.number + 1) := by
  have out : sent (.toNIC (.packet p) gate dest :: s.log) = p :: sent s.log := by
    simp [sent, sentPacket, resolves]
  refine ⟨fun b => ?_, inv.fresh, inv.queue, ?_⟩
  · by_cases same : b = a
    · rw [same]
      have here := inv.each a
      have none : s.waitingFor a = [] := (here.unused (idle_of found idle)).2
      refine ⟨here.busy, here.idle, here.timer, here.own, ?_, here.asks, here.retries⟩
      have more : sentTo a (.toNIC (.packet p) gate dest :: s.log) = p :: sentTo a s.log := by
        rw [sentTo, out, filter_cons_of_pos hop]
        rfl
      rw [show waitingFor { s with log := .toNIC (.packet p) gate dest :: s.log } a = [] from none,
        more]
      exact pairwise_cons.mpr ⟨fun q member => inv.waiting_lt (mem_append_right _ member),
        here.sent_order⟩
    · refine (inv.each b).congr rfl (fun _ => .rfl) ?_ rfl rfl
      rw [sentTo, out, filter_cons_of_neg (by simp [not_goesTo hop same])]
      rfl
  · dsimp only
    rw [out]
    exact inv.all.add rfl (.refl _)

theorem Inv.fresh_erase (inv : s.Inv n) : ∀ j v, (s.timers.erase id).find? j = some v →
    j < s.nextTimer := by
  intro j v here
  rw [find?_erase] at here
  split_ifs at here
  exact inv.fresh j v here

theorem Inv.retry (inv : s.Inv n) (found : s.arpCache.find? a = some e) (own : e.timer = some id)
    (running : s.Runs id a) (few : (e.numRetries + 1 : Int) < s.retryCount) {arp : ARPPacket}
    (request : arp.opcode = .request) (target : arp.destIPAddress = a) (gate : Int)
    (dest : MACAddress) (t : Nat) :
    Inv { s with
      log := .toNIC (.arp arp) gate dest :: s.log
      arpCache := s.arpCache.modify a fun e => { e with numRetries := e.numRetries + 1 }
      timers := (s.timers.erase id).insert id (a, t) } n := by
  have here := inv.each a
  have busy : e.pending = true := by
    by_contra idle
    rw [(here.idle e found (Bool.not_eq_true _ ▸ idle)).1] at own
    cases own
  have runs : ∀ j b, Runs { s with timers := (s.timers.erase id).insert id (a, t) } j b ↔
      s.Runs j b := by
    intro j b
    refine (@runs_insert { s with timers := s.timers.erase id } a j id t b).trans ?_
    rw [runs_erase]
    by_cases same : j = id
    · rw [same]
      refine ⟨?_, fun other => .inl ⟨rfl, running.unique other⟩⟩
      rintro (⟨-, rfl⟩ | ⟨other, -⟩)
      · exact running
      · exact absurd rfl other
    · simp [same]
  have count := here.retries e found busy
  refine ⟨fun b => ?_, fun j v look' => ?_, ?_, inv.all⟩
  · by_cases same : b = a
    · rw [same]
      refine .of_entry (modify_self found _)
        (fun _ => ⟨⟨id, own, (runs id a).mpr running⟩, by simp [asked, count, request, target]⟩)
        (fun quiet => Bool.noConfusion (busy.symm.trans quiet))
          (fun j runs' => here.timer_of found ((runs j a).mp runs'))
        (waitingFor_eq found ▸ here.own) (waitingFor_eq found ▸ here.order) ?_
      simp only [asked, request, target, and_self, if_true]
      omega
    · refine (inv.each b).congr ?_ (fun j => runs j b) rfl ?_ rfl
      · simp [same]
      · simp [asked, target, Ne.symm same]
  · dsimp only at look' ⊢
    rw [find?_insert] at look'
    split_ifs at look' with same
    · obtain ⟨x, first⟩ := running
      rw [same]
      exact inv.fresh id _ first
    · exact inv.fresh_erase j v look'
  · exact inv.queue.trans (total_same found rfl).symm

theorem diff_perm {q l x x' : List OutPacket} (inside : (l : Multiset OutPacket) ≤ q)
    (more : (x' : Multiset OutPacket) = x + l) : (x' ++ q.diff l).Perm (x ++ q) := by
  rw [← Multiset.coe_eq_coe, ← Multiset.coe_add, ← Multiset.coe_add, ← Multiset.coe_sub, more,
    add_assoc, add_tsub_cancel_of_le inside]

theorem Inv.waiting_le (inv : s.Inv n) (found : s.arpCache.find? a = some e) :
    (e.pendingPackets : Multiset OutPacket) ≤ s.pendingQueue ∧
      ((s.pendingQueue.diff e.pendingPackets : List OutPacket) : Multiset OutPacket) =
      waits (s.arpCache.erase a) := by
  have queue := inv.queue
  rw [total_erase _ found] at queue
  constructor
  · rw [queue]
    exact Multiset.le_add_right _ _
  · rw [← Multiset.coe_sub, queue, add_tsub_cancel_left]

theorem deletes_log (packets : List OutPacket) (log : List ArpAction) :
    sent ((packets.map .deletes).reverse ++ log) = sent log ∧
      deleted ((packets.map .deletes).reverse ++ log) = packets.reverse ++ deleted log ∧
      ∀ b, asked b ((packets.map .deletes).reverse ++ log) = asked b log := by
  induction packets generalizing log with
  | nil => exact ⟨rfl, rfl, fun _ => rfl⟩
  | cons p packets ih =>
    obtain ⟨out, gone, asks⟩ := ih (.deletes p :: log)
    simp only [map_cons, reverse_cons, append_assoc, singleton_append]
    exact ⟨out, gone, asks⟩

theorem deleted_sends (gate : Int) (dest : MACAddress) (packets : List OutPacket)
    (log : List ArpAction) :
    deleted ((packets.map fun p => .toNIC (.packet p) gate dest).reverse ++ log) = deleted log := by
  simp [deleted, filterMap_append, deletedPacket, Function.comp_def]

theorem sends_log (gate : Int) (dest : MACAddress) (packets : List OutPacket) (log : List ArpAction)
    (resolve : ∀ p ∈ packets, p.resolves = true) :
    sent ((packets.map fun p => .toNIC (.packet p) gate dest).reverse ++ log) =
    packets.reverse ++ sent log ∧
      ∀ b, asked b ((packets.map fun p => .toNIC (.packet p) gate dest).reverse ++ log) =
      asked b log := by
  induction packets generalizing log with
  | nil => exact ⟨rfl, fun _ => rfl⟩
  | cons p packets ih =>
    obtain ⟨out, asks⟩ := ih (.toNIC (.packet p) gate dest :: log) fun q member =>
      resolve q (mem_cons_of_mem p member)
    have first : sent (.toNIC (.packet p) gate dest :: log) = p :: sent log := by
      simp [sent, sentPacket, resolve p mem_cons_self]
    simp only [map_cons, reverse_cons, append_assoc, singleton_append]
    exact ⟨first ▸ out, asks⟩

section Finish

variable (inv : s.Inv n) {id : Nat} (found : s.arpCache.find? a = some e) (own : e.timer = some id)
  (running : s.Runs id a)

include inv found own running

theorem Inv.runs_stopped : (∀ j, ¬ Runs { s with timers := s.timers.erase id } j a) ∧
      ∀ b, b ≠ a → ∀ j, Runs { s with timers := s.timers.erase id } j b ↔ s.Runs j b := by
  constructor
  · intro j still
    obtain ⟨other, old⟩ := (runs_erase a).mp still
    exact other (Option.some.inj (own.symm.trans ((inv.each a).timer_of found old))).symm
  · intro b apart j
    refine (runs_erase b).trans ⟨And.right, fun runs => ⟨?_, runs⟩⟩
    rintro rfl
    exact apart (running.unique runs)

theorem Inv.finish {cache : KeyMap UInt32 ARPCacheEntry} {log : List ArpAction}
    {x y : List OutPacket} (look : ∀ b, b ≠ a → cache.find? b = s.arpCache.find? b)
    (quiet : ∀ d, cache.find? a = some d → Quiet d)
    (total : waits cache = waits (s.arpCache.erase a))
    (out : sent log = x ++ sent s.log) (gone : deleted log = y ++ deleted s.log)
    (asks : ∀ b, asked b log = asked b s.log) (part : x.Sublist e.pendingPackets.reverse)
    (split : (x : Multiset OutPacket) + y = e.pendingPackets) : Inv { s with
      timers := s.timers.erase id, arpCache := cache, pendingQueue :=
        s.pendingQueue.diff e.pendingPackets
      log := log } n := by
  have here := inv.each a
  have goes : ∀ p ∈ x, p.goesTo a = true := fun p member =>
    (here.own p (waitingFor_eq found ▸ mem_reverse.mp (part.subset member))).1
  obtain ⟨stopped, others⟩ := inv.runs_stopped found own running
  obtain ⟨inside, left⟩ := inv.waiting_le found
  refine ⟨fun b => ?_, inv.fresh_erase, left.trans total.symm, ?_⟩
  · by_cases same : b = a
    · rw [same]
      refine .of_quiet quiet stopped ?_ ((asks a).symm ▸ here.asks)
      rw [sentTo, out, filter_append, filter_eq_self.mpr goes]
      exact (waitingFor_eq found ▸ here.order).sublist (part.append_right _)
    · refine (inv.each b).congr (look b same) (others b same) ?_ (asks b) rfl
      rw [sentTo, out, filter_append, filter_eq_nil_iff.mpr fun p member => by
        simp [not_goesTo (goes p member) same]]
      rfl
  · dsimp only
    rw [out, gone]
    refine inv.all.perm (diff_perm inside ?_)
    simp only [← Multiset.coe_add, ← split]
    abel

theorem Inv.drop : Inv ({ s with timers := s.timers.erase id }.dropEntry a e) n := by
  obtain ⟨out, gone, asks⟩ := deletes_log e.pendingPackets s.log
  refine inv.finish found own running (fun b other => ?_) (fun d here => ?_) rfl out gone asks
    (nil_sublist _) ?_
  · rw [find?_erase, if_neg other]
  · rw [find?_erase, if_pos rfl] at here
    cases here
  · simp

end Finish

variable {env : ArpEnv} {now : Nat}

theorem Inv.initiateARPResolution (inv : s.Inv p.number) (found : s.arpCache.find? a = some e)
    (idle : e.pending = false) (hop : p.goesTo a = true) (resolves : p.resolves = true)
    (done : (s.initiateARPResolution env now a e).map (·.enqueuePacket a p) = .ok s') :
    s'.Inv (p.number + 1) := by
  obtain ⟨m, started, rfl⟩ := map_eq_ok done
  obtain ⟨m, asked, rfl⟩ := map_eq_ok started
  obtain ⟨arp, gate, request, target, rfl⟩ := sendARPRequest_eq asked
  have opened :=
    inv.initiate found idle request target gate MACAddress.BROADCAST_ADDRESS (now + s.retryTimeout)
  exact opened.enqueue (modify_self found _) rfl hop resolves

theorem Inv.processOutboundPacket (inv : s.Inv p.number)
    (resolves : p.resolves = needsResolution env p)
    (done : s.processOutboundPacket env now p = .ok s') :
    s'.Inv (if p.resolves then p.number + 1 else p.number) := by
  unfold ARP.processOutboundPacket at done
  split at done
  · cases done
  · next ie interface =>
    split_ifs at done with direct
    · have no : p.resolves = false := by
        rw [resolves, needsResolution, interface]
        cases p.hop <;> simp_all
      cases done
      rw [if_neg (by simp [no])]
      exact inv.aside ⟨rfl, rfl, fun _ => rfl⟩
    · split at done
      · cases done
      · next address hop =>
        have needs : p.resolves = !isBroadcastHop ie address := by
          rw [resolves, needsResolution, interface, hop]
          simp_all
        split_ifs at done with all
        · obtain ⟨_, -, rfl⟩ := sendPacketToNIC_eq done
          have no : p.resolves = false := by simp [needs, all]
          rw [if_neg (by simp [no])]
          exact inv.aside ⟨by simp [sent, sentPacket, no], rfl, fun _ => rfl⟩
        · have yes : p.resolves = true := by simp [needs, all]
          have goes : p.goesTo address = true := by simp [OutPacket.goesTo, hop]
          rw [if_pos yes]
          split at done
          · next absent =>
            exact (inv.put_new absent p.interfaceId).initiateARPResolution (by simp) rfl
              goes yes done
          · next entry found =>
            split_ifs at done with busy stale
            · cases done
              exact inv.enqueue found busy goes yes
            · have idle : entry.pending = false := Bool.not_eq_true _ ▸ busy
              obtain ⟨timer, packets⟩ := (inv.each address).idle entry found idle
              have put : Inv { s with arpCache := s.arpCache.modify address fun _ =>
                  { entry with interfaceId := p.interfaceId } } p.number :=
                inv.put (a := address) (e := { entry with interfaceId := p.interfaceId })
                  (fun b => by by_cases same : b = address <;> simp [same, found])
                  (total_same found rfl) (idle_of found idle) ⟨idle, timer, packets⟩
              exact put.initiateARPResolution (e := { entry with interfaceId := p.interfaceId })
                (by simp [found]) idle goes yes done
            · obtain ⟨_, -, rfl⟩ := sendPacketToNIC_eq done
              exact inv.hit found (Bool.not_eq_true _ ▸ busy) goes yes _ _

theorem Inv.requestTimedOut (inv : s.Inv n) (done : s.requestTimedOut env now id = .ok s') :
    s'.Inv n := by
  unfold ARP.requestTimedOut at done
  split at done
  · cases done
  · next address t running =>
    dsimp only at done
    split at done
    · cases done
    · next entry found =>
      split_ifs at done with own few
      · obtain ⟨m, asked, rfl⟩ := map_eq_ok done
        obtain ⟨arp, gate, request, target, rfl⟩ := sendARPRequest_eq asked
        exact inv.retry found (not_not.mp own) ⟨t, running⟩ few request target gate
          MACAddress.BROADCAST_ADDRESS (now + s.retryTimeout)
      · cases done
        exact inv.drop found (not_not.mp own) ⟨t, running⟩

theorem Inv.updateARPCache (inv : s.Inv n) {macAddress : MACAddress}
    (done : s.updateARPCache env now a macAddress = .ok s') : s'.Inv n := by
  unfold ARP.updateARPCache at done
  split at done
  · cases done
  · next entry found =>
    obtain ⟨m, stopped, rest⟩ := bind_eq_ok done
    obtain ⟨gate, rfl⟩ := sendPending_eq rest
    unfold stopTimer at stopped
    split_ifs at stopped with busy
    · obtain ⟨id, own, running⟩ := (inv.each a).busy entry found busy
      rw [own] at stopped
      cases stopped
      have gone := deleted_sends gate macAddress entry.pendingPackets s.log
      obtain ⟨out, asks⟩ := sends_log gate macAddress entry.pendingPackets s.log fun p member =>
        ((inv.each a).own p (waitingFor_eq found ▸ member)).2
      refine inv.finish found own running (y := []) (fun b other => by simp [other])
        (fun d here => ?_) ?_ out gone asks (.refl _) (by simp)
      · rw [modify_self found] at here
        cases here
        simp [Quiet, busy]
      · rw [waits, total_modify _ found]
        exact zero_add _
    · cases stopped
      have idle : entry.pending = false := Bool.not_eq_true _ ▸ busy
      obtain ⟨timer, packets⟩ := (inv.each a).idle entry found idle
      rw [packets]
      refine inv.put (a := a) (e := { entry with
          pending := false, macAddress := macAddress, lastUpdate := now, pendingPackets := [] })
            (fun b => ?_)
        (total_same found packets.symm) (idle_of found idle) ⟨rfl, timer, rfl⟩
      · by_cases same : b = a
        · simp [same, found, idle]
        · simp [same]

theorem Inv.processARPPacket (inv : s.Inv n) {arp : ARPPacket} {interfaceId : Int}
    (done : s.processARPPacket env now arp interfaceId = .ok s') : s'.Inv n := by
  unfold ARP.processARPPacket at done
  split_ifs at done
  obtain ⟨m, learnt, rest⟩ := bind_eq_ok done
  have inv' : m.Inv n := by
    unfold learn at learnt
    split at learnt
    · exact inv.updateARPCache learnt
    · next absent =>
      split_ifs at learnt
      · exact (inv.put_new absent interfaceId).updateARPCache learnt
      · cases learnt
        exact inv
  split_ifs at rest
  · unfold answer at rest
    split at rest
    · split at rest
      · cases rest
      · obtain ⟨_, -, rfl⟩ := sendPacketToNIC_eq rest
        exact inv'.aside ⟨rfl, rfl, fun _ => by simp [asked]⟩
    · cases rest
      exact inv'
    · cases rest
    · cases rest
    · cases rest
  · cases rest
    exact inv'

theorem initiateARPResolution_deleted (done : s.initiateARPResolution env now a e = .ok s') :
    deleted s'.log = deleted s.log := by
  obtain ⟨m, asked, rfl⟩ := map_eq_ok done
  obtain ⟨arp, gate, -, -, rfl⟩ := sendARPRequest_eq asked
  rfl

theorem processOutboundPacket_deleted (done : s.processOutboundPacket env now p = .ok s') :
    deleted s'.log = deleted s.log := by
  have begun : ∀ {m : ARP} {b d}, (m.initiateARPResolution env now b d).map (·.enqueuePacket b p) =
      .ok s' → deleted s'.log = deleted m.log := by
    intro m b d done
    obtain ⟨m', started, rfl⟩ := map_eq_ok done
    have same := initiateARPResolution_deleted started
    exact same
  unfold ARP.processOutboundPacket at done
  split at done
  · cases done
  · split_ifs at done
    · cases done
      rfl
    · split at done
      · cases done
      · split_ifs at done
        · obtain ⟨_, -, rfl⟩ := sendPacketToNIC_eq done
          rfl
        · split at done
          · have same := begun done
            exact same
          · split_ifs at done
            · cases done
              rfl
            · have same := begun done
              exact same
            · obtain ⟨_, -, rfl⟩ := sendPacketToNIC_eq done
              rfl

theorem updateARPCache_deleted {macAddress : MACAddress}
    (done : s.updateARPCache env now a macAddress = .ok s') : deleted s'.log = deleted s.log := by
  unfold ARP.updateARPCache at done
  split at done
  · cases done
  · obtain ⟨m, stopped, rest⟩ := bind_eq_ok done
    obtain ⟨gate, rfl⟩ := sendPending_eq rest
    refine (deleted_sends gate macAddress _ _).trans ?_
    unfold stopTimer at stopped
    split_ifs at stopped
    · split at stopped
      · cases stopped
      · cases stopped
        rfl
    · cases stopped
      rfl

theorem processARPPacket_deleted {arp : ARPPacket} {interfaceId : Int}
    (done : s.processARPPacket env now arp interfaceId = .ok s') :
    deleted s'.log = deleted s.log := by
  unfold ARP.processARPPacket at done
  split_ifs at done
  obtain ⟨m, learnt, rest⟩ := bind_eq_ok done
  have first : deleted m.log = deleted s.log := by
    unfold learn at learnt
    split at learnt
    · exact updateARPCache_deleted learnt
    · split_ifs at learnt
      · have same := updateARPCache_deleted learnt
        exact same
      · cases learnt
        rfl
  rw [← first]
  split_ifs at rest
  · unfold answer at rest
    split at rest
    · split at rest
      · cases rest
      · obtain ⟨_, -, rfl⟩ := sendPacketToNIC_eq rest
        rfl
    · cases rest
      rfl
    all_goals cases rest
  · cases rest
    rfl

theorem Inv.timer_unique (inv : s.Inv n) {b : UInt32} (found : s.arpCache.find? b = some e)
    (own : e.timer = some id) (running : s.Runs id a) : b = a := by
  cases pending : e.pending with
  | false =>
    rw [((inv.each b).idle e found pending).1] at own
    cases own
  | true =>
    obtain ⟨id', own', running'⟩ := (inv.each b).busy e found pending
    rw [own] at own'
    cases own'
    exact running.unique running'

theorem Inv.timed_out (inv : s.Inv n) (done : s.requestTimedOut env now id = .ok s') :
    ∃ address e, s.arpCache.find? address = some e ∧ e.timer = some id ∧ s.Runs id address ∧
      ((asked address s.log : Int) ≠ max 1 s.retryCount ∧ deleted s'.log = deleted s.log ∨
      (asked address s.log : Int) = max 1 s.retryCount ∧ s'.arpCache.find? address = none ∧
        deleted s'.log = e.pendingPackets.reverse ++ deleted s.log) := by
  unfold ARP.requestTimedOut at done
  split at done
  · cases done
  · next address t running =>
    dsimp only at done
    split at done
    · cases done
    · next entry found =>
      split_ifs at done with own few
      all_goals
        have own := not_not.mp own
        have busy : entry.pending = true := by
          by_contra idle
          rw [((inv.each address).idle entry found (Bool.not_eq_true _ ▸ idle)).1] at own
          cases own
        have count := (inv.each address).retries entry found busy
        have most := (inv.each address).asks
        refine ⟨address, entry, found, own, ⟨t, running⟩, ?_⟩
      · obtain ⟨m, asked, rfl⟩ := map_eq_ok done
        obtain ⟨arp, gate, -, -, rfl⟩ := sendARPRequest_eq asked
        exact .inl ⟨by omega, rfl⟩
      · cases done
        refine .inr ⟨by omega, ?_, (deletes_log entry.pendingPackets s.log).2.1⟩
        exact find?_erase.trans (if_pos rfl)

end ARP

inductive ArpEvent where
  | outbound (env : ArpEnv) (p : OutPacket)
  | arpPacket (env : ArpEnv) (arp : ARPPacket) (interfaceId : Int)
  | timeout (env : ArpEnv) (timer : Nat)

structure ArpRun where
  arp : ARP
  now : Nat := 0
  count : Nat := 0

namespace ArpRun

def numbered (w : ArpRun) (env : ArpEnv) (p : OutPacket) : OutPacket :=
  { p with resolves := ARP.needsResolution env p, number := w.count }

def handle (w : ArpRun) (time : Nat) : ArpEvent → Except ArpFault ArpRun
  | .outbound env p =>
    (w.arp.processOutboundPacket env time (w.numbered env p)).map fun arp =>
      { arp := arp
        now := time
        count := if ARP.needsResolution env p then w.count + 1 else w.count }
  | .arpPacket env arp interfaceId =>
    (w.arp.processARPPacket env time arp interfaceId).map ({ w with arp := ·, now := time })
  | .timeout env timer => (w.arp.requestTimedOut env time timer).map
      ({ w with arp := ·, now := time })

def Enabled (w : ArpRun) (time : Nat) : ArpEvent → Prop
  | .timeout _ timer => w.now ≤ time ∧ (w.arp.timers.find? timer).map (·.2) = some time
  | _ => w.now ≤ time

def Next (w : ArpRun) (e : Nat × ArpEvent) (w' : ArpRun) : Prop :=
  w.Enabled e.1 e.2 ∧ w.handle e.1 e.2 = .ok w'

variable {w w' : ArpRun} {e : Nat × ArpEvent}

/-- The last time-out of a resolution, after all its requests. -/
structure Fails (w : ArpRun) (e : ArpEvent) (address : UInt32) (entry : ARPCacheEntry) : Prop where
  expires : ∃ env timer, e = .timeout env timer ∧ entry.timer = some timer
  cached : w.arp.arpCache.find? address = some entry
  asked : (asked address w.arp.log : Int) = max 1 w.arp.retryCount

/-- A failure deletes the packets that wait for it, with its entry, and nothing else deletes
packets. -/
structure DeletesFailed (w : ArpRun) (e : ArpEvent) (w' : ArpRun) : Prop where
  failed : ∀ address entry, w.Fails e address entry → w'.arp.arpCache.find? address = none ∧
    deleted w'.arp.log = entry.pendingPackets.reverse ++ deleted w.arp.log
  kept : (∀ address entry, ¬ w.Fails e address entry) → deleted w'.arp.log = deleted w.arp.log

theorem DeletesFailed.of_kept {e : ArpEvent} (other : ∀ env timer, e ≠ .timeout env timer)
    (kept : deleted w'.arp.log = deleted w.arp.log) : w.DeletesFailed e w' := by
  refine ⟨fun address entry fails => ?_, fun _ => kept⟩
  obtain ⟨env, timer, same, -⟩ := fails.expires
  exact absurd same (other env timer)

theorem deletes_step (inv : w.arp.Inv w.count) (next : w.Next e w') : w.DeletesFailed e.2 w' := by
  obtain ⟨time, e⟩ := e
  obtain ⟨-, done⟩ := next
  cases e with
  | outbound env p =>
    obtain ⟨arp, handled, rfl⟩ := map_eq_ok done
    exact .of_kept nofun (ARP.processOutboundPacket_deleted handled)
  | arpPacket env arp interfaceId =>
    obtain ⟨arp, handled, rfl⟩ := map_eq_ok done
    exact .of_kept nofun (ARP.processARPPacket_deleted handled)
  | timeout env timer =>
    obtain ⟨arp, handled, rfl⟩ := map_eq_ok done
    obtain ⟨address, entry, found, own, running, ended⟩ := inv.timed_out handled
    have one : ∀ {b d}, w.Fails (.timeout env timer) b d → b = address ∧ d = entry := by
      rintro b d ⟨⟨_, _, same, own'⟩, found', -⟩
      cases same
      obtain rfl := inv.timer_unique found' own' running
      exact ⟨rfl, Option.some.inj (found'.symm.trans found)⟩
    rcases ended with ⟨few, kept⟩ | ⟨all, gone, dropped⟩
    · refine ⟨fun b d fails => ?_, fun _ => kept⟩
      obtain ⟨rfl, rfl⟩ := one fails
      exact absurd fails.asked few
    · have fails : w.Fails (.timeout env timer) address entry :=
        ⟨⟨env, timer, rfl, own⟩, found, all⟩
      refine ⟨fun b d fails => ?_, fun none => absurd fails (none address entry)⟩
      obtain ⟨rfl, rfl⟩ := one fails
      exact ⟨gone, dropped⟩

theorem inv_step (inv : w.arp.Inv w.count) (next : w.Next e w') : w'.arp.Inv w'.count := by
  obtain ⟨time, e⟩ := e
  obtain ⟨-, done⟩ := next
  cases e with
  | outbound env p =>
    obtain ⟨arp, handled, rfl⟩ := map_eq_ok done
    have inv' : w.arp.Inv (w.numbered env p).number := inv
    exact inv'.processOutboundPacket rfl handled
  | arpPacket env arp interfaceId =>
    obtain ⟨arp, handled, rfl⟩ := map_eq_ok done
    exact inv.processARPPacket handled
  | timeout env timer =>
    obtain ⟨arp, handled, rfl⟩ := map_eq_ok done
    exact inv.requestTimedOut handled

end ArpRun

def ARP.configured (retryTimeout : Nat) (retryCount : Int) (cacheTimeout : Nat)
    (doProxyARP : Bool) : ARP where
  retryTimeout := retryTimeout
  retryCount := retryCount
  cacheTimeout := cacheTimeout
  doProxyARP := doProxyARP

theorem ARP.inv_configured (retryTimeout : Nat) (retryCount : Int) (cacheTimeout : Nat)
    (doProxyARP : Bool) :
    (ARP.configured retryTimeout retryCount cacheTimeout doProxyARP).Inv 0 where
  each a := .of_quiet (fun e found => by cases found) (fun id ⟨t, running⟩ => by cases running) .nil
    (le_max_of_le_left zero_le_one)
  fresh id v running := by cases running
  queue := rfl
  all := tallied_nil

theorem packets_resolved (retryTimeout : Nat) (retryCount : Int) (cacheTimeout : Nat)
    (doProxyARP : Bool) (es : List (Nat × ArpEvent)) : Always ArpRun.Next
      (fun w => w.arp.Resolved w.count ∧ ∀ e w', w.Next e w' → w.DeletesFailed e.2 w')
      { arp := .configured retryTimeout retryCount cacheTimeout doProxyARP } es := by
  apply always_of_invariant (I := fun w => w.arp.Inv w.count)
  · exact fun w e w' inv next => ArpRun.inv_step inv next
  · exact fun w inv => ⟨inv.resolved, fun e w' next => ArpRun.deletes_step inv next⟩
  · exact ARP.inv_configured retryTimeout retryCount cacheTimeout doProxyARP

end Srwsn
