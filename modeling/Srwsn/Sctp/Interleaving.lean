import Srwsn.Lib.Trace
import Srwsn.Sctp.SendStreams

/-! Fragments of user messages in TSN order. -/
namespace Srwsn

open Outcome Trace SCTPDataMsg SCTPSendStreams List Function

structure Part where
  number : Nat
  bBit : Bool
  eBit : Bool
  bytes : List UInt8
  deriving DecidableEq

def SCTPSimpleMessage.bytes (smsg : SCTPSimpleMessage) : List UInt8 :=
  smsg.data.take smsg.dataLen.toNat

def SCTPDataMsg.part (msg : SCTPDataMsg) : Part :=
  ⟨msg.msgNum, msg.bBit, msg.eBit, msg.userData.bytes⟩

def SCTPDataVariables.part (chunk : SCTPDataVariables) : Part :=
  ⟨chunk.numbers.headD 0, chunk.bbit, chunk.ebit, chunk.userData.bytes⟩

/-- The parts are the bytes in order; the first has the B bit and the last has the E bit. -/
structure Partition (bytes : List UInt8) (parts : List Part) : Prop where
  nonempty : parts ≠ []
  bytes : (parts.map (·.bytes)).flatten = bytes
  first : ∀ k part, parts[k]? = some part → (part.bBit = true ↔ k = 0)
  last : ∀ k part, parts[k]? = some part → (part.eBit = true ↔ k + 1 = parts.length)

namespace SCTPDataMsg

variable {msg : SCTPDataMsg} {payload offset msgbytes : UInt32}

/-- Without room for data the loop goes on for ever. -/
theorem fragments_stuck (left : offset ≠ msg.userData.dataLen) (fuel : Nat) :
    Yields (fragments 0 msg fuel offset) fun _ => False := by
  induction fuel with
  | zero => exact .error
  | succ fuel ih =>
    have zero : ¬ (0 : UInt32) > msg.userData.dataLen - offset := by simp
    unfold fragments
    dsimp only
    rw [if_neg zero]
    refine .ite .error (yields_ite (fun done => ?_) fun _ => ?_)
    · exact absurd (by rw [done, UInt32.add_zero]) left
    · rw [UInt32.add_zero]
      exact ih.map

section Inside

variable (inside : offset.toNat + msgbytes.toNat ≤ msg.userData.dataLen.toNat)

include inside

theorem fragmentAt_bytes :
    (msg.fragmentAt offset msgbytes).userData.bytes =
    (msg.userData.bytes.drop offset.toNat).take msgbytes.toNat := by
  simp only [fragmentAt, SCTPSimpleMessage.bytes, take_take, Nat.min_self, drop_take]
  rw [Nat.min_eq_left (by omega)]

structure Fragments (msg : SCTPDataMsg) (offset : UInt32) (parts : List SCTPDataMsg) : Prop where
  nonempty : parts ≠ []
  bytes : ((parts.map part).map (·.bytes)).flatten = msg.userData.bytes.drop offset.toNat
  first : ∀ k f, (parts.map part)[k]? = some f → (f.bBit = true ↔ k = 0 ∧ offset = 0)
  last : ∀ k f, (parts.map part)[k]? = some f → (f.eBit = true ↔ k + 1 = parts.length)
  same : ∀ f ∈ parts, f.fragment = true ∧ f.sid = msg.sid ∧ f.ordered = msg.ordered ∧
    f.msgNum = msg.msgNum

theorem Fragments.single
    (done : msg.userData.dataLen = offset + msgbytes) :
    msg.Fragments offset [msg.fragmentAt offset msgbytes] := by
  have total : offset.toNat + msgbytes.toNat = msg.userData.dataLen.toNat := by
    have below := msg.userData.dataLen.toNat_lt
    rw [done, UInt32.toNat_add]
    omega
  refine ⟨cons_ne_nil _ _, ?_, fun k f found => ?_, fun k f found => ?_, fun f member => ?_⟩
  · have short : (msg.userData.bytes.drop offset.toNat).length ≤ msgbytes.toNat := by
      simp only [SCTPSimpleMessage.bytes, length_drop, length_take]
      omega
    simp only [map_cons, map_nil, flatten_cons, flatten_nil, append_nil, part]
    rw [fragmentAt_bytes inside, take_of_length_le short]
  · obtain ⟨rfl, rfl⟩ : k = 0 ∧ (msg.fragmentAt offset msgbytes).part = f := by
      simpa [getElem?_singleton] using found
    simp [part, fragmentAt]
  · obtain ⟨rfl, rfl⟩ : k = 0 ∧ (msg.fragmentAt offset msgbytes).part = f := by
      simpa [getElem?_singleton] using found
    simp [part, fragmentAt, done]
  · rw [mem_singleton.mp member]
    exact ⟨rfl, rfl, rfl, rfl⟩

theorem Fragments.cons {parts : List SCTPDataMsg}
 (more : msg.userData.dataLen ≠ offset + msgbytes) (pos : 0 < msgbytes.toNat)
    (rest : msg.Fragments (offset + msgbytes) parts) :
    msg.Fragments offset (msg.fragmentAt offset msgbytes :: parts) := by
  have next : (offset + msgbytes).toNat = offset.toNat + msgbytes.toNat := by
    have below := msg.userData.dataLen.toNat_lt
    rw [UInt32.toNat_add]
    omega
  have later : offset + msgbytes ≠ 0 := fun zero => by
    rw [zero, UInt32.toNat_zero] at next
    omega
  refine ⟨cons_ne_nil _ _, ?_, fun k f found => ?_, fun k f found => ?_, fun f member => ?_⟩
  · have bytes := rest.bytes
    rw [next, ← drop_drop] at bytes
    rw [map_cons, map_cons, flatten_cons, bytes]
    refine Eq.trans (congrArg (· ++ _) (fragmentAt_bytes inside)) ?_
    exact take_append_drop _ _
  · cases k with
    | zero =>
      obtain rfl : (msg.fragmentAt offset msgbytes).part = f := by simpa using found
      simp [part, fragmentAt]
    | succ k =>
      have within := rest.first k f (by simpa using found)
      simp [within, later]
  · cases k with
    | zero =>
      obtain rfl : (msg.fragmentAt offset msgbytes).part = f := by simpa using found
      simp [part, fragmentAt, more, rest.nonempty]
    | succ k =>
      have within := rest.last k f (by simpa using found)
      simpa using within
  · rcases mem_cons.mp member with rfl | inner
    · exact ⟨rfl, rfl, rfl, rfl⟩
    · exact rest.same f inner

end Inside

theorem fragments_spec (fuel : Nat) (inside : offset ≤ msg.userData.dataLen) :
    Yields (fragments payload msg fuel offset) (msg.Fragments offset) := by
  induction fuel generalizing offset with
  | zero => exact .error
  | succ fuel ih =>
    unfold fragments
    dsimp only
    generalize chosen : (if payload > msg.userData.dataLen - offset then
      msg.userData.dataLen - offset
      else payload) = msgbytes
    obtain ⟨bound, next, stuck⟩ := cut_within inside chosen
    refine .ite .error (yields_ite (fun done => ?_) fun more => ?_)
    · exact .ok (.single bound done)
    · rcases Nat.eq_zero_or_pos msgbytes.toNat with none | some
      · have zero : msgbytes = 0 := UInt32.toNat_inj.mp none
        rw [zero, UInt32.add_zero] at more ⊢
        rw [(stuck zero).resolve_right (Ne.symm more)]
        exact .map ((fragments_stuck (Ne.symm more) fuel).mono fun parts stuck => stuck.elim)
      · have within : offset + msgbytes ≤ msg.userData.dataLen := by
          rw [UInt32.le_iff_toNat_le, next]
          exact bound
        exact .map ((ih within).mono fun parts rest => .cons bound more some rest)

end SCTPDataMsg

structure Group (msg : SCTPDataMsg) (parts : List Part) : Prop where
  partition : Partition msg.userData.bytes parts
  number : ∀ part ∈ parts, part.number = msg.msgNum

theorem Group.whole (msg : SCTPDataMsg) :
    Group msg [⟨msg.msgNum, true, true, msg.userData.bytes⟩] := by
  refine ⟨⟨cons_ne_nil _ _, by simp, fun k part found => ?_, fun k part found => ?_⟩, by simp⟩
  all_goals
    obtain ⟨rfl, rfl⟩ : k = 0 ∧ (⟨msg.msgNum, true, true, msg.userData.bytes⟩ : Part) = part := by
      simpa [getElem?_singleton] using found
    simp

theorem SCTPDataMsg.Fragments.group {msg : SCTPDataMsg} {parts : List SCTPDataMsg}
    (fragments : msg.Fragments 0 parts) : Group msg (parts.map part) where
  partition := by
    refine ⟨by simpa using fragments.nonempty, by simpa using fragments.bytes, ?_, ?_⟩ <;>
      intro k f found
    · simpa using fragments.first k f found
    · simpa using fragments.last k f found
  number := by
    intro part member
    obtain ⟨f, inside, rfl⟩ := List.mem_map.mp member
    exact (fragments.same f inside).2.2.2

section Groups

variable {msgs : List SCTPDataMsg} {groups : List (List Part)}
  (split : List.Forall₂ Group msgs groups)

include split

theorem flatten_continues {before after : List Part} {part : Part}
    (here : groups.flatten = before ++ part :: after) (open_end : part.eBit = false) :
    ∃ next rest, after = next :: rest ∧ next.number = part.number := by
  induction split generalizing before with
  | nil => simp at here
  | @cons msg parts msgs groups group _ ih =>
    rw [flatten_cons] at here
    rcases append_eq_append_iff.mp here with ⟨mid, rfl, rest⟩ | ⟨mid, inside, rest⟩
    · exact ih rest
    · cases mid with
      | nil => exact @ih [] rest.symm
      | cons first mid =>
        obtain ⟨rfl, rfl⟩ := cons_eq_cons.mp rest
        have found : parts[before.length]? = some part := by simp [inside]
        cases mid with
        | nil =>
          have last := (group.partition.last _ _ found).mpr (by simp [inside])
          rw [open_end] at last
          cases last
        | cons next mid =>
          refine ⟨next, mid ++ groups.flatten, rfl, ?_⟩
          rw [group.number next (by simp [inside]), group.number part (by simp [inside])]

theorem number_mem {part : Part} (member : part ∈ groups.flatten) :
    part.number ∈ msgs.map (·.msgNum) := by
  induction split with
  | nil => simp at member
  | cons group _ ih =>
    rw [flatten_cons] at member
    rcases mem_append.mp member with here | later
    · exact mem_cons.mpr (.inl (group.number part here))
    · exact mem_cons_of_mem _ (ih later)

theorem flatten_ends (distinct : (msgs.map (·.msgNum)).Nodup) :
    groups.flatten.Pairwise fun part later => later.number = part.number → part.eBit = false := by
  induction split with
  | nil => simp
  | @cons msg parts msgs groups group split ih =>
    rw [map_cons, nodup_cons] at distinct
    rw [flatten_cons, pairwise_append]
    refine ⟨?_, ih distinct.2, fun part here later inside same => ?_⟩
    · rw [pairwise_iff_getElem]
      intro i j inside inside' less _
      have last := group.partition.last i parts[i] (getElem?_eq_getElem inside)
      rw [Bool.eq_false_iff, Ne, last]
      omega
    · have member := number_mem split inside
      rw [same, group.number part here] at member
      exact absurd member distinct.1

theorem flatten_filter (distinct : (msgs.map (·.msgNum)).Nodup) {msg : SCTPDataMsg}
    (member : msg ∈ msgs) :
    Group msg (groups.flatten.filter fun part => part.number = msg.msgNum) := by
  induction split with
  | nil => simp at member
  | @cons first parts msgs groups group split ih =>
    rw [map_cons, nodup_cons] at distinct
    rw [flatten_cons, filter_append]
    rcases mem_cons.mp member with rfl | later
    · have all : parts.filter (fun part => part.number = msg.msgNum) = parts :=
        filter_eq_self.mpr fun part inside => decide_eq_true (group.number part inside)
      have none : groups.flatten.filter (fun part => part.number = msg.msgNum) = [] := by
        refine filter_eq_nil_iff.mpr fun part inside same => distinct.1 ?_
        exact of_decide_eq_true same ▸ number_mem split inside
      rw [all, none, append_nil]
      exact group
    · have none : parts.filter (fun part => part.number = msg.msgNum) = [] := by
        refine filter_eq_nil_iff.mpr fun part inside same => distinct.1 ?_
        rw [← group.number part inside, of_decide_eq_true same]
        exact List.mem_map_of_mem later
      rw [none, nil_append]
      exact ih distinct.2 later

end Groups

def SCTPDataMsg.key (msg : SCTPDataMsg) : Nat × Bool := (msg.sid.toNat, !msg.ordered)

def SCTPDataVariables.key (chunk : SCTPDataVariables) : Nat × Bool :=
  (chunk.sid.toNat, !chunk.ordered)

/-- The messages that were started are made up of chunks and of the waiting fragments, and the rest
wait as they are. -/
structure Line (messages : List SCTPDataMsg) (chunks : List SCTPDataVariables) (q : Nat × Bool)
    (started waiting unstarted : List SCTPDataMsg) (groups : List (List Part)) : Prop where
  messages : messages.filter (fun msg => msg.key = q) = started ++ unstarted
  split : List.Forall₂ Group started groups
  parts : (chunks.filter fun chunk => chunk.key = q).map SCTPDataVariables.part ++
    waiting.map part = groups.flatten
  fragments : ∀ f ∈ waiting, f.fragment = true
  keys : ∀ f ∈ waiting ++ unstarted, f.key = q

namespace Line

variable {messages started waiting unstarted rest : List SCTPDataMsg}
  {chunks : List SCTPDataVariables} {q : Nat × Bool}
  {groups : List (List Part)} {msg front : SCTPDataMsg} {chunk : SCTPDataVariables}

theorem send (line : Line messages chunks q started waiting unstarted groups) (here : msg.key = q) :
    Line (messages ++ [msg]) chunks q started waiting (unstarted ++ [msg]) groups where
  messages := by simp [filter_append, line.messages, here]
  split := line.split
  parts := line.parts
  fragments := line.fragments
  keys := by
    intro f member
    rw [← append_assoc] at member
    rcases mem_snoc member with old | rfl
    · exact line.keys f old
    · exact here

theorem send_other (line : Line messages chunks q started waiting unstarted groups)
    (other : msg.key ≠ q) : Line (messages ++ [msg]) chunks q started waiting unstarted groups :=
  ⟨by simp [filter_append, line.messages, other], line.split, line.parts, line.fragments, line.keys⟩

theorem fragment (line : Line messages chunks q started [] (msg :: rest) groups)
    {parts : List SCTPDataMsg} (fragments : msg.Fragments 0 parts) :
    Line messages chunks q (started ++ [msg]) parts rest (groups ++ [parts.map part]) where
  messages := by simp [line.messages]
  split := rel_append line.split (.cons fragments.group .nil)
  parts := by
    have parts := line.parts
    simp only [map_nil, append_nil] at parts
    simp [parts]
  fragments := fun f member => (fragments.same f member).1
  keys := by
    intro f member
    rcases mem_append.mp member with inside | later
    · obtain ⟨-, sid, ordered, -⟩ := fragments.same f inside
      rw [key, sid, ordered]
      exact line.keys msg (by simp)
    · exact line.keys f (by simp [later])

theorem take_other (line : Line messages chunks q started waiting unstarted groups)
    (other : chunk.key ≠ q) :
    Line messages (chunks ++ [chunk]) q started waiting unstarted groups :=
  ⟨line.messages, line.split, by simp [filter_append, line.parts, other], line.fragments, line.keys⟩

theorem take_fragment (line : Line messages chunks q started (front :: waiting) unstarted groups)
    (part : chunk.part = front.part) (key : chunk.key = q) :
    Line messages (chunks ++ [chunk]) q started waiting unstarted groups where
  messages := line.messages
  split := line.split
  parts := by simp [filter_append, key, part, ← line.parts]
  fragments := fun f member => line.fragments f (mem_cons_of_mem front member)
  keys := fun f member => line.keys f (mem_cons_of_mem front member)

theorem take_whole (line : Line messages chunks q started [] (front :: rest) groups)
    (part : chunk.part = ⟨front.msgNum, true, true, front.userData.bytes⟩) (key : chunk.key = q) :
    Line messages (chunks ++ [chunk]) q (started ++ [front]) [] rest
    (groups ++ [[chunk.part]]) where
  messages := by simp [line.messages]
  split := rel_append line.split (.cons (part ▸ .whole front) .nil)
  parts := by
    have parts := line.parts
    simp only [map_nil, append_nil] at parts
    simp [filter_append, key, parts]
  fragments := line.fragments
  keys := fun f member => line.keys f (mem_cons_of_mem front member)

theorem distinct (line : Line messages chunks q started waiting unstarted groups)
    (distinct : (messages.map (·.msgNum)).Nodup) :
    (started.map (·.msgNum)).Nodup ∧ ∀ msg ∈ unstarted, msg.msgNum ∉ started.map (·.msgNum) := by
  have inside : (started ++ unstarted).Sublist messages := line.messages ▸ filter_sublist
  have nodup := distinct.sublist (inside.map _)
  rw [map_append, nodup_append] at nodup
  exact ⟨nodup.1, fun msg member early => nodup.2.2 _ early _ (List.mem_map_of_mem member) rfl⟩

theorem known (line : Line messages (chunks ++ [chunk]) q started waiting unstarted groups)
    (key : chunk.key = q) : ∃ msg ∈ messages, msg.key = q ∧ chunk.part.number = msg.msgNum := by
  have member : chunk.part ∈ groups.flatten := by
    rw [← line.parts]
    simp [filter_append, key]
  obtain ⟨msg, inside, number⟩ := List.mem_map.mp (number_mem line.split member)
  have filtered : msg ∈ messages.filter fun msg => msg.key = q :=
    line.messages ▸ mem_append_left _ inside
  have both := mem_filter.mp filtered
  exact ⟨msg, both.1, of_decide_eq_true both.2, number.symm⟩

theorem ends (line : Line messages (chunks ++ [chunk]) q started waiting unstarted groups)
    (distinct : (messages.map (·.msgNum)).Nodup) (key : chunk.key = q) {earlier : SCTPDataVariables}
    (member : earlier ∈ chunks) (key' : earlier.key = q)
    (same : chunk.part.number = earlier.part.number) :
    earlier.ebit = false := by
  have pairs := flatten_ends line.split (line.distinct distinct).1
  have sent := (pairwise_append.mp (line.parts ▸ pairs)).1
  rw [filter_append, map_append] at sent
  refine (pairwise_append.mp sent).2.2 earlier.part ?_ chunk.part ?_ same
  · exact List.mem_map_of_mem (mem_filter.mpr ⟨member, by simp [key']⟩)
  · simp [key]

theorem continues {last : SCTPDataVariables}
    (line : Line messages (chunks ++ [last] ++ [chunk]) q started waiting unstarted groups)
    (key : chunk.key = q)
    (key' : last.key = q) (open_end : last.ebit = false) :
    chunk.part.number = last.part.number := by
  have parts := line.parts
  simp only [filter_append, filter_cons, key, key', decide_true, if_true, filter_nil, map_append,
    map_cons, map_nil, append_assoc, cons_append, nil_append] at parts
  obtain ⟨next, rest, after, number⟩ := flatten_continues line.split parts.symm open_end
  rw [(cons_eq_cons.mp after).1]
  exact number

end Line

/-- The send streams, the messages that were given to them, and the chunks in the order of their
first transmission. -/
structure Sending where
  streams : SCTPSendStreams
  initTSN : UInt32
  messages : List SCTPDataMsg := []
  chunks : List SCTPDataVariables := []

inductive SendEvent where
  | send (sid : UInt16) (sendUnordered : Bool) (ppid : UInt32) (smsg : SCTPSimpleMessage)
  | transmit (bytes : Int32)
  | retransmit (i : Nat)
  deriving DecidableEq

namespace Sending

variable (w : Sending)

def transmitMsg (s : SCTPSendStreams) : Option SCTPDataMsg → Sending
  | none => { w with streams := s }
  | some msg =>
    let taken := s.takeMsg msg
    let assigned := taken.2.assignTsn taken.1
    { w with streams := assigned.2, chunks := w.chunks ++ [assigned.1] }

def handle : SendEvent → Except SctpFault Sending
  | .send sid sendUnordered ppid smsg =>
    (w.streams.processSend sid sendUnordered ppid smsg).map fun s =>
      { w with
        streams := s, messages := w.messages ++ [w.streams.newMsg sid sendUnordered ppid smsg] }
  | .transmit bytes => (w.streams.dequeueOutboundDataMsg bytes).map fun r => w.transmitMsg r.2 r.1
  | .retransmit i =>
    match w.chunks[i]? with
    | some chunk =>
      let assigned := w.streams.assignTsn chunk
      .ok { w with streams := assigned.2, chunks := w.chunks.set i assigned.1 }
    | none => .ok w

def Next (e : SendEvent) (w' : Sending) : Prop := w.handle e = .ok w'

def start (outboundStreams : Nat) (assocPmtu initTSN : UInt32) : Sending where
  streams := { outboundStreams := outboundStreams, assocPmtu := assocPmtu, nextTSN := initTSN }
  initTSN := initTSN

def parts (msg : SCTPDataMsg) : List Part :=
  (w.chunks.filter fun chunk => chunk.numbers = [msg.msgNum]).map SCTPDataVariables.part ++
    ((w.streams.queueOf msg.key).filter fun f => f.fragment && f.msgNum = msg.msgNum).map part

/-- TSNs are consecutive, messages wait or are cut into parts, and no chunk comes between two of
another message. -/
structure InOrder (w : Sending) : Prop where
  consecutive : ∀ i chunk, w.chunks[i]? = some chunk → chunk.tsn = w.initTSN + UInt32.ofNat i
  partition : ∀ msg ∈ w.messages, (msg ∈ w.streams.queueOf msg.key ∧ w.parts msg = []) ∨
    Partition msg.userData.bytes (w.parts msg)
  together : ∀ (i j k : Nat) (first chunk last : SCTPDataVariables), i < j → j < k →
    w.chunks[i]? = some first →
    w.chunks[j]? = some chunk → w.chunks[k]? = some last → last.numbers = first.numbers →
    chunk.numbers = first.numbers

/-- While a message is unfinished nothing else waits to be sent, no fragment is cut again and the
cutting ends, and no chunk that is sent again has TSN 0. -/
def Undisturbed : SendEvent → Prop
  | .send .. => True
  | .transmit _ => (∀ last ∈ w.chunks.getLast?, last.ebit = false → w.streams.Alone last.key) ∧
      w.streams.Cuttable
  | .retransmit i => ∀ chunk ∈ w.chunks[i]?, chunk.tsn ≠ 0

/-- A transmission that is not disturbed ends. -/
def Transmits : Prop := ∀ bytes, w.Undisturbed (.transmit bytes) → ∃ w', w.Next (.transmit bytes) w'

structure Inv (w : Sending) : Prop where
  lines : ∀ q, ∃ started waiting unstarted groups,
    Line w.messages w.chunks q started waiting unstarted groups ∧
    w.streams.queueOf q = waiting ++ unstarted
  whole : ∀ msg ∈ w.messages, msg.fragment = false ∧ msg.msgNum ≤ w.streams.msgNum
  distinct : (w.messages.map (·.msgNum)).Nodup
  known : ∀ chunk ∈ w.chunks, ∃ msg ∈ w.messages, chunk.key = msg.key ∧ chunk.numbers = [msg.msgNum]
  nextTSN : w.streams.nextTSN = w.initTSN + UInt32.ofNat w.chunks.length
  consecutive : ∀ i chunk, w.chunks[i]? = some chunk → chunk.tsn = w.initTSN + UInt32.ofNat i
  runs : ∀ (i : Nat) (chunk next : SCTPDataVariables), w.chunks[i]? = some chunk →
    w.chunks[i + 1]? = some next → chunk.ebit = false → next.numbers = chunk.numbers
  ends : w.chunks.Pairwise fun chunk later => later.numbers = chunk.numbers → chunk.ebit = false

variable {w w' : Sending} {i k : Nat} {chunk : SCTPDataVariables}

theorem Inv.open_end (inv : w.Inv) {later : SCTPDataVariables} (less : i < k)
    (at_i : w.chunks[i]? = some chunk) (at_k : w.chunks[k]? = some later)
    (same : later.numbers = chunk.numbers) :
    chunk.ebit = false := by
  obtain ⟨inside, rfl⟩ := List.getElem?_eq_some_iff.mp at_i
  obtain ⟨inside', rfl⟩ := List.getElem?_eq_some_iff.mp at_k
  exact pairwise_iff_getElem.mp inv.ends i k inside inside' less same

theorem Inv.together (inv : w.Inv) {j : Nat} {first last : SCTPDataVariables} (less : i < j)
    (below : j < k) (at_i : w.chunks[i]? = some first) (at_j : w.chunks[j]? = some chunk)
    (at_k : w.chunks[k]? = some last)
    (same : last.numbers = first.numbers) : chunk.numbers = first.numbers := by
  induction j, less using Nat.le_induction generalizing chunk with
  | base => exact inv.runs i first chunk at_i at_j (inv.open_end (by omega) at_i at_k same)
  | succ j less ih =>
    obtain ⟨inside, -⟩ := List.getElem?_eq_some_iff.mp at_j
    have before := getElem?_eq_getElem (show j < w.chunks.length by omega)
    have numbers := ih (by omega) before
    have open_end := inv.open_end (by omega) before at_k (same.trans numbers.symm)
    exact (inv.runs j _ chunk before at_j open_end).trans numbers

theorem Inv.eq_of_msgNum (inv : w.Inv) {msg msg' : SCTPDataMsg} (member : msg ∈ w.messages)
    (member' : msg' ∈ w.messages) (same : msg.msgNum = msg'.msgNum) : msg = msg' :=
  inj_on_of_nodup_map inv.distinct member member' same

variable {started waiting unstarted : List SCTPDataMsg} {groups : List (List Part)}

theorem Inv.parts_eq (inv : w.Inv) {msg : SCTPDataMsg} (member : msg ∈ w.messages)
    (line : Line w.messages w.chunks msg.key started waiting unstarted groups)
    (queue : w.streams.queueOf msg.key = waiting ++ unstarted) :
    w.parts msg = groups.flatten.filter fun part => part.number = msg.msgNum := by
  have sent : w.chunks.filter (fun chunk => chunk.numbers = [msg.msgNum]) =
      (w.chunks.filter fun chunk => chunk.key = msg.key).filter fun chunk => chunk.part.number =
      msg.msgNum := by
    rw [List.filter_filter]
    refine filter_congr fun chunk inside => ?_
    obtain ⟨msg', inside', key, numbers⟩ := inv.known chunk inside
    have number : chunk.part.number = msg'.msgNum := by simp [SCTPDataVariables.part, numbers]
    rw [← Bool.decide_and, decide_eq_decide, numbers, number, key]
    refine ⟨fun same => ?_, fun both => by rw [both.1]⟩
    have equal := singleton_inj.mp same
    exact ⟨equal, by rw [inv.eq_of_msgNum inside' member equal]⟩
  have left : (w.streams.queueOf msg.key).filter (fun f => f.fragment && f.msgNum = msg.msgNum) =
      waiting.filter fun f => f.part.number = msg.msgNum := by
    have none : unstarted.filter (fun f => f.fragment && decide (f.msgNum = msg.msgNum)) = [] := by
      refine filter_eq_nil_iff.mpr fun f inside => ?_
      have filtered : f ∈ w.messages.filter fun f => f.key = msg.key :=
        line.messages ▸ mem_append_right _ inside
      simp [(inv.whole f (mem_filter.mp filtered).1).1]
    rw [queue, filter_append, none, append_nil]
    refine filter_congr fun f inside => ?_
    rw [line.fragments f inside, Bool.true_and]
    rfl
  rw [parts, sent, left, ← line.parts, filter_append, List.filter_map, List.filter_map]
  rfl

theorem Inv.inOrder (inv : w.Inv) : w.InOrder where
  consecutive := inv.consecutive
  partition := by
    intro msg member
    obtain ⟨started, waiting, unstarted, groups, line, queue⟩ := inv.lines msg.key
    rw [inv.parts_eq member line queue]
    have filtered : msg ∈ w.messages.filter fun f => f.key = msg.key :=
      mem_filter.mpr ⟨member, decide_eq_true rfl⟩
    rw [line.messages] at filtered
    rcases mem_append.mp filtered with early | late
    · exact .inr (flatten_filter line.split (line.distinct inv.distinct).1 early).partition
    · refine .inl ⟨queue ▸ mem_append_right _ late, filter_eq_nil_iff.mpr fun part inside same =>
        ?_⟩
      exact (line.distinct inv.distinct).2 msg late (of_decide_eq_true same ▸
        number_mem line.split inside)
  together := fun i j k first chunk last less below at_i at_j at_k same =>
    inv.together less below at_i at_j at_k same

variable {s : SCTPSendStreams}

theorem Inv.send (inv : w.Inv) {sid : UInt16} {sendUnordered : Bool} {ppid : UInt32}
    {smsg : SCTPSimpleMessage}
    (queued : w.streams.processSend sid sendUnordered ppid smsg = .ok s) :
    Inv { w with
      streams := s, messages := w.messages ++ [w.streams.newMsg sid sendUnordered ppid smsg] } := by
  obtain ⟨queues, msgNum, nextTSN⟩ := processSend_spec s queued
  have key : (w.streams.newMsg sid sendUnordered ppid smsg).key = (sid.toNat, sendUnordered) := by
    simp [key, newMsg]
  refine ⟨fun q => ?_, fun msg member => ?_, ?_, fun chunk member => ?_, nextTSN ▸ inv.nextTSN,
    inv.consecutive, inv.runs, inv.ends⟩
  · obtain ⟨started, waiting, unstarted, groups, line, queue⟩ := inv.lines q
    dsimp only
    rw [queues]
    by_cases here : q = (sid.toNat, sendUnordered)
    · subst here
      refine ⟨started, waiting, unstarted ++ [_], groups, line.send key, ?_⟩
      rw [update_self, queue, append_assoc]
    · refine ⟨started, waiting, unstarted, groups, line.send_other fun same =>
        here (same.symm.trans key), ?_⟩
      rw [update_of_ne here, queue]
  · dsimp only
    rw [msgNum]
    rcases mem_snoc member with old | rfl
    · exact ⟨(inv.whole msg old).1, Nat.le_succ_of_le (inv.whole msg old).2⟩
    · exact ⟨rfl, le_rfl⟩
  · rw [map_append, nodup_append]
    refine ⟨inv.distinct, nodup_singleton _, fun n old n' new => ?_⟩
    obtain ⟨msg, member, rfl⟩ := List.mem_map.mp old
    obtain rfl : n' = w.streams.msgNum + 1 := mem_singleton.mp new
    have bound := (inv.whole msg member).2
    omega
  · obtain ⟨msg, member, same⟩ := inv.known chunk member
    exact ⟨msg, mem_append_left _ member, same⟩

variable {q : Nat × Bool}

theorem Inv.opened (inv : w.Inv) {l : List SCTPDataMsg} (opened : w.streams.Opened q l)
    (steady : ∀ front ∈ (w.streams.queueOf q).head?, front.fragment = true →
      front.tooLong w.streams.assocPmtu = false) :
    ∃ started waiting unstarted groups,
      Line w.messages w.chunks q started waiting unstarted groups ∧ l = waiting ++ unstarted := by
  obtain ⟨started, waiting, unstarted, groups, line, queue⟩ := inv.lines q
  rcases opened with rfl | ⟨front, rest, parts, here, long, fragmented, rfl⟩
  · exact ⟨started, waiting, unstarted, groups, line, queue⟩
  · rw [here] at queue steady
    have cut : ¬ front.fragment = true := fun yes => by
      rw [steady front rfl yes] at long
      cases long
    cases waiting with
    | cons f waiting =>
      rw [cons_append, cons_eq_cons] at queue
      exact absurd (queue.1 ▸ line.fragments f mem_cons_self) cut
    | nil =>
      rw [nil_append] at queue
      subst queue
      have fragments := fragments_spec _ UInt32.zero_le parts fragmented
      exact ⟨_, parts, rest, _, line.fragment fragments, rfl⟩

theorem take_front {messages rest : List SCTPDataMsg} {chunks : List SCTPDataVariables}
    {front : SCTPDataMsg} (line : Line messages chunks q started waiting unstarted groups)
    (whole : ∀ msg ∈ messages, msg.fragment = false)
    (here : front :: rest = waiting ++ unstarted) (part : chunk.part = front.withBits.part)
    (key : chunk.key = q) :
    ∃ started waiting unstarted groups,
    Line messages (chunks ++ [chunk]) q started waiting unstarted groups ∧
      rest = waiting ++ unstarted := by
  cases waiting with
  | cons f waiting =>
    rw [cons_append, cons_eq_cons] at here
    obtain ⟨rfl, rfl⟩ := here
    rw [withBits, if_pos (line.fragments front mem_cons_self)] at part
    exact ⟨_, _, _, _, line.take_fragment part key, rfl⟩
  | nil =>
    rw [nil_append] at here
    subst here
    have filtered : front ∈ messages.filter fun msg => msg.key = q := by simp [line.messages]
    have uncut := whole front (mem_filter.mp filtered).1
    rw [withBits, uncut] at part
    exact ⟨_, _, _, _, line.take_whole part key, rfl⟩

theorem Inv.withStreams (inv : w.Inv) (msgNum : s.msgNum = w.streams.msgNum)
    (nextTSN : s.nextTSN = w.streams.nextTSN)
    (lines : ∀ q, ∃ started waiting unstarted groups, Line w.messages w.chunks q started waiting
      unstarted groups ∧ s.queueOf q = waiting ++ unstarted) : Inv { w with streams := s } :=
  ⟨lines, fun msg member => msgNum ▸ inv.whole msg member, inv.distinct, inv.known,
    nextTSN ▸ inv.nextTSN, inv.consecutive, inv.runs, inv.ends⟩

theorem getElem?_append_singleton {l : List SCTPDataVariables} {a b : SCTPDataVariables}
    (beyond : l.length ≤ i) (found : (l ++ [a])[i]? = some b) : i = l.length ∧ b = a := by
  rw [getElem?_append_right beyond] at found
  obtain ⟨inside, same⟩ := List.getElem?_eq_some_iff.mp found
  rw [length_singleton] at inside
  exact ⟨by omega, by simpa using same.symm⟩

theorem Inv.withChunk (inv : w.Inv) {n : Nat}
    (msgNum : s.msgNum = w.streams.msgNum) (nextTSN : s.nextTSN = w.streams.nextTSN + 1)
    (tsn : chunk.tsn = w.streams.nextTSN) (key : chunk.key = q) (numbers : chunk.numbers = [n])
    (gone_on : ∀ last ∈ w.chunks.getLast?, last.ebit = false → last.key = q)
    (lines : ∀ q, ∃ started waiting unstarted groups,
      Line w.messages (w.chunks ++ [chunk]) q started waiting unstarted groups ∧
      s.queueOf q = waiting ++ unstarted) :
    Inv { w with streams := s, chunks := w.chunks ++ [chunk] } := by
  obtain ⟨started, waiting, unstarted, groups, line, queue⟩ := lines q
  have number : chunk.part.number = n := by simp [SCTPDataVariables.part, numbers]
  obtain ⟨msg, member, at_q, number'⟩ := line.known key
  have numbers' : chunk.numbers = [msg.msgNum] := by rw [numbers, ← number, number']
  have part_number : ∀ earlier ∈ w.chunks, chunk.numbers = earlier.numbers ↔
      chunk.part.number = earlier.part.number := by
    intro earlier inside
    obtain ⟨msg', -, -, numbers''⟩ := inv.known earlier inside
    simp [SCTPDataVariables.part, numbers, numbers'']
  refine ⟨lines, fun msg member => msgNum ▸ inv.whole msg member, inv.distinct, fun c inside => ?_,
    ?_, fun i c found => ?_, fun i c next found found' open_end => ?_, ?_⟩
  · rcases mem_snoc inside with old | rfl
    · exact inv.known c old
    · exact ⟨msg, member, key.trans at_q.symm, numbers'⟩
  · dsimp only
    rw [nextTSN, inv.nextTSN, length_append, length_singleton, UInt32.ofNat_add, UInt32.add_assoc]
    rfl
  · rcases Nat.lt_or_ge i w.chunks.length with below | beyond
    · rw [getElem?_append_left below] at found
      exact inv.consecutive i c found
    · obtain ⟨last, rfl⟩ := getElem?_append_singleton beyond found
      rw [last, tsn, inv.nextTSN]
  · rcases Nat.lt_or_ge (i + 1) w.chunks.length with below | beyond
    · rw [getElem?_append_left below] at found'
      rw [getElem?_append_left (Nat.lt_of_succ_lt below)] at found
      exact inv.runs i c next found found' open_end
    · obtain ⟨last, rfl⟩ := getElem?_append_singleton beyond found'
      rw [getElem?_append_left (by omega)] at found
      have at_end : w.chunks.getLast? = some c := by rw [getLast?_eq_getElem?, ← last]; exact found
      obtain ⟨front, split⟩ := getLast?_eq_some_iff.mp at_end
      rw [split] at line
      have inside : c ∈ w.chunks := mem_of_getElem? found
      exact (part_number c inside).mpr (line.continues key (gone_on c at_end open_end) open_end)
  · rw [pairwise_append]
    refine ⟨inv.ends, pairwise_singleton _ _, fun earlier inside c new same => ?_⟩
    obtain rfl := mem_singleton.mp new
    obtain ⟨msg', member', at_q', numbers''⟩ := inv.known earlier inside
    have number_eq : msg.msgNum = msg'.msgNum := by
      rw [numbers', numbers''] at same
      exact singleton_inj.mp same
    have key' : earlier.key = q := by rw [at_q', ← inv.eq_of_msgNum member member' number_eq, at_q]
    exact line.ends inv.distinct key inside key' ((part_number earlier inside).mp same)

theorem transmits (w : Sending) : w.Transmits := by
  intro bytes undisturbed
  obtain ⟨r, dequeued⟩ := undisturbed.2.dequeue bytes
  refine ⟨w.transmitMsg r.2 r.1, ?_⟩
  rw [Next, handle, dequeued]
  rfl

theorem Inv.transmit (inv : w.Inv) {bytes : Int32} (undisturbed : w.Undisturbed (.transmit bytes))
    {r : Option SCTPDataMsg × SCTPSendStreams} (dequeued : w.streams.Dequeues r) :
    (w.transmitMsg r.2 r.1).Inv := by
  obtain ⟨msg, s⟩ := r
  obtain ⟨msgNum, nextTSN, queues⟩ := dequeued
  dsimp only at msgNum nextTSN queues ⊢
  have steady : ∀ {q}, w.streams.served = some q → ∀ front ∈ (w.streams.queueOf q).head?,
      front.fragment = true → front.tooLong w.streams.assocPmtu = false := by
    intro q served front here cut
    by_contra long
    obtain ⟨uncut, -⟩ :=
      undisturbed.2 q.1 (served_usable served).1 q.2 front here (Bool.not_eq_false _ ▸ long)
    rw [cut] at uncut
    cases uncut
  rcases queues with ⟨rfl, same⟩ | ⟨q, l, served, opened,
    ⟨rfl, left⟩ | ⟨front, rest, rfl, rfl, left⟩⟩
  · exact inv.withStreams msgNum nextTSN (same ▸ inv.lines)
  · have at_q := inv.opened opened (steady served)
    refine inv.withStreams msgNum nextTSN fun q' => ?_
    rw [left]
    by_cases here : q' = q
    · subst here
      rw [update_self]
      exact at_q
    · rw [update_of_ne here]
      exact inv.lines q'
  · obtain ⟨started, waiting, unstarted, groups, line, split⟩ := inv.opened opened (steady served)
    have key : front.key = q := line.keys front (split ▸ mem_cons_self)
    have bits : front.withBits.key = front.key := by
      unfold withBits
      split_ifs <;> rfl
    have chunk_key : (s.takeMsg front.withBits).1.key = q := by
      rw [← key, ← bits]
      rfl
    rw [transmitMsg, assignTsn_new rfl]
    refine inv.withChunk msgNum ?_ nextTSN chunk_key rfl ?_ fun q' => ?_
    · exact congrArg (· + 1) nextTSN
    · intro last at_end open_end
      exact (undisturbed.1 last at_end open_end).served served
    · have queue (n : UInt32) : queueOf { (s.takeMsg front.withBits).2 with nextTSN := n } q' =
          update w.streams.queueOf q rest q' := by
        rw [← left]
        exact congrFun (queueOf_takeMsg front.withBits) q'
      dsimp only
      rw [queue]
      by_cases here : q' = q
      · subst here
        rw [update_self]
        exact take_front line (fun msg member => (inv.whole msg member).1) split rfl chunk_key
      · rw [update_of_ne here]
        obtain ⟨started, waiting, unstarted, groups, line, eq⟩ := inv.lines q'
        exact ⟨_, _, _, _, line.take_other fun same => here (same.symm.trans chunk_key), eq⟩

variable {e : SendEvent}

theorem Inv.step (inv : w.Inv) (undisturbed : w.Undisturbed e) (next : w.Next e w') : w'.Inv := by
  cases e with
  | send sid sendUnordered ppid smsg =>
    obtain ⟨s, queued, rfl⟩ := map_eq_ok next
    exact inv.send queued
  | transmit bytes =>
    obtain ⟨r, dequeued, rfl⟩ := map_eq_ok next
    exact inv.transmit undisturbed (dequeueOutboundDataMsg_spec r dequeued)
  | retransmit i =>
    unfold Next handle at next
    dsimp only at next
    split at next
    · rename_i chunk found
      rw [assignTsn_old (undisturbed chunk found)] at next
      obtain ⟨inside, rfl⟩ := List.getElem?_eq_some_iff.mp found
      rw [← Except.ok.inj next, set_getElem_self]
      exact inv
    · rw [← Except.ok.inj next]
      exact inv

theorem inv_start (outboundStreams : Nat) (assocPmtu initTSN : UInt32) :
    (start outboundStreams assocPmtu initTSN).Inv where
  lines := by
    intro q
    refine ⟨[], [], [], [], ⟨rfl, .nil, rfl, ?_, ?_⟩, ?_⟩
    · intro f inside
      cases inside
    · intro f inside
      cases inside
    · rcases q with ⟨sid, _ | _⟩ <;> rfl
  whole := by
    intro msg member
    cases member
  distinct := nodup_nil
  known := by
    intro chunk inside
    cases inside
  nextTSN := (UInt32.add_zero initTSN).symm
  consecutive := by
    intro i chunk found
    cases found
  runs := by
    intro i chunk next found
    cases found
  ends := .nil

def step (w : Sending) (e : SendEvent) : Option Sending := (w.handle e).toOption

theorem next_of_step (w : Sending) (e : SendEvent) (w' : Sending) (stepped : w.step e = some w') :
    w.Next e w' :=
  eq_ok_of_toOption stepped

def after (w : Sending) (e : SendEvent) : Sending := (w.step e).getD w

theorem Next.eq_after (next : w.Next e w') : w.after e = w' := by
  rw [after, step, show w.handle e = .ok w' from next]
  rfl

instance (s : SCTPSendStreams) (q : Nat × Bool) : Decidable (s.Alone q) :=
  inferInstanceAs (Decidable (_ ∧ _))

instance (s : SCTPSendStreams) : Decidable s.Cuttable :=
  inferInstanceAs (Decidable (∀ sid < s.outboundStreams, ∀ _ : Bool, _))

instance (w : Sending) (e : SendEvent) : Decidable (w.Undisturbed e) :=
  match e with
  | .send .. => .isTrue trivial
  | .transmit _ => inferInstanceAs (Decidable (_ ∧ _))
  | .retransmit _ => inferInstanceAs (Decidable (∀ chunk ∈ w.chunks[_]?, _))

end Sending

theorem fragments_in_order (outboundStreams : Nat) (assocPmtu initTSN : UInt32)
    (es : List SendEvent) (each : Each Sending.Next Sending.Undisturbed
      (.start outboundStreams assocPmtu initTSN) es) :
    Always Sending.Next (fun w => w.InOrder ∧
      w.Transmits) (.start outboundStreams assocPmtu initTSN) es := by
  apply always_of_each (I := Sending.Inv) _ _ (Sending.inv_start ..) each
  · exact fun w e w' inv undisturbed next => inv.step undisturbed next
  · exact fun w inv => ⟨inv.inOrder, w.transmits⟩

def bytesMsg (n : Nat) : SCTPSimpleMessage := ⟨UInt32.ofNat n, List.replicate n 7, n⟩

/-- Six bytes in two fragments, then a message on the other stream. -/
theorem fragments_in_order_five :
    Always Sending.Next (fun w => w.InOrder ∧ w.Transmits) (.start 2 52 1)
      [.send 0 false 0 (bytesMsg 6), .transmit 1000, .transmit 1000, .send 1 false 0 (bytesMsg 3),
        .transmit 1000] := by
  apply fragments_in_order
  iterate 5 refine .cons (fun _ next => next.eq_after) (by decide) ?_
  trivial

/-- With both messages queued, the scheduler turns to the other stream after each chunk. -/
theorem fragments_not_in_order : ¬ ∀ (outboundStreams : Nat) (assocPmtu initTSN : UInt32)
    (es : List SendEvent),
    Always Sending.Next Sending.InOrder (.start outboundStreams assocPmtu initTSN) es := by
  intro all
  have along :=
    all 2 52 1 [.send 0 false 0 (bytesMsg 6), .send 1 false 0 (bytesMsg 6), .transmit 1000,
    .transmit 1000, .transmit 1000]
  have ends : ([.send 0 false 0 (bytesMsg 6), .send 1 false 0 (bytesMsg 6), .transmit 1000,
    .transmit 1000,
      .transmit 1000].foldlM Sending.step (.start 2 52 1)).map (fun w => w.chunks.map (·.numbers)) =
        some [[2], [1], [2]] := by decide +kernel
  obtain ⟨w, ran, numbers⟩ := Option.map_eq_some_iff.mp ends
  obtain ⟨a, b, c, split, at_a, at_b, at_c⟩ : ∃ a b c : SCTPDataVariables, w.chunks = [a, b, c] ∧
      a.numbers = [2] ∧ b.numbers = [1] ∧ c.numbers = [2] := by
    simpa [map_eq_cons_iff] using numbers
  have together :=
    (along.last Sending.next_of_step ran).together 0 1 2 a b c (by decide) (by decide)
    (by rw [split]; rfl) (by rw [split]; rfl) (by rw [split]; rfl) (at_c.trans at_a.symm)
  rw [at_a, at_b] at together
  exact absurd together (by decide)

end Srwsn
