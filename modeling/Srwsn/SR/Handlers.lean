import Srwsn.SR.Node

/-! What each handler can do, stated once: `Routed` for routing, `Discovered` for discovery. No
later proof unfolds a handler. -/
namespace Srwsn
namespace SR
open MACAddress List

abbrev Eff := Radio.Effect SR Statics SRPacket Note

structure SameIdentity (me you : SR) : Prop where
  isSink : you.isSink = me.isSink
  mac : you.myMACAddress = me.myMACAddress
  bt : you.bt = me.bt
  myID : you.myID = me.myID
  areaNumber : you.areaNumber = me.areaNumber
  firstSinkMsg : you.firstSinkMsg = me.firstSinkMsg
  neighborList : you.neighborList = me.neighborList
  hasSentAdvertMsg : you.hasSentAdvertMsg = me.hasSentAdvertMsg

variable (me : SR) (p : SRPacket)

theorem SameIdentity.refl : SameIdentity me me := by
  constructor <;> rfl

theorem SameIdentity.routing (stamp : UInt32) (table : Std.TreeMap UInt16 MACAddress)
    (tr : TableRARE) : SameIdentity me
      { me with currentRequestTimeStamp := stamp, RecordTable := table, tr := tr } := by
  constructor <;> rfl

def IsRequest : Prop := p.msgType = .normal ∧ p.queryType = .request
  deriving Decidable
def IsReply : Prop := p.msgType = .normal ∧ p.queryType = .reply
  deriving Decidable

theorem not_request_of_reply {p : SRPacket} (h : IsReply p) : ¬ IsRequest p := by
  intro request
  have := request.2
  rw [h.2] at this
  cases this

def Forwards (q : SRPacket) : Prop :=
  IsRequest q ∧ q.Id = p.Id ∧ q.myTimestamp = p.myTimestamp ∧ q.srcMACAddress = me.myMACAddress

def Answers (q : SRPacket) : Prop :=
  IsReply q ∧ q.Id = p.Id ∧
    q.destMACAddress = if p.Id = me.myID then me.myMACAddress else p.srcMACAddress

def Incidental : Note → Prop
  | .discarded _ _ => True
  | .answerArrived _ => True
  | _ => False

inductive Routed (me : SR) (e : Eff) : Option SRPacket → Prop where
  | quiet (cause : Option SRPacket)
      (stamp : e.node.currentRequestTimeStamp = me.currentRequestTimeStamp)
      (record : e.node.RecordTable = me.RecordTable)
      (out : ∀ q ∈ e.out, q.msgType = .alert) (notes : ∀ n ∈ e.notes, Incidental n) :
      Routed me e cause
  | generate (q : SRPacket) (out : e.out = [q]) (request : IsRequest q) (id : q.Id = me.myID)
      (stamp : e.node.currentRequestTimeStamp = q.myTimestamp)
      (src : q.srcMACAddress = me.myMACAddress) (record : e.node.RecordTable = me.RecordTable)
      (notes : e.notes = [.generated q.Id q.myTimestamp]) : Routed me e none
  | takeUp (p : SRPacket) (request : IsRequest p)
      (new : me.currentRequestTimeStamp ≠ p.myTimestamp)
      (stamp : e.node.currentRequestTimeStamp = p.myTimestamp)
      (record : ∀ id,
        e.node.RecordTable[id]? = if p.Id = id then some p.srcMACAddress else me.RecordTable[id]?)
      (out : e.out = [] ∨ ∃ q, e.out = [q] ∧ (Forwards me p q ∨ Answers me p q))
      (notes : e.notes = [.takenUp p.Id p.myTimestamp]) : Routed me e (some p)
  | forward (p q : SRPacket) (reply : IsReply p) (foreign : p.Id ≠ me.myID) (out : e.out = [q])
      (sent : IsReply q) (id : q.Id = p.Id)
      (dest : q.destMACAddress = me.RecordTable.getD p.Id UNSPECIFIED_ADDRESS)
      (stamp : e.node.currentRequestTimeStamp = me.currentRequestTimeStamp)
      (record : e.node.RecordTable = me.RecordTable.insertIfNew p.Id UNSPECIFIED_ADDRESS)
      (notes : e.notes = []) : Routed me e (some p)

abbrev Acts (me : SR) (cause : Option SRPacket) (e : Eff) : Prop :=
  Routed me e cause ∧ SameIdentity me e.node

def Plain {α : Type} (x : Except Fault α) : Prop := ∀ failure, x ≠ .error (.idBuilder failure)

def Settles (x : Outcome) (P : Eff → Prop) : Prop := (∀ e, x = .ok e → P e) ∧ Plain x

variable {e : Eff} {P : Eff → Prop}

theorem Settles.ok (holds : P e) : Settles (.ok e) P :=
  ⟨fun _ same => Except.ok.inj same ▸ holds, nofun⟩

theorem Settles.error {α : Type} {x : Except Fault α} {fault : Fault} (plain : Plain x)
    (failed : x = .error fault) : Settles (.error fault) P :=
  ⟨nofun, fun failure same => plain failure (Except.error.inj same ▸ failed)⟩

variable {cause : Option SRPacket}

theorem Routed.record_grows {me : SR} (h : Routed me e cause)
    {id : UInt16} {mac : MACAddress} (entry : me.RecordTable[id]? = some mac) :
    ∃ mac, e.node.RecordTable[id]? = some mac := by
  cases h with
  | quiet _ _ record _ _ => exact ⟨mac, by rw [record]; exact entry⟩
  | generate _ _ _ _ _ _ record _ => exact ⟨mac, by rw [record]; exact entry⟩
  | takeUp p _ _ _ record _ _ =>
    rw [record]
    split
    · exact ⟨_, rfl⟩
    · exact ⟨mac, entry⟩
  | forward p _ _ _ _ _ _ _ _ record _ =>
    rw [record, Std.TreeMap.getElem?_insertIfNew]
    split
    · exact ⟨_, rfl⟩
    · exact ⟨mac, entry⟩

theorem Routed.out_plain {me : SR} (h : Routed me e cause) :
    ∀ q ∈ e.out, q.msgType ≠ .discovery := by
  intro q member
  cases h with
  | quiet _ _ _ out _ =>
    rw [out q member]
    decide
  | generate r out request _ _ _ _ _ =>
    rw [out, mem_singleton] at member
    rw [member, request.1]
    decide
  | takeUp r _ _ _ _ out _ =>
    rcases out with none | ⟨s, out, forwarded | answered⟩
    · rw [none] at member
      cases member
    · rw [out, mem_singleton] at member
      rw [member, forwarded.1.1]
      decide
    · rw [out, mem_singleton] at member
      rw [member, answered.1.1]
      decide
  | forward _ s _ _ out sent _ _ _ _ _ =>
    rw [out, mem_singleton] at member
    rw [member, sent.1]
    decide

theorem recordOf_insert (table : Std.TreeMap UInt16 MACAddress) (id : UInt16) (mac : MACAddress) :
    (table.insert id mac).getD id UNSPECIFIED_ADDRESS = mac ∧
    ∀ key, ((table.insert id mac).insertIfNew id UNSPECIFIED_ADDRESS)[key]? =
      if id = key then some mac else table[key]? := by
  refine ⟨by simp, fun key => ?_⟩
  rw [Std.TreeMap.getElem?_insertIfNew, Std.TreeMap.getElem?_insert]
  simp

theorem insert_read (table : Std.TreeMap UInt16 MACAddress) (id : UInt16) (mac : MACAddress)
    (key : UInt16) : (table.insert id mac)[key]? = if id = key then some mac else table[key]? := by
  rw [Std.TreeMap.getElem?_insert]
  simp

section Tables

variable {draws : List Nat} {query : Int32} {mac : MACAddress}

theorem firstNeighbor_plain {query : List Char} {table : List (List Char × Option BloomFilter)} :
    Plain (BloomTable.firstNeighbor query table) := by
  induction table with
  | nil => nofun
  | cons entry table ih =>
    obtain ⟨mac, bloom⟩ := entry
    cases bloom with
    | none => nofun
    | some bloom =>
      unfold BloomTable.firstNeighbor
      split
      · split <;> nofun
      · exact ih

theorem getNextHop_plain {bt : BloomTable} {source : Bool} :
    Plain (bt.GetNextHop query source mac) := by
  unfold BloomTable.GetNextHop
  split
  · nofun
  · split
    · nofun
    · exact firstNeighbor_plain

variable {table : List Row}

theorem drawRow_plain : Plain (TableRARE.drawRow table draws) := by
  induction draws with
  | nil => nofun
  | cons rand draws ih =>
    unfold TableRARE.drawRow
    dsimp only
    split
    · exact ih
    · nofun

variable {tr : TableRARE}

theorem selection_plain {fuel : Nat} :
    Plain (TableRARE.LearningPeerSelection fuel tr draws query) := by
  induction fuel generalizing tr draws query with
  | zero => nofun
  | succ fuel ih =>
    unfold TableRARE.LearningPeerSelection
    dsimp only
    generalize (if TableRARE.unsignedInt query < tr.learningTable.length then
      (Scan.scan 0 [] (tr.row (TableRARE.unsignedInt query)).scores).2 else []) = mac_str
    split
    · split <;> nofun
    · split
      · exact ih
      · split
        · nofun
        · split
          · nofun
          · split
            · rename_i fault failed
              intro failure same
              exact drawRow_plain failure (Except.error.inj same ▸ failed)
            · exact ih

theorem store_plain {index : Nat} {newRow : Row} : Plain (tr.store table index newRow) := by
  unfold TableRARE.store
  split <;> nofun

theorem update_plain : Plain (tr.UpdateTable query mac) := by
  unfold TableRARE.UpdateTable
  split
  · split
    · nofun
    · exact store_plain
  · dsimp only
    split <;> exact store_plain

end Tables

section TakeUp

variable {me : SR} {st : Statics} {input : Input} {p : SRPacket} {e : Eff}

def accepting (me : SR) (p : SRPacket) : SR :=
  { me with
    currentRequestTimeStamp := p.myTimestamp
    RecordTable := me.RecordTable.insert p.Id p.srcMACAddress }

theorem accepting_read (me : SR) (p : SRPacket) (id : UInt16) : (accepting me p).RecordTable[id]? =
      if p.Id = id then some p.srcMACAddress else me.RecordTable[id]? :=
  insert_read _ _ _ _

variable (request : IsRequest p) (new : me.currentRequestTimeStamp ≠ p.myTimestamp)

include request new

theorem answer_settles : Settles ((accepting me p).answer st p) (Acts me (some p)) := by
  unfold answer
  split
  · rename_i own
    refine .ok ⟨.takeUp p request new rfl (accepting_read me p) (.inr ⟨_, rfl, .inr ?_⟩) rfl,
      .routing ..⟩
    have mine : p.Id = me.myID := own
    refine ⟨⟨rfl, rfl⟩, rfl, ?_⟩
    rw [if_pos mine]
    rfl
  · rename_i other
    have read := recordOf_insert me.RecordTable p.Id p.srcMACAddress
    refine .ok ⟨.takeUp p request new rfl read.2 (.inr ⟨_, rfl, .inr ?_⟩) rfl, .routing ..⟩
    have foreign : ¬ p.Id = me.myID := other
    refine ⟨⟨rfl, rfl⟩, rfl, ?_⟩
    rw [if_neg foreign]
    exact read.1

theorem forwarded_acts (tr : TableRARE) (peer : MACAddress) :
    Acts me (some p) ⟨{ accepting me p with tr := tr }, st,
      [me.scheduleMsgToSendNic { p with destMACAddress := peer }],
      [.takenUp p.Id p.myTimestamp]⟩ := by
  refine ⟨.takeUp p request new rfl (accepting_read me p) (.inr ⟨_, rfl, .inl ?_⟩) rfl, .routing ..⟩
  exact ⟨request, rfl, rfl, rfl⟩

theorem forwardLearned_settles :
    Settles ((accepting me p).forwardLearned st input p) (Acts me (some p)) := by
  unfold forwardLearned
  split
  · exact .error selection_plain ‹_›
  · rename_i peer tr rest selected
    dsimp only
    split
    · split
      · exact .ok ⟨.takeUp p request new rfl (accepting_read me p) (.inl rfl) rfl, .routing ..⟩
      · exact .ok (forwarded_acts request new tr _)
    · exact .ok (forwarded_acts request new tr _)

theorem takeUp_settles : Settles (me.takeUp st input p) (Acts me (some p)) := by
  unfold takeUp
  dsimp only
  split
  · exact .error getNextHop_plain ‹_›
  · split
    · exact answer_settles request new
    · split
      · exact .ok (forwarded_acts request new me.tr _)
      · exact forwardLearned_settles request new

end TakeUp

def Generates (input : Input) : Prop :=
  me.isSink = false ∧ input.timer = .generateRequest ∧ me.selfGenerateRequestMsg.isSome = true
  deriving Decidable

def newStamp (input : Input) : UInt32 := UInt32.ofNat input.raw % LIVETIME

def nextStamp (input : Input) : Option SRPacket → UInt32
  | some p => if IsRequest p then p.myTimestamp else me.currentRequestTimeStamp
  | none => if me.Generates input then newStamp input else me.currentRequestTimeStamp

section Normal

variable {me : SR} {st : Statics} {input : Input} {p : SRPacket} {e : Eff}

theorem forwardReply_settles (reply : IsReply p) (foreign : p.Id ≠ me.myID) :
    Settles (me.forwardReply st p) (Acts me (some p)) := by
  unfold forwardReply
  split
  · exact .error update_plain ‹_›
  · exact .ok ⟨.forward p _ reply foreign rfl reply rfl rfl rfl rfl rfl, .routing ..⟩

theorem acceptReply_settles : Settles (me.acceptReply st p) (Acts me (some p)) := by
  unfold acceptReply
  split
  · exact .error update_plain ‹_›
  · refine .ok ⟨.quiet _ rfl rfl (by simp) ?_, .routing ..⟩
    intro n member
    rw [mem_singleton.mp member]
    trivial

theorem unchanged_settles (cause : Option SRPacket) :
    Settles (.ok ⟨me, st, [], []⟩) (Acts me cause) :=
  .ok ⟨.quiet _ rfl rfl (by simp) (by simp), .refl me⟩

theorem handleNicNormalMsg_settles (normal : p.msgType = .normal) :
    Settles (me.handleNicNormalMsg st input p) (Acts me (some p)) := by
  unfold handleNicNormalMsg
  split
  · rename_i request
    split
    · refine .ok ⟨.quiet _ rfl rfl (by simp) ?_, .refl me⟩
      intro n member
      rw [mem_singleton.mp member]
      trivial
    · rename_i new
      exact takeUp_settles ⟨normal, request⟩ new
  · rename_i reply
    split
    · rename_i foreign
      exact forwardReply_settles ⟨normal, reply⟩ foreign
    · exact acceptReply_settles
  · exact unchanged_settles _

theorem handleNicAlertMsg_settles : Settles (me.handleNicAlertMsg st p) (Acts me (some p)) := by
  unfold handleNicAlertMsg
  split
  · exact unchanged_settles _
  · split
    · exact unchanged_settles _
    · refine .ok ⟨.quiet _ rfl rfl ?_ (by simp), .refl me⟩
      intro q member
      rw [mem_singleton.mp member]
      rfl

theorem generaterRandomRequest_settles : Settles (me.generaterRandomRequest st input) fun e =>
    Acts me none e ∧ e.node.currentRequestTimeStamp = newStamp input ∧
      e.notes = [.generated me.myID (newStamp input)] := by
  unfold generaterRandomRequest
  dsimp only
  split
  · exact .error getNextHop_plain ‹_›
  · split
    · split
      · exact .error selection_plain ‹_›
      · exact .ok ⟨⟨.generate _ rfl ⟨rfl, rfl⟩ rfl rfl rfl rfl rfl, .routing ..⟩, rfl, rfl⟩
    · exact .ok ⟨⟨.generate _ rfl ⟨rfl, rfl⟩ rfl rfl rfl rfl rfl, .routing ..⟩, rfl, rfl⟩

theorem Routed.of_hopCount {hops : UInt16} (h : Routed me e (some { p with hopCount := hops })) :
    Routed me e (some p) := by
  cases h with
  | quiet _ stamp record out notes => exact .quiet _ stamp record out notes
  | takeUp _ request new stamp record out notes =>
    exact .takeUp p request new stamp record out notes
  | forward _ q reply foreign out sent id dest stamp record notes =>
    exact .forward p q reply foreign out sent id dest stamp record notes

theorem Settles.of_hopCount {hops : UInt16} {x : Outcome}
    (h : Settles x (Acts me (some { p with hopCount := hops }))) : Settles x (Acts me (some p)) :=
  ⟨fun e done => ⟨(h.1 e done).1.of_hopCount, (h.1 e done).2⟩, h.2⟩

theorem handlePacket_settles (other : p.msgType ≠ .discovery) :
    Settles (me.handleMessage st input (some p)) (Acts me (some p)) := by
  unfold handleMessage
  dsimp only
  split
  · unfold SINK_handleSRMsg
    split
    · rename_i discovery
      exact absurd discovery other
    · exact unchanged_settles _
    · rename_i normal
      exact handleNicNormalMsg_settles normal
    · exact unchanged_settles _
  · unfold handleSRMsg
    dsimp only
    split
    · rename_i discovery
      exact absurd discovery other
    · exact handleNicAlertMsg_settles.of_hopCount
    · rename_i normal
      exact (handleNicNormalMsg_settles (p := { p with hopCount := p.hopCount + 1 })
        normal).of_hopCount
    · exact unchanged_settles _

theorem handleTimer_settles : Settles (me.handleMessage st input none) fun e => Routed me e none ∧
    SameIdentity me e.node ∧ e.node.currentRequestTimeStamp = me.nextStamp input none ∧
      ∀ id t, .generated id t ∈ e.notes → me.Generates input ∧ id = me.myID ∧
      t = newStamp input := by
  unfold handleMessage
  dsimp only
  split
  · rename_i sink
    unfold SINK_handleSelfMsg
    split <;>
      exact .ok ⟨.quiet _ rfl rfl (by simp) (by simp), .refl me,
        by simp [nextStamp, Generates, sink], by simp⟩
  · rename_i sensor
    have plain : me.isSink = false := by simpa using sensor
    unfold handleSelfMsg
    split
    · rename_i due
      refine ⟨fun e done => ?_, generaterRandomRequest_settles.2⟩
      obtain ⟨acts, stamp, notes⟩ := generaterRandomRequest_settles.1 e done
      refine ⟨acts.1, acts.2, ?_, ?_⟩
      · rw [stamp, nextStamp, if_pos ⟨plain, due⟩]
      · intro id t member
        rw [notes, mem_singleton] at member
        cases member
        exact ⟨⟨plain, due⟩, rfl, rfl⟩
    · rename_i idle
      refine .ok ⟨.quiet _ rfl rfl (by simp) (by simp), .refl me, ?_, by simp⟩
      rw [nextStamp, if_neg (fun due => idle due.2)]

end Normal

end SR
end Srwsn
