import Srwsn.SR.Discovered
import Srwsn.SR.Network

/-! Where discovery starts: every node has initialised itself, and the sink has scheduled its first
broadcast. -/
namespace Srwsn
open SR MACAddress IDBuilder

/-- One sink and any number of sensors over any topology. A radio does not hear itself. -/
structure Deployment (ι : Type*) where
  sink : ι
  hears : ι → ι → Bool
  deaf : ∀ i, hears i i = false
  mac : ι → MACAddress
  specified : ∀ i, (mac i).isUnspecified = false
  sensorType : ι → Fin 5 := fun _ => 0
  tailleFiltre : Nat := BloomTable.tailleFiltre
  positive : 0 < tailleFiltre := by decide
  memory : ι → Nat → UInt8 := fun _ _ => 0
  queryRelaxationMaxRetry : Int32 := 3
  my_id : ι → UInt16 := fun _ => 0
  iAmTheLast : ι → Bool := fun _ => false
  numberSensorNotKnown : UInt16 := 0

namespace Deployment

variable {ι : Type*} [DecidableEq ι] (dep : Deployment ι)

def created (i : ι) : SR :=
  initializeSR (i = dep.sink)
    ⟨BloomFilter.create dep.tailleFiltre dep.positive (dep.memory i) [sax_hash, sdbm_hash], ∅⟩
    (TableRARE.initializeTable dep.queryRelaxationMaxRetry) (dep.my_id i) (dep.iAmTheLast i)

def start : Except Fault (World ι) :=
  match (dep.created dep.sink).SINK_selfInitialization (dep.mac dep.sink) with
  | .error fault => .error fault
  | .ok (sink, discoInit) =>
    .ok ⟨⟨fun i => if i = dep.sink then sink
        else (dep.created i).selfInitialization (dep.mac i) (dep.sensorType i),
      { numberSensorNotKnown := dep.numberSensorNotKnown }, []⟩, [(dep.sink, discoInit)], []⟩

def net : Net ι := network dep.hears

def Reachable (c : World ι) : Prop :=
  ∃ start, dep.start = .ok start ∧ dep.net.Reaches Radio.System.Free start c

structure Booted (w : World ι) : Prop where
  roles : ∀ i, (w.nodes i).isSink = decide (i = dep.sink)
  macs : ∀ i, (w.nodes i).myMACAddress = dep.mac i
  sinkID : distanceOf (w.nodes dep.sink).myID = 0
  unset : ∀ i, i ≠ dep.sink → (w.nodes i).myID = 65535
  silent : ∀ i, (w.nodes i).hasSentAdvertMsg = false
  waiting : ∀ i, (w.nodes i).firstSinkMsg = true
  areaNumber : ∀ i, (w.nodes i).areaNumber = 0
  neighborList : ∀ i, (w.nodes i).neighborList = ∅
  history : w.history = []
  pending : ∃ q, w.pending = [(dep.sink, q)] ∧
    Sends (w.nodes dep.sink) .request (w.nodes dep.sink).myID BROADCAST_ADDRESS q
  air : w.air = []

theorem SINK_selfInitialization_ok (me : SR) {mac : MACAddress}
    (specified : mac.isUnspecified = false) :
    ∃ sink discoInit, me.SINK_selfInitialization mac = .ok (sink, discoInit) ∧
      SameProgress { me with myMACAddress := mac, myID := sink.myID } sink ∧
      sink.neighborList = me.neighborList ∧ distanceOf sink.myID = 0 ∧
      Sends sink .request sink.myID BROADCAST_ADDRESS discoInit := by
  obtain ⟨extended, ext, -⟩ := setMACExt_str me.iDBuilder mac
  obtain ⟨near, zero⟩ : ∃ near, extended.setSinkDistance 0 = .ok near := ⟨_, rfl⟩
  obtain ⟨built, area⟩ : ∃ built, near.setArea 0 = .ok built := ⟨_, rfl⟩
  have distance : distanceOf built.my_id = 0 := by
    rw [(setArea_ok area).2.2.1, (setSinkDistance_ok zero).2.1]
    rfl
  cases run : me.SINK_selfInitialization mac with
  | error fault =>
    simp only [SINK_selfInitialization, specified, ext, zero, area] at run
    cases run
  | ok result =>
    simp only [SINK_selfInitialization, specified, ext, zero, area] at run
    cases run
    exact ⟨_, _, rfl, ⟨rfl, rfl, rfl, rfl, rfl, rfl⟩, rfl, distance, ⟨rfl, rfl, rfl, rfl, rfl⟩⟩

theorem start_ok : ∃ w, dep.start = .ok w ∧ dep.Booted w := by
  obtain ⟨sink, discoInit, initialised, same, list, distance, sends⟩ :=
    SINK_selfInitialization_ok (dep.created dep.sink) (dep.specified dep.sink)
  refine ⟨_, by rw [start, initialised], ?_⟩
  -- a field that both kinds of node take over from their creation
  have field : ∀ {β : Type} (f : SR → β) (b : β), f sink = b →
      (∀ i, f ((dep.created i).selfInitialization (dep.mac i) (dep.sensorType i)) = b) →
      ∀ i, f (if i = dep.sink then sink
        else (dep.created i).selfInitialization (dep.mac i) (dep.sensorType i)) = b := by
    intro β f b atSink elsewhere i
    split
    · exact atSink
    · exact elsewhere i
  constructor
  · intro i
    dsimp only
    split
    · rename_i here
      rw [same.isSink]
      simp [here, created, initializeSR]
    · rename_i sensor
      simp [sensor, created, initializeSR, selfInitialization]
  · intro i
    dsimp only
    split
    · rename_i here
      rw [same.mac, here]
    · rfl
  · simpa using distance
  · intro i sensor
    simp [sensor, created, initializeSR, selfInitialization]
  · exact field SR.hasSentAdvertMsg false same.hasSentAdvertMsg (fun _ => rfl)
  · exact field SR.firstSinkMsg true same.firstSinkMsg (fun _ => rfl)
  · exact field SR.areaNumber 0 same.areaNumber (fun _ => rfl)
  · exact field SR.neighborList ∅ list (fun _ => rfl)
  · rfl
  · refine ⟨discoInit, rfl, ?_⟩
    simpa using sends
  · rfl

def Advances (c : World ι) (ev : Radio.Event ι Input) (d : World ι) : Prop :=
  dep.net.step c ev = some (.ok d)

theorem Reachable.advances {c d : World ι} {ev : Radio.Event ι Input} (reached : dep.Reachable c)
    (h : dep.Advances c ev d) : dep.Reachable d := by
  obtain ⟨w, started, run⟩ := reached
  exact ⟨w, started, run.step trivial h⟩

theorem Reachable.invariant {P : World ι → Prop} {c : World ι} (reached : dep.Reachable c)
    (base : ∀ w, dep.Booted w → P w) (keeps : ∀ c ev d, P c → dep.Advances c ev d → P d) : P c := by
  obtain ⟨w, started, run⟩ := reached
  obtain ⟨w', started', booted⟩ := dep.start_ok
  have same : w' = w := Except.ok.inj (started'.symm.trans started)
  subst same
  induction run with
  | start => exact base w' booted
  | step _ _ stepped ih => exact keeps _ _ _ ih stepped

theorem always_iff_each {P : World ι → Prop} {Q : World ι → Radio.Event ι Input → Prop}
    (base : ∀ w, dep.Booted w → P w) (exact_step : ∀ c ev d, dep.Reachable c → P c →
      dep.Advances c ev d → (P d ↔ Q c ev)) :
    ∃ start, dep.start = .ok start ∧ ∀ events,
      Trace.Always dep.Advances P start events ↔ Trace.Each dep.Advances Q start events := by
  obtain ⟨start, started, booted⟩ := dep.start_ok
  refine ⟨start, started, ?_⟩
  apply Trace.always_iff_each (I := dep.Reachable)
  · exact fun _ _ _ reached stepped => reached.advances dep stepped
  · exact exact_step
  · exact ⟨start, started, .start⟩
  · exact base start booted

def after (es : List (Radio.Event ι Input)) : Option (World ι) :=
  match dep.start with
  | .error _ => none
  | .ok w => dep.net.run Radio.System.Free w es

theorem reachable_of_run (es : List (Radio.Event ι Input)) (P : World ι → Prop) [DecidablePred P]
    (h : (dep.after es).any (fun c => decide (P c)) = true) : ∃ c, dep.Reachable c ∧ P c := by
  unfold after at h
  split at h
  · cases h
  · rename_i w started
    obtain ⟨c, reached, seen⟩ := Radio.System.reaches_of_run _ _ _ es P h
    exact ⟨c, ⟨w, started, reached⟩, seen⟩

/-- Node 0 is the sink, addresses are generated in the order of the nodes, and each link is heard
both ways. -/
def linked (n : Nat) (links : List (Nat × Nat))
    (proper : links.all (fun link => link.1 != link.2) = true) : Deployment (Fin (n + 1)) where
  sink := ⟨0, n.succ_pos⟩
  hears i j := decide ((i.val, j.val) ∈ links ∨ (j.val, i.val) ∈ links)
  deaf i := by
    rw [decide_eq_false_iff_not, or_self]
    intro loop
    exact absurd (List.all_eq_true.mp proper _ loop) (by simp)
  mac i := (generateAutoAddress (UInt32.ofNat i)).1
  specified _ := autoAddress_specified _

end Deployment
end Srwsn
