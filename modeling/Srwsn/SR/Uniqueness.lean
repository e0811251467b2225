import Srwsn.SR.Identity

/-! Uniqueness of identities. Of the ten bits of the extension only the last octet of an address is
used. -/
namespace Srwsn
open SR MACAddress IDBuilder

variable {ι : Type*} [DecidableEq ι] {dep : Deployment ι}

def HoldsID (dep : Deployment ι) (v : Snapshot ι) (i : ι) : Prop :=
  i = dep.sink ∨ (v.nodes i).myID ≠ 65535

def Unique (dep : Deployment ι) (c : World ι) : Prop :=
  ∀ i j, i ≠ j → HoldsID dep c.toView i → HoldsID dep c.toView j → (c.nodes i).myID ≠
    (c.nodes j).myID

/-- A sensor that takes an identity is the only one of its distance and area among those addressed a
multiple of 256 calls apart. -/
def TakesAlone (dep : Deployment ι) (ctr : ι → UInt32) (c : World ι) : Radio.Event ι Input → Prop
  | .deliver k _ => ∀ f, c.air[k]? = some f → f.packet.msgType = .discovery →
      Takes (c.nodes f.receiver) f.packet → ∀ j, j ≠ f.receiver → j ≠ dep.sink →
        HoldsID dep c.toView j → distanceOf (c.nodes j).myID = distanceOf f.packet.Id + 1 →
        areaOf (c.nodes j).myID = areaOf f.packet.Id →
        (ctr j).toNat % 256 ≠ (ctr f.receiver).toNat % 256
  | _ => True

section Unique

variable {v : Snapshot ι} {c d : World ι}

theorem holdsID_iff (h : Identified dep v) {i : ι} (sensor : i ≠ dep.sink) :
    HoldsID dep v i ↔ (v.nodes i).hasSentAdvertMsg = true := by
  constructor
  · intro holds
    by_contra unsent
    exact holds.elim sensor (fun named => named (h.unset i sensor (Bool.eq_false_iff.mpr unsent)))
  · intro sent
    refine .inr (fun unset => ?_)
    -- the unset id has all ten bits of the extension, an octet fills eight
    have ext := h.ext i sensor sent
    have top : macExtOf 65535 = 1023 := rfl
    have octet := (dep.mac i).lastOctet.toNat_lt
    rw [unset, top] at ext
    omega

def Apart (dep : Deployment ι) (v : Snapshot ι) : Prop :=
  ∀ i j, i ≠ dep.sink → j ≠ dep.sink → i ≠ j → (v.nodes i).hasSentAdvertMsg = true →
    (v.nodes j).hasSentAdvertMsg = true → (v.nodes i).myID ≠ (v.nodes j).myID

theorem unique_iff (h : Identified dep c.toView) : Unique dep c ↔ Apart dep c.toView := by
  have far : ∀ k, k ≠ dep.sink → HoldsID dep c.toView k → (c.nodes k).myID ≠
      (c.nodes dep.sink).myID := by
    intro k sensor holds same
    have positive := (chain_of_identity h _ sensor ((holdsID_iff h sensor).mp holds) rfl).1
    rw [same, h.sinkID] at positive
    omega
  constructor
  · intro unique i j one two different mine yours
    exact unique i j different ((holdsID_iff h one).mpr mine) ((holdsID_iff h two).mpr yours)
  · intro apart i j different mine yours
    by_cases one : i = dep.sink
    · subst one
      exact (far j (Ne.symm different) yours).symm
    · by_cases two : j = dep.sink
      · subst two
        exact far i one mine
      · exact apart i j one two different ((holdsID_iff h one).mp mine)
          ((holdsID_iff h two).mp yours)

omit [DecidableEq ι] in
theorem apart_of_same {w : Snapshot ι} (apart : Apart dep v)
    (same : ∀ i, i ≠ dep.sink → (w.nodes i).hasSentAdvertMsg = (v.nodes i).hasSentAdvertMsg ∧
      (w.nodes i).myID = (v.nodes i).myID) : Apart dep w := by
  intro i j one two different mine yours
  rw [(same i one).1] at mine
  rw [(same j two).1] at yours
  rw [(same i one).2, (same j two).2]
  exact apart i j one two different mine yours

theorem apart_join_iff (h : Identified dep v) (apart : Apart dep v) {i s : ι} {q : SRPacket}
    {e : Eff} (takes : Takes (v.nodes i) q) (join : Joins (v.nodes i) e q.Id) :
    Apart dep (v.after i (some (s, q)) e) ↔ ∀ j, j ≠ i → j ≠ dep.sink →
      (v.nodes j).hasSentAdvertMsg = true → (v.nodes j).myID ≠ e.node.myID := by
  have sensor := (h.sensor_iff i).mp takes.sensor
  have self : (v.after i (some (s, q)) e).nodes i = e.node := Radio.View.after_self ..
  have others : ∀ {j}, j ≠ i → (v.after i (some (s, q)) e).nodes j = v.nodes j :=
    Radio.View.after_other
  constructor
  · intro after j other two yours
    have different := after j i two sensor other
    rw [self, others other] at different
    exact different yours join.sent
  · intro fresh j k one two different mine yours
    by_cases here : j = i
    · subst here
      rw [others (Ne.symm different)] at yours ⊢
      rw [self]
      exact (fresh k (Ne.symm different) two yours).symm
    · rw [others here] at mine ⊢
      by_cases there : k = i
      · subst there
        rw [self]
        exact fresh j here one mine
      · rw [others there] at yours ⊢
        exact apart j k one two different mine yours

/-- Two ids differ unless distance, area and the addresses' counters modulo 256 all agree. -/
theorem fresh_iff {ctr : ι → UInt32} (auto : ∀ i, dep.mac i = (generateAutoAddress (ctr i)).1)
    (h : Identified dep v) {i j : ι} {q : SRPacket} {e : Eff} (join : Joins (v.nodes i) e q.Id)
    (sensor : j ≠ dep.sink) (sent : (v.nodes j).hasSentAdvertMsg = true) :
    (v.nodes j).myID ≠ e.node.myID ↔ (distanceOf (v.nodes j).myID = distanceOf q.Id + 1 →
      areaOf (v.nodes j).myID = areaOf q.Id → (ctr j).toNat % 256 ≠ (ctr i).toNat % 256) := by
  have octet : ∀ k, (dep.mac k).lastOctet.toNat = ((ctr k).toNat + 1) % 256 := by
    intro k
    rw [auto k]
    simp only [generateAutoAddress, lastOctet_autoAddress, UInt32.toNat_add, UInt32.toNat_one]
    omega
  have mine : macExtOf e.node.myID = ((ctr i).toNat + 1) % 256 := by
    rw [join.ext, h.macs i, octet i]
  have yours : macExtOf (v.nodes j).myID = ((ctr j).toNat + 1) % 256 := by
    rw [h.ext j sensor sent, octet j]
  rw [Ne, id_eq_iff, mine, yours, join.distance, join.area]
  constructor
  · intro unlike distance area agree
    exact unlike ⟨by omega, distance, area⟩
  · rintro unlike ⟨ext, distance, area⟩
    exact unlike distance area (by omega)

theorem unique_step_iff {ctr : ι → UInt32} (auto : ∀ i, dep.mac i = (generateAutoAddress (ctr i)).1)
    (reached : dep.Reachable c) (unique : Unique dep c) {ev : Radio.Event ι Input}
    (h : dep.Advances c ev d) : Unique dep d ↔ TakesAlone dep ctr c ev := by
  obtain ⟨view, pending, air⟩ := identity_holds reached
  have later := ((identity_inductive dep).step ⟨view, pending, air⟩ h).1
  have apart := (unique_iff view).mp unique
  rw [unique_iff later]
  obtain ⟨k, receivers, i, q, rfl, found, -, -, rfl⟩ | ⟨k, input, f, e, rfl, found, acted, rfl⟩ |
    ⟨i, input, e, rfl, acted, rfl⟩ := Radio.System.step_cases h
  · exact iff_of_true apart trivial
  · have ran : (c.nodes f.receiver).handleMessage c.shared input (some f.packet) = .ok e := acted
    have only : ∀ {g}, c.air[k]? = some g → g = f :=
      fun other => Option.some.inj (other.symm.trans found)
    generalize packet : some f.packet = p at ran
    cases handleMessage_moves ran with
    | stays _ _ _ myID sent _ _ idle =>
      apply iff_of_true
      · apply apart_of_same apart
        intro j _
        exact ⟨Radio.View.after_frame SR.hasSentAdvertMsg sent j,
          Radio.View.after_frame SR.myID myID j⟩
      · intro g other discovery takes
        cases only other
        exact absurd takes (idle _ packet.symm discovery)
    | joins q discovery takes join =>
      cases packet
      refine (apart_join_iff view apart takes join).trans ?_
      constructor
      · intro fresh g other _ _ j different sensor holds
        cases only other
        have sent := (holdsID_iff view sensor).mp holds
        exact (fresh_iff auto view join sensor sent).mp (fresh j different sensor sent)
      · intro alone j different sensor sent
        have holds := (holdsID_iff view sensor).mpr sent
        exact (fresh_iff auto view join sensor sent).mpr (alone f found discovery takes j different
          sensor holds)
    | answers q sink _ _ _ _ =>
      have here := (view.sink_iff _).mp sink
      apply iff_of_true
      · apply apart_of_same apart
        intro j sensor
        have other : j ≠ f.receiver := fun same => sensor (same.trans here)
        rw [Radio.Config.after, Radio.View.after_other other]
        exact ⟨rfl, rfl⟩
      · intro g other _ takes
        cases only other
        exact absurd takes (Takes.not_of_sink sink)
  · have ran : (c.nodes i).handleMessage c.shared input none = .ok e := acted
    apply iff_of_true _ trivial
    generalize packet : none = p at ran
    cases handleMessage_moves ran with
    | stays _ _ _ myID sent _ _ _ =>
      apply apart_of_same apart
      intro j _
      exact ⟨Radio.View.after_frame SR.hasSentAdvertMsg sent j,
        Radio.View.after_frame SR.myID myID j⟩
    | joins _ _ _ _ => cases packet
    | answers _ _ _ _ _ _ => cases packet

end Unique

/-- Ids stay unique if and only if no sensor takes one of the distance and area that a sensor
addressed a multiple of 256 calls apart already holds. -/
theorem ids_unique_iff (dep : Deployment ι) (ctr : ι → UInt32)
    (auto : ∀ i, dep.mac i = (generateAutoAddress (ctr i)).1) :
    ∃ start, dep.start = .ok start ∧ ∀ events,
      Trace.Always dep.Advances (Unique dep) start events ↔
        Trace.Each dep.Advances (TakesAlone dep ctr) start events := by
  apply dep.always_iff_each
  · intro w booted
    rw [unique_iff (identity_start booted).1]
    intro i _ _ _ _ sent
    rw [booted.silent i] at sent
    cases sent
  · intro c ev d reached unique advances
    exact unique_step_iff auto reached unique advances

theorem takesAlone_of_apart {ctr : ι → UInt32} (apart : ∀ i j, i ≠ dep.sink → j ≠ dep.sink →
    i ≠ j → (ctr i).toNat % 256 ≠ (ctr j).toNat % 256) (c : World ι) (reached : dep.Reachable c)
    (ev : Radio.Event ι Input) : TakesAlone dep ctr c ev := by
  obtain ⟨view, -, -⟩ := identity_holds reached
  cases ev with
  | transmit k receivers => trivial
  | wake i input => trivial
  | deliver k input =>
    intro f _ _ takes j different sensor _ _ _
    exact apart j f.receiver sensor ((view.sensor_iff _).mp takes.sensor) different

theorem relayLine_ids_unique : ∃ start, relayLine.start = .ok start ∧ ∀ events,
      Trace.Always relayLine.Advances (Unique relayLine) start events := by
  obtain ⟨start, started, exactly⟩ :=
    ids_unique_iff relayLine (fun i => UInt32.ofNat i) (fun _ => rfl)
  refine ⟨start, started, fun events => (exactly events).mpr ?_⟩
  apply Trace.each_of_invariant (I := relayLine.Reachable)
  · exact fun _ _ _ reached stepped => reached.advances relayLine stepped
  · exact fun c ev reached => takesAlone_of_apart (by decide) c reached ev
  · exact ⟨start, started, .start⟩

/-- Of 260 nodes, numbers 2 and 258 are addressed 256 calls apart and hear the same relay. -/
def relayFork : Deployment (Fin 260) := .linked 259 [(0, 1), (1, 2), (1, 258)] (by decide)

theorem relayFork_ids_clash : ∃ c, relayFork.Reachable c ∧ (c.nodes 2).myID = 200 ∧
      (c.nodes 258).myID = 200 ∧ ¬ Unique relayFork c := by
  obtain ⟨c, reached, one, two⟩ := relayFork.reachable_of_run (joinTwoHops 0 1 [2, 258])
    (fun c => (c.nodes 2).myID = 200 ∧ (c.nodes 258).myID = 200) (by decide +kernel)
  refine ⟨c, reached, one, two, fun unique => ?_⟩
  refine unique 2 258 (by decide) (.inr ?_) (.inr ?_) (one.trans two.symm)
  · rw [one]
    decide
  · rw [two]
    decide

end Srwsn
