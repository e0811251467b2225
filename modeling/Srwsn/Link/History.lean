import Srwsn.Lib.Outcome
import Srwsn.Lib.Linked

/-! The duplicate check of `handleLowerMsg`: two doubly linked lists of the last sequence number
heard from each source. -/
namespace Srwsn

open List

open Linked (Heap Node Fault)

structure HListLink where
  hostID : UInt16
  sn : UInt8
  deriving DecidableEq, Repr

/- `HLISTLINK **hlistLink1, **hlistLink2`: the pointers to the first and the final element. -/
structure HList where
  hlistLink1 : Option Nat
  hlistLink2 : Option Nat
  deriving DecidableEq, Repr

inductive HlOper where
  | del
  | est
  | rpl
  deriving DecidableEq, Repr

abbrev HeapResult := Except Fault (Int32 × Heap HListLink × HList)

def addHListLink (h : Heap HListLink) (list : HList) (hostid : UInt16) (sn : UInt8) : HeapResult :=
  let tmp := h.fresh
  let h := h.alloc ⟨⟨hostid, sn⟩, none, none⟩
  match list.hlistLink2 with
  | none => .ok (0, h, ⟨some tmp, some tmp⟩)
  | some final => do
    let h ← h.modify tmp fun n => { n with last := some final }
    let h ← h.modify final fun n => { n with next := some tmp }
    return (0, h, { list with hlistLink2 := some tmp })

def unlinkHListLink (h : Heap HListLink) (list : HList) (tmp : Nat) : HeapResult := do
  let node ← h.read tmp
  match node.last, node.next with
  | some before, some behind =>
    let h ← h.modify before fun n => { n with next := node.next }
    let h ← h.modify behind fun n => { n with last := node.last }
    return (0, ← h.free tmp, list)
  | some before, none =>
    let h ← h.modify before fun n => { n with next := node.next }
    return (0, ← h.free tmp, { list with hlistLink2 := some before })
  | none, some behind =>
    let h ← h.modify behind fun n => { n with last := none }
    return (0, ← h.free tmp, { list with hlistLink1 := some behind })
  | none, none => return (0, ← h.free tmp, ⟨none, none⟩)

/-- Returns 1 if the host is not in the list and 2 if a replacement would change nothing. -/
def updateHListLink (oper : HlOper) (h : Heap HListLink) (list : HList) (hostid : UInt16)
    (sn : UInt8) : HeapResult := do
  match ← Linked.search h.cells (fun link => link.hostID == hostid) h.fresh list.hlistLink1 with
  | none => return (1, h, list)
  | some tmp =>
    match oper with
    | .del => unlinkHListLink h list tmp
    | .est => return (0, h, list)
    | .rpl =>
      let node ← h.read tmp
      if node.value.sn != sn then
        return (0, ← h.modify tmp fun n => { n with value := { n.value with sn := sn } }, list)
      else return (2, h, list)

def chkAddUpdHListLink (h : Heap HListLink) (list : HList) (hostid : UInt16) (sn : UInt8) :
    HeapResult := do
  let (i, h, list) ← updateHListLink .rpl h list hostid sn
  if i == 0 then return (1, h, list)
  else if i == 2 then return (2, h, list)
  else
    let (i, h, list) ← addHListLink h list hostid sn
    if i == 0 then return (0, h, list) else return (3, h, list)

namespace HList

abbrev Holds (h : Heap HListLink) (list : HList) (l : List (Nat × HListLink)) : Prop :=
  Linked.Represents h list.hlistLink1 list.hlistLink2 l

end HList

variable {h : Heap HListLink} {list : HList} {l : List (Nat × HListLink)}

theorem addHListLink_spec (holds : list.Holds h l) (hostid : UInt16) (sn : UInt8) :
    ∃ h' list', addHListLink h list hostid sn = .ok (0, h', list') ∧
      list'.Holds h' (l ++ [(h.fresh, ⟨hostid, sn⟩)]) ∧ Linked.SameOutside h h' l := by
  have new := holds.fresh_not_mem
  rcases eq_nil_or_concat' l with rfl | ⟨init, ⟨t, x⟩, rfl⟩
  · have final : list.hlistLink2 = none := holds.ends
    have ran : addHListLink h list hostid sn =
        .ok (0, h.alloc ⟨⟨hostid, sn⟩, none, none⟩, ⟨some h.fresh, some h.fresh⟩) := by
      simp only [addHListLink, final]
    refine ⟨_, _, ran, ⟨?_, rfl, nodup_singleton _⟩, ?_⟩
    · exact ⟨rfl, none, Function.update_self _ _ _, rfl⟩
    · intro a live _
      exact Function.update_of_ne (Nat.ne_of_lt live) _ _
  · have final : list.hlistLink2 = some t := by simpa [Linked.back] using holds.ends
    have held : h.cells t = some ⟨x, Linked.back none init, none⟩ := Linked.cell_at _ _ holds
    have apart : t ≠ h.fresh := by
      rintro rfl
      exact new (by simp)
    obtain ⟨h₁, ran₁, cells₁, -⟩ := Heap.modify_of_cell
      (h.alloc_cell ⟨⟨hostid, sn⟩, none, none⟩) fun n => { n with last := some t }
    have there : h₁.cells t = some ⟨x, Linked.back none init, none⟩ := by
      simp [cells₁, Heap.alloc, apart, held]
    obtain ⟨h₂, ran₂, cells₂, -⟩ :=
      Heap.modify_of_cell there fun n => { n with next := some h.fresh }
    refine ⟨h₂, ⟨list.hlistLink1, some h.fresh⟩, ?_, holds.push new ?_ ?_ ?_, ?_⟩
    · simp [addHListLink, final, ran₁, ran₂]
    · simp [cells₂]
    · simp [cells₂, cells₁, Ne.symm apart]
    · intro c inside
      have other : c ≠ t := by
        have distinct := holds.distinct
        rw [map_append, nodup_append] at distinct
        exact distinct.2.2 c inside t (mem_singleton_self t)
      have old : c ≠ h.fresh := by
        rintro rfl
        exact new (by rw [map_append]; exact mem_append_left _ inside)
      simp [cells₂, cells₁, Heap.alloc, other, old]
    · intro c live outside
      have other : c ≠ t := by
        rintro rfl
        exact outside (by simp)
      simp [cells₂, cells₁, Heap.alloc, other, Nat.ne_of_lt live]

theorem search_spec (holds : list.Holds h l) (hostid : UInt16) :
    Linked.search h.cells (fun link => link.hostID == hostid) h.fresh list.hlistLink1 =
      .ok ((l.find? fun cell => cell.2.hostID == hostid).map Prod.fst) :=
  holds.seg.search_eq _ holds.length_le

section Present

variable {init rest : List (Nat × HListLink)} {tmp : Nat} {x : HListLink} {hostid : UInt16}

theorem update_present (holds : list.Holds h (init ++ (tmp, x) :: rest)) (host : x.hostID = hostid)
    (earlier : ∀ cell ∈ init, cell.2.hostID ≠ hostid) (oper : HlOper) (sn : UInt8) :
    updateHListLink oper h list hostid sn = match oper with
      | .del => unlinkHListLink h list tmp
      | .est => .ok (0, h, list)
      | .rpl => if x.sn ≠ sn then
        (h.modify tmp fun n => { n with value := { n.value with sn := sn } }).map (0, ·, list)
        else .ok (2, h, list) := by
  have found : (init ++ (tmp, x) :: rest).find? (fun cell => cell.2.hostID == hostid) =
      some (tmp, x) := by
    rw [find?_append, find?_eq_none.mpr (by simpa using earlier)]
    simp [host]
  have held := Linked.cell_at _ _ holds
  simp only [updateHListLink, search_spec holds, found, Option.map_some, bind, Except.bind]
  cases oper with
  | del => rfl
  | est => rfl
  | rpl =>
    simp only [Heap.read_of_cell held, bne_iff_ne]
    split
    · cases h.modify tmp _ <;> rfl
    · rfl

theorem replace_spec (holds : list.Holds h (init ++ (tmp, x) :: rest)) (host : x.hostID = hostid)
    (earlier : ∀ cell ∈ init, cell.2.hostID ≠ hostid) {sn : UInt8} (changed : x.sn ≠ sn) :
    ∃ h', updateHListLink .rpl h list hostid sn = .ok (0, h', list) ∧
      list.Holds h' (init ++ (tmp, ⟨hostid, sn⟩) :: rest) ∧
      Linked.SameOutside h h' (init ++ (tmp, x) :: rest) := by
  obtain ⟨h', ran, cells, -⟩ := Heap.modify_of_cell (Linked.cell_at _ _ holds)
    fun n => { n with value := { n.value with sn := sn } }
  refine ⟨h', ?_, holds.assign ?_ ?_, ?_⟩
  · simp [update_present holds host earlier, changed, ran, Except.map]
  · simp [cells, host]
  · intro c other
    simp [cells, other]
  · intro c _ outside
    have other : c ≠ tmp := by
      rintro rfl
      exact outside (by simp)
    simp [cells, other]

end Present

def remember : List HListLink → UInt16 → UInt8 → Int32 × List HListLink
  | [], hostid, sn => (0, [⟨hostid, sn⟩])
  | link :: known, hostid, sn =>
    if link.hostID = hostid then
      if link.sn = sn then (2, link :: known) else (1, ⟨hostid, sn⟩ :: known)
    else ((remember known hostid sn).1, link :: (remember known hostid sn).2)

def heard (known : List HListLink) (hostid : UInt16) : Option UInt8 :=
  (known.find? fun link => link.hostID == hostid).map HListLink.sn

@[simp] theorem heard_nil (hostid : UInt16) : heard [] hostid = none := rfl

@[simp] theorem heard_cons (link : HListLink) (known : List HListLink) (hostid : UInt16) :
    heard (link :: known) hostid = if link.hostID = hostid then some link.sn
    else heard known hostid := by
  simp only [heard, find?_cons]
  split <;> simp_all

theorem remember_absent {known : List HListLink} {hostid : UInt16}
    (absent : ∀ link ∈ known, link.hostID ≠ hostid) (sn : UInt8) :
    remember known hostid sn = (0, known ++ [⟨hostid, sn⟩]) := by
  induction known with
  | nil => rfl
  | cons link known ih =>
    simp only [forall_mem_cons] at absent
    simp [remember, absent.1, ih absent.2]

theorem remember_present {init : List HListLink} (rest : List HListLink) {x : HListLink}
    {hostid : UInt16} (host : x.hostID = hostid) (earlier : ∀ link ∈ init, link.hostID ≠ hostid)
    (sn : UInt8) :
    remember (init ++ x :: rest) hostid sn =
      if x.sn = sn then (2, init ++ x :: rest) else (1, init ++ ⟨hostid, sn⟩ :: rest) := by
  induction init with
  | nil => simp [remember, host]
  | cons link init ih =>
    simp only [forall_mem_cons] at earlier
    simp only [cons_append, remember, if_neg earlier.1, ih earlier.2]
    split <;> rfl

theorem remember_fst_eq_two_iff (known : List HListLink) (hostid : UInt16) (sn : UInt8) :
    (remember known hostid sn).1 = 2 ↔ heard known hostid = some sn := by
  induction known with
  | nil => simp [remember]
  | cons link known ih =>
    by_cases host : link.hostID = hostid
    · by_cases same : link.sn = sn <;> simp [remember, host, same]
    · simpa [remember, host] using ih

theorem heard_remember (known : List HListLink) (hostid other : UInt16) (sn : UInt8) :
    heard (remember known hostid sn).2 other = if hostid = other then some sn
    else heard known other := by
  induction known with
  | nil => simp [remember]
  | cons link known ih =>
    simp only [remember]
    split
    · rename_i host
      split <;> by_cases same : hostid = other <;> simp_all
    · rename_i host
      simp only [heard_cons, ih]
      split <;> simp_all [eq_comm]

theorem hosts_remember (known : List HListLink) (hostid : UInt16) (sn : UInt8) :
    ((remember known hostid sn).2).map HListLink.hostID =
      if hostid ∈ known.map HListLink.hostID then known.map HListLink.hostID
      else known.map HListLink.hostID ++ [hostid] := by
  induction known with
  | nil => rfl
  | cons link known ih =>
    simp only [remember]
    split
    · rename_i host
      split <;> simp [host]
    · rename_i host
      simp only [map_cons, ih, mem_cons, Ne.symm host, false_or]
      split <;> simp

theorem chkAddUpdHListLink_spec (holds : list.Holds h l) (hostid : UInt16) (sn : UInt8) :
    ∃ h' list' l',
    chkAddUpdHListLink h list hostid sn = .ok ((remember (l.map Prod.snd) hostid sn).1, h', list') ∧
      list'.Holds h' l' ∧ l'.map Prod.snd = (remember (l.map Prod.snd) hostid sn).2 ∧
      Linked.SameOutside h h' l ∧ ∀ a ∈ l'.map Prod.fst, a ∈ l.map Prod.fst ∨ a = h.fresh := by
  cases found : l.find? fun cell => cell.2.hostID == hostid with
  | none =>
    obtain ⟨h', list', ran, holds', same⟩ := addHListLink_spec holds hostid sn
    have absent : ∀ link ∈ l.map Prod.snd, link.hostID ≠ hostid := by
      rw [List.forall_mem_map]
      simpa [find?_eq_none] using found
    refine ⟨h', list', _, ?_, holds', ?_, same, ?_⟩
    · simp [chkAddUpdHListLink, updateHListLink, search_spec holds, found, ran,
        remember_absent absent]
    · simp [remember_absent absent]
    · simp
  | some cell =>
    obtain ⟨tmp, x⟩ := cell
    obtain ⟨host, init, rest, rfl, earlier⟩ := find?_eq_some_iff_append.mp found
    have host : x.hostID = hostid := by simpa using host
    have earlier : ∀ cell ∈ init, cell.2.hostID ≠ hostid := by simpa using earlier
    have known := remember_present (rest.map Prod.snd) host (List.forall_mem_map.mpr earlier) sn
    by_cases unchanged : x.sn = sn
    · rw [if_pos unchanged] at known
      refine ⟨h, list, _, ?_, holds, ?_, fun _ _ _ => rfl, fun _ inside => .inl inside⟩
      · simp [chkAddUpdHListLink, update_present holds host earlier, unchanged, known]
      · simp [known]
    · rw [if_neg unchanged] at known
      obtain ⟨h', ran, holds', same⟩ := replace_spec holds host earlier unchanged
      refine ⟨h', list, _, ?_, holds', ?_, same, ?_⟩
      · simp [chkAddUpdHListLink, ran, known]
      · simp [known]
      · intro a inside
        exact .inl (by simpa using inside)

inductive FrameType where
  | beacon
  | data
  | ack
  | cmd
  deriving DecidableEq, Repr

structure Frame where
  frmType : FrameType
  srcAddr : UInt16
  bdsn : UInt8
  deriving DecidableEq, Repr

/-- A frame at the check, with what the storage of the local `int i` happens to hold. -/
structure Arrival where
  frame : Frame
  i : Int32

structure History where
  heap : Heap HListLink
  hlistB : HList
  hlistD : HList

namespace History

def empty : History := ⟨Heap.empty, ⟨none, none⟩, ⟨none, none⟩⟩

/-- Of the frame types, only an acknowledgement leaves `i` as it was. -/
def checkDuplication (m : History) (arrival : Arrival) : Except Fault (Bool × History) :=
  match arrival.frame.frmType with
  | .beacon => do
    let (i, heap, list) ←
      chkAddUpdHListLink m.heap m.hlistB arrival.frame.srcAddr arrival.frame.bdsn
    return (i == 2, { m with heap := heap, hlistB := list })
  | .ack => return (arrival.i == 2, m)
  | .data | .cmd => do
    let (i, heap, list) ←
      chkAddUpdHListLink m.heap m.hlistD arrival.frame.srcAddr arrival.frame.bdsn
    return (i == 2, { m with heap := heap, hlistD := list })

def checkAll : History → List Arrival → Except Fault (List Bool × History)
  | m, [] => .ok ([], m)
  | m, arrival :: later => do
    let (discarded, m) ← m.checkDuplication arrival
    let (verdicts, m) ← checkAll m later
    return (discarded :: verdicts, m)

end History

def FrameType.sameList : FrameType → FrameType → Bool
  | .beacon, .beacon | .data, .data | .data, .cmd | .cmd, .data | .cmd, .cmd => true
  | _, _ => false

/-- The number of the most recent frame that is checked against the same list and comes from the
same source. -/
def latest (kind : FrameType) (srcAddr : UInt16) : List Frame → Option UInt8
  | [] => none
  | frame :: earlier =>
    if kind.sameList frame.frmType ∧ frame.srcAddr = srcAddr then some frame.bdsn
    else latest kind srcAddr earlier

def repeats : List Frame → List Frame → List Bool
  | _, [] => []
  | earlier, frame :: later =>
    (latest frame.frmType frame.srcAddr earlier == some frame.bdsn) :: repeats
      (frame :: earlier) later

structure Keeps (h : Heap HListLink) (list : HList) (kind : FrameType) (earlier : List Frame)
    (l : List (Nat × HListLink)) : Prop where
  holds : list.Holds h l
  newest : ∀ srcAddr, heard (l.map Prod.snd) srcAddr = latest kind srcAddr earlier
  unique : ((l.map Prod.snd).map HListLink.hostID).Nodup

structure Remembers (m : History) (earlier : List Frame) (b d : List (Nat × HListLink)) : Prop where
  beacons : Keeps m.heap m.hlistB .beacon earlier b
  frames : Keeps m.heap m.hlistD .data earlier d
  apart : (b.map Prod.fst).Disjoint (d.map Prod.fst)

@[simp] theorem latest_cmd (srcAddr : UInt16) (earlier : List Frame) :
    latest .cmd srcAddr earlier = latest .data srcAddr earlier := by
  induction earlier with
  | nil => rfl
  | cons frame earlier ih =>
    have same : FrameType.sameList .cmd frame.frmType = FrameType.sameList .data frame.frmType := by
      cases frame.frmType <;> rfl
    simp only [latest, same, ih]

@[simp] theorem latest_ack (srcAddr : UInt16) (earlier : List Frame) :
    latest .ack srcAddr earlier = none := by
  induction earlier with
  | nil => rfl
  | cons frame earlier ih => simpa [latest, FrameType.sameList] using ih

section Check

variable {kind : FrameType} {earlier : List Frame} {frame : Frame}

theorem unique_remember {known : List HListLink} (unique : (known.map HListLink.hostID).Nodup)
    (hostid : UInt16) (sn : UInt8) : ((remember known hostid sn).2.map HListLink.hostID).Nodup := by
  rw [hosts_remember]
  split
  · exact unique
  · rename_i new
    exact unique.append (nodup_singleton _) (disjoint_singleton.mpr new)

theorem Keeps.check (frame : Frame) (keeps : Keeps h list kind earlier l)
    (own : kind.sameList frame.frmType = true) :
    ∃ code h' list' l', chkAddUpdHListLink h list frame.srcAddr frame.bdsn = .ok (code, h', list') ∧
      (code = 2 ↔ latest kind frame.srcAddr earlier = some frame.bdsn) ∧
      Keeps h' list' kind (frame :: earlier) l' ∧ Linked.SameOutside h h' l ∧
      ∀ a ∈ l'.map Prod.fst, a ∈ l.map Prod.fst ∨ a = h.fresh := by
  obtain ⟨h', list', l', ran, holds, elements, same, addresses⟩ :=
    chkAddUpdHListLink_spec keeps.holds frame.srcAddr frame.bdsn
  refine ⟨_, h', list', l', ran, ?_, ⟨holds, fun srcAddr => ?_, ?_⟩, same, addresses⟩
  · rw [remember_fst_eq_two_iff, keeps.newest]
  · rw [elements, heard_remember, keeps.newest]
    simp [latest, own]
  · rw [elements]
    exact unique_remember keeps.unique _ _

theorem Keeps.skip {h' : Heap HListLink} {m : List (Nat × HListLink)}
    (keeps : Keeps h list kind earlier l) (other : kind.sameList frame.frmType = false)
    (same : Linked.SameOutside h h' m) (apart : (m.map Prod.fst).Disjoint (l.map Prod.fst)) :
    Keeps h' list kind (frame :: earlier) l := by
  refine ⟨keeps.holds.frame same apart, fun srcAddr => ?_, keeps.unique⟩
  rw [keeps.newest]
  simp [latest, other]

theorem disjoint_after {l' m : List (Nat × HListLink)} {kept : HList} (holds : kept.Holds h m)
    (apart : (l.map Prod.fst).Disjoint (m.map Prod.fst))
    (addresses : ∀ a ∈ l'.map Prod.fst, a ∈ l.map Prod.fst ∨ a = h.fresh) :
    (l'.map Prod.fst).Disjoint (m.map Prod.fst) := by
  intro a inside other
  rcases addresses a inside with old | rfl
  · exact apart old other
  · exact holds.fresh_not_mem other

variable {b d : List (Nat × HListLink)}

variable {m : History} (remembers : Remembers m earlier b d)

include remembers

theorem Remembers.beacon_checked (beacon : frame.frmType = .beacon) :
    ∃ code heap list b', chkAddUpdHListLink m.heap m.hlistB frame.srcAddr frame.bdsn =
      .ok (code, heap, list) ∧ (code = 2 ↔ latest .beacon frame.srcAddr earlier = some frame.bdsn) ∧
      Remembers { m with heap := heap, hlistB := list } (frame :: earlier) b' d := by
  obtain ⟨beacons, frames, apart⟩ := remembers
  obtain ⟨code, heap, list, b', ran, verdict, keeps, same, addresses⟩ :=
    beacons.check frame (by rw [beacon]; rfl)
  exact ⟨code, heap, list, b', ran, verdict, keeps, frames.skip (by rw [beacon]; rfl) same apart,
    disjoint_after frames.holds apart addresses⟩

theorem Remembers.frame_checked (kind : frame.frmType = .data ∨ frame.frmType = .cmd) :
    ∃ code heap list d', chkAddUpdHListLink m.heap m.hlistD frame.srcAddr frame.bdsn =
      .ok (code, heap, list) ∧ (code = 2 ↔ latest .data frame.srcAddr earlier = some frame.bdsn) ∧
      Remembers { m with heap := heap, hlistD := list } (frame :: earlier) b d' := by
  obtain ⟨beacons, frames, apart⟩ := remembers
  obtain ⟨code, heap, list, d', ran, verdict, keeps, same, addresses⟩ :=
    frames.check frame (by rcases kind with kind | kind <;> rw [kind] <;> rfl)
  refine ⟨code, heap, list, d', ran, verdict, beacons.skip ?_ same apart.symm, keeps, ?_⟩
  · rcases kind with kind | kind <;> rw [kind] <;> rfl
  · exact (disjoint_after beacons.holds apart.symm addresses).symm

theorem Remembers.ack_skipped (ack : frame.frmType = .ack) :
    Remembers m (frame :: earlier) b d := by
  have untouched : Linked.SameOutside m.heap m.heap [] := fun _ _ _ => rfl
  exact ⟨remembers.beacons.skip (by rw [ack]; rfl) untouched (disjoint_nil_left _),
    remembers.frames.skip (by rw [ack]; rfl) untouched (disjoint_nil_left _), remembers.apart⟩

theorem checkDuplication_spec (arrival : Arrival) :
    ∃ discarded m' b' d', m.checkDuplication arrival = .ok (discarded, m') ∧
      Remembers m' (arrival.frame :: earlier) b' d' ∧
      discarded = if arrival.frame.frmType = .ack then arrival.i == 2
        else latest arrival.frame.frmType arrival.frame.srcAddr earlier ==
          some arrival.frame.bdsn := by
  cases kind : arrival.frame.frmType with
  | beacon =>
    obtain ⟨code, heap, list, b', ran, verdict, remembers'⟩ := remembers.beacon_checked kind
    refine ⟨code == 2, _, b', d, ?_, remembers', ?_⟩
    · simp [History.checkDuplication, kind, ran]
    · rw [Bool.eq_iff_iff]
      simp [verdict]
  | ack =>
    refine ⟨arrival.i == 2, m, b, d, ?_, remembers.ack_skipped kind, rfl⟩
    simp [History.checkDuplication, kind]
  | data =>
    obtain ⟨code, heap, list, d', ran, verdict, remembers'⟩ := remembers.frame_checked (.inl kind)
    refine ⟨code == 2, _, b, d', ?_, remembers', ?_⟩
    · simp [History.checkDuplication, kind, ran]
    · rw [Bool.eq_iff_iff]
      simp [verdict]
  | cmd =>
    obtain ⟨code, heap, list, d', ran, verdict, remembers'⟩ := remembers.frame_checked (.inr kind)
    refine ⟨code == 2, _, b, d', ?_, remembers', ?_⟩
    · simp [History.checkDuplication, kind, ran]
    · rw [Bool.eq_iff_iff]
      simp [verdict]

end Check

/-- The storage of `i` does not hold the code of a duplicate when an acknowledgement comes in. -/
def CleanAck (arrival : Arrival) : Prop := arrival.frame.frmType = .ack → arrival.i ≠ 2

def OnePerSource (h : Heap HListLink) (list : HList) : Prop :=
  ∃ l, list.Holds h l ∧ ((l.map Prod.snd).map HListLink.hostID).Nodup

theorem checkAll_spec (arrivals : List Arrival) {m : History} {earlier : List Frame}
    {b d : List (Nat × HListLink)} (remembers : Remembers m earlier b d) :
    ∃ verdicts m' b' d', m.checkAll arrivals = .ok (verdicts, m') ∧
      Remembers m' ((arrivals.map Arrival.frame).reverse ++ earlier) b' d' ∧
      (verdicts = repeats earlier (arrivals.map Arrival.frame) ↔ ∀ arrival ∈ arrivals,
        CleanAck arrival) := by
  induction arrivals generalizing m earlier b d with
  | nil => exact ⟨[], m, b, d, rfl, remembers, iff_of_true rfl (by simp)⟩
  | cons arrival later ih =>
    obtain ⟨discarded, m₁, b₁, d₁, ran₁, remembers₁, verdict⟩ :=
      checkDuplication_spec remembers arrival
    obtain ⟨verdicts, m₂, b₂, d₂, ran₂, remembers₂, rest⟩ := ih remembers₁
    refine ⟨discarded :: verdicts, m₂, b₂, d₂, ?_, ?_, ?_⟩
    · simp [History.checkAll, ran₁, ran₂]
    · simpa using remembers₂
    · simp only [map_cons, repeats, List.cons.injEq, rest, forall_mem_cons, verdict]
      apply and_congr_left
      intro _
      cases kind : arrival.frame.frmType <;> simp [CleanAck, kind]

/-- A frame is discarded exactly when the one before it from the same source had its number, as long
as no acknowledgement finds the code of a duplicate in `i`. -/
theorem duplicates_discarded_iff (arrivals : List Arrival) :
    ∃ verdicts m, History.empty.checkAll arrivals = .ok (verdicts, m) ∧
      OnePerSource m.heap m.hlistB ∧ OnePerSource m.heap m.hlistD ∧
      (verdicts = repeats [] (arrivals.map Arrival.frame) ↔ ∀ arrival ∈ arrivals,
        CleanAck arrival) := by
  have nothing : ∀ kind, Keeps Heap.empty ⟨none, none⟩ kind [] [] := fun kind =>
    ⟨Linked.represents_empty _, fun _ => rfl, nodup_nil⟩
  obtain ⟨verdicts, m, b, d, ran, remembers, exactly⟩ := checkAll_spec arrivals
    (m := History.empty) ⟨nothing .beacon, nothing .data, disjoint_nil_left _⟩
  exact ⟨verdicts, m, ran, ⟨b, remembers.beacons.holds, remembers.beacons.unique⟩,
    ⟨d, remembers.frames.holds, remembers.frames.unique⟩, exactly⟩

/-- A data frame, its repetition, and an acknowledgement that finds the 2 the repetition left. -/
def repeatedThenAck : List Arrival :=
  [⟨⟨.data, 5, 9⟩, 0⟩, ⟨⟨.data, 5, 9⟩, 0⟩, ⟨⟨.ack, 5, 9⟩, 2⟩]

theorem ack_discarded : repeats [] (repeatedThenAck.map Arrival.frame) = [false, true, false] ∧
    ∃ m, History.empty.checkAll repeatedThenAck = .ok ([false, true, true], m) :=
  ⟨rfl, _, rfl⟩

end Srwsn
