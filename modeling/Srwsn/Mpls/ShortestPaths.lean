import Srwsn.Mpls.TED

/-! The distances are least costs, the parents form a tree, and the path to the closest destination
follows it. -/
namespace Srwsn

open Outcome Weighted Relax Relation List

namespace TED

def nodes (v : List Vertex) : List UInt32 := v.map (·.node)

def labels (v : List Vertex) : Labels Nat ℚ where
  dist i := (v[i]?.map (·.dist)).getD LS_INFINITY
  parent i := v[i]?.bind (·.parent)

def Edge.triple (e : Edge) : Nat × Nat × ℚ := (e.src, e.dest, e.metric)

def Linked (edges : List Edge) (i j : Nat) (metric : ℚ) : Prop :=
  ∃ e ∈ edges, e.triple = (i, j, metric)

def Edge.Valid (n : Nat) (e : Edge) : Prop := e.src < n ∧ e.dest < n ∧ e.src ≠ e.dest

variable {v : List Vertex} {edges : List Edge} {r : Nat}

variable {i : Nat} {prio : Fin 8} {links : List TELinkStateInfo} {g : List Vertex × List Edge}

theorem labels_dist {x : Vertex} (found : v[i]? = some x) : (labels v).dist i = x.dist := by
  simp [labels, found]

theorem labels_set {x : Vertex} (inside : i < v.length) : labels (v.set i x) =
      ⟨Function.update (labels v).dist i x.dist, Function.update (labels v).parent i x.parent⟩ := by
  unfold labels
  congr 1
  · funext j
    by_cases same : j = i
    · subst same
      simp [inside]
    · simp [same, getElem?_set_ne (Ne.symm same)]
  · funext j
    by_cases same : j = i
    · subst same
      simp [inside]
    · simp [same, getElem?_set_ne (Ne.symm same)]

theorem nodes_set {x y : Vertex} (found : v[i]? = some x) (same : y.node = x.node) :
    nodes (v.set i y) = nodes v := by
  have name : (nodes v)[i]? = some y.node := by
    rw [nodes, getElem?_map, found, same, Option.map_some]
  obtain ⟨inside, here⟩ := List.getElem?_eq_some_iff.mp name
  rw [nodes, map_set, ← here]
  exact set_getElem_self inside

theorem tryEdge_eq {m : Bool} {e : Edge} (valid : e.Valid v.length) :
    ∃ v' m', tryEdge (v, m) e = .ok (v', m') ∧ labels v' = (labels v).relax e.triple ∧
      nodes v' = nodes v ∧ (m' = false → v' = v ∧ m = false) := by
  obtain ⟨src, dest, other⟩ := valid
  have foundSrc : v[e.src]? = some v[e.src] := getElem?_eq_getElem src
  have foundDest : v[e.dest]? = some v[e.dest] := getElem?_eq_getElem dest
  simp only [tryEdge, foundSrc, foundDest, if_neg other]
  unfold Labels.relax Edge.triple
  simp only [labels_dist foundSrc, labels_dist foundDest]
  split_ifs with small
  · exact ⟨v, m, rfl, rfl, rfl, fun no => ⟨rfl, no⟩⟩
  · refine ⟨_, true, rfl, labels_set dest, nodes_set foundDest rfl, fun unchanged => ?_⟩
    cases unchanged

theorem round_eq {m : Bool} (valid : ∀ e ∈ edges, e.Valid (nodes v).length) :
    ∃ v' m', edges.foldlM tryEdge (v, m) = .ok (v', m') ∧
      labels v' = (edges.map Edge.triple).foldl Labels.relax (labels v) ∧ nodes v' = nodes v ∧
      (m' = false → v' = v ∧ m = false) := by
  induction edges generalizing v m with
  | nil => exact ⟨v, m, rfl, rfl, rfl, fun no => ⟨rfl, no⟩⟩
  | cons e edges ih =>
    have here : e.Valid v.length := by simpa [nodes] using valid e mem_cons_self
    obtain ⟨v₁, m₁, first, relaxed, same, unchanged⟩ := tryEdge_eq (m := m) here
    obtain ⟨v₂, m₂, rest, relaxed', same', unchanged'⟩ :=
      ih (v := v₁) (m := m₁) fun e later => same ▸ valid e (mem_cons_of_mem _ later)
    refine ⟨v₂, m₂, ?_, ?_, same'.trans same, fun no => ?_⟩
    · rw [foldlM_cons, first]
      exact rest
    · rw [relaxed', relaxed]
      rfl
    · obtain ⟨rfl, no'⟩ := unchanged' no
      exact unchanged no'

theorem rounds_eq (costs : ∀ i j w, Linked edges i j w → 0 ≤ w)
    (valid : ∀ e ∈ edges, e.Valid (nodes v).length) {k n : Nat}
    (enough : (nodes v).length ≤ k + n + 1) (sound : Sound (Linked edges) LS_INFINITY r (labels v))
    (inside : r < (nodes v).length) (within : Within (Linked edges) r (labels v) k) :
    ∃ v', rounds edges n v = .ok v' ∧ nodes v' = nodes v ∧
    Sound (Linked edges) LS_INFINITY r (labels v') ∧
      ∀ p i c, Walk (Linked edges) r p i c → (labels v').dist i ≤ c := by
  have listed : ∀ i j w, Linked edges i j w ↔ (i, j, w) ∈ edges.map Edge.triple :=
    fun i j w => List.mem_map.symm
  induction n generalizing v k with
  | zero =>
    refine ⟨v, rfl, rfl, sound, fun p i c walk => ?_⟩
    refine Within.all (List.range (nodes v).length) (fun p i c walk short => ?_) costs
      (fun i reached => ?_) walk
    · exact within p i c walk (by rw [length_range] at short; omega)
    · obtain ⟨p, c, walk⟩ := reached
      cases walk with
      | start => exact mem_range.mpr inside
      | snoc before along =>
        obtain ⟨e, member, same⟩ := along
        cases same
        exact mem_range.mpr (valid e member).2.1
  | succ n ih =>
    obtain ⟨v', m, ran, relaxed, same, unchanged⟩ := round_eq (m := false) valid
    have sound' : Sound (Linked edges) LS_INFINITY r (labels v') := by
      rw [relaxed]
      exact sound.foldl costs fun i j w member => (listed i j w).mpr member
    rw [rounds, ran]
    cases m with
    | true =>
      rw [← same] at valid enough inside
      obtain ⟨v'', done, same', result⟩ := ih (k := k + 1) valid (by omega) sound' inside
        (relaxed ▸ within_round (fun i j w => (listed i j w).mp) within)
      exact ⟨v'', done, same'.trans same, result⟩
    | false =>
      refine ⟨v', rfl, same, sound',
        fun p i c walk => within_fixed sound'.root.le (fun i j w along => ?_) walk⟩
      have less :=
        foldl_relax_target (edges.map Edge.triple) (labels v) i j w ((listed i j w).mp along)
      rw [← relaxed, ← (unchanged rfl).1] at less
      exact less

def Fresh (x : Vertex) : Prop := x.dist = LS_INFINITY ∧ x.parent = none

def Joins (names : List UInt32) (link : TELinkStateInfo) (e : Edge) : Prop :=
  names[e.src]? = some link.advrouter ∧ names[e.dest]? = some link.linkid ∧ e.metric = link.metric

structure Built (links : List TELinkStateInfo) (g : List Vertex × List Edge) : Prop where
  once : (nodes g.1).Nodup
  fresh : ∀ x ∈ g.1, Fresh x
  edges : ∀ e ∈ g.2, ∃ link ∈ links, Joins (nodes g.1) link e
  covers : ∀ link ∈ links, ∃ e ∈ g.2, Joins (nodes g.1) link e
  present : ∀ a, a ∈ nodes g.1 ↔ ∃ link ∈ links, a = link.advrouter ∨ a = link.linkid

theorem assignIndex_spec (once : (nodes v).Nodup) (fresh : ∀ x ∈ v, Fresh x) (a : UInt32) :
    (nodes (assignIndex v a).2)[(assignIndex v a).1]? = some a ∧
    nodes v <+: nodes (assignIndex v a).2 ∧
      (nodes (assignIndex v a).2).Nodup ∧ (∀ x ∈ (assignIndex v a).2, Fresh x) ∧
      ∀ b, b ∈ nodes (assignIndex v a).2 ↔ b ∈ nodes v ∨ b = a := by
  unfold assignIndex
  split
  · next i found =>
    obtain ⟨inside, here, -⟩ := findIdx?_eq_some_iff_getElem.mp found
    have name : (nodes v)[i]? = some a := by
      rw [nodes, getElem?_map, getElem?_eq_getElem inside, Option.map_some, eq_of_beq here]
    refine ⟨name, prefix_rfl, once, fresh, fun b => (or_iff_left_of_imp fun same => ?_).symm⟩
    rw [same]
    exact mem_of_getElem? name
  · next absent =>
    have new : a ∉ nodes v := by
      intro member
      obtain ⟨x, here, same⟩ := List.mem_map.mp member
      have differs := findIdx?_eq_none_iff.mp absent x here
      rw [same, beq_self_eq_true] at differs
      cases differs
    have more : nodes (v ++ [{ node := a }]) = nodes v ++ [a] := map_append
    refine ⟨?_, ?_, ?_, ?_, ?_⟩
    · simp [nodes]
    · rw [more]
      exact prefix_append _ _
    · rw [more, nodup_append]
      exact ⟨once, nodup_singleton a,
        fun b old c last same => new (mem_singleton.mp last ▸ same ▸ old)⟩
    · intro x member
      rcases mem_snoc member with old | rfl
      · exact fresh x old
      · exact ⟨rfl, rfl⟩
    · intro b
      rw [more, mem_append, mem_singleton]

theorem getElem?_longer {names names' : List UInt32} (more : names <+: names') {a : UInt32}
    (found : names[i]? = some a) : names'[i]? = some a := by
  obtain ⟨rest, rfl⟩ := more
  rw [getElem?_append_left (List.getElem?_eq_some_iff.mp found).1]
  exact found

theorem Joins.mono {names names' : List UInt32} {link : TELinkStateInfo} {e : Edge}
    (joins : Joins names link e) (more : names <+: names') : Joins names' link e :=
  ⟨getElem?_longer more joins.1, getElem?_longer more joins.2.1, joins.2.2⟩

def usable (req_bandwidth : ℚ) (priority : Fin 8) (link : TELinkStateInfo) : Bool :=
  link.state && decide (req_bandwidth ≤ link.UnResvBandwidth priority)

theorem selectEdge_usable {bw : ℚ} {link : TELinkStateInfo} (uses : usable bw prio link = true)
    (g : List Vertex × List Edge) : selectEdge bw prio g link =
      ((assignIndex (assignIndex g.1 link.advrouter).2 link.linkid).2,
        g.2 ++ [⟨(assignIndex g.1 link.advrouter).1,
          (assignIndex (assignIndex g.1 link.advrouter).2 link.linkid).1, link.metric⟩]) := by
  obtain ⟨up, enough⟩ := Bool.and_eq_true_iff.mp uses
  rw [selectEdge, up, if_neg (not_lt.mpr (of_decide_eq_true enough))]
  rfl

theorem selectEdge_unusable {bw : ℚ} {link : TELinkStateInfo} (unused : usable bw prio link ≠ true)
    (g : List Vertex × List Edge) : selectEdge bw prio g link = g := by
  unfold usable at unused
  unfold selectEdge
  split_ifs with down small
  · rfl
  · rfl
  · simp_all

theorem Built.add (built : Built links g) {bw : ℚ} {link : TELinkStateInfo}
    (uses : usable bw prio link = true) : Built (links ++ [link]) (selectEdge bw prio g link) := by
  obtain ⟨src, more, once, fresh, names⟩ := assignIndex_spec built.once built.fresh link.advrouter
  obtain ⟨dest, more', once', fresh', names'⟩ := assignIndex_spec once fresh link.linkid
  rw [selectEdge_usable uses]
  have new : Joins (nodes (assignIndex (assignIndex g.1 link.advrouter).2 link.linkid).2) link
      ⟨(assignIndex g.1 link.advrouter).1,
        (assignIndex (assignIndex g.1 link.advrouter).2 link.linkid).1, link.metric⟩ :=
    ⟨getElem?_longer more' src, dest, rfl⟩
  refine ⟨once', fresh', fun e member => ?_, fun l member => ?_, fun a => ?_⟩
  · rcases mem_snoc member with old | rfl
    · obtain ⟨l, here, joins⟩ := built.edges e old
      exact ⟨l, mem_append_left _ here, joins.mono (more.trans more')⟩
    · exact ⟨link, mem_append_right _ (mem_singleton_self link), new⟩
  · rcases mem_snoc member with old | rfl
    · obtain ⟨e, here, joins⟩ := built.covers l old
      exact ⟨e, mem_append_left _ here, joins.mono (more.trans more')⟩
    · exact ⟨_, mem_append_right _ (mem_singleton_self _), new⟩
  · rw [names' a, names a, built.present a]
    simp only [mem_append, mem_singleton, or_and_right, exists_or, exists_eq_left, or_assoc]

theorem built_foldl {bw : ℚ} (topology : List TELinkStateInfo) (built : Built links g) :
    Built (links ++ topology.filter (usable bw prio)) (topology.foldl (selectEdge bw prio) g) := by
  induction topology generalizing links g with
  | nil =>
    rw [filter_nil, append_nil]
    exact built
  | cons link topology ih =>
    rw [foldl_cons, filter_cons]
    split_ifs with uses
    · rw [append_cons]
      exact ih (built.add uses)
    · rw [selectEdge_unusable uses]
      exact ih built

structure Begun (routerId : UInt32) (links : List TELinkStateInfo) (g : List Vertex × List Edge)
    (r : Nat) : Prop where
  source : (nodes g.1)[r]? = some routerId
  once : (nodes g.1).Nodup
  edges : ∀ e ∈ g.2, ∃ link ∈ links, Joins (nodes g.1) link e
  covers : ∀ link ∈ links, ∃ e ∈ g.2, Joins (nodes g.1) link e
  present : ∀ a, a ∈ nodes g.1 ↔ (∃ link ∈ links, a = link.advrouter ∨ a = link.linkid) ∨
    a = routerId
  dist : ∀ i, (labels g.1).dist i = if i = r then 0 else LS_INFINITY
  parent : ∀ i, (labels g.1).parent i = none

theorem nodes_source (v : List Vertex) (i : Nat) :
    nodes (v.modify i ({ · with dist := 0 })) = nodes v := by
  apply ext_getElem?
  intro j
  simp only [nodes, getElem?_map, getElem?_modify]
  cases v[j]? with
  | none => rfl
  | some x =>
    by_cases here : i = j
    · simp [here]
    · simp [here]

theorem labels_source (fresh : ∀ x ∈ v, Fresh x) (inside : i < v.length) (j : Nat) :
    (labels (v.modify i ({ · with dist := 0 }))).dist j = (if j = i then 0 else LS_INFINITY) ∧
      (labels (v.modify i ({ · with dist := 0 }))).parent j = none := by
  simp only [labels, getElem?_modify]
  cases found : v[j]? with
  | none =>
    have away : j ≠ i := by
      rintro rfl
      rw [getElem?_eq_getElem inside] at found
      cases found
    rw [if_neg away]
    exact ⟨rfl, rfl⟩
  | some x =>
    obtain ⟨far, orphan⟩ := fresh x (mem_of_getElem? found)
    by_cases here : j = i
    · simp [here, orphan]
    · simp [here, Ne.symm here, far, orphan]

theorem Built.begun (built : Built links g) (routerId : UInt32) : Begun routerId links
      ((assignIndex g.1 routerId).2.modify (assignIndex g.1 routerId).1 ({ · with dist := 0 }), g.2)
      (assignIndex g.1 routerId).1 := by
  obtain ⟨source, more, once, fresh, names⟩ := assignIndex_spec built.once built.fresh routerId
  have inside : (assignIndex g.1 routerId).1 < (assignIndex g.1 routerId).2.length := by
    rw [← length_map (·.node)]
    exact (List.getElem?_eq_some_iff.mp source).1
  constructor
  · rw [nodes_source]
    exact source
  · rw [nodes_source]
    exact once
  · rw [nodes_source]
    intro e member
    obtain ⟨link, here, joins⟩ := built.edges e member
    exact ⟨link, here, joins.mono more⟩
  · rw [nodes_source]
    intro link member
    obtain ⟨e, here, joins⟩ := built.covers link member
    exact ⟨e, here, joins.mono more⟩
  · intro a
    rw [nodes_source, names a, built.present a]
  · exact fun i => (labels_source fresh inside i).1
  · exact fun i => (labels_source fresh inside i).2

theorem begun_graph (routerId : UInt32) (topology : List TELinkStateInfo) (bw : ℚ) (prio : Fin 8) :
    ∃ r, Begun routerId (topology.filter (usable bw prio)) (graph routerId topology bw prio) r := by
  have empty : Built [] ([], []) :=
    ⟨nodup_nil, fun x member => (by cases member), fun e member => (by cases member),
      fun l member => (by cases member), fun a => by simp [nodes]⟩
  exact ⟨_, (built_foldl topology empty).begun routerId⟩

theorem Begun.sound {routerId : UInt32}
    (begun : Begun routerId links g r) : Sound (Linked g.2) LS_INFINITY r (labels g.1) where
  root := by rw [begun.dist, if_pos rfl]
  rootParent := begun.parent r
  bound i := by
    rw [begun.dist]
    split_ifs
    · exact pow_nonneg (by norm_num) 16
    · exact le_rfl
  reach i below := by
    rw [begun.dist] at below ⊢
    split_ifs at below ⊢ with here
    · rw [here]
      exact ⟨[r], .start⟩
    · exact absurd below (lt_irrefl _)
  parent i below away := by
    rw [begun.dist, if_neg away] at below
    exact absurd below (lt_irrefl _)
  up i j up := by cases (begun.parent i).symm.trans up
  acyclic i loop := by
    obtain ⟨j, up, -⟩ := TransGen.head'_iff.mp loop
    cases (begun.parent i).symm.trans up

theorem Begun.within {routerId : UInt32} (begun : Begun routerId links g r) :
    Within (Linked g.2) r (labels g.1) 0 := by
  intro p i c walk short
  cases walk with
  | start => exact begun.sound.root.le
  | snoc before along =>
    have := length_pos_iff.mpr before.ne_nil
    rw [length_append] at short
    exact absurd short (by simp only [length_singleton]; omega)

theorem mem_usable {topology : List TELinkStateInfo} {bw : ℚ} {link : TELinkStateInfo} :
    link ∈ topology.filter (usable bw prio) ↔ link ∈ topology ∧ link.state = true ∧
    bw ≤ link.UnResvBandwidth prio := by
  rw [mem_filter, usable, Bool.and_eq_true, decide_eq_true_iff]

def name (v : List Vertex) (i : Nat) : UInt32 := ((nodes v)[i]?).getD 0

theorem name_eq {a : UInt32} (found : (nodes v)[i]? = some a) : name v i = a := by
  rw [name, found, Option.getD_some]

theorem idxOf_eq {names : List UInt32} (once : names.Nodup) {a : UInt32}
    (found : names[i]? = some a) : names.idxOf a = i := by
  obtain ⟨inside, rfl⟩ := List.getElem?_eq_some_iff.mp found
  exact once.idxOf_getElem i inside

theorem name_inj (once : (nodes v).Nodup) {j : Nat} (inside : i < v.length) (inside' : j < v.length)
    (same : name v i = name v j) : i = j := by
  have listed : ∀ k, k < v.length → (nodes v)[k]? = some (name v k) := by
    intro k within
    simp [name, nodes, within]
  rw [← idxOf_eq once (listed i inside), same, idxOf_eq once (listed j inside')]

section Addresses

variable {routerId : UInt32} {topology : List TELinkStateInfo} {bw : ℚ} {prio : Fin 8}
  {g : List Vertex × List Edge} (begun : Begun routerId (topology.filter (usable bw prio)) g r)
include begun

theorem Begun.link {i j : Nat} {w : ℚ} (linked : Linked g.2 i j w) :
    Usable topology bw prio (name g.1 i) (name g.1 j) w := by
  obtain ⟨e, member, same⟩ := linked
  cases same
  obtain ⟨link, here, src, dest, metric⟩ := begun.edges e member
  obtain ⟨listed, up, enough⟩ := mem_usable.mp here
  rw [name_eq src, name_eq dest]
  exact ⟨link, listed, up, enough, rfl, rfl, metric.symm⟩

theorem Begun.edge {a b : UInt32} {w : ℚ} (uses : Usable topology bw prio a b w) :
    Linked g.2 ((nodes g.1).idxOf a) ((nodes g.1).idxOf b) w := by
  obtain ⟨link, listed, up, enough, rfl, rfl, rfl⟩ := uses
  obtain ⟨e, member, src, dest, metric⟩ := begun.covers link (mem_usable.mpr ⟨listed, up, enough⟩)
  refine ⟨e, member, ?_⟩
  rw [Edge.triple, idxOf_eq begun.once src, idxOf_eq begun.once dest, metric]

theorem Begun.walk_names {p : List Nat} {i : Nat} {c : ℚ} (walk : Walk (Linked g.2) r p i c) :
    Walk (Usable topology bw prio) routerId (p.map (name g.1)) (name g.1 i) c := by
  rw [← name_eq begun.source]
  exact walk.map fun i j w => begun.link

theorem Begun.walk_indices {p : List UInt32} {a : UInt32} {c : ℚ}
    (walk : Walk (Usable topology bw prio) routerId p a c) :
    Walk (Linked g.2) r (p.map fun a => (nodes g.1).idxOf a) ((nodes g.1).idxOf a) c := by
  rw [← idxOf_eq begun.once begun.source]
  exact walk.map (f := fun a => (nodes g.1).idxOf a) fun a b w uses => begun.edge uses

theorem Begun.valid (loops : ∀ link ∈ topology, link.advrouter ≠ link.linkid) :
    ∀ e ∈ g.2, e.Valid (nodes g.1).length := by
  intro e member
  obtain ⟨link, here, src, dest, -⟩ := begun.edges e member
  refine ⟨(List.getElem?_eq_some_iff.mp src).1, (List.getElem?_eq_some_iff.mp dest).1,
    fun same => ?_⟩
  rw [same, dest] at src
  exact loops link (mem_usable.mp here).1 (Option.some.inj src).symm

theorem Begun.costs (nonneg : ∀ link ∈ topology, 0 ≤ link.metric) : ∀ i j w, Linked g.2 i j w →
    0 ≤ w := by
  intro i j w linked
  obtain ⟨link, listed, -, -, -, -, rfl⟩ := begun.link linked
  exact nonneg link listed

end Addresses

structure Chosen (dest : List UInt32) (done : List Vertex) (m : ℚ × Option Nat) : Prop where
  least : ∀ x ∈ done, x.node ∈ dest → m.1 ≤ x.dist
  bound : m.1 ≤ LS_INFINITY
  absent : m.2 = none → m.1 = LS_INFINITY
  present : ∀ i, m.2 = some i → ∃ x, done[i]? = some x ∧ x.node ∈ dest ∧ x.dist = m.1 ∧
    x.dist < LS_INFINITY

theorem Chosen.next {dest : List UInt32} {done : List Vertex} {m : ℚ × Option Nat}
    (chosen : Chosen dest done m) (x : Vertex) : Chosen dest (done ++ [x])
      (if x.dist ≥ m.1 then m else if x.node ∈ dest then (x.dist, some done.length) else m) := by
  have keeps : (x.node ∈ dest → m.1 ≤ x.dist) → Chosen dest (done ++ [x]) m := by
    intro far
    refine ⟨fun y member wanted => ?_, chosen.bound, chosen.absent, fun i here => ?_⟩
    · rcases mem_snoc member with old | rfl
      · exact chosen.least y old wanted
      · exact far wanted
    · obtain ⟨y, found, rest⟩ := chosen.present i here
      refine ⟨y, ?_, rest⟩
      rw [getElem?_append_left (List.getElem?_eq_some_iff.mp found).1]
      exact found
  split_ifs with far wanted
  · exact keeps fun _ => far
  · have close : x.dist < m.1 := not_le.mp far
    refine ⟨fun y member wanted' => ?_, close.le.trans chosen.bound, fun none => ?_,
      fun i here => ?_⟩
    · rcases mem_append.mp member with old | last
      · exact close.le.trans (chosen.least y old wanted')
      · rw [mem_singleton.mp last]
    · cases none
    · cases here
      exact ⟨x, by simp, wanted, rfl, close.trans_le chosen.bound⟩
  · exact keeps fun wanted' => absurd wanted' wanted

theorem Chosen.closest {dest : List UInt32} (rest : List Vertex) {done : List Vertex}
    {m : ℚ × Option Nat} (chosen : Chosen dest done m) :
    Chosen dest (done ++ rest) (TED.closest dest rest done.length m) := by
  induction rest generalizing done m with
  | nil =>
    rw [append_nil]
    exact chosen
  | cons x rest ih =>
    have after := ih (chosen.next x)
    rw [length_append, append_assoc] at after
    exact after

theorem pathTo_eq (parents : ∀ i j, (labels v).up i j → j < v.length) {fuel : Nat}
    (inside : i < v.length) {path q : List Nat}
    (followed : (labels v).follow fuel i path = some q) :
    pathTo v fuel i (path.map (name v)) = .ok (q.map (name v)) := by
  induction fuel generalizing i path with
  | zero => cases followed
  | succ fuel ih =>
    have found : v[i]? = some v[i] := getElem?_eq_getElem inside
    have parent : (labels v).parent i = v[i].parent := by simp [labels, inside]
    rw [Labels.follow, parent] at followed
    rw [pathTo, found]
    cases up : v[i].parent with
    | none =>
      rw [up] at followed
      simp only [up]
      rw [Option.some.inj followed]
    | some j =>
      have inside' : j < v.length := parents i j (parent.trans up)
      have found' : v[j]? = some v[j] := getElem?_eq_getElem inside'
      rw [up] at followed
      simp only [up, found']
      have name' : v[j].node = name v j := by simp [name, nodes, inside']
      rw [name']
      exact ih inside' followed

structure ShortestPaths (routerId : UInt32) (topology : List TELinkStateInfo) (bw : ℚ)
    (prio : Fin 8) (v : List Vertex) : Prop where
  once : (v.map (·.node)).Nodup
  present : ∀ a, Reaches (Usable topology bw prio) routerId a → a ∈ v.map (·.node)
  least : ∀ x ∈ v, Reaches (Usable topology bw prio) routerId x.node →
    Least (Usable topology bw prio) routerId x.node x.dist
  unreachable : ∀ x ∈ v, ¬ Reaches (Usable topology bw prio) routerId x.node → x.dist = LS_INFINITY
  acyclic : ∀ i, ¬ TransGen (fun i j : Nat => ∃ x, v[i]? = some x ∧ x.parent = some j) i i

structure ShortestPath (routerId : UInt32) (topology : List TELinkStateInfo) (bw : ℚ) (prio : Fin 8)
    (dest path : List UInt32) : Prop where
  empty : path = [] ↔ ∀ a ∈ dest, ¬ Reaches (Usable topology bw prio) routerId a
  loopFree : path.Nodup
  least : path ≠ [] → ∃ a ∈ dest, ∃ c, Walk (Usable topology bw prio) routerId path a c ∧
    ∀ b ∈ dest, ∀ p d, Walk (Usable topology bw prio) routerId p b d → c ≤ d

structure Finished (routerId : UInt32) (topology : List TELinkStateInfo) (bw : ℚ) (prio : Fin 8)
    (g : List Vertex × List Edge) (r : Nat) (v : List Vertex) : Prop where
  begun : Begun routerId (topology.filter (usable bw prio)) g r
  same : nodes v = nodes g.1
  sound : Sound (Linked g.2) LS_INFINITY r (labels v)
  all : ∀ p i c, Walk (Linked g.2) r p i c → (labels v).dist i ≤ c

theorem calculateShortestPaths_eq (routerId : UInt32) {topology : List TELinkStateInfo} (bw : ℚ)
    (prio : Fin 8) (nonneg : ∀ link ∈ topology, 0 ≤ link.metric)
    (loops : ∀ link ∈ topology, link.advrouter ≠ link.linkid) :
    ∃ g r v, calculateShortestPaths routerId topology bw prio = .ok v ∧
    Finished routerId topology bw prio g r v := by
  obtain ⟨r, begun⟩ := begun_graph routerId topology bw prio
  have enough : (nodes (graph routerId topology bw prio).1).length ≤
      0 + ((graph routerId topology bw prio).1.length - 1) + 1 := by
    rw [nodes, length_map]
    omega
  obtain ⟨v, ran, same, sound, all⟩ :=
    rounds_eq (begun.costs nonneg) (begun.valid loops) enough begun.sound
    (List.getElem?_eq_some_iff.mp begun.source).1 begun.within
  exact ⟨_, r, v, ran, begun, same, sound, all⟩

namespace Finished

variable {routerId : UInt32} {topology : List TELinkStateInfo} {bw : ℚ} {prio : Fin 8}
  {g : List Vertex × List Edge}

variable (fin : Finished routerId topology bw prio g r v)

include fin

section

variable {i : Nat} {x : Vertex} (here : v[i]? = some x)

include here

theorem found : (nodes g.1)[i]? = some x.node := by
  rw [← fin.same, nodes, getElem?_map, here, Option.map_some]

theorem walk_of_below (below : x.dist < LS_INFINITY) :
    ∃ p, Walk (Usable topology bw prio) routerId p x.node x.dist := by
  rw [← labels_dist here] at below ⊢
  obtain ⟨p, walk⟩ := fin.sound.reach i below
  rw [← name_eq (fin.found here)]
  exact ⟨_, fin.begun.walk_names walk⟩

theorem dist_le {p : List UInt32} {c : ℚ}
    (walk : Walk (Usable topology bw prio) routerId p x.node c) : x.dist ≤ c := by
  have walk' := fin.begun.walk_indices walk
  rw [idxOf_eq fin.begun.once (fin.found here)] at walk'
  rw [← labels_dist here]
  exact fin.all _ i c walk'

end

theorem present {a : UInt32} (reached : Reaches (Usable topology bw prio) routerId a) :
    a ∈ nodes v := by
  rw [fin.same, fin.begun.present a]
  obtain ⟨p, c, walk⟩ := reached
  cases walk with
  | start => exact .inr rfl
  | snoc before along =>
    obtain ⟨link, listed, up, enough, -, rfl, -⟩ := along
    exact .inl ⟨link, mem_usable.mpr ⟨listed, up, enough⟩, .inr rfl⟩

def Finite (routerId : UInt32) (topology : List TELinkStateInfo) (bw : ℚ) (prio : Fin 8) : Prop :=
  ∀ a, Reaches (Usable topology bw prio) routerId a →
    ∃ p c, Walk (Usable topology bw prio) routerId p a c ∧ c < LS_INFINITY

variable {x : Vertex}

theorem below_iff (finite : Finite routerId topology bw prio) (here : v[i]? = some x) :
    x.dist < LS_INFINITY ↔ Reaches (Usable topology bw prio) routerId x.node := by
  constructor
  · intro below
    obtain ⟨p, walk⟩ := fin.walk_of_below here below
    exact ⟨p, _, walk⟩
  · intro reached
    obtain ⟨p, c, walk, small⟩ := finite x.node reached
    exact (fin.dist_le here walk).trans_lt small

theorem shortestPaths (finite : Finite routerId topology bw prio) :
    ShortestPaths routerId topology bw prio v where
  once := by
    have once := fin.begun.once
    rw [← fin.same] at once
    exact once
  present a reached := fin.present reached
  least x member reached := by
    obtain ⟨i, here⟩ := mem_iff_getElem?.mp member
    exact ⟨fin.walk_of_below here ((fin.below_iff finite here).mpr reached), fun p c walk =>
      fin.dist_le here walk⟩
  unreachable x member lost := by
    obtain ⟨i, here⟩ := mem_iff_getElem?.mp member
    have bound := fin.sound.bound i
    rw [labels_dist here] at bound
    exact le_antisymm bound (not_lt.mp fun below => lost ((fin.below_iff finite here).mp below))
  acyclic i loop := by
    apply fin.sound.acyclic i
    exact TransGen.mono (fun j k up => Option.bind_eq_some_iff.mpr up) i i loop

theorem linked (reached : Reaches (Linked g.2) r i) : i ∈ List.range v.length := by
  have same : v.length = (nodes g.1).length := by rw [← fin.same, nodes, length_map]
  rw [mem_range, same]
  obtain ⟨p, c, walk⟩ := reached
  cases walk with
  | start => exact (List.getElem?_eq_some_iff.mp fin.begun.source).1
  | snoc before along =>
    obtain ⟨e, member, same⟩ := along
    cases same
    obtain ⟨link, -, -, dest, -⟩ := fin.begun.edges e member
    exact (List.getElem?_eq_some_iff.mp dest).1

theorem parents (i j : Nat) (up : (labels v).up i j) : j < v.length := by
  obtain ⟨w, ⟨e, member, same⟩, -⟩ := fin.sound.up i j up
  cases same
  obtain ⟨link, -, src, -⟩ := fin.begun.edges e member
  rw [← fin.same] at src
  have inside := (List.getElem?_eq_some_iff.mp src).1
  rwa [nodes, length_map] at inside

theorem pathTo_ok (nonneg : ∀ link ∈ topology, 0 ≤ link.metric) (here : v[i]? = some x)
    (below : x.dist < LS_INFINITY) :
    ∃ path c, pathTo v v.length i [x.node] = .ok path ∧ path.Nodup ∧ c ≤ x.dist ∧
      Walk (Usable topology bw prio) routerId path x.node c := by
  have inside : i < v.length := (List.getElem?_eq_some_iff.mp here).1
  have dist := labels_dist here
  obtain ⟨q, c, followed, walk, less, once⟩ := fin.sound.follow (fin.begun.costs nonneg)
    (List.range v.length) (fun i reached => fin.linked reached) i [] v.length
    (by simp) (dist ▸ below) (nodup_singleton i) (fun x member => (by cases member))
  rw [append_nil] at followed once
  have names : name v = name g.1 := by
    funext i
    rw [name, name, fin.same]
  have node : name v i = x.node := name_eq (fin.same ▸ fin.found here)
  have path := pathTo_eq fin.parents inside followed
  have walk' := fin.begun.walk_names walk
  rw [← names, node] at walk'
  rw [map_singleton, node] at path
  refine ⟨q.map (name v), c, path, ?_, dist ▸ less, walk'⟩
  refine once.map_on fun j first k second same => ?_
  have distinct : (nodes v).Nodup := fin.same ▸ fin.begun.once
  exact name_inj distinct (mem_range.mp (fin.linked (walk.reached j first)))
    (mem_range.mp (fin.linked (walk.reached k second))) same

theorem choosePath_ok (finite : Finite routerId topology bw prio)
    (nonneg : ∀ link ∈ topology, 0 ≤ link.metric) (dest : List UInt32) :
    ∃ path, choosePath dest v = .ok path ∧ ShortestPath routerId topology bw prio dest path := by
  have initially : Chosen dest [] (LS_INFINITY, none) :=
    ⟨fun x member => (by cases member), le_rfl, fun _ => rfl, fun i here => (by cases here)⟩
  have chosen : Chosen dest v (closest dest v 0 (LS_INFINITY, none)) := initially.closest v
  have far : ∀ a ∈ dest, ∀ p d, Walk (Usable topology bw prio) routerId p a d →
      (closest dest v 0 (LS_INFINITY, none)).1 ≤ d := by
    intro a wanted p d walk
    obtain ⟨x, member, rfl⟩ := List.mem_map.mp (fin.present ⟨p, d, walk⟩)
    obtain ⟨i, here⟩ := mem_iff_getElem?.mp member
    exact (chosen.least x member wanted).trans (fin.dist_le here walk)
  unfold choosePath
  cases choice : (closest dest v 0 (LS_INFINITY, none)).2 with
  | none =>
    have lost : ∀ a ∈ dest, ¬ Reaches (Usable topology bw prio) routerId a := by
      intro a wanted reached
      obtain ⟨p, c, walk, small⟩ := finite a reached
      have bound := far a wanted p c walk
      rw [chosen.absent choice] at bound
      exact not_lt.mpr bound small
    exact ⟨[], rfl, ⟨fun _ => lost, fun _ => rfl⟩, nodup_nil, fun some => absurd rfl some⟩
  | some i =>
    obtain ⟨x, here, wanted, same, below⟩ := chosen.present i choice
    obtain ⟨path, c, found, once, less, walk⟩ := fin.pathTo_ok nonneg here below
    simp only [here]
    refine ⟨path, found, ⟨fun empty => absurd empty walk.ne_nil, fun lost => ?_⟩, once, fun _ => ?_⟩
    · exact absurd ⟨path, c, walk⟩ (lost x.node wanted)
    · exact ⟨x.node, wanted, c, walk, fun b wanted' p d walk' => (less.trans same.le).trans
        (far b wanted' p d walk')⟩

end Finished

end TED

theorem shortest_paths_calculated (routerId : UInt32) (topology : List TELinkStateInfo)
    (req_bandwidth : ℚ) (priority : Fin 8) (nonneg : ∀ link ∈ topology, 0 ≤ link.metric)
    (loops : ∀ link ∈ topology, link.advrouter ≠ link.linkid)
    (finite : ∀ a, Reaches (TED.Usable topology req_bandwidth priority) routerId a →
      ∃ p c, Walk (TED.Usable topology req_bandwidth priority) routerId p a c ∧
      c < TED.LS_INFINITY) :
    (∃ v, TED.calculateShortestPaths routerId topology req_bandwidth priority = .ok v ∧
      TED.ShortestPaths routerId topology req_bandwidth priority v) ∧
    ∀ dest, ∃ path, TED.calculateShortestPath routerId dest topology req_bandwidth priority =
      .ok path ∧ TED.ShortestPath routerId topology req_bandwidth priority dest path := by
  obtain ⟨g, r, v, ran, fin⟩ :=
    TED.calculateShortestPaths_eq routerId req_bandwidth priority nonneg loops
  refine ⟨⟨v, ran, fin.shortestPaths finite⟩, fun dest => ?_⟩
  rw [TED.calculateShortestPath, ran]
  exact fin.choosePath_ok finite nonneg dest

theorem shortest_paths_calculated_three : ∃ topology : List TELinkStateInfo, topology.length = 3 ∧
      (∃ v, TED.calculateShortestPaths 1 topology 5 7 = .ok v ∧
        TED.ShortestPaths 1 topology 5 7 v) ∧
      ∀ dest, ∃ path, TED.calculateShortestPath 1 dest topology 5 7 = .ok path ∧
        TED.ShortestPath 1 topology 5 7 dest path := by
  refine ⟨[⟨1, 2, 0, fun _ => 10, true⟩, ⟨2, 1, 4, fun _ => 10, true⟩,
    ⟨1, 3, 1, fun _ => 10, false⟩], rfl, ?_⟩
  apply shortest_paths_calculated
  · simp
  · simp
  · rintro a ⟨p, c, walk⟩
    cases walk with
    | start => exact ⟨[1], 0, .start, by norm_num [TED.LS_INFINITY]⟩
    | snoc before along =>
      obtain ⟨link, listed, up, -, -, rfl, -⟩ := along
      rcases mem_cons.mp listed with rfl | later
      · refine ⟨[1] ++ [2], 0 + 0, Walk.start.snoc ⟨_, listed, rfl, ?_, rfl, rfl, rfl⟩, ?_⟩
        · norm_num
        · norm_num [TED.LS_INFINITY]
      · rcases mem_cons.mp later with rfl | last
        · exact ⟨[1], 0, .start, by norm_num [TED.LS_INFINITY]⟩
        · rw [mem_singleton.mp last] at up
          cases up

end Srwsn
