import Srwsn.Lib.Weighted

/-! Distances from a root that are corrected edge by edge. -/
namespace Relax

open Weighted Relation List Function

structure Labels (V K : Type*) where
  dist : V → K
  parent : V → Option V

def Labels.up {V K : Type*} (l : Labels V K) (v u : V) : Prop := l.parent v = some u

section Acyclic

variable {V : Type*} {r r' : V → V → Prop} {a b c d : V}

theorem transGen_or (more : ∀ x y, r' x y → r x y ∨ x = a ∧ y = b) (path : TransGen r' c d) :
    TransGen r c d ∨ ReflTransGen r c a ∧ ReflTransGen r b d := by
  induction path with
  | single first =>
    rcases more _ _ first with old | ⟨rfl, rfl⟩
    · exact .inl (.single old)
    · exact .inr ⟨.refl, .refl⟩
  | tail before last ih =>
    rcases more _ _ last with old | ⟨rfl, rfl⟩
    · exact ih.imp (fun path => path.tail old) fun paths => ⟨paths.1, paths.2.tail old⟩
    · exact .inr ⟨ih.elim (fun path => path.to_reflTransGen) fun paths => paths.1, .refl⟩

theorem acyclic_or (acyclic : ∀ x, ¬ TransGen r x x) (apart : ¬ ReflTransGen r b a)
    (more : ∀ x y, r' x y → r x y ∨ x = a ∧ y = b) : ∀ x, ¬ TransGen r' x x := by
  intro x loop
  rcases transGen_or more loop with old | ⟨there, back⟩
  · exact acyclic x old
  · exact apart (back.trans there)

end Acyclic

variable {V K : Type*} [AddCommMonoid K] [LinearOrder K] {edge : V → V → K → Prop} {inf : K}
  {s u v : V} {w : K} {l : Labels V K}

/-- What relaxation keeps: a bound below `inf` is the cost of a walk, and the parents form a 
tree. -/
structure Sound (edge : V → V → K → Prop) (inf : K) (s : V) (l : Labels V K) : Prop where
  root : l.dist s = 0
  rootParent : l.parent s = none
  bound : ∀ v, l.dist v ≤ inf
  reach : ∀ v, l.dist v < inf → ∃ p, Walk edge s p v (l.dist v)
  parent : ∀ v, l.dist v < inf → v ≠ s → ∃ u, l.up v u
  up : ∀ v u, l.up v u → ∃ w, edge u v w ∧ l.dist u + w ≤ l.dist v
  acyclic : ∀ v, ¬ TransGen l.up v v

/-- Each bound holds of every walk with at most `k` edges. -/
def Within (edge : V → V → K → Prop) (s : V) (l : Labels V K) (k : Nat) : Prop :=
  ∀ p v c, Walk edge s p v c → p.length ≤ k + 1 → l.dist v ≤ c

section Bounds

variable [IsOrderedAddMonoid K]

theorem within_fixed (root : l.dist s ≤ 0) (fixed : ∀ u v w, edge u v w → l.dist v ≤ l.dist u + w)
    {p : List V} {c : K} (walk : Walk edge s p v c) : l.dist v ≤ c := by
  induction walk with
  | start => exact root
  | snoc before along ih => exact (fixed _ _ _ along).trans (add_le_add_left ih _)

theorem Sound.dist_le (sound : Sound edge inf s l) (nonneg : ∀ u v w, edge u v w → 0 ≤ w)
    (path : ReflTransGen l.up v u) : l.dist u ≤ l.dist v := by
  induction path with
  | refl => exact le_rfl
  | tail before last ih =>
    obtain ⟨w, along, less⟩ := sound.up _ _ last
    exact ((le_add_of_nonneg_right (nonneg _ _ _ along)).trans less).trans ih

/-- Walks in a finite graph need no more edges than there are other vertices. -/
theorem Within.all [DecidableEq V] (vertices : List V)
    (within : Within edge s l (vertices.length - 1)) (nonneg : ∀ u v w, edge u v w → 0 ≤ w)
    (inside : ∀ v, Reaches edge s v → v ∈ vertices) {p : List V} {c : K}
    (walk : Walk edge s p v c) : l.dist v ≤ c := by
  obtain ⟨q, d, walk', once, less⟩ := walk.loopFree nonneg
  have short : q.length ≤ vertices.length :=
    (subperm_of_subset once fun x member => inside x (walk'.reached x member)).length_le
  exact (within q v d walk' (by omega)).trans less

end Bounds

section Follow

def Labels.follow (l : Labels V K) : Nat → V → List V → Option (List V)
  | 0, _, _ => none
  | fuel + 1, v, path =>
    match l.parent v with
    | none => some path
    | some u => l.follow fuel u (u :: path)

variable [IsOrderedAddMonoid K]

theorem Sound.follow [DecidableEq V] (sound : Sound edge inf s l)
    (nonneg : ∀ u v w, edge u v w → 0 ≤ w) (vertices : List V)
    (inside : ∀ v, Reaches edge s v → v ∈ vertices) (v : V) (rest : List V) (fuel : Nat)
    (enough : vertices.length < fuel + (v :: rest).length) (below : l.dist v < inf)
    (once : (v :: rest).Nodup)
    (visited : ∀ x ∈ rest, x ∈ vertices ∧ TransGen l.up x v) :
    ∃ q c, l.follow fuel v (v :: rest) = some (q ++ rest) ∧ Walk edge s q v c ∧ c ≤ l.dist v ∧
    (q ++ rest).Nodup := by
  have here : v ∈ vertices := inside v (by
    obtain ⟨p, walk⟩ := sound.reach v below
    exact ⟨p, _, walk⟩)
  induction fuel generalizing v rest with
  | zero =>
    have short : (v :: rest).length ≤ vertices.length := by
      refine (subperm_of_subset once fun x member => ?_).length_le
      rcases mem_cons.mp member with rfl | later
      · exact here
      · exact (visited x later).1
    omega
  | succ fuel ih =>
    cases up : l.parent v with
    | none =>
      have top : v = s := by
        by_contra other
        obtain ⟨u, found⟩ := sound.parent v below other
        cases up.symm.trans found
      refine ⟨[v], 0, ?_, ?_, ?_, once⟩
      · rw [Labels.follow, up]
        rfl
      · rw [top]
        exact .start
      · rw [top, sound.root]
    | some u =>
      obtain ⟨w, along, less⟩ := sound.up v u up
      have first : TransGen l.up v u := .single up
      have path : ∀ x ∈ v :: rest, TransGen l.up x u := by
        intro x member
        rcases mem_cons.mp member with rfl | later
        · exact first
        · exact (visited x later).2.tail up
      have below' : l.dist u < inf := (sound.dist_le nonneg first.to_reflTransGen).trans_lt below
      have once' : (u :: v :: rest).Nodup :=
        nodup_cons.mpr ⟨fun back => sound.acyclic u (path u back), once⟩
      have visited' : ∀ x ∈ v :: rest, x ∈ vertices ∧ TransGen l.up x u := by
        intro x member
        refine ⟨?_, path x member⟩
        rcases mem_cons.mp member with rfl | later
        · exact here
        · exact (visited x later).1
      obtain ⟨p, reached⟩ := sound.reach u below'
      obtain ⟨q, c, found, walk, cheap, distinct⟩ :=
        ih u (v :: rest) (by simp only [length_cons] at enough ⊢; omega) below' once' visited'
          (inside u ⟨p, _, reached⟩)
      refine ⟨q ++ [v], c + w, ?_, walk.snoc along, (add_le_add_left cheap w).trans less, ?_⟩
      · rw [Labels.follow, up, append_assoc]
        exact found
      · rw [append_assoc]
        exact distinct

end Follow

variable [DecidableEq V] {e : V × V × K}

def Labels.relax (l : Labels V K) (e : V × V × K) : Labels V K :=
  if l.dist e.2.1 ≤ l.dist e.1 + e.2.2 then l
  else
    { dist := update l.dist e.2.1 (l.dist e.1 + e.2.2)
      parent := update l.parent e.2.1 (some e.1) }

theorem relax_cases (l : Labels V K) (u v : V) (w : K) :
    l.dist v ≤ l.dist u + w ∧ l.relax (u, v, w) = l ∨
      l.dist u + w < l.dist v ∧ (l.relax (u, v, w)).dist = update l.dist v (l.dist u + w) ∧
        (l.relax (u, v, w)).parent = update l.parent v (some u) := by
  unfold Labels.relax
  split_ifs with small
  · exact .inl ⟨small, rfl⟩
  · exact .inr ⟨not_le.mp small, rfl, rfl⟩

theorem relax_le (l : Labels V K) (e : V × V × K) (x : V) : (l.relax e).dist x ≤ l.dist x := by
  obtain ⟨u, v, w⟩ := e
  rcases relax_cases l u v w with ⟨-, same⟩ | ⟨less, dist, -⟩
  · rw [same]
  · rw [dist]
    by_cases here : x = v
    · rw [here, update_self]
      exact less.le
    · rw [update_of_ne here]

theorem relax_target (l : Labels V K) (u v : V) (w : K) :
    (l.relax (u, v, w)).dist v ≤ l.dist u + w := by
  rcases relax_cases l u v w with ⟨small, same⟩ | ⟨-, dist, -⟩
  · rw [same]
    exact small
  · rw [dist, update_self]

theorem foldl_relax_le (es : List (V × V × K)) (l : Labels V K) (x : V) :
    (es.foldl Labels.relax l).dist x ≤ l.dist x := by
  induction es generalizing l with
  | nil => exact le_rfl
  | cons e es ih => exact (ih (l.relax e)).trans (relax_le l e x)

section Rounds

variable [IsOrderedAddMonoid K]

theorem foldl_relax_target (es : List (V × V × K)) (l : Labels V K) :
    ∀ u v w, (u, v, w) ∈ es → (es.foldl Labels.relax l).dist v ≤ l.dist u + w := by
  induction es generalizing l with
  | nil =>
    intro u v w member
    cases member
  | cons e es ih =>
    intro u v w member
    rcases mem_cons.mp member with rfl | later
    · exact (foldl_relax_le es _ v).trans (relax_target l u v w)
    · exact (ih (l.relax e) u v w later).trans (add_le_add_left (relax_le l e u) w)

theorem within_round {es : List (V × V × K)} {k : Nat} (all : ∀ u v w, edge u v w → (u, v, w) ∈ es)
    (within : Within edge s l k) : Within edge s (es.foldl Labels.relax l) (k + 1) := by
  intro p v c walk short
  cases walk with
  | start => exact (foldl_relax_le es l s).trans (within [s] s 0 .start (Nat.le_add_left 1 k))
  | @snoc p u _ c w before along =>
    rw [length_append] at short
    have less : l.dist u ≤ c := within p u c before (Nat.le_of_succ_le_succ short)
    exact (foldl_relax_target es l u v w (all u v w along)).trans (add_le_add_left less w)

end Rounds

variable [IsOrderedAddMonoid K]

theorem Sound.relax (sound : Sound edge inf s l) (nonneg : ∀ u v w, edge u v w → 0 ≤ w)
    (along : edge u v w) : Sound edge inf s (l.relax (u, v, w)) := by
  rcases relax_cases l u v w with ⟨-, same⟩ | ⟨less, dist, parent⟩
  · rw [same]
    exact sound
  · have pos : 0 ≤ w := nonneg u v w along
    have less' : l.dist u < l.dist v := (le_add_of_nonneg_right pos).trans_lt less
    obtain ⟨p, walk⟩ := sound.reach u (less'.trans_le (sound.bound v))
    have other : u ≠ v := fun same => less'.ne (congrArg l.dist same)
    have notRoot : s ≠ v := by
      rintro rfl
      rw [sound.root] at less'
      exact less'.not_ge (walk.cost_nonneg nonneg)
    have lower := relax_le l (u, v, w)
    have kept : ∀ x, x ≠ v → (l.relax (u, v, w)).dist x = l.dist x := by
      intro x away
      rw [dist, update_of_ne away]
    have here : (l.relax (u, v, w)).dist v = l.dist u + w := by rw [dist, update_self]
    have parent' : ∀ x y, (l.relax (u, v, w)).up x y → l.up x y ∧ x ≠ v ∨ x = v ∧ y = u := by
      intro x y up
      rw [Labels.up, parent] at up
      by_cases same : x = v
      · rw [same, update_self] at up
        exact .inr ⟨same, (Option.some.inj up).symm⟩
      · rw [update_of_ne same] at up
        exact .inl ⟨up, same⟩
    constructor
    · rw [kept s notRoot, sound.root]
    · rw [parent, update_of_ne notRoot, sound.rootParent]
    · exact fun x => (lower x).trans (sound.bound x)
    · intro x below
      by_cases same : x = v
      · rw [same, here]
        exact ⟨p ++ [v], walk.snoc along⟩
      · rw [kept x same] at below ⊢
        exact sound.reach x below
    · intro x below away
      by_cases same : x = v
      · refine ⟨u, ?_⟩
        rw [Labels.up, parent, same, update_self]
      · rw [kept x same] at below
        obtain ⟨y, up⟩ := sound.parent x below away
        refine ⟨y, ?_⟩
        rw [Labels.up, parent, update_of_ne same]
        exact up
    · intro x y up
      rcases parent' x y up with ⟨old, away⟩ | ⟨rfl, rfl⟩
      · obtain ⟨w', along', less⟩ := sound.up x y old
        rw [kept x away]
        exact ⟨w', along', (add_le_add_left (lower y) w').trans less⟩
      · rw [here, kept y other]
        exact ⟨w, along, le_rfl⟩
    · -- A cycle would lead from `u` to `v`, where the bound is no larger than at `u`.
      apply acyclic_or sound.acyclic (a := v) (b := u)
      · exact fun path => less'.not_ge (sound.dist_le nonneg path)
      · exact fun x y up => (parent' x y up).imp_left fun old => old.1

theorem Sound.foldl (nonneg : ∀ u v w, edge u v w → 0 ≤ w) {es : List (V × V × K)}
    (sub : ∀ u v w, (u, v, w) ∈ es → edge u v w) (sound : Sound edge inf s l) :
    Sound edge inf s (es.foldl Labels.relax l) := by
  induction es generalizing l with
  | nil => exact sound
  | cons e es ih =>
    obtain ⟨u, v, w⟩ := e
    exact ih (fun u v w later => sub u v w (mem_cons_of_mem _ later))
      (sound.relax nonneg (sub u v w mem_cons_self))

end Relax
