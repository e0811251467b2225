import Srwsn.Lib.Trace

/-! Walks in a graph whose edges have costs, and the least cost of a walk. -/
namespace Weighted

open List

variable {V W K : Type*}

inductive Walk [AddCommMonoid K] (edge : V → V → K → Prop) (s : V) : List V → V → K → Prop
  | start : Walk edge s [s] s 0
  | snoc {p : List V} {u v : V} {c w : K} : Walk edge s p u c → edge u v w →
      Walk edge s (p ++ [v]) v (c + w)

section Walks

variable [AddCommMonoid K] {edge : V → V → K → Prop} {s u v : V} {p : List V} {c w : K}

def Reaches (edge : V → V → K → Prop) (s v : V) : Prop := ∃ p c, Walk edge s p v c

theorem Reaches.start : Reaches edge s s := ⟨[s], 0, .start⟩

theorem Walk.ne_nil (walk : Walk edge s p v c) : p ≠ [] := by
  cases walk with
  | start => exact cons_ne_nil s []
  | snoc before along => exact append_ne_nil_of_right_ne_nil _ (cons_ne_nil _ _)

theorem Walk.reached (walk : Walk edge s p v c) : ∀ x ∈ p, Reaches edge s x := by
  induction walk with
  | start =>
    intro x member
    rw [mem_singleton.mp member]
    exact .start
  | snoc before along ih =>
    intro x member
    rcases mem_snoc member with old | rfl
    · exact ih x old
    · exact ⟨_, _, before.snoc along⟩

theorem Walk.map {edge' : W → W → K → Prop} {f : V → W}
    (keeps : ∀ u v w, edge u v w → edge' (f u) (f v) w) (walk : Walk edge s p v c) :
    Walk edge' (f s) (p.map f) (f v) c := by
  induction walk with
  | start => exact .start
  | snoc before along ih =>
    rw [map_append]
    exact ih.snoc (keeps _ _ _ along)

end Walks

section Costs

variable [AddCommMonoid K] [LinearOrder K] [IsOrderedAddMonoid K] {edge : V → V → K → Prop}
  {s u v : V} {p : List V} {c w : K}

def Least (edge : V → V → K → Prop) (s v : V) (c : K) : Prop :=
  (∃ p, Walk edge s p v c) ∧ ∀ p' c', Walk edge s p' v c' → c ≤ c'

variable (nonneg : ∀ u v w, edge u v w → 0 ≤ w)
include nonneg

theorem Walk.cost_nonneg (walk : Walk edge s p v c) : 0 ≤ c := by
  induction walk with
  | start => exact le_rfl
  | snoc before along ih => exact add_nonneg ih (nonneg _ _ _ along)

theorem Walk.cut (walk : Walk edge s p v c) : ∀ x ∈ p, ∃ q d, Walk edge s q x d ∧ q <+: p ∧
    d ≤ c := by
  induction walk with
  | start =>
    intro x member
    rw [mem_singleton.mp member]
    exact ⟨[s], 0, .start, prefix_rfl, le_rfl⟩
  | @snoc p u v c w before along ih =>
    have longer : c ≤ c + w := le_add_of_nonneg_right (nonneg u v w along)
    intro x member
    rcases mem_snoc member with old | rfl
    · obtain ⟨q, d, walk, inside, less⟩ := ih x old
      exact ⟨q, d, walk, inside.trans (prefix_append p [v]), less.trans longer⟩
    · exact ⟨p ++ [x], c + w, before.snoc along, prefix_rfl, le_rfl⟩

theorem Walk.loopFree (walk : Walk edge s p v c) : ∃ q d, Walk edge s q v d ∧ q.Nodup ∧ d ≤ c := by
  induction walk with
  | start => exact ⟨[s], 0, .start, nodup_singleton s, le_rfl⟩
  | @snoc p u v c w before along ih =>
    have pos : 0 ≤ w := nonneg u v w along
    obtain ⟨q, d, walk, once, less⟩ := ih
    by_cases back : v ∈ q
    · obtain ⟨q', d', walk', inside, less'⟩ := walk.cut nonneg v back
      exact ⟨q', d', walk', once.sublist inside.sublist,
        (less'.trans less).trans (le_add_of_nonneg_right pos)⟩
    · refine ⟨q ++ [v], d + w, walk.snoc along, ?_, add_le_add_left less w⟩
      rw [nodup_append]
      exact ⟨once, nodup_singleton v,
        fun a old b last same => back (mem_singleton.mp last ▸ same ▸ old)⟩

end Costs

end Weighted
