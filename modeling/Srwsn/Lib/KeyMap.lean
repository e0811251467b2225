import Mathlib

/-! Finite maps with ordered keys, as lists sorted by key. -/

structure KeyMap (K V : Type*) [LT K] where
  entries : List (K × V) := []
  sorted : entries.Pairwise (fun a b => a.1 < b.1) := by simp

namespace KeyMap

open List

section Operations

variable {K V : Type*} [LT K] [DecidableEq K] (m : KeyMap K V)

def find? (k : K) : Option V := m.entries.lookup k

def first? : Option (K × V) := m.entries.head?

def erase (k : K) : KeyMap K V := ⟨m.entries.filter (·.1 ≠ k), m.sorted.filter _⟩

def modify (k : K) (f : V → V) : KeyMap K V where
  entries := m.entries.map fun e => (e.1, if e.1 = k then f e.2 else e.2)
  sorted := m.sorted.map _ fun _ _ => id

def total {M : Type*} [AddCommMonoid M] (w : V → M) (m : KeyMap K V) : M :=
  (m.entries.map fun e => w e.2).sum

variable [DecidableLT K]

def insertEntry (k : K) (v : V) : List (K × V) → List (K × V)
  | [] => [(k, v)]
  | e :: rest =>
    if k < e.1 then (k, v) :: e :: rest
    else if k = e.1 then (k, v) :: rest
    else e :: insertEntry k v rest

variable {k : K} {v : V} {l : List (K × V)}

theorem insertEntry_mem {e : K × V} (member : e ∈ insertEntry k v l) : e = (k, v) ∨ e ∈ l := by
  induction l with
  | nil => simpa [insertEntry] using member
  | cons d rest ih =>
    unfold insertEntry at member
    split_ifs at member with less same
    · simpa using member
    · rcases mem_cons.mp member with new | old
      · exact .inl new
      · exact .inr (mem_cons_of_mem d old)
    · rcases mem_cons.mp member with rfl | later
      · exact .inr mem_cons_self
      · exact (ih later).imp_right (mem_cons_of_mem d)

theorem insertEntry_perm (absent : ∀ e ∈ l, e.1 ≠ k) : (insertEntry k v l).Perm ((k, v) :: l) := by
  induction l with
  | nil => exact .refl _
  | cons d rest ih =>
    unfold insertEntry
    split_ifs with less same
    · exact .refl _
    · exact absurd same.symm (absent d mem_cons_self)
    · have rest' := ih fun e member => absent e (mem_cons_of_mem d member)
      exact (rest'.cons d).trans (.swap _ _ _)

variable [LE K] [Std.IsLinearOrder K] [Std.LawfulOrderLT K]

theorem insertEntry_sorted (sorted : l.Pairwise fun a b => a.1 < b.1) :
    (insertEntry k v l).Pairwise fun a b => a.1 < b.1 := by
  induction l with
  | nil => simp [insertEntry]
  | cons d rest ih =>
    obtain ⟨before, sorted'⟩ := pairwise_cons.mp sorted
    unfold insertEntry
    split_ifs with less same
    · refine pairwise_cons.mpr ⟨fun e member => ?_, sorted⟩
      rcases mem_cons.mp member with rfl | later
      · exact less
      · exact Std.lt_trans less (before e later)
    · exact pairwise_cons.mpr ⟨fun e member => same ▸ before e member, sorted'⟩
    · refine pairwise_cons.mpr ⟨fun e member => ?_, ih sorted'⟩
      rcases insertEntry_mem member with rfl | old
      · rcases Std.lt_trichotomy d.1 k with lower | equal | higher
        · exact lower
        · exact absurd equal.symm same
        · exact absurd higher less
      · exact before e old

def insert (m : KeyMap K V) (k : K) (v : V) : KeyMap K V :=
  ⟨insertEntry k v m.entries, insertEntry_sorted m.sorted⟩

end Operations

section Lookup

variable {K V : Type*} [DecidableEq K] {k k' : K} {v : V}

theorem lookup_cons_eq (e : K × V) (l : List (K × V)) :
    (e :: l).lookup k = if k = e.1 then some e.2 else l.lookup k := by
  rw [lookup_cons]
  split_ifs with same
  · rw [beq_iff_eq.mpr same]
  · rw [beq_false_of_ne same]

theorem lookup_filter_ne (l : List (K × V)) :
    (l.filter (·.1 ≠ k)).lookup k' = if k' = k then none else l.lookup k' := by
  induction l with
  | nil => simp
  | cons e rest ih =>
    by_cases drop : e.1 = k
    · rw [filter_cons_of_neg (by simpa using drop), ih]
      split_ifs with same
      · rfl
      · rw [lookup_cons_eq, if_neg fun here => same (here.trans drop)]
    · rw [filter_cons_of_pos (by simpa using drop), lookup_cons_eq, ih, lookup_cons_eq]
      split_ifs with here same same
      · exact absurd (here.symm.trans same) drop
      all_goals rfl

theorem lookup_map_snd (f : K → V → V) (l : List (K × V)) :
    (l.map fun e => (e.1, f e.1 e.2)).lookup k = (l.lookup k).map (f k) := by
  induction l with
  | nil => rfl
  | cons e rest ih =>
    rw [map_cons, lookup_cons_eq, lookup_cons_eq, ih]
    split_ifs with here
    · rw [here]
      rfl
    · rfl

variable [LT K] {m : KeyMap K V}

@[simp] theorem find?_erase : (m.erase k).find? k' = if k' = k then none else m.find? k' :=
  lookup_filter_ne m.entries

@[simp] theorem find?_modify (f : V → V) :
    (m.modify k f).find? k' = if k' = k then (m.find? k').map f else m.find? k' := by
  refine (lookup_map_snd (fun k' v => if k' = k then f v else v) m.entries).trans ?_
  split_ifs
  · rfl
  · exact Option.map_id'

variable [DecidableLT K]

theorem lookup_insertEntry (l : List (K × V)) :
    (insertEntry k v l).lookup k' = if k' = k then some v else l.lookup k' := by
  induction l with
  | nil => exact lookup_cons_eq (k, v) []
  | cons e rest ih =>
    rw [insertEntry]
    by_cases here : k' = k
    · subst here
      rw [if_pos rfl]
      split_ifs with less same
      · rw [lookup_cons_eq, if_pos rfl]
      · rw [lookup_cons_eq, if_pos rfl]
      · rw [lookup_cons_eq, if_neg same, ih, if_pos rfl]
    · rw [if_neg here]
      split_ifs with less same
      · rw [lookup_cons_eq, if_neg here]
      · rw [lookup_cons_eq, if_neg here, lookup_cons_eq, if_neg (same ▸ here)]
      · rw [lookup_cons_eq, lookup_cons_eq, ih, if_neg here]

variable [LE K] [Std.IsLinearOrder K] [Std.LawfulOrderLT K]

@[simp] theorem find?_insert : (m.insert k v).find? k' = if k' = k then some v else m.find? k' :=
  lookup_insertEntry m.entries

end Lookup

section Stands

variable {ι K V : Type*} [DecidableEq K] [LT K] {m : KeyMap K V} {key : ι → K} {val : ι → V}
  {S S' : ι → Prop} {i : ι}

def Stands (m : KeyMap K V) (key : ι → K) (val : ι → V) (S : ι → Prop) : Prop :=
  ∀ k v, m.find? k = some v ↔ ∃ i, S i ∧ k = key i ∧ v = val i

variable (stands : m.Stands key val S)

include stands

theorem Stands.congr (same : ∀ i, S i ↔ S' i) : m.Stands key val S' := by
  simpa only [Stands, same] using stands

theorem Stands.absent (apart : ∀ j, S j → key j ≠ key i) : m.find? (key i) = none := by
  refine Option.eq_none_iff_forall_ne_some.mpr fun v found => ?_
  obtain ⟨j, inside, same, -⟩ := (stands _ v).mp found
  exact apart j inside same.symm

theorem Stands.erase (only : ∀ j, S j → key j = key i → j = i) :
    (m.erase (key i)).Stands key val fun j => S j ∧ j ≠ i := by
  intro k v
  have before := stands k v
  rw [find?_erase]
  split_ifs with here
  · grind
  · grind

theorem Stands.insert [DecidableLT K] [LE K] [Std.IsLinearOrder K] [Std.LawfulOrderLT K]
 (apart : ∀ j, S j → key j ≠ key i) : (m.insert (key i) (val i)).Stands key val fun j => j =
 i ∨ S j := by
  intro k v
  have before := stands k v
  rw [find?_insert]
  split_ifs with here
  · grind
  · grind

end Stands

section Entries

variable {K V : Type*} [LT K] [DecidableEq K] [Std.Irrefl fun a b : K => a < b] {m : KeyMap K V}
  {k : K} {v : V}

theorem find?_eq_some_iff : m.find? k = some v ↔ (k, v) ∈ m.entries := by
  rw [find?, lookup_eq_some_iff]
  constructor
  · rintro ⟨l₁, l₂, split, -⟩
    simp [split]
  · intro member
    obtain ⟨l₁, l₂, split⟩ := append_of_mem member
    refine ⟨l₁, l₂, split, fun e before => bne_iff_ne.mpr fun same => ?_⟩
    have sorted := m.sorted
    rw [split] at sorted
    have less := (pairwise_append.mp sorted).2.2 e before (k, v) mem_cons_self
    exact Std.lt_irrefl (same ▸ less)

theorem find?_eq_none_iff : m.find? k = none ↔ ∀ e ∈ m.entries, e.1 ≠ k := by
  rw [Option.eq_none_iff_forall_ne_some]
  constructor
  · rintro none ⟨k', v⟩ member rfl
    exact none v (find?_eq_some_iff.mpr member)
  · intro absent v found
    exact absent (k, v) (find?_eq_some_iff.mp found) rfl

theorem entries_perm (found : m.find? k = some v) :
    m.entries.Perm ((k, v) :: (m.erase k).entries) := by
  obtain ⟨l₁, l₂, split⟩ := append_of_mem (find?_eq_some_iff.mp found)
  have sorted := m.sorted
  rw [split] at sorted
  obtain ⟨-, after, before⟩ := pairwise_append.mp sorted
  have low : ∀ e ∈ l₁, e.1 ≠ k := fun e member same =>
    Std.lt_irrefl (same ▸ before e member (k, v) mem_cons_self)
  have high : ∀ e ∈ l₂, e.1 ≠ k := fun e member same =>
    Std.lt_irrefl (same ▸ (pairwise_cons.mp after).1 e member)
  have rest : (m.erase k).entries = l₁ ++ l₂ := by
    simp only [erase, split, filter_append]
    rw [filter_eq_self.mpr fun e member => decide_eq_true (low e member),
      filter_cons_of_neg (by simp),
      filter_eq_self.mpr fun e member => decide_eq_true (high e member)]
  rw [rest, split]
  exact perm_middle

theorem length_le {n : ℕ} {f : ℕ → K} (distinct : ∀ i < n, ∀ j < n, f i = f j → i = j)
    (found : ∀ i < n, m.find? (f i) ≠ none) : n ≤ m.entries.length := by
  have nodup : ((List.range n).map f).Nodup := by
    refine (nodup_range).map_on fun i hi j hj => ?_
    exact distinct i (mem_range.mp hi) j (mem_range.mp hj)
  have inside : (List.range n).map f ⊆ m.entries.map Prod.fst := by
    intro k member
    obtain ⟨i, less, rfl⟩ := List.mem_map.mp member
    obtain ⟨v, here⟩ := Option.ne_none_iff_exists'.mp (found i (mem_range.mp less))
    exact List.mem_map_of_mem (find?_eq_some_iff.mp here)
  simpa using (subperm_of_subset nodup inside).length_le

omit [DecidableEq K] [Std.Irrefl fun a b : K => a < b] in
theorem first?_le {e : K × V} (first : m.first? = some (k, v)) (member : e ∈ m.entries) :
    e = (k, v) ∨ k < e.1 := by
  obtain ⟨rest, split⟩ := head?_eq_some_iff.mp first
  have sorted := m.sorted
  rw [split] at sorted member
  rcases mem_cons.mp member with same | later
  · exact .inl same
  · exact .inr ((pairwise_cons.mp sorted).1 e later)

theorem first?_find? (first : m.first? = some (k, v)) : m.find? k = some v :=
  find?_eq_some_iff.mpr (mem_of_mem_head? first)

theorem length_erase (found : m.find? k = some v) :
    m.entries.length = (m.erase k).entries.length + 1 :=
  (entries_perm found).length_eq

theorem length_insert [DecidableLT K] [LE K] [Std.IsLinearOrder K] [Std.LawfulOrderLT K]
    (absent : m.find? k = none) : (m.insert k v).entries.length = m.entries.length + 1 :=
  (insertEntry_perm (find?_eq_none_iff.mp absent)).length_eq

theorem erase_insert [DecidableLT K] [LE K] [Std.IsLinearOrder K] [Std.LawfulOrderLT K]
    (absent : m.find? k = none) : (m.insert k v).erase k = m := by
  have along : ∀ l : List (K × V), (∀ e ∈ l, e.1 ≠ k) →
      (insertEntry k v l).filter (·.1 ≠ k) = l := by
    intro l
    induction l with
    | nil => simp [insertEntry]
    | cons e rest ih =>
      intro apart
      have here := apart e mem_cons_self
      have later := ih fun d member => apart d (mem_cons_of_mem e member)
      have kept : rest.filter (·.1 ≠ k) = rest :=
        filter_eq_self.mpr fun d member => by simpa using apart d (mem_cons_of_mem e member)
      unfold insertEntry
      split_ifs with less same
      · rw [filter_cons_of_neg (by simp), filter_cons_of_pos (by simpa using here), kept]
      · exact absurd same.symm here
      · rw [filter_cons_of_pos (by simpa using here), later]
  obtain ⟨entries, sorted⟩ := m
  simp only [erase, insert, mk.injEq]
  exact along entries (find?_eq_none_iff.mp absent)

omit [Std.Irrefl fun a b : K => a < b] in
theorem erase_modify (f : V → V) : (m.modify k f).erase k = m.erase k := by
  obtain ⟨entries, sorted⟩ := m
  simp only [erase, modify, mk.injEq]
  clear sorted
  induction entries with
  | nil => rfl
  | cons e rest ih =>
    rw [map_cons, filter_cons, filter_cons, ih]
    by_cases same : e.1 = k
    · simp [same]
    · simp [same]

end Entries

section Total

variable {K V M : Type*} [LT K] [DecidableEq K] [AddCommMonoid M] {m : KeyMap K V} {k : K} {v : V}
  (w : V → M)

omit [DecidableEq K] in
@[simp] theorem total_empty : total w (⟨[], .nil⟩ : KeyMap K V) = 0 := rfl

theorem total_erase [Std.Irrefl fun a b : K => a < b] (found : m.find? k = some v) :
    m.total w = w v + (m.erase k).total w :=
  ((entries_perm found).map _).sum_eq

theorem total_modify [Std.Irrefl fun a b : K => a < b] (found : m.find? k = some v) (f : V → V) :
    (m.modify k f).total w = w (f v) + (m.erase k).total w := by
  have changed : (m.modify k f).find? k = some (f v) := by simp [found]
  rw [total_erase w changed, erase_modify]

theorem total_insert [DecidableLT K] [LE K] [Std.IsLinearOrder K] [Std.LawfulOrderLT K]
    (absent : m.find? k = none) : (m.insert k v).total w = w v + m.total w :=
  ((insertEntry_perm (find?_eq_none_iff.mp absent)).map _).sum_eq

theorem mem_total [Std.Irrefl fun a b : K => a < b] {α : Type*} {w : V → Multiset α} {a : α} :
    a ∈ m.total w ↔ ∃ k v, m.find? k = some v ∧ a ∈ w v := by
  have along : ∀ l : List (K × V), a ∈ (l.map fun e => w e.2).sum ↔ ∃ e ∈ l, a ∈ w e.2 := by
    intro l
    induction l with
    | nil => simp
    | cons e rest ih => simp [ih]
  rw [total, along]
  constructor
  · rintro ⟨e, member, inside⟩
    exact ⟨e.1, e.2, find?_eq_some_iff.mpr member, inside⟩
  · rintro ⟨k, v, found, inside⟩
    exact ⟨(k, v), find?_eq_some_iff.mp found, inside⟩

end Total

end KeyMap
