import Mathlib

/-! Doubly linked lists in a heap of cells. `Seg` reads a list off the heap between two pointers,
and splits where the list splits. -/
namespace Linked

open List Function

inductive Fault where
  | dangling
  | diverged
  deriving DecidableEq, Repr

structure Node (α : Type*) where
  value : α
  last : Option Nat
  next : Option Nat

/-- The cells from `fresh` on have never been allocated. -/
structure Heap (α : Type*) where
  cells : Nat → Option (Node α)
  fresh : Nat
  untouched : ∀ a, fresh ≤ a → cells a = none

variable {α : Type*}

namespace Heap

def empty : Heap α := ⟨fun _ => none, 0, fun _ _ => rfl⟩

variable (h : Heap α)

def alloc (n : Node α) : Heap α where
  cells := update h.cells h.fresh (some n)
  fresh := h.fresh + 1
  untouched a above := by
    rw [update_of_ne (Nat.ne_of_gt above)]
    exact h.untouched a (Nat.le_of_succ_le above)

def read (a : Nat) : Except Fault (Node α) :=
  match h.cells a with
  | none => .error .dangling
  | some n => .ok n

def set (a : Nat) (n : Option (Node α)) (live : a < h.fresh) : Heap α where
  cells := update h.cells a n
  fresh := h.fresh
  untouched b above := by
    rw [update_of_ne (Nat.ne_of_gt (Nat.lt_of_lt_of_le live above))]
    exact h.untouched b above

variable {a : Nat} {n : Node α}

theorem live_of_cell (held : h.cells a = some n) : a < h.fresh := by
  by_contra above
  rw [h.untouched a (Nat.le_of_not_lt above)] at held
  cases held

def modify (a : Nat) (f : Node α → Node α) : Except Fault (Heap α) :=
  match held : h.cells a with
  | none => .error .dangling
  | some n => .ok (h.set a (some (f n)) (h.live_of_cell held))

def free (a : Nat) : Except Fault (Heap α) :=
  match held : h.cells a with
  | none => .error .dangling
  | some _ => .ok (h.set a none (h.live_of_cell held))

theorem alloc_cell (n : Node α) : (h.alloc n).cells h.fresh = some n :=
  update_self _ _ _

theorem read_of_cell {h : Heap α} (held : h.cells a = some n) : h.read a = .ok n := by
  simp [read, held]

theorem modify_of_cell {h : Heap α} (held : h.cells a = some n) (f : Node α → Node α) :
    ∃ h', h.modify a f = .ok h' ∧
      h'.cells = update h.cells a (some (f n)) ∧ h'.fresh = h.fresh := by
  unfold modify
  split
  · rename_i gone
    rw [held] at gone
    cases gone
  · rename_i m found
    obtain rfl : n = m := Option.some.inj (held.symm.trans found)
    exact ⟨_, rfl, rfl, rfl⟩

end Heap

/-- From pointer `p`, with `last` as the address before it, the cells hold `l` and the final `next`
is `q`. -/
def Seg (cells : Nat → Option (Node α)) : Option Nat → Option Nat → List (Nat × α) →
    Option Nat → Prop
  | _, p, [], q => p = q
  | last, p, (a, x) :: rest, q =>
    p = some a ∧ ∃ next, cells a = some ⟨x, last, next⟩ ∧ Seg cells (some a) next rest q

def back : Option Nat → List (Nat × α) → Option Nat
  | last, [] => last
  | _, (a, _) :: rest => back (some a) rest

@[simp] theorem back_nil (last : Option Nat) : back last ([] : List (Nat × α)) = last := rfl

@[simp] theorem back_append (last : Option Nat) (l : List (Nat × α)) (m : List (Nat × α)) :
    back last (l ++ m) = back (back last l) m := by
  induction l generalizing last with
  | nil => rfl
  | cons cell rest ih => exact ih (some cell.1)

variable {cells cells' : Nat → Option (Node α)} {last p : Option Nat} {l : List (Nat × α)}

variable {q : Option Nat} {m : List (Nat × α)}

theorem seg_append : Seg cells last p (l ++ m) q ↔ ∃ r, Seg cells last p l r ∧
    Seg cells (back last l) r m q := by
  induction l generalizing last p with
  | nil => simp [Seg]
  | cons cell rest ih =>
    simp only [cons_append, Seg, back, ih]
    constructor
    · rintro ⟨start, next, held, r, front, behind⟩
      exact ⟨r, ⟨start, next, held, front⟩, behind⟩
    · rintro ⟨r, ⟨start, next, held, front⟩, behind⟩
      exact ⟨start, next, held, r, front, behind⟩

theorem Seg.congr (s : Seg cells last p l q)
    (same : ∀ a ∈ l.map Prod.fst, cells' a = cells a) : Seg cells' last p l q := by
  induction l generalizing last p with
  | nil => exact s
  | cons cell rest ih =>
    obtain ⟨start, next, held, behind⟩ := s
    refine ⟨start, next, ?_, ih behind fun a inside => same a (mem_cons_of_mem _ inside)⟩
    rw [same cell.1 mem_cons_self, held]

def search (cells : Nat → Option (Node α)) (test : α → Bool) :
    Nat → Option Nat → Except Fault (Option Nat)
  | _, none => .ok none
  | 0, some _ => .error .diverged
  | fuel + 1, some a =>
    match cells a with
    | none => .error .dangling
    | some n => if test n.value then .ok (some a) else search cells test fuel n.next

theorem Seg.search_eq (s : Seg cells last p l none) (test : α → Bool) {fuel : Nat}
    (enough : l.length ≤ fuel) :
    search cells test fuel p = .ok ((l.find? fun cell => test cell.2).map Prod.fst) := by
  induction l generalizing last p fuel with
  | nil =>
    cases s
    simp [search]
  | cons cell rest ih =>
    obtain ⟨rfl, next, held, behind⟩ := s
    obtain ⟨fuel, rfl⟩ : ∃ n, fuel = n + 1 := ⟨fuel - 1, by simp at enough; omega⟩
    simp only [search, held, find?_cons]
    cases hit : test cell.2 with
    | true => rfl
    | false => exact ih behind (Nat.le_of_succ_le_succ enough)

structure Represents (h : Heap α) (first final : Option Nat) (l : List (Nat × α)) : Prop where
  seg : Seg h.cells none first l none
  ends : final = back none l
  distinct : (l.map Prod.fst).Nodup

theorem represents_empty (h : Heap α) : Represents h none none [] := ⟨rfl, rfl, nodup_nil⟩

theorem Seg.cell (s : Seg cells last p l q) {a : Nat} (inside : a ∈ l.map Prod.fst) :
    ∃ n, cells a = some n := by
  induction l generalizing last p with
  | nil => cases inside
  | cons cell rest ih =>
    obtain ⟨-, next, held, behind⟩ := s
    rcases mem_cons.mp inside with rfl | inside
    · exact ⟨_, held⟩
    · exact ih behind inside

variable {h : Heap α} {first final : Option Nat}

theorem Represents.fresh_not_mem (r : Represents h first final l) : h.fresh ∉ l.map Prod.fst := by
  intro inside
  obtain ⟨n, held⟩ := r.seg.cell inside
  exact absurd (h.live_of_cell held) (Nat.lt_irrefl _)

/-- Of the cells allocated before, only those of `l` were written. -/
def SameOutside (h h' : Heap α) (l : List (Nat × α)) : Prop :=
  ∀ a, a < h.fresh → a ∉ l.map Prod.fst → h'.cells a = h.cells a

theorem Represents.frame {h' : Heap α} (r : Represents h first final m) (same : SameOutside h h' l)
    (apart : (l.map Prod.fst).Disjoint (m.map Prod.fst)) : Represents h' first final m := by
  refine ⟨r.seg.congr fun a inside => ?_, r.ends, r.distinct⟩
  obtain ⟨n, held⟩ := r.seg.cell inside
  exact same a (h.live_of_cell held) fun other => apart other inside

theorem Seg.start_eq (s : Seg cells last p l none) : p = l.head?.map Prod.fst := by
  cases l with
  | nil => exact s
  | cons cell rest => exact s.1

section Operations

variable {h h' : Heap α} {first final : Option Nat} {init rest : List (Nat × α)} {a : Nat} {x y : α}

theorem cell_at (init rest : List (Nat × α))
    (r : Represents h first final (init ++ (a, x) :: rest)) :
    h.cells a = some ⟨x, back none init, rest.head?.map Prod.fst⟩ := by
  obtain ⟨p, -, -, next, held, behind⟩ := seg_append.mp r.seg
  rw [held, behind.start_eq]

theorem Represents.push (r : Represents h first final (init ++ [(a, x)])) {b : Nat}
    (new : b ∉ (init ++ [(a, x)]).map Prod.fst)
    (linked : h'.cells a = some ⟨x, back none init, some b⟩)
    (made : h'.cells b = some ⟨y, some a, none⟩)
    (same : ∀ c ∈ init.map Prod.fst, h'.cells c = h.cells c) :
    Represents h' first (some b) (init ++ [(a, x)] ++ [(b, y)]) := by
  obtain ⟨p, front, start, -⟩ := seg_append.mp r.seg
  refine ⟨?_, by simp [back], ?_⟩
  · rw [append_assoc]
    exact seg_append.mpr ⟨p, front.congr same, start, some b, linked, rfl, none, made, rfl⟩
  · rw [map_append]
    exact r.distinct.append (nodup_singleton b) (disjoint_singleton.mpr new)

theorem Represents.assign (r : Represents h first final (init ++ (a, x) :: rest))
    (written : h'.cells a = some ⟨y, back none init, rest.head?.map Prod.fst⟩)
    (same : ∀ c, c ≠ a → h'.cells c = h.cells c) :
    Represents h' first final (init ++ (a, y) :: rest) := by
  obtain ⟨p, front, start, next, held, behind⟩ := seg_append.mp r.seg
  have distinct := r.distinct
  simp only [map_append, map_cons, nodup_append, nodup_cons] at distinct
  obtain ⟨-, ⟨notBehind, -⟩, apart⟩ := distinct
  refine ⟨seg_append.mpr ⟨p, front.congr fun c inside => same c ?_, start, next, ?_,
    behind.congr fun c inside => same c ?_⟩, ?_, by simpa using r.distinct⟩
  · exact apart c inside a mem_cons_self
  · rw [written, behind.start_eq]
  · rintro rfl
    exact notBehind inside
  · have ends := r.ends
    simpa [back] using ends

end Operations

theorem Represents.length_le (r : Represents h first final l) : l.length ≤ h.fresh := by
  have inside : ∀ a ∈ l.map Prod.fst, a ∈ List.range h.fresh := fun a mem =>
    have ⟨_, held⟩ := r.seg.cell mem
    mem_range.mpr (h.live_of_cell held)
  have := (r.distinct.subperm inside).length_le
  simpa using this

end Linked
