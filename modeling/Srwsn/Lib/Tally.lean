import Mathlib

/-! Items that are numbered as they come: a list that holds each of the first `n` once, whatever its
order. -/
namespace Tally

open List

variable {α : Type*} {number : α → Nat} {l l' : List α} {n : Nat} {a : α}

def Tallied (number : α → Nat) (l : List α) (n : Nat) : Prop := (l.map number).Perm (List.range n)

theorem tallied_nil : Tallied number [] 0 := .nil

theorem Tallied.perm (h : Tallied number l n) (same : l'.Perm l) : Tallied number l' n :=
  (same.map number).trans h

theorem Tallied.add (h : Tallied number l n) (new : number a = n) (more : l'.Perm (a :: l)) :
    Tallied number l' (n + 1) := by
  refine (more.map number).trans ?_
  rw [map_cons, new, range_succ]
  exact (h.cons n).trans (perm_append_singleton n _).symm

theorem Tallied.add_last {p q q' : List α} (h : Tallied number (p ++ q) n) (new : number a = n)
    (more : q'.Perm (q ++ [a])) : Tallied number (p ++ q') (n + 1) := by
  refine h.add new ((more.append_left p).trans ?_)
  rw [← append_assoc]
  exact perm_append_singleton a _

theorem Tallied.add_middle {p d q : List α} (h : Tallied number (p ++ d ++ q) n)
    (new : number a = n) : Tallied number (p ++ (d ++ [a]) ++ q) (n + 1) := by
  refine h.add new ?_
  rw [← append_assoc, append_assoc (p ++ d)]
  exact perm_middle

theorem Tallied.move {p d q q' : List α} (h : Tallied number (p ++ d ++ q) n)
    (less : q.Perm (a :: q')) : Tallied number (p ++ [a] ++ d ++ q') n := by
  refine h.perm (.trans ?_ (less.symm.append_left (p ++ d)))
  simp only [append_assoc, singleton_append]
  exact List.Perm.append_left p perm_middle.symm

theorem Tallied.lt (h : Tallied number l n) (member : a ∈ l) : number a < n :=
  mem_range.mp (h.mem_iff.mp (List.mem_map_of_mem member))

theorem Tallied.nodup (h : Tallied number l n) : (l.map number).Nodup := h.nodup_iff.mpr nodup_range

theorem Tallied.ne {p : List α} (h : Tallied number (p ++ a :: l) n) {b : α} (member : b ∈ l) :
    number b ≠ number a := by
  intro same
  have front : Tallied number (a :: (p ++ l)) n := h.perm perm_middle.symm
  apply (nodup_cons.mp front.nodup).1
  rw [← same]
  exact List.mem_map_of_mem (mem_append_right p member)

end Tally
