import Mathlib

/-! Objects under addresses, and indexes that find them by a key. An index is exact if every object
is found under the key it has now, and nothing else is. -/
namespace Index

open Function

variable {α κ : Type*} {key : α → κ} {objs : Nat → Option α} {index : κ → Option Nat}

def Exact (key : α → κ) (objs : Nat → Option α) (index : κ → Option Nat) : Prop :=
  ∀ k i, index k = some i ↔ ∃ a, objs i = some a ∧ key a = k

theorem exact_empty : Exact key (fun _ => none) fun _ => none := by
  intro k i
  simp

section Exact

variable {i j : Nat} {a b : α} (exact : Exact key objs index)

include exact

theorem Exact.find (held : objs i = some a) : index (key a) = some i :=
  (exact _ i).mpr ⟨a, held, rfl⟩

theorem Exact.inj (held : objs i = some a) (held' : objs j = some b) (same : key a = key b) :
    i = j := by
  have found := exact.find held
  rw [same, exact.find held'] at found
  exact (Option.some.inj found).symm

theorem Exact.own (held : objs i = some a) (same : key b = key a) (n : Nat)
    (found : index (key b) = some n) : n = i := by
  rw [same, exact.find held] at found
  exact (Option.some.inj found).symm

variable [DecidableEq κ]

theorem Exact.insert (new : objs i = none) (free : index (key a) = none) :
    Exact key (update objs i (some a)) (update index (key a) (some i)) := by
  intro k n
  have old := exact k n
  by_cases here : k = key a
  · subst here
    rw [update_self]
    by_cases same : n = i
    · subst same
      simp
    · rw [update_of_ne same, ← old, free]
      simp [Ne.symm same]
  · rw [update_of_ne here, old]
    by_cases same : n = i
    · subst same
      simp [new, Ne.symm here]
    · simp [same]

theorem Exact.remove (held : objs i = some a) :
    Exact key (update objs i none) (update index (key a) none) := by
  intro k n
  have old := exact k n
  by_cases same : n = i
  · subst same
    rw [update_self]
    by_cases here : k = key a
    · simp [here]
    · rw [update_of_ne here, old, held]
      simp [Ne.symm here]
  · rw [update_of_ne same]
    by_cases here : k = key a
    · subst here
      rw [update_self, ← old, exact.find held]
      simp [Ne.symm same]
    · rw [update_of_ne here, old]

theorem Exact.rekey (held : objs i = some a) (free : ∀ n, index (key b) = some n → n = i) :
    Exact key (update objs i (some b)) (update (update index (key a) none) (key b) (some i)) := by
  have gone := exact.remove held
  have vacant : update index (key a) none (key b) = none := by
    by_cases same : key b = key a
    · rw [same, update_self]
    · rw [update_of_ne same]
      cases found : index (key b) with
      | none => rfl
      | some n =>
        cases free n found
        obtain ⟨c, held', other⟩ := (exact _ _).mp found
        rw [held] at held'
        cases held'
        exact absurd other.symm same
  have added := gone.insert (update_self i none objs) vacant
  rwa [update_idem] at added

end Exact

theorem all_update {P : Nat → α → Prop} {i : Nat} {x : Option α} (here : ∀ a, x = some a → P i a)
    (others : ∀ n a, objs n = some a → P n a) : ∀ n a, update objs i x n = some a → P n a := by
  intro n a held
  by_cases same : n = i
  · subst same
    rw [update_self] at held
    exact here a held
  · rw [update_of_ne same] at held
    exact others n a held

theorem all_erase {P : Nat → α → Prop} {i : Nat} (others : ∀ n a, objs n = some a → P n a) :
    ∀ n a, update objs i none n = some a → P n a :=
  all_update (fun a none => absurd none.symm (Option.some_ne_none a)) others

def tally (p : α → Bool) (objs : Nat → Option α) (bound : Nat) : Nat :=
  Nat.count (fun i => (objs i).any p) bound

section Tally

variable {p : α → Bool} {bound i : Nat} {a b : α}

theorem tally_succ :
    tally p objs (bound + 1) = tally p objs bound + ((objs bound).any p).toNat := by
  unfold tally
  rw [Nat.count_succ]
  cases found : (objs bound).any p <;> simp

theorem tally_congr {objs' : Nat → Option α} (same : ∀ i < bound, objs' i = objs i) :
    tally p objs' bound = tally p objs bound := by
  induction bound with
  | zero => rfl
  | succ bound ih =>
    rw [tally_succ, tally_succ, ih fun i below => same i (Nat.lt_succ_of_lt below),
      same bound (Nat.lt_succ_self bound)]

theorem tally_update (below : i < bound) (x : Option α) :
    tally p (update objs i x) bound + ((objs i).any p).toNat =
    tally p objs bound + (x.any p).toNat := by
  induction bound with
  | zero => exact absurd below (Nat.not_lt_zero i)
  | succ bound ih =>
    rw [tally_succ, tally_succ]
    by_cases here : i = bound
    · subst here
      have rest : tally p (update objs i x) i = tally p objs i :=
        tally_congr fun n below => update_of_ne (Nat.ne_of_lt below) _ _
      rw [rest, update_self]
      omega
    · have earlier := ih (by omega)
      rw [update_of_ne (Ne.symm here)]
      omega

theorem tally_replace (below : i < bound) (held : objs i = some a) (same : p b = p a) :
    tally p (update objs i (some b)) bound = tally p objs bound := by
  have turn := @tally_update _ objs p bound i below (some b)
  rw [held, Option.any_some, Option.any_some, same] at turn
  omega

theorem tally_insert (new : objs bound = none) :
    tally p (update objs bound (some a)) (bound + 1) = tally p objs bound + (p a).toNat := by
  have turn := @tally_update _ objs p (bound + 1) bound (Nat.lt_succ_self bound) (some a)
  have before := @tally_succ _ objs p bound
  rw [new, Option.any_none, Bool.toNat_false] at turn before
  rw [Option.any_some] at turn
  omega

theorem tally_remove (below : i < bound) (held : objs i = some a) :
    tally p (update objs i none) bound + (p a).toNat = tally p objs bound := by
  have turn := @tally_update _ objs p bound i below none
  rw [held, Option.any_some, Option.any_none, Bool.toNat_false] at turn
  omega

theorem tally_eq_ncard (bounded : ∀ i a, objs i = some a → i < bound) :
    tally p objs bound = {i | ∃ a, objs i = some a ∧ p a}.ncard := by
  have all : {i | ∃ a, objs i = some a ∧ p a} =
      ((Finset.range bound).filter fun i => (objs i).any p : Finset Nat) := by
    ext i
    simp only [Set.mem_ofPred_eq, Finset.coe_filter, Finset.mem_range, Option.any_eq_true]
    exact ⟨fun ⟨a, held, good⟩ => ⟨bounded i a held, a, held, good⟩, fun ⟨_, found⟩ => found⟩
  rw [all, Set.ncard_coe_finset, tally, Nat.count_eq_card_filter_range]

end Tally

end Index
