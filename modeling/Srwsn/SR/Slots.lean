import Srwsn.SR.Network

/-! Histories of reservations. Request slots and areas are reserved in bitmaps that all sensors
share. -/
namespace Srwsn
namespace Reservation

inductive Call where
  | generator (me : SR) (input : Input)
  | area (me : SR) (input : Input) (msg : SRPacket)

structure Ledger where
  statics : Statics
  slots : List Nat
  areas : List Nat

def empty : Ledger := ⟨{}, [], []⟩

def slotOf : Note → Option Nat
  | .slotReserved pos => some pos
  | _ => none

def areaGranted : Note → Option Nat
  | .areaReserved pos => some pos
  | _ => none

def perform (l : Ledger) : Call → Except Fault Ledger
  | .generator me input =>
    match me.scheduleTimeToGenerateRequest l.statics input with
    | .error fault => .error fault
    | .ok (_, st, notes) => .ok ⟨st, notes.filterMap slotOf ++ l.slots, l.areas⟩
  | .area me input msg =>
    match me.firstSinkMessage l.statics input msg with
    | .error fault => .error fault
    | .ok e => .ok ⟨e.shared, l.slots, e.notes.filterMap areaGranted ++ l.areas⟩

structure Exclusive (l : Ledger) : Prop where
  slots : l.slots.Nodup
  areas : l.areas.Nodup
  generatorBitmap : Exact l.statics.generatorBitmap l.slots
  areaBitmap : Exact l.statics.areaBitmap l.areas

/-- The position the draws lead to is free and, for a slot, one that the shift can reach. -/
def Fine (l : Ledger) : Call → Prop
  | .generator _ input => ∀ pos, firstUsable (decide (0 ∈ l.slots)) 64 64 input.draws = some pos →
      pos ∉ l.slots ∧ pos ≤ 30
  | .area _ input _ => ∀ pos, firstUsable (decide (0 ∈ l.areas)) 4 16 input.draws = some pos →
      pos ∉ l.areas

def Grants (l : Ledger) (call : Call) (l' : Ledger) : Prop := perform l call = .ok l'

theorem empty_exclusive : Exclusive empty :=
  ⟨List.nodup_nil, List.nodup_nil, fun i _ => by simp [empty], fun i _ => by simp [empty]⟩

section Reserve

variable {w range limit pos : Nat} {bitmap : BitVec w} {held draws rest : List Nat}

theorem firstUsable_of_reserve (wide : 0 < w) (h : Exact bitmap held)
    (found : reserve bitmap range limit draws = .ok (some pos, rest)) :
    firstUsable (decide (0 ∈ held)) range limit draws = some pos := by
  rw [← h 0 wide]
  exact (reserve_found wide bitmap range limit draws pos).mp ⟨rest, found⟩

theorem firstUsable_of_gave_up (wide : 0 < w) (h : Exact bitmap held)
    (none : reserve bitmap range limit draws = .ok (none, rest)) :
    firstUsable (decide (0 ∈ held)) range limit draws = Option.none := by
  rw [← h 0 wide, Option.eq_none_iff_forall_ne_some]
  intro p usable
  obtain ⟨rest', found⟩ := (reserve_found wide bitmap range limit draws p).mpr usable
  rw [none] at found
  cases found

theorem firstUsable_lt {zeroHeld : Bool} (positive : 0 < range)
    (h : firstUsable zeroHeld range limit draws = some pos) : pos < range := by
  obtain ⟨rand, -, rfl⟩ := List.mem_map.mp (List.mem_of_find?_eq_some h)
  exact Nat.mod_lt rand positive

theorem grant_exclusive_iff (fresh : held.Nodup) (h : Exact bitmap held) :
    ((pos :: held).Nodup ∧ Exact (bitmap + mask w pos) (pos :: held)) ↔
      pos ∉ held ∧ mask w pos = BitVec.twoPow w pos := by
  rw [List.nodup_cons]
  constructor
  · rintro ⟨⟨free, -⟩, exact⟩
    exact ⟨free, (exact_add_mask_iff h free).mp exact⟩
  · rintro ⟨free, own⟩
    exact ⟨⟨free, fresh⟩, (exact_add_mask_iff h free).mpr own⟩

end Reserve

variable {l l' : Ledger} {me : SR} {input : Input}

theorem perform_generator (h : perform l (.generator me input) = .ok l') :
    (∃ rest, reserve l.statics.generatorBitmap 64 64 input.draws = .ok (none, rest) ∧ l' = l) ∨
    ∃ pos rest, reserve l.statics.generatorBitmap 64 64 input.draws = .ok (some pos, rest) ∧
      l'.slots = pos :: l.slots ∧ l'.areas = l.areas ∧
      l'.statics.generatorBitmap = l.statics.generatorBitmap + mask 64 pos ∧
      l'.statics.areaBitmap = l.statics.areaBitmap := by
  simp only [perform, SR.scheduleTimeToGenerateRequest] at h
  split at h
  · cases h
  · rename_i scheduled
    split at scheduled
    · cases scheduled
    · rename_i rest reserved
      cases scheduled
      cases h
      exact .inl ⟨rest, reserved, rfl⟩
    · cases scheduled
    · rename_i pos rand rest reserved
      split at scheduled
      · cases scheduled
        cases h
        exact .inr ⟨pos, rand :: rest, reserved, rfl, rfl, rfl, rfl⟩
      · cases scheduled
        cases h
        exact .inr ⟨pos, rand :: rest, reserved, rfl, rfl, rfl, rfl⟩

variable {msg : SRPacket}

theorem perform_area (h : perform l (.area me input msg) = .ok l') :
    ∃ pos rest, reserve l.statics.areaBitmap 4 16 input.draws = .ok (some pos, rest) ∧
      l'.areas = pos :: l.areas ∧ l'.slots = l.slots ∧
      l'.statics.areaBitmap = l.statics.areaBitmap + mask 16 pos ∧
      l'.statics.generatorBitmap = l.statics.generatorBitmap := by
  simp only [perform, SR.firstSinkMessage] at h
  split at h
  · cases h
  · rename_i e handled
    split at handled
    · cases handled
    · cases handled
    · rename_i pos rest reserved
      cases handled
      cases h
      exact ⟨pos, rest, reserved, rfl, rfl, rfl, rfl⟩

theorem generator_exclusive_iff (ok : Exclusive l) (h : perform l (.generator me input) = .ok l') :
    Exclusive l' ↔ Fine l (.generator me input) := by
  rcases perform_generator h with ⟨rest, gaveUp, rfl⟩ | ⟨pos, rest, found, slots, areas,
    bits, other⟩
  · have none := firstUsable_of_gave_up (by decide) ok.generatorBitmap gaveUp
    exact iff_of_true ok (fun pos usable => by rw [none] at usable; cases usable)
  · have usable := firstUsable_of_reserve (by decide) ok.generatorBitmap found
    have grant := @grant_exclusive_iff 64 pos _ _ ok.slots ok.generatorBitmap
    rw [generator_mask_iff pos (firstUsable_lt (by decide) usable)] at grant
    constructor
    · intro next p same
      rw [usable] at same
      cases same
      exact grant.mp ⟨slots ▸ next.slots, slots ▸ bits ▸ next.generatorBitmap⟩
    · intro fine
      have both := grant.mpr (fine pos usable)
      exact ⟨slots ▸ both.1, areas ▸ ok.areas, slots ▸ bits ▸ both.2, areas ▸ other ▸ ok.areaBitmap⟩

theorem area_exclusive_iff (ok : Exclusive l) (h : perform l (.area me input msg) = .ok l') :
    Exclusive l' ↔ Fine l (.area me input msg) := by
  obtain ⟨pos, rest, found, areas, slots, bits, other⟩ := perform_area h
  have usable := firstUsable_of_reserve (by decide) ok.areaBitmap found
  have grant := @grant_exclusive_iff 16 pos _ _ ok.areas ok.areaBitmap
  rw [and_iff_left (area_mask pos (firstUsable_lt (by decide) usable))] at grant
  constructor
  · intro next p same
    rw [usable] at same
    cases same
    exact grant.mp ⟨areas ▸ next.areas, areas ▸ bits ▸ next.areaBitmap⟩
  · intro fine
    have both := grant.mpr (fine pos usable)
    exact ⟨slots ▸ ok.slots, areas ▸ both.1, slots ▸ other ▸ ok.generatorBitmap,
      areas ▸ bits ▸ both.2⟩

theorem perform_exclusive_iff {call : Call} (ok : Exclusive l)
    (h : perform l call = .ok l') : Exclusive l' ↔ Fine l call := by
  cases call with
  | generator me input => exact generator_exclusive_iff ok h
  | area me input msg => exact area_exclusive_iff ok h

/-- A history stays exclusive if and only if each call's draws lead to a position that nobody holds
and, in the generator bitmap, to one of the first 31. -/
theorem reservations_exclusive_iff (calls : List Call) :
    Trace.Always Grants Exclusive empty calls ↔ Trace.Each Grants Fine empty calls := by
  apply Trace.always_iff_each (I := fun _ => True)
  · exact fun _ _ _ _ _ => trivial
  · intro l call l' _ ok granted
    exact perform_exclusive_iff ok granted
  · trivial
  · exact empty_exclusive

/-- Two sensors whose first draw is 5 both get slot 5, and two that draw 2 both get area 2. -/
theorem position_granted_twice :
    ¬ Trace.Always Grants Exclusive empty [.generator (triangle.nodes 0) { draws := [5, 0] },
      .generator (triangle.nodes 1) { draws := [5, 0] }] ∧
    ¬ Trace.Always Grants Exclusive empty [.area (triangle.nodes 0) { draws := [2] } {},
      .area (triangle.nodes 1) { draws := [2] } {}] := by
  constructor
  · intro along
    have second := ((along.2 _ rfl).2 _ rfl).slots
    have twice : ¬ [5, 5].Nodup := by decide
    exact twice second
  · intro along
    have second := ((along.2 _ rfl).2 _ rfl).areas
    have twice : ¬ [2, 2].Nodup := by decide
    exact twice second

def Schedules (me : SR) (st : Statics) (input : Input) (pos : Nat) (delay : UInt32) : Prop :=
  ∃ me' st', me.scheduleTimeToGenerateRequest st input = .ok (me', st', [.slotReserved pos]) ∧
    me'.selfGenerateRequestMsg = some delay

def instant (input : Input) (delay : UInt32) (round : Nat) : Nat :=
  input.raw + delay.toNat + round * SR.LIVETIME.toNat

def slot (time : Nat) : Nat := time / SR.EVENT_MAX_LIVETIME.toNat

variable {pos : Nat}

theorem randomTime_toNat (raw rand : Nat) (small : pos < 64) :
    (SR.randomTime raw pos rand).toNat = 4096 - raw % 4096 + pos * 4096 + rand % 4096 := by
  simp only [SR.randomTime, UInt32.toNat_add, UInt32.toNat_sub, UInt32.toNat_mul, UInt32.toNat_div,
    UInt32.toNat_mod, UInt32.toNat_ofNat']
  have live : SR.LIVETIME.toNat = 262144 := by decide
  have event : SR.EVENT_MAX_LIVETIME.toNat = 4096 := by decide
  have one : (1 : UInt32).toNat = 1 := rfl
  rw [live, event, one]
  omega

variable {st : Statics} {delay : UInt32}

theorem schedules_inv (scheduled : Schedules me st input pos delay) :
    pos < 64 ∧ ∃ rand, delay = SR.randomTime input.raw pos rand := by
  obtain ⟨me', st', done, timer⟩ := scheduled
  unfold SR.scheduleTimeToGenerateRequest at done
  split at done
  · cases done
  · cases done
  · cases done
  · rename_i p rand rest reserved
    have small : p < 64 := by
      have usable :=
        (reserve_found (by decide) st.generatorBitmap 64 64 input.draws p).mp ⟨_, reserved⟩
      exact firstUsable_lt (by decide) usable
    dsimp only at done
    split at done
    all_goals
      cases done
      cases timer
      exact ⟨small, rand, rfl⟩

theorem slot_instant (scheduled : Schedules me st input pos delay) (round : Nat) :
    slot (instant input delay round) = slot input.raw + 1 + pos + round * 64 := by
  obtain ⟨small, rand, rfl⟩ := schedules_inv scheduled
  have live : SR.LIVETIME.toNat = 262144 := by decide
  have event : SR.EVENT_MAX_LIVETIME.toNat = 4096 := by decide
  rw [slot, slot, instant, randomTime_toNat input.raw rand small, live, event]
  omega

/-- A reservation falls into its slot, and two reservations keep apart just when their slots do. -/
theorem instants_apart (me₁ me₂ : SR) (st₁ st₂ : Statics) (input₁ input₂ : Input) (pos₁ pos₂ : Nat)
    (delay₁ delay₂ : UInt32) (first : Schedules me₁ st₁ input₁ pos₁ delay₁)
    (second : Schedules me₂ st₂ input₂ pos₂ delay₂) :
    slot (instant input₁ delay₁ 0) = slot input₁.raw + 1 + pos₁ ∧
      ((∀ k₁ k₂, slot (instant input₁ delay₁ k₁) % 64 ≠ slot (instant input₂ delay₂ k₂) % 64) ↔
        (slot input₁.raw + pos₁) % 64 ≠ (slot input₂.raw + pos₂) % 64) := by
  refine ⟨slot_instant first 0, fun apart => ?_, fun apart k₁ k₂ => ?_⟩
  · have start := apart 0 0
    rw [slot_instant first, slot_instant second] at start
    omega
  · rw [slot_instant first, slot_instant second]
    omega

theorem instants_apart_same_time :
    ∃ delay₁ delay₂, Schedules (triangle.nodes 0) {} { draws := [1, 0] } 1 delay₁ ∧
    Schedules (triangle.nodes 1) {} { draws := [0, 0] } 0 delay₂ ∧ ∀ k₁ k₂,
      slot (instant { draws := [1, 0] } delay₁ k₁) % 64 ≠
      slot (instant { draws := [0, 0] } delay₂ k₂) % 64 := by
  have first : Schedules (triangle.nodes 0) {} { draws := [1, 0] } 1 8192 := ⟨_, _, rfl, rfl⟩
  have second : Schedules (triangle.nodes 1) {} { draws := [0, 0] } 0 4096 := ⟨_, _, rfl, rfl⟩
  refine ⟨_, _, first, second, (instants_apart _ _ _ _ _ _ _ _ _ _ first second).2.mpr ?_⟩
  decide

/-- Position 1 reserved in slot 0 and position 0 reserved one slot later are the same slot. -/
theorem instants_collide : ¬ ∀ (me₁ me₂ : SR) (st₁ st₂ : Statics) (input₁ input₂ : Input)
    (pos₁ pos₂ : Nat) (delay₁ delay₂ : UInt32), pos₁ ≠ pos₂ → Schedules me₁ st₁ input₁ pos₁ delay₁ →
    Schedules me₂ st₂ input₂ pos₂ delay₂ → ∀ k₁ k₂,
      slot (instant input₁ delay₁ k₁) % 64 ≠ slot (instant input₂ delay₂ k₂) % 64 := by
  intro all
  have first : Schedules (triangle.nodes 0) {} { draws := [1, 0] } 1 8192 := ⟨_, _, rfl, rfl⟩
  have second : Schedules (triangle.nodes 1) { generatorBitmap := 2, lastPosition := 1 }
      { draws := [0, 0], raw := 4096 } 0 4096 := ⟨_, _, rfl, rfl⟩
  exact all _ _ _ _ _ _ 1 0 8192 4096 (by decide) first second 0 0 (by decide)

end Reservation
end Srwsn
