import Srwsn.Tcp.Module

/-! The search for a free ephemeral port looks at every port of the range, the last one allocated at
the end, and stops. -/
namespace Srwsn
namespace TCP

/-- The loop of `getEphemeralPort` from `port`: it ends with a free port or with the error. A search
that never ends has no outcome here. -/
inductive Searches (used : List Int16) (searchUntil : Int16) :
    Int16 → Except DemuxFault Int16 → Prop
  | found {port} (free : port ∉ used) : Searches used searchUntil port (.ok port)
  | exhausted (taken : searchUntil ∈ used) :
      Searches used searchUntil searchUntil (.error .portsExhausted)
  | next {port outcome} (taken : port ∈ used) (before : port ≠ searchUntil)
      (rest : Searches used searchUntil (nextPort port) outcome) :
      Searches used searchUntil port outcome

def steps (port port' : Int16) : Nat := ((port'.toInt - port.toInt) % 3976).toNat

theorem isEphemeral_iff {port : Int} : isEphemeral port = true ↔ 1024 ≤ port ∧ port < 5000 := by
  simp [isEphemeral]

theorem toInt_nextPort {port : Int16} (range : isEphemeral port.toInt) :
    (nextPort port).toInt = if port.toInt = 4999 then 1024 else port.toInt + 1 := by
  rw [isEphemeral_iff] at range
  have succ : (port + 1).toInt = port.toInt + 1 := by
    rw [Int16.toInt_add, show (1 : Int16).toInt = 1 from rfl, Int.bmod_eq_of_le] <;> omega
  have wraps : port + 1 = 5000 ↔ port.toInt = 4999 := by
    rw [← Int16.toInt_inj, succ, show (5000 : Int16).toInt = 5000 from rfl]
    omega
  unfold nextPort
  split <;> simp_all

theorem isEphemeral_nextPort {port : Int16} (range : isEphemeral port.toInt) :
    isEphemeral (nextPort port).toInt := by
  have next := toInt_nextPort range
  rw [isEphemeral_iff] at range ⊢
  split at next <;> omega

theorem steps_nextPort {port port' : Int16} (range : isEphemeral port.toInt)
    (range' : isEphemeral port'.toInt) (before : port' ≠ port) :
    steps port port' = steps (nextPort port) port' + 1 := by
  have next := toInt_nextPort range
  have apart : port'.toInt ≠ port.toInt := fun same => before (Int16.toInt_inj.mp same)
  rw [isEphemeral_iff] at range range'
  unfold steps
  split at next <;> omega

theorem searchPort_spec (used : List Int16) {searchUntil : Int16}
    (last : isEphemeral searchUntil.toInt) (fuel : Nat) (port : Int16)
    (range : isEphemeral port.toInt) (enough : steps port searchUntil < fuel) :
    Searches used searchUntil port (searchPort used searchUntil fuel port) ∧
      ((∃ free, searchPort used searchUntil fuel port = .ok free ∧ isEphemeral free.toInt ∧
        free ∉ used) ∨
        (searchPort used searchUntil fuel port = .error .portsExhausted ∧ ∀ port' : Int16,
          isEphemeral port'.toInt → steps port port' ≤ steps port searchUntil → port' ∈ used)) := by
  induction fuel generalizing port with
  | zero => omega
  | succ fuel ih =>
    by_cases taken : port ∈ used
    · by_cases here : port = searchUntil
      · subst here
        rw [searchPort, if_pos taken, if_pos rfl]
        refine ⟨.exhausted taken, .inr ⟨rfl, fun port' range' near => ?_⟩⟩
        by_contra unused
        have := steps_nextPort range range' fun same => unused (same ▸ taken)
        simp [steps] at near this
        omega
      · have step := steps_nextPort range last (Ne.symm here)
        obtain ⟨rest, outcome⟩ := ih (nextPort port) (isEphemeral_nextPort range) (by omega)
        rw [searchPort, if_pos taken, if_neg here]
        refine ⟨.next taken here rest, outcome.imp_right fun ⟨failed, all⟩ => ⟨failed, ?_⟩⟩
        intro port' range' near
        by_contra unused
        have := steps_nextPort range range' fun same => unused (same ▸ taken)
        exact unused (all port' range' (by omega))
    · rw [searchPort, if_neg taken]
      exact ⟨.found taken, .inl ⟨port, rfl, range, taken⟩⟩

theorem getEphemeralPort_complete (s : TCP) (range : isEphemeral s.lastEphemeralPort.toInt) :
    Searches s.usedEphemeralPorts s.lastEphemeralPort (nextPort s.lastEphemeralPort)
    (s.getEphemeralPort.map Prod.fst) ∧
      (∀ port s', s.getEphemeralPort = .ok (port, s') → isEphemeral port.toInt ∧
        port ∉ s.usedEphemeralPorts) ∧
      ((∃ port : Int16, isEphemeral port.toInt ∧ port ∉ s.usedEphemeralPorts) →
        ∃ found, s.getEphemeralPort = .ok found) ∧ (s.getEphemeralPort = .error .portsExhausted ↔
        ∀ port : Int16, isEphemeral port.toInt → port ∈ s.usedEphemeralPorts) := by
  have first := isEphemeral_nextPort range
  have left : steps (nextPort s.lastEphemeralPort) s.lastEphemeralPort = 3975 := by
    have next := toInt_nextPort range
    rw [isEphemeral_iff] at range
    unfold steps
    split at next <;> omega
  obtain ⟨ends, ⟨free, found, inside, unused⟩ | ⟨failed, all⟩⟩ :=
    searchPort_spec s.usedEphemeralPorts range 3976 _ first (by omega)
  · have result : s.getEphemeralPort = .ok (free, { s with lastEphemeralPort := free }) := by
      simp [getEphemeralPort, found]
    rw [found] at ends
    simp only [result, Except.ok.injEq, Prod.mk.injEq]
    refine ⟨ends, ?_, fun _ => ⟨_, rfl⟩, nofun, fun all => absurd (all free inside) unused⟩
    rintro port s' ⟨rfl, -⟩
    exact ⟨inside, unused⟩
  · have result : s.getEphemeralPort = .error .portsExhausted := by
      simp [getEphemeralPort, failed]
    have full (port : Int16) (inside : isEphemeral port.toInt) : port ∈ s.usedEphemeralPorts :=
      all port inside (by rw [left]; unfold steps; omega)
    rw [failed] at ends
    simp only [result]
    refine ⟨ends, nofun, ?_, fun _ => full, fun _ => trivial⟩
    rintro ⟨port, inside, unused⟩
    exact absurd (full port inside) unused

def portsInUse : TCP :=
  { start Window.defaults with
    lastEphemeralPort := 4999, usedEphemeralPorts := [1025, 4999, 1024, 1024] }

theorem getEphemeralPort_complete_wraps : isEphemeral portsInUse.lastEphemeralPort.toInt ∧
    Searches portsInUse.usedEphemeralPorts 4999 1024 (.ok 1026) ∧
      ∃ s', portsInUse.getEphemeralPort = .ok (1026, s') ∧
      (1026 : Int16) ∉ portsInUse.usedEphemeralPorts := by
  obtain ⟨ends, free, -⟩ := getEphemeralPort_complete portsInUse (by decide)
  exact ⟨by decide, ends, _, rfl, (free 1026 _ rfl).2⟩

end TCP
end Srwsn
