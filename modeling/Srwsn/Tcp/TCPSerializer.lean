import Mathlib

/-! TCP segments from bytes. The parser reads memory from `buf` on and never looks at its size. -/
namespace Srwsn.TCPSerializer

structure TCPOption where
  kind : ℕ
  length : ℕ
  values : List ℕ

structure TCPSegment where
  srcPort : ℕ
  destPort : ℕ
  sequenceNo : ℕ
  ackNo : ℕ
  headerLength : ℕ
  urgBit : Bool
  ackBit : Bool
  pshBit : Bool
  rstBit : Bool
  synBit : Bool
  finBit : Bool
  window : ℕ
  urgentPointer : ℕ
  options : List TCPOption
  byteLength : ℕ
  payloadLength : ℕ

section Parse

variable (buf : ℕ → UInt8)

def numberAt (i : ℕ) : ℕ → ℕ
  | 0 => 0
  | n + 1 => numberAt i n * 256 + (buf (i + n)).toNat

/-- The options END_OF_OPTION_LIST and NO_OPERATION are single bytes. -/
def optionLength (i : ℕ) : ℕ := if (buf i).toNat ≤ 1 then 1 else (buf (i + 1)).toNat

def optionAt (i : ℕ) : TCPOption :=
  let length := optionLength buf i
  ⟨(buf i).toNat, length, (List.range ((length + 1) / 4)).map fun k =>
    numberAt buf (i + 2 + 4 * k) (min length (6 + 4 * k) - (2 + 4 * k))⟩

def hdrLength : ℕ := (buf 12).toNat / 16 * 4

def parseOptions : ℕ → ℕ → Option (List TCPOption)
  | 0, _ => none
  | fuel + 1, j =>
    if 20 + j < hdrLength buf then
      (parseOptions fuel (j + optionLength buf (20 + j))).map (optionAt buf (20 + j) :: ·)
    else some []

def parse (fuel bufsize : ℕ) : Option TCPSegment :=
  let flag (bit : ℕ) := (buf 13).toNat.testBit bit
  (parseOptions buf fuel 0).map fun options =>
    { srcPort := numberAt buf 0 2
      destPort := numberAt buf 2 2
      sequenceNo := numberAt buf 4 4
      ackNo := numberAt buf 8 4
      headerLength := hdrLength buf
      urgBit := flag 5, ackBit := flag 4, pshBit := flag 3, rstBit := flag 2, synBit :=
        flag 1, finBit := flag 0
      window := numberAt buf 14 2
      urgentPointer := numberAt buf 18 2
      options
      byteLength := bufsize
      payloadLength := (bufsize + 2 ^ 32 - hdrLength buf) % 2 ^ 32 }

def Placed (stop : ℕ) : ℕ → List TCPOption → Prop
  | _, [] => True
  | i, option :: rest => option = optionAt buf i ∧ i + option.length ≤ stop ∧
      Placed stop (i + option.length) rest

def Contained (bufsize : ℕ) : Prop := ∃ fuel seg, parse buf fuel bufsize = some seg ∧
  Placed buf seg.headerLength 20 seg.options ∧ seg.options.length ≤ 40

def Next (j j' : ℕ) : Prop := 20 + j < hdrLength buf ∧ j' = j + optionLength buf (20 + j)

/-- No option that is come to has length 0 or ends behind the header. -/
def Sound : Prop := ∀ j, Relation.ReflTransGen (Next buf) 0 j → 20 + j < hdrLength buf →
  0 < optionLength buf (20 + j) ∧ 20 + j + optionLength buf (20 + j) ≤ hdrLength buf

end Parse

variable {buf : ℕ → UInt8} {j : ℕ}

theorem parseOptions_stuck (inside : 20 + j < hdrLength buf) (stuck : optionLength buf (20 + j) = 0)
    (fuel : ℕ) : parseOptions buf fuel j = none := by
  induction fuel with
  | zero => rfl
  | succ fuel ih => rw [parseOptions, if_pos inside, stuck, Nat.add_zero, ih, Option.map_none]

theorem Sound.parseOptions (sound : Sound buf) (reached : Relation.ReflTransGen (Next buf) 0 j)
    (before : 20 + j ≤ max 20 (hdrLength buf)) :
    ∃ fuel options, parseOptions buf fuel j = some options ∧
      Placed buf (hdrLength buf) (20 + j) options ∧ options.length ≤ hdrLength buf - (20 + j) := by
  induction left : hdrLength buf - (20 + j) using Nat.strongRecOn generalizing j with
  | _ n ih =>
    by_cases inside : 20 + j < hdrLength buf
    · obtain ⟨some, ends⟩ := sound j reached inside
      obtain ⟨fuel, options, read, placed, few⟩ :=
        ih _ (by omega) (reached.tail ⟨inside, rfl⟩) (by omega) rfl
      refine ⟨fuel + 1, optionAt buf (20 + j) :: options, ?_, ⟨rfl, ends, ?_⟩, ?_⟩
      · rw [TCPSerializer.parseOptions, if_pos inside, read, Option.map_some]
      · rw [Nat.add_assoc]
        exact placed
      · rw [List.length_cons]
        omega
    · exact ⟨1, [], if_neg inside, trivial, Nat.zero_le _⟩

theorem sound_of_parseOptions {fuel : ℕ} {options : List TCPOption}
    (read : parseOptions buf fuel j = some options)
    (placed : Placed buf (hdrLength buf) (20 + j) options) {j' : ℕ}
    (reached : Relation.ReflTransGen (Next buf) j j')
    (inside : 20 + j' < hdrLength buf) :
    0 < optionLength buf (20 + j') ∧ 20 + j' + optionLength buf (20 + j') ≤ hdrLength buf := by
  induction fuel generalizing j options with
  | zero => cases read
  | succ fuel ih =>
    have here : 20 + j < hdrLength buf := by
      rcases reached.cases_head with rfl | ⟨_, next, -⟩
      · exact inside
      · exact next.1
    have some : 0 < optionLength buf (20 + j) := Nat.pos_of_ne_zero fun stuck => by
      rw [parseOptions_stuck here stuck] at read
      cases read
    rw [parseOptions, if_pos here] at read
    obtain ⟨rest, later, rfl⟩ := Option.map_eq_some_iff.mp read
    obtain ⟨-, ends, placed⟩ := placed
    rcases reached.cases_head with rfl | ⟨k, ⟨-, rfl⟩, reached⟩
    · exact ⟨some, ends⟩
    · rw [Nat.add_assoc] at placed
      exact ih later placed reached

/-- Every buffer is parsed, with the options inside the header, if and only if the lengths of the
options it comes to are sound. -/
theorem contained_iff_sound (buf : ℕ → UInt8) (bufsize : ℕ) :
    Contained buf bufsize ↔ Sound buf := by
  constructor
  · rintro ⟨fuel, seg, parsed, placed, -⟩ j reached inside
    obtain ⟨options, read, rfl⟩ := Option.map_eq_some_iff.mp parsed
    exact sound_of_parseOptions read placed reached inside
  · intro sound
    obtain ⟨fuel, options, read, placed, few⟩ := sound.parseOptions .refl (by omega)
    have short : hdrLength buf ≤ 60 := by
      have := (buf 12).toNat_lt
      unfold hdrLength
      omega
    exact ⟨fuel, _, congrArg (Option.map _) read, placed, Nat.le_trans few (by omega)⟩

/-- An option of length 0 is read for ever. -/
theorem parse_never_returns : ∃ buf, ∀ fuel bufsize, parse buf fuel bufsize = none :=
  ⟨fun i => if i = 12 then 0x60 else if i = 20 then 2 else 0, fun fuel _ => by
    rw [parse, parseOptions_stuck (by decide) (by decide), Option.map_none]⟩

end Srwsn.TCPSerializer
