import Srwsn.Dymo.Handling

/-! The order of routes. What a node records is no worse than what it had, and what it sends is no
better. -/
namespace Srwsn.DYMO

open Outcome AddressBlock List

/-- Routes in the order of their freshness, and those as fresh as each other by their distances. -/
def rank (seqNum dist : ℕ) : ℕ ×ₗ ℕᵒᵈ := toLex (seqNum, OrderDual.toDual dist)

theorem rank_le {seqNum dist seqNum' dist' : ℕ} :
    rank seqNum dist ≤ rank seqNum' dist' ↔ seqNum < seqNum' ∨ seqNum = seqNum' ∧ dist' ≤ dist :=
  Prod.Lex.toLex_le_toLex

theorem rank_lt {seqNum dist seqNum' dist' : ℕ} :
    rank seqNum dist < rank seqNum' dist' ↔ seqNum < seqNum' ∨ seqNum = seqNum' ∧ dist' < dist :=
  Prod.Lex.toLex_lt_toLex

theorem rank_further (seqNum dist : ℕ) : rank seqNum (dist + 1) < rank seqNum dist :=
  Prod.Lex.toLex_lt_toLex.mpr (.inr ⟨rfl, Nat.lt_succ_self dist⟩)

def RoutingEntry.rank (entry : RoutingEntry) : ℕ ×ₗ ℕᵒᵈ :=
  DYMO.rank entry.routeSeqNum.toNat entry.routeDist.toNat

/-- The block is about a host, has a distance, and a sequence number that stays comparable. -/
structure AddressBlock.Plain (ab : AddressBlock) : Prop where
  host : ab.prefixOr32 = 32
  dist : ab.dist.isSome
  seqNum : ∀ seqNum, ab.seqNum = some seqNum → 1 ≤ seqNum.toNat ∧ seqNum.toNat ≤ 0x7fff

variable {ab : AddressBlock} {seqNum : UInt16}

theorem plain_of (host : ab.prefixOr32 = 32) (dist : ab.dist.isSome)
    (has : ab.seqNum = some seqNum) (range : 1 ≤ seqNum.toNat ∧ seqNum.toNat ≤ 0x7fff) : ab.Plain :=
  ⟨host, dist, fun other same => by cases has.symm.trans same; exact range⟩

theorem AddressBlock.plain_iff : ab.Plain ↔ ab.prefixOr32 = 32 ∧ ab.dist.isSome ∧
    ab.seqNum.all fun seqNum => decide (1 ≤ seqNum.toNat ∧ seqNum.toNat ≤ 0x7fff) := by
  constructor
  · rintro ⟨host, dist, range⟩
    refine ⟨host, dist, ?_⟩
    cases has : ab.seqNum with
    | none => rfl
    | some seqNum => exact decide_eq_true (range seqNum has)
  · rintro ⟨host, dist, range⟩
    refine ⟨host, dist, fun seqNum has => ?_⟩
    rw [has] at range
    exact of_decide_eq_true range

instance : Decidable ab.Plain := decidable_of_iff' _ plain_iff

structure RoutingEntry.Plain (entry : RoutingEntry) : Prop where
  host : entry.routePrefix = 32
  near : 1 ≤ entry.routeDist.toNat ∧ entry.routeDist.toNat ≤ 256
  seqNum : 1 ≤ entry.routeSeqNum.toNat ∧ entry.routeSeqNum.toNat ≤ 0x7fff

theorem AddressBlock.nodeDist_toNat {dist : UInt8} (has : ab.dist = some dist) :
    ab.nodeDist.toNat = dist.toNat + 1 := by
  have small := dist.toNat_lt
  rw [nodeDist, has, UInt32.toNat_add, UInt8.toNat_toUInt32]
  exact Nat.mod_eq_of_lt (by simp; omega)

theorem AddressBlock.Plain.toEntry (plain : ab.Plain)
    (has : ab.seqNum = some seqNum) (hop : UInt32) : (ab.toEntry hop seqNum).Plain := by
  obtain ⟨dist, near⟩ := Option.isSome_iff_exists.mp plain.dist
  have small := dist.toNat_lt
  refine ⟨plain.host, ?_, ?_⟩
  · rw [AddressBlock.toEntry, nodeDist_toNat near]
    omega
  · rw [AddressBlock.toEntry, UInt16.toNat_toUInt32]
    exact plain.seqNum seqNum has

theorem toInt_eq {seqNum : UInt32} (small : seqNum.toNat ≤ 0xffff) : seqNum.toUInt16.toInt16.toInt =
      if seqNum.toNat ≤ 0x7fff then (seqNum.toNat : ℤ) else seqNum.toNat - 0x10000 := by
  have read : seqNum.toUInt16.toBitVec.toNat = seqNum.toNat := by
    rw [UInt16.toNat_toBitVec, UInt32.toNat_toUInt16]
    exact Nat.mod_eq_of_lt (by omega)
  change seqNum.toUInt16.toBitVec.toInt = _
  rw [BitVec.toInt_eq_toNat_cond, read]
  split_ifs <;> omega

variable {entry : RoutingEntry}

theorem RoutingEntry.Plain.routeDist_toInt (plain : entry.Plain) :
    entry.routeDist.toInt32.toInt = entry.routeDist.toNat := by
  have near : 2 * entry.routeDist.toBitVec.toNat < 2 ^ 32 := by
    have := plain.near.2
    rw [UInt32.toNat_toBitVec]
    omega
  exact BitVec.toInt_eq_toNat_of_lt near

theorem seqNumIsFresher_iff {seqNum reference : UInt32} (small : seqNum.toNat ≤ 0x7fff)
    (small' : reference.toNat ≤ 0x7fff) : seqNumIsFresher seqNum reference = true ↔
    reference.toNat < seqNum.toNat := by
  rw [seqNumIsFresher, decide_eq_true_iff, toInt_eq (by omega), toInt_eq (by omega)]
  split_ifs
  omega

section Increments

variable {n : Node}

theorem incSeqNum_toNat (small : n.ownSeqNum.toNat ≤ 0xffff) :
    n.incSeqNum.ownSeqNum.toNat = if n.ownSeqNum.toNat = 0xffff then 0x100
    else n.ownSeqNum.toNat + 1 := by
  have same : n.ownSeqNum = 0xffff ↔ n.ownSeqNum.toNat = 0xffff := UInt32.toNat_inj.symm
  simp only [Node.incSeqNum, same]
  split
  · rfl
  · rw [UInt32.toNat_add]
    exact Nat.mod_eq_of_lt (by simp; omega)

theorem incSeqNum_iterate_toNat (small : n.ownSeqNum.toNat ≤ 0xffff) {k : ℕ} (few : k ≤ 32000) :
    (Node.incSeqNum^[k] n).ownSeqNum.toNat =
      if n.ownSeqNum.toNat + k ≤ 0xffff then n.ownSeqNum.toNat + k
      else n.ownSeqNum.toNat + k - 0xff00 := by
  induction k with
  | zero => simp [small]
  | succ k ih =>
    have before := ih (by omega)
    rw [Function.iterate_succ_apply', incSeqNum_toNat (by split_ifs at before <;> omega), before]
    split_ifs <;> omega

/-- A later number is fresher, unless it has become negative as a 16 bit integer on the way. -/
theorem incSeqNum_iterate_fresher_iff (small : n.ownSeqNum.toNat ≤ 0xffff) {k : ℕ} (later : 1 ≤ k)
    (few : k ≤ 32000) : (seqNumIsFresher (Node.incSeqNum^[k] n).ownSeqNum n.ownSeqNum = true ∧
      seqNumIsFresher n.ownSeqNum (Node.incSeqNum^[k] n).ownSeqNum = false) ↔
    (n.ownSeqNum.toNat ≤ 0x7fff → n.ownSeqNum.toNat + k ≤ 0x7fff) := by
  have after := incSeqNum_iterate_toNat small few
  have small' : (Node.incSeqNum^[k] n).ownSeqNum.toNat ≤ 0xffff := by split_ifs at after <;> omega
  simp only [seqNumIsFresher, decide_eq_true_iff, decide_eq_false_iff_not, toInt_eq small,
    toInt_eq small', after]
  split_ifs <;> omega

theorem incSeqNum_iterate_wraps :
    seqNumIsFresher 0x0102 0xffff = true ∧ seqNumIsFresher 0xffff 0x0102 = false :=
  (@incSeqNum_iterate_fresher_iff { myAddr := 1, ownSeqNum := 0xffff } (by decide) 3 (by decide)
    (by decide)).mpr (by decide)

theorem incSeqNum_not_fresher : let n : Node := { myAddr := 1, ownSeqNum := 0x7fff }
    seqNumIsFresher n.incSeqNum.ownSeqNum n.ownSeqNum = false ∧
      seqNumIsFresher n.ownSeqNum n.incSeqNum.ownSeqNum = true := by
  decide

end Increments

theorem rank_le_of_isSuperior (plain : entry.Plain) {nodeDist : ℕ} {isRREQ : Bool}
    (small : seqNum.toNat ≤ 0x7fff)
    (superior : isSuperior entry seqNum nodeDist entry.routeDist.toInt32.toInt isRREQ = true) :
    entry.rank ≤ rank seqNum.toNat nodeDist := by
  have read : seqNum.toUInt32.toNat = seqNum.toNat := UInt16.toNat_toUInt32 seqNum
  apply rank_le.mpr
  unfold isSuperior at superior
  split at superior
  case isTrue => cases superior
  case isFalse fresh =>
    rw [seqNumIsFresher_iff plain.seqNum.2 (read.trans_le small), read] at fresh
    split at superior
    case isTrue same =>
      have inferior : ¬ (nodeDist : ℤ) > entry.routeDist.toInt32.toInt := by
        intro further
        simp [further] at superior
      rw [plain.routeDist_toInt] at inferior
      exact .inr ⟨by rw [← same, read], by omega⟩
    case isFalse other =>
      refine .inl (lt_of_le_of_ne (not_lt.mp fresh) fun same => other ?_)
      exact UInt32.toNat_inj.mp (read.trans same.symm)

variable {addr : UInt32}

theorem prefixMatches_host {addr' : UInt32} : IPAddress.prefixMatches addr addr' 32 = true ↔
    addr = addr' := by
  simp [IPAddress.prefixMatches]

variable {table : List RoutingEntry} {k : Nat} {longestPrefix : Int}

theorem longestMatch_ne_none
    {found : Nat × RoutingEntry} : longestMatch addr table k longestPrefix (some found) ≠ none := by
  induction table generalizing k longestPrefix found with
  | nil => exact Option.some_ne_none found
  | cons e rest ih =>
    rw [longestMatch]
    split <;> exact ih

theorem longestMatch_none
    (look : longestMatch addr table k longestPrefix none = none) (entry : RoutingEntry)
    (inside : entry ∈ table) :
    ¬ (entry.routePrefix > longestPrefix ∧
      IPAddress.prefixMatches addr entry.routeAddress entry.routePrefix) := by
  induction table generalizing k with
  | nil => cases inside
  | cons e rest ih =>
    rw [longestMatch] at look
    split at look
    case isTrue => exact absurd look longestMatch_ne_none
    case isFalse other =>
      rcases mem_cons.mp inside with rfl | inside
      · exact other
      · exact ih look inside

theorem AddressBlock.ne_of_fits (fits : ab.overflows = false) (dist : UInt8)
    (has : ab.dist = some dist) : dist ≠ 0xFF := by
  rintro rfl
  rw [overflows, has] at fits
  cases fits

def RM.Fits (msg : RM) : Prop := ∀ dist, msg.origNode.dist = some dist → dist ≠ 0xFF

theorem fits_incremented {msg : RM} (fits : ab.overflows = false)
    (orig : msg.origNode = ab.incremented) : msg.Fits := by
  intro dist has
  rw [orig] at has
  obtain ⟨old, had, rfl⟩ := Option.map_eq_some_iff.mp has
  rw [overflows, had] at fits
  intro full
  have last : old = 0xFE := by
    rw [← add_sub_cancel_right old 1, full]
    rfl
  rw [last] at fits
  cases fits

namespace Node

variable {n n' : Node}

structure Tidy (n : Node) : Prop where
  plain : ∀ entry ∈ n.routingTable, entry.Plain
  distinct : (n.routingTable.map RoutingEntry.routeAddress).Nodup

variable {entry : RoutingEntry} {seqNum : UInt16} {hop : UInt32} {addr : UInt32} {i : Nat}

theorem Tidy.getForAddress_some (tidy : n.Tidy)
    (look : getForAddress n.routingTable addr = some (i, entry)) :
    n.routingTable[i]? = some entry ∧ entry.routeAddress = addr := by
  obtain ⟨at_i, agrees⟩ := getForAddress_found look
  rw [(tidy.plain entry (mem_of_getElem? at_i)).host] at agrees
  exact ⟨at_i, (prefixMatches_host.mp agrees).symm⟩

theorem Tidy.getForAddress_none (tidy : n.Tidy)
    (look : getForAddress n.routingTable addr = none) (entry : RoutingEntry)
    (inside : entry ∈ n.routingTable) :
    entry.routeAddress ≠ addr := by
  intro same
  have host := (tidy.plain entry inside).host
  apply longestMatch_none look entry inside
  rw [host]
  exact ⟨by decide, prefixMatches_host.mpr same.symm⟩

def Grown (n n' : Node) : Prop :=
  ∀ entry ∈ n.routingTable, ∃ entry' ∈ n'.routingTable,
    entry'.routeAddress = entry.routeAddress ∧ entry.rank ≤ entry'.rank

theorem Grown.refl (n : Node) : Grown n n := fun entry inside => ⟨entry, inside, rfl, le_rfl⟩

variable {n₁ : Node}

theorem Grown.trans (h : Grown n n₁) (h' : Grown n₁ n') : Grown n n' := by
  intro entry inside
  obtain ⟨entry₁, inside₁, same₁, better₁⟩ := h entry inside
  obtain ⟨entry', inside', same', better'⟩ := h' entry₁ inside₁
  exact ⟨entry', inside', same'.trans same₁, better₁.trans better'⟩

def Follows (n : Node) (ab : AddressBlock) : Prop :=
  ∃ entry ∈ n.routingTable, entry.routeAddress = ab.address ∧ ∀ seqNum dist,
    ab.seqNum = some seqNum → ab.dist = some dist → rank seqNum.toNat (dist.toNat + 1) ≤ entry.rank

variable {ab : AddressBlock}

theorem Follows.grown (follows : n.Follows ab) (grown : Grown n n') : n'.Follows ab := by
  obtain ⟨entry, inside, same, better⟩ := follows
  obtain ⟨entry', inside', same', better'⟩ := grown entry inside
  exact ⟨entry', inside', same'.trans same, fun seqNum dist has near =>
    (better seqNum dist has near).trans better'⟩

theorem rank_toEntry {dist : UInt8} (near : ab.dist = some dist)
    (hop : UInt32) : (ab.toEntry hop seqNum).rank = rank seqNum.toNat (dist.toNat + 1) := by
  rw [RoutingEntry.rank, toEntry, nodeDist_toNat near, UInt16.toNat_toUInt32]

theorem follows_toEntry (has : ab.seqNum = some seqNum) (hop : UInt32)
    (inside : ab.toEntry hop seqNum ∈ n.routingTable) : n.Follows ab := by
  refine ⟨_, inside, rfl, fun seqNum' dist has' near => ?_⟩
  cases has.symm.trans has'
  exact (rank_toEntry near hop).ge

structure Recorded (n n' : Node) : Prop where
  tidy : n'.Tidy
  grown : Grown n n'

theorem recorded_new (tidy : n.Tidy) (plain : ab.Plain)
    (has : ab.seqNum = some seqNum) (hop : UInt32)
    (look : getForAddress n.routingTable ab.address = none) :
    Recorded n (n.learn ab (n.routingTable ++ [ab.toEntry hop seqNum])) where
  tidy.plain entry inside := by
    rcases mem_snoc inside with old | rfl
    · exact tidy.plain entry old
    · exact plain.toEntry has hop
  tidy.distinct := by
    rw [learn_routingTable, map_append]
    apply List.Nodup.append tidy.distinct (nodup_singleton _)
    intro addr old new
    obtain ⟨entry, inside, rfl⟩ := List.mem_map.mp old
    exact tidy.getForAddress_none look entry inside (mem_singleton.mp new)
  grown entry inside := ⟨entry, mem_append_left _ inside, rfl, le_rfl⟩

theorem recorded_better (tidy : n.Tidy) (plain : ab.Plain) (has : ab.seqNum = some seqNum)
    (hop : UInt32) (at_i : n.routingTable[i]? = some entry) (same : entry.routeAddress = ab.address)
    (better : entry.rank ≤ (ab.toEntry hop seqNum).rank) :
    Recorded n (n.learn ab (n.routingTable.set i (ab.toEntry hop seqNum))) where
  tidy.plain entry inside := by
    rcases mem_or_eq_of_mem_set inside with old | rfl
    · exact tidy.plain entry old
    · exact plain.toEntry has hop
  tidy.distinct := by
    have kept : (n.routingTable.map RoutingEntry.routeAddress)[i]? = some ab.address := by
      rw [getElem?_map, at_i, Option.map_some, same]
    obtain ⟨bound, kept⟩ := List.getElem?_eq_some_iff.mp kept
    have unchanged := set_getElem_self bound
    rw [kept] at unchanged
    rw [learn_routingTable, map_set]
    exact unchanged.symm ▸ tidy.distinct
  grown e inside := by
    obtain ⟨j, at_j⟩ := mem_iff_getElem?.mp inside
    by_cases here : i = j
    · subst here
      cases at_i.symm.trans at_j
      exact ⟨_, mem_set (List.getElem?_eq_some_iff.mp at_i).1 _, same.symm, better⟩
    · exact ⟨e, mem_of_getElem? ((getElem?_set_ne here).trans at_j), rfl, le_rfl⟩

theorem Recorded.refl (tidy : n.Tidy) : Recorded n n := ⟨tidy, Grown.refl n⟩

theorem recorded_block (tidy : n.Tidy) (plain : ab.Plain) {isRREQ kept : Bool}
    (done : n.updateRoutesFromAddressBlock ab isRREQ hop = .ok (n', kept)) :
    Recorded n n' ∧ (kept = true → n'.Follows ab) := by
  obtain ⟨seqNum, has, ⟨look, -, rfl⟩ | ⟨i, entry, look, judged, rfl⟩⟩ :=
    updateRoutesFromAddressBlock_cases done
  · refine ⟨recorded_new tidy plain has hop look, fun _ => follows_toEntry has hop ?_⟩
    exact mem_append_right _ (mem_singleton_self _)
  · cases kept with
    | false => exact ⟨Recorded.refl tidy, fun no => by cases no⟩
    | true =>
      obtain ⟨at_i, same⟩ := tidy.getForAddress_some look
      obtain ⟨dist, near⟩ := Option.isSome_iff_exists.mp plain.dist
      have better := rank_le_of_isSuperior (tidy.plain entry (mem_of_getElem? at_i))
        (plain.seqNum seqNum has).2 judged.symm
      rw [nodeDist_toNat near, ← rank_toEntry near hop] at better
      refine ⟨recorded_better tidy plain has hop at_i same better,
        fun _ => follows_toEntry has hop ?_⟩
      exact mem_set (List.getElem?_eq_some_iff.mp at_i).1 _

theorem Recorded.trans (h : Recorded n n₁) (h' : Recorded n₁ n') : Recorded n n' :=
  ⟨h'.tidy, h.grown.trans h'.grown⟩

theorem recorded_additional (tidy : n.Tidy) {isRREQ : Bool} {nodes : List AddressBlock}
    (plain : ∀ ab ∈ nodes, ab.Plain) {kept : Option (List AddressBlock)}
    (done : updateAdditionalNodes isRREQ hop n nodes = .ok (n', kept)) :
    Recorded n n' ∧ ∀ blocks, kept = some blocks → ∀ ab ∈ blocks, n'.Follows ab := by
  induction nodes generalizing n n' kept with
  | nil =>
    cases done
    refine ⟨Recorded.refl tidy, fun blocks all ab inside => ?_⟩
    cases all
    cases inside
  | cons ab rest ih =>
    obtain ⟨plain_ab, plain_rest⟩ := forall_mem_cons.mp plain
    rw [updateAdditionalNodes] at done
    split at done
    case isTrue =>
      cases done
      exact ⟨Recorded.refl tidy, fun blocks all => by cases all⟩
    case isFalse =>
      obtain ⟨⟨n₁, superior⟩, first, done⟩ := bind_eq_ok done
      obtain ⟨⟨n₂, kept₂⟩, later, same⟩ := map_eq_ok done
      cases same
      obtain ⟨recorded, follows⟩ := recorded_block tidy plain_ab first
      obtain ⟨recorded₂, follows₂⟩ := ih recorded.tidy plain_rest later
      refine ⟨recorded.trans recorded₂, fun blocks all => ?_⟩
      obtain ⟨blocks₂, rfl, rfl⟩ := Option.map_eq_some_iff.mp all
      cases superior with
      | false => exact follows₂ blocks₂ rfl
      | true =>
        exact forall_mem_cons.mpr ⟨(follows rfl).grown recorded₂.grown, follows₂ blocks₂ rfl⟩

variable {heard : Option RM}

theorem recorded_updateRoutes (tidy : n.Tidy) {pkt : RM} (plain : ∀ ab ∈ pkt.blocks, ab.Plain)
    (done : n.updateRoutes pkt hop = .ok (n', heard)) :
    Recorded n n' ∧ ∀ kept, heard = some kept → ∀ ab ∈ kept.blocks, n'.Follows ab := by
  obtain ⟨plain_orig, plain_rest⟩ := forall_mem_cons.mp plain
  unfold updateRoutes at done
  split at done
  case isTrue =>
    cases done
    exact ⟨Recorded.refl tidy, fun kept all => by cases all⟩
  case isFalse =>
    obtain ⟨⟨n₁, superior⟩, first, done⟩ := bind_eq_ok done
    obtain ⟨⟨n₂, nodes⟩, later, same⟩ := map_eq_ok done
    cases same
    obtain ⟨recorded, follows⟩ := recorded_block tidy plain_orig first
    obtain ⟨recorded₂, follows₂⟩ := recorded_additional recorded.tidy plain_rest later
    refine ⟨recorded.trans recorded₂, fun kept goes_on => ?_⟩
    cases superior with
    | false => cases goes_on
    | true =>
      obtain ⟨blocks, rfl, rfl⟩ := Option.map_eq_some_iff.mp goes_on
      exact forall_mem_cons.mpr ⟨(follows rfl).grown recorded₂.grown, follows₂ blocks rfl⟩

theorem Tidy.unique (tidy : n.Tidy) {entry' : RoutingEntry} (inside : entry ∈ n.routingTable)
    (inside' : entry' ∈ n.routingTable) (same : entry.routeAddress = entry'.routeAddress) :
    entry = entry' :=
  inj_on_of_nodup_map tidy.distinct inside inside' same

theorem Tidy.look (tidy : n.Tidy) (inside : entry ∈ n.routingTable) :
    ∃ i, getForAddress n.routingTable entry.routeAddress = some (i, entry) := by
  cases look : getForAddress n.routingTable entry.routeAddress with
  | none => exact absurd rfl (tidy.getForAddress_none look entry inside)
  | some found =>
    obtain ⟨at_i, same⟩ := tidy.getForAddress_some look
    exact ⟨found.1, by rw [tidy.unique inside (mem_of_getElem? at_i) same.symm]⟩

structure Alike (n n' : Node) : Prop where
  toParameters : n'.toParameters = n.toParameters
  myAddr : n'.myAddr = n.myAddr
  ownSeqNum : n'.ownSeqNum = n.ownSeqNum
  ownSeqNumLossTimeout : n'.ownSeqNumLossTimeout = n.ownSeqNumLossTimeout
  outstanding : n'.outstandingRREQList.Sublist n.outstandingRREQList

theorem Alike.refl (n : Node) : Alike n n := ⟨rfl, rfl, rfl, rfl, List.Sublist.refl _⟩

theorem Alike.trans (h : Alike n n₁) (h' : Alike n₁ n') : Alike n n' :=
  ⟨h'.toParameters.trans h.toParameters, h'.myAddr.trans h.myAddr, h'.ownSeqNum.trans h.ownSeqNum,
    h'.ownSeqNumLossTimeout.trans h.ownSeqNumLossTimeout, h'.outstanding.trans h.outstanding⟩

theorem alike_learn {table : List RoutingEntry} : Alike n (n.learn ab table) :=
  ⟨rfl, rfl, rfl, rfl, eraseP_sublist⟩

structure Stays (addrs : List UInt32) (n n' : Node) : Prop where
  tidy : n'.Tidy
  alike : Alike n n'
  others : ∀ entry ∈ n.routingTable, entry.routeAddress ∉ addrs → entry ∈ n'.routingTable

theorem Stays.trans {first rest : List UInt32} (h : Stays first n n₁) (h' : Stays rest n₁ n') :
    Stays (first ++ rest) n n' where
  tidy := h'.tidy
  alike := h.alike.trans h'.alike
  others entry inside other := by
    rw [mem_append, not_or] at other
    exact h'.others entry (h.others entry inside other.1) other.2

theorem stays_block (tidy : n.Tidy) (plain : ab.Plain) (has : ab.seqNum = some seqNum)
    (isRREQ : Bool) (hop : UInt32) :
    ∃ n' kept, n.updateRoutesFromAddressBlock ab isRREQ hop = .ok (n', kept) ∧
      Stays [ab.address] n n' ∧ ((∀ entry ∈ n.routingTable, entry.routeAddress = ab.address →
          isSuperior entry seqNum ab.nodeDist.toNat entry.routeDist.toInt32.toInt isRREQ = true) →
        kept = true ∧ ab.toEntry hop seqNum ∈ n'.routingTable) := by
  have read := getSeqNum_eq_ok.mpr has
  cases look : getForAddress n.routingTable ab.address with
  | none =>
    have done : n.updateRoutesFromAddressBlock ab isRREQ hop =
        .ok (n.learn ab (n.routingTable ++ [ab.toEntry hop seqNum]), true) := by
      simp only [updateRoutesFromAddressBlock, look, read]
      rfl
    refine ⟨_, true, done, ⟨(recorded_block tidy plain done).1.tidy, alike_learn, ?_⟩,
      fun _ => ⟨rfl, ?_⟩⟩
    · exact fun entry inside _ => mem_append_left _ inside
    · exact mem_append_right _ (mem_singleton_self _)
  | some found =>
    obtain ⟨i, old⟩ := found
    obtain ⟨at_i, same⟩ := tidy.getForAddress_some look
    have done : n.updateRoutesFromAddressBlock ab isRREQ hop =
        if isSuperior old seqNum ab.nodeDist.toNat old.routeDist.toInt32.toInt isRREQ then
          .ok (n.learn ab (n.routingTable.set i (ab.toEntry hop seqNum)), true)
            else .ok (n, false) := by
      simp only [updateRoutesFromAddressBlock, look, isRBlockBetter, read]
      rfl
    by_cases superior : isSuperior old seqNum ab.nodeDist.toNat old.routeDist.toInt32.toInt isRREQ =
      true
    · rw [if_pos superior] at done
      refine ⟨_, true, done, ⟨(recorded_block tidy plain done).1.tidy, alike_learn, ?_⟩,
        fun _ => ⟨rfl, ?_⟩⟩
      · intro entry inside other
        obtain ⟨j, at_j⟩ := mem_iff_getElem?.mp inside
        have elsewhere : i ≠ j := by
          rintro rfl
          cases at_i.symm.trans at_j
          exact other (mem_singleton.mpr same)
        exact mem_of_getElem? ((getElem?_set_ne elsewhere).trans at_j)
      · exact mem_set (List.getElem?_eq_some_iff.mp at_i).1 _
    · rw [if_neg superior] at done
      refine ⟨n, false, done, ⟨tidy, Alike.refl n, fun entry inside _ => inside⟩, fun all => ?_⟩
      exact absurd (all old (mem_of_getElem? at_i) same) superior

def Backs (n : Node) (ab : AddressBlock) : Prop :=
  ab.address = n.myAddr ∨ ∃ entry ∈ n.routingTable, entry.routeAddress = ab.address ∧
    ∀ seqNum dist, ab.seqNum = some seqNum → ab.dist = some dist → rank seqNum.toNat dist.toNat ≤
    entry.rank

theorem Backs.grown (backs : n.Backs ab) (myAddr : n'.myAddr = n.myAddr) (grown : Grown n n') :
    n'.Backs ab := by
  rcases backs with own | ⟨entry, inside, same, better⟩
  · exact .inl (own.trans myAddr.symm)
  · obtain ⟨entry', inside', same', better'⟩ := grown entry inside
    refine .inr ⟨entry', inside', same'.trans same, fun seqNum dist has near => ?_⟩
    exact (better seqNum dist has near).trans better'

theorem backs_own : n.Backs n.ownBlock := .inl rfl

theorem Follows.backs {ab' : AddressBlock} (follows : n.Follows ab)
    (fits : ∀ dist, ab.dist = some dist → dist ≠ 0xFF) (address : ab'.address = ab.address)
    (seqNum : ab'.seqNum = ab.seqNum) (dist : ab'.dist = ab.dist.map (· + 1)) :
    n.Backs ab' := by
  obtain ⟨entry, inside, same, better⟩ := follows
  refine .inr ⟨entry, inside, same.trans address.symm, fun number far has near => ?_⟩
  obtain ⟨old, had, rfl⟩ := Option.map_eq_some_iff.mp (dist ▸ near)
  have step : (old + 1).toNat = old.toNat + 1 := by
    have bound := old.toNat_lt
    have other : old.toNat ≠ 255 := fun full => fits old had (UInt8.toNat_inj.mp full)
    rw [UInt8.toNat_add]
    exact Nat.mod_eq_of_lt (by simp; omega)
  rw [step]
  exact better number old (seqNum ▸ has) had

theorem Follows.backs_incremented (follows : n.Follows ab) (fits : ab.overflows = false) :
    n.Backs ab.incremented :=
  follows.backs (ne_of_fits fits) rfl rfl rfl

theorem backs_target (inside : entry ∈ n.routingTable) (plain : entry.Plain)
    (near : entry.routeDist.toNat ≤ 255) : n.Backs (targetBlock entry) := by
  refine .inr ⟨entry, inside, rfl, fun seqNum dist has fits => ?_⟩
  obtain ⟨-, number⟩ := Option.ite_none_left_eq_some.mp has
  obtain ⟨-, distance⟩ := Option.ite_none_left_eq_some.mp fits
  cases number
  cases distance
  have small := plain.seqNum.2
  rw [UInt32.toNat_toUInt16, UInt32.toNat_toUInt8, Nat.mod_eq_of_lt (by omega),
    Nat.mod_eq_of_lt (by omega)]
  exact le_rfl

variable {msg : RM}

theorem fits_own (orig : msg.origNode = n.ownBlock) : msg.Fits := by
  intro dist has
  rw [orig] at has
  cases has
  decide

/-- An intermediate router answers with routes whose distance fits into a block. -/
def AnswersNear (n : Node) (heard : Option RM) : Prop :=
  ∀ pkt entry, heard = some pkt → pkt.kind = .RREQ → n.validRoute pkt.targetNode.address =
    some entry → answers pkt.targetNode entry → entry.routeDist.toNat ≤ 255

instance : Decidable (n.AnswersNear heard) :=
  decidable_of_iff (∀ pkt ∈ heard, pkt.kind = .RREQ → ∀ entry ∈ n.validRoute pkt.targetNode.address,
      answers pkt.targetNode entry → entry.routeDist.toNat ≤ 255)
    ⟨fun h pkt entry same kind => h pkt same kind entry, fun h pkt same kind entry =>
      h pkt entry same kind⟩

theorem Made.backed (made : Made n heard msg) (tidy : n.Tidy)
    (near : AnswersNear n heard) (fits : ∀ pkt, heard = some pkt → pkt.Fits)
    (follows : ∀ pkt, heard = some pkt → ∀ ab ∈ pkt.blocks, n.Follows ab) :
    (∀ ab ∈ msg.blocks, n.Backs ab) ∧ msg.Fits := by
  cases made with
  | own orig alone =>
    refine ⟨?_, fits_own orig⟩
    rw [RM.blocks, orig, alone]
    exact forall_mem_singleton.mpr backs_own
  | @relayed pkt received small orig additional =>
    obtain ⟨follows_orig, follows_rest⟩ := forall_mem_cons.mp (follows pkt received)
    refine ⟨?_, fits_incremented small orig⟩
    rw [RM.blocks, orig, additional]
    refine forall_mem_cons.mpr ⟨follows_orig.backs_incremented small, fun ab inside => ?_⟩
    rcases mem_snoc inside with passed_on | rfl
    · obtain ⟨old, kept, rfl⟩ := List.mem_map.mp passed_on
      obtain ⟨kept, small⟩ := mem_filter.mp kept
      exact (follows_rest old kept).backs_incremented (by simpa using small)
    · exact backs_own
  | @toOrig pkt entry received asked valid answered orig additional =>
    have inside := validRoute_mem valid
    refine ⟨?_, fits_own orig⟩
    rw [RM.blocks, orig, additional]
    refine forall_mem_cons.mpr ⟨backs_own, forall_mem_singleton.mpr ?_⟩
    exact backs_target inside (tidy.plain entry inside)
      (near pkt entry received asked valid answered)
  | @toTarget pkt received orig additional =>
    obtain ⟨follows_orig, -⟩ := forall_mem_cons.mp (follows pkt received)
    refine ⟨?_, fits_own orig⟩
    rw [RM.blocks, orig, additional]
    refine forall_mem_cons.mpr ⟨backs_own, forall_mem_singleton.mpr ?_⟩
    exact follows_orig.backs (fits pkt received) rfl rfl rfl

structure Advances (blocks : List AddressBlock) (hop : UInt32) (n : Node)
    (done : Node × List Transmission) : Prop where
  tidy : done.1.Tidy
  grown : Grown n done.1
  entries : ∀ entry ∈ done.1.routingTable,
    (∃ old ∈ n.routingTable, ∃ broken, entry = { old with routeBroken := broken }) ∨
      ∃ ab ∈ blocks, ∃ seqNum, ab.seqNum = some seqNum ∧ entry = ab.toEntry hop seqNum
  sent : ∀ t ∈ done.2, t.transmitter = n.myAddr ∧ (∀ ab ∈ t.message.blocks, done.1.Backs ab) ∧
    t.message.Fits

theorem Tidy.of_same (tidy : n.Tidy) (same : n'.routingTable = n.routingTable) : n'.Tidy :=
  ⟨same ▸ tidy.plain, same ▸ tidy.distinct⟩

theorem Grown.of_same (same : n'.routingTable = n.routingTable) : Grown n n' :=
  fun entry inside => ⟨entry, same ▸ inside, rfl, le_rfl⟩

theorem Answered.advances {done : Node × List Transmission} (answered : Answered n none done)
    (tidy : n.Tidy) : Advances [] hop n done where
  tidy := tidy.of_same answered.routingTable
  grown := Grown.of_same answered.routingTable
  entries entry inside := .inl ⟨entry, answered.routingTable ▸ inside, entry.routeBroken, rfl⟩
  sent t sent := by
    obtain ⟨transmitter, made⟩ := answered.sent t sent
    refine ⟨transmitter, made.backed (tidy.of_same answered.routingTable) ?_ ?_ ?_⟩
    · exact fun pkt entry received => by cases received
    · exact fun pkt received => by cases received
    · exact fun pkt received => by cases received

theorem advances_receive (tidy : n.Tidy) {t : Transmission} (fits : t.message.Fits)
    (plain : ∀ ab ∈ t.message.blocks, ab.Plain)
    (near : ∀ n₁ heard, n.updateRoutes t.message hop = .ok (n₁, heard) → AnswersNear n₁ heard)
    (granted : Bool) :
    Yields (n.handleLowerRM t.message hop granted) (Advances t.message.blocks hop n) := by
  intro done ran
  obtain ⟨n₁, heard, updated, answered⟩ := handleLowerRM_cases ran
  obtain ⟨recorded, follows⟩ := recorded_updateRoutes tidy plain updated
  have learnt := learnt_updateRoutes updated
  have same := answered.routingTable
  have later : Grown n₁ done.1 := Grown.of_same same
  refine ⟨recorded.tidy.of_same same, recorded.grown.trans later, fun entry inside => ?_,
    fun t' sent => ?_⟩
  · rcases learnt.entries entry (same ▸ inside) with old | ⟨ab, told, -, new⟩
    · exact .inl ⟨entry, old, entry.routeBroken, rfl⟩
    · exact .inr ⟨ab, told, new⟩
  · obtain ⟨transmitter, made⟩ := answered.sent t' sent
    refine ⟨transmitter.trans learnt.myAddr, made.backed (recorded.tidy.of_same same) ?_ ?_ ?_⟩
    · intro pkt entry received asked valid
      apply near n₁ heard updated pkt entry received asked
      rw [validRoute, ← same]
      exact valid
    · rintro pkt rfl
      obtain ⟨-, n₂, nodes, -, -, rfl⟩ := updateRoutes_kept updated
      exact fits
    · exact fun pkt received ab inside => (follows pkt received ab inside).grown later

theorem Tidy.markBroken (tidy : n.Tidy) (which : RoutingEntry → Bool) :
    (n.markBroken which).Tidy where
  plain entry inside := by
    obtain ⟨old, there, broken, rfl⟩ := mem_markBroken inside
    obtain ⟨host, near, seqNum⟩ := tidy.plain old there
    exact ⟨host, near, seqNum⟩
  distinct := by
    have same : RoutingEntry.routeAddress ∘ (fun entry : RoutingEntry =>
        if which entry then { entry with routeBroken := true } else entry) =
          RoutingEntry.routeAddress := by
      funext entry
      dsimp only [Function.comp]
      split <;> rfl
    rw [Node.markBroken, List.map_map, same]
    exact tidy.distinct

theorem advances_broken (tidy : n.Tidy) (hop : UInt32) (which : RoutingEntry → Bool) :
    Advances [] hop n (n.markBroken which, []) where
  tidy := tidy.markBroken which
  grown entry inside := by
    refine ⟨_, List.mem_map_of_mem inside, ?_⟩
    split <;> exact ⟨rfl, le_rfl⟩
  entries entry inside := .inl (mem_markBroken inside)
  sent _ sent := absurd sent not_mem_nil

theorem advances_seqNumLoss (tidy : n.Tidy) (hop : UInt32) :
    Advances [] hop n (n.seqNumLossExpired, []) where
  tidy := tidy.of_same rfl
  grown := Grown.of_same rfl
  entries entry inside := .inl ⟨entry, inside, entry.routeBroken, rfl⟩
  sent _ sent := absurd sent not_mem_nil

end Node

end Srwsn.DYMO
