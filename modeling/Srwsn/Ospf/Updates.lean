import Srwsn.Lib.Outcome
import Srwsn.Lib.Trace
import Srwsn.Ospf.LSA

/-! The link state database of a router, and what received updates replace in it. -/
namespace Srwsn

open Trace Outcome

namespace OSPF

inductive InstallSource where
  | Originated | Flooded
  deriving DecidableEq

structure StoredLSA where
  lsa : LSA
  source : InstallSource := .Flooded
  installTime : Nat := 0
  deriving DecidableEq

structure LSAKey where
  linkStateID : UInt64
  advertisingRouter : UInt32
  deriving DecidableEq

def LSAHeader.key (h : LSAHeader) : LSAKey := ⟨h.linkStateID, h.advertisingRouter⟩

/-- Router and network advertisements are found by their link state id alone. -/
structure AreaDatabase where
  externalRoutingCapability : Bool := true
  routerLSAs : UInt64 → Option StoredLSA := fun _ => none
  networkLSAs : UInt64 → Option StoredLSA := fun _ => none
  summaryLSAs : LSAKey → Option StoredLSA := fun _ => none

inductive LSAFault where
  | noArea | badCast
  deriving DecidableEq

/- `replaced` lists the copies that an update has replaced, each with the instance that came. -/
structure Database where
  routerID : UInt32
  areas : UInt32 → Option AreaDatabase
  asExternalLSAs : LSAKey → Option StoredLSA := fun _ => none
  isLocalAddress : UInt64 → Bool := fun _ => false
  replaced : List (LSAHeader × LSAHeader) := []

namespace Database

variable (db : Database)

def findLSA (lsaType : LSAType) (key : LSAKey) (areaID : UInt32) : Option StoredLSA :=
  match lsaType with
  | .RouterLSAType => (db.areas areaID).bind (·.routerLSAs key.linkStateID)
  | .NetworkLSAType => (db.areas areaID).bind (·.networkLSAs key.linkStateID)
  | .SummaryLSA_NetworksType => (db.areas areaID).bind (·.summaryLSAs key)
  | .SummaryLSA_ASBoundaryRoutersType => (db.areas areaID).bind (·.summaryLSAs key)
  | .ASExternalLSAType => db.asExternalLSAs key
  | .unknown _ => none

def store (h : LSAHeader) (areaID : UInt32) (stored : StoredLSA) : Database :=
  match h.lsType with
  | .ASExternalLSAType =>
    { db with asExternalLSAs := Function.update db.asExternalLSAs h.key stored }
  | .unknown _ => db
  | lsType =>
    match db.areas areaID with
    | none => db
    | some area =>
      { db with areas := Function.update db.areas areaID (some (
        match lsType with
        | .RouterLSAType =>
          { area with routerLSAs := Function.update area.routerLSAs h.linkStateID stored }
        | .NetworkLSAType =>
          { area with networkLSAs := Function.update area.networkLSAs h.linkStateID stored }
        | _ => { area with summaryLSAs := Function.update area.summaryLSAs h.key stored })) }

def castable (lsType : LSAType) : LSABody → Bool
  | .router .. => lsType == .RouterLSAType
  | .network .. => lsType == .NetworkLSAType
  | .summary .. => lsType == .SummaryLSA_NetworksType || lsType == .SummaryLSA_ASBoundaryRoutersType
  | .external .. => lsType == .ASExternalLSAType

def equivalentExternal : LSABody → LSABody → Bool
  | .external _ e cost forward, .external _ e' cost' forward' =>
    e == e' && cost == cost' && forward' != 0 && forward == forward'
  | _, _ => false

/-- The router's own equivalent of an external advertisement, when its originator is reachable. -/
def ownEquivalent (lsa : LSA) (reachable : Bool) : Option StoredLSA :=
  (db.asExternalLSAs ⟨lsa.header.linkStateID, db.routerID⟩).filter fun own =>
    reachable && equivalentExternal own.lsa.body lsa.body

def setAge (stored : StoredLSA) (lsAge : UInt16) : StoredLSA :=
  { stored with lsa := { stored.lsa with header := { stored.lsa.header with lsAge := lsAge } } }

def installASExternalLSA (lsa : LSA) (areaID : UInt32) (reachable : Bool) : Database × Bool :=
  match db.ownEquivalent lsa reachable with
  | none => (db.store lsa.header areaID { lsa := lsa }, true)
  | some own =>
    if db.routerID > lsa.header.advertisingRouter then (db, false)
    else
      let flushed := { setAge own MAX_AGE with installTime := own.installTime + 1 }
      let db := { db with
        asExternalLSAs :=
          Function.update db.asExternalLSAs ⟨lsa.header.linkStateID, db.routerID⟩ (some flushed) }
      (db.store lsa.header areaID { lsa := lsa }, true)

def installLSA (lsa : LSA) (areaID : UInt32) (reachable : Bool) :
    Except LSAFault (Database × Bool) :=
  if lsa.header.lsType = .ASExternalLSAType then
    if castable lsa.header.lsType lsa.body then .ok (db.installASExternalLSA lsa areaID reachable)
      else .error .badCast
  else if (db.areas areaID).isNone then .ok (db, false)
  else if castable lsa.header.lsType lsa.body then
    .ok (db.store lsa.header areaID { lsa := lsa }, true)
  else .error .badCast

end Database

structure LSAContext where
  anyNeighborInExchangeOrLoadingState : Bool := false
  onRequestList : Bool := false
  reachable : Bool := false
  deriving DecidableEq

structure UpdatePacket where
  areaID : UInt32
  exchanging : Bool := true
  routerLSAs : List (LSA × LSAContext) := []
  networkLSAs : List (LSA × LSAContext) := []
  summaryLSAs : List (LSA × LSAContext) := []
  asExternalLSAs : List (LSA × LSAContext) := []

def UpdatePacket.classes (packet : UpdatePacket) : List (List (LSA × LSAContext)) :=
  [packet.routerLSAs, packet.networkLSAs, packet.summaryLSAs, packet.asExternalLSAs]

namespace Database

def advance (stored : StoredLSA) (sequenceNumber : Int) : StoredLSA :=
  if sequenceNumber = MAX_SEQUENCE_NUMBER then setAge stored MAX_AGE
  else { stored with lsa := { stored.lsa with
    header := { stored.lsa.header with lsSequenceNumber := sequenceNumber + 1 } } }

variable (db : Database)

def selfOriginated (h : LSAHeader) : Bool :=
  h.advertisingRouter == db.routerID || h.lsType == .NetworkLSAType &&
    db.isLocalAddress h.linkStateID

/-- A copy too recent to be replaced. -/
def tooSoon (stored : StoredLSA) : Bool :=
  stored.source == .Flooded && decide (stored.installTime < MIN_LS_ARRIVAL)

def advanceOwn (h : LSAHeader) (areaID : UInt32) : Database :=
  if db.selfOriginated h then
    match db.findLSA h.lsType h.key areaID with
    | none => db
    | some current => db.store h areaID (advance current h.lsSequenceNumber)
  else db

def update (areaID : UInt32) (lsa : LSA) (context : LSAContext) (found : Option StoredLSA) :
    Except LSAFault Database :=
  (db.installLSA lsa areaID context.reachable).map fun installed =>
    match found with
    | none => installed.1
    | some stored =>
      (if installed.2 then
        { installed.1 with replaced := (stored.lsa.header, lsa.header) :: installed.1.replaced }
        else installed.1).advanceOwn lsa.header areaID

def processLSA (areaID : UInt32) (item : LSA × LSAContext) : Except LSAFault (Database × Bool) :=
  let lsa := item.1
  let lsType := lsa.header.lsType
  match lsType with
  | .unknown _ => .ok (db, true)
  | _ =>
    if lsType = .ASExternalLSAType ∧ (db.areas areaID).isNone then .error .noArea
    else if lsType = .ASExternalLSAType ∧
      !((db.areas areaID).any (·.externalRoutingCapability)) then .ok (db, true)
    else
      let found := db.findLSA lsType lsa.header.key areaID
      if lsa.header.lsAge = MAX_AGE ∧ found.isNone ∧
        !item.2.anyNeighborInExchangeOrLoadingState then .ok (db, true)
      else if found.all (·.lsa.header.older lsa.header) then
        if found.any tooSoon then .ok (db, true)
        else (db.update areaID lsa item.2 found).map fun db => (db, true)
      else .ok (db, !item.2.onRequestList)

def processAll (areaID : UInt32) : List (LSA × LSAContext) → Database → Except LSAFault Database
  | [], db => .ok db
  | item :: rest, db =>
    db.processLSA areaID item >>= fun r => if r.2 then processAll areaID rest r.1 else .ok r.1

def processClasses (areaID : UInt32) : List (List (LSA × LSAContext)) → Database →
    Except LSAFault Database
  | [], db => .ok db
  | items :: classes, db => processAll areaID items db >>= processClasses areaID classes

def processPacket (packet : UpdatePacket) : Except LSAFault Database :=
  if packet.exchanging then processClasses packet.areaID packet.classes db else .ok db

def Progresses : Prop := ∀ r ∈ db.replaced, r.2.Newer r.1

/-- No advertisement meets a copy of age `MAX_AGE` that is alike but much older. -/
def CalmLSA (areaID : UInt32) (lsa : LSA) : Prop :=
  ∀ stored, db.findLSA lsa.header.lsType lsa.header.key areaID = some stored →
    ¬ stored.lsa.header.Outdates lsa.header

def CalmAll (areaID : UInt32) : List (LSA × LSAContext) → Database → Prop
  | [], _ => True
  | item :: rest, db =>
    db.CalmLSA areaID item.1 ∧ ∀ r, db.processLSA areaID item = .ok r → CalmAll areaID rest r.1

def CalmClasses (areaID : UInt32) : List (List (LSA × LSAContext)) → Database → Prop
  | [], _ => True
  | items :: classes, db =>
    CalmAll areaID items db ∧ ∀ db', processAll areaID items db = .ok db' →
      CalmClasses areaID classes db'

variable {db db' : Database} {areaID : UInt32} {lsa : LSA}

theorem store_replaced (h : LSAHeader) (stored : StoredLSA) : (db.store h areaID stored).replaced =
    db.replaced := by
  unfold store
  split
  · rfl
  · rfl
  · split
    · rfl
    · rfl

theorem installASExternalLSA_replaced (reachable : Bool) :
    (db.installASExternalLSA lsa areaID reachable).1.replaced = db.replaced := by
  unfold installASExternalLSA
  split
  · exact store_replaced _ _
  · split_ifs
    · rfl
    · exact store_replaced _ _

variable {r : Database × Bool}

theorem installLSA_replaced {reachable : Bool} (done : db.installLSA lsa areaID reachable = .ok r) :
    r.1.replaced = db.replaced := by
  unfold installLSA at done
  split_ifs at done
  · cases done
    exact installASExternalLSA_replaced reachable
  · cases done
    rfl
  · cases done
    exact store_replaced _ _

theorem advanceOwn_replaced (h : LSAHeader) : (db.advanceOwn h areaID).replaced = db.replaced := by
  unfold advanceOwn
  split_ifs
  · split
    · rfl
    · exact store_replaced _ _
  · rfl

theorem update_replaced {context : LSAContext} {found : Option StoredLSA}
    (done : db.update areaID lsa context found = .ok db') : db'.replaced = db.replaced ∨
      ∃ stored, found = some stored ∧
      db'.replaced = (stored.lsa.header, lsa.header) :: db.replaced := by
  obtain ⟨r, installed, rfl⟩ := map_eq_ok done
  have kept := installLSA_replaced installed
  cases found with
  | none => exact .inl kept
  | some stored =>
    dsimp only
    rw [advanceOwn_replaced]
    split_ifs
    · exact .inr ⟨stored, rfl, by rw [kept]⟩
    · exact .inl kept

variable {item : LSA × LSAContext}

theorem processLSA_replaced (done : db.processLSA areaID item = .ok r) :
    r.1.replaced = db.replaced ∨
      ∃ stored, db.findLSA item.1.header.lsType item.1.header.key areaID = some stored ∧
        stored.lsa.header.older item.1.header = true ∧
        r.1.replaced = (stored.lsa.header, item.1.header) :: db.replaced := by
  unfold processLSA at done
  dsimp only at done
  split at done
  · cases done
    exact .inl rfl
  · split_ifs at done with missing stub aged older soon
    · cases done
      exact .inl rfl
    · cases done
      exact .inl rfl
    · cases done
      exact .inl rfl
    · obtain ⟨m, updated, rfl⟩ := map_eq_ok done
      rcases update_replaced updated with same | ⟨stored, found, more⟩
      · exact .inl same
      · refine .inr ⟨stored, found, ?_, more⟩
        rw [found] at older
        exact older
    · cases done
      exact .inl rfl

theorem Progresses.processLSA (progresses : db.Progresses) (calm : db.CalmLSA areaID item.1)
    (done : db.processLSA areaID item = .ok r) : r.1.Progresses := by
  rcases processLSA_replaced done with same | ⟨stored, found, older, more⟩
  · rw [Progresses, same]
    exact progresses
  · rw [Progresses, more, List.forall_mem_cons]
    exact ⟨LSAHeader.newer_of_older older (calm stored found), progresses⟩

theorem Progresses.processAll {items : List (LSA × LSAContext)} (progresses : db.Progresses)
    (calm : CalmAll areaID items db) (done : Database.processAll areaID items db = .ok db') :
    db'.Progresses := by
  induction items generalizing db with
  | nil =>
    cases done
    exact progresses
  | cons item items ih =>
    obtain ⟨r, first, rest⟩ := bind_eq_ok done
    have after := progresses.processLSA calm.1 first
    split_ifs at rest
    · exact ih after (calm.2 r first) rest
    · cases rest
      exact after

theorem Progresses.processClasses {classes : List (List (LSA × LSAContext))}
    (progresses : db.Progresses) (calm : CalmClasses areaID classes db)
    (done : Database.processClasses areaID classes db = .ok db') :
    db'.Progresses := by
  induction classes generalizing db with
  | nil =>
    cases done
    exact progresses
  | cons items classes ih =>
    obtain ⟨m, first, rest⟩ := bind_eq_ok done
    exact ih (progresses.processAll calm.1 first) (calm.2 m first) rest

end Database

inductive DatabaseEvent where
  | update (packet : UpdatePacket)
  | change (areas : UInt32 → Option AreaDatabase) (asExternalLSAs : LSAKey → Option StoredLSA)

namespace Database

def handle (db : Database) : DatabaseEvent → Except LSAFault Database
  | .update packet => db.processPacket packet
  | .change areas asExternalLSAs => .ok { db with areas := areas, asExternalLSAs := asExternalLSAs }

def Next (db : Database) (e : DatabaseEvent) (db' : Database) : Prop := db.handle e = .ok db'

def Calm (db : Database) : DatabaseEvent → Prop
  | .update packet => packet.exchanging = true → CalmClasses packet.areaID packet.classes db
  | .change _ _ => True

theorem Progresses.step {db db' : Database} (progresses : db.Progresses) {e : DatabaseEvent}
    (calm : db.Calm e) (next : db.Next e db') : db'.Progresses := by
  cases e with
  | change areas asExternalLSAs =>
    cases next
    exact progresses
  | update packet =>
    have done : db.processPacket packet = .ok db' := next
    unfold processPacket at done
    split_ifs at done with exchanging
    · exact progresses.processClasses (calm exchanging) done
    · cases done
      exact progresses

end Database
end OSPF

open OSPF

theorem updates_progress (a b : LSAHeader) (db : Database) (es : List DatabaseEvent) :
    (a.Ordered b ↔ ¬ a.Clash b) ∧
      (Each Database.Next Database.Calm { db with replaced := [] } es →
        Always Database.Next Database.Progresses { db with replaced := [] } es) := by
  refine ⟨LSAHeader.ordered_iff, fun each => ?_⟩
  apply always_of_each (I := Database.Progresses) _ _ _ each
  · exact fun db e db' progresses calm next => progresses.step calm next
  · exact fun db progresses => progresses
  · exact fun r member => by cases member

def routerLSA (lsAge : UInt16) (lsSequenceNumber : Int) : LSA :=
  ⟨⟨lsAge, .RouterLSAType, 1, 1, lsSequenceNumber, 7⟩, .router false false false []⟩

def holding (lsa : LSA) : Database where
  routerID := 9
  areas id := if id = 0 then
    some { routerLSAs := fun i => if i = 1 then some ⟨lsa, .Flooded, 2⟩ else none } else none

theorem updates_progress_one : LSAHeader.Ordered (routerLSA 10 5).header (routerLSA 3600 6).header ∧
      Always Database.Next Database.Progresses { holding (routerLSA 10 5) with replaced := [] }
        [.update { areaID := 0, routerLSAs := [(routerLSA 3600 6, {})] }] := by
  have both :=
    updates_progress (routerLSA 10 5).header (routerLSA 3600 6).header (holding (routerLSA 10 5))
    [.update { areaID := 0, routerLSAs := [(routerLSA 3600 6, {})] }]
  refine ⟨both.1.mpr (by decide), both.2 ?_⟩
  · refine fun db' next => ⟨fun _ =>
      ⟨⟨?_, fun _ _ => trivial⟩, fun _ _ => ⟨trivial, fun _ _ => ⟨trivial, fun _ _ =>
      ⟨trivial, fun _ _ => trivial⟩⟩⟩⟩, trivial⟩
    intro stored found
    cases found
    decide

/-- The instance of age 100 replaces one that is alike and has reached `MAX_AGE`. -/
theorem updates_regress :
    ¬ (∀ a b : LSAHeader, a.lsAge ≤ MAX_AGE → b.lsAge ≤ MAX_AGE → a.Ordered b) ∧
      ¬ ∀ (db : Database) (es : List DatabaseEvent),
        Always Database.Next Database.Progresses { db with replaced := [] } es := by
  have outdates : (routerLSA 3600 5).header.Outdates (routerLSA 100 5).header := by decide
  constructor
  · intro all
    exact LSAHeader.ordered_iff.mp (all _ _ (by decide) (by decide)) (.inl outdates)
  · intro all
    obtain ⟨db, next, replaced⟩ : ∃ db,
      Database.Next { holding (routerLSA 3600 5) with replaced := [] }
        (.update { areaID := 0, routerLSAs := [(routerLSA 100 5, {})] }) db ∧
        db.replaced = [((routerLSA 3600 5).header, (routerLSA 100 5).header)] := ⟨_, rfl, rfl⟩
    have progresses :=
      (all _ [.update { areaID := 0, routerLSAs := [(routerLSA 100 5, {})] }]).2 db next
    exact outdates.not_newer (progresses _ (by rw [replaced]; exact List.mem_singleton_self _))

end Srwsn
