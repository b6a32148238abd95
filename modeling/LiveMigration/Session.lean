import LiveMigration.Engine
import LiveMigration.Phase
import LiveMigration.Dirty

/-! Opened sessions. A session knows its engine handle, its role, domain and node, the node and
    region tables it was opened with, the guest RAM block, and the owners that every unmap request
    names: a master names every other node of its domain, in registry order, and a client names
    itself. Unmapping a range first checks that it lies inside the RAM block; each attempt that
    reaches the engine counts, a failed one also counts as a failure, and the bytes count only when
    the engine succeeds. A dirty bitmap is unmapped run by run; the first failure ends the pass, and
    after a full pass a prefetch worker starts pulling the rest of guest RAM, on a thread of its own:
    when the system refuses that thread, the pass still answers its count, only without the worker. -/

namespace LiveMigration

open Text

/-- The part a node plays in a domain. --/
inductive Role where
  | master | client
deriving DecidableEq, Repr

/-- `master` or `client`. --/
def Role.render : Role → String
  | .master => "master" | .client => "client"

/-- Why a session request failed. --/
inductive SessionError where
  /-- The range does not lie inside the RAM block. --/
  | rangeOutOfBounds (offset len size : Nat)
  /-- The domain has more peers than an unmap request can name. --/
  | tooManyPeers (domain : DomainId) (peers : Nat)
  /-- The engine failed the request. --/
  | engine (e : EngineError)
deriving DecidableEq

/-- The wording of each session fault. --/
def SessionError.message : SessionError → String
  | .rangeOutOfBounds offset len size =>
    "Range at offset " ++ hex offset ++ " with length " ++ hex len ++ " is outside the " ++ hex size ++
      " bytes of guest RAM"
  | .tooManyPeers domain peers =>
    s!"Domain {domain.val} has {peers} peers, more than an unmap request can name"
  | .engine e => e.message

/-- The owners every unmap request of a session names. --/
def rangeOwners (role : Role) (domain : DomainId) (self : NodeId) (nodes : Registry) :
    Except SessionError OwnerList :=
  let owners := match role with
    | .master => nodes.peers domain self
    | .client => [self]
  match OwnerList.ofList owners with
  | .ok o => .ok o
  | .error _ => .error (.tooManyPeers domain owners.length)

/-- An opened session. --/
structure Session where
  handle : Nat
  role : Role
  domain : DomainId
  localNode : NodeId
  nodes : Registry
  regions : RegionTable
  span : RamSpan
  unmapOwners : OwnerList
  /-- The pre-copy timer armed when the session was opened. --/
  timer : Option Nat
  pageSize : Nat
  prefetchWorkers : Nat := 0

/-- `PreCopy` or `PostCopy`. --/
def Stage.debugName : Stage → String
  | .preCopy => "PreCopy" | .postCopy => "PostCopy"

/-- The debugging text of a session in a given phase. --/
def Session.debug (s : Session) (stage : Stage) : String :=
  "DsmSession \x7b handle: EngineHandle(" ++ toString s.handle ++ "), role: " ++
    (match s.role with | .master => "Master" | .client => "Client") ++
    ", domain_id: DomainId(" ++ s.domain.render ++ "), local_node_id: NodeId(" ++ s.localNode.render ++
    "), span: RamSpan \x7b host_addr: " ++ toString s.span.hostAddr ++ ", size: " ++
    toString s.span.size ++ " \x7d, phase: " ++ stage.debugName ++ ", .. \x7d"

/-- A session at work: the session, the engine it talks to, its phase controller, whose counters
    also count the unmaps, and whether the system refuses to start another thread. --/
structure Live where
  session : Session
  engine : Engine
  control : Controller
  threadsRefused : Bool := false

namespace Live

/-- Unmaps a range of the RAM block for the session's owners. --/
def unmapRange (l : Live) (offset len : Nat) : Except SessionError Unit × Live :=
  let s := l.session
  if !s.span.containsRange offset len then (.error (.rangeOutOfBounds offset len s.span.size), l)
  else
    let req : UnmapRequest := ⟨s.domain, s.span.hostAddr + offset, len, s.unmapOwners⟩
    let m := l.control.metrics.inc .unmapCount
    match l.engine.unmapRange req with
    | (.ok (), engine) =>
      (.ok (), { l with engine, control := { l.control with metrics := m.add .unmappedBytes len.toUInt64 } })
    | (.error e, engine) =>
      (.error (.engine e), { l with engine, control := { l.control with metrics := m.inc .unmapFails } })

/-- Unmaps ranges in order until one fails; gives how many were unmapped. --/
def unmapAll (l : Live) : List Dirty.Range → Nat → Except SessionError Nat × Live
  | [], n => (.ok n, l)
  | r :: rs, n =>
    match l.unmapRange r.offset r.len with
    | (.ok (), l) => unmapAll l rs (n + 1)
    | (.error e, l) => (.error e, l)

/-- Starts a prefetch worker: it counts once its thread runs, and a refused thread is only warned
    about. --/
def startPrefetch (l : Live) : Live :=
  if l.threadsRefused then l
  else { l with session := { l.session with prefetchWorkers := l.session.prefetchWorkers + 1 } }

theorem startPrefetch_engine (l : Live) : l.startPrefetch.engine = l.engine := by
  unfold startPrefetch
  split <;> rfl

theorem startPrefetch_control (l : Live) : l.startPrefetch.control = l.control := by
  unfold startPrefetch
  split <;> rfl

/-- Unmaps the dirty runs of a bitmap; after a full pass a prefetch worker starts. --/
def unmapBitmap (l : Live) (bitmap : List UInt8) : Except SessionError Nat × Live :=
  match l.unmapAll (Dirty.ranges bitmap l.session.pageSize) 0 with
  | (.ok n, l) => (.ok n, l.startPrefetch)
  | (.error e, l) => (.error e, l)

/-- Cancels the timer armed at opening, if there is one. --/
def cancelSessionTimer (l : Live) : Live :=
  match l.session.timer with
  | some id => { l with control := l.control.cancelTimer id }
  | none => l

end Live

/-- A request to an opened session. --/
inductive SessionStep where
  | unmapRange (offset len : Nat)
  | unmapBitmap (bitmap : List UInt8)
  | cancelSessionTimer
  | session
  | debug
  | phase (step : PhaseStep)

/-- What a session request answers. --/
inductive SessionReply where
  | done
  | count (n : Nat)
  | session (s : Session) (p : Phase)
  | debug (text : String)
  | phase (r : PhaseReply)

/-- Why a session request failed. --/
inductive StepError where
  | session (e : SessionError)
  | phase (e : PhaseError)

/-- Carries out a session request. --/
def Live.step (l : Live) : SessionStep → Except StepError SessionReply × Live
  | .unmapRange offset len =>
    let (r, l) := l.unmapRange offset len
    (r.map (fun _ => .done) |>.mapError .session, l)
  | .unmapBitmap bitmap =>
    let (r, l) := l.unmapBitmap bitmap
    (r.map .count |>.mapError .session, l)
  | .cancelSessionTimer => (.ok .done, l.cancelSessionTimer)
  | .session => (.ok (.session l.session l.control.phase), l)
  | .debug => (.ok (.debug (l.session.debug l.control.phase.stage)), l)
  | .phase p =>
    let (r, control) := l.control.step p
    (r.map .phase |>.mapError .phase, { l with control })

end LiveMigration
