import ScenarioAudit.Verdict.Basic
import ScenarioAudit.Anchor.History

/-!
# Integrity checks

Every channel of tamper evidence for one path: the record always, the anchor and the drift for a file inside
a repository. Trouble with the version history leaves the remaining channels skipped.
-/

namespace ScenarioAudit

structure ChannelResults where
  path : String
  digest : CheckStatus
  anchor : CheckStatus := .skipped
  drift : DriftStatus := .skipped
  currentDigest : String
  storedDigest : Option String
  checkedAt : Moment
  deriving Repr

/-- The anchor and drift channels of a file; what could not be evaluated is skipped. -/
def historyChannels (history : History) (p : Path) : Job (CheckStatus × DriftStatus) := do
  if ← history.isRepository then
    let anchored ← History.orElseHistory (do return some (← history.verifyAnchor p)) (pure none)
    match anchored with
    | none => return (.skipped, .skipped)
    | some anchor =>
      let drift ← History.orElseHistory (history.checkDrift p) (pure .skipped)
      return (anchor, drift)
  else
    return (.skipped, .skipped)

def historyResults (settings : IntegritySettings) (p : Path) : Job (CheckStatus × DriftStatus) := do
  if ← Job.reading (·.isFile p) then
    historyChannels (← Job.settle (History.ofDirectory (some p.parent) settings)) p
  else return (.skipped, .skipped)

/-- The directory whose record is read. Without a root, the record is looked for where the path says. -/
def recordRoot (t : Tree) (root : Option Path) (p : Path) : Except Trouble Path :=
  match root with
  | some r => .ok r
  | none => artifactRoot t p

def collectChannels (settings : IntegritySettings) (root : Option Path) (p : Path) :
    Job ChannelResults := do
  let place ← Job.reading fun t => recordRoot t root p
  let store : RecordStore := ⟨place, settings⟩
  let record ← Job.looking fun h => store.readRecord h.tree h.showRoom
  let digest ← Job.looking fun h => store.verify h.tree p h.showRoom
  let current ← Job.reading fun t => do store.digestOf t (← RecordStore.hashInput t p record)
  let history ← historyResults settings p
  return {
    path := p.toString
    digest := digest
    anchor := history.1
    drift := history.2
    currentDigest := current
    storedDigest := record.map (·.digest)
    checkedAt := (← get).now }

def checkIntegrity (settings : IntegritySettings) (root : Option Path) (p : Path) (policy : Policy) :
    Job Verdict := do
  let r ← collectChannels settings root p
  return aggregate r.digest r.anchor r.drift policy

end ScenarioAudit
