import PoliteCrawl.Politeness.Wait
import PoliteCrawl.Valve.Basic
import PoliteCrawl.WorkItem.Basic

namespace PoliteCrawl

inductive HostWait where
  | hostless
  | waiting (phase : WaitPhase)
  deriving DecidableEq, Repr

/-- An item without a host is refused. -/
def hostPredicate : WaitPredicate WorkItem HostWait HostTable where
  start item timeout := match item.hostKey? with
    | some host => .waiting (.start host (some timeout))
    | none => .hostless
  step now task phase t := match phase with
    | .hostless => none
    | .waiting phase => (phase.step now task t).map (·.within .waiting id)
  alarms
    | .hostless => []
    | .waiting phase => phase.alarms
  verdict?
    | .hostless => some false
    | .waiting (.finished granted) => some granted
    | .waiting _ => none
  cancel task phase t := match phase with
    | .hostless => t
    | .waiting phase => phase.cancel task t

end PoliteCrawl
