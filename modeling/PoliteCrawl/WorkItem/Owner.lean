import PoliteCrawl.Keyspace.Range
import PoliteCrawl.WorkItem.Basic

namespace PoliteCrawl.WorkItem

/-- Whether an item belongs to a partition, where no partition means all of the keyspace. -/
def belongsTo (partition : Option HashRange) (item : WorkItem) : Bool :=
  match partition, item.hostKey? with
  | none, _ => true
  | some range, some host => range.contains (.ofHost host)
  | some _, none => false

end PoliteCrawl.WorkItem
