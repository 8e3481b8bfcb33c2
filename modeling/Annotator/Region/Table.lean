import Annotator.Region.Basic

/-! The region table issues region numbers and holds regions until they are evicted. -/

namespace Annotator

/-- The regions that are present, and the next number to issue. -/
structure RegionTable where
  /-- The next number to issue. -/
  nextId : Nat := 1
  /-- The regions in the order of their numbers. -/
  regions : List Region := []
  deriving DecidableEq, Inhabited

namespace RegionTable

/-- Allocating issues the next number, which is never issued again. -/
def allocate (table : RegionTable) : RegionId × RegionTable :=
  -- Numbers only grow.
  (⟨table.nextId⟩, { table with nextId := table.nextId + 1 })

/-- A new region takes its place behind the regions that are present. -/
def insert (table : RegionTable) (region : Region) : RegionTable :=
  -- Creation order is the order of numbers.
  { table with regions := table.regions ++ [region] }

/-- The region with a number, while it is present. -/
def get? (table : RegionTable) (id : RegionId) : Option Region :=
  -- Numbers are unique.
  table.regions.find? (·.id == id)

/-- The action to run when a region is activated. -/
def primaryAction? (table : RegionTable) (id : RegionId) : Option Action :=
  -- Neither the region nor its action need exist.
  (table.get? id).bind (·.metadata.primaryAction)

/-- The number of regions that are present. -/
def size (table : RegionTable) : Nat :=
  -- Evicted regions do not count.
  table.regions.length

/-- A table is empty when no region is present. -/
def isEmpty (table : RegionTable) : Bool :=
  -- The numbers already issued do not matter.
  table.regions.isEmpty

/-- The regions of an invocation. -/
def forInvocation (table : RegionTable) (invocation : InvocationId) : List Region :=
  -- The order of numbers is kept.
  table.regions.filter (·.invocation == invocation)

/-- The regions of an invocation that cover a row. -/
def onRow (table : RegionTable) (invocation : InvocationId) (row : Nat) : List Region :=
  -- The order of numbers is kept.
  (table.forInvocation invocation).filter (·.coversRow row)

/-- Evicting a region removes it and hands it back. -/
def evict (table : RegionTable) (id : RegionId) : Option Region × RegionTable :=
  -- Its number stays used.
  (table.get? id, { table with regions := table.regions.filter fun region => region.id != id })

/-- Evicting an invocation removes all its regions and counts them. -/
def evictInvocation (table : RegionTable) (invocation : InvocationId) : Nat × RegionTable :=
  -- The regions of other invocations stay.
  ((table.forInvocation invocation).length,
    { table with regions := table.regions.filter fun region => region.invocation != invocation })

end RegionTable

end Annotator
