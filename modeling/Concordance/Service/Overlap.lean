import Concordance.Service.Basic

/-!
# Reloads that overlap

A reload reads the directory without holding the service, and has what it read served later. In
between other reloads read and have their indexes served, and the directory is built again. Reloads
are numbered in the order in which they read.
-/

namespace Concordance.Service

/-- A step of a reload or of a build. -/
inductive Move
  /-- The directory is built again. -/
  | rebuild (tree : FileTree)
  /-- The next reload reads the directory. -/
  | read
  /-- A reload has the index that it read served. -/
  | swap (reload : Nat)

/-- A service beside its directory, with the reloads that are on their way. -/
structure Traffic where
  /-- The service. -/
  service : Service
  /-- The directory. -/
  tree : FileTree
  /-- How many reloads have read the directory. -/
  reads : Nat
  /-- The indexes that were read and are not yet served, under the numbers of their reloads. -/
  inFlight : Std.ExtTreeMap Nat OpenIndex

namespace Traffic

/-- A service beside its directory, with no reload on its way. -/
def idle (service : Service) (tree : FileTree) : Traffic :=
  ⟨service, tree, 0, ∅⟩

/-- What a step leaves. A reload that cannot read the index ends, and so does one that has its index
served. -/
def step (now : Traffic) : Move → Traffic
  | .rebuild tree => { now with tree }
  | .read =>
    match reopen now.service.layout now.tree with
    | .ok index =>
      { now with reads := now.reads + 1, inFlight := now.inFlight.insert now.reads index }
    | .error _ => { now with reads := now.reads + 1 }
  | .swap reload =>
    match now.inFlight[reload]? with
    | some index =>
      { now with service := now.service.swap index, inFlight := now.inFlight.erase reload }
    | none => now

/-- What some steps leave. -/
def run (now : Traffic) (moves : List Move) : Traffic :=
  moves.foldl step now

/-- The index of the directory, as it is, is served. -/
def Current (now : Traffic) : Prop :=
  reopen now.service.layout now.tree = .ok now.service.index

end Traffic

end Concordance.Service
