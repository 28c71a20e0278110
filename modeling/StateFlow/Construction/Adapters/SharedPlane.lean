import Mathlib.Logic.Function.Basic
import StateFlow.Construction.Adapters.Gateway

namespace StateFlow.Adapters
open Python Effect Plane
open Gateway (ProviderNeutralRequest)
open Scheduler (TargetCandidate)

/-- The callers share one plane. Each one names the resolver that it was built with. -/
structure SharedPlane (ι : Type) where
  plane : InMemoryStatePlane
  bindings : ι → Bindings

/-- One call of a projector or of a runtime adapter. -/
inductive Call (ι : Type) where
  | recordRequest (resolver : ι) (now : Int) (request : ProviderNeutralRequest)
      (targets : List TargetCandidate)
  | publish (resolver : ι) (now : Int) (observation : RuntimeObservation)

section Run
variable {ι : Type} [DecidableEq ι]

def SharedPlane.world (shared : SharedPlane ι) (resolver : ι) : World :=
  ⟨shared.plane, shared.bindings resolver⟩

def SharedPlane.withWorld (resolver : ι) (shared : SharedPlane ι) (world : World) :
    SharedPlane ι :=
  ⟨world.plane, Function.update shared.bindings resolver world.bindings⟩

def onResolver {A : Type} (resolver : ι) (action : EStateM Exception World A) :
    EStateM Exception (SharedPlane ι) A :=
  zoom (fun shared => shared.world resolver) (SharedPlane.withWorld resolver) action

variable (text : Text) (config : PlaneConfig)

def Call.run : Call ι → EStateM Exception (SharedPlane ι) Unit
  | .recordRequest resolver now request targets =>
      onResolver resolver (Adapters.recordRequest text config now request targets)
  | .publish resolver now observation =>
      onResolver resolver do let _ ← Adapters.publish config now observation

/-- Every call of an interleaving passes a test in the state that the earlier ones left. -/
def Along (test : Call ι → SharedPlane ι → Prop) : List (Call ι) → SharedPlane ι → Prop
  | [], _ => True
  | call :: rest, shared =>
      test call shared ∧ Along test rest (finalState (call.run text config shared))

/-- A projector and a runtime adapter are built on an empty plane in one order or the other. -/
def buildBoth (now : Int) (gatewayFirst : Bool) : PlaneAction Unit :=
  if gatewayFirst then do
    buildProjector config now
    buildAdapter config now runtimeAdapter
  else do
    buildAdapter config now runtimeAdapter
    buildProjector config now

def startShared (now : Int) (gatewayFirst : Bool) : SharedPlane ι :=
  ⟨finalState (buildBoth config now gatewayFirst {}), fun _ => []⟩

end Run

end StateFlow.Adapters
