import StateFlow.Library.Traversal
import StateFlow.Construction.Plane.Reads

namespace StateFlow.Plane
open Python Table Effect Traversal

/-- The arguments of `query_graph`. -/
structure GraphQuery where
  roots : List String
  relationTypes : List String := []
  depth : Int := 1
  snapshot : String := ""

structure GraphQueryResult where
  snapshot : String
  entities : List GraphEntity
  relations : List GraphRelation

def GraphRelation.ends (relation : GraphRelation) : String × String :=
  (relation.sourceRef, relation.targetRef)

/-- A query without relation types asks for all of them. -/
def GraphQuery.asks (query : GraphQuery) (relation : GraphRelation) : Bool :=
  query.relationTypes = [] || relation.relationType ∈ query.relationTypes

/-- A query walks the stored relations or those of a kept snapshot. -/
def relationSource (snapshot : String) : PlaneAction (List GraphRelation) := do
  if snapshot ≠ "" then return (← readSnapshot snapshot).relations
  else return (← get).relations.map Prod.snd

/-- The visited references and the included relations of a query. -/
def GraphQuery.walk (query : GraphQuery) (relations : List GraphRelation) :
    List String × List (RelationKey × GraphRelation) :=
  explore GraphRelation.ends GraphRelation.triple query.asks relations query.depth.toNat
    query.roots query.roots []

/-- The included relations in the order of their keys. -/
def sortedRelations (included : List (RelationKey × GraphRelation)) : List GraphRelation :=
  (included.insertionSort fun first second => tripleLe first.1 second.1).map Prod.snd

/-- `query_graph` follows the relations from its roots in both directions. -/
def queryGraph (query : GraphQuery) : PlaneAction GraphQueryResult := do
  let relations ← relationSource query.snapshot
  let plane ← get
  let (visited, included) := query.walk relations
  return {
    snapshot := query.snapshot
    entities := (sortedTexts visited).filterMap fun ref => plane.entities.lookup ref
    relations := sortedRelations included }

end StateFlow.Plane
