import Linkerd.Go.Basic

/-!
# Kubernetes objects and informer indexers

The parts of `corev1` objects that the destination server and the metrics API read, and the
informer indexers they look objects up in.  An `Indexer` is read only through `ByIndex`, so its
state is the function from an index name and a key to what `ByIndex` returns: every function is
a possible state, and results about every indexer hold for every state of the informer caches.
-/

namespace Linkerd
namespace K8s

open Go

/-- `corev1.PodPhase`. -/
inductive PodPhase
  | pending
  | running
  | succeeded
  | failed
  | unknown
  deriving DecidableEq, Repr

/-- `corev1.ContainerStateWaiting`. -/
structure ContainerStateWaiting where
  reason : List Char
  message : List Char
  deriving DecidableEq, Repr

/-- `corev1.ContainerStateTerminated`. -/
structure ContainerStateTerminated where
  exitCode : Int
  signal : Int
  reason : List Char
  message : List Char
  deriving DecidableEq, Repr

/-- `corev1.ContainerState`: the waiting and terminated details, each set or `nil`. -/
structure ContainerState where
  waiting : Option ContainerStateWaiting
  terminated : Option ContainerStateTerminated
  deriving DecidableEq, Repr

/-- `corev1.ContainerStatus`. -/
structure ContainerStatus where
  name : List Char
  image : List Char
  ready : Bool
  state : ContainerState
  lastTerminationState : ContainerState
  deriving DecidableEq, Repr

/-- `corev1.ContainerPort`: a named container port. -/
structure ContainerPort where
  name : List Char
  containerPort : Int
  deriving DecidableEq, Repr

/-- `corev1.Container`: its name and ports, which opaque-port annotations may name. -/
structure Container where
  name : List Char
  ports : List ContainerPort
  deriving DecidableEq, Repr

/-- `corev1.Pod`: its metadata, spec containers and status; every field but the phase defaults to
Go's zero value. -/
structure Pod where
  name : List Char := []
  ns : List Char := []
  labels : List (List Char × List Char) := []
  annotations : List (List Char × List Char) := []
  /-- `metadata.deletionTimestamp`, set once deletion has begun. -/
  deletionTimestamp : Option Nat := none
  containers : List Container := []
  phase : PodPhase
  podIP : List Char := []
  containerStatuses : List ContainerStatus := []
  initContainerStatuses : List ContainerStatus := []
  deriving DecidableEq, Repr

/-- `corev1.Service`, by its name. -/
structure Service where
  name : List Char
  ns : List Char
  deriving DecidableEq, Repr

/-- An informer's `cache.Indexer`, read through `ByIndex(indexName, indexedValue)`: the objects
filed under a key of a named index, or the error for an index it does not have. -/
structure Indexer (α : Type) where
  byIndex : List Char → List Char → Except GoError (List α)

/-- Two indexer states that file the same objects under every key, perhaps in another order:
`ByIndex` gives the same error in both, or lists that are permutations of each other. -/
def Indexer.SameBuckets {α : Type} (a b : Indexer α) : Prop :=
  ∀ indexName key, (∃ e, a.byIndex indexName key = .error e ∧ b.byIndex indexName key = .error e) ∨
    ∃ xs ys, a.byIndex indexName key = .ok xs ∧ b.byIndex indexName key = .ok ys ∧ xs.Perm ys

end K8s
end Linkerd
