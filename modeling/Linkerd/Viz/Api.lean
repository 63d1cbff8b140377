import Linkerd.Go.Basic

/-!
# The metrics API: requests and stats

The parts of the `viz` protobuf messages that `StatSummary` and its helpers read and write: the
request's selector and outbound filter, the resource keys rows are grouped by, the request,
TCP and authorization counters filled from Prometheus samples, the pod errors, and the rows of a
stat table.
-/

namespace Linkerd
namespace Viz

/-- `pb.Resource`. -/
structure Resource where
  ns : List Char
  type : List Char
  name : List Char
  deriving DecidableEq, Repr

/-- `pb.ResourceSelection`: the resource a request is about, and a label selector. -/
structure ResourceSelection where
  resource : Option Resource
  labelSelector : List Char
  deriving DecidableEq, Repr

/-- The request's `Outbound` oneof: no filter, `--to` a resource, or `--from` one. -/
inductive Outbound
  | none
  | toResource (resource : Resource)
  | fromResource (resource : Resource)
  deriving DecidableEq, Repr

/-- `pb.StatSummaryRequest`. -/
structure StatSummaryRequest where
  selector : Option ResourceSelection
  outbound : Outbound
  timeWindow : List Char
  skipStats : Bool
  tcpStats : Bool
  deriving DecidableEq, Repr

/-- `req.GetSelector().GetResource()`: `nil` when the selector or its resource is unset. -/
def StatSummaryRequest.selectorResource (req : StatSummaryRequest) : Option Resource :=
  req.selector.bind ResourceSelection.resource

/-- `req.GetSelector().GetResource().GetType()`: `""` through any `nil`. -/
def StatSummaryRequest.selectorType (req : StatSummaryRequest) : List Char :=
  (req.selectorResource.map Resource.type).getD []

/-- `rKey`: the key rows and metrics are matched on. -/
structure RKey where
  ns : List Char
  type : List Char
  name : List Char
  deriving DecidableEq, Repr

/-- `pb.BasicStats`, the fields `processPrometheusMetrics` fills. -/
structure BasicStats where
  successCount : UInt64 := 0
  failureCount : UInt64 := 0
  latencyMsP50 : UInt64 := 0
  latencyMsP95 : UInt64 := 0
  latencyMsP99 : UInt64 := 0
  deriving DecidableEq, Repr

/-- `pb.TcpStats`. -/
structure TcpStats where
  openConnections : UInt64 := 0
  readBytesTotal : UInt64 := 0
  writeBytesTotal : UInt64 := 0
  deriving DecidableEq, Repr

/-- `pb.ServerStats`. -/
structure ServerStats where
  allowedCount : UInt64 := 0
  deniedCount : UInt64 := 0
  deriving DecidableEq, Repr

/-- `pb.PodErrors_PodError_ContainerError`, the one kind of pod error `getPodStats` reports. -/
structure PodError where
  message : List Char
  container : List Char
  image : List Char
  reason : List Char
  deriving DecidableEq, Repr

/-- `pb.TrafficSplitStats`. -/
structure TrafficSplitStats where
  apex : List Char
  leaf : List Char
  weight : List Char
  deriving DecidableEq, Repr

/-- `pb.StatTable_PodGroup_Row`; a field a query does not set keeps its zero value. -/
structure Row where
  resource : Resource
  timeWindow : List Char
  status : List Char := []
  meshedPodCount : UInt64 := 0
  runningPodCount : UInt64 := 0
  failedPodCount : UInt64 := 0
  stats : Option BasicStats := none
  tcpStats : Option TcpStats := none
  tsStats : Option TrafficSplitStats := none
  errorsByPod : List Char → Option (List PodError) := fun _ => none
  srvStats : Option ServerStats := none

/-- `pb.StatTable`, a `PodGroup` of rows: the table one resource type's query sends. -/
structure StatTable where
  rows : List Row

end Viz
end Linkerd
