import Linkerd.Go.Basic
import Linkerd.Go.Strconv
import Linkerd.Go.Loop
import Linkerd.Go.Json
import Linkerd.Go.JsonEncode
import Linkerd.Go.Sort
import Linkerd.Go.Sort.Perm
import Linkerd.Go.Sort.Heap
import Linkerd.Go.Sort.Sorted
import Linkerd.K8s.Core
import Linkerd.Destination.Authority
import Linkerd.Destination.Indexers
import Linkerd.Destination.ContextToken
import Linkerd.Destination.Server
import Linkerd.Destination.Requests
import Linkerd.Destination.PodProfile
import Linkerd.Destination.Streams
import Linkerd.Viz.Api
import Linkerd.Viz.Prometheus
import Linkerd.Viz.PodStats
import Linkerd.Viz.StatSummary
import Linkerd.Viz.TrafficSplit
import Linkerd.Viz.ResourceQuery
import Linkerd.Viz.ServiceQuery
