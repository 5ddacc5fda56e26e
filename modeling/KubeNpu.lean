import KubeNpu.Machine.Run
import KubeNpu.Machine.Relay
import KubeNpu.Machine.Tally
import KubeNpu.Machine.Throttle
import KubeNpu.Machine.Memo
import KubeNpu.Machine.Mutex
import KubeNpu.Go.Errors
import KubeNpu.Go.Time
import KubeNpu.Go.Maps
import KubeNpu.Go.Gather
import KubeNpu.Go.Strings
import KubeNpu.Go.Filepath
import KubeNpu.Go.DirTree
import KubeNpu.Go.Bytes
import KubeNpu.Go.Bits
import KubeNpu.Go.Strconv
import KubeNpu.Go.Tabular
import KubeNpu.Go.Chan
import KubeNpu.Sentinels
import KubeNpu.Config
import KubeNpu.Environ
import KubeNpu.Podmap.Cgroup
import KubeNpu.Podmap.Cri
import KubeNpu.Podmap.PodMap
import KubeNpu.Podmap.Calls
import KubeNpu.Podmap.Attribution
import KubeNpu.Podmap.RebuildLimit
import KubeNpu.Podmap.Effect
import KubeNpu.Podmap.FailedWalk
import KubeNpu.Podmap.Snapshot
import KubeNpu.Podmap.Layouts
import KubeNpu.Podmap.Subtree
import KubeNpu.Podmap.Settled
import KubeNpu.Podmap.BlindWindow
import KubeNpu.Podmap.RuntimeLoad
import KubeNpu.Discovery.Device
import KubeNpu.Discovery.Sysfs
import KubeNpu.Discovery.Uevent
import KubeNpu.Discovery.Discover
import KubeNpu.Discovery.Nodes
import KubeNpu.Discovery.Sightings
import KubeNpu.Hw
import KubeNpu.Metrics
import KubeNpu.Server
import KubeNpu.Bpf
import KubeNpu.Loader
import KubeNpu.Loader.Handles
import KubeNpu.Ringbuf
import KubeNpu.Agent.Worker
import KubeNpu.Agent.Accounting
import KubeNpu.Agent.NotPod
import KubeNpu.Agent.Scrape
import KubeNpu.Agent.Setup
import KubeNpu.Agent.Filter
import KubeNpu.Agent.Join
import KubeNpu.Agent.Capacity
import KubeNpu.Agent.Coverage
import KubeNpu.Agent.DeviceNumbers
import KubeNpu.Agent.Durations
import KubeNpu.Agent.StableWorld
import KubeNpu.Agent.Pipeline
import KubeNpu.Agent.Conservation
import KubeNpu.Agent.Counters
import KubeNpu.Agent.Provenance
import KubeNpu.Agent.Ledger
import KubeNpu.Agent.Accuracy
import KubeNpu.Agent.Shutdown
import KubeNpu.Agent.Process
import KubeNpu.Agent.Lifecycle
import KubeNpu.Agent.Readiness
import KubeNpu.Agent.Teardown
import KubeNpu.Agent.Handles
import KubeNpu.Agent.Locking
import KubeNpu.Agent.Ascending
import KubeNpu.Ctl.Devices
