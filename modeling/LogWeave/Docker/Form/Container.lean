import LogWeave.Docker.Form.Network

/-! The forms for a container: what runs in it, how it is looked after, and what its host gives to
it, which is its share of the machine and its mounts. -/
namespace LogWeave.Docker.Form

/-- How the health of a container is to be probed. -/
def probing : Json.Reader Unit := object "HealthConfig" [
  looked "Test" texts, looked "Interval" whole, looked "Timeout" whole, looked "Retries" whole,
  looked "StartPeriod" whole, looked "StartInterval" whole]

/-- What runs in a container. -/
def process : Json.Reader Unit := object "ContainerConfig" [
  looked "Hostname" text, looked "Domainname" text, looked "User" text,
  looked "AttachStdin" flag, looked "AttachStdout" flag, looked "AttachStderr" flag,
  looked "ExposedPorts" names, looked "Tty" flag, looked "OpenStdin" flag,
  looked "StdinOnce" flag, looked "Env" texts, looked "Cmd" texts, looked "Healthcheck" probing,
  looked "ArgsEscaped" flag, looked "Image" text, looked "Volumes" names,
  looked "WorkingDir" text, looked "Entrypoint" texts, looked "NetworkDisabled" flag,
  looked "MacAddress" text, looked "OnBuild" texts, looked "Labels" textsByName,
  looked "StopSignal" text, looked "StopTimeout" whole, looked "Shell" texts]

/-- What one probe found. -/
def probe : Json.Reader Unit := object "HealthcheckResult" [
  spared "Start" text, spared "End" text, looked "ExitCode" whole, looked "Output" text]

def health : Json.Reader Unit := object "Health" [
  looked "Status" (word ["none", "starting", "healthy", "unhealthy"]),
  looked "FailingStreak" whole, looked "Log" (Json.Reader.listOf probe)]

/-- The share of one block device. -/
def deviceWeight : Json.Reader Unit := object "ResourcesBlkioWeightDevice" [
  looked "Path" text, looked "Weight" Json.Scalar.size]

/-- The greatest rate on one block device. -/
def deviceRate : Json.Reader Unit := object "ThrottleDevice" [
  looked "Path" text, looked "Rate" whole]

def deviceRates : Json.Reader (List Unit) := Json.Reader.listOf deviceRate

def device : Json.Reader Unit := object "DeviceMapping" [
  looked "PathOnHost" text, looked "PathInContainer" text, looked "CgroupPermissions" text]

/-- Devices asked of a driver. -/
def deviceRequest : Json.Reader Unit := object "DeviceRequest" [
  looked "Driver" text, looked "Count" whole, looked "DeviceIDs" texts,
  looked "Capabilities" (Json.Reader.listOf texts), looked "Options" textsByName]

def limit : Json.Reader Unit := object "ResourcesUlimits" [
  looked "Name" text, looked "Soft" whole, looked "Hard" whole]

/-- What of the machine a container may use. -/
def resources : List (Json.Field Unit) := [
  looked "CpuShares" whole, looked "Memory" whole, looked "CgroupParent" text,
  looked "BlkioWeight" Json.Scalar.unsigned16,
  looked "BlkioWeightDevice" (Json.Reader.listOf deviceWeight),
  looked "BlkioDeviceReadBps" deviceRates, looked "BlkioDeviceWriteBps" deviceRates,
  looked "BlkioDeviceReadIOps" deviceRates, looked "BlkioDeviceWriteIOps" deviceRates,
  looked "CpuPeriod" whole, looked "CpuQuota" whole, looked "CpuRealtimePeriod" whole,
  looked "CpuRealtimeRuntime" whole, looked "CpusetCpus" text, looked "CpusetMems" text,
  looked "Devices" (Json.Reader.listOf device), looked "DeviceCgroupRules" texts,
  looked "DeviceRequests" (Json.Reader.listOf deviceRequest), looked "KernelMemoryTCP" whole,
  looked "MemoryReservation" whole, looked "MemorySwap" whole, looked "MemorySwappiness" whole,
  looked "NanoCpus" whole, looked "OomKillDisable" flag, looked "Init" flag,
  looked "PidsLimit" whole, looked "Ulimits" (Json.Reader.listOf limit), looked "CpuCount" whole,
  looked "CpuPercent" whole, looked "IOMaximumIOps" whole, looked "IOMaximumBandwidth" whole]

/-- Kinds of mounts. -/
def mountKind : Json.Reader Unit := word ["bind", "volume", "tmpfs", "npipe", "cluster"]

/-- A mount as it is. -/
def mountPoint : Json.Reader Unit := object "MountPoint" [
  looked "Type" mountKind, looked "Name" text, looked "Source" text, looked "Destination" text,
  looked "Driver" text, looked "Mode" text, looked "RW" flag, looked "Propagation" text]

def mountPoints : Json.Reader (List Unit) := Json.Reader.listOf mountPoint

def bindOptions : Json.Reader Unit := object "MountBindOptions" [
  looked "Propagation" (word ["private", "rprivate", "shared", "rshared", "slave", "rslave"]),
  looked "NonRecursive" flag, looked "CreateMountpoint" flag,
  looked "ReadOnlyNonRecursive" flag, looked "ReadOnlyForceRecursive" flag]

def volumeDriver : Json.Reader Unit := object "MountVolumeOptionsDriverConfig" [
  looked "Name" text, looked "Options" textsByName]

def volumeOptions : Json.Reader Unit := object "MountVolumeOptions" [
  looked "NoCopy" flag, looked "Labels" textsByName, looked "DriverConfig" volumeDriver,
  looked "Subpath" text]

def tmpfsOptions : Json.Reader Unit := object "MountTmpfsOptions" [
  looked "SizeBytes" whole, looked "Mode" whole, looked "Options" (Json.Reader.listOf texts)]

/-- A mount as it was asked for. -/
def mount : Json.Reader Unit := object "Mount" [
  looked "Target" text, looked "Source" text, looked "Type" mountKind, looked "ReadOnly" flag,
  looked "Consistency" text, looked "BindOptions" bindOptions,
  looked "VolumeOptions" volumeOptions, looked "TmpfsOptions" tmpfsOptions]

/-- Where the log of a container is kept. -/
def logDriver : Json.Reader Unit := object "HostConfigLogConfig" [
  looked "Type" text, looked "Config" textsByName]

def restartPolicy : Json.Reader Unit := object "RestartPolicy" [
  looked "Name" (word ["no", "always", "unless-stopped", "on-failure"]),
  looked "MaximumRetryCount" whole]

/-- What the host of an inspected container gives it. -/
def host : Json.Reader Unit := object "HostConfig" (resources ++ [
  looked "Binds" texts, looked "ContainerIDFile" text, looked "LogConfig" logDriver,
  looked "NetworkMode" text, looked "PortBindings" portBindings,
  looked "RestartPolicy" restartPolicy, looked "AutoRemove" flag, looked "VolumeDriver" text,
  looked "VolumesFrom" texts, looked "Mounts" (Json.Reader.listOf mount),
  looked "ConsoleSize" (Json.Reader.listOf Json.Scalar.signed32),
  looked "Annotations" textsByName, looked "CapAdd" texts, looked "CapDrop" texts,
  looked "CgroupnsMode" (word ["private", "host"]), looked "Dns" texts, looked "DnsOptions" texts,
  looked "DnsSearch" texts, looked "ExtraHosts" texts, looked "GroupAdd" texts,
  looked "IpcMode" text, looked "Cgroup" text, looked "Links" texts, looked "OomScoreAdj" whole,
  looked "PidMode" text, looked "Privileged" flag, looked "PublishAllPorts" flag,
  looked "ReadonlyRootfs" flag, looked "SecurityOpt" texts, looked "StorageOpt" textsByName,
  looked "Tmpfs" textsByName, looked "UTSMode" text, looked "UsernsMode" text,
  looked "ShmSize" whole, looked "Sysctls" textsByName, looked "Runtime" text,
  looked "Isolation" (word ["default", "process", "hyperv"]), looked "MaskedPaths" texts,
  looked "ReadonlyPaths" texts])

/-- The host of a container in a list. -/
def listedHost : Json.Reader Unit := object "ContainerSummaryHostConfig" [
  looked "NetworkMode" text, looked "Annotations" textsByName]

/-- The driver that keeps the files of a container. Its data may be `null`, but not missing. -/
def storage : Json.Reader Unit := object "DriverData" [
  needed "Name" text, needed "Data" (Json.Scalar.optional textsByName)]

end LogWeave.Docker.Form
