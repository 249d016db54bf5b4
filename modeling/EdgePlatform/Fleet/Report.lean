import EdgePlatform.Fleet.Hierarchy

/-!
# `EdgePlatform.Fleet.Report` — the resource report of a VM

`validate_vm_resource_report`: one bounded diagnostic of the containers, the network, the processes, the
credential slot and the managed objects of a host. Every part is structural: sizes, closed texts, and fields
that must agree.

Parsing and displaying IP addresses is the standard library's (`IpText`).
-/

namespace EdgePlatform.Fleet

open Foundation Foundation.Wire
open Host (FleetHost FleetHostKind FleetVmContainer FleetVmConfigProof FleetVmObservedReason
  FleetVmInstalledPolicyStatus allZero)

/-! ## Addresses -/

inductive IpAddr
  | v4 (n : BitVec 32)
  | v6 (n : BitVec 128)
deriving DecidableEq

/-- `IpAddr::from_str` and `IpAddr::to_string`. -/
structure IpText where
  parse : String → Option IpAddr
  display : IpAddr → String

def IpText.isV4 (T : IpText) (text : String) : Bool :=
  match T.parse text with
  | some (.v4 _) => true
  | _ => false

def IpText.isV6 (T : IpText) (text : String) : Bool :=
  match T.parse text with
  | some (.v6 _) => true
  | _ => false

/-! ## Messages -/

inductive FleetVmIpFamily
  | unspecified | v4 | v6
deriving DecidableEq

inductive FleetVmRuntimeFailureClass
  | unproven | stateErrorOther | configParse | permission | portBind | dns | upstreamRefused
  | tls | processCrash | fileMissing
deriving DecidableEq

inductive FleetVmCredentialState
  | unspecified | storeAbsent | activeLocalValid | candidateOnly | legacyPresent | unproven
deriving DecidableEq

inductive FleetVmBootstrapPhase
  | unspecified | trustUnproven | journalUnknownNoReplay | receiptKeyGitRegistrationRequired
  | receiptKeyMismatchOrUnproven | workerActiveCredentialRequired | localPrerequisitesOnly
  | firstUseWorkerSourceUnverified | firstUseGitSourceRequired | firstUseWorkerSourceVerifiedLocal
  | firstUseWorkerSourceMismatch | firstUseWorkerSourceUnavailable
deriving DecidableEq

inductive FleetVmManagedDockerKind
  | unspecified | localVolume | bridgeNetwork | container
deriving DecidableEq

inductive FleetVmManagedDockerDesiredState
  | unspecified | present | absent | stopped
deriving DecidableEq

instance : ProtoEnum FleetVmIpFamily where
  all := [.unspecified, .v4, .v6]
  code := FleetVmIpFamily.ctorIdx

instance : ProtoEnum FleetVmRuntimeFailureClass where
  all := [.unproven, .stateErrorOther, .configParse, .permission, .portBind, .dns, .upstreamRefused, .tls,
    .processCrash, .fileMissing]
  code := FleetVmRuntimeFailureClass.ctorIdx

instance : ProtoEnum FleetVmCredentialState where
  all := [.unspecified, .storeAbsent, .activeLocalValid, .candidateOnly, .legacyPresent, .unproven]
  code := FleetVmCredentialState.ctorIdx

instance : ProtoEnum FleetVmBootstrapPhase where
  all := [.unspecified, .trustUnproven, .journalUnknownNoReplay, .receiptKeyGitRegistrationRequired,
    .receiptKeyMismatchOrUnproven, .workerActiveCredentialRequired, .localPrerequisitesOnly,
    .firstUseWorkerSourceUnverified, .firstUseGitSourceRequired, .firstUseWorkerSourceVerifiedLocal,
    .firstUseWorkerSourceMismatch, .firstUseWorkerSourceUnavailable]
  code := FleetVmBootstrapPhase.ctorIdx

instance : ProtoEnum FleetVmManagedDockerKind where
  all := [.unspecified, .localVolume, .bridgeNetwork, .container]
  code := FleetVmManagedDockerKind.ctorIdx

instance : ProtoEnum FleetVmManagedDockerDesiredState where
  all := [.unspecified, .present, .absent, .stopped]
  code := FleetVmManagedDockerDesiredState.ctorIdx

structure FleetVmResourceReadback where
  resource : Option FleetVmContainer
  present : Bool
  ownershipProven : Bool
  running : Bool
  runningProven : Bool
  containerId : String
  image : String
  health : String
  restartCount : UInt64
  restartCountProven : Bool
  reasonCode : String
  configProof : Int32
  configSha256 : Bytes
  observedReason : Int32
  lastExitCode : Int64
  lastExitCodeProven : Bool
  oomKilled : Bool
  oomKilledProven : Bool
  dockerStateErrorPresent : Bool
  runtimeFailureClass : Int32
deriving DecidableEq

structure Ipv4LinkObservation where
  interfaceIndex : UInt32
  name : String
  up : Bool
  lowerUp : Bool
  loopback : Bool
deriving DecidableEq

structure Ipv4AddressObservation where
  interfaceIndex : UInt32
  address : String
  prefixLength : UInt32
  globalScope : Bool
deriving DecidableEq

structure Ipv4RouteObservation where
  destination : String
  prefixLength : UInt32
  outputInterfaceIndex : UInt32
  preferredSource : Option String
  kernelProtocol : Bool
  linkScope : Bool
deriving DecidableEq

structure Ipv4NetworkObservation where
  links : List Ipv4LinkObservation
  addresses : List Ipv4AddressObservation
  routes : List Ipv4RouteObservation
deriving DecidableEq

structure FleetVmKernelAddress where
  interfaceIndex : UInt32
  family : Int32
  address : String
  prefixLength : UInt32
  globalScope : Bool
deriving DecidableEq

structure FleetVmKernelRoute where
  family : Int32
  destination : String
  prefixLength : UInt32
  outputInterfaceIndex : UInt32
  gateway : String
  preferredSource : String
  tableId : UInt32
  metric : UInt32
  kernelProtocol : Bool
  linkScope : Bool
deriving DecidableEq

structure FleetVmKernelPolicyRule where
  family : Int32
  tableId : UInt32
  priority : UInt32
  fwMark : UInt32
  fwMarkPresent : Bool
deriving DecidableEq

structure FleetVmDualStackNetwork where
  links : List Ipv4LinkObservation
  addresses : List FleetVmKernelAddress
  routes : List FleetVmKernelRoute
  ipv4RouteDumpComplete : Bool
  ipv6RouteDumpComplete : Bool
  policyRules : List FleetVmKernelPolicyRule
  ipv4RuleDumpComplete : Bool
  ipv6RuleDumpComplete : Bool
deriving DecidableEq

structure FleetVmNetworkReadback where
  ipv4 : Option Ipv4NetworkObservation
  dnsNameservers : List String
  dnsConfigurationObserved : Bool
  nftRulesetSha256 : Bytes
  nftRuleCount : UInt32
  nftRulesetObserved : Bool
  dualStack : Option FleetVmDualStackNetwork
  dualStackErrorCode : String
deriving DecidableEq

structure FleetVmCredentialReadback where
  state : Int32
  activeGeneration : UInt64
  candidateGeneration : UInt64
deriving DecidableEq

structure FleetVmProcessEvidence where
  pid : UInt32
  parentPid : UInt32
  realUid : UInt32
  stateCode : String
  commandNameSha256 : Bytes
  readErrorCode : String
deriving DecidableEq

structure FleetVmProcessSnapshot where
  observedCount : UInt32
  truncated : Bool
  processes : List FleetVmProcessEvidence
  procfsReadable : Bool
  readErrorCount : UInt32
deriving DecidableEq

structure FleetVmManagedDockerReadback where
  resourceName : String
  kind : Int32
  desiredState : Int32
  manifestSha256 : Bytes
  present : Bool
  ownershipProven : Bool
  fingerprintSha256 : Bytes
  reasonCode : String
  converged : Bool
deriving DecidableEq

structure FleetVmManagedKernelRouteReadback where
  resourceName : String
  family : Int32
  tableId : UInt32
  manifestSha256 : Bytes
  present : Bool
  converged : Bool
  reasonCode : String
deriving DecidableEq

/-- The readback of a managed DNS link or firewall table: two messages of one shape. -/
structure FleetVmManagedReadback where
  resourceName : String
  manifestSha256 : Bytes
  present : Bool
  converged : Bool
  reasonCode : String
deriving DecidableEq

structure FleetVmResourceReport where
  schemaVersion : UInt32
  machineId : String
  observedAtUnix : UInt64
  resources : List FleetVmResourceReadback
  remoteAttested : Bool
  network : Option FleetVmNetworkReadback
  installedPolicyGraph : Option FleetVmDesiredGraph
  installedPolicyStatus : Int32
  installedPolicyErrorCode : String
  credential : Option FleetVmCredentialReadback
  bootstrapPhase : Int32
  processes : Option FleetVmProcessSnapshot
  managedDocker : List FleetVmManagedDockerReadback
  managedKernelRoutes : List FleetVmManagedKernelRouteReadback
  managedFirewall : List FleetVmManagedReadback
  managedSystemDns : List FleetVmManagedReadback
deriving DecidableEq

/-! ## Encodings -/

/-- An `int64` field. -/
def i64Value (x : Int64) : Option Value := natValue (x.toInt % 2 ^ 64).toNat

def FleetVmResourceReadback.encodeToVec (r : FleetVmResourceReadback) : Bytes :=
  encodeFields (put 1 (messageValue (r.resource.map encodeContainer)) ++ put 2 (boolValue r.present) ++
    put 3 (boolValue r.ownershipProven) ++ put 4 (boolValue r.running) ++
    put 5 (boolValue r.runningProven) ++ put 6 (stringValue r.containerId) ++ put 7 (stringValue r.image) ++
    put 8 (stringValue r.health) ++ put 9 (u64Value r.restartCount) ++
    put 10 (boolValue r.restartCountProven) ++ put 11 (stringValue r.reasonCode) ++
    put 12 (i32Value r.configProof) ++ put 13 (bytesValue r.configSha256) ++
    put 14 (i32Value r.observedReason) ++ put 15 (i64Value r.lastExitCode) ++
    put 16 (boolValue r.lastExitCodeProven) ++ put 17 (boolValue r.oomKilled) ++
    put 18 (boolValue r.oomKilledProven) ++ put 19 (boolValue r.dockerStateErrorPresent) ++
    put 20 (i32Value r.runtimeFailureClass))

def Ipv4LinkObservation.encodeToVec (l : Ipv4LinkObservation) : Bytes :=
  encodeFields (put 1 (u32Value l.interfaceIndex) ++ put 2 (stringValue l.name) ++ put 3 (boolValue l.up) ++
    put 4 (boolValue l.lowerUp) ++ put 5 (boolValue l.loopback))

def Ipv4AddressObservation.encodeToVec (a : Ipv4AddressObservation) : Bytes :=
  encodeFields (put 1 (u32Value a.interfaceIndex) ++ put 2 (stringValue a.address) ++
    put 3 (u32Value a.prefixLength) ++ put 4 (boolValue a.globalScope))

def Ipv4RouteObservation.encodeToVec (r : Ipv4RouteObservation) : Bytes :=
  encodeFields (put 1 (stringValue r.destination) ++ put 2 (u32Value r.prefixLength) ++
    put 3 (u32Value r.outputInterfaceIndex) ++ put 4 (messageValue (r.preferredSource.map utf8)) ++
    put 5 (boolValue r.kernelProtocol) ++ put 6 (boolValue r.linkScope))

def Ipv4NetworkObservation.encodeToVec (n : Ipv4NetworkObservation) : Bytes :=
  encodeFields (putMessages 1 Ipv4LinkObservation.encodeToVec n.links ++
    putMessages 2 Ipv4AddressObservation.encodeToVec n.addresses ++
    putMessages 3 Ipv4RouteObservation.encodeToVec n.routes)

def FleetVmKernelAddress.encodeToVec (a : FleetVmKernelAddress) : Bytes :=
  encodeFields (put 1 (u32Value a.interfaceIndex) ++ put 2 (i32Value a.family) ++
    put 3 (stringValue a.address) ++ put 4 (u32Value a.prefixLength) ++ put 5 (boolValue a.globalScope))

def FleetVmKernelRoute.encodeToVec (r : FleetVmKernelRoute) : Bytes :=
  encodeFields (put 1 (i32Value r.family) ++ put 2 (stringValue r.destination) ++
    put 3 (u32Value r.prefixLength) ++ put 4 (u32Value r.outputInterfaceIndex) ++
    put 5 (stringValue r.gateway) ++ put 6 (stringValue r.preferredSource) ++ put 7 (u32Value r.tableId) ++
    put 8 (u32Value r.metric) ++ put 9 (boolValue r.kernelProtocol) ++ put 10 (boolValue r.linkScope))

def FleetVmKernelPolicyRule.encodeToVec (r : FleetVmKernelPolicyRule) : Bytes :=
  encodeFields (put 1 (i32Value r.family) ++ put 2 (u32Value r.tableId) ++ put 3 (u32Value r.priority) ++
    put 4 (u32Value r.fwMark) ++ put 5 (boolValue r.fwMarkPresent))

def FleetVmDualStackNetwork.encodeToVec (n : FleetVmDualStackNetwork) : Bytes :=
  encodeFields (putMessages 1 Ipv4LinkObservation.encodeToVec n.links ++
    putMessages 2 FleetVmKernelAddress.encodeToVec n.addresses ++
    putMessages 3 FleetVmKernelRoute.encodeToVec n.routes ++ put 4 (boolValue n.ipv4RouteDumpComplete) ++
    put 5 (boolValue n.ipv6RouteDumpComplete) ++
    putMessages 6 FleetVmKernelPolicyRule.encodeToVec n.policyRules ++
    put 7 (boolValue n.ipv4RuleDumpComplete) ++ put 8 (boolValue n.ipv6RuleDumpComplete))

def FleetVmNetworkReadback.encodeToVec (n : FleetVmNetworkReadback) : Bytes :=
  encodeFields (put 1 (messageValue (n.ipv4.map Ipv4NetworkObservation.encodeToVec)) ++
    putStrings 2 n.dnsNameservers ++ put 3 (boolValue n.dnsConfigurationObserved) ++
    put 4 (bytesValue n.nftRulesetSha256) ++ put 5 (u32Value n.nftRuleCount) ++
    put 6 (boolValue n.nftRulesetObserved) ++
    put 7 (messageValue (n.dualStack.map FleetVmDualStackNetwork.encodeToVec)) ++
    put 8 (stringValue n.dualStackErrorCode))

def FleetVmCredentialReadback.encodeToVec (c : FleetVmCredentialReadback) : Bytes :=
  encodeFields (put 1 (i32Value c.state) ++ put 2 (u64Value c.activeGeneration) ++
    put 3 (u64Value c.candidateGeneration))

def FleetVmProcessEvidence.encodeToVec (p : FleetVmProcessEvidence) : Bytes :=
  encodeFields (put 1 (u32Value p.pid) ++ put 2 (u32Value p.parentPid) ++ put 3 (u32Value p.realUid) ++
    put 4 (stringValue p.stateCode) ++ put 5 (bytesValue p.commandNameSha256) ++
    put 6 (stringValue p.readErrorCode))

def FleetVmProcessSnapshot.encodeToVec (s : FleetVmProcessSnapshot) : Bytes :=
  encodeFields (put 1 (u32Value s.observedCount) ++ put 2 (boolValue s.truncated) ++
    putMessages 3 FleetVmProcessEvidence.encodeToVec s.processes ++ put 4 (boolValue s.procfsReadable) ++
    put 5 (u32Value s.readErrorCount))

def FleetVmManagedDockerReadback.encodeToVec (r : FleetVmManagedDockerReadback) : Bytes :=
  encodeFields (put 1 (stringValue r.resourceName) ++ put 2 (i32Value r.kind) ++
    put 3 (i32Value r.desiredState) ++ put 4 (bytesValue r.manifestSha256) ++ put 5 (boolValue r.present) ++
    put 6 (boolValue r.ownershipProven) ++ put 7 (bytesValue r.fingerprintSha256) ++
    put 8 (stringValue r.reasonCode) ++ put 9 (boolValue r.converged))

def FleetVmManagedKernelRouteReadback.encodeToVec (r : FleetVmManagedKernelRouteReadback) : Bytes :=
  encodeFields (put 1 (stringValue r.resourceName) ++ put 2 (i32Value r.family) ++
    put 3 (u32Value r.tableId) ++ put 4 (bytesValue r.manifestSha256) ++ put 5 (boolValue r.present) ++
    put 6 (boolValue r.converged) ++ put 7 (stringValue r.reasonCode))

def FleetVmManagedReadback.encodeToVec (r : FleetVmManagedReadback) : Bytes :=
  encodeFields (put 1 (stringValue r.resourceName) ++ put 2 (bytesValue r.manifestSha256) ++
    put 3 (boolValue r.present) ++ put 4 (boolValue r.converged) ++ put 5 (stringValue r.reasonCode))

def FleetVmResourceReport.encodeToVec (r : FleetVmResourceReport) : Bytes :=
  encodeFields (put 1 (u32Value r.schemaVersion) ++ put 2 (stringValue r.machineId) ++
    put 3 (u64Value r.observedAtUnix) ++ putMessages 4 FleetVmResourceReadback.encodeToVec r.resources ++
    put 5 (boolValue r.remoteAttested) ++
    put 6 (messageValue (r.network.map FleetVmNetworkReadback.encodeToVec)) ++
    put 7 (messageValue (r.installedPolicyGraph.map FleetVmDesiredGraph.encodeToVec)) ++
    put 8 (i32Value r.installedPolicyStatus) ++ put 9 (stringValue r.installedPolicyErrorCode) ++
    put 10 (messageValue (r.credential.map FleetVmCredentialReadback.encodeToVec)) ++
    put 11 (i32Value r.bootstrapPhase) ++
    put 12 (messageValue (r.processes.map FleetVmProcessSnapshot.encodeToVec)) ++
    putMessages 13 FleetVmManagedDockerReadback.encodeToVec r.managedDocker ++
    putMessages 14 FleetVmManagedKernelRouteReadback.encodeToVec r.managedKernelRoutes ++
    putMessages 15 FleetVmManagedReadback.encodeToVec r.managedFirewall ++
    putMessages 16 FleetVmManagedReadback.encodeToVec r.managedSystemDns)

def maxVmResourceReportBytes : Nat := 32768

/-! ## Network and process evidence -/

def isLinkNameByte (b : UInt8) : Bool := isAsciiAlphanumeric b || [95, 46, 45, 58, 64].contains b

/-- An upper-case code such as `VM_STATE_1`. -/
def isCodeByte (b : UInt8) : Bool := isAsciiUppercase b || isAsciiDigit b || b = 95

def linkInvalid (link : Ipv4LinkObservation) : Prop :=
  link.interfaceIndex = 0 ∨ link.name = "" ∨ (utf8 link.name).length > 64 ∨
    ¬ (utf8 link.name).all isLinkNameByte

instance (link : Ipv4LinkObservation) : Decidable (linkInvalid link) := by unfold linkInvalid; infer_instance

/-- The text is an address of the stated family. -/
def sameFamily (T : IpText) (family : Int32) (text : String) : Bool :=
  match tryFrom FleetVmIpFamily family with
  | some .v4 => T.isV4 text
  | some .v6 => T.isV6 text
  | _ => false

/-- The pass over the links collects their indices. -/
def validateLinks : List UInt32 → List Ipv4LinkObservation → Except String (List UInt32)
  | links, [] => .ok links
  | links, link :: rest => do
      rejectIf (linkInvalid link ∨ link.interfaceIndex ∈ links) "VM_DUAL_STACK_LINK_INVALID"
      validateLinks (link.interfaceIndex :: links) rest

/-- The prefix does not fit the family. -/
def prefixTooLong (family : Int32) (length : UInt32) : Prop :=
  (family = toI32 FleetVmIpFamily.v4 ∧ length > 32) ∨ (family = toI32 FleetVmIpFamily.v6 ∧ length > 128)

instance (family : Int32) (length : UInt32) : Decidable (prefixTooLong family length) := by
  unfold prefixTooLong; infer_instance

def policyRuleInvalid (rule : FleetVmKernelPolicyRule) : Prop :=
  (tryFrom FleetVmIpFamily rule.family ≠ some .v4 ∧ tryFrom FleetVmIpFamily rule.family ≠ some .v6) ∨
    (rule.fwMarkPresent = false ∧ rule.fwMark ≠ 0)

instance (rule : FleetVmKernelPolicyRule) : Decidable (policyRuleInvalid rule) := by
  unfold policyRuleInvalid; infer_instance

/-- Whole dumps, whose addresses and routes are on known links. -/
def validateVmDualStackNetwork (T : IpText) (kernel : FleetVmDualStackNetwork) : Except String Unit := do
  rejectIf (kernel.ipv4RuleDumpComplete = false ∨ kernel.ipv6RuleDumpComplete = false ∨
    kernel.policyRules.length > 256 ∨ (∃ rule ∈ kernel.policyRules, policyRuleInvalid rule) ∨
    kernel.ipv4RouteDumpComplete = false ∨ kernel.ipv6RouteDumpComplete = false ∨ kernel.links.length > 128 ∨
    kernel.addresses.length > 256 ∨ kernel.routes.length > 512 ∨ kernel.encodeToVec.length > 24576)
    "VM_DUAL_STACK_DUMP_INCOMPLETE_OR_OVERSIZE"
  let links ← validateLinks [] kernel.links
  kernel.addresses.forM fun address =>
    rejectIf (address.interfaceIndex ∉ links ∨ sameFamily T address.family address.address = false ∨
      prefixTooLong address.family address.prefixLength) "VM_DUAL_STACK_ADDRESS_INVALID"
  kernel.routes.forM fun route =>
    rejectIf (sameFamily T route.family route.destination = false ∨
      (route.gateway ≠ "" ∧ sameFamily T route.family route.gateway = false) ∨
      (route.preferredSource ≠ "" ∧ sameFamily T route.family route.preferredSource = false) ∨
      prefixTooLong route.family route.prefixLength ∨
      (route.outputInterfaceIndex ≠ 0 ∧ route.outputInterfaceIndex ∉ links)) "VM_DUAL_STACK_ROUTE_INVALID"

def validateIpv4 (T : IpText) (ipv4 : Ipv4NetworkObservation) : Except String Unit :=
  rejectIf (ipv4.links.length > 128 ∨ ipv4.addresses.length > 256 ∨ ipv4.routes.length > 512 ∨
    (∃ link ∈ ipv4.links, linkInvalid link) ∨
    (∃ address ∈ ipv4.addresses, T.isV4 address.address = false ∨ address.prefixLength > 32 ∨
      ¬ ipv4.links.any (·.interfaceIndex = address.interfaceIndex)) ∨
    (∃ route ∈ ipv4.routes, T.isV4 route.destination = false ∨ route.prefixLength > 32 ∨
      (route.outputInterfaceIndex ≠ 0 ∧ ¬ ipv4.links.any (·.interfaceIndex = route.outputInterfaceIndex)) ∨
      (∃ source ∈ route.preferredSource, T.isV4 source = false)) ∨
    ipv4.encodeToVec.length > 24576) "VM_NETWORK_KERNEL_EVIDENCE_INVALID"

/-- What was not observed is not reported. -/
def validateVmNetworkReadback (T : IpText) (network : FleetVmNetworkReadback) : Except String Unit := do
  rejectIf (network.dnsNameservers.length > 8 ∨
    (∃ address ∈ network.dnsNameservers, T.parse address = none) ∨
    (network.dnsConfigurationObserved = false ∧ network.dnsNameservers ≠ []) ∨
    (network.nftRulesetObserved = false ∧ (network.nftRulesetSha256 ≠ [] ∨ network.nftRuleCount ≠ 0)) ∨
    (network.nftRulesetObserved = true ∧ digestMalformed network.nftRulesetSha256))
    "VM_NETWORK_EVIDENCE_INVALID"
  rejectIf (¬ network.dnsNameservers.Nodup) "VM_NETWORK_DNS_DUPLICATE"
  (match network.dualStack with
    | some kernel => do
        rejectIf (network.dualStackErrorCode ≠ "") "VM_DUAL_STACK_CONTRADICTORY_EVIDENCE"
        validateVmDualStackNetwork T kernel
    | none =>
      rejectIf (network.dualStackErrorCode ≠ "" ∧ ((utf8 network.dualStackErrorCode).length > 96 ∨
        ¬ (utf8 network.dualStackErrorCode).all isCodeByte)) "VM_DUAL_STACK_ERROR_CODE_INVALID")
  match network.ipv4 with
  | some ipv4 => validateIpv4 T ipv4
  | none => .ok ()

def processStates : List String := ["R", "S", "D", "Z", "T", "I", "X", "W", "K", "P", "?"]

def processErrors : List String := ["STAT_UNAVAILABLE", "STAT_INVALID", "METADATA_UNAVAILABLE"]

/-- The pass over the processes: identifiers ascend, and the unreadable ones are counted. -/
def validateProcesses : (prev : UInt32) → (errors : Nat) → List FleetVmProcessEvidence → Except String Nat
  | _, errors, [] => .ok errors
  | prev, errors, process :: rest => do
      rejectIf (process.pid = 0 ∨ process.pid ≤ prev ∨ process.stateCode ∉ processStates)
        "VM_PROCESS_SNAPSHOT_ORDER_OR_STATE_INVALID"
      if process.readErrorCode = "" then do
        rejectIf (digestMalformed process.commandNameSha256 ∨ process.stateCode = "?")
          "VM_PROCESS_SNAPSHOT_COMMAND_PROOF_INVALID"
        validateProcesses process.pid errors rest
      else do
        rejectIf (process.readErrorCode ∉ processErrors ∨ process.commandNameSha256 ≠ [] ∨
          process.stateCode ≠ "?" ∨ process.parentPid ≠ 0) "VM_PROCESS_SNAPSHOT_ERROR_INVALID"
        validateProcesses process.pid (errors + 1) rest

/-- The counts fit the listed processes. -/
def validateVmProcessSnapshot (snapshot : FleetVmProcessSnapshot) : Except String Unit := do
  rejectIf (snapshot.processes.length > 4096 ∨ snapshot.observedCount.toNat < snapshot.processes.length ∨
    snapshot.truncated ≠ decide (snapshot.observedCount.toNat > snapshot.processes.length) ∨
    (snapshot.procfsReadable = false ∧ (snapshot.processes ≠ [] ∨ snapshot.observedCount ≠ 0)) ∨
    snapshot.readErrorCount.toNat > snapshot.processes.length) "VM_PROCESS_SNAPSHOT_SCOPE_INVALID"
  let errors ← validateProcesses 0 0 snapshot.processes
  rejectIf (errors ≠ snapshot.readErrorCount.toNat) "VM_PROCESS_SNAPSHOT_ERROR_COUNT_INVALID"

/-! ## Credential and bootstrap -/

def credentialConsistent (state : FleetVmCredentialState) (active candidate : UInt64) : Bool :=
  match state with
  | .activeLocalValid => active > 0
  | .candidateOnly => active = 0 && candidate > 0
  | .storeAbsent | .legacyPresent | .unproven => active = 0 && candidate = 0
  | .unspecified => false

/-- The generations fit the state. -/
def validateVmCredentialReadback (readback : FleetVmCredentialReadback) : Except String Unit := do
  let state ← okOr (tryFrom FleetVmCredentialState readback.state) "VM_CREDENTIAL_STATE_INVALID"
  rejectIf (credentialConsistent state readback.activeGeneration readback.candidateGeneration = false)
    "VM_CREDENTIAL_READBACK_INCONSISTENT"

def bootstrapConsistent (phase : FleetVmBootstrapPhase) (host : FleetHost)
    (credential : FleetVmCredentialReadback) :
    Bool :=
  let gitKey := host.nativeReceiptPublicKey
  let gitPinned := gitKey.length = 32 && !allZero gitKey
  let active := credential.state = toI32 FleetVmCredentialState.activeLocalValid &&
      credential.activeGeneration > 0
  let absent := credential.state = toI32 FleetVmCredentialState.storeAbsent
  match phase with
  | .unspecified | .trustUnproven | .journalUnknownNoReplay => true
  | .receiptKeyGitRegistrationRequired => gitKey.isEmpty || gitPinned
  | .receiptKeyMismatchOrUnproven => gitPinned
  | .workerActiveCredentialRequired => gitPinned && !active && !absent
  | .localPrerequisitesOnly => gitPinned && active
  | .firstUseWorkerSourceUnverified | .firstUseWorkerSourceVerifiedLocal | .firstUseWorkerSourceMismatch
  | .firstUseWorkerSourceUnavailable => gitPinned && absent && host.vmFirstUseCredential.isSome
  | .firstUseGitSourceRequired => gitPinned && absent && host.vmFirstUseCredential.isNone

/-- The phase fits the host and its credential. -/
def validateVmBootstrapPhase (phase : Int32) (host : FleetHost) (credential : FleetVmCredentialReadback) :
    Except String Unit := do
  let phase ← okOr (tryFrom FleetVmBootstrapPhase phase) "VM_BOOTSTRAP_PHASE_UNKNOWN"
  rejectIf (bootstrapConsistent phase host credential = false) "VM_BOOTSTRAP_PHASE_DEPENDENCY_CONFLICT"

/-! ## The installed policy -/

/-- A code that a policy error may have. -/
def validVmPolicyErrorCode (code : String) : Bool :=
  code ≠ "" && (utf8 code).length ≤ 128 && startsWith code "HOST_" && (utf8 code).all isCodeByte

def validateInstalledPolicy (report : FleetVmResourceReport) (host : FleetHost) : Except String Unit := do
  let status ← okOr (tryFrom FleetVmInstalledPolicyStatus report.installedPolicyStatus)
    "VM_INSTALLED_POLICY_STATUS_INVALID"
  match status with
  | .valid => do
      rejectIf (report.installedPolicyErrorCode ≠ "") "VM_INSTALLED_POLICY_SUCCESS_WITH_ERROR"
      let installed ← okOr report.installedPolicyGraph "VM_INSTALLED_POLICY_GRAPH_MISSING"
      let _ ← deriveVmResourceHierarchy host installed
      pure ()
  | .unspecified =>
    rejectIf (report.installedPolicyGraph.isSome ∨ report.installedPolicyErrorCode ≠ "")
      "VM_INSTALLED_POLICY_STATUS_UNPROVEN_CONFLICT"
  | .composeInvalid | .imageInvalid | .networkInvalid | .dependencyInvalid | .configInvalid
  | .otherInvalid =>
    rejectIf (report.installedPolicyGraph.isSome ∨
      validVmPolicyErrorCode report.installedPolicyErrorCode = false)
      "VM_INSTALLED_POLICY_FAILURE_INVALID"

/-! ## Managed objects -/

/-- The names a report may carry for a host. -/
def reportNameInScope (machineId name : String) : Bool :=
  startsWith name ("sb-" ++ machineId ++ "-") && (utf8 name).length ≤ 112

def reasonCodeInvalid (code : String) : Prop :=
  code = "" ∨ (utf8 code).length > 96 ∨ ¬ (utf8 code).all isCodeByte

instance (code : String) : Decidable (reasonCodeInvalid code) := by unfold reasonCodeInvalid; infer_instance

def validateManagedDocker (host : FleetHost) : (names : List String) → List FleetVmManagedDockerReadback →
    Except String Unit
  | _, [] => .ok ()
  | names, row :: rest => do
      rejectIf (reasonCodeInvalid row.reasonCode ∨ row.present ≠ row.ownershipProven ∨
        row.present ≠ !row.fingerprintSha256.isEmpty ∨
        (row.fingerprintSha256 ≠ [] ∧ row.fingerprintSha256.length ≠ 32) ∨
        (row.converged = true ∧ startsWith row.reasonCode "DESIRED_" = false))
        "VM_MANAGED_DOCKER_EVIDENCE_INVALID"
      if row.resourceName = "" then do
        rejectIf (row.kind ≠ 0 ∨ row.desiredState ≠ 0 ∨ row.manifestSha256 ≠ [] ∨ row.present = true ∨
          row.converged = true) "VM_MANAGED_DOCKER_UNSCOPED_EVIDENCE"
        validateManagedDocker host names rest
      else do
        rejectIf (reportNameInScope host.machineId row.resourceName = false ∨ row.resourceName ∈ names ∨
          row.manifestSha256.length ≠ 32 ∨
          (tryFrom FleetVmManagedDockerKind row.kind ≠ some .localVolume ∧
            tryFrom FleetVmManagedDockerKind row.kind ≠ some .bridgeNetwork ∧
            tryFrom FleetVmManagedDockerKind row.kind ≠ some .container) ∨
          (tryFrom FleetVmManagedDockerDesiredState row.desiredState ≠ some .present ∧
            tryFrom FleetVmManagedDockerDesiredState row.desiredState ≠ some .absent ∧
            tryFrom FleetVmManagedDockerDesiredState row.desiredState ≠ some .stopped))
          "VM_MANAGED_DOCKER_RESOURCE_SCOPE_INVALID"
        validateManagedDocker host (row.resourceName :: names) rest

def validateManagedRoutes (host : FleetHost) :
    (names : List String) → List FleetVmManagedKernelRouteReadback → Except String Unit
  | _, [] => .ok ()
  | names, row :: rest => do
      rejectIf (reasonCodeInvalid row.reasonCode ∨
        row.converged ≠ (row.present && row.reasonCode == "DESIRED_PRESENT"))
        "VM_MANAGED_ROUTE_EVIDENCE_INVALID"
      if row.resourceName = "" then do
        rejectIf (row.family ≠ 0 ∨ row.tableId ≠ 0 ∨ row.manifestSha256 ≠ [] ∨ row.present = true ∨
          row.converged = true) "VM_MANAGED_ROUTE_UNSCOPED_EVIDENCE"
        validateManagedRoutes host names rest
      else do
        rejectIf (reportNameInScope host.machineId row.resourceName = false ∨ row.resourceName ∈ names ∨
          row.manifestSha256.length ≠ 32 ∨
          (tryFrom FleetVmIpFamily row.family ≠ some .v4 ∧ tryFrom FleetVmIpFamily row.family ≠ some .v6) ∨
          ¬ (20000 ≤ row.tableId ∧ row.tableId ≤ 20999)) "VM_MANAGED_ROUTE_SCOPE_INVALID"
        validateManagedRoutes host (row.resourceName :: names) rest

/-- The errors of the two readbacks that share a shape. -/
structure ManagedErrors where
  evidence : String
  unscoped : String
  scope : String

def validateManagedRows (errors : ManagedErrors) (host : FleetHost) :
    (names : List String) → List FleetVmManagedReadback → Except String Unit
  | _, [] => .ok ()
  | names, row :: rest => do
      rejectIf (reasonCodeInvalid row.reasonCode ∨
        row.converged ≠ (row.present && row.reasonCode == "DESIRED_PRESENT")) errors.evidence
      if row.resourceName = "" then do
        rejectIf (row.present = true ∨ row.converged = true ∨ row.manifestSha256 ≠ []) errors.unscoped
        validateManagedRows errors host names rest
      else do
        rejectIf (reportNameInScope host.machineId row.resourceName = false ∨
          row.manifestSha256.length ≠ 32 ∨ row.resourceName ∈ names) errors.scope
        validateManagedRows errors host (row.resourceName :: names) rest

def validateManagedSystemDns : FleetHost → List String → List FleetVmManagedReadback → Except String Unit :=
  validateManagedRows ⟨"VM_MANAGED_SYSTEM_DNS_EVIDENCE_INVALID", "VM_MANAGED_SYSTEM_DNS_UNSCOPED_EVIDENCE",
    "VM_MANAGED_SYSTEM_DNS_SCOPE_INVALID"⟩

def validateManagedFirewall : FleetHost → List String → List FleetVmManagedReadback → Except String Unit :=
  validateManagedRows ⟨"VM_MANAGED_FIREWALL_EVIDENCE_INVALID", "VM_MANAGED_FIREWALL_UNSCOPED_EVIDENCE",
    "VM_MANAGED_FIREWALL_RESOURCE_SCOPE_INVALID"⟩

/-! ## Containers -/

/-- A Docker id. -/
def validContainerId (value : String) : Bool := (utf8 value).length = 64 && (utf8 value).all isAsciiHexdigit

/-- The digest of the configuration fits its proof. -/
def configProofConsistent (row : FleetVmResourceReadback) (expected : FleetVmContainer) : Bool :=
  match tryFrom FleetVmConfigProof row.configProof with
  | some .unproven => row.configSha256.isEmpty
  | some .notApplicable => expected.composeService = "warp-egress" && row.configSha256.isEmpty
  | some .notRunning => !row.running && row.configSha256.isEmpty
  | some .boundRunningProcess =>
    decide (isGateway expected.composeService) && row.present && row.ownershipProven && row.runningProven &&
      row.running && decide (¬ digestMalformed row.configSha256)
  | none => false

/-- The name of a reason after its common part. -/
def observedReasonCode : FleetVmObservedReason → String
  | .unspecified => "UNSPECIFIED"
  | .dockerUnavailable => "DOCKER_UNAVAILABLE"
  | .containerAbsent => "CONTAINER_ABSENT"
  | .inspectUnavailable => "INSPECT_UNAVAILABLE"
  | .foreignOwner => "FOREIGN_OWNER"
  | .stateUnproven => "STATE_UNPROVEN"
  | .healthy => "HEALTHY"
  | .healthStarting => "HEALTH_STARTING"
  | .healthUnhealthy => "HEALTH_UNHEALTHY"
  | .runningNoHealthcheck => "RUNNING_NO_HEALTHCHECK"
  | .healthUnproven => "HEALTH_UNPROVEN"
  | .stopped => "STOPPED"

/-- The reason fits what was observed. -/
def reasonConsistent (row : FleetVmResourceReadback) : Bool :=
  let proven := row.present && row.ownershipProven && row.runningProven
  match tryFrom FleetVmObservedReason row.observedReason with
  | none | some .unspecified => false
  | some reason =>
    row.reasonCode = observedReasonCode reason &&
      match reason with
      | .containerAbsent | .dockerUnavailable | .inspectUnavailable => !row.present
      | .foreignOwner => row.present && !row.ownershipProven
      | .stateUnproven => row.present && row.ownershipProven && !row.runningProven
      | .healthy => proven && row.running && row.health = "HEALTHY"
      | .healthStarting => proven && row.running && row.health = "STARTING"
      | .healthUnhealthy => proven && row.running && row.health = "UNHEALTHY"
      | .runningNoHealthcheck | .healthUnproven => proven && row.running && row.health = ""
      | .stopped => proven && !row.running
      | .unspecified => false

def isImageByte (b : UInt8) : Bool := isAsciiAlphanumeric b || [47, 58, 46, 95, 45, 64].contains b

def rowEvidenceInvalid (row : FleetVmResourceReadback) (expected : FleetVmContainer) : Prop :=
  row.resource ≠ some expected ∨ (utf8 row.image).length > 256 ∨ ¬ (utf8 row.image).all isImageByte ∨
    (utf8 row.health).length > 32 ∨ ¬ (utf8 row.health).all (fun b => isAsciiAlphanumeric b || b = 95) ∨
    (row.present = true ∧ row.ownershipProven = false ∧
      (row.containerId ≠ "" ∨ row.image ≠ "" ∨ row.health ≠ "" ∨ row.running = true ∨
        row.runningProven = true ∨ row.restartCountProven = true)) ∨
    (row.present = false ∧ (row.ownershipProven = true ∨ row.runningProven = true ∨ row.running = true)) ∨
    (row.running = true ∧ row.runningProven = false) ∨
    (row.ownershipProven = true ∧ validContainerId row.containerId = false) ∨
    (row.ownershipProven = false ∧ row.containerId ≠ "") ∨
    (row.restartCount ≠ 0 ∧ row.restartCountProven = false) ∨
    (row.lastExitCodeProven = false ∧ row.lastExitCode ≠ 0) ∨
    (row.oomKilledProven = false ∧ row.oomKilled = true) ∨
    (row.ownershipProven = false ∧ (row.lastExitCodeProven = true ∨ row.oomKilledProven = true ∨
      row.dockerStateErrorPresent = true ∨
      row.runtimeFailureClass ≠ toI32 FleetVmRuntimeFailureClass.unproven)) ∨
    tryFrom FleetVmRuntimeFailureClass row.runtimeFailureClass = none ∨
    row.dockerStateErrorPresent ≠
    decide (row.runtimeFailureClass ≠ toI32 FleetVmRuntimeFailureClass.unproven) ∨
    configProofConsistent row expected = false ∨ reasonConsistent row = false

instance (row : FleetVmResourceReadback) (expected : FleetVmContainer) :
    Decidable (rowEvidenceInvalid row expected) := by
  unfold rowEvidenceInvalid; infer_instance

/-! ## The report -/

def reportScopeInvalid (report : FleetVmResourceReport) (host : FleetHost) : Prop :=
  host.kind ≠ toI32 FleetHostKind.vm ∨ report.schemaVersion ≠ 2 ∨ report.remoteAttested = true ∨
    report.machineId ≠ host.machineId ∨ report.observedAtUnix = 0 ∨ host.vmContainers = [] ∨
    report.resources.length ≠ host.vmContainers.length ∨ report.encodeToVec.length > maxVmResourceReportBytes

instance (report : FleetVmResourceReport) (host : FleetHost) :
    Decidable (reportScopeInvalid report host) := by
  unfold reportScopeInvalid; infer_instance

/-- A check of an optional part. -/
def whenPresent {α : Type} (check : α → Except String Unit) : Option α → Except String Unit
  | some a => check a
  | none => .ok ()

/-- A report covers the registered containers and does not contradict itself. -/
def validateVmResourceReport (T : IpText) (report : FleetVmResourceReport) (host : FleetHost) :
    Except String Unit := do
  rejectIf (reportScopeInvalid report host) "VM_RESOURCE_REPORT_SCOPE_INVALID"
  whenPresent (validateVmNetworkReadback T) report.network
  whenPresent validateVmProcessSnapshot report.processes
  let credential ← okOr report.credential "VM_CREDENTIAL_READBACK_REQUIRED"
  validateVmCredentialReadback credential
  validateVmBootstrapPhase report.bootstrapPhase host credential
  validateInstalledPolicy report host
  rejectIf (report.managedDocker.length > 64) "VM_MANAGED_DOCKER_READBACK_TOO_MANY"
  validateManagedDocker host [] report.managedDocker
  rejectIf (report.managedKernelRoutes.length > 32) "VM_MANAGED_ROUTE_REPORT_OVERSIZE"
  validateManagedRoutes host [] report.managedKernelRoutes
  rejectIf (report.managedSystemDns.length > 32) "VM_MANAGED_SYSTEM_DNS_READBACK_OVERSIZE"
  validateManagedSystemDns host [] report.managedSystemDns
  rejectIf (report.managedFirewall.length > 32) "VM_MANAGED_FIREWALL_READBACK_OVERSIZE"
  validateManagedFirewall host [] report.managedFirewall
  (report.resources.zip host.vmContainers).forM fun p =>
    rejectIf (rowEvidenceInvalid p.1 p.2) "VM_RESOURCE_REPORT_EVIDENCE_INVALID"

end EdgePlatform.Fleet
