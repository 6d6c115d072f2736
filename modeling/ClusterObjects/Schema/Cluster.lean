import ClusterObjects.Schema.Metadata

/-!
# Schemas of the cluster itself

Namespaces, nodes, services, ingresses and the rules of access.
-/

namespace ClusterObjects.Schema

def namespaceStatus : Schema := .struct
  [optional "conditions" (.list (condition ["lastTransitionTime"])), optional "phase" .string]

def nodeConfigSource : Schema := .struct
  [optional "configMap" (.struct
    (requireds .string ["kubeletConfigKey", "name", "namespace"] ++
      optionals .string ["resourceVersion", "uid"]))]

def taint : Schema := .struct
  (requireds .string ["effect", "key"] ++
    [optional "timeAdded" .timestamp, optional "value" .string])

def nodeSpec : Schema := .struct
  (optionals .string ["externalID", "podCIDR", "providerID"] ++
    [optional "configSource" nodeConfigSource, optional "podCIDRs" (.list .string),
      optional "taints" (.list taint), optional "unschedulable" .bool])

def nodeSystemInfo : Schema := .struct
  (requireds .string ["architecture", "bootID", "containerRuntimeVersion", "kernelVersion",
    "kubeProxyVersion", "kubeletVersion", "machineID", "operatingSystem", "osImage",
    "systemUUID"])

def nodeStatus : Schema := .struct
  (optionals quantities ["allocatable", "capacity"] ++
    [optional "addresses" (.list (.struct (requireds .string ["address", "type"]))),
      optional "conditions" (.list (condition ["lastHeartbeatTime", "lastTransitionTime"])),
      optional "config" (.struct
        (optionals nodeConfigSource ["active", "assigned", "lastKnownGood"] ++
          [optional "error" .string])),
      optional "daemonEndpoints" (.struct
        [optional "kubeletEndpoint" (.struct [required "Port" .int32])]),
      optional "features" (.struct [optional "supplementalGroupsPolicy" .bool]),
      optional "images" (.list (.struct
        [optional "names" (.list .string), optional "sizeBytes" .int64])),
      optional "nodeInfo" nodeSystemInfo, optional "phase" .string,
      optional "runtimeHandlers" (.list (.struct
        [optional "features" (.struct
            (optionals .bool ["recursiveReadOnlyMounts", "userNamespaces"])),
          optional "name" .string])),
      optional "volumesAttached" (.list (.struct (requireds .string ["devicePath", "name"]))),
      optional "volumesInUse" (.list .string)])

def servicePort : Schema := .struct
  (optionals .string ["appProtocol", "name", "protocol"] ++
    [optional "nodePort" .int32, required "port" .int32, optional "targetPort" .intOrString])

def serviceSpec : Schema := .struct
  (optionals .string ["clusterIP", "externalName", "externalTrafficPolicy",
    "internalTrafficPolicy", "ipFamilyPolicy", "loadBalancerClass", "loadBalancerIP",
    "sessionAffinity", "trafficDistribution", "type"] ++
    optionals (.list .string)
      ["clusterIPs", "externalIPs", "ipFamilies", "loadBalancerSourceRanges"] ++
    optionals .bool ["allocateLoadBalancerNodePorts", "publishNotReadyAddresses"] ++
    [optional "healthCheckNodePort" .int32, optional "ports" (.list servicePort),
      optional "selector" (.map .string),
      optional "sessionAffinityConfig" (.struct
        [optional "clientIP" (.struct [optional "timeoutSeconds" .int32])])])

/-- A condition that says when it last changed. -/
def datedCondition : Schema := .struct
  (requireds .string ["message", "reason", "status", "type"] ++
    [required "lastTransitionTime" .timestamp, optional "observedGeneration" .int64])

def portStatus : Schema := .struct
  [optional "error" .string, required "port" .int32, required "protocol" .string]

/-- Where a load balancer can be reached, with fields of a kind's own. -/
def loadBalancer (more : List String) : Schema := .struct
  [optional "ingress" (.list (.struct
    (optionals .string (["hostname", "ip"] ++ more) ++ [optional "ports" (.list portStatus)])))]

def serviceStatus : Schema := .struct
  [optional "conditions" (.list datedCondition), optional "loadBalancer" (loadBalancer ["ipMode"])]

def ingressBackend : Schema := .struct
  [optional "resource" typedLocalReference,
    optional "service" (.struct
      [required "name" .string,
        optional "port" (.struct [optional "name" .string, optional "number" .int32])])]

def ingressPath : Schema := .struct
  [required "backend" ingressBackend, optional "path" .string, required "pathType" .string]

def ingressSpec : Schema := .struct
  [optional "defaultBackend" ingressBackend, optional "ingressClassName" .string,
    optional "rules" (.list (.struct
      [optional "host" .string,
        optional "http" (.struct [required "paths" (.list ingressPath)])])),
    optional "tls" (.list (.struct
      [optional "hosts" (.list .string), optional "secretName" .string]))]

def ingressStatus : Schema := .struct [optional "loadBalancer" (loadBalancer [])]

def roleReference : Schema := .struct (requireds .string ["apiGroup", "kind", "name"])

def subject : Schema := .struct
  (requireds .string ["kind", "name"] ++ optionals .string ["apiGroup", "namespace"])

def policyRule : Schema := .struct
  (optionals (.list .string) ["apiGroups", "nonResourceURLs", "resourceNames", "resources"] ++
    [required "verbs" (.list .string)])

def aggregationRule : Schema := .struct
  [optional "clusterRoleSelectors" (.list labelSelector)]

end ClusterObjects.Schema
