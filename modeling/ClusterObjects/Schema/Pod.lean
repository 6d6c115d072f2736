import ClusterObjects.Schema.Volume

/-!
# Schemas of pods

Containers, where they may run, and the template of a pod.
-/

namespace ClusterObjects.Schema

/-- One key of a named map. -/
def keySelector : Schema := .struct
  (requireds .string ["key", "name"] ++ [optional "optional" .bool])

def environmentVariable : Schema := .struct
  [required "name" .string, optional "value" .string,
    optional "valueFrom" (.struct
      [optional "configMapKeyRef" keySelector, optional "fieldRef" fieldSelector,
        optional "resourceFieldRef" resourceFieldSelector, optional "secretKeyRef" keySelector])]

/-- A named map whose keys all become variables. -/
def environmentMap : Schema := .struct [required "name" .string, optional "optional" .bool]

def environmentSource : Schema := .struct
  [optional "configMapRef" environmentMap, optional "prefix" .string,
    optional "secretRef" environmentMap]

def execAction : Schema := .struct [optional "command" (.list .string)]

def httpAction : Schema := .struct
  (optionals .string ["host", "path", "scheme"] ++
    [optional "httpHeaders" (.list (.struct (requireds .string ["name", "value"]))),
      required "port" .intOrString])

def socketAction : Schema := .struct [optional "host" .string, required "port" .intOrString]

def lifecycleHook : Schema := .struct
  [optional "exec" execAction, optional "httpGet" httpAction,
    optional "sleep" (.struct [required "seconds" .int64]), optional "tcpSocket" socketAction]

def probe : Schema := .struct
  ([optional "exec" execAction,
    optional "grpc" (.struct [required "port" .int32, optional "service" .string]),
    optional "httpGet" httpAction, optional "tcpSocket" socketAction,
    optional "terminationGracePeriodSeconds" .int64] ++
    optionals .int32 ["failureThreshold", "initialDelaySeconds", "periodSeconds",
      "successThreshold", "timeoutSeconds"])

/-- A profile that confines a process. -/
def profile : Schema := .struct [optional "localhostProfile" .string, required "type" .string]

def selinuxOptions : Schema := .struct (optionals .string ["level", "role", "type", "user"])

def windowsOptions : Schema := .struct
  (optionals .string ["gmsaCredentialSpec", "gmsaCredentialSpecName", "runAsUserName"] ++
    [optional "hostProcess" .bool])

/-- What containers and pods have in common. -/
def commonSecurity : List (String × Bool × Schema) :=
  [optional "appArmorProfile" profile, optional "runAsGroup" .int64,
    optional "runAsNonRoot" .bool, optional "runAsUser" .int64,
    optional "seLinuxOptions" selinuxOptions, optional "seccompProfile" profile,
    optional "windowsOptions" windowsOptions]

def containerSecurity : Schema := .struct
  (commonSecurity ++
    optionals .bool ["allowPrivilegeEscalation", "privileged", "readOnlyRootFilesystem"] ++
    [optional "capabilities" (.struct (optionals (.list .string) ["add", "drop"])),
      optional "procMount" .string])

def podSecurity : Schema := .struct
  (commonSecurity ++
    optionals .string ["fsGroupChangePolicy", "supplementalGroupsPolicy"] ++
    [optional "fsGroup" .int64, optional "supplementalGroups" (.list .int64),
      optional "sysctls" (.list (.struct (requireds .string ["name", "value"])))])

def containerPort : Schema := .struct
  [required "containerPort" .int32, optional "hostIP" .string, optional "hostPort" .int32,
    optional "name" .string, optional "protocol" .string]

def containerResources : Schema := .struct
  ([optional "claims" (.list (.struct [required "name" .string, optional "request" .string]))] ++
    optionals quantities ["limits", "requests"])

def volumeMount : Schema := .struct
  (requireds .string ["mountPath", "name"] ++
    optionals .string ["mountPropagation", "recursiveReadOnly", "subPath", "subPathExpr"] ++
    [optional "readOnly" .bool])

def containerFields : List (String × Bool × Schema) :=
  [required "name" .string] ++ optionals (.list .string) ["args", "command"] ++
    optionals .string ["image", "imagePullPolicy", "restartPolicy", "terminationMessagePath",
      "terminationMessagePolicy", "workingDir"] ++
    optionals .bool ["stdin", "stdinOnce", "tty"] ++
    optionals probe ["livenessProbe", "readinessProbe", "startupProbe"] ++
    [optional "env" (.list environmentVariable), optional "envFrom" (.list environmentSource),
      optional "lifecycle" (.struct (optionals lifecycleHook ["postStart", "preStop"])),
      optional "ports" (.list containerPort),
      optional "resizePolicy" (.list (.struct
        (requireds .string ["resourceName", "restartPolicy"]))),
      optional "resources" containerResources, optional "securityContext" containerSecurity,
      optional "volumeDevices" (.list (.struct (requireds .string ["devicePath", "name"]))),
      optional "volumeMounts" (.list volumeMount)]

def container : Schema := .struct containerFields

def ephemeralContainer : Schema := .struct
  (containerFields ++ [optional "targetContainerName" .string])

def podAffinityTerm : Schema := .struct
  (optionals labelSelector ["labelSelector", "namespaceSelector"] ++
    optionals (.list .string) ["matchLabelKeys", "mismatchLabelKeys", "namespaces"] ++
    [required "topologyKey" .string])

def podAffinity : Schema := .struct
  [optional "preferredDuringSchedulingIgnoredDuringExecution" (.list (.struct
      [required "podAffinityTerm" podAffinityTerm, required "weight" .int32])),
    optional "requiredDuringSchedulingIgnoredDuringExecution" (.list podAffinityTerm)]

def nodeAffinity : Schema := .struct
  [optional "preferredDuringSchedulingIgnoredDuringExecution" (.list (.struct
      [required "preference" nodeSelectorTerm, required "weight" .int32])),
    optional "requiredDuringSchedulingIgnoredDuringExecution" nodeSelector]

def affinity : Schema := .struct
  [optional "nodeAffinity" nodeAffinity, optional "podAffinity" podAffinity,
    optional "podAntiAffinity" podAffinity]

def toleration : Schema := .struct
  (optionals .string ["effect", "key", "operator", "value"] ++
    [optional "tolerationSeconds" .int64])

def topologySpread : Schema := .struct
  ([optional "labelSelector" labelSelector, optional "matchLabelKeys" (.list .string),
    required "maxSkew" .int32, optional "minDomains" .int32] ++
    optionals .string ["nodeAffinityPolicy", "nodeTaintsPolicy"] ++
    requireds .string ["topologyKey", "whenUnsatisfiable"])

def nameResolution : Schema := .struct
  (optionals (.list .string) ["nameservers", "searches"] ++
    [optional "options" (.list (.struct (optionals .string ["name", "value"])))])

def podSpec : Schema := .struct
  (optionals .int64 ["activeDeadlineSeconds", "terminationGracePeriodSeconds"] ++
    optionals .bool ["automountServiceAccountToken", "enableServiceLinks", "hostIPC",
      "hostNetwork", "hostPID", "hostUsers", "setHostnameAsFQDN", "shareProcessNamespace"] ++
    optionals .string ["dnsPolicy", "hostname", "nodeName", "preemptionPolicy",
      "priorityClassName", "restartPolicy", "runtimeClassName", "schedulerName", "serviceAccount",
      "serviceAccountName", "subdomain"] ++
    [optional "affinity" affinity, required "containers" (.list container),
      optional "dnsConfig" nameResolution,
      optional "ephemeralContainers" (.list ephemeralContainer),
      optional "hostAliases" (.list (.struct
        [optional "hostnames" (.list .string), required "ip" .string])),
      optional "imagePullSecrets" (.list localReference),
      optional "initContainers" (.list container), optional "nodeSelector" (.map .string),
      optional "os" (.struct [required "name" .string]), optional "overhead" quantities,
      optional "priority" .int32,
      optional "readinessGates" (.list (.struct [required "conditionType" .string])),
      optional "resourceClaims" (.list (.struct
        ([required "name" .string] ++
          optionals .string ["resourceClaimName", "resourceClaimTemplateName"]))),
      optional "schedulingGates" (.list (.struct [required "name" .string])),
      optional "securityContext" podSecurity, optional "tolerations" (.list toleration),
      optional "topologySpreadConstraints" (.list topologySpread),
      optional "volumes" (.list volume)])

def podTemplate : Schema := .struct [optional "metadata" objectMeta, optional "spec" podSpec]

end ClusterObjects.Schema
