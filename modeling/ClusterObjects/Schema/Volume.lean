import ClusterObjects.Schema.Metadata

/-!
# Schemas of volumes

The sources of volumes, as pods and as persistent volumes name them; the two differ in how they
refer to secrets.
-/

namespace ClusterObjects.Schema

def elasticBlockStore : Schema := .struct
  [optional "fsType" .string, optional "partition" .int32, optional "readOnly" .bool,
    required "volumeID" .string]

def azureDisk : Schema := .struct
  (requireds .string ["diskName", "diskURI"] ++
    optionals .string ["cachingMode", "fsType", "kind"] ++ [optional "readOnly" .bool])

def cephFileSystem (secret : Schema) : Schema := .struct
  ([required "monitors" (.list .string), optional "readOnly" .bool, optional "secretRef" secret] ++
    optionals .string ["path", "secretFile", "user"])

def cinder (secret : Schema) : Schema := .struct
  [optional "fsType" .string, optional "readOnly" .bool, optional "secretRef" secret,
    required "volumeID" .string]

def fibreChannel : Schema := .struct
  ([optional "fsType" .string, optional "lun" .int32, optional "readOnly" .bool] ++
    optionals (.list .string) ["targetWWNs", "wwids"])

def flexVolume (secret : Schema) : Schema := .struct
  [required "driver" .string, optional "fsType" .string, optional "options" (.map .string),
    optional "readOnly" .bool, optional "secretRef" secret]

def flocker : Schema := .struct (optionals .string ["datasetName", "datasetUUID"])

def computeDisk : Schema := .struct
  [optional "fsType" .string, optional "partition" .int32, required "pdName" .string,
    optional "readOnly" .bool]

def hostPath : Schema := .struct [required "path" .string, optional "type" .string]

def iscsi (secret : Schema) : Schema := .struct
  (optionals .bool ["chapAuthDiscovery", "chapAuthSession", "readOnly"] ++
    optionals .string ["fsType", "initiatorName", "iscsiInterface"] ++
    requireds .string ["iqn", "targetPortal"] ++
    [required "lun" .int32, optional "portals" (.list .string), optional "secretRef" secret])

def networkFileSystem : Schema := .struct
  (requireds .string ["path", "server"] ++ [optional "readOnly" .bool])

def photonDisk : Schema := .struct [optional "fsType" .string, required "pdID" .string]

def portworx : Schema := .struct
  [optional "fsType" .string, optional "readOnly" .bool, required "volumeID" .string]

def quobyte : Schema := .struct
  (requireds .string ["registry", "volume"] ++ optionals .string ["group", "tenant", "user"] ++
    [optional "readOnly" .bool])

def blockDevice (secret : Schema) : Schema := .struct
  (optionals .string ["fsType", "keyring", "pool", "user"] ++
    [required "image" .string, required "monitors" (.list .string), optional "readOnly" .bool,
      optional "secretRef" secret])

def scaleIO (secret : Schema) : Schema := .struct
  (optionals .string ["fsType", "protectionDomain", "storageMode", "storagePool", "volumeName"] ++
    optionals .bool ["readOnly", "sslEnabled"] ++ requireds .string ["gateway", "system"] ++
    [required "secretRef" secret])

def storageOS (secret : Schema) : Schema := .struct
  (optionals .string ["fsType", "volumeName", "volumeNamespace"] ++
    [optional "readOnly" .bool, optional "secretRef" secret])

def vsphereDisk : Schema := .struct
  (optionals .string ["fsType", "storagePolicyID", "storagePolicyName"] ++
    [required "volumePath" .string])

def keyToPath : Schema := .struct
  (requireds .string ["key", "path"] ++ [optional "mode" .int32])

def fieldSelector : Schema := .struct
  [optional "apiVersion" .string, required "fieldPath" .string]

def resourceFieldSelector : Schema := .struct
  [optional "containerName" .string, optional "divisor" .quantity, required "resource" .string]

def downwardFile : Schema := .struct
  [optional "fieldRef" fieldSelector, optional "mode" .int32, required "path" .string,
    optional "resourceFieldRef" resourceFieldSelector]

/-- Keys of a named map that become files. -/
def keyProjection : Schema := .struct
  [optional "items" (.list keyToPath), required "name" .string, optional "optional" .bool]

def trustBundleProjection : Schema := .struct
  (optionals .string ["name", "signerName"] ++
    [optional "labelSelector" labelSelector, optional "optional" .bool, required "path" .string])

def tokenProjection : Schema := .struct
  [optional "audience" .string, optional "expirationSeconds" .int64, required "path" .string]

def projection : Schema := .struct
  [optional "clusterTrustBundle" trustBundleProjection, optional "configMap" keyProjection,
    optional "downwardAPI" (.struct [optional "items" (.list downwardFile)]),
    optional "secret" keyProjection, optional "serviceAccountToken" tokenProjection]

def typedReference : Schema := .struct
  (requireds .string ["kind", "name"] ++ optionals .string ["apiGroup", "namespace"])

def claimSpec : Schema := .struct
  ([optional "accessModes" (.list .string), optional "dataSource" typedLocalReference,
    optional "dataSourceRef" typedReference,
    optional "resources" (.struct (optionals quantities ["limits", "requests"])),
    optional "selector" labelSelector] ++
    optionals .string
      ["storageClassName", "volumeAttributesClassName", "volumeMode", "volumeName"])

def claimTemplate : Schema := .struct
  [optional "metadata" objectMeta, required "spec" claimSpec]

/-- The sources that pods and persistent volumes have in common. -/
def commonSources : List (String × Bool × Schema) :=
  [optional "awsElasticBlockStore" elasticBlockStore, optional "azureDisk" azureDisk,
    optional "fc" fibreChannel, optional "flocker" flocker,
    optional "gcePersistentDisk" computeDisk, optional "hostPath" hostPath,
    optional "nfs" networkFileSystem, optional "photonPersistentDisk" photonDisk,
    optional "portworxVolume" portworx, optional "quobyte" quobyte,
    optional "vsphereVolume" vsphereDisk]

/-- The sources that only pods have, or that name a secret of the pod's own namespace. -/
def podSources : List (String × Bool × Schema) :=
  [optional "azureFile" (.struct
      (requireds .string ["secretName", "shareName"] ++ [optional "readOnly" .bool])),
    optional "cephfs" (cephFileSystem localReference),
    optional "cinder" (cinder localReference),
    optional "configMap" (.struct
      [optional "defaultMode" .int32, optional "items" (.list keyToPath), required "name" .string,
        optional "optional" .bool]),
    optional "csi" (.struct
      [required "driver" .string, optional "fsType" .string,
        optional "nodePublishSecretRef" localReference, optional "readOnly" .bool,
        optional "volumeAttributes" (.map .string)]),
    optional "downwardAPI" (.struct
      [optional "defaultMode" .int32, optional "items" (.list downwardFile)]),
    optional "emptyDir" (.struct [optional "medium" .string, optional "sizeLimit" .quantity]),
    optional "ephemeral" (.struct [optional "volumeClaimTemplate" claimTemplate]),
    optional "flexVolume" (flexVolume localReference),
    optional "gitRepo" (.struct
      [optional "directory" .string, required "repository" .string, optional "revision" .string]),
    optional "glusterfs" (.struct
      (requireds .string ["endpoints", "path"] ++ [optional "readOnly" .bool])),
    optional "image" (.struct (optionals .string ["pullPolicy", "reference"])),
    optional "iscsi" (iscsi localReference),
    optional "persistentVolumeClaim" (.struct
      [required "claimName" .string, optional "readOnly" .bool]),
    optional "projected" (.struct
      [optional "defaultMode" .int32, optional "sources" (.list projection)]),
    optional "rbd" (blockDevice localReference),
    optional "scaleIO" (scaleIO localReference),
    optional "secret" (.struct
      [optional "defaultMode" .int32, optional "items" (.list keyToPath), optional "optional" .bool,
        optional "secretName" .string]),
    optional "storageos" (storageOS localReference)]

def volume : Schema := .struct ([required "name" .string] ++ commonSources ++ podSources)

/-- The sources of persistent volumes, which name secrets of any namespace. -/
def persistentSources : List (String × Bool × Schema) :=
  [optional "azureFile" (.struct
      (requireds .string ["secretName", "shareName"] ++
        [optional "readOnly" .bool, optional "secretNamespace" .string])),
    optional "cephfs" (cephFileSystem secretReference),
    optional "cinder" (cinder secretReference),
    optional "csi" (.struct
      (requireds .string ["driver", "volumeHandle"] ++
        optionals secretReference ["controllerExpandSecretRef", "controllerPublishSecretRef",
          "nodeExpandSecretRef", "nodePublishSecretRef", "nodeStageSecretRef"] ++
        [optional "fsType" .string, optional "readOnly" .bool,
          optional "volumeAttributes" (.map .string)])),
    optional "flexVolume" (flexVolume secretReference),
    optional "glusterfs" (.struct
      (requireds .string ["endpoints", "path"] ++
        [optional "endpointsNamespace" .string, optional "readOnly" .bool])),
    optional "iscsi" (iscsi secretReference),
    optional "local" (.struct [optional "fsType" .string, required "path" .string]),
    optional "rbd" (blockDevice secretReference),
    optional "scaleIO" (scaleIO secretReference),
    optional "storageos" (storageOS objectReference)]

def persistentVolumeSpec : Schema := .struct
  (commonSources ++ persistentSources ++
    optionals (.list .string) ["accessModes", "mountOptions"] ++
    [optional "capacity" quantities, optional "claimRef" objectReference,
      optional "nodeAffinity" (.struct [optional "required" nodeSelector])] ++
    optionals .string ["persistentVolumeReclaimPolicy", "storageClassName",
      "volumeAttributesClassName", "volumeMode"])

def persistentVolumeStatus : Schema := .struct
  (optionals .string ["message", "phase", "reason"] ++
    [optional "lastPhaseTransitionTime" .timestamp])

def claimStatus : Schema := .struct
  ([optional "accessModes" (.list .string), optional "allocatedResourceStatuses" (.map .string),
    optional "conditions" (.list (condition ["lastProbeTime", "lastTransitionTime"])),
    optional "modifyVolumeStatus" (.struct
      [required "status" .string, optional "targetVolumeAttributesClassName" .string])] ++
    optionals quantities ["allocatedResources", "capacity"] ++
    optionals .string ["currentVolumeAttributesClassName", "phase"])

end ClusterObjects.Schema
