import ClusterObjects.Schema.Pod

/-!
# Schemas of workloads

Deployments, daemon sets, jobs and cron jobs.
-/

namespace ClusterObjects.Schema

/-- How pods are replaced by new ones. -/
def updateStrategy : Schema := .struct
  [optional "rollingUpdate" (.struct (optionals .intOrString ["maxSurge", "maxUnavailable"])),
    optional "type" .string]

def deploymentSpec : Schema := .struct
  (optionals .int32
    ["minReadySeconds", "progressDeadlineSeconds", "replicas", "revisionHistoryLimit"] ++
    [optional "paused" .bool, required "selector" labelSelector,
      optional "strategy" updateStrategy, required "template" podTemplate])

def deploymentStatus : Schema := .struct
  (optionals .int32 ["availableReplicas", "collisionCount", "readyReplicas", "replicas",
    "unavailableReplicas", "updatedReplicas"] ++
    [optional "conditions" (.list (condition ["lastTransitionTime", "lastUpdateTime"])),
      optional "observedGeneration" .int64])

def daemonSetSpec : Schema := .struct
  (optionals .int32 ["minReadySeconds", "revisionHistoryLimit"] ++
    [required "selector" labelSelector, required "template" podTemplate,
      optional "updateStrategy" updateStrategy])

def daemonSetStatus : Schema := .struct
  (requireds .int32 ["currentNumberScheduled", "desiredNumberScheduled", "numberMisscheduled",
    "numberReady"] ++
    optionals .int32 ["collisionCount", "numberAvailable", "numberUnavailable",
      "updatedNumberScheduled"] ++
    [optional "conditions" (.list (condition ["lastTransitionTime"])),
      optional "observedGeneration" .int64])

def podFailureRule : Schema := .struct
  [required "action" .string,
    optional "onExitCodes" (.struct
      [optional "containerName" .string, required "operator" .string,
        required "values" (.list .int32)]),
    optional "onPodConditions" (.list (.struct (requireds .string ["status", "type"])))]

def jobSpec : Schema := .struct
  (optionals .int32 ["backoffLimit", "backoffLimitPerIndex", "completions", "maxFailedIndexes",
    "parallelism", "ttlSecondsAfterFinished"] ++
    optionals .string ["completionMode", "managedBy", "podReplacementPolicy"] ++
    optionals .bool ["manualSelector", "suspend"] ++
    [optional "activeDeadlineSeconds" .int64,
      optional "podFailurePolicy" (.struct [required "rules" (.list podFailureRule)]),
      optional "selector" labelSelector,
      optional "successPolicy" (.struct
        [required "rules" (.list (.struct
          [optional "succeededCount" .int32, optional "succeededIndexes" .string]))]),
      required "template" podTemplate])

def jobStatus : Schema := .struct
  (optionals .int32 ["active", "failed", "ready", "succeeded", "terminating"] ++
    optionals .string ["completedIndexes", "failedIndexes"] ++
    optionals .timestamp ["completionTime", "startTime"] ++
    [optional "conditions" (.list (condition ["lastProbeTime", "lastTransitionTime"])),
      optional "uncountedTerminatedPods" (.struct
        (optionals (.list .string) ["failed", "succeeded"]))])

def cronJobSpec : Schema := .struct
  (optionals .string ["concurrencyPolicy", "timeZone"] ++
    optionals .int32 ["failedJobsHistoryLimit", "successfulJobsHistoryLimit"] ++
    [required "jobTemplate" (.struct
        [optional "metadata" objectMeta, optional "spec" jobSpec]),
      required "schedule" .string, optional "startingDeadlineSeconds" .int64,
      optional "suspend" .bool])

def cronJobStatus : Schema := .struct
  ([optional "active" (.list objectReference)] ++
    optionals .timestamp ["lastScheduleTime", "lastSuccessfulTime"])

end ClusterObjects.Schema
