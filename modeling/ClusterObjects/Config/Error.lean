import ClusterObjects.Decimal.Unsigned
import ClusterObjects.Host.FileTree

/-!
# Errors of the configuration

Every way in which a configuration cannot be read, changed or kept. `ConfigError.chain` tells one
from the outside inwards; the faults of files and of documents stand at its end.
-/

namespace ClusterObjects

/-- A step in the account of a failure. -/
inductive Cause where
  | message (text : String)
  | file (fault : FileFault)
  /-- A document that cannot be read. -/
  | yaml
  /-- A description of clusters that cannot be used. -/
  | kubeconfig
  /-- An exchange with the server. -/
  | server
  deriving DecidableEq, Repr

inductive ConfigError where
  | missing (path : String)
  | unreadable (path : String) (fault : FileFault)
  | unparsable (path : String)
  | unwritable (path : String) (fault : FileFault)
  | noDirectory (fault : FileFault)
  | unprintable
  | emptyNamespace
  | missingKubeconfig (path : String)
  | unknownKey (name : String)
  | notABool
  | notANumber (fault : Decimal.NumberFault)
  deriving DecidableEq, Repr

/-- The text of a step. Documents, descriptions of clusters and servers have none to show. -/
def Cause.text? : Cause → Option String
  | message text => some text
  | file fault => some fault.message
  | yaml | kubeconfig | server => none

def ConfigError.chain : ConfigError → List Cause
  | missing path => [.message ("Config file not found: " ++ path)]
  | unreadable path fault => [.message ("Failed to read config file: " ++ path), .file fault]
  | unparsable path => [.message ("Failed to parse config file: " ++ path), .yaml]
  | unwritable path fault => [.message ("Failed to write config file: " ++ path), .file fault]
  | noDirectory fault => [.file fault]
  | unprintable => [.message "Failed to serialize configuration to YAML", .yaml]
  | emptyNamespace => [.message "namespace must not be empty"]
  | missingKubeconfig path => [.message ("kubeconfig " ++ path ++ " does not exist")]
  | unknownKey name => [.message ("Unknown configuration key: " ++ name)]
  | notABool =>
    [.message "dryRun must be 'true' or 'false'",
      .message "provided string was not \x60true\x60 or \x60false\x60"]
  | notANumber fault =>
    [.message "informer.resyncSeconds must be a number", .message fault.message]

end ClusterObjects
