import ClusterObjects.Informer.Run
import ClusterObjects.Main
import ClusterObjects.Proofs.Json.Members
import ClusterObjects.Proofs.Json.Path
import ClusterObjects.Proofs.Patch.Merge
import ClusterObjects.Proofs.Informer.ObjectMap
import ClusterObjects.Proofs.Informer.Replica
import ClusterObjects.Proofs.Api.Address
import ClusterObjects.Proofs.Api.Exchange
import ClusterObjects.Proofs.Api.Verbs
import ClusterObjects.Proofs.Handler.DryRun
import ClusterObjects.Proofs.Handler.Fleet
import ClusterObjects.Proofs.Informer.Agreement
import ClusterObjects.Proofs.Api.Answer
import ClusterObjects.Proofs.Watch.Report
import ClusterObjects.Proofs.Watch.Run
import ClusterObjects.Proofs.Handler.Watch
import ClusterObjects.Proofs.Watch.Recreation
import ClusterObjects.Proofs.Handler.Apply
import ClusterObjects.Proofs.Patch.Strategic
import ClusterObjects.Proofs.Schema.Timestamp
import ClusterObjects.Proofs.Schema.Decode
import ClusterObjects.Proofs.Object.Typed
import ClusterObjects.Proofs.Api.Twins
import ClusterObjects.Proofs.Handler.Twins
import ClusterObjects.Proofs.Dynamic.Sends
import ClusterObjects.Proofs.Object.Manifest
import ClusterObjects.Proofs.Dynamic.Manifest
import ClusterObjects.Proofs.Dynamic.Place
import ClusterObjects.Proofs.Informer.Relist
import ClusterObjects.Proofs.Cli.Running
import ClusterObjects.Proofs.Cli.DryRun
import ClusterObjects.Proofs.Api.Mapper
import ClusterObjects.Proofs.Patch.Writers
import ClusterObjects.Proofs.Patch.Pointer
import ClusterObjects.Proofs.Patch.Operation
import ClusterObjects.Proofs.Patch.Difference
import ClusterObjects.Proofs.Watch.Population
import ClusterObjects.Proofs.Dynamic.Patch
import ClusterObjects.Proofs.Dynamic.Write
import ClusterObjects.Proofs.Dynamic.Apply
import ClusterObjects.Proofs.Dynamic.Content
import ClusterObjects.Proofs.Handler.Routing
import ClusterObjects.Proofs.Handler.Nameless
import ClusterObjects.Proofs.Patch.Changes
import ClusterObjects.Proofs.Object.Regrouping
import ClusterObjects.Proofs.Host.FileTree
import ClusterObjects.Proofs.Yaml.Scalar
import ClusterObjects.Proofs.Yaml.Quoted
import ClusterObjects.Proofs.Yaml.Block
import ClusterObjects.Proofs.Yaml.Allowed
import ClusterObjects.Proofs.Yaml.Lexer
import ClusterObjects.Proofs.Yaml.Node
import ClusterObjects.Proofs.Yaml.Printer
import ClusterObjects.Proofs.Yaml.Typed
import ClusterObjects.Proofs.Config.Document
import ClusterObjects.Proofs.Config.Saving
import ClusterObjects.Proofs.Cli.Setting
import ClusterObjects.Proofs.Decimal.Unsigned
import ClusterObjects.Proofs.Config.Access
import ClusterObjects.Proofs.Handler.History
import ClusterObjects.Proofs.Handler.Deletion
import ClusterObjects.Proofs.Api.Plain
import ClusterObjects.Proofs.Cli.Listing
import ClusterObjects.Proofs.Patch.Document
import ClusterObjects.Proofs.Handler.Patch
import ClusterObjects.Proofs.Informer.Lookup
import ClusterObjects.Proofs.Decimal.Rounding
import ClusterObjects.Proofs.Decimal.Shortest
import ClusterObjects.Proofs.Json.Contents
import ClusterObjects.Proofs.Yaml.Number
import ClusterObjects.Proofs.Yaml.Folding
import ClusterObjects.Proofs.Yaml.Flow
import ClusterObjects.Proofs.Yaml.Compact
import ClusterObjects.Proofs.Yaml.FlowNode
import ClusterObjects.Proofs.Yaml.JsonText
import ClusterObjects.Proofs.Object.Input
