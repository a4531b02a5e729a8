import TraefikUpgrade.Annotation.Key
import TraefikUpgrade.Annotation.Reading
import TraefikUpgrade.CommandLine
import TraefikUpgrade.Configuration
import TraefikUpgrade.Conversion.Attempt
import TraefikUpgrade.Conversion.Chain
import TraefikUpgrade.Conversion.Convert
import TraefikUpgrade.Directive.Basic
import TraefikUpgrade.Directive.Headers
import TraefikUpgrade.Files.Fault
import TraefikUpgrade.Files.FileSystem
import TraefikUpgrade.Files.Host
import TraefikUpgrade.Files.Path
import TraefikUpgrade.Files.Walk
import TraefikUpgrade.Kubernetes.Fields
import TraefikUpgrade.Kubernetes.Ingress
import TraefikUpgrade.Kubernetes.LegacyIngress
import TraefikUpgrade.Kubernetes.ObjectMeta
import TraefikUpgrade.Kubernetes.Shape
import TraefikUpgrade.Log
import TraefikUpgrade.Log.Json
import TraefikUpgrade.Main
import TraefikUpgrade.Manifest.Convert
import TraefikUpgrade.Manifest.Document
import TraefikUpgrade.Middleware.Basic
import TraefikUpgrade.Middleware.Resource
import TraefikUpgrade.ObjectName
import TraefikUpgrade.Program
import TraefikUpgrade.RequestModifier
import TraefikUpgrade.Resource
import TraefikUpgrade.ResourceList
import TraefikUpgrade.RuleType
import TraefikUpgrade.Text.Map
import TraefikUpgrade.Text.Quoted
import TraefikUpgrade.Text.Utf8
import TraefikUpgrade.Timestamp
import TraefikUpgrade.Usage
import TraefikUpgrade.Yaml.Alias
import TraefikUpgrade.Yaml.Cell
import TraefikUpgrade.Yaml.Character
import TraefikUpgrade.Yaml.Content
import TraefikUpgrade.Yaml.Document
import TraefikUpgrade.Yaml.Node
import TraefikUpgrade.Yaml.Scalar
import TraefikUpgrade.Yaml.Style
import TraefikUpgrade.Yaml.Token.Basic
import TraefikUpgrade.Yaml.Token.Block
import TraefikUpgrade.Yaml.Token.Folding
import TraefikUpgrade.Yaml.Token.Plain
import TraefikUpgrade.Yaml.Token.Property
import TraefikUpgrade.Yaml.Token.Quoted
import TraefikUpgrade.Yaml.Token.Reading
import TraefikUpgrade.Yaml.Value
import TraefikUpgrade.Yaml.Writer
import TraefikUpgrade.Proofs.Manifest.Document
import TraefikUpgrade.Proofs.Conversion.Chain
import TraefikUpgrade.Proofs.Directive.Condition
import TraefikUpgrade.Proofs.Conversion.Specification
import TraefikUpgrade.Proofs.Conversion.Outcome
import TraefikUpgrade.Proofs.Text.Map
import TraefikUpgrade.Proofs.ObjectName
import TraefikUpgrade.Proofs.Conversion.Reference
import TraefikUpgrade.Proofs.ResourceList
import TraefikUpgrade.Proofs.Yaml.Document
import TraefikUpgrade.Proofs.Manifest.Block
import TraefikUpgrade.Proofs.Manifest.Conservation
import TraefikUpgrade.Proofs.Conversion.Dependence
import TraefikUpgrade.Proofs.Conversion.Idempotence
import TraefikUpgrade.Proofs.Conversion.Frame
import TraefikUpgrade.Proofs.Conversion.Agreement
import TraefikUpgrade.Proofs.Conversion.Noninterference
import TraefikUpgrade.Proofs.Conversion.Family
import TraefikUpgrade.Proofs.Conversion.RuleOrder
import TraefikUpgrade.Proofs.Manifest.Reconversion
import TraefikUpgrade.Proofs.Manifest.LineRun
import TraefikUpgrade.Proofs.Manifest.Independence
import TraefikUpgrade.Proofs.Conversion.Failure
import TraefikUpgrade.Proofs.Conversion.Severity
import TraefikUpgrade.Proofs.Manifest.Failure
import TraefikUpgrade.Proofs.ResourceList.Extraction
import TraefikUpgrade.Proofs.Kubernetes.LegacyIngress
import TraefikUpgrade.Proofs.Conversion.Suffix
import TraefikUpgrade.Proofs.Manifest.Uniqueness
import TraefikUpgrade.Proofs.Text.Utf8
import TraefikUpgrade.Proofs.Text.Utf8Reading
import TraefikUpgrade.Proofs.Files.Path
import TraefikUpgrade.Proofs.Files.FileSystem
import TraefikUpgrade.Proofs.Files.Resolution
import TraefikUpgrade.Proofs.Files.Progress
import TraefikUpgrade.Proofs.Files.DepthFirst
import TraefikUpgrade.Proofs.Files.Host
import TraefikUpgrade.Proofs.Files.Walk
import TraefikUpgrade.Proofs.Files.Execution
import TraefikUpgrade.Proofs.Files.Mirror
import TraefikUpgrade.Proofs.Files.Run
import TraefikUpgrade.Proofs.RequestModifier
import TraefikUpgrade.Proofs.Conversion.Collision
import TraefikUpgrade.Proofs.Annotation.HeaderMap
import TraefikUpgrade.Proofs.Middleware.Resource
import TraefikUpgrade.Proofs.Text.Run
import TraefikUpgrade.Proofs.Directive.Headers
import TraefikUpgrade.Proofs.Annotation.CommaList
import TraefikUpgrade.Proofs.Conversion.AppRoot
import TraefikUpgrade.Proofs.Annotation.HeaderName
