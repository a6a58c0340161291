import ReactiveContract.Abi.Entry
import ReactiveContract.Abi.Extraction
import ReactiveContract.Abi.Fault
import ReactiveContract.Abi.Intake
import ReactiveContract.Abi.Interface
import ReactiveContract.Abi.TypeExpr
import ReactiveContract.Abi.ValueType
import ReactiveContract.Address
import ReactiveContract.Artifact
import ReactiveContract.Binding.Basic
import ReactiveContract.Binding.Expression
import ReactiveContract.Binding.Resolution
import ReactiveContract.Binding.Topic
import ReactiveContract.Compiler.Compilation
import ReactiveContract.Compiler.Diagnostic
import ReactiveContract.Compiler.Output
import ReactiveContract.Compiler.Toolchain
import ReactiveContract.Contract.Origins
import ReactiveContract.Contract.Plan
import ReactiveContract.Contract.Request
import ReactiveContract.Contract.Settings
import ReactiveContract.Contract.Source
import ReactiveContract.Contract.Spec
import ReactiveContract.Contract.Topology
import ReactiveContract.Decimal.Binary64
import ReactiveContract.Decimal.Reading
import ReactiveContract.Decimal.Shortest
import ReactiveContract.Document.Checked
import ReactiveContract.Document.Fault
import ReactiveContract.Document.Record
import ReactiveContract.Document.Scalar
import ReactiveContract.Explorer.Lookup
import ReactiveContract.Explorer.Query
import ReactiveContract.Explorer.Redirect
import ReactiveContract.Explorer.Status
import ReactiveContract.Explorer.Url
import ReactiveContract.Failure
import ReactiveContract.Generation
import ReactiveContract.Inquiry
import ReactiveContract.Json.Basic
import ReactiveContract.Json.Bytes
import ReactiveContract.Json.Display
import ReactiveContract.Json.Reader
import ReactiveContract.Json.Writer
import ReactiveContract.Keccak256
import ReactiveContract.Log
import ReactiveContract.Network.DomainName
import ReactiveContract.Network.IpAddress
import ReactiveContract.Network.Label
import ReactiveContract.Network.LabelCharacter
import ReactiveContract.Network.Origin
import ReactiveContract.Network.Punycode
import ReactiveContract.Options.Basic
import ReactiveContract.Options.Environment
import ReactiveContract.Options.Named
import ReactiveContract.Options.Verbosity
import ReactiveContract.Proofs.Abi.Extraction
import ReactiveContract.Proofs.Abi.Spelling
import ReactiveContract.Proofs.Binding.Resolution
import ReactiveContract.Proofs.Binding.Resolved
import ReactiveContract.Proofs.Contract.Callback
import ReactiveContract.Proofs.Contract.Dispatch
import ReactiveContract.Proofs.Contract.Plan
import ReactiveContract.Proofs.Contract.Request
import ReactiveContract.Proofs.Contract.Settings
import ReactiveContract.Proofs.Generation
import ReactiveContract.Proofs.Outcome
import ReactiveContract.Proofs.Solidity.Argument
import ReactiveContract.Proofs.Solidity.Call
import ReactiveContract.Proofs.Solidity.Dispatch
import ReactiveContract.Proofs.Solidity.Literal
import ReactiveContract.Proofs.Text.Blank
import ReactiveContract.Proofs.Text.Hexadecimal
import ReactiveContract.Proofs.Text.Numeral
import ReactiveContract.Quantity
import ReactiveContract.Solidity.Fragment
import ReactiveContract.Solidity.Library
import ReactiveContract.Solidity.Word
import ReactiveContract.Text.Blank
import ReactiveContract.Text.Case
import ReactiveContract.Text.CodePoint
import ReactiveContract.Text.Composition
import ReactiveContract.Text.DecimalDigit
import ReactiveContract.Text.Direction
import ReactiveContract.Text.Encoding
import ReactiveContract.Text.Hexadecimal
import ReactiveContract.Text.Joining
import ReactiveContract.Text.LowerCase
import ReactiveContract.Text.Mark
import ReactiveContract.Text.Printable
import ReactiveContract.Text.Quoted
import ReactiveContract.Text.Script
import ReactiveContract.Traced
import ReactiveContract.Violation
import ReactiveContract.Proofs.Text.CodePoint
import ReactiveContract.Proofs.Contract.Emission
import ReactiveContract.Proofs.Contract.Topology
import ReactiveContract.Proofs.Refusal
import ReactiveContract.Proofs.Contract.Bindable
import ReactiveContract.Proofs.Abi.Respelling
import ReactiveContract.Proofs.Binding.Respelling
import ReactiveContract.Proofs.Contract.Respelling
import ReactiveContract.Proofs.Respelling
import ReactiveContract.Proofs.Solidity.Token
import ReactiveContract.Proofs.Solidity.Statement
import ReactiveContract.Proofs.Contract.Origins
import ReactiveContract.Proofs.Contract.Source
import ReactiveContract.Proofs.Solidity.Subscription
import ReactiveContract.Proofs.Contract.Subscription
import ReactiveContract.Proofs.Solidity.Condition
import ReactiveContract.Proofs.Contract.Scope
import ReactiveContract.Proofs.Contract.Decoding
import ReactiveContract.Proofs.Inquiry
import ReactiveContract.Proofs.Compilation
import ReactiveContract.Proofs.Document.Reading
import ReactiveContract.Proofs.Compiler.Legibility
import ReactiveContract.Proofs.Compiler.Installation
import ReactiveContract.Proofs.Quantity
import ReactiveContract.Proofs.Options.Range
import ReactiveContract.Proofs.Abi.Acceptance
import ReactiveContract.Proofs.Binding.Topic
import ReactiveContract.Proofs.Binding.TopicLimit
import ReactiveContract.Proofs.Solidity.Conversion
import ReactiveContract.Proofs.Solidity.Splice
import ReactiveContract.Proofs.Contract.Splice
import ReactiveContract.Proofs.Contract.Numbering
import ReactiveContract.Proofs.Solidity.Execution
import ReactiveContract.Proofs.Contract.Recording
import ReactiveContract.Proofs.Contract.AllowList
import ReactiveContract.Proofs.Contract.Extension
import ReactiveContract.Proofs.Contract.Reordering
import ReactiveContract.Proofs.Binding.Idempotence
import ReactiveContract.Proofs.Contract.Revalidation
import ReactiveContract.Proofs.Solidity.Signature
import ReactiveContract.Proofs.Contract.Signature
import ReactiveContract.Proofs.Contract.Reachability
import ReactiveContract.Proofs.Text.Joined
import ReactiveContract.Proofs.Binding.FirstViolation
import ReactiveContract.Proofs.Abi.Signature
import ReactiveContract.Proofs.Abi.Selection
import ReactiveContract.Proofs.Compiler.Classification
import ReactiveContract.Proofs.Compiler.FailedRun
import ReactiveContract.Proofs.Solidity.Layout
import ReactiveContract.Proofs.Contract.Layout
import ReactiveContract.Proofs.Explorer.Request
import ReactiveContract.Proofs.Explorer.Lookup
import ReactiveContract.Proofs.Solidity.Composition
import ReactiveContract.Proofs.Contract.Composition
import ReactiveContract.Proofs.Solidity.Naming
import ReactiveContract.Proofs.Contract.Naming
import ReactiveContract.Proofs.Binding.Expression
import ReactiveContract.Proofs.Abi.Canonical
import ReactiveContract.Proofs.Contract.Checksum
