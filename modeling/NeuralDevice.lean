import NeuralDevice.Action
import NeuralDevice.Code.OperandType
import NeuralDevice.Code.OperationType
import NeuralDevice.Code.Setting
import NeuralDevice.Code.Table
import NeuralDevice.Conversion.Aidl
import NeuralDevice.Conversion.Basic
import NeuralDevice.Conversion.Codes
import NeuralDevice.Conversion.Hal
import NeuralDevice.Conversion.Shared
import NeuralDevice.Device.Device
import NeuralDevice.Device.PreparedModel
import NeuralDevice.Device.World
import NeuralDevice.Discovery
import NeuralDevice.Error
import NeuralDevice.Execution.Completion
import NeuralDevice.Execution.Death
import NeuralDevice.Execution.Fence
import NeuralDevice.Execution.Launch
import NeuralDevice.Execution.Options
import NeuralDevice.Execution.Settings
import NeuralDevice.Execution.Submission
import NeuralDevice.Execution.Wait
import NeuralDevice.Form.Basic
import NeuralDevice.Form.Conversion
import NeuralDevice.Form.Execution
import NeuralDevice.Form.Message
import NeuralDevice.Form.Value
import NeuralDevice.Graph.Digraph
import NeuralDevice.Graph.Model
import NeuralDevice.Graph.Operand
import NeuralDevice.Graph.Request
import NeuralDevice.Host
import NeuralDevice.Json.Basic
import NeuralDevice.Json.Reader
import NeuralDevice.Location
import NeuralDevice.Memory.File
import NeuralDevice.Memory.Store
import NeuralDevice.Numeric.Decimal
import NeuralDevice.Numeric.Single
import NeuralDevice.Numeric.Word
import NeuralDevice.Performance
import NeuralDevice.Proofs.Action
import NeuralDevice.Proofs.Conversion.Aidl
import NeuralDevice.Proofs.Conversion.Code
import NeuralDevice.Proofs.Conversion.Consumers
import NeuralDevice.Proofs.Conversion.Crossing
import NeuralDevice.Proofs.Conversion.Figures
import NeuralDevice.Proofs.Conversion.Gate
import NeuralDevice.Proofs.Conversion.Hal
import NeuralDevice.Proofs.Conversion.Message
import NeuralDevice.Proofs.Conversion.Numbering
import NeuralDevice.Proofs.Conversion.Refusal
import NeuralDevice.Proofs.Conversion.Times
import NeuralDevice.Proofs.Conversion.Uses
import NeuralDevice.Proofs.Device.Admission
import NeuralDevice.Proofs.Device.DeadObject
import NeuralDevice.Proofs.Device.Status
import NeuralDevice.Proofs.Device.Trust
import NeuralDevice.Proofs.Discovery
import NeuralDevice.Proofs.Execution.Asynchronous
import NeuralDevice.Proofs.Execution.Atomicity
import NeuralDevice.Proofs.Execution.Death
import NeuralDevice.Proofs.Execution.Dispatch
import NeuralDevice.Proofs.Execution.Fence
import NeuralDevice.Proofs.Execution.FenceHistory
import NeuralDevice.Proofs.Execution.Fenced
import NeuralDevice.Proofs.Execution.Kernel
import NeuralDevice.Proofs.Execution.Report
import NeuralDevice.Proofs.Execution.Submission
import NeuralDevice.Proofs.Execution.Transparency
import NeuralDevice.Proofs.Execution.Values
import NeuralDevice.Proofs.Failure.Basic
import NeuralDevice.Proofs.Failure.Conversion
import NeuralDevice.Proofs.Failure.Relocation
import NeuralDevice.Proofs.Failure.Report
import NeuralDevice.Proofs.Failure.Validation
import NeuralDevice.Proofs.Memory.Host
import NeuralDevice.Proofs.Memory.Region
import NeuralDevice.Proofs.Memory.Store
import NeuralDevice.Proofs.Memory.View
import NeuralDevice.Proofs.Performance
import NeuralDevice.Proofs.Recovery.Atomicity
import NeuralDevice.Proofs.Recovery.Concurrency
import NeuralDevice.Proofs.Recovery.Errand
import NeuralDevice.Proofs.Recovery.Protection
import NeuralDevice.Proofs.Recovery.Reconnect
import NeuralDevice.Proofs.Recovery.Repreparation
import NeuralDevice.Proofs.Recovery.Stages
import NeuralDevice.Proofs.Relocation.Builder
import NeuralDevice.Proofs.Relocation.Layout
import NeuralDevice.Proofs.Relocation.Model
import NeuralDevice.Proofs.Relocation.Operand
import NeuralDevice.Proofs.Relocation.Packing
import NeuralDevice.Proofs.Relocation.Reflection
import NeuralDevice.Proofs.Relocation.Region
import NeuralDevice.Proofs.Relocation.Request
import NeuralDevice.Proofs.Relocation.Restoration
import NeuralDevice.Proofs.Relocation.Results
import NeuralDevice.Proofs.Relocation.Sending
import NeuralDevice.Proofs.Remote.Answer
import NeuralDevice.Proofs.Remote.Exchange
import NeuralDevice.Proofs.Remote.Mirror
import NeuralDevice.Proofs.Remote.Misreport
import NeuralDevice.Proofs.Result
import NeuralDevice.Proofs.Validation.Basic
import NeuralDevice.Proofs.Validation.Cycle
import NeuralDevice.Proofs.Validation.Index
import NeuralDevice.Proofs.Validation.Model
import NeuralDevice.Proofs.Validation.Nesting
import NeuralDevice.Proofs.Validation.Operand
import NeuralDevice.Proofs.Validation.Quantization
import NeuralDevice.Proofs.Validation.Request
import NeuralDevice.Proofs.Validation.Resolution
import NeuralDevice.Proofs.Validation.Vendor
import NeuralDevice.Proofs.Wire.Field
import NeuralDevice.Proofs.Wire.Message
import NeuralDevice.Proofs.Wire.Record
import NeuralDevice.Recovery.Binding
import NeuralDevice.Recovery.Device
import NeuralDevice.Relocation.Builder
import NeuralDevice.Relocation.Model
import NeuralDevice.Relocation.Request
import NeuralDevice.Remote.Endpoint
import NeuralDevice.Remote.Transport
import NeuralDevice.Session
import NeuralDevice.Simulation.Device
import NeuralDevice.Simulation.Endpoints
import NeuralDevice.Simulation.Execution
import NeuralDevice.Simulation.Service
import NeuralDevice.Time
import NeuralDevice.Validation.Basic
import NeuralDevice.Validation.Device
import NeuralDevice.Validation.Model
import NeuralDevice.Validation.Operand
import NeuralDevice.Validation.Request
import NeuralDevice.Version
import NeuralDevice.Wire.Aidl
import NeuralDevice.Wire.Field
import NeuralDevice.Wire.Hal
import NeuralDevice.Wire.Message
import NeuralDevice.Wire.Numbers
import NeuralDevice.Wire.Record
import NeuralDevice.Wire.Varint
