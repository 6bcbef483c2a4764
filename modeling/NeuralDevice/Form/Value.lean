import NeuralDevice.Form.Basic
import NeuralDevice.Graph.Model
import NeuralDevice.Graph.Request
import NeuralDevice.Performance

/-! Forms of canonical values. Types of operands and operations are read by code and written by name. -/

namespace NeuralDevice

/-- A type; vendor types show their vendor and number. -/
def Coded.label [CodeTable β] : Coded β → String
  | .builtin entry => CodeTable.name entry
  | .vendor code => s!"EXTENSION({code.text})"

/-- Types by code; an unknown code is read as `fallback`. -/
def Form.coded [CodeTable β] [DecidableEq β] (fallback : β) : Form (Coded β) :=
  .exact (fun document => (Coded.ofCode? (document.as UInt32)).getD (.builtin fallback))
    (fun type => .str type.label)

instance : HasForm OperandType := ⟨.coded .float32⟩

instance : HasForm OperationType := ⟨.coded .add⟩

/-- Seconds and the nanoseconds beyond them. -/
instance : HasForm Duration where
  form := .exact
    (fun document => .ofSeconds (document.get "secs").toInt.toNat (document.get "nanos").toInt.toNat)
    (fun span => .ofMembers
      [("secs", .str (toString span.seconds)), ("nanos", .nat span.beyondSeconds)])

/-- Seconds since the epoch, which may be negative, and the nanoseconds beyond them. -/
instance : HasForm TimePoint where
  form := .exact
    (fun document => ⟨(document.get "secs").toInt * Duration.perSecond + (document.get "nanos").toInt⟩)
    (fun point => .ofMembers
      [("secs", .str (toString (point.sinceEpoch / Duration.perSecond))),
        ("nanos", .int (point.sinceEpoch % Duration.perSecond))])

/-- The number of a buffer, pointed to at its start, and how much of it may be used. -/
instance : HasForm HostPointer where
  form := .exact
    (fun document =>
      ⟨(document.get "buffer").toInt.toNat, 0, document.at UInt64 "len", document.at Bool "mutable"⟩)
    (fun pointer => .ofMembers
      [("buffer", .nat pointer.buffer), ("len", .nat pointer.size.toNat),
        ("mutable", .bool pointer.isWritable)])

instance : HasForm DataLocation where
  form := ((member "pointer").both ((member "pool_index").both ((member "offset").both
      (member "length")))).form
    (fun (pointer, poolIndex, offset, length) => ⟨pointer, poolIndex, offset, length⟩)
    (fun location => (location.pointer, location.poolIndex, location.offset, location.length))

instance : HasForm ChannelQuantization where
  form := ((member "scales").both (member "channel_dim")).form
    (fun (scales, channelDim) => ⟨scales, channelDim⟩) (fun params => (params.scales, params.channelDim))

instance : HasForm ExtraParams where
  form :=
    { read := fun document =>
        if document.has "channel_quant" then .channelQuant (form.read (document.get "channel_quant"))
        else if document.has "extension" then .vendor (form.read (document.get "extension"))
        else .none
      write := fun
        | .none => .null
        | .channelQuant params => .ofMembers [("channel_quant", form.write params)]
        | .vendor data => .ofMembers [("extension", form.write data)]
      same := fun
        | .channelQuant first, .channelQuant second => form.same first second
        | first, second => first = second }

instance : HasForm Operand where
  form := ((member "type").both ((member "dimensions").both ((member "scale").both
      ((member "zero_point").both ((member "lifetime").both ((member "location").both
        (member "extra_params"))))))).form
    (fun (type, dimensions, scale, zeroPoint, lifetime, location, extraParams) =>
      ⟨type, dimensions, scale, zeroPoint, lifetime, location, extraParams⟩)
    (fun operand =>
      (operand.type, operand.dimensions, operand.scale, operand.zeroPoint, operand.lifetime,
        operand.location, operand.extraParams))

instance : HasForm Operation where
  form := ((member "type").both ((member "inputs").both (member "outputs"))).form
    (fun (type, inputs, outputs) => ⟨type, inputs, outputs⟩)
    (fun operation => (operation.type, operation.inputs, operation.outputs))

instance : HasForm Subgraph where
  form := ((member "operands").both ((member "operations").both ((member "input_indexes").both
      (member "output_indexes")))).form
    (fun (operands, operations, inputIndexes, outputIndexes) =>
      ⟨operands, operations, inputIndexes, outputIndexes⟩)
    (fun subgraph =>
      (subgraph.operands, subgraph.operations, subgraph.inputIndexes, subgraph.outputIndexes))

instance : HasForm Handle where
  form := ((member "fds").both (member "ints")).form
    (fun (descriptors, ints) => ⟨descriptors, ints⟩) (fun handle => (handle.descriptors, handle.ints))

instance : HasForm Memory where
  form := ((member "handle").both ((member "size").both (member "name"))).form
    (fun (handle, size, name) => ⟨handle, size, name⟩)
    (fun memory => (memory.handle, memory.size, memory.name))

instance : HasForm VendorEntry where
  form := ((member "name").both (member "prefix")).form
    (fun (name, vendor) => ⟨name, vendor⟩) (fun entry => (entry.name, entry.vendor))

instance : HasForm Model where
  form := ((member "main").both ((member "referenced").both ((member "operand_values").both
      ((member "pools").both ((member "relax").both (member "extensions")))))).form
    (fun (main, referenced, operandValues, pools, relaxFloat32, vendors) =>
      ⟨main, referenced, operandValues, pools, relaxFloat32, vendors⟩)
    (fun model =>
      (model.main, model.referenced, model.operandValues, model.pools, model.relaxFloat32,
        model.vendors))

instance : HasForm Argument where
  form := ((member "lifetime").both ((member "location").both (member "dimensions"))).form
    (fun (lifetime, location, dimensions) => ⟨lifetime, location, dimensions⟩)
    (fun argument => (argument.lifetime, argument.location, argument.dimensions))

instance : HasForm MemoryPool where
  form := .exact
    (fun document =>
      if document.has "memory" then .memory (document.at Memory "memory")
      else .token (document.at UInt32 "token"))
    (fun
      | .memory memory => .ofMembers [("memory", form.write memory)]
      | .token token => .ofMembers [("token", form.write token)])

instance : HasForm Request where
  form := ((member "inputs").both ((member "outputs").both (member "pools"))).form
    (fun (inputs, outputs, pools) => ⟨inputs, outputs, pools⟩)
    (fun request => (request.inputs, request.outputs, request.pools))

instance : HasForm OutputShape where
  form := ((member "dimensions").both (member "is_sufficient")).form
    (fun (dimensions, isSufficient) => ⟨dimensions, isSufficient⟩)
    (fun shape => (shape.dimensions, shape.isSufficient))

instance : HasForm Timing where
  form := ((member "time_on_device").both (member "time_in_driver")).form
    (fun (timeOnDevice, timeInDriver) => ⟨timeOnDevice, timeInDriver⟩)
    (fun timing => (timing.timeOnDevice, timing.timeInDriver))

instance : HasForm PerformanceInfo where
  form := ((member "exec_time").both (member "power_usage")).form
    (fun (execTime, powerUsage) => ⟨execTime, powerUsage⟩)
    (fun info => (info.execTime, info.powerUsage))

instance : HasForm OperandPerformance where
  form := ((member "type").both (member "info")).form
    (fun (type, info) => ⟨type, info⟩) (fun entry => (entry.type, entry.info))

instance : HasForm Capabilities where
  form := ((member "relaxed_scalar").both ((member "relaxed_tensor").both
      ((member "operand_performance").both ((member "if").both (member "while"))))).form
    (fun (relaxedScalar, relaxedTensor, entries, ifPerformance, whilePerformance) =>
      ⟨relaxedScalar, relaxedTensor, ⟨entries⟩, ifPerformance, whilePerformance⟩)
    (fun capabilities =>
      (capabilities.relaxedScalar, capabilities.relaxedTensor, capabilities.operandPerformance.entries,
        capabilities.ifPerformance, capabilities.whilePerformance))

instance : HasForm ExtensionType where
  form := ((member "type").both ((member "is_tensor").both (member "byte_size"))).form
    (fun (type, isTensor, byteSize) => ⟨type, isTensor, byteSize⟩)
    (fun entry => (entry.type, entry.isTensor, entry.byteSize))

instance : HasForm Extension where
  form := ((member "name").both (member "operand_types")).form
    (fun (name, operandTypes) => ⟨name, operandTypes⟩)
    (fun extension => (extension.name, extension.operandTypes))

def Error.kind : Error → String
  | .invalidArgument _ => "InvalidArgument"
  | .generalFailure _ => "GeneralFailure"
  | .unsupported _ => "Unsupported"
  | .deadObject _ => "DeadObject"
  | .resourceExhausted _ => "ResourceExhausted"
  | .internalConsistency _ => "InternalConsistency"
  | .deadlineExceeded _ => "DeadlineExceeded"
  | .execution _ _ => "Execution"
  | .outputInsufficientSize _ _ => "OutputInsufficientSize"

def Error.ofKind (kind detail : String) (status : ErrorStatus) (shapes : List OutputShape) : Error :=
  match kind with
  | "GeneralFailure" => .generalFailure detail
  | "Unsupported" => .unsupported detail
  | "DeadObject" => .deadObject detail
  | "ResourceExhausted" => .resourceExhausted detail
  | "InternalConsistency" => .internalConsistency detail
  | "DeadlineExceeded" => .deadlineExceeded detail
  | "Execution" => .execution status detail
  | "OutputInsufficientSize" => .outputInsufficientSize detail shapes
  | _ => .invalidArgument detail

/-- Output shapes are a member of the errors that have them. -/
def Error.shapeMembers : Error → List (String × Json)
  | .outputInsufficientSize _ shapes => [("output_shapes", form.write shapes)]
  | _ => []

/-- Errors are read by kind and detail, and written with their whole text. -/
instance : HasForm Error where
  form := .exact
    (fun document =>
      .ofKind (document.at String "kind") (document.at String "message")
        (document.at ErrorStatus "status") (document.at (List OutputShape) "output_shapes"))
    (fun error => .ofMembers
      ([("error", .str error.kind), ("message", .str error.text),
        ("status", form.write error.status)] ++ error.shapeMembers))

/-- The document of an outcome: the value's or the error's. -/
def Result.toJson (write : α → Json) : Result α → Json
  | .ok value => write value
  | .error error => form.write error

/-- An outcome given as one member: a value or an error. -/
def Result.ofJson (read : Json → α) (document : Json) : Result α :=
  if document.has "err" then throw (document.at Error "err") else pure (read (document.get "ok"))

end NeuralDevice
