import NeuralDevice.Form.Value
import NeuralDevice.Wire.Aidl
import NeuralDevice.Wire.Hal

/-! Forms of wire messages. Codes are numbers, and an absent message is `null`. -/

namespace NeuralDevice

variable {index extent width pool : Type} [HasForm index] [HasForm extent] [HasForm width] [HasForm pool]

instance : HasForm Wire.NativeHandle where
  form := ((member "fds").both (member "ints")).form
    (fun (descriptors, ints) => ⟨descriptors, ints⟩) (fun handle => (handle.descriptors, handle.ints))

instance : HasForm (Wire.Memory width) where
  form := ((member "name").both ((member "size").both (member "handle"))).form
    (fun (name, size, handle) => ⟨name, size, handle⟩)
    (fun memory => (memory.name, memory.size, memory.handle))

instance : HasForm Wire.OperandPerformance where
  form := ((member "type").both (member "info")).form
    (fun (type, info) => ⟨type, info⟩) (fun entry => (entry.type, entry.info))

instance : HasForm (Wire.Location index extent) where
  form := ((member "pool_index").both ((member "offset").both (member "length"))).form
    (fun (poolIndex, offset, length) => ⟨poolIndex, offset, length⟩)
    (fun location => (location.poolIndex, location.offset, location.length))

instance : HasForm (Wire.ChannelQuantization index) where
  form := ((member "scales").both (member "channel_dim")).form
    (fun (scales, channelDim) => ⟨scales, channelDim⟩) (fun params => (params.scales, params.channelDim))

/-- An object whose only member is the parameters that are present. -/
instance : HasForm (Option (Wire.ExtraParams index)) where
  form :=
    { read := fun document =>
        if document.has "channel_quant" then some (.inl (form.read (document.get "channel_quant")))
        else if document.has "extension" then some (.inr (form.read (document.get "extension")))
        else none
      write := fun
        | none => .null
        | some (.inl params) => .ofMembers [("channel_quant", form.write params)]
        | some (.inr data) => .ofMembers [("extension", form.write data)]
      same := fun
        | some (.inl first), some (.inl second) => form.same first second
        | some (.inr first), some (.inr second) => first = second
        | none, none => true
        | _, _ => false }

instance : HasForm (Wire.Operation index) where
  form := ((member "type").both ((member "inputs").both (member "outputs"))).form
    (fun (type, inputs, outputs) => ⟨type, inputs, outputs⟩)
    (fun operation => (operation.type, operation.inputs, operation.outputs))

instance : HasForm (Wire.VendorEntry index) where
  form := ((member "name").both (member "prefix")).form
    (fun (name, vendor) => ⟨name, vendor⟩) (fun entry => (entry.name, entry.vendor))

instance : HasForm (Wire.Argument index extent) where
  form := ((member "has_no_value").both ((member "location").both (member "dimensions"))).form
    (fun (hasNoValue, location, dimensions) => ⟨hasNoValue, location, dimensions⟩)
    (fun argument => (argument.hasNoValue, argument.location, argument.dimensions))

instance : HasForm (Wire.Request index extent pool) where
  form := ((member "inputs").both ((member "outputs").both (member "pools"))).form
    (fun (inputs, outputs, pools) => ⟨inputs, outputs, pools⟩)
    (fun request => (request.inputs, request.outputs, request.pools))

instance : HasForm (Wire.OutputShape index) where
  form := ((member "dimensions").both (member "is_sufficient")).form
    (fun (dimensions, isSufficient) => ⟨dimensions, isSufficient⟩)
    (fun shape => (shape.dimensions, shape.isSufficient))

instance : HasForm (Wire.ExtensionType index) where
  form := ((member "type").both ((member "is_tensor").both (member "byte_size"))).form
    (fun (type, isTensor, byteSize) => ⟨type, isTensor, byteSize⟩)
    (fun entry => (entry.type, entry.isTensor, entry.byteSize))

instance : HasForm (Wire.Extension index) where
  form := ((member "name").both (member "operand_types")).form
    (fun (name, operandTypes) => ⟨name, operandTypes⟩)
    (fun extension => (extension.name, extension.operandTypes))

/-- Microseconds. -/
instance : HasForm Wire.Hal.Timing where
  form := ((member "time_on_device").both (member "time_in_driver")).form
    (fun (timeOnDevice, timeInDriver) => ⟨timeOnDevice, timeInDriver⟩)
    (fun timing => (timing.timeOnDevice, timing.timeInDriver))

/-- Nanoseconds. -/
instance : HasForm Wire.Aidl.Timing where
  form := ((member "time_on_device_ns").both (member "time_in_driver_ns")).form
    (fun (timeOnDevice, timeInDriver) => ⟨timeOnDevice, timeInDriver⟩)
    (fun timing => (timing.timeOnDevice, timing.timeInDriver))

instance : HasForm Wire.Hal.V1_0.Capabilities where
  form := ((member "float32_performance").both (member "quantized8_performance")).form
    (fun (float32, quantized8) => ⟨float32, quantized8⟩)
    (fun capabilities => (capabilities.float32, capabilities.quantized8))

instance : HasForm Wire.Hal.V1_0.Operand where
  form := ((member "type").both ((member "dimensions").both ((member "number_of_consumers").both
      ((member "scale").both ((member "zero_point").both ((member "lifetime").both
        (member "location"))))))).form
    (fun (type, dimensions, consumers, scale, zeroPoint, lifetime, location) =>
      ⟨type, dimensions, consumers, scale, zeroPoint, lifetime, location⟩)
    (fun operand =>
      (operand.type, operand.dimensions, operand.consumers, operand.scale, operand.zeroPoint,
        operand.lifetime, operand.location))

instance : HasForm Wire.Hal.V1_0.Model where
  form := ((member "operands").both ((member "operations").both ((member "input_indexes").both
      ((member "output_indexes").both ((member "operand_values").both (member "pools")))))).form
    (fun (operands, operations, inputIndexes, outputIndexes, operandValues, pools) =>
      ⟨operands, operations, inputIndexes, outputIndexes, operandValues, pools⟩)
    (fun model =>
      (model.operands, model.operations, model.inputIndexes, model.outputIndexes,
        model.operandValues, model.pools))

instance : HasForm Wire.Hal.V1_2.Capabilities where
  form := ((member "relaxed_scalar").both ((member "relaxed_tensor").both
      (member "operand_performance"))).form
    (fun (relaxedScalar, relaxedTensor, operandPerformance) =>
      ⟨relaxedScalar, relaxedTensor, operandPerformance⟩)
    (fun capabilities =>
      (capabilities.relaxedScalar, capabilities.relaxedTensor, capabilities.operandPerformance))

instance : HasForm Wire.Hal.V1_2.Operand where
  form := ((member "type").both ((member "dimensions").both ((member "number_of_consumers").both
      ((member "scale").both ((member "zero_point").both ((member "lifetime").both
        ((member "location").both (member "extra_params")))))))).form
    (fun (type, dimensions, consumers, scale, zeroPoint, lifetime, location, extraParams) =>
      ⟨type, dimensions, consumers, scale, zeroPoint, lifetime, location, extraParams⟩)
    (fun operand =>
      (operand.type, operand.dimensions, operand.consumers, operand.scale, operand.zeroPoint,
        operand.lifetime, operand.location, operand.extraParams))

instance : HasForm Wire.Hal.V1_2.Model where
  form := ((member "operands").both ((member "operations").both ((member "input_indexes").both
      ((member "output_indexes").both ((member "operand_values").both ((member "pools").both
        ((member "relax").both (member "extensions")))))))).form
    (fun (operands, operations, inputIndexes, outputIndexes, operandValues, pools, relaxFloat32,
        vendors) =>
      ⟨operands, operations, inputIndexes, outputIndexes, operandValues, pools, relaxFloat32, vendors⟩)
    (fun model =>
      (model.operands, model.operations, model.inputIndexes, model.outputIndexes,
        model.operandValues, model.pools, model.relaxFloat32, model.vendors))

instance : HasForm Wire.Aidl.Capabilities where
  form := ((member "relaxed_scalar").both ((member "relaxed_tensor").both
      ((member "operand_performance").both ((member "if").both (member "while"))))).form
    (fun (relaxedScalar, relaxedTensor, operandPerformance, ifPerformance, whilePerformance) =>
      ⟨relaxedScalar, relaxedTensor, operandPerformance, ifPerformance, whilePerformance⟩)
    (fun capabilities =>
      (capabilities.relaxedScalar, capabilities.relaxedTensor, capabilities.operandPerformance,
        capabilities.ifPerformance, capabilities.whilePerformance))

instance : HasForm Wire.Aidl.Operand where
  form := ((member "type").both ((member "dimensions").both ((member "scale").both
      ((member "zero_point").both ((member "lifetime").both ((member "location").both
        (member "extra_params"))))))).form
    (fun (type, dimensions, scale, zeroPoint, lifetime, location, extraParams) =>
      ⟨type, dimensions, scale, zeroPoint, lifetime, location, extraParams⟩)
    (fun operand =>
      (operand.type, operand.dimensions, operand.scale, operand.zeroPoint, operand.lifetime,
        operand.location, operand.extraParams))

instance : HasForm Wire.Aidl.Subgraph where
  form := ((member "operands").both ((member "operations").both ((member "input_indexes").both
      (member "output_indexes")))).form
    (fun (operands, operations, inputIndexes, outputIndexes) =>
      ⟨operands, operations, inputIndexes, outputIndexes⟩)
    (fun subgraph =>
      (subgraph.operands, subgraph.operations, subgraph.inputIndexes, subgraph.outputIndexes))

instance : HasForm Wire.Aidl.Model where
  form := ((member "main").both ((member "referenced").both ((member "operand_values").both
      ((member "pools").both ((member "relax").both (member "extensions")))))).form
    (fun (main, referenced, operandValues, pools, relaxFloat32, vendors) =>
      ⟨main, referenced, operandValues, pools, relaxFloat32, vendors⟩)
    (fun model =>
      (model.main, model.referenced, model.operandValues, model.pools, model.relaxFloat32,
        model.vendors))

instance : HasForm Wire.Aidl.Pool where
  form := .exact
    (fun document =>
      if document.has "memory" then ⟨some (.inl (form.read (document.get "memory")))⟩
      else if document.has "token" then ⟨some (.inr (document.at Int32 "token"))⟩
      else ⟨none⟩)
    (fun pool =>
      match pool.content with
      | none => .ofMembers []
      | some (.inl memory) => .ofMembers [("memory", form.write memory)]
      | some (.inr token) => .ofMembers [("token", form.write token)])

instance : HasForm Wire.Aidl.ExecutionResult where
  form := ((member "output_sufficient_size").both ((member "output_shapes").both
      (member "timing"))).form
    (fun (isSufficient, outputShapes, timing) => ⟨isSufficient, outputShapes, timing⟩)
    (fun result => (result.isSufficient, result.outputShapes, result.timing))

end NeuralDevice
