import NeuralDevice.Form.Message
import NeuralDevice.Recovery.Device

/-! Forms of what is stated with an execution or a preparation, and of what comes back. -/

namespace NeuralDevice

instance : HasForm ExecutionResult where
  form := ((member "output_shapes").both (member "timing")).form
    (fun (outputShapes, timing) => ⟨outputShapes, timing⟩)
    (fun result => (result.outputShapes, result.timing))

instance : HasForm ExecutionSettings where
  form := ((member "measure").both ((member "deadline").both (member "loop_timeout"))).form
    (fun (measure, deadline, loopTimeout) => ⟨measure, deadline, loopTimeout⟩)
    (fun settings => (settings.measure, settings.deadline, settings.loopTimeout))

/-- The member's value, or the standard one when it is missing. -/
def Json.atOr [HasForm α] (document : Json) (key : String) (standard : α) : α :=
  if document.has key then form.read (document.get key) else standard

instance : HasForm PreparationSettings where
  form :=
    { ((member "preference").both ((member "priority").both (member "deadline"))).form
        (fun (preference, priority, deadline) => PreparationSettings.mk preference priority deadline)
        (fun settings => (settings.preference, settings.priority, settings.deadline)) with
      read := fun document =>
        ⟨document.atOr "preference" .standard, document.atOr "priority" .standard,
          document.at (Option TimePoint) "deadline"⟩ }

/-- Missing options are the standard ones. -/
instance : HasForm ExecutionOptions where
  form := .exact
    (fun document =>
      ⟨document.atOr "prefer_synchronous" ExecutionOptions.standard.preferSynchronous,
        document.at (Option Duration) "async_wait_timeout"⟩)
    (fun options => .ofMembers
      [("prefer_synchronous", .bool options.preferSynchronous),
        ("async_wait_timeout", form.write options.asyncWaitTimeout)])

def DeviceProfile.toJson (profile : DeviceProfile) : Json :=
  .ofMembers
    [("name", .str profile.name), ("version_string", .str profile.info.versionString),
      ("feature_level", form.write profile.featureLevel), ("device_type", form.write profile.info.type),
      ("extensions", form.write profile.info.extensions),
      ("capabilities", form.write profile.info.capabilities)]

/-- A failure by the name of its kind, with the code if it has one. -/
instance : HasForm TransportError where
  form := .exact
    (fun document =>
      if document.has "failed" then .failed (document.at Int32 "failed")
      else if document.has "service_specific" then
        .serviceSpecific (document.at Int32 "service_specific")
      else .dead)
    (fun
      | .dead => .str "dead"
      | .failed status => .ofMembers [("failed", form.write status)]
      | .serviceSpecific code => .ofMembers [("service_specific", form.write code)])

/-- Times of a report that has none: not measured. -/
def Wire.Hal.timesMissing : Wire.Hal.Timing := ⟨Wire.Hal.notMeasured, Wire.Hal.notMeasured⟩

def Wire.Aidl.timesMissing : Wire.Aidl.Timing := ⟨Wire.Aidl.noValue, Wire.Aidl.noValue⟩

instance : HasForm Wire.Hal.V1_2.Report where
  form := .exact
    (fun document =>
      ⟨document.at Int32 "status", document.at (List Wire.Hal.OutputShape) "output_shapes",
        document.atOr "timing" Wire.Hal.timesMissing⟩)
    (fun report => .ofMembers
      [("status", form.write report.status), ("output_shapes", form.write report.outputShapes),
        ("timing", form.write report.timing)])

instance : HasForm Wire.Aidl.FencedTimes where
  form := .exact
    (fun document =>
      ⟨document.atOr "launched" Wire.Aidl.timesMissing, document.atOr "fenced" Wire.Aidl.timesMissing,
        document.at Int32 "status"⟩)
    (fun times => .ofMembers
      [("launched", form.write times.launched), ("fenced", form.write times.fenced),
        ("status", form.write times.status)])

def FenceState.ofName (name : String) : FenceState :=
  match name with
  | "signaled" => .signaled
  | "error" => .error
  | _ => .active

end NeuralDevice
