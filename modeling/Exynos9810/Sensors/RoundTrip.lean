import Exynos9810.Sensors.ConvertUtils

/-!
# What a sensor event says, in both interfaces

A reading is the part of a payload that the type of its event defines.  Each
conversion keeps the reading, so both round trips do.
-/
namespace Exynos9810.Sensors

inductive Format where
  | metaData
  | vec3
  | vec4
  | rotation
  | uncal
  | scalar
  | stepCount
  | heartRate
  | pose6DOF
  | dynamic
  | additional
  | headTracker
  | data
  deriving DecidableEq, Repr

/-- The payload that each type has; `none` for a type that is not handled. -/
def SensorType.format : SensorType → Option Format
  | .metaData => some .metaData
  | .accelerometer | .magneticField | .orientation | .gyroscope | .gravity
  | .linearAcceleration => some .vec3
  | .gameRotationVector => some .vec4
  | .rotationVector | .geomagneticRotationVector => some .rotation
  | .accelerometerUncalibrated | .magneticFieldUncalibrated | .gyroscopeUncalibrated =>
    some .uncal
  | .light | .pressure | .proximity | .relativeHumidity | .ambientTemperature
  | .significantMotion | .stepDetector | .tiltDetector | .wakeGesture | .glanceGesture
  | .pickUpGesture | .wristTiltGesture | .deviceOrientation | .stationaryDetect
  | .motionDetect | .heartBeat | .lowLatencyOffbodyDetect | .hingeAngle => some .scalar
  | .stepCounter => some .stepCount
  | .heartRate => some .heartRate
  | .pose6DOF => some .pose6DOF
  | .dynamicSensorMeta => some .dynamic
  | .additionalInfo => some .additional
  | .headTracker => some .headTracker
  | .unnamed value => if devicePrivateBase ≤ value then some .data else none

inductive Reading where
  | metaData (what : UInt32)
  | vec3 (vec3 : Vec3)
  | vec4 (vec4 : Vec4)
  | rotation (values : Fin 5 → UInt32)
  | uncal (uncal : Uncal)
  | scalar (scalar : UInt32)
  | stepCount (stepCount : UInt64)
  | heartRate (heartRate : HeartRate)
  | pose6DOF (values : Fin 15 → UInt32)
  | dynamic (info : DynamicSensorInfo)
  | additional (type serial : UInt32) (values : Fin 14 → UInt32)
  | headTracker (headTracker : HeadTracker)
  | data (values : Fin 16 → UInt32)

def AdditionalInfoPayload.words : AdditionalInfoPayload → Fin 14 → UInt32
  | .dataInt32 values => values
  | .dataFloat values => values

def hidlReading (u : HidlPayload) : Format → Reading
  | .metaData => .metaData (metaWhat.get u)
  | .vec3 => .vec3 (hidlVec3 u)
  | .vec4 => .vec4 (hidlVec4 u)
  | .rotation => .rotation (rotation.get u)
  | .uncal => .uncal (hidlUncal u)
  | .scalar => .scalar (scalar.get u)
  | .stepCount => .stepCount (stepCount.get u)
  | .heartRate => .heartRate (hidlHeartRate u)
  | .pose6DOF => .pose6DOF (pose6DOF.get u)
  | .dynamic => .dynamic (hidlDynamic u)
  | .additional =>
    .additional (additionalType.get u) (additionalSerial.get u) (additionalData.get u)
  | .headTracker => .headTracker (hidlHeadTracker u)
  | .data => .data (data.get u)

/-- `none` unless the payload is of the variant that the format asks for. -/
def aidlReading (payload : AidlPayload) : Format → Option Reading
  | .metaData => (getMeta payload).map .metaData
  | .vec3 => (getVec3 payload).map .vec3
  | .vec4 => (getVec4 payload).map .vec4
  | .rotation => (getData payload).map fun values => .rotation (firstFive values)
  | .uncal => (getUncal payload).map .uncal
  | .scalar => (getScalar payload).map .scalar
  | .stepCount => (getStepCount payload).map .stepCount
  | .heartRate => (getHeartRate payload).map .heartRate
  | .pose6DOF => (getPose6DOF payload).map .pose6DOF
  | .dynamic => (getDynamic payload).map .dynamic
  | .additional => (getAdditional payload).map fun info =>
    .additional info.type info.serial info.payload.words
  | .headTracker => (getHeadTracker payload).map .headTracker
  | .data => (getData payload).map .data

def HidlEvent.reading (event : HidlEvent) : Option Reading :=
  (SensorType.ofInt32 event.sensorType).format.map (hidlReading event.u)

def AidlEvent.reading (event : AidlEvent) : Option Reading :=
  (SensorType.ofInt32 event.sensorType).format.bind (aidlReading event.payload)

section Members

variable (u : HidlPayload)

theorem hidlVec3_set (vec3 : Vec3) : hidlVec3 (setVec3 u vec3) = vec3 := by
  simp (disch := decide) only [hidlVec3, setVec3, Member.get_set_self, Member.get_set_of_apart]

theorem hidlVec4_set (vec4 : Vec4) : hidlVec4 (setVec4 u vec4) = vec4 := by
  simp (disch := decide) only [hidlVec4, setVec4, Member.get_set_self, Member.get_set_of_apart]

theorem hidlUncal_set (uncal : Uncal) : hidlUncal (setUncal u uncal) = uncal := by
  simp (disch := decide) only [hidlUncal, setUncal, Member.get_set_self, Member.get_set_of_apart]

theorem hidlHeartRate_set (heartRate : HeartRate) :
    hidlHeartRate (setHeartRate u heartRate) = heartRate := by
  simp (disch := decide) only [hidlHeartRate, setHeartRate, Member.get_set_self,
    Member.get_set_of_apart]

theorem hidlDynamic_set (info : DynamicSensorInfo) :
    hidlDynamic (setDynamic u info) = info := by
  simp (disch := decide) only [hidlDynamic, setDynamic, Member.get_set_self,
    Member.get_set_of_apart]

theorem hidlHeadTracker_set (ht : HeadTracker) :
    hidlHeadTracker (setHeadTracker u ht) = ht := by
  simp (disch := decide) only [hidlHeadTracker, setHeadTracker, Member.get_set_self,
    Member.get_set_of_apart]

theorem additional_set (info : AdditionalInfo) :
    hidlReading (setAdditional u info) .additional =
      .additional info.type info.serial info.payload.words := by
  obtain ⟨type, serial, values | values⟩ := info <;>
    simp (disch := decide) only [hidlReading, setAdditional, AdditionalInfoPayload.words,
      Member.get_set_self, Member.get_set_of_apart]

theorem firstFive_dataOfRotation (values : Fin 5 → UInt32) :
    firstFive (dataOfRotation values) = values := by
  funext i
  exact dif_pos i.isLt

end Members

section Switches

/-- The writes of `convertToHidlEvent` for a format. -/
def Format.write (payload : AidlPayload) (u : HidlPayload) : Format → Option HidlPayload
  | .metaData => (getMeta payload).map (metaWhat.set u)
  | .vec3 => (getVec3 payload).map (setVec3 u)
  | .vec4 => (getVec4 payload).map (setVec4 u)
  | .rotation => (getData payload).map fun values => Sensors.rotation.set u (firstFive values)
  | .uncal => (getUncal payload).map (setUncal u)
  | .scalar => (getScalar payload).map (Sensors.scalar.set u)
  | .stepCount => (getStepCount payload).map (Sensors.stepCount.set u)
  | .heartRate => (getHeartRate payload).map (setHeartRate u)
  | .pose6DOF => (getPose6DOF payload).map (Sensors.pose6DOF.set u)
  | .dynamic => (getDynamic payload).map (setDynamic u)
  | .additional => (getAdditional payload).map (setAdditional u)
  | .headTracker => (getHeadTracker payload).map (setHeadTracker u)
  | .data => (getData payload).map (Sensors.data.set u)

variable {type : SensorType} {format : Format}

theorem format_unnamed {value : Int32} (h : (SensorType.unnamed value).format = some format) :
    devicePrivateBase ≤ value ∧ format = .data := by
  change (if devicePrivateBase ≤ value then some Format.data else none) = some format at h
  split at h
  next hbase =>
    cases h
    exact ⟨hbase, rfl⟩
  next => contradiction

theorem hidlPayload_eq (payload : AidlPayload) (u : HidlPayload)
    (h : type.format = some format) : hidlPayload type payload u = format.write payload u := by
  cases type with
  | unnamed value =>
    obtain ⟨hbase, rfl⟩ := format_unnamed h
    exact if_pos hbase
  | _ =>
    cases h
    rfl

theorem aidlReading_aidlPayload (u : HidlPayload) (h : type.format = some format) :
    ∃ payload, aidlPayload type u = some payload ∧
      aidlReading payload format = some (hidlReading u format) := by
  cases type with
  | unnamed value =>
    obtain ⟨hbase, rfl⟩ := format_unnamed h
    exact ⟨_, if_pos hbase, rfl⟩
  | rotationVector | geomagneticRotationVector =>
    cases h
    refine ⟨_, rfl, ?_⟩
    change some (Reading.rotation (firstFive (dataOfRotation _))) = _
    rw [firstFive_dataOfRotation]
    rfl
  | _ =>
    cases h
    exact ⟨_, rfl, rfl⟩

theorem hidlReading_write {payload : AidlPayload} {reading : Reading} (u : HidlPayload)
    (h : aidlReading payload format = some reading) :
    ∃ u', format.write payload u = some u' ∧ hidlReading u' format = reading := by
  cases format <;> obtain ⟨value, hget, rfl⟩ := Option.map_eq_some_iff.mp h <;>
    refine ⟨_, by rw [Format.write, hget, Option.map_some], ?_⟩
  case vec3 => rw [hidlReading, hidlVec3_set]
  case vec4 => rw [hidlReading, hidlVec4_set]
  case uncal => rw [hidlReading, hidlUncal_set]
  case heartRate => rw [hidlReading, hidlHeartRate_set]
  case dynamic => rw [hidlReading, hidlDynamic_set]
  case additional => rw [additional_set]
  case headTracker => rw [hidlReading, hidlHeadTracker_set]
  all_goals rw [hidlReading, Member.get_set_self]

end Switches

section Events

theorem convertToAidlEvent_reading {event : HidlEvent} {reading : Reading}
    (aidlEvent : AidlEvent) (h : event.reading = some reading) :
    ∃ event', convertToAidlEvent event aidlEvent = some event' ∧
      event'.timestamp = event.timestamp ∧ event'.sensorHandle = event.sensorHandle ∧
      event'.sensorType = event.sensorType ∧ event'.reading = some reading := by
  obtain ⟨format, hformat, rfl⟩ := Option.map_eq_some_iff.mp h
  obtain ⟨payload, hpayload, hreading⟩ := aidlReading_aidlPayload event.u hformat
  refine ⟨_, by rw [convertToAidlEvent, hpayload, Option.map_some], rfl, rfl, rfl, ?_⟩
  exact Option.bind_eq_some_iff.mpr ⟨format, hformat, hreading⟩

theorem convertToHidlEvent_reading {event : AidlEvent} {reading : Reading}
    (hidlEvent : HidlEvent) (h : event.reading = some reading) :
    ∃ event', convertToHidlEvent event hidlEvent = some event' ∧
      event'.timestamp = event.timestamp ∧ event'.sensorHandle = event.sensorHandle ∧
      event'.sensorType = event.sensorType ∧ event'.reading = some reading := by
  obtain ⟨format, hformat, hreading⟩ := Option.bind_eq_some_iff.mp h
  obtain ⟨u', hwrite, rfl⟩ := hidlReading_write hidlEvent.u hreading
  rw [← hidlPayload_eq event.payload hidlEvent.u hformat] at hwrite
  refine ⟨_, by rw [convertToHidlEvent, hwrite, Option.map_some], rfl, rfl, rfl, ?_⟩
  exact Option.map_eq_some_iff.mpr ⟨format, hformat, rfl⟩

/-- Both round trips keep the header and the reading of an event, whatever the
events held that the results are written to. -/
theorem events_convert_losslessly :
    (∀ (event : HidlEvent) (aidlEvent : AidlEvent) (hidlEvent : HidlEvent),
      (SensorType.ofInt32 event.sensorType).format.isSome →
      ∃ converted result, convertToAidlEvent event aidlEvent = some converted ∧
        convertToHidlEvent converted hidlEvent = some result ∧
        result.timestamp = event.timestamp ∧ result.sensorHandle = event.sensorHandle ∧
        result.sensorType = event.sensorType ∧ result.reading = event.reading) ∧
    ∀ (event : AidlEvent) (hidlEvent : HidlEvent) (aidlEvent : AidlEvent),
      event.reading.isSome →
      ∃ converted result, convertToHidlEvent event hidlEvent = some converted ∧
        convertToAidlEvent converted aidlEvent = some result ∧
        result.timestamp = event.timestamp ∧ result.sensorHandle = event.sensorHandle ∧
        result.sensorType = event.sensorType ∧ result.reading = event.reading := by
  constructor
  · intro event aidlEvent hidlEvent hhandled
    have hsome : event.reading.isSome := by rwa [HidlEvent.reading, Option.isSome_map]
    obtain ⟨reading, hreading⟩ := Option.isSome_iff_exists.mp hsome
    obtain ⟨converted, hto, htime, hhandle, htype, hconverted⟩ :=
      convertToAidlEvent_reading aidlEvent hreading
    obtain ⟨result, hback, htime', hhandle', htype', hresult⟩ :=
      convertToHidlEvent_reading hidlEvent hconverted
    exact ⟨converted, result, hto, hback, htime'.trans htime, hhandle'.trans hhandle,
      htype'.trans htype, hresult.trans hreading.symm⟩
  · intro event hidlEvent aidlEvent hsome
    obtain ⟨reading, hreading⟩ := Option.isSome_iff_exists.mp hsome
    obtain ⟨converted, hto, htime, hhandle, htype, hconverted⟩ :=
      convertToHidlEvent_reading hidlEvent hreading
    obtain ⟨result, hback, htime', hhandle', htype', hresult⟩ :=
      convertToAidlEvent_reading aidlEvent hconverted
    exact ⟨converted, result, hto, hback, htime'.trans htime, hhandle'.trans hhandle,
      htype'.trans htype, hresult.trans hreading.symm⟩

def sampleHeadTracker : HidlEvent :=
  ⟨1000, 1, 37, fun i => UInt8.ofNat i⟩

def sampleAdditionalInfo : AidlEvent :=
  ⟨2000, 2, 33, .additional ⟨1, 0, .dataInt32 fun i => UInt32.ofNat i⟩⟩

theorem events_convert_losslessly_samples :
    (∃ converted result,
      convertToAidlEvent sampleHeadTracker sampleAdditionalInfo = some converted ∧
        convertToHidlEvent converted sampleHeadTracker = some result ∧
        result.timestamp = 1000 ∧ result.sensorHandle = 1 ∧ result.sensorType = 37 ∧
        result.reading = sampleHeadTracker.reading) ∧
    ∃ converted result,
      convertToHidlEvent sampleAdditionalInfo sampleHeadTracker = some converted ∧
        convertToAidlEvent converted sampleAdditionalInfo = some result ∧
        result.timestamp = 2000 ∧ result.sensorHandle = 2 ∧ result.sensorType = 33 ∧
        result.reading = sampleAdditionalInfo.reading :=
  ⟨events_convert_losslessly.1 sampleHeadTracker sampleAdditionalInfo sampleHeadTracker
      (by decide),
    events_convert_losslessly.2 sampleAdditionalInfo sampleHeadTracker sampleAdditionalInfo
      (by decide)⟩

end Events

end Exynos9810.Sensors
