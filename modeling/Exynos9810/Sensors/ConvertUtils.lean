import Exynos9810.Library.Layout

/-!
# `ConvertUtils.cpp`: sensor events of the two interfaces

A HIDL event keeps its payload in a union of 64 bytes, an AIDL event in a tagged
union.  Floats are 32-bit patterns.  `none` is an abort: a payload of another
variant is asked for, or `CHECK_GE` fails.
-/
namespace Exynos9810.Sensors

/-- The sensor types that the conversions name.  `headTracker` is one of AIDL only. -/
inductive SensorType where
  | metaData
  | accelerometer
  | magneticField
  | orientation
  | gyroscope
  | light
  | pressure
  | proximity
  | gravity
  | linearAcceleration
  | rotationVector
  | relativeHumidity
  | ambientTemperature
  | magneticFieldUncalibrated
  | gameRotationVector
  | gyroscopeUncalibrated
  | significantMotion
  | stepDetector
  | stepCounter
  | geomagneticRotationVector
  | heartRate
  | tiltDetector
  | wakeGesture
  | glanceGesture
  | pickUpGesture
  | wristTiltGesture
  | deviceOrientation
  | pose6DOF
  | stationaryDetect
  | motionDetect
  | heartBeat
  | dynamicSensorMeta
  | additionalInfo
  | lowLatencyOffbodyDetect
  | accelerometerUncalibrated
  | hingeAngle
  | headTracker
  | unnamed (value : Int32)
  deriving DecidableEq, Repr

def SensorType.ofInt32 (value : Int32) : SensorType :=
  match value.toInt with
  | 0 => .metaData
  | 1 => .accelerometer
  | 2 => .magneticField
  | 3 => .orientation
  | 4 => .gyroscope
  | 5 => .light
  | 6 => .pressure
  | 8 => .proximity
  | 9 => .gravity
  | 10 => .linearAcceleration
  | 11 => .rotationVector
  | 12 => .relativeHumidity
  | 13 => .ambientTemperature
  | 14 => .magneticFieldUncalibrated
  | 15 => .gameRotationVector
  | 16 => .gyroscopeUncalibrated
  | 17 => .significantMotion
  | 18 => .stepDetector
  | 19 => .stepCounter
  | 20 => .geomagneticRotationVector
  | 21 => .heartRate
  | 22 => .tiltDetector
  | 23 => .wakeGesture
  | 24 => .glanceGesture
  | 25 => .pickUpGesture
  | 26 => .wristTiltGesture
  | 27 => .deviceOrientation
  | 28 => .pose6DOF
  | 29 => .stationaryDetect
  | 30 => .motionDetect
  | 31 => .heartBeat
  | 32 => .dynamicSensorMeta
  | 33 => .additionalInfo
  | 34 => .lowLatencyOffbodyDetect
  | 35 => .accelerometerUncalibrated
  | 36 => .hingeAngle
  | 37 => .headTracker
  | _ => .unnamed value

def devicePrivateBase : Int32 := 0x10000

section Payloads

structure Vec3 where
  x : UInt32
  y : UInt32
  z : UInt32
  status : Int8
  deriving DecidableEq, Repr

structure Vec4 where
  x : UInt32
  y : UInt32
  z : UInt32
  w : UInt32
  deriving DecidableEq, Repr

structure Uncal where
  x : UInt32
  y : UInt32
  z : UInt32
  xBias : UInt32
  yBias : UInt32
  zBias : UInt32
  deriving DecidableEq, Repr

structure HeartRate where
  bpm : UInt32
  status : Int8
  deriving DecidableEq, Repr

structure DynamicSensorInfo where
  connected : Bool
  sensorHandle : UInt32
  uuid : Fin 16 → UInt8

structure HeadTracker where
  rx : UInt32
  ry : UInt32
  rz : UInt32
  vx : UInt32
  vy : UInt32
  vz : UInt32
  discontinuityCount : UInt32
  deriving DecidableEq, Repr

inductive AdditionalInfoPayload where
  | dataInt32 (values : Fin 14 → UInt32)
  | dataFloat (values : Fin 14 → UInt32)

structure AdditionalInfo where
  type : UInt32
  serial : UInt32
  payload : AdditionalInfoPayload

/-- `other` stands for the variants that no conversion touches. -/
inductive AidlPayload where
  | vec3 (vec3 : Vec3)
  | vec4 (vec4 : Vec4)
  | uncal (uncal : Uncal)
  | metaData (what : UInt32)
  | scalar (scalar : UInt32)
  | stepCount (stepCount : UInt64)
  | heartRate (heartRate : HeartRate)
  | pose6DOF (values : Fin 15 → UInt32)
  | dynamic (info : DynamicSensorInfo)
  | additional (info : AdditionalInfo)
  | data (values : Fin 16 → UInt32)
  | headTracker (headTracker : HeadTracker)
  | other

end Payloads

structure AidlEvent where
  timestamp : Int64
  sensorHandle : Int32
  sensorType : Int32
  payload : AidlPayload

/-- The bytes of the union `u` of a HIDL event. -/
abbrev HidlPayload := Fin 64 → UInt8

structure HidlEvent where
  timestamp : Int64
  sensorHandle : Int32
  sensorType : Int32
  u : HidlPayload

section AidlPayload

variable (payload : AidlPayload)

def getVec3 : Option Vec3 :=
  match payload with
  | .vec3 vec3 => some vec3
  | _ => none

def getVec4 : Option Vec4 :=
  match payload with
  | .vec4 vec4 => some vec4
  | _ => none

def getUncal : Option Uncal :=
  match payload with
  | .uncal uncal => some uncal
  | _ => none

def getMeta : Option UInt32 :=
  match payload with
  | .metaData what => some what
  | _ => none

def getScalar : Option UInt32 :=
  match payload with
  | .scalar scalar => some scalar
  | _ => none

def getStepCount : Option UInt64 :=
  match payload with
  | .stepCount stepCount => some stepCount
  | _ => none

def getHeartRate : Option HeartRate :=
  match payload with
  | .heartRate heartRate => some heartRate
  | _ => none

def getPose6DOF : Option (Fin 15 → UInt32) :=
  match payload with
  | .pose6DOF values => some values
  | _ => none

def getDynamic : Option DynamicSensorInfo :=
  match payload with
  | .dynamic info => some info
  | _ => none

def getAdditional : Option AdditionalInfo :=
  match payload with
  | .additional info => some info
  | _ => none

def getData : Option (Fin 16 → UInt32) :=
  match payload with
  | .data values => some values
  | _ => none

def getHeadTracker : Option HeadTracker :=
  match payload with
  | .headTracker headTracker => some headTracker
  | _ => none

end AidlPayload

section HidlPayload

/-- The words of `u`; most members are made of them. -/
def word (index : Fin 16) : Member 64 UInt32 :=
  ⟨.uint32, 4 * index, by
    change 4 * index.val + 4 ≤ 64
    omega⟩

def metaWhat : Member 64 UInt32 := word 0
def scalar : Member 64 UInt32 := word 0
def additionalType : Member 64 UInt32 := word 0
def additionalSerial : Member 64 UInt32 := word 1
def vec3Status : Member 64 Int8 := ⟨.int8, 12, by decide⟩
def stepCount : Member 64 UInt64 := ⟨.uint64, 0, by decide⟩
def heartRateStatus : Member 64 Int8 := ⟨.int8, 4, by decide⟩
def pose6DOF : Member 64 (Fin 15 → UInt32) := ⟨.array 15 .uint32, 0, by decide⟩
def dynamicConnected : Member 64 Bool := ⟨.bool, 0, by decide⟩
def dynamicUuid : Member 64 (Fin 16 → UInt8) := ⟨.array 16 .uint8, 8, by decide⟩
def additionalData : Member 64 (Fin 14 → UInt32) := ⟨.array 14 .uint32, 8, by decide⟩
def data : Member 64 (Fin 16 → UInt32) := ⟨.array 16 .uint32, 0, by decide⟩
/-- The words of `data` that a rotation vector has. -/
def rotation : Member 64 (Fin 5 → UInt32) := ⟨.array 5 .uint32, 0, by decide⟩

variable (u : HidlPayload)

def hidlVec3 : Vec3 :=
  { x := (word 0).get u, y := (word 1).get u, z := (word 2).get u, status := vec3Status.get u }

def setVec3 (vec3 : Vec3) : HidlPayload :=
  let u := (word 0).set u vec3.x
  let u := (word 1).set u vec3.y
  let u := (word 2).set u vec3.z
  vec3Status.set u vec3.status

def hidlVec4 : Vec4 :=
  { x := (word 0).get u, y := (word 1).get u, z := (word 2).get u, w := (word 3).get u }

def setVec4 (vec4 : Vec4) : HidlPayload :=
  let u := (word 0).set u vec4.x
  let u := (word 1).set u vec4.y
  let u := (word 2).set u vec4.z
  (word 3).set u vec4.w

def hidlUncal : Uncal :=
  { x := (word 0).get u
    y := (word 1).get u
    z := (word 2).get u
    xBias := (word 3).get u
    yBias := (word 4).get u
    zBias := (word 5).get u }

def setUncal (uncal : Uncal) : HidlPayload :=
  let u := (word 0).set u uncal.x
  let u := (word 1).set u uncal.y
  let u := (word 2).set u uncal.z
  let u := (word 3).set u uncal.xBias
  let u := (word 4).set u uncal.yBias
  (word 5).set u uncal.zBias

def hidlHeartRate : HeartRate :=
  { bpm := (word 0).get u, status := heartRateStatus.get u }

def setHeartRate (heartRate : HeartRate) : HidlPayload :=
  heartRateStatus.set ((word 0).set u heartRate.bpm) heartRate.status

def hidlDynamic : DynamicSensorInfo :=
  { connected := dynamicConnected.get u
    sensorHandle := (word 1).get u
    uuid := dynamicUuid.get u }

def setDynamic (info : DynamicSensorInfo) : HidlPayload :=
  let u := dynamicConnected.set u info.connected
  let u := (word 1).set u info.sensorHandle
  dynamicUuid.set u info.uuid

/-- `data_int32` and `data_float` are two names of the same words. -/
def setAdditional (info : AdditionalInfo) : HidlPayload :=
  let u := additionalType.set u info.type
  let u := additionalSerial.set u info.serial
  match info.payload with
  | .dataInt32 values => additionalData.set u values
  | .dataFloat values => additionalData.set u values

def hidlHeadTracker : HeadTracker :=
  { rx := (word 0).get u
    ry := (word 1).get u
    rz := (word 2).get u
    vx := (word 3).get u
    vy := (word 4).get u
    vz := (word 5).get u
    discontinuityCount := (word 6).get u }

def setHeadTracker (ht : HeadTracker) : HidlPayload :=
  let u := (word 0).set u ht.rx
  let u := (word 1).set u ht.ry
  let u := (word 2).set u ht.rz
  let u := (word 3).set u ht.vx
  let u := (word 4).set u ht.vy
  let u := (word 5).set u ht.vz
  (word 6).set u ht.discontinuityCount

end HidlPayload

def firstFive (values : Fin 16 → UInt32) : Fin 5 → UInt32 :=
  fun i => values (i.castLE (by decide))

/-- Five words copied into a new, zeroed `Data`. -/
def dataOfRotation (values : Fin 5 → UInt32) : Fin 16 → UInt32 :=
  fun i => if h : i.val < 5 then values ⟨i, h⟩ else 0

/-- The switch of `convertToHidlEvent`: the union after it. -/
def hidlPayload (sensorType : SensorType) (payload : AidlPayload) (u : HidlPayload) :
    Option HidlPayload :=
  match sensorType with
  | .metaData => (getMeta payload).map (metaWhat.set u)
  | .accelerometer | .magneticField | .orientation | .gyroscope | .gravity
  | .linearAcceleration => (getVec3 payload).map (setVec3 u)
  | .gameRotationVector => (getVec4 payload).map (setVec4 u)
  | .rotationVector | .geomagneticRotationVector =>
    (getData payload).map fun values => rotation.set u (firstFive values)
  | .accelerometerUncalibrated | .magneticFieldUncalibrated | .gyroscopeUncalibrated =>
    (getUncal payload).map (setUncal u)
  | .deviceOrientation | .light | .pressure | .proximity | .relativeHumidity
  | .ambientTemperature | .significantMotion | .stepDetector | .tiltDetector | .wakeGesture
  | .glanceGesture | .pickUpGesture | .wristTiltGesture | .stationaryDetect | .motionDetect
  | .heartBeat | .lowLatencyOffbodyDetect | .hingeAngle =>
    (getScalar payload).map (scalar.set u)
  | .stepCounter => (getStepCount payload).map (stepCount.set u)
  | .heartRate => (getHeartRate payload).map (setHeartRate u)
  | .pose6DOF => (getPose6DOF payload).map (pose6DOF.set u)
  | .dynamicSensorMeta => (getDynamic payload).map (setDynamic u)
  | .additionalInfo => (getAdditional payload).map (setAdditional u)
  | .headTracker => (getHeadTracker payload).map (setHeadTracker u)
  | .unnamed value =>
    if devicePrivateBase ≤ value then (getData payload).map (data.set u) else none

/-- Fill `hidlEvent`, whose union keeps what the conversion does not write. -/
def convertToHidlEvent (aidlEvent : AidlEvent) (hidlEvent : HidlEvent) : Option HidlEvent :=
  (hidlPayload (.ofInt32 aidlEvent.sensorType) aidlEvent.payload hidlEvent.u).map fun u =>
    { timestamp := aidlEvent.timestamp
      sensorHandle := aidlEvent.sensorHandle
      sensorType := aidlEvent.sensorType
      u }

/-- The switch of `convertToAidlEvent`: the payload after it. -/
def aidlPayload (sensorType : SensorType) (u : HidlPayload) : Option AidlPayload :=
  match sensorType with
  | .metaData => some (.metaData (metaWhat.get u))
  | .accelerometer | .magneticField | .orientation | .gyroscope | .gravity
  | .linearAcceleration => some (.vec3 (hidlVec3 u))
  | .gameRotationVector => some (.vec4 (hidlVec4 u))
  | .rotationVector | .geomagneticRotationVector =>
    some (.data (dataOfRotation (rotation.get u)))
  | .magneticFieldUncalibrated | .gyroscopeUncalibrated | .accelerometerUncalibrated =>
    some (.uncal (hidlUncal u))
  | .deviceOrientation | .light | .pressure | .proximity | .relativeHumidity
  | .ambientTemperature | .significantMotion | .stepDetector | .tiltDetector | .wakeGesture
  | .glanceGesture | .pickUpGesture | .wristTiltGesture | .stationaryDetect | .motionDetect
  | .heartBeat | .lowLatencyOffbodyDetect | .hingeAngle => some (.scalar (scalar.get u))
  | .stepCounter => some (.stepCount (stepCount.get u))
  | .heartRate => some (.heartRate (hidlHeartRate u))
  | .pose6DOF => some (.pose6DOF (pose6DOF.get u))
  | .dynamicSensorMeta => some (.dynamic (hidlDynamic u))
  | .additionalInfo =>
    some (.additional
      { type := additionalType.get u
        serial := additionalSerial.get u
        payload := .dataInt32 (additionalData.get u) })
  -- The HIDL switch has no case of its own for a head tracker.
  | .headTracker => some (.headTracker (hidlHeadTracker u))
  | .unnamed value =>
    if devicePrivateBase ≤ value then some (.data (data.get u)) else none

/-- Fill `aidlEvent`, whose payload is replaced as a whole. -/
def convertToAidlEvent (hidlEvent : HidlEvent) (aidlEvent : AidlEvent) : Option AidlEvent :=
  (aidlPayload (.ofInt32 hidlEvent.sensorType) hidlEvent.u).map fun payload =>
    { aidlEvent with
      timestamp := hidlEvent.timestamp
      sensorHandle := hidlEvent.sensorHandle
      sensorType := hidlEvent.sensorType
      payload }

end Exynos9810.Sensors
