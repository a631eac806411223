import CrossingReality.Screen

/-!
# The WSN-to-VW interface

`sensed`, the method the sensor network calls over XML-RPC for each reading, and
`HTTPPOSTForward`, which passes a reading on to the virtual world. `sensed` runs on an object of
its own request, so its one unqualified `appendToOutput` throws once its line is on the general tab.

`sensed` is cut at the points where the source opens another connection. Each part says whether
the method goes on or has returned false.
-/

namespace CrossingReality

open Effects

variable [Jdk]

/-! ## Bounds -/

/-- Read the bounds of a sensor: one row for each that is registered under the pair. -/
def readBounds (id type : String) : Panel (Option (List Bounds)) := do
  let some connect ← openStatement .databaseProblem | return none
  let some rows ← executeQuery connect (.bounds id type) .boundsProblem | return none
  let some bounds ← readRows connect (fun b => b) rows | return none
  closeConnection .cp connect
  return some bounds

/-! ## Forwarding -/

/-- A value above 1 is sent as 1. -/
def clampAbove (x : JDouble) : Panel JDouble := do
  if x.gtOne then
    appendToOutput .exceededMaximum
    return .num 1
  return x

/-- A value below 0 is sent as 0. -/
def clampBelow (x : JDouble) : Panel JDouble := do
  if x.ltZero then
    appendToOutput .belowMinimum
    return .num 0
  return x

/-- The value to send for a reading: scaled, when the sensor has both bounds. -/
def scaleValue (value : Int32) (b : Bounds) : Panel JDouble :=
  match b.min, b.max with
  | some min, some max => do
    let scaledValue ← clampAbove ((JDouble.num value.toInt).divInt (max - min).toInt)
    clampBelow scaledValue
  | _, _ => pure (.num value.toInt)

/-- The calls that send a POST and read its response, each with what is said when it throws. -/
def postCalls : List (HttpCall × Message) :=
  [(.openConnection, .postConnectProblem),
   (.getOutputStream, .postConnectProblem),
   (.write, .postWriteProblem),
   (.flush, .postFlushProblem),
   (.getInputStream, .postReceiveProblem),
   (.readLine, .postProcessProblem),
   (.close, .postCloseProblem)]

/-- Make the calls in turn, up to the first that throws. -/
def sendPost (p : Post) : List (HttpCall × Message) → Panel Bool
  | [] => pure true
  | (c, problem) :: rest => do
    if !(← call (.http c p)) then
      appendToOutput problem
      return false
    sendPost p rest

/-- `HTTPPOSTForward`. -/
def HTTPPOSTForward (id type : String) (value : Int32) (address : String) : Panel Bool := do
  let some bounds ← readBounds id type | return false
  let some b := bounds.head? | throwExn .indexOutOfBounds
  let scaledValue ← scaleValue value b
  let payload : Payload := ⟨id, type, scaledValue⟩
  if !(← sendPost ⟨address, payload⟩ postCalls) then return false
  appendToOutput (.forwarded payload.body)
  return true

/-! ## Recognition -/

/-- One row of the node query: its id always, its address if it parses. -/
def collectNode (acc : List String × List String) (row : NodeRow) :
    Panel (List String × List String) :=
  match row.address with
  | some address =>
    if parsesURL (some address) then pure (acc.1 ++ [row.id], acc.2 ++ [address])
    else do
      appendToOutput .urlProblem
      return (acc.1 ++ [row.id], acc.2)
  | none => do
    appendToOutput .urlProblem
    return (acc.1 ++ [row.id], acc.2)

/-- The ids and the parsed addresses registered for a node, and the connection they were read on,
which stays open. -/
def lookUpNode (id : String) : Panel (Option (Connection × List String × List String)) := do
  let some connect ← openStatement .createStatementProblem | return none
  let some rows ← executeQuery connect (.node id) .executeProblem | return none
  let some (ids, addresses) ← whileNext connect collectNode rows ([], []) | do
    appendToOutput .resultsProblem
    return none
  return some (connect, ids, addresses)

/-- Auto add a node, on the connection its query was made on. -/
def addUnrecognisedNode (connect : Connection) (id : String) : Panel Unit := do
  appendToOutput .nodeAutoAdding
  if !(← call (.createStatement connect)) then
    appendToOutput .nodeAddProblem
    return
  if !(← executeUpdate connect (.insertNode id none) .nodeAddProblem) then return
  closeConnection .perRequest connect
  appendToOutput .nodeAdded
  updateNodeSelects

/-- A reading from a node that is not registered. -/
def unrecognisedNode (connect : Connection) (id : String) : Panel Unit := do
  appendToOutput (.nodeUnrecognised id)
  if !(← isSelected .wsnGeneralAutoAddCheck) then
    appendToOutput .nodeAutoAddOff
    return
  let some ignored ← call .getIgnoreNodeList | throwExn .nullPointer
  if ignored.contains (some id) then
    appendToOutput .nodeIgnored
    return
  addUnrecognisedNode connect id

/-- The types registered for a node. -/
def lookUpTypes (id : String) : Panel (Option (List String)) := do
  let some connect2 ← openStatement .createStatementProblem | return none
  let some rows ← executeQuery connect2 (.sensors id) .executeProblem | return none
  readRows connect2 SensorRow.type rows

/-- `o.equals(entry)`, for an entry of the ignore list: the entry's strings are dereferenced, the
type's only when the ids agree. -/
def SensorIgnoreIdTypeObject.equals (o entry : SensorIgnoreIdTypeObject) : Except Exn Bool :=
  match entry.id with
  | none => .error .nullPointer
  | some id =>
    if equalsIgnoreCase id o.id then
      match entry.type with
      | none => .error .nullPointer
      | some type => .ok (equalsIgnoreCase type o.type)
    else .ok false

/-- `ArrayList.contains`: compare with the entries in order, up to the first that is equal. -/
def containsEntry (o : SensorIgnoreIdTypeObject) :
    List SensorIgnoreIdTypeObject → Except Exn Bool
  | [] => .ok false
  | entry :: rest =>
    match o.equals entry with
    | .error e => .error e
    | .ok true => .ok true
    | .ok false => containsEntry o rest

/-- `ignoreSensorList.contains`. -/
def ignoreSensorListContains (o : SensorIgnoreIdTypeObject) : Panel Bool := do
  let some ignored ← call .getIgnoreSensorList | throwExn .nullPointer
  match containsEntry o ignored with
  | .error e => throwExn e
  | .ok b => pure b

/-- Auto add a sensor. -/
def addUnrecognisedSensor (id type : String) : Panel Unit := do
  appendToOutput .sensorAutoAdding
  let some connect3 ← openStatement .databaseProblem | return
  if !(← executeUpdate connect3 (.insertSensor id type) .sensorAddProblem) then return
  appendToOutput .nodeAdded
  closeConnection .cp connect3
  updateSensorsSelect (← getSelectedItem .wsnSensorsNodeComboBox)
  appendToOutput (.sensorTypeAdded id type)

/-- A reading from a sensor that is not registered, with auto add on. -/
def unrecognisedSensor (id type : String) : Panel Unit := do
  if ← ignoreSensorListContains ⟨some id, some type⟩ then
    appendToOutput .sensorIgnored
    return
  addUnrecognisedSensor id type

/-! ## Calibration -/

/-- Write a bound, or both. -/
def writeBound (u : Update) (problem done : Message) : Panel Bool := do
  let some connect ← openStatement .databaseProblem | return false
  if !(← executeUpdate connect u problem) then return false
  closeConnection .cp connect
  appendToOutput done
  return true

/-- The sensor is the one selected on the sensors tab. -/
def selectedSensorIs (id type : String) : Panel Bool := do
  if !equalsIgnoreCase id (← getSelectedItem .wsnSensorsNodeComboBox) then return false
  return equalsIgnoreCase type (← getSelectedItem .wsnSensorsSensorsComboBox)

/-- Show a new bound in `fields`, if its sensor is selected. -/
def showBound (id type : String) (value : Int32) (fields : List TextField) : Panel Unit := do
  if ← selectedSensorIs id type then
    fields.forM fun f => setText f (toString value.toInt)

/-- A new minimum, if the reading is below the stored one. -/
def lowerMin (id type : String) (value min : Int32) : Panel Bool := do
  if value < min then
    if !(← writeBound (.setMin value id type) .minProblem .minUpdated) then return false
    showBound id type value [.wsnSensorsCalibrationMinField]
    return true
  return true

/-- A new maximum, if the reading is above the stored one. -/
def raiseMax (id type : String) (value max : Int32) : Panel Bool := do
  if max < value then
    if !(← writeBound (.setMax value id type) .maxProblem .maxUpdated) then return false
    showBound id type value [.wsnSensorsCalibrationMaxField]
    return true
  return true

/-- The first reading of a sensor is both its bounds. -/
def firstBounds (id type : String) (value : Int32) : Panel Bool := do
  if !(← writeBound (.setBounds value id type) .minProblem .boundsUpdated) then return false
  showBound id type value [.wsnSensorsCalibrationMinField, .wsnSensorsCalibrationMaxField]
  return true

/-- What a reading does to the bounds that were read. A row with one bound is left alone. -/
def calibrateRow (id type : String) (value : Int32) (b : Bounds) : Panel Bool :=
  match b.min, b.max with
  | some min, some max => do
    if !(← lowerMin id type value min) then return false
    raiseMax id type value max
  | none, none => firstBounds id type value
  | _, _ => pure true

/-- Calibrate a sensor with a reading. -/
def calibrate (id type : String) (value : Int32) : Panel Bool := do
  let some bounds ← readBounds id type | return false
  let some b := bounds.head? | throwExn .indexOutOfBounds
  calibrateRow id type value b

/-- Calibrate, if the box is ticked. -/
def calibrateIfTicked (id type : String) (value : Int32) : Panel Bool := do
  if ← isSelected .wsnSensorsCalibrateCheck then calibrate id type value
  else return true

/-! ## `sensed` -/

/-- Forward a reading of a registered sensor, unless forwarding is paused or the node has no
address. -/
def forwardReading (id type : String) (value : Int32) (addresses : List String) : Panel Bool := do
  appendToOutput (.reading id type value)
  if ← isSelected .wsnGeneralPauseWsnToVwCheck then
    appendToOutput .forwardingPaused
    return false
  let some address := addresses.head? | do
    appendToOutput .noAddress
    return false
  appendToOutput (.forwardingTo address)
  HTTPPOSTForward id type value address

/-- A reading from a registered sensor. -/
def recognisedSensor (id type : String) (value : Int32) (addresses : List String) :
    Panel Bool := do
  if !(← calibrateIfTicked id type value) then return false
  forwardReading id type value addresses

/-- A reading from a registered node. For a type that is not registered the auto add box is read
twice, once in each of two conditions. -/
def recognisedNode (id type : String) (value : Int32) (connect : Connection)
    (addresses : List String) : Panel Bool := do
  appendToOutput .nodeRecognised
  let some types ← lookUpTypes id | return false
  closeConnection .cp connect
  if types.contains type then recognisedSensor id type value addresses
  else if !(← isSelected .wsnSensorsAutoAddCheck) then
    appendToOutput .sensorAutoAddOff
    return false
  else if ← isSelected .wsnSensorsAutoAddCheck then
    unrecognisedSensor id type
    return false
  else recognisedSensor id type value addresses

/-- `sensed`: true when the reading reached the virtual world. -/
def sensed (id type : String) (value : Int32) : Panel Bool := do
  let some (connect, ids, addresses) ← lookUpNode id | return false
  if ids.isEmpty then
    unrecognisedNode connect id
    return false
  recognisedNode id type value connect addresses

end CrossingReality
