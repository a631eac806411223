import CrossingReality.Sensed

/-!
# Registering and removing by hand

The methods behind the *Add* and *Remove* buttons. A text field or a selection is read again each
time the source reads it.
-/

namespace CrossingReality

open Effects

variable [Jdk]

/-! ## Adding -/

/-- Take a node that is about to be added off the ignore list. -/
def unignoreNode : Panel Unit := do
  let id ← getText .wsnGeneralManualNodeAddId
  let some ignored ← call .getIgnoreNodeList | throwExn .nullPointer
  if ignored.contains (some id) then
    appendToOutput .nodeUnignored
    call (.removeIgnoreNode (← getText .wsnGeneralManualNodeAddId))

/-- The `INSERT` of `manualNodeAdd` and the refills after it. -/
def insertTypedNode (connect : Connection) : Panel Unit := do
  if !(← call (.createStatement connect)) then
    appendToOutput .databaseProblem
    return
  let id ← getText .wsnGeneralManualNodeAddId
  let address ← getText .wsnGeneralManualNodeAddAddress
  if !(← executeUpdate connect (.insertNode id (some address)) .nodeAddProblem) then return
  appendToOutput .nodeAdded
  closeConnection .cp connect
  updateNodeSelects
  setText .wsnGeneralManualNodeAddId ""
  setText .wsnGeneralManualNodeAddAddress ""

/-- `manualNodeAdd`. -/
def manualNodeAdd : Panel Unit := do
  if (← getText .wsnGeneralManualNodeAddId).isEmpty then
    appendToOutput .nodeIdNull
    return
  let some connect ← openStatement .createStatementProblem | return
  let some rows ← executeQuery connect (.node (← getText .wsnGeneralManualNodeAddId))
    .executeProblem | return
  let some ids ← readRows connect NodeRow.id rows | return
  if !ids.isEmpty then
    appendToOutput .nodeTaken
    return
  if !parsesURL (some (← getText .wsnGeneralManualNodeAddAddress)) then
    appendToOutput .nodeAddressInvalid
    return
  appendToOutput .nodeUnique
  unignoreNode
  insertTypedNode connect

/-- `ignoreSensorList.contains(String)`: no entry of the list is a string, so this is false
unless there is no list. -/
def ignoreSensorListContainsString : Panel Unit := do
  let some _ ← call .getIgnoreSensorList | throwExn .nullPointer
  return

/-- `ArrayList.remove`: without the first entry that is equal. -/
def removeEntry (o : SensorIgnoreIdTypeObject) :
    List SensorIgnoreIdTypeObject → Except Exn (List SensorIgnoreIdTypeObject)
  | [] => .ok []
  | entry :: rest =>
    match o.equals entry with
    | .error e => .error e
    | .ok true => .ok rest
    | .ok false => (removeEntry o rest).map (entry :: ·)

/-- Take a sensor that has just been added off the ignore list. -/
def unignoreSensor : Panel Unit := do
  let id ← getSelectedItem .wsnSensorsNodeComboBox
  let type ← getText .wsnSensorsManualSensorAddType
  if ← ignoreSensorListContains ⟨id, some type⟩ then
    let some ignored ← call .getIgnoreSensorList | throwExn .nullPointer
    match removeEntry ⟨id, some type⟩ ignored with
    | .error e => throwExn e
    | .ok rest =>
      call (.setIgnoreSensorList rest)
      appendToOutput .sensorAddedUnignored

/-- The `INSERT` of `manualSensorAdd` and what follows it. The sensor comes off the ignore list
last. -/
def insertTypedSensor (connect : Connection) : Panel Unit := do
  if !(← call (.createStatement connect)) then
    appendToOutput .databaseProblem
    return
  let id ← getSelectedItem .wsnSensorsNodeComboBox
  let type ← getText .wsnSensorsManualSensorAddType
  if !(← executeUpdate connect (.insertSensor (spell id) type) .sensorAddProblem) then return
  appendToOutput .sensorAdded
  closeConnection .cp connect
  unignoreSensor
  updateSensorsSelect (← getSelectedItem .wsnSensorsNodeComboBox)
  setText .wsnSensorsManualSensorAddType ""

/-- `manualSensorAdd`. With no node selected the statements name the node `null`. -/
def manualSensorAdd : Panel Unit := do
  if (← getText .wsnSensorsManualSensorAddType).isEmpty then
    appendToOutput .sensorTypeNull
    return
  let some connect ← openStatement .createStatementProblem | return
  let id ← getSelectedItem .wsnSensorsNodeComboBox
  let some rows ← executeQuery connect
    (.sensor (spell id) (← getText .wsnSensorsManualSensorAddType)) .executeProblem | return
  let some types ← readRows connect SensorRow.id rows | return
  if !types.isEmpty then
    appendToOutput .sensorTaken
    return
  appendToOutput .sensorUnique
  ignoreSensorListContainsString
  insertTypedSensor connect

/-- The `INSERT` of `manualActuatorAdd` and the refills after it. -/
def insertTypedActuator (connect : Connection) : Panel Unit := do
  if !(← call (.createStatement connect)) then
    appendToOutput .databaseProblem
    return
  let id ← getText .actuatorManualActuatorAddId
  let address ← getText .actuatorManualActuatorAddAddress
  if !(← executeUpdate connect (.insertActuator id address) .actuatorAddProblem) then return
  appendToOutput .actuatorAdded
  closeConnection .cp connect
  setText .actuatorManualActuatorAddAddress ""
  setText .actuatorManualActuatorAddId ""
  updateActuatorsSelects

/-- `manualActuatorAdd`. -/
def manualActuatorAdd : Panel Unit := do
  if (← getText .actuatorManualActuatorAddId).isEmpty then
    appendToOutput .actuatorIdNull
    return
  if (← getText .actuatorManualActuatorAddAddress).isEmpty then
    appendToOutput .actuatorAddressNull
    return
  if !parsesURL (some (← getText .actuatorManualActuatorAddAddress)) then
    appendToOutput .actuatorAddressInvalid
    return
  let some connect ← openStatement .createStatementProblem | return
  let some rows ← executeQuery connect (.actuator (← getText .actuatorManualActuatorAddId))
    .executeProblem | return
  let some types ← readRows connect ActuatorRow.id rows | return
  if !types.isEmpty then
    appendToOutput .actuatorTaken
    return
  appendToOutput .actuatorUnique
  insertTypedActuator connect

/-! ## Removing -/

/-- Put a node on the ignore list, if the box is ticked. -/
def ignoreNodeIfTicked (id : Option String) : Panel Unit := do
  if ← isSelected .wsnGeneralRemoveNodeIgnoreCheck then
    if ← call (.addIgnoreNode id) then appendToOutput (.nodeWillBeIgnored id)
    else throwExn .nullPointer

/-- The two `DELETE`s of `removeNode` and the refills after them. The connection is not closed. -/
def deleteNode (id : Option String) : Panel Unit := do
  let some connect ← openStatement .createStatementProblem | return
  if !(← executeUpdate connect (.deleteNode (spell id)) .executeProblem) then return
  if !(← executeUpdate connect (.deleteSensors (spell id)) .executeProblem) then return
  appendToOutput .nodeRemoved
  setSelected .wsnGeneralRemoveNodeIgnoreCheck false
  updateNodeSelects

/-- `removeNode`. -/
def removeNode (id : Option String) : Panel Unit := do
  ignoreNodeIfTicked id
  deleteNode id

/-- Put a sensor on the ignore list, if the box is ticked. -/
def ignoreSensorIfTicked (id type : Option String) : Panel Unit := do
  if ← isSelected .wsnSensorsRemoveSensorIgnoreCheck then
    if ← call (.addIgnoreSensor ⟨id, type⟩) then appendToOutput (.sensorWillBeIgnored id type)
    else throwExn .nullPointer

/-- The `DELETE` of `removeSensor` and the refill after it. The connection is not closed. -/
def deleteSensor (id type : Option String) : Panel Unit := do
  let some connect ← openStatement .createStatementProblem | return
  if !(← executeUpdate connect (.deleteSensor (spell id) (spell type)) .executeProblem) then return
  appendToOutput .sensorRemoved
  setSelected .wsnSensorsRemoveSensorIgnoreCheck false
  updateSensorsSelect id

/-- `removeSensor`. -/
def removeSensor (id type : Option String) : Panel Unit := do
  ignoreSensorIfTicked id type
  deleteSensor id type

/-- `removeActuator`. The connection is not closed. -/
def removeActuator (id : Option String) : Panel Unit := do
  let some connect ← openStatement .createStatementProblem | return
  if !(← executeUpdate connect (.deleteActuator (spell id)) .executeProblem) then return
  appendToOutput .actuatorRemoved
  updateActuatorsSelects

end CrossingReality
