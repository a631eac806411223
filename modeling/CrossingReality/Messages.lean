import CrossingReality.Jdk

/-!
# The lines of the terminal

Every text the program hands to `appendToOutput`, less the time stamp. A line keeps the strings
spliced into it, so that it can be compared without taking text apart.
-/

namespace CrossingReality

/-- The lines the program can write to its terminal. -/
inductive Message where
  -- JDBC
  | driverProblem
  | driverLoaded
  | connectProblem
  | connected
  | createStatementProblem
  | databaseProblem
  | executeProblem
  | fooExecuteProblem
  | resultsProblem
  | closeProblem
  -- sensed
  | urlProblem
  | nodeUnrecognised (id : String)
  | nodeAutoAddOff
  | nodeIgnored
  | nodeAutoAdding
  | nodeAddProblem
  | nodeAdded
  | nodeRecognised
  | sensorAutoAddOff
  | sensorIgnored
  | sensorAutoAdding
  | sensorAddProblem
  | sensorTypeAdded (id type : String)
  | boundsProblem
  | minProblem
  | minUpdated
  | maxProblem
  | maxUpdated
  | boundsUpdated
  | reading (id type : String) (value : Int32)
  | forwardingPaused
  | forwardingTo (address : String)
  | noAddress
  -- HTTPPOSTForward
  | exceededMaximum
  | belowMinimum
  | postConnectProblem
  | postWriteProblem
  | postFlushProblem
  | postReceiveProblem
  | postProcessProblem
  | postCloseProblem
  | forwarded (body : String)
  -- the selection lists
  | updatingNodeList
  | nodeListUpdated
  | updatingSensorsList
  | typesListUpdated
  | updatingActuatorsList
  | actuatorListUpdated
  | boundsResultsProblem
  | addressResultsProblem
  -- manual adds
  | nodeIdNull
  | nodeTaken
  | nodeAddressInvalid
  | nodeUnique
  | nodeUnignored
  | sensorTypeNull
  | sensorTaken
  | sensorUnique
  | sensorUnignored
  | sensorAdded
  | sensorAddedUnignored
  | actuatorIdNull
  | actuatorAddressNull
  | actuatorAddressInvalid
  | actuatorTaken
  | actuatorUnique
  | actuatorAddProblem
  | actuatorAdded
  -- removals
  | nodeWillBeIgnored (id : Option String)
  | nodeRemoved
  | sensorWillBeIgnored (id type : Option String)
  | sensorRemoved
  | actuatorRemoved
  -- the buttons
  | nodeAddressUpdateInvalid
  | nodeAddressUpdated
  | boundsReset
  | actuatorAddressUpdated
  -- MySQL details
  | detailsSaved
  | detailsNotSaved
  | detailsNotFound
  | detailsNotLoaded
  -- VW to actuators
  | actuatorCallAddressInvalid
  | actuatorCallProblem
  | actuatorUnrecognised
  | actuatorCommandReceived
  | actuatorPaused
  | actuatorForwarding
  | actuatorCallCompleted
  | actuatorRequestProblem
deriving DecidableEq

/-- The text of a line. -/
def Message.text : Message → String
  | driverProblem => "Problem loading MySQL database driver."
  | driverLoaded => "MySQL driver loaded..."
  | connectProblem => "Problem connecting to MySQL database."
  | connected => "Connected to MySQL database..."
  | createStatementProblem => "Problem creating MySQL statement."
  | databaseProblem => "Problem connecting to the database."
  | executeProblem => "Problem executing MySQL statement."
  | fooExecuteProblem => "FOOProblem executing MySQL statement."
  | resultsProblem => "Problem processing results from MySQL statement."
  | closeProblem => "Problem explicitly closing the database connection, probably already " ++
      "automatically closed."
  | urlProblem => "Problem parsing URL of node, may be null."
  | nodeUnrecognised id => "Received a sensor reading from a node that the Control Panel does " ++
      "not recognise (id = " ++ id ++ ")."
  | nodeAutoAddOff => "Autoadd is off, not adding unrecognised node."
  | nodeIgnored => "Node id is in ignore list, not auto adding (manually add to override)."
  | nodeAutoAdding => "Autoadding unrecognised node to the database..."
  | nodeAddProblem => "Problem adding node to the database."
  | nodeAdded => "Node added to the database."
  | nodeRecognised => "Received a sensor reading from a node that the Control Panel recognises."
  | sensorAutoAddOff => "Recognised node has reported from an unrecognised sensor, sensor auto " ++
      "add is off, not adding."
  | sensorIgnored => "Recognised node has reported from an unrecognised sensor, auto add is on, " ++
      "but sensor is on the ignore list  so not adding (manually add sensor to override ignore)."
  | sensorAutoAdding => "Recognised node has reported from an unrecognised sensor, sensor auto " ++
      "add is on, adding sensor."
  | sensorAddProblem => "Problem adding sensor to the database."
  | sensorTypeAdded id type => "Sensor type = " ++ type ++ " added to the database for node " ++
      "id = " ++ id ++ "."
  | boundsProblem => "Problem getting sensor max & min from database."
  | minProblem => "Problem updating sensor min value in database."
  | minUpdated => "Sensor min value updated in database."
  | maxProblem => "Problem updating sensor max value in database."
  | maxUpdated => "Sensor max value updated in database."
  | boundsUpdated => "Sensor min & max value updated in database."
  | reading id type value => "id = " ++ id ++ ", type = " ++ type ++ ", value = " ++
      toString value.toInt
  | forwardingPaused => "WSN-to-VW forwarding is paused, not forwarding."
  | forwardingTo address => "Forwarding reading to: " ++ address
  | noAddress => "No address for node in database, not forwarding."
  | exceededMaximum => "Reading has exceeded maximum, recommend recalibration of sensor."
  | belowMinimum => "Reading is less than minimum, recommend recalibration of sensor."
  | postConnectProblem => "Problem connecting to virtual world URI for this reading forwarding, " ++
      "unable to foward reading to virtual world"
  | postWriteProblem => "Problem forwarding reading to virtual world."
  | postFlushProblem => "Problem flushing connection to virtual world, reading may not have " ++
      "been forwarding."
  | postReceiveProblem => "Problem receiving HTTP response from virtual world, reading may not " ++
      "have been forwarded."
  | postProcessProblem => "Problem processing HTTP response from virtual world, reading may not " ++
      "have been forwarded."
  | postCloseProblem => "Problem closing HTTP response connection from virtual world, reading " ++
      "may not have been forwarded."
  | forwarded body => "Reading successfully forward to virtual world, with body " ++ body
  | updatingNodeList => "Updating the node list..."
  | nodeListUpdated => "Node list updated."
  | updatingSensorsList => "Updating the sensors list..."
  | typesListUpdated => "Types list updated."
  | updatingActuatorsList => "Updating the actuators list..."
  | actuatorListUpdated => "Actuator list updated."
  | boundsResultsProblem => "Problem processing results from MySQL statement (max & min are " ++
      "probably null)."
  | addressResultsProblem => "Problem processing results from MySQL statement (address may be " ++
      "null)."
  | nodeIdNull => "Failed to add node to the database, id string is null."
  | nodeTaken => "There is already a node with that id in the database, not adding it again."
  | nodeAddressInvalid => "Failed to add node to the database, address is not valid."
  | nodeUnique => "Id is unique, adding it to the database."
  | nodeUnignored => "Node being manually added has been removed from this session's ignore list"
  | sensorTypeNull => "Failed to add sensor to the database, type string is null."
  | sensorTaken => "There is already a sensor of that type registered for this node, not " ++
      "adding it again."
  | sensorUnique => "Type is unique, adding it to the database."
  | sensorUnignored => "Sensor being manually added has been removed from this session's ignore " ++
      "list"
  | sensorAdded => "Sensor added to the database."
  | sensorAddedUnignored => "Sensor that has just been added has been removed from this " ++
      "session's ignore list."
  | actuatorIdNull => "Failed to add actuator to the database, id string is null."
  | actuatorAddressNull => "Failed to add actuator to the database, address string is null."
  | actuatorAddressInvalid => "Failed to add actuator to the database, address is not valid."
  | actuatorTaken => "There is already an actuator in the database with that id, not adding again."
  | actuatorUnique => "Actuator is unique, adding it to the database."
  | actuatorAddProblem => "Problem adding actuator to the database."
  | actuatorAdded => "Actuator added to the database."
  | nodeWillBeIgnored id => "Node with id = " ++ spell id ++ " will not be auto added again " ++
      "this  (manually add to override)."
  | nodeRemoved => "Node removed from the database"
  | sensorWillBeIgnored id type => "Sensor type = " ++ spell type ++ " on node with id = " ++
      spell id ++ " will not be auto added again this session (manually add to override)."
  | sensorRemoved => "Sensor removed from the database"
  | actuatorRemoved => "Actuator removed from the database"
  | nodeAddressUpdateInvalid => "Failed to update node address in the database, address is not " ++
      "valid."
  | nodeAddressUpdated => "Node address updated in the database"
  | boundsReset => "Min & max for this sensor have been reset in the database"
  | actuatorAddressUpdated => "Actuator address updated in the database"
  | detailsSaved => "MySQL details saved to file."
  | detailsNotSaved => "Problem writing MySQL details to file. Details not saved."
  | detailsNotFound => "Problem reading MySQL details from file: file not found. Have you saved " ++
      "details before?."
  | detailsNotLoaded => "Problem reading MySQL details from file. Details not loaded."
  | actuatorCallAddressInvalid => "Problem sending XML-RPC command to actuator, address is not " ++
      "valid."
  | actuatorCallProblem => "Problem executing actuator command via XML-RPC."
  | actuatorUnrecognised => "Problem processing results from MySQL statement, actuator probably " ++
      "not recognised by database."
  | actuatorCommandReceived => "Receieved an actuator command from the virtual world for a " ++
      "recognised actuator."
  | actuatorPaused => "VW to actuator pause is enabled, not forwarding."
  | actuatorForwarding => "Forwarding actuator command."
  | actuatorCallCompleted => "XML-RPC request successfully completed."
  | actuatorRequestProblem => "Problem executing XML-RPC request."

end CrossingReality
