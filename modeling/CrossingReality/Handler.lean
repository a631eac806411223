import CrossingReality.Sensed

/-!
# The VW-to-Actuator interface

`HTTPHandler.handle`, which takes an actuator command out of a POST from the virtual world, and
`SendXMLRPCRequest`, which passes it on. The handler is an inner object of `cp`, so all its output
reaches the window.
-/

namespace CrossingReality

open Effects

variable [Jdk]

/-- An HTTP request. The body comes in the pieces that one `read` each can return. Reading it and
sending the response are taken not to fail. -/
structure HttpExchange where
  method : String
  body : List (List UInt8)
  headers : List (String × List String)

/-- `new byte[32]` after one `read` into it: what the read did not fill stays zero. -/
def readBody (ex : HttpExchange) : List UInt8 :=
  let got := (ex.body.headD []).take 32
  got ++ List.replicate (32 - got.length) 0

/-- `s.split("=")[1]`. -/
def valueOf (pair : String) : Option String := (split pair '=')[1]?

/-- The id and the trimmed action of a body; an indexing that is out of bounds gives none. -/
def parseBody (body : String) : Option (String × String) := do
  let pairs := split body '&'
  let id ← valueOf (← pairs[0]?)
  let action ← valueOf (← pairs[1]?)
  return (id, trim action)

/-- `List.toString`. -/
def listText (l : List String) : String := "[" ++ String.intercalate ", " l ++ "]"

/-- The response with a status: its body repeats the request's headers. -/
def responseTo (ex : HttpExchange) (status : Nat) : Response where
  status := status
  contentType := "text/plain"
  body := String.join (ex.headers.map fun h => h.1 ++ " = " ++ listText h.2 ++ "\n")

/-- Say why, and respond with 400. -/
def badRequest (ex : HttpExchange) (m : Message) : Panel Unit := do
  appendToOutput m
  call (.respond (responseTo ex 400))

/-- `SendXMLRPCRequest`. The cast and the unboxing of the result are the caller's undoing when it
is not a `Boolean`. -/
def SendXMLRPCRequest (address : Option String) (id action : String) : Panel Bool := do
  let some address := address.filter fun a => parsesURL (some a) | do
    appendToOutput .actuatorCallAddressInvalid
    return false
  match ← call (.execute address id action) with
  | .result b => pure b
  | .null => throwExn .nullPointer
  | .object => throwExn .classCast
  | .fault =>
    appendToOutput .actuatorCallProblem
    return false

/-- The connection the actuator query is made on, or a response. -/
def openForHandler (ex : HttpExchange) : Panel (Option Connection) := do
  if !(← call .forName) then
    badRequest ex .driverProblem
    return none
  appendToOutput .driverLoaded
  let some connect ← call .getConnection | do
    badRequest ex .connectProblem
    return none
  appendToOutput .connected
  if !(← call (.createStatement connect)) then
    badRequest ex .createStatementProblem
    return none
  return some connect

/-- The row of an actuator, or a response. -/
def lookUpActuator (ex : HttpExchange) (id : String) : Panel (Option ActuatorRow) := do
  let some connect ← openForHandler ex | return none
  let some rows ← call (.executeQuery connect (.actuator id)) | do
    badRequest ex .executeProblem
    return none
  let some row ← firstRow connect rows | do
    badRequest ex .actuatorUnrecognised
    return none
  closeConnection .cp connect
  return some row

/-- Forward a command and respond by the result. -/
def forwardCommand (ex : HttpExchange) (row : ActuatorRow) (id action : String) : Panel Unit := do
  appendToOutput .actuatorForwarding
  if ← SendXMLRPCRequest row.address id action then
    call (.respond (responseTo ex 200))
    appendToOutput .actuatorCallCompleted
  else
    badRequest ex .actuatorRequestProblem

/-- A parsed command. -/
def handleCommand (ex : HttpExchange) (id action : String) : Panel Unit := do
  let some row ← lookUpActuator ex id | return
  appendToOutput .actuatorCommandReceived
  if ← isSelected .actuatorPauseVwToActuatorCheck then
    badRequest ex .actuatorPaused
  else
    forwardCommand ex row id action

/-- `HTTPHandler.handle`. A method other than POST falls through to the end. -/
def handle (ex : HttpExchange) : Panel Unit := do
  if sameIgnoringCase ex.method "POST" then
    match parseBody (Jdk.decode (readBody ex)) with
    | none => throwExn .indexOutOfBounds
    | some (id, action) => handleCommand ex id action

end CrossingReality
