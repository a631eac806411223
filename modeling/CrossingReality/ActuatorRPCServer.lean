import CrossingReality.Rules
import Mathlib.Algebra.GroupWithZero.Nat

/-!
# The actuator's side

`control`, the method of the demonstration actuator that switches the relays of a Phidget kit, and
the XML-RPC call that joins it to the Control Panel. Relay outputs are inverted: `false` is on.
-/

namespace CrossingReality

open Effects

/-! ## `Integer.parseInt` -/

/-- `Character.digit(c, 10)`: the decimal digits of all scripts. -/
class Digits where
  digit : Char → Option (Fin 10)

/-- The ASCII digits. -/
@[reducible] def asciiDigits : Digits where
  digit c := if h : c.toNat - 48 < 10 then if 48 ≤ c.toNat then some ⟨c.toNat - 48, h⟩ else none
    else none

/-- The number some digits stand for. -/
def numeral [Digits] (ds : List Char) : Option Nat := do
  let ns ← ds.mapM Digits.digit
  return ns.foldl (fun n d => 10 * n + d) 0

/-- `Integer.parseInt(s)`; none is a `NumberFormatException`. -/
def parseInt [Digits] (s : String) : Option Int32 :=
  match s.toList with
  | [] | ['-'] | ['+'] => none
  | '-' :: ds => (numeral ds).bind fun n => if n ≤ 2 ^ 31 then some (-.ofNat n) else none
  | '+' :: ds => (numeral ds).bind fun n => if n < 2 ^ 31 then some (.ofNat n) else none
  | ds => (numeral ds).bind fun n => if n < 2 ^ 31 then some (.ofNat n) else none

/-! ## Relays -/

/-- The kit, once it was connected to: the state of each output. -/
abbrev Kit := Option (Nat → Bool)

/-- The calls of the method: `ARPCS.kit.setOutputState(output, state)`. -/
inductive KitCall where
  | setOutputState (output : Nat) (state : Bool)

/-- What setting an output can come to. -/
inductive SetOutput where
  | done
  /-- A `PhidgetException`. -/
  | failed
  /-- There is no kit. -/
  | nullPointer
deriving DecidableEq

abbrev kitCalls : Signature := ⟨KitCall, fun _ => SetOutput⟩

/-- The unchecked exceptions of the method. -/
inductive ControlExn where
  | numberFormat
  | nullPointer
deriving DecidableEq

/-- Setting an output does so, or throws and leaves it as it was. -/
def kitMachine : Machine kitCalls Bool Kit where
  step
    | .setOutputState _ _, _, none => (.nullPointer, none)
    | .setOutputState output state, fails, some outputs =>
      if fails then (.failed, some outputs)
      else (.done, some (Function.update outputs output state))

section Control

variable [Jdk] [Digits]

/-- `Integer.parseInt(id)`. -/
def parseId (id : String) : Program kitCalls ControlExn Int32 :=
  match parseInt id with
  | none => .raise .numberFormat
  | some n => pure n

/-- Switch one relay: true when it was. -/
def switchRelay (output : Nat) (state : Bool) : Program kitCalls ControlExn Bool := do
  match ← Program.lift (S := kitCalls) (.setOutputState output state) with
  | .done => return true
  | .failed => return false
  | .nullPointer => .raise .nullPointer

/-- `control`. Each condition parses the id again. -/
def control (id action : String) : Program kitCalls ControlExn Bool := do
  if (← parseId id) == 1 && sameIgnoringCase action "on" then switchRelay 7 false
  else if (← parseId id) == 1 && sameIgnoringCase action "off" then switchRelay 7 true
  else if (← parseId id) == 2 && sameIgnoringCase action "on" then switchRelay 6 false
  else if (← parseId id) == 2 && sameIgnoringCase action "off" then switchRelay 6 true
  else return false

/-! ## The remote procedure call -/

/-- What the XML-RPC server makes of a call: an exception of the method is a fault. -/
def serve (fails : Bool) (id action : String) (kit : Kit) : XmlRpcReply × Kit :=
  match (kitMachine.play fails (control id action) [] kit).2 with
  | (.ok b, kit') => (.result b, kit')
  | (.error _, kit') => (.fault, kit')

/-- The Control Panel and one actuator server, to which every command is delivered once. -/
def wiredMachine (col : Collation) : Machine calls (Fate × Bool) (World × Kit) where
  step
    | .execute address id action, f, (w, kit) =>
      let served := serve f.2 id action kit
      let r := step col (.execute address id action) { f.1 with reply := served.1 } w
      (r.1, r.2, served.2)
    | c, f, (w, kit) =>
      let r := step col c f.1 w
      (r.1, r.2, kit)

/-- Any call of the two may fail. -/
def wired (col : Collation) : Contract calls (World × Kit) :=
  (wiredMachine col).contract fun _ _ _ => True

end Control

example : @parseInt asciiDigits "-12" = some (-12) := by decide

end CrossingReality
