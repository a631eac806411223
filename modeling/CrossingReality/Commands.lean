import CrossingReality.Rules

/-!
# Answering the virtual world

Every exit of the handler past the parsing of the body answers once. A method other than POST and
a body that cannot be parsed are not answered at all, and neither is a command whose remote
procedure call returns something that is not a `Boolean`.
-/

namespace CrossingReality

open Effects

variable {col : Collation} {may : Call → Prop} {w : World} {E : Exn → World → Prop}

/-! ## Sending -/

namespace World

/-- A response has been sent. -/
def responding (w : World) (r : Response) : World := { w with responses := w.responses ++ [r] }

/-- A command has been sent. -/
def commanding (w : World) (c : Command) : World := { w with commands := w.commands ++ [c] }

@[simp] theorem responding_quietly (w : World) (q : Traffic) (r : Response) :
    (w.quietly q).responding r = (w.responding r).quietly q := rfl

@[simp] theorem commanding_quietly (w : World) (q : Traffic) (c : Command) :
    (w.quietly q).commanding c = (w.commanding c).quietly q := rfl

@[simp] theorem responding_responses (w : World) (r : Response) :
    (w.responding r).responses = w.responses ++ [r] := rfl

@[simp] theorem responding_commands (w : World) (r : Response) :
    (w.responding r).commands = w.commands := rfl

@[simp] theorem commanding_responses (w : World) (c : Command) :
    (w.commanding c).responses = w.responses := rfl

@[simp] theorem commanding_commands (w : World) (c : Command) :
    (w.commanding c).commands = w.commands ++ [c] := rfl

end World

@[simp] theorem wp_respond (r : Response) {Q : Unit → World → Prop} :
    wp (α := Unit) (under col may) (call (.respond r)) Q E w ↔ Q () (w.responding r) :=
  wp_call_steady (c := .respond r) fun _ => rfl

/-- The reply is the actuator's choice. -/
theorem wp_execute (address id action : String) {Q : XmlRpcReply → World → Prop} :
    wp (α := XmlRpcReply) (under col may) (call (.execute address id action)) Q E w ↔
      ∀ reply, Q reply (w.commanding ⟨address, id, action, reply⟩) := by
  refine (wp_call_faulty (.execute address id action)).trans ?_
  exact ⟨fun h => h.1, fun h => ⟨h, fun _ => h⟩⟩

theorem wp_badRequest {ex : HttpExchange} {m : Message} {Q : Unit → World → Prop}
    (h : ∀ q, Q () ((w.responding (responseTo ex 400)).quietly q)) :
    wp (under col may) (badRequest ex m) Q E w := by
  simpa [badRequest] using h _

/-! ## The exits -/

/-- The command reached the actuator, and its `control` returned true. -/
def Obeyed (w w' : World) : Prop :=
  ∃ c, w'.commands = w.commands ++ [c] ∧ c.reply = .result true

/-- The request was answered once, with 200 for a command that was obeyed and 400 for any other,
and nothing was thrown. -/
def AnsweredOnce (w : World) (r : Except Exn Unit) (w' : World) : Prop :=
  r = .ok () ∧ ∃ resp, w'.responses = w.responses ++ [resp] ∧
    (resp.status = 200 ∧ Obeyed w w' ∨ resp.status = 400 ∧ ¬ Obeyed w w')

/-- The command, if it was sent, came back with a `Boolean` or a fault. -/
def RepliedProperly (w w' : World) : Prop :=
  ∀ c, w'.commands = w.commands ++ [c] → c.reply ≠ .null ∧ c.reply ≠ .object

theorem answeredOnce_400 {ex : HttpExchange} (q : Traffic) :
    AnsweredOnce w (.ok ()) ((w.responding (responseTo ex 400)).quietly q) ∧
      RepliedProperly w ((w.responding (responseTo ex 400)).quietly q) := by
  simp [AnsweredOnce, RepliedProperly, Obeyed, responseTo]

/-- Opening a statement, or a response. -/
theorem wp_openForHandler {ex : HttpExchange} {Q : Option Connection → World → Prop}
    (hok : ∀ c q, Q (some c) (w.quietly q))
    (hbad : ∀ q, Q none ((w.responding (responseTo ex 400)).quietly q)) :
    wp (under col may) (openForHandler ex) Q E w := by
  simp only [openForHandler, wp_bind, wp_forName, wp_appendToOutput, wp_getConnection,
    wp_createStatement, Bool.not_true, Bool.not_false, Bool.false_eq_true, if_true, if_false,
    wp_pure]
  refine ⟨⟨fun url _ => ⟨hok _ _, fun _ => ?_⟩, fun _ => ?_⟩, fun _ => ?_⟩
  all_goals exact wp_badRequest fun q => hbad q

/-- Looking an actuator up: its first row, or a response. -/
theorem wp_lookUpActuator {ex : HttpExchange} {id : String} {Q : Option ActuatorRow → World → Prop}
    (hrow : ∀ row q, Q (some row) (w.quietly q))
    (hnone : ∀ q, Q none ((w.responding (responseTo ex 400)).quietly q)) :
    wp (under col may) (lookUpActuator ex id) Q E w := by
  simp only [lookUpActuator, wp_bind]
  refine wp_openForHandler (fun c q₁ => ?_) fun q => hnone q
  rw [wp_bind]
  refine (wp_callExecuteQuery c (.actuator id)).mpr ⟨?_, fun _ => ?_⟩
  · rw [wp_bind]
    refine wp_firstRow ?_ fun _ => (wp_bind _ _).mpr (wp_badRequest fun q => hnone q)
    cases ((Query.actuator id).run col ((w.quietly q₁).servers c.url)).head? with
    | none =>
      simp only [wp_bind]
      exact wp_badRequest fun q => hnone q
    | some row =>
      simp only [wp_bind]
      exact wp_closeConnection fun q => hrow row q
  · exact (wp_bind _ _).mpr (wp_badRequest fun q => hnone q)

section Handle

variable [Jdk]

/-- Passing a command on, and answering by the reply. -/
theorem wp_forwardCommand {ex : HttpExchange} {row : ActuatorRow} {id action : String}
    {P : Except Exn Unit → World → Prop}
    (hnot : ∀ q, P (.ok ()) ((w.responding (responseTo ex 400)).quietly q))
    (hreply : ∀ address b q, P (.ok ()) (((w.commanding ⟨address, id, action, .result b⟩).responding
      (responseTo ex (if b then 200 else 400))).quietly q))
    (hfault : ∀ address q, P (.ok ()) (((w.commanding ⟨address, id, action, .fault⟩).responding
      (responseTo ex 400)).quietly q))
    (hnull : ∀ address q, P (.error .nullPointer)
      ((w.commanding ⟨address, id, action, .null⟩).quietly q))
    (hobject : ∀ address q, P (.error .classCast)
      ((w.commanding ⟨address, id, action, .object⟩).quietly q)) :
    wp (under col may) (forwardCommand ex row id action) (fun a => P (.ok a))
      (fun e => P (.error e)) w := by
  simp only [forwardCommand, SendXMLRPCRequest, wp_bind, wp_appendToOutput]
  cases row.address.filter fun a => parsesURL (some a) with
  | none =>
    simp only [wp_bind, wp_appendToOutput, wp_pure, Bool.false_eq_true, if_false]
    exact wp_badRequest fun q => hnot q
  | some address =>
    simp only [wp_bind, wp_execute]
    rintro (b | _ | _ | _)
    · cases b with
      | true => simpa using hreply address true _
      | false => exact wp_badRequest fun q => hreply address false q
    · exact hnull address _
    · exact hobject address _
    · simp only [wp_bind, wp_appendToOutput, wp_pure, Bool.false_eq_true, if_false]
      exact wp_badRequest fun q => hfault address q

/-- A command that could be parsed is answered once, unless its reply is not a `Boolean`. -/
theorem wp_handleCommand {ex : HttpExchange} {id action : String} :
    wp (under col may) (handleCommand ex id action)
      (fun a w' => AnsweredOnce w (.ok a) w' ↔ RepliedProperly w w')
      (fun e w' => AnsweredOnce w (.error e) w' ↔ RepliedProperly w w') w := by
  simp only [handleCommand, wp_bind]
  have h400 : ∀ q, AnsweredOnce w (.ok ()) ((w.responding (responseTo ex 400)).quietly q) ↔
      RepliedProperly w ((w.responding (responseTo ex 400)).quietly q) := fun q =>
    iff_of_true (answeredOnce_400 q).1 (answeredOnce_400 q).2
  refine wp_lookUpActuator (fun row q => ?_) fun q => h400 q
  simp only [wp_bind, wp_appendToOutput, wp_isSelected]
  rw [wp_ite]
  refine ⟨fun _ => ?_, fun _ => ?_⟩
  · exact wp_badRequest fun q => h400 q
  · refine wp_forwardCommand (P := fun r w' => AnsweredOnce w r w' ↔ RepliedProperly w w')
      (fun q => h400 q) (fun address b q => ?_) (fun address q => ?_) (fun address q => ?_)
      fun address q => ?_
    · cases b <;> simp [AnsweredOnce, RepliedProperly, Obeyed, responseTo]
    · simp [AnsweredOnce, RepliedProperly, Obeyed, responseTo]
    · simp [AnsweredOnce, RepliedProperly]
    · simp [AnsweredOnce, RepliedProperly]

/-- **Answering.** An execution of the handler, whatever fails in it, answers once and as the
command went, without throwing, if and only if the method is POST, the body can be parsed and the
reply, where there is one, is a `Boolean`. -/
theorem handle_answeredOnce_iff {ex : HttpExchange} {l : List (Event calls World)}
    {r : Except Exn Unit} {w' : World} (hrun : Runs (under col anyFault) (handle ex) w l r w') :
    AnsweredOnce w r w' ↔
      sameIgnoringCase ex.method "POST" ∧ (parseBody (Jdk.decode (readBody ex))).isSome ∧
        RepliedProperly w w' := by
  cases hmethod : sameIgnoringCase ex.method "POST" with
  | false =>
    have hskip : handle ex = pure () := by simp [handle, hmethod]
    rw [hskip] at hrun
    cases hrun
    simp [AnsweredOnce]
  | true =>
    cases hparse : parseBody (Jdk.decode (readBody ex)) with
    | none =>
      have hthrow : handle ex = throwExn .indexOutOfBounds := by simp [handle, hmethod, hparse]
      rw [hthrow] at hrun
      cases hrun
      simp [AnsweredOnce]
    | some command =>
      have hcommand : handle ex = handleCommand ex command.1 command.2 := by
        simp [handle, hmethod, hparse]
      rw [hcommand] at hrun
      have := hrun.outcome_of_wp wp_handleCommand
      cases r <;> simpa [outcome] using this

end Handle

/-- A window over a registry with one actuator. -/
def actuatorWorld : World := .running "jdbc:mysql://db" ⟨[], [], [⟨"1", some "http://actuator"⟩]⟩

/-- Handle a POST, with nothing failing. -/
def handlePost (body : String) : List (Event calls World) × Except Exn Unit × World :=
  (machine .exact).play .fine (@handle plainJdk ⟨"POST", [body.toUTF8.toList], []⟩) []
    actuatorWorld

theorem runs_handlePost (body : String) : Runs (under .exact anyFault)
    (@handle plainJdk ⟨"POST", [body.toUTF8.toList], []⟩) actuatorWorld (handlePost body).1
    (handlePost body).2.1 (handlePost body).2.2 :=
  runs_play_anyFault _ _ _

/-- A request with the body `on` is not answered. -/
theorem not_always_answeredOnce : ¬ ∀ (jdk : Jdk) (col : Collation) (ex : HttpExchange)
    (w w' : World) (l : List (Event calls World)) (r : Except Exn Unit),
    Runs (under col anyFault) (@handle jdk ex) w l r w' → AnsweredOnce w r w' := by
  intro h
  obtain ⟨hr, -⟩ := h plainJdk .exact _ _ _ _ _ (runs_handlePost "on")
  revert hr
  decide +kernel

/-- A request with the body `id=1&action=on` is. -/
theorem handlePost_answeredOnce : AnsweredOnce actuatorWorld (handlePost "id=1&action=on").2.1
    (handlePost "id=1&action=on").2.2 := by
  refine (@handle_answeredOnce_iff .exact _ plainJdk _ _ _ _
    (runs_handlePost "id=1&action=on")).mpr ⟨by decide, by decide +kernel, fun c hc => ?_⟩
  have hsent : (handlePost "id=1&action=on").2.2.commands =
      [⟨"http://actuator", "1", "on", .result true⟩] := by decide +kernel
  rw [hsent] at hc
  obtain rfl : ⟨"http://actuator", "1", "on", .result true⟩ = c := by
    simpa [show actuatorWorld.commands = [] from rfl] using hc
  decide

end CrossingReality
