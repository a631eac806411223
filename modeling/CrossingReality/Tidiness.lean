import CrossingReality.Ledger

/-!
# Every method is tidy

No method closes a connection that it has not opened, and none closes the connection on which a
statement has thrown. One lemma a method, by the rules of the ledger.
-/

namespace CrossingReality

open Effects

/-! ## The window -/

section Window

variable {c : Connection}

/-- Ask which row a query finds first, and show it. -/
theorem tidy_wsnGeneralNodeChanged : Tidy wsnGeneralNodeChanged := by
  refine (tidy_getSelectedItem _).bind fun id => ?_
  refine (opens_openStatement _).tidy (tidy_pure _) fun connect => ?_
  refine tidyWith_executeQuery (tidy_pure _) fun rows => ?_
  refine tidyWith_firstRow (tidy_appendToOutput _) fun row => ?_
  exact (tidy_setTextOrNull _ _).bindWith fun _ => tidyWith_closeConnection_last

theorem tidy_actuatorActuatorChanged : Tidy actuatorActuatorChanged := by
  refine (tidy_getSelectedItem _).bind fun id => ?_
  refine (opens_openStatement _).tidy (tidy_pure _) fun connect => ?_
  refine tidyWith_executeQuery (tidy_pure _) fun rows => ?_
  refine tidyWith_firstRow (tidy_appendToOutput _) fun row => ?_
  exact (tidy_setTextOrNull _ _).bindWith fun _ => tidyWith_closeConnection_last

theorem tidy_wsnSensorsSensorsChanged : Tidy wsnSensorsSensorsChanged := by
  refine (tidy_getSelectedItem _).bind fun id => ?_
  refine (opens_openStatement _).tidy (tidy_pure _) fun connect => ?_
  refine (tidy_getSelectedItem _).bindWith fun type => ?_
  refine tidyWith_executeQuery (tidy_pure _) fun rows => ?_
  refine tidyWith_showBoundsRow (tidy_pure _) ?_
  exact tidyWith_closeConnection_last

theorem tidy_fire {listener : Panel Unit} (hl : Tidy listener) (n : Nat) :
    Tidy (fire listener n) := by
  induction n with
  | zero => exact tidy_pure _
  | succ n ih => exact hl.bind fun _ => ih

theorem tidy_removeAllItems {listener : Panel Unit} (hl : Tidy listener) (b : ComboBox) :
    Tidy (removeAllItems listener b) :=
  (tidy_call (c := .removeAllItems b) id).bind fun n => tidy_fire hl n

theorem tidy_addItems {listener : Panel Unit} (hl : Tidy listener) (b : ComboBox)
    (ss : List String) : Tidy (addItems listener b ss) := by
  induction ss with
  | nil => exact tidy_pure _
  | cons s ss ih =>
    refine (tidy_call (c := .addItem b s) id).bind fun n => ?_
    exact (tidy_fire hl n).bind fun _ => ih

/-- The second half of a refill: the query, and the items it finds. -/
theorem tidy_refill {listener : Panel Unit} {b : ComboBox} {q : Query} {column : q.Row → String}
    {m m' m'' : Message} {f : Option Connection → Panel Unit}
    {k : Connection → Option (List q.Row) → Panel Unit}
    {r : Connection → Option (List String) → Panel Unit} (hl : Tidy listener)
    (hnone : f none = pure ()) (hf : ∀ c, f (some c) = (executeQuery c q m' >>= k c))
    (hknone : ∀ c, k c none = pure ())
    (hk : ∀ c rows, k c (some rows) = (readRows c column rows >>= r c))
    (hrnone : ∀ c, r c none = pure ())
    (hr : ∀ c ids, r c (some ids) = (closeConnection .cp c >>= fun _ =>
      addItems listener b ids >>= fun _ => appendToOutput m'')) :
    Tidy (openStatement m >>= f) := by
  refine (opens_openStatement _).tidy (hnone ▸ tidy_pure _) fun c => ?_
  rw [hf]
  refine tidyWith_executeQuery (hknone c ▸ tidy_pure _) fun rows => ?_
  rw [hk]
  refine tidyWith_readRows (hrnone c ▸ tidy_pure _) fun ids => ?_
  rw [hr]
  refine tidyWith_closeConnection (Tidy.tidyAfter ?_ _)
  exact (tidy_addItems hl b ids).bind fun _ => tidy_appendToOutput _

theorem tidy_updateSensorsSelect (id : Option String) : Tidy (updateSensorsSelect id) := by
  refine (tidy_appendToOutput _).bind fun _ => ?_
  refine (tidy_removeAllItems tidy_wsnSensorsSensorsChanged _).bind fun _ => ?_
  exact tidy_refill tidy_wsnSensorsSensorsChanged rfl (fun _ => rfl) (fun _ => rfl)
    (fun _ _ => rfl) (fun _ => rfl) fun _ _ => rfl

/-- The end of the listener of the node on the sensors tab: a second connection, which is not
closed, and the first, which is closed again. -/
theorem tidyAfter_showBounds (c : Connection) (id : Option String) : TidyAfter c (do
    let some connect2 ← openStatement .createStatementProblem | return
    let type ← getSelectedItem .wsnSensorsSensorsComboBox
    let some rows2 ← executeQuery connect2 (.bounds (spell id) (spell type)) .executeProblem
      | return
    if !(← showBoundsRow connect2 rows2) then return
    closeConnection .cp c : Panel Unit) := by
  intro s hs hlt hnot
  rw [wp_bind]
  refine opens_openStatement _ s _ _ (.refl s) ?_ fun connect2 hc => ?_
  · exact (Ledger.Leaves.refl s.opened).of_opened rfl rfl
  have hopened : c.handle ∉ s.opened.handles := by simp [Ledger.opened, hlt.ne, hnot]
  refine (wp_ledger_still (R := fun _ => True) hopened ?_).mono
    (fun _ _ h => (Ledger.Leaves.refl _).of_opened h.1 h.2) fun _ _ h =>
      (Ledger.Leaves.refl _).of_opened h.1 h.2
  refine .bind (by simp [getSelectedItem, Call.still]) fun type => ?_
  refine uses_bindOption (by simp [executeQuery, appendToOutput, Call.still, Option.forall])
    trivial fun rows2 => ?_
  refine .bind ?_ fun shown => Program.uses_ite _ trivial ?_
  · refine uses_bindOption (by simp [firstRow, Call.still]) ?_ fun row => ?_
    · simp [setText, appendToOutput, Call.still]
    · simp [setTextOrNull, setText, Call.still]
  · simp [closeConnection, appendToOutputOf, appendToOutput, Call.still]

theorem tidy_wsnSensorsNodeChanged : Tidy wsnSensorsNodeChanged := by
  refine (tidy_getSelectedItem _).bind fun id => ?_
  refine (opens_openStatement _).tidy (tidy_pure _) fun connect => ?_
  refine tidyWith_executeQuery (tidy_pure _) fun rows => ?_
  refine tidyWith_firstRow (tidy_appendToOutput _) fun row => ?_
  refine (tidy_setTextOrNull _ _).bindWith fun _ => tidyWith_closeConnection ?_
  exact (tidy_updateSensorsSelect id).bindAfter fun _ => tidyAfter_showBounds connect id

theorem tidy_itemStateChanged (b : ComboBox) : Tidy (itemStateChanged b) := by
  cases b with
  | wsnGeneralNodeComboBox => exact tidy_wsnGeneralNodeChanged
  | wsnSensorsNodeComboBox => exact tidy_wsnSensorsNodeChanged
  | wsnSensorsSensorsComboBox => exact tidy_wsnSensorsSensorsChanged
  | actuatorActuatorComboBox => exact tidy_actuatorActuatorChanged
  | wsnGeneralRemoveNodeComboBox | actuatorRemoveActuatorComboBox => exact tidy_pure _

theorem tidy_clearAddress (b : ComboBox) : Tidy (clearAddress b) := by
  cases b <;> first | exact tidy_setText _ _ | exact tidy_pure _

theorem tidy_updateSelect (b : ComboBox) (q : Query) (column : q.Row → String) (m m' : Message) :
    Tidy (updateSelect b q column m m') := by
  have hl := tidy_itemStateChanged b
  refine (tidy_appendToOutput _).bind fun _ => ?_
  refine (tidy_removeAllItems hl b).bind fun _ => ?_
  refine (tidy_clearAddress b).bind fun _ => ?_
  exact tidy_refill hl rfl (fun _ => rfl) (fun _ => rfl) (fun _ _ => rfl) (fun _ => rfl)
    fun _ _ => rfl

theorem tidy_updateNodeSelects : Tidy updateNodeSelects :=
  (tidy_updateSelect _ _ _ _ _).bind fun _ => (tidy_updateSelect _ _ _ _ _).bind fun _ =>
    tidy_updateSelect _ _ _ _ _

theorem tidy_updateActuatorsSelects : Tidy updateActuatorsSelects :=
  (tidy_updateSelect _ _ _ _ _).bind fun _ => tidy_updateSelect _ _ _ _ _

end Window

/-! ## Parts of the methods -/

theorem tidy_readBounds (id type : String) : Tidy (readBounds id type) := by
  refine (opens_openStatement _).tidy (tidy_pure _) fun connect => ?_
  refine tidyWith_executeQuery (tidy_pure _) fun rows => ?_
  refine tidyWith_readRows (tidy_pure _) fun bounds => ?_
  exact tidyWith_closeConnection ((tidy_pure _).tidyAfter _)

theorem offline_scaleValue (value : Int32) (b : Bounds) :
    (scaleValue value b).Uses (fun c : Call => ¬ c.isJdbc) fun _ => True := by
  obtain ⟨max, min⟩ := b
  have habove : ∀ x, (clampAbove x).Uses (fun c : Call => ¬ c.isJdbc) fun _ => True := fun x =>
    Program.uses_ite _ ⟨id, fun _ => trivial⟩ trivial
  have hbelow : ∀ x, (clampBelow x).Uses (fun c : Call => ¬ c.isJdbc) fun _ => True := fun x =>
    Program.uses_ite _ ⟨id, fun _ => trivial⟩ trivial
  cases max with
  | none => cases min <;> trivial
  | some max =>
    cases min with
    | none => trivial
    | some min => exact (habove _).bind fun x => hbelow x

theorem offline_sendPost (p : Post) (l : List (HttpCall × Message)) :
    (sendPost p l).Uses (fun c : Call => ¬ c.isJdbc) fun _ => True := by
  induction l with
  | nil => trivial
  | cons c l ih => exact ⟨id, fun ok => Program.uses_ite _ ⟨id, fun _ => trivial⟩ ih⟩

theorem tidy_writeBound (u : Update) (m m' : Message) : Tidy (writeBound u m m') := by
  refine (opens_openStatement _).tidy (tidy_pure _) fun connect => ?_
  refine tidyWith_executeUpdate (tidy_pure _) (tidyWith_closeConnection (Tidy.tidyAfter ?_ _))
  exact (tidy_appendToOutput _).bind fun _ => tidy_pure _

/-- The second connection of a reading, which the types are read on, is never closed. -/
theorem tidy_lookUpTypes (id : String) : Tidy (lookUpTypes id) := by
  refine (opens_openStatement _).tidy (tidy_pure _) fun connect2 => ?_
  refine tidyWith_executeQuery (tidy_pure _) fun rows => ?_
  simp only
  rw [← bind_pure (readRows connect2 SensorRow.type rows)]
  exact tidyWith_readRows (tidy_pure _) fun types => (tidy_pure _).tidyWith _

theorem tidyWith_unrecognisedNode (c : Connection) (id : String) :
    TidyWith c (unrecognisedNode c id) := by
  have hstop : ∀ m, Tidy (appendToOutput m >>= fun _ => pure () : Panel Unit) := fun m =>
    (tidy_appendToOutput m).bind fun _ => tidy_pure _
  refine (tidy_appendToOutput _).bindWith fun _ => (tidy_isSelected _).bindWith fun on => ?_
  refine tidyWith_ite _ ((hstop _).tidyWith _) ?_
  refine (tidy_call (c := .getIgnoreNodeList) fun h => h).bindWith fun ignored => ?_
  cases ignored with
  | none => exact (tidy_throwExn _).tidyWith _
  | some ignored =>
    refine tidyWith_ite _ ((hstop _).tidyWith _) ((tidy_appendToOutput _).bindWith fun _ => ?_)
    refine tidyWith_createStatement (hstop _) (tidyWith_executeUpdate (tidy_pure _) ?_)
    refine tidyWith_closeConnection (Tidy.tidyAfter ?_ _)
    exact (tidy_appendToOutput _).bind fun _ => tidy_updateNodeSelects

theorem tidyWith_insertTypedNode (c : Connection) : TidyWith c (insertTypedNode c) := by
  refine tidyWith_createStatement ((tidy_appendToOutput _).bind fun _ => tidy_pure _) ?_
  refine (tidy_getText _).bindWith fun id => (tidy_getText _).bindWith fun address => ?_
  refine tidyWith_executeUpdate (tidy_pure _) ?_
  refine (tidy_appendToOutput _).bindWith fun _ => ?_
  refine tidyWith_closeConnection (Tidy.tidyAfter ?_ _)
  refine tidy_updateNodeSelects.bind fun _ => ?_
  exact (tidy_setText _ _).bind fun _ => tidy_setText _ _

theorem tidyWith_insertTypedActuator (c : Connection) : TidyWith c (insertTypedActuator c) := by
  refine tidyWith_createStatement ((tidy_appendToOutput _).bind fun _ => tidy_pure _) ?_
  refine (tidy_getText _).bindWith fun id => (tidy_getText _).bindWith fun address => ?_
  refine tidyWith_executeUpdate (tidy_pure _) ?_
  refine (tidy_appendToOutput _).bindWith fun _ => ?_
  refine tidyWith_closeConnection (Tidy.tidyAfter ?_ _)
  refine (tidy_setText _ _).bind fun _ => (tidy_setText _ _).bind fun _ => ?_
  exact tidy_updateActuatorsSelects

theorem opens_openForHandler (ex : HttpExchange) : Opens (openForHandler ex) := by
  intro s Q E hnone hbroke hsome
  have hbad : ∀ (m : Message) {s : Ledger}, Q none s →
      wp ledger (badRequest ex m >>= fun _ => pure none : Panel (Option Connection)) Q E s := by
    intro m s hQ
    rw [wp_bind]
    exact wp_ledger_offline (R := fun _ => False) ⟨id, fun _ => ⟨id, fun _ => trivial⟩⟩
      (fun _ => hQ) (by simp)
  simp only [openForHandler, wp_bind]
  refine (wp_ledger .forName).mpr fun ok _ => ?_
  refine (wp_ite _ _ _).mpr ⟨fun _ => hbad _ hnone, fun _ => ?_⟩
  rw [wp_bind]
  refine wp_ledger_offline (R := fun _ => False) ⟨id, fun _ => trivial⟩ (fun _ => ?_) (by simp)
  rw [wp_bind]
  refine wp_ledger_getConnection (hbad _ hnone) fun c hc => ?_
  simp only [wp_bind]
  refine wp_ledger_offline (R := fun _ => False) ⟨id, fun _ => trivial⟩ (fun _ => ?_) (by simp)
  exact wp_ledger_createStatement c (hsome c hc) (hbad _ hbroke)

/-! ## The methods -/

theorem tidy_deleteNode (id : Option String) : Tidy (deleteNode id) := by
  refine (opens_openStatement _).tidy (tidy_pure _) fun connect => ?_
  refine tidyWith_executeUpdate (tidy_pure _) (tidyWith_executeUpdate (tidy_pure _) ?_)
  refine (tidy_appendToOutput _).bindWith fun _ => (tidy_setSelected _ _).bindWith fun _ => ?_
  exact tidy_updateNodeSelects.tidyWith connect

theorem tidy_removeNode (id : Option String) : Tidy (removeNode id) :=
  (tidy_offline (offline_ignoreNodeIfTicked id)).bind fun _ => tidy_deleteNode id

theorem tidy_deleteSensor (id type : Option String) : Tidy (deleteSensor id type) := by
  refine (opens_openStatement _).tidy (tidy_pure _) fun connect => ?_
  refine tidyWith_executeUpdate (tidy_pure _) ?_
  refine (tidy_appendToOutput _).bindWith fun _ => (tidy_setSelected _ _).bindWith fun _ => ?_
  exact (tidy_updateSensorsSelect id).tidyWith connect

theorem tidy_removeSensor (id type : Option String) : Tidy (removeSensor id type) :=
  (tidy_offline (offline_ignoreSensorIfTicked id type)).bind fun _ => tidy_deleteSensor id type

theorem tidy_removeActuator (id : Option String) : Tidy (removeActuator id) := by
  refine (opens_openStatement _).tidy (tidy_pure _) fun connect => ?_
  refine tidyWith_executeUpdate (tidy_pure _) ?_
  refine (tidy_appendToOutput _).bindWith fun _ => ?_
  exact tidy_updateActuatorsSelects.tidyWith connect

theorem tidy_calibrateReset : Tidy calibrateReset := by
  refine (tidy_getSelectedItem _).bind fun id => (tidy_getSelectedItem _).bind fun type => ?_
  refine (opens_openStatement _).tidy (tidy_pure _) fun connect => ?_
  refine tidyWith_executeUpdate (tidy_pure _) ?_
  refine (tidy_appendToOutput _).bindWith fun _ => ?_
  refine tidyWith_closeConnection (Tidy.tidyAfter ?_ _)
  exact (tidy_setText _ _).bind fun _ => tidy_setText _ _

theorem tidy_refreshNodeAddress : Tidy refreshNodeAddress := by
  refine (tidy_getSelectedItem _).bind fun id => ?_
  refine (opens_openStatement _).tidy (tidy_pure _) fun connect => ?_
  refine tidyWith_executeQuery (tidy_pure _) fun rows => ?_
  refine tidyWith_firstRow (tidy_appendToOutput _) fun row => ?_
  refine (tidy_setTextOrNull _ _).bindWith fun _ => ?_
  refine tidyWith_fetch ((tidy_appendToOutput _).bind fun _ => tidy_pure _) ?_
  exact (tidy_setTextOrNull _ _).bindWith fun _ => tidyWith_closeConnection_last

theorem tidy_refreshActuatorAddress : Tidy refreshActuatorAddress := by
  refine (tidy_getSelectedItem _).bind fun id => ?_
  refine (opens_openStatement _).tidy (tidy_pure _) fun connect => ?_
  refine tidyWith_executeQuery (tidy_pure _) fun rows => ?_
  refine tidyWith_firstRow (tidy_appendToOutput _) fun row => ?_
  exact (tidy_setTextOrNull _ _).bindWith fun _ => tidyWith_closeConnection_last

section Methods

variable [Jdk]

/-- Once the bounds are read, a reading goes out without the database. -/
theorem offline_forwardBounds (id type : String) (value : Int32) (address : String)
    (bounds : List Bounds) : (do
      let some b := bounds.head? | throwExn .indexOutOfBounds
      let scaledValue ← scaleValue value b
      let payload : Payload := ⟨id, type, scaledValue⟩
      if !(← sendPost ⟨address, payload⟩ postCalls) then return false
      appendToOutput (.forwarded payload.body)
      return true : Panel Bool).Uses (fun c : Call => ¬ c.isJdbc) fun _ => True := by
  cases bounds.head? with
  | none => trivial
  | some b =>
    refine (offline_scaleValue value b).bind fun x => (offline_sendPost _ _).bind fun ok => ?_
    exact Program.uses_ite _ trivial ⟨fun h => h, fun _ => trivial⟩

theorem tidy_HTTPPOSTForward (id type : String) (value : Int32) (address : String) :
    Tidy (HTTPPOSTForward id type value address) := by
  refine (tidy_readBounds id type).bind fun bounds => ?_
  cases bounds with
  | none => exact tidy_pure _
  | some bounds => exact tidy_offline (offline_forwardBounds id type value address bounds)

theorem tidy_updateNodeAddress : Tidy updateNodeAddress := by
  refine (tidy_getText _).bind fun newAddress => (tidy_getSelectedItem _).bind fun id => ?_
  refine (tidy_getText _).bind fun address => tidy_ite _ ?_ ?_
  · exact (tidy_appendToOutput _).bind fun _ => tidy_pure _
  refine (opens_openStatement _).tidy (tidy_pure _) fun connect => ?_
  refine tidyWith_executeUpdate (tidy_pure _) ?_
  refine (tidy_appendToOutput _).bindWith fun _ => ?_
  exact tidyWith_closeConnection ((tidy_setText _ _).tidyAfter _)

theorem tidy_updateActuatorAddress : Tidy updateActuatorAddress := by
  refine (tidy_getText _).bind fun newAddress => (tidy_getSelectedItem _).bind fun id => ?_
  refine (tidy_getText _).bind fun address => tidy_ite _ ?_ ?_
  · exact (tidy_appendToOutput _).bind fun _ => tidy_pure _
  refine (opens_openStatement _).tidy (tidy_pure _) fun connect => ?_
  refine tidyWith_executeUpdate (tidy_pure _) ?_
  refine (tidy_appendToOutput _).bindWith fun _ => ?_
  exact tidyWith_closeConnection ((tidy_setText _ _).tidyAfter _)

theorem tidy_manualNodeAdd : Tidy manualNodeAdd := by
  have hstop : ∀ m, Tidy (appendToOutput m >>= fun _ => pure () : Panel Unit) := fun m =>
    (tidy_appendToOutput m).bind fun _ => tidy_pure _
  refine (tidy_getText _).bind fun id => tidy_ite _ (hstop _) ?_
  refine (opens_openStatement _).tidy (tidy_pure _) fun connect => ?_
  refine (tidy_getText _).bindWith fun id => ?_
  refine tidyWith_executeQuery (tidy_pure _) fun rows => ?_
  refine tidyWith_readRows (tidy_pure _) fun ids => ?_
  refine tidyWith_ite _ ((hstop _).tidyWith _) ?_
  refine (tidy_getText _).bindWith fun address => ?_
  refine tidyWith_ite _ ((hstop _).tidyWith _) ?_
  refine (tidy_appendToOutput _).bindWith fun _ => ?_
  exact (tidy_offline offline_unignoreNode).bindWith fun _ => tidyWith_insertTypedNode connect

theorem tidyWith_insertTypedSensor (c : Connection) : TidyWith c (insertTypedSensor c) := by
  refine tidyWith_createStatement ((tidy_appendToOutput _).bind fun _ => tidy_pure _) ?_
  refine (tidy_getSelectedItem _).bindWith fun id => (tidy_getText _).bindWith fun type => ?_
  refine tidyWith_executeUpdate (tidy_pure _) ?_
  refine (tidy_appendToOutput _).bindWith fun _ => ?_
  refine tidyWith_closeConnection (Tidy.tidyAfter ?_ _)
  refine (tidy_offline offline_unignoreSensor).bind fun _ => ?_
  refine (tidy_getSelectedItem _).bind fun id => ?_
  exact (tidy_updateSensorsSelect id).bind fun _ => tidy_setText _ _

theorem tidy_manualSensorAdd : Tidy manualSensorAdd := by
  have hstop : ∀ m, Tidy (appendToOutput m >>= fun _ => pure () : Panel Unit) := fun m =>
    (tidy_appendToOutput m).bind fun _ => tidy_pure _
  refine (tidy_getText _).bind fun type => tidy_ite _ (hstop _) ?_
  refine (opens_openStatement _).tidy (tidy_pure _) fun connect => ?_
  refine (tidy_getSelectedItem _).bindWith fun id => (tidy_getText _).bindWith fun type => ?_
  refine tidyWith_executeQuery (tidy_pure _) fun rows => ?_
  refine tidyWith_readRows (tidy_pure _) fun types => ?_
  refine tidyWith_ite _ ((hstop _).tidyWith _) ?_
  refine (tidy_appendToOutput _).bindWith fun _ => ?_
  refine (tidy_offline offline_ignoreSensorListContainsString).bindWith fun _ => ?_
  exact tidyWith_insertTypedSensor connect

theorem tidy_manualActuatorAdd : Tidy manualActuatorAdd := by
  have hstop : ∀ m, Tidy (appendToOutput m >>= fun _ => pure () : Panel Unit) := fun m =>
    (tidy_appendToOutput m).bind fun _ => tidy_pure _
  refine (tidy_getText _).bind fun id => tidy_ite _ (hstop _) ?_
  refine (tidy_getText _).bind fun address => tidy_ite _ (hstop _) ?_
  refine (tidy_getText _).bind fun address => tidy_ite _ (hstop _) ?_
  refine (opens_openStatement _).tidy (tidy_pure _) fun connect => ?_
  refine (tidy_getText _).bindWith fun id => ?_
  refine tidyWith_executeQuery (tidy_pure _) fun rows => ?_
  refine tidyWith_readRows (tidy_pure _) fun types => ?_
  refine tidyWith_ite _ ((hstop _).tidyWith _) ?_
  exact (tidy_appendToOutput _).bindWith fun _ => tidyWith_insertTypedActuator connect

theorem tidy_showBound (id type : String) (value : Int32) (fields : List TextField) :
    Tidy (showBound id type value fields) := by
  have hfields : Tidy (fields.forM fun f => setText f (toString value.toInt)) := by
    induction fields with
    | nil => exact tidy_pure _
    | cons f fields ih => exact (tidy_setText f _).bind fun _ => ih
  refine Tidy.bind ?_ fun selected => tidy_ite _ hfields (tidy_pure _)
  refine (tidy_getSelectedItem _).bind fun id => tidy_ite _ (tidy_pure _) ?_
  exact (tidy_getSelectedItem _).bind fun type => tidy_pure _

theorem tidy_calibrate (id type : String) (value : Int32) : Tidy (calibrate id type value) := by
  have hbound : ∀ u m m' fields, Tidy (do
      if !(← writeBound u m m') then return false
      showBound id type value fields
      return true : Panel Bool) := fun u m m' fields =>
    (tidy_writeBound u m m').bind fun ok => tidy_ite _ (tidy_pure _)
      ((tidy_showBound id type value fields).bind fun _ => tidy_pure _)
  have hlower : ∀ min, Tidy (lowerMin id type value min) := fun min =>
    tidy_ite _ (hbound _ _ _ _) (tidy_pure _)
  have hraise : ∀ max, Tidy (raiseMax id type value max) := fun max =>
    tidy_ite _ (hbound _ _ _ _) (tidy_pure _)
  refine (tidy_readBounds id type).bind fun bounds => ?_
  cases bounds with
  | none => exact tidy_pure _
  | some bounds =>
    simp only
    cases bounds.head? with
    | none => exact tidy_throwExn _
    | some b =>
      obtain ⟨max, min⟩ := b
      cases max with
      | none =>
        cases min with
        | none => exact hbound _ _ _ _
        | some min => exact tidy_pure _
      | some max =>
        cases min with
        | none => exact tidy_pure _
        | some min => exact (hlower min).bind fun ok => tidy_ite _ (tidy_pure _) (hraise max)

theorem tidy_recognisedSensor (id type : String) (value : Int32) (addresses : List String) :
    Tidy (recognisedSensor id type value addresses) := by
  refine Tidy.bind ?_ fun ok => tidy_ite _ (tidy_pure _) ?_
  · exact (tidy_isSelected _).bind fun on =>
      tidy_ite _ (tidy_calibrate id type value) (tidy_pure _)
  refine (tidy_appendToOutput _).bind fun _ => (tidy_isSelected _).bind fun paused => ?_
  refine tidy_ite _ ((tidy_appendToOutput _).bind fun _ => tidy_pure _) ?_
  cases addresses.head? with
  | none => exact (tidy_appendToOutput _).bind fun _ => tidy_pure _
  | some address =>
    exact (tidy_appendToOutput _).bind fun _ => tidy_HTTPPOSTForward id type value address

theorem tidy_unrecognisedSensor (id type : String) : Tidy (unrecognisedSensor id type) := by
  refine (tidy_offline (uses_ignoreSensorListContains _ fun h => h)).bind fun listed => ?_
  refine tidy_ite _ ((tidy_appendToOutput _).bind fun _ => tidy_pure _) ?_
  refine (tidy_appendToOutput _).bind fun _ => ?_
  refine (opens_openStatement _).tidy (tidy_pure _) fun connect => ?_
  refine tidyWith_executeUpdate (tidy_pure _) ?_
  refine (tidy_appendToOutput _).bindWith fun _ => ?_
  refine tidyWith_closeConnection (Tidy.tidyAfter ?_ _)
  refine (tidy_getSelectedItem _).bind fun id => ?_
  exact (tidy_updateSensorsSelect id).bind fun _ => tidy_appendToOutput _

/-- The rest of a reading from a registered node, once its types are known. -/
theorem tidy_knownTypes (id type : String) (value : Int32) (addresses types : List String) :
    Tidy (do
      if types.contains type then recognisedSensor id type value addresses
      else if !(← isSelected .wsnSensorsAutoAddCheck) then
        appendToOutput .sensorAutoAddOff
        return false
      else if ← isSelected .wsnSensorsAutoAddCheck then
        unrecognisedSensor id type
        return false
      else recognisedSensor id type value addresses : Panel Bool) := by
  refine tidy_ite _ (tidy_recognisedSensor id type value addresses) ?_
  refine (tidy_isSelected _).bind fun on => tidy_ite _ ?_ ?_
  · exact (tidy_appendToOutput _).bind fun _ => tidy_pure _
  refine (tidy_isSelected _).bind fun on => tidy_ite _ ?_ ?_
  · exact (tidy_unrecognisedSensor id type).bind fun _ => tidy_pure _
  · exact tidy_recognisedSensor id type value addresses

theorem tidyWith_recognisedNode (id type : String) (value : Int32) (c : Connection)
    (addresses : List String) : TidyWith c (recognisedNode id type value c addresses) := by
  refine (tidy_appendToOutput _).bindWith fun _ => (tidy_lookUpTypes id).bindWith fun types => ?_
  cases types with
  | none => exact (tidy_pure _).tidyWith _
  | some types =>
    exact tidyWith_closeConnection ((tidy_knownTypes id type value addresses types).tidyAfter _)

theorem tidy_sensed (id type : String) (value : Int32) : Tidy (sensed id type value) := by
  have hcollect : ∀ acc row, Tidy (collectNode acc row) := by
    rintro acc ⟨i, _ | address⟩
    · exact (tidy_appendToOutput _).bind fun _ => tidy_pure _
    · exact tidy_ite _ (tidy_pure _) ((tidy_appendToOutput _).bind fun _ => tidy_pure _)
  rw [sensed, lookUpNode, bind_assoc]
  refine (opens_openStatement _).tidy (tidy_pure _) fun connect => ?_
  simp only [bind_assoc]
  refine tidyWith_executeQuery (tidy_pure _) fun rows => ?_
  simp only [bind_assoc]
  refine tidyWith_whileNext hcollect ?_ ?_ rows ([], [])
  · simp only [bind_assoc]
    exact (tidy_appendToOutput _).bind fun _ => tidy_pure _
  · rintro ⟨ids, addresses⟩
    refine tidyWith_ite _ ?_ (tidyWith_recognisedNode id type value connect addresses)
    exact (tidyWith_unrecognisedNode connect id).bind fun _ => tidy_pure _

/-- Once the actuator's row is read, its command is dealt with without the database. -/
theorem offline_dispatch (ex : HttpExchange) (row : ActuatorRow) (id action : String) : (do
      appendToOutput .actuatorCommandReceived
      if ← isSelected .actuatorPauseVwToActuatorCheck then
        badRequest ex .actuatorPaused
      else
        forwardCommand ex row id action : Panel Unit).Uses
          (fun c : Call => ¬ c.isJdbc) fun _ => True := by
  have hbad : ∀ m, (badRequest ex m).Uses (fun c : Call => ¬ c.isJdbc) fun _ => True := fun m =>
    ⟨fun h => h, fun _ => ⟨fun h => h, fun _ => trivial⟩⟩
  refine ⟨fun h => h, fun _ => ⟨fun h => h, fun paused => Program.uses_ite _ (hbad _) ?_⟩⟩
  simp only [forwardCommand, appendToOutput, uses_call_bind]
  refine ⟨fun h => h, fun _ => .bind ?_ fun ok => Program.uses_ite _ ?_ (hbad _)⟩
  · unfold SendXMLRPCRequest
    cases row.address.filter fun a => parsesURL (some a) with
    | none => exact ⟨fun h => h, fun _ => trivial⟩
    | some address =>
      refine ⟨fun h => h, fun reply => ?_⟩
      cases reply with
      | result b => trivial
      | null | object => trivial
      | fault => exact ⟨fun h => h, fun _ => trivial⟩
  · exact ⟨fun h => h, fun _ => ⟨fun h => h, fun _ => trivial⟩⟩

theorem tidy_handle (ex : HttpExchange) : Tidy (handle ex) := by
  have hbad : ∀ m, Tidy (badRequest ex m) := fun m =>
    (tidy_appendToOutput m).bind fun _ => tidy_call (c := .respond _) fun h => h
  refine tidy_ite _ ?_ (tidy_pure _)
  cases parseBody (Jdk.decode (readBody ex)) with
  | none => exact tidy_throwExn _
  | some command =>
    obtain ⟨id, action⟩ := command
    change Tidy (handleCommand ex id action)
    rw [handleCommand, lookUpActuator, bind_assoc]
    refine (opens_openForHandler ex).tidy (tidy_pure _) fun connect => ?_
    simp only [bind_assoc]
    refine tidyWith_call_executeQuery ?_ fun rows => ?_
    · simp only [bind_assoc]
      exact (hbad _).bind fun _ => tidy_pure _
    simp only [bind_assoc]
    refine tidyWith_firstRow ?_ fun row => ?_
    · simp only [bind_assoc]
      exact (hbad _).bind fun _ => tidy_pure _
    simp only [bind_assoc]
    exact tidyWith_closeConnection ((tidy_offline (offline_dispatch ex row id action)).tidyAfter _)

end Methods

end CrossingReality
