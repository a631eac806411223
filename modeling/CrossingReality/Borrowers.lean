import CrossingReality.Refills

/-!
# Connections of the methods

Each method that a reading, a button or a request runs follows a plan.
-/

namespace CrossingReality

open Effects

/-! ## Removing -/

section Removing

variable {col : Collation} {w : World} {base : List Nat}

theorem leases_removeActuator (id : Option String) (s : Selection) (hw : w.Issued)
    (hh : w.openHandles = base) : Leases col base (removeActuator id) w (leftPlan s) Anyhow := by
  refine .ask hh (fun q hq => .pure hq trivial) (fun _ c q _ hc hq hn t => ?_)
    fun h => by cases h
  simp only [wp_bind, wp_lending_executeUpdate, Bool.not_true, Bool.false_eq_true, if_false,
    wp_lending_appendToOutput]
  exact tidy_updateActuatorsSelects.loses (by exact issued_of_opened hw hh hc hq hn)
    (List.cons_ne_nil c.handle []) hq t

theorem leases_removeSensor (id type : Option String) (s : Selection) (hw : w.Issued)
    (hh : w.openHandles = base) : Leases col base (removeSensor id type) w (leftPlan s) Anyhow := by
  refine .bind (P := .done s) (Q := fun _ => leftPlan s) hh hw
    (tidy_offline (offline_ignoreSensorIfTicked id type)) (fun _ => tidy_deleteSensor id type)
    (leases_offline s hh (offline_ignoreSensorIfTicked id type)) fun _ _ w₁ _ hh₁ hw₁ _ => ?_
  refine .ask hh₁ (fun q hq => .pure hq trivial) (fun _ c q _ hc hq hn t => ?_)
    fun h => by cases h
  simp only [wp_bind, wp_lending_executeUpdate, Bool.not_true, Bool.false_eq_true, if_false,
    wp_lending_appendToOutput, wp_lending_setSelected]
  exact (tidy_updateSensorsSelect id).loses (by exact issued_of_opened hw₁ hh₁ hc hq hn)
    (List.cons_ne_nil c.handle []) hq t

theorem leases_removeNode (id : Option String) (s : Selection) (hw : w.Issued)
    (hh : w.openHandles = base) : Leases col base (removeNode id) w (leftPlan s) Anyhow := by
  refine .bind (P := .done s) (Q := fun _ => leftPlan s) hh hw
    (tidy_offline (offline_ignoreNodeIfTicked id)) (fun _ => tidy_deleteNode id)
    (leases_offline s hh (offline_ignoreNodeIfTicked id)) fun _ _ w₁ _ hh₁ hw₁ _ => ?_
  refine .ask hh₁ (fun q hq => .pure hq trivial) (fun _ c q _ hc hq hn t => ?_)
    fun h => by cases h
  simp only [wp_bind, wp_lending_executeUpdate, Bool.not_true, Bool.false_eq_true, if_false,
    wp_lending_appendToOutput, wp_lending_setSelected]
  exact tidy_updateNodeSelects.loses (by exact issued_of_opened hw₁ hh₁ hc hq hn)
    (List.cons_ne_nil c.handle []) hq t

/-! ## Addresses and bounds -/

theorem leases_calibrateReset (s : Selection) (hh : w.openHandles = base) :
    Leases col base calibrateReset w (closedPlan s) Anyhow := by
  refine .getSelectedItem (.getSelectedItem (leases_statement s hh ?_ (fun _ => rfl) ?_))
  · exact fun q hq => .pure hq trivial
  · intro c q _ _ hq _
    refine .appendToOutput fun q₁ hq₁ _ => .closeConnection (hq₁.trans hq) fun q₂ hq₂ _ => ?_
    exact .setText (leases_offline (R := fun _ => False) s hq₂ ⟨id, fun _ => trivial⟩)

theorem leases_refreshNodeAddress (s : Selection) (hh : w.openHandles = base) :
    Leases col base refreshNodeAddress w (lookUpPlan col w.database
      (.node (spell (w.selection .wsnGeneralNodeComboBox))) s) Anyhow := by
  refine .getSelectedItem (.lookUp hh (fun _ => rfl) (fun _ _ => rfl) ?_ ?_ ?_)
  · exact fun q hq => .pure hq trivial
  · exact fun c q hq => loses_appendToOutput _ hq
  · intro c q row _ hq _
    refine .setText fun t => ?_
    rw [wp_bind, wp_lending_fetch]
    exact Leases.setText (leases_closeConnection hq fun _ => trivial) t

theorem leases_refreshActuatorAddress (s : Selection) (hh : w.openHandles = base) :
    Leases col base refreshActuatorAddress w (lookUpPlan col w.database
      (.actuator (spell (w.selection .actuatorActuatorComboBox))) s) Anyhow := by
  refine .getSelectedItem (.lookUp hh (fun _ => rfl) (fun _ _ => rfl) ?_ ?_ ?_)
  · exact fun q hq => .pure hq trivial
  · exact fun c q hq => loses_appendToOutput _ hq
  · exact fun c q row _ hq _ => .setText (leases_closeConnection hq fun _ => trivial)

end Removing

section Methods

variable [Jdk] {col : Collation} {w : World} {base : List Nat}

theorem leases_updateNodeAddress (s : Selection) (hh : w.openHandles = base) :
    Leases col base updateNodeAddress w
      (if parsesURL (some (w.text .wsnGeneralNodeAddressField)) then closedPlan s else .done s)
      Anyhow := by
  refine .getText (.getSelectedItem (.getText ?_))
  cases hparse : parsesURL (some (w.text .wsnGeneralNodeAddressField)) with
  | false => exact leases_offline (R := fun _ => False) s hh ⟨id, fun _ => trivial⟩
  | true =>
    refine leases_statement s hh (fun q hq => .pure hq trivial) (fun _ => rfl) ?_
    intro c q _ _ hq _
    refine .appendToOutput fun q₁ hq₁ _ => .closeConnection (hq₁.trans hq) fun q₂ hq₂ _ => ?_
    exact leases_offline (R := fun _ => False) s hq₂ ⟨id, fun _ => trivial⟩

theorem leases_updateActuatorAddress (s : Selection) (hh : w.openHandles = base) :
    Leases col base updateActuatorAddress w
      (if parsesURL (some (w.text .actuatorAddressField)) then closedPlan s else .done s)
      Anyhow := by
  refine .getText (.getSelectedItem (.getText ?_))
  cases hparse : parsesURL (some (w.text .actuatorAddressField)) with
  | false => exact leases_offline (R := fun _ => False) s hh ⟨id, fun _ => trivial⟩
  | true =>
    refine leases_statement s hh (fun q hq => .pure hq trivial) (fun _ => rfl) ?_
    intro c q _ _ hq _
    refine .appendToOutput fun q₁ hq₁ _ => .closeConnection (hq₁.trans hq) fun q₂ hq₂ _ => ?_
    exact leases_offline (R := fun _ => False) s hq₂ ⟨id, fun _ => trivial⟩

/-! ### Forwarding -/

omit [Jdk] in
theorem leases_readBounds (id type : String) (s : Selection) (hh : w.openHandles = base) :
    Leases col base (readBounds id type) w (closedPlan s) Anyhow := by
  refine .ask hh (fun q hq => .pure hq trivial) (fun h => by cases h) ?_
  rintro - c q _ _ hq _ t
  rw [wp_bind, wp_lending_executeQuery, wp_bind, wp_lending_readRows]
  refine Leases.closeConnection (w := w.quietly q) (R := Anyhow) hq (fun q₁ hq₁ _ => ?_) t
  exact .pure hq₁ trivial

theorem leases_HTTPPOSTForward (id type : String) (value : Int32) (address : String)
    (s : Selection) (hw : w.Issued) (hh : w.openHandles = base) :
    Leases col base (HTTPPOSTForward id type value address) w (closedPlan s) Anyhow := by
  refine .bind_offline hh hw (tidy_readBounds id type) (leases_readBounds id type s hh)
    fun bounds => ?_
  cases bounds with
  | none => trivial
  | some bounds => exact offline_forwardBounds id type value address bounds

/-! ### Commands -/

/-- The actuator a request asks for. -/
def askedFor (ex : HttpExchange) : Option String :=
  if sameIgnoringCase ex.method "POST" then
    (parseBody (Jdk.decode (readBody ex))).map Prod.fst
  else none

theorem leases_handle (ex : HttpExchange) (s : Selection) (hh : w.openHandles = base) :
    Leases col base (handle ex) w (match askedFor ex with
      | some id => lookUpPlan col w.database (.actuator id) s
      | none => .done s) Anyhow := by
  rw [askedFor, handle]
  cases sameIgnoringCase ex.method "POST" with
  | false => exact .pure hh trivial
  | true =>
    simp only [if_true]
    cases parseBody (Jdk.decode (readBody ex)) with
    | none => exact leases_offline (R := fun _ => True) s hh trivial
    | some command =>
      obtain ⟨id, action⟩ := command
      change Leases col base (handleCommand ex id action) w
        (lookUpPlan col w.database (.actuator id) s) Anyhow
      rw [handleCommand, lookUpActuator, bind_assoc]
      intro t
      rw [wp_bind]
      refine wp_lending_openForHandler (fun w' e hh' he => ?_) fun c q e hurl hc hq _ he => ?_
      · have hlead : (lookUpPlan col w.database (.actuator id) s).Leads (answers [e])
            (.done s) := by
          rw [he]
          exact .refused (.refl _)
        exact (Leases.pure (R := Anyhow) (hh'.trans hh) trivial (t ++ [e])).mono
          (fun _ _ h => h.after hlead) fun _ _ h => h.after hlead
      have hq' : q.openHandles = c.handle :: base := by rw [hq, hc, hh]
      have hdb := World.database_of_url hurl
      simp only [bind_assoc]
      rw [wp_bind, wp_lending_call_executeQuery, World.quietly_servers, ← hdb]
      simp only [bind_assoc]
      rw [wp_bind, wp_lending_firstRow]
      cases hfinds : !(Query.actuator id).finds col w.database with
      | true =>
        rw [head_of_not_finds hfinds]
        have hkeeps : (lookUpPlan col w.database (.actuator id) s).keeps (answers [e]) = true := by
          rw [he, lookUpPlan, hfinds]
          rfl
        refine Loses.follows (w := w.quietly q) (p := _) ?_ hkeeps
        intro t
        simp only [badRequest, wp_bind, wp_lending_appendToOutput, wp_lending_respond, wp_pure]
        exact ⟨[c.handle], by simp, hq'⟩
      | false =>
        obtain ⟨row, hrow⟩ := head_of_finds hfinds
        have hlead : (lookUpPlan col w.database (.actuator id) s).Leads (answers [e])
            (.done s) := by
          rw [he, lookUpPlan, hfinds]
          exact .given (.refl _)
        rw [hrow]
        simp only [bind_assoc]
        have hrest : Leases col base (closeConnection .cp c >>= fun _ => do
            appendToOutput .actuatorCommandReceived
            if ← isSelected .actuatorPauseVwToActuatorCheck then
              badRequest ex .actuatorPaused
            else
              forwardCommand ex row id action : Panel Unit) (w.quietly q) (.done s) Anyhow :=
          .closeConnection hq' fun q₁ hq₁ _ =>
            leases_offline s hq₁ (offline_dispatch ex row id action)
        exact (hrest (t ++ [e])).mono (fun _ _ h => h.after hlead) fun _ _ h => h.after hlead

/-! ### Adding by hand -/

omit [Jdk] in
theorem wp_lending_unignoreNode {t : List (Event calls World)}
    {Q : Unit → World × List (Event calls World) → Prop}
    {E : Exn → World × List (Event calls World) → Prop}
    (hcrash : w.ignoreNodeList = none → E .nullPointer (w, t))
    (h : w.ignoreNodeList.isSome → ∀ l q, q.openHandles = w.openHandles →
      q.nextHandle = w.nextHandle → Q () ((w.listing l w.ignoreSensorList).quietly q, t)) :
    wp (lending col) unignoreNode Q E (w, t) := by
  refine wp_lending_offline offline_unignoreNode ?_
  simp only [unignoreNode, wp_bind, wp_getText, wp_getIgnoreNodeList]
  cases hl : w.ignoreNodeList with
  | none => exact hcrash hl
  | some l =>
    refine (wp_ite _ _ _).mpr ⟨fun _ => ?_, fun _ => ?_⟩
    · simp only [wp_bind, wp_appendToOutput, wp_getText, wp_removeIgnoreNode]
      exact h (by simp [hl]) _ (w.traffic.say .nodeUnignored) rfl rfl
    · exact h (by simp [hl]) w.ignoreNodeList w.traffic rfl rfl

/-- A node typed in. Whenever it is not added the connection of its look-up stays open. -/
def manualNodeAddPlan (col : Collation) (w : World) : Plan Selection :=
  if (w.text .wsnGeneralManualNodeAddId).isEmpty then .done w.selection
  else .ask
    ((Query.node (w.text .wsnGeneralManualNodeAddId)).finds col w.database ||
      !parsesURL (some (w.text .wsnGeneralManualNodeAddAddress)) || w.ignoreNodeList.isNone)
    (nodesPlan col (w.database.apply col (.insertNode (w.text .wsnGeneralManualNodeAddId)
      (some (w.text .wsnGeneralManualNodeAddAddress)))) w.selection)
    (.done w.selection)

theorem leases_manualNodeAdd (hw : w.Issued) (hh : w.openHandles = base) :
    Leases col base manualNodeAdd w (manualNodeAddPlan col w) Anyhow := by
  rw [manualNodeAddPlan]
  refine .getText ?_
  cases hid : (w.text .wsnGeneralManualNodeAddId).isEmpty with
  | true => exact .appendToOutput fun q hq _ => .pure (hq.trans hh) trivial
  | false =>
    simp only [Bool.false_eq_true, if_false]
    refine .ask hh (fun q hq => .pure hq trivial) ?_ ?_
    · rintro hkept c q hurl hc hq hn t
      rw [wp_bind, wp_lending_getText, wp_bind, wp_lending_executeQuery, wp_bind,
        wp_lending_readRows]
      have hleft : ∃ kept, kept ≠ [] ∧ q.openHandles = kept ++ base := ⟨[c.handle], by simp, hq⟩
      refine (wp_ite _ _ _).mpr ⟨fun _ => ?_, fun hnone => ?_⟩
      · simp only [wp_bind, wp_lending_appendToOutput, wp_pure]
        exact hleft
      simp only [wp_bind, wp_lending_getText]
      refine (wp_ite _ _ _).mpr ⟨fun _ => ?_, fun hvalid => ?_⟩
      · simp only [wp_bind, wp_lending_appendToOutput, wp_pure]
        exact hleft
      simp only [wp_bind, wp_lending_appendToOutput]
      refine wp_lending_unignoreNode (fun _ => hleft) fun hlist => ?_
      rw [Query.finds, World.database_of_url hurl] at hkept
      simp_all
    · rintro hgiven c q hurl hc hq hn t
      simp only [Bool.or_eq_false_iff] at hgiven
      obtain ⟨⟨hfinds, hvalid⟩, hlist⟩ := hgiven
      rw [Query.finds, World.database_of_url hurl] at hfinds
      rw [wp_bind, wp_lending_getText, wp_bind, wp_lending_executeQuery, wp_bind,
        wp_lending_readRows]
      refine (wp_ite _ _ _).mpr ⟨fun hsome => by simp_all, fun _ => ?_⟩
      simp only [wp_bind, wp_lending_getText]
      refine (wp_ite _ _ _).mpr ⟨fun hinvalid => by simp_all, fun _ => ?_⟩
      simp only [wp_bind, wp_lending_appendToOutput]
      refine wp_lending_unignoreNode (fun h => by simp_all) fun _ l q' hq' hn' => ?_
      rw [insertTypedNode, wp_bind, wp_lending_createStatement, Bool.not_true,
        if_neg Bool.false_ne_true, wp_bind, wp_lending_getText, wp_bind, wp_lending_getText,
        wp_bind, wp_lending_executeUpdate, Bool.not_true, if_neg Bool.false_ne_true, wp_bind,
        wp_lending_appendToOutput]
      refine Leases.closeConnection (hq'.trans hq) (fun q₂ hq₂ hn₂ => ?_) t
      have hissued : ∀ n ∈ q₂.openHandles, n < q₂.nextHandle :=
        issued_of_le hw hh hq₂ ((Nat.le_succ _).trans_eq (hn₂.trans (hn'.trans hn)).symm)
      refine .bind_offline (R := EndsShowing) hq₂ hissued tidy_updateNodeSelects ?_
        fun _ => ⟨id, fun _ => ⟨id, fun _ => trivial⟩⟩
      rw [← World.update_database hurl col]
      exact leases_updateNodeSelects hissued hq₂

/-! ### Adding a sensor -/

omit [Jdk] in
theorem wp_lending_ignoreSensorListContainsString {t : List (Event calls World)}
    {Q : Unit → World × List (Event calls World) → Prop}
    {E : Exn → World × List (Event calls World) → Prop}
    (hcrash : w.ignoreSensorList = none → E .nullPointer (w, t))
    (h : w.ignoreSensorList.isSome → Q () (w, t)) :
    wp (lending col) ignoreSensorListContainsString Q E (w, t) :=
  wp_lending_offline offline_ignoreSensorListContainsString
    (wp_ignoreSensorListContainsString hcrash fun hl => h (Option.isSome_iff_ne_none.mpr hl))

theorem leases_unignoreSensor (hh : w.openHandles = base) (hl : w.ignoreSensorList.isSome) :
    Leases col base unignoreSensor w (.done w.selection) fun _ s w' =>
      s = w.selection ∧ ∃ l q, w' = (w.listing w.ignoreNodeList l).quietly q := by
  intro t
  refine wp_lending_offline offline_unignoreSensor ?_
  obtain ⟨l, hl⟩ := Option.isSome_iff_exists.mp hl
  simp only [unignoreSensor, ignoreSensorListContains, wp_bind, wp_getSelectedItem, wp_getText,
    wp_getIgnoreSensorList, hl]
  cases hc : containsEntry _ l with
  | error e => exact ⟨[], by simp, .inl ⟨hh, _, .refl _, trivial⟩⟩
  | ok listed =>
    cases listed with
    | false =>
      exact ⟨[], by simp, .inl ⟨hh, _, .refl _, _, rfl, rfl, w.ignoreSensorList, w.traffic, rfl⟩⟩
    | true =>
      obtain ⟨rest, hrest, -⟩ := removeEntry_of_containsEntry hc
      simp only [wp_pure, if_true, wp_bind, wp_getIgnoreSensorList, hl, hrest,
        wp_setIgnoreSensorList, wp_appendToOutput]
      exact ⟨[], by simp, .inl ⟨hh, _, .refl _, _, rfl, rfl, some rest, _, rfl⟩⟩

/-- A type typed in. -/
def manualSensorAddPlan (col : Collation) (w : World) : Plan Selection :=
  if (w.text .wsnSensorsManualSensorAddType).isEmpty then .done w.selection
  else .ask
    ((Query.sensor (spell (w.selection .wsnSensorsNodeComboBox))
      (w.text .wsnSensorsManualSensorAddType)).finds col w.database || w.ignoreSensorList.isNone)
    (refillSensors col (w.database.apply col (.insertSensor
      (spell (w.selection .wsnSensorsNodeComboBox)) (w.text .wsnSensorsManualSensorAddType)))
      (w.selection .wsnSensorsNodeComboBox) w.selection)
    (.done w.selection)

theorem leases_manualSensorAdd (hw : w.Issued) (hh : w.openHandles = base) :
    Leases col base manualSensorAdd w (manualSensorAddPlan col w) Anyhow := by
  rw [manualSensorAddPlan]
  refine .getText ?_
  cases htype : (w.text .wsnSensorsManualSensorAddType).isEmpty with
  | true => exact .appendToOutput fun q hq _ => .pure (hq.trans hh) trivial
  | false =>
    simp only [Bool.false_eq_true, if_false]
    refine .ask hh (fun q hq => .pure hq trivial) ?_ ?_
    · rintro hkept c q hurl - hq - t
      rw [Query.finds, World.database_of_url hurl] at hkept
      have hleft : ∃ kept, kept ≠ [] ∧ q.openHandles = kept ++ base := ⟨[c.handle], by simp, hq⟩
      rw [wp_bind, wp_lending_getSelectedItem, wp_bind, wp_lending_getText, wp_bind,
        wp_lending_executeQuery, wp_bind, wp_lending_readRows]
      refine (wp_ite _ _ _).mpr ⟨fun _ => ?_, fun hnone => ?_⟩
      · simp only [wp_bind, wp_lending_appendToOutput, wp_pure]
        exact hleft
      simp only [wp_bind, wp_lending_appendToOutput]
      refine wp_lending_ignoreSensorListContainsString (fun _ => hleft) fun hlist => ?_
      simp_all [World.selection]
    · rintro hgiven c q hurl - hq hn t
      simp only [Bool.or_eq_false_iff] at hgiven
      obtain ⟨hfinds, hlist⟩ := hgiven
      rw [Query.finds, World.database_of_url hurl] at hfinds
      rw [wp_bind, wp_lending_getSelectedItem, wp_bind, wp_lending_getText, wp_bind,
        wp_lending_executeQuery, wp_bind, wp_lending_readRows]
      refine (wp_ite _ _ _).mpr ⟨fun hsome => by simp_all [World.selection], fun _ => ?_⟩
      simp only [wp_bind, wp_lending_appendToOutput]
      refine wp_lending_ignoreSensorListContainsString (fun h => by simp_all) fun hsome => ?_
      rw [insertTypedSensor, wp_bind, wp_lending_createStatement, Bool.not_true,
        if_neg Bool.false_ne_true, wp_bind, wp_lending_getSelectedItem, wp_bind, wp_lending_getText,
        wp_bind, wp_lending_executeUpdate, Bool.not_true, if_neg Bool.false_ne_true, wp_bind,
        wp_lending_appendToOutput]
      refine Leases.closeConnection hq (fun q₂ hq₂ hn₂ => ?_) t
      have hissued : ∀ n ∈ q₂.openHandles, n < q₂.nextHandle :=
        issued_of_le hw hh hq₂ ((Nat.le_succ _).trans_eq (hn₂.trans hn).symm)
      refine .bind (P := .done w.selection) (Q := refillSensors col _ _) hq₂ hissued
        (tidy_offline offline_unignoreSensor) (fun _ => ?_)
        (leases_unignoreSensor hq₂ hsome) ?_
      · refine (tidy_getSelectedItem _).bind fun id => ?_
        exact (tidy_updateSensorsSelect id).bind fun _ => tidy_setText _ _
      · rintro - _ _ ⟨rfl, l, q₃, rfl⟩ hh₃ hw₃ -
        refine .getSelectedItem (.bind_offline (R := EndsShowing) hh₃ hw₃
          (tidy_updateSensorsSelect _) ?_ fun _ => ⟨id, fun _ => trivial⟩)
        rw [← World.update_database hurl col]
        exact leases_updateSensorsSelect _ hw₃ hh₃

/-! ### Adding an actuator -/

/-- An actuator typed in. -/
def manualActuatorAddPlan (col : Collation) (w : World) : Plan Selection :=
  if (w.text .actuatorManualActuatorAddId).isEmpty ||
      (w.text .actuatorManualActuatorAddAddress).isEmpty ||
      !parsesURL (some (w.text .actuatorManualActuatorAddAddress)) then .done w.selection
  else .ask ((Query.actuator (w.text .actuatorManualActuatorAddId)).finds col w.database)
    (actuatorsPlan col (w.database.apply col (.insertActuator
      (w.text .actuatorManualActuatorAddId) (w.text .actuatorManualActuatorAddAddress)))
        w.selection)
    (.done w.selection)

theorem leases_manualActuatorAdd (hw : w.Issued) (hh : w.openHandles = base) :
    Leases col base manualActuatorAdd w (manualActuatorAddPlan col w) Anyhow := by
  rw [manualActuatorAddPlan]
  refine .getText ?_
  cases hid : (w.text .actuatorManualActuatorAddId).isEmpty with
  | true => exact .appendToOutput fun q hq _ => .pure (hq.trans hh) trivial
  | false =>
  simp only [Bool.false_eq_true, if_false, Bool.false_or]
  refine .getText ?_
  cases haddress : (w.text .actuatorManualActuatorAddAddress).isEmpty with
  | true => exact .appendToOutput fun q hq _ => .pure (hq.trans hh) trivial
  | false =>
  simp only [Bool.false_eq_true, if_false, Bool.false_or]
  refine .getText ?_
  cases hvalid : parsesURL (some (w.text .actuatorManualActuatorAddAddress)) with
  | false => exact .appendToOutput fun q hq _ => .pure (hq.trans hh) trivial
  | true =>
  simp only [Bool.not_true, Bool.false_eq_true, if_false]
  refine .ask hh (fun q hq => .pure hq trivial) ?_ ?_
  · rintro hkept c q hurl - hq - t
    rw [Query.finds, World.database_of_url hurl] at hkept
    rw [wp_bind, wp_lending_getText, wp_bind, wp_lending_executeQuery, wp_bind, wp_lending_readRows]
    refine (wp_ite _ _ _).mpr ⟨fun _ => ?_, fun hnone => by simp_all⟩
    simp only [wp_bind, wp_lending_appendToOutput, wp_pure]
    exact ⟨[c.handle], by simp, hq⟩
  · rintro hfinds c q hurl - hq hn t
    rw [Query.finds, World.database_of_url hurl] at hfinds
    rw [wp_bind, wp_lending_getText, wp_bind, wp_lending_executeQuery, wp_bind, wp_lending_readRows]
    refine (wp_ite _ _ _).mpr ⟨fun hsome => by simp_all, fun _ => ?_⟩
    rw [wp_bind, wp_lending_appendToOutput, insertTypedActuator, wp_bind,
      wp_lending_createStatement, Bool.not_true, if_neg Bool.false_ne_true, wp_bind,
      wp_lending_getText, wp_bind, wp_lending_getText, wp_bind, wp_lending_executeUpdate,
      Bool.not_true, if_neg Bool.false_ne_true, wp_bind, wp_lending_appendToOutput]
    refine Leases.closeConnection hq (fun q₂ hq₂ hn₂ => .setText (.setText ?_)) t
    rw [← World.update_database hurl col]
    refine (leases_updateActuatorsSelects ?_ hq₂).anyhow
    exact issued_of_le hw hh hq₂ ((Nat.le_succ _).trans_eq (hn₂.trans hn).symm)

/-! ### Readings -/

omit [Jdk] in
theorem wp_lending_getIgnoreNodeList {t : List (Event calls World)}
    {Q : Option (List (Option String)) → World × List (Event calls World) → Prop}
    {E : Exn → World × List (Event calls World) → Prop} :
    wp (α := Option (List (Option String))) (lending col) (call .getIgnoreNodeList) Q E (w, t) ↔
      Q w.ignoreNodeList (w, t) :=
  wp_lending_steady (c := .getIgnoreNodeList) (fun _ => rfl) fun h => h

/-- Every row that is collected leaves its id. -/
theorem wp_lending_collectNodes {t : List (Event calls World)} {c : Connection}
    {Q : Option (List String × List String) → World × List (Event calls World) → Prop}
    {E : Exn → World × List (Event calls World) → Prop} (rows : List NodeRow)
    (acc : List String × List String)
    (h : ∀ q addresses, q.openHandles = w.openHandles → q.nextHandle = w.nextHandle →
      Q (some (acc.1 ++ rows.map NodeRow.id, addresses)) (w.quietly q, t)) :
    wp (lending col) (whileNext c collectNode rows acc) Q E (w, t) := by
  induction rows generalizing w acc with
  | nil =>
    rw [whileNext, wp_bind, wp_lending_fetch]
    simpa using h w.traffic acc.2 rfl rfl
  | cons row rows ih =>
    rw [whileNext, wp_bind, wp_lending_fetch, Bool.not_true, if_neg Bool.false_ne_true, wp_bind]
    have hsaid : wp (lending col) (do
        appendToOutput .urlProblem
        return (acc.1 ++ [row.id], acc.2) : Panel (List String × List String))
        (fun acc => wp (lending col) (whileNext c collectNode rows acc) Q E) E (w, t) := by
      rw [wp_bind, wp_lending_appendToOutput]
      exact ih _ fun q addresses hq hn => by simpa using h q addresses hq hn
    cases haddress : row.address with
    | none => simpa [collectNode, haddress] using hsaid
    | some address =>
      cases hparse : parsesURL (some address) with
      | false => simpa [collectNode, haddress, hparse] using hsaid
      | true =>
        simp only [collectNode, haddress, hparse, if_true, wp_pure]
        exact ih _ fun q addresses hq hn => by simpa using h q addresses hq hn

/-- Of the two connections a reading from a registered node starts with, one is never closed. -/
theorem loses_recognisedNode (id type : String) (value : Int32) {c : Connection}
    (addresses : List String) (hw : w.Issued) (hh : w.openHandles = c.handle :: base) :
    Loses col base (recognisedNode id type value c addresses) w := by
  intro t
  rw [recognisedNode, wp_bind, wp_lending_appendToOutput, wp_bind, lookUpTypes, wp_bind]
  refine wp_lending_openStatement (fun q e hq hn he => ?_) fun c₂ q e hurl hc₂ hq hn he => ?_
  · exact ⟨[c.handle], by simp, hq.trans hh⟩
  rw [wp_bind, wp_lending_executeQuery, wp_lending_readRows, wp_bind]
  refine wp_lending_closeConnection fun q₂ hq₂ hn₂ => ?_
  have hkept : q₂.openHandles = c₂.handle :: base := by
    have hopen : q.openHandles = c₂.handle :: c.handle :: base := by
      rw [hq, hc₂]
      exact congrArg (w.nextHandle :: ·) hh
    have hne : c₂.handle ≠ c.handle := by
      rw [hc₂]
      exact (hw c.handle (by rw [hh]; exact List.mem_cons_self)).ne'
    rw [hq₂]
    exact (congrArg (List.erase · c.handle) hopen).trans (by simp [hne])
  have hissued : ∀ n ∈ q₂.openHandles, n < q₂.nextHandle := by
    have hnext : q₂.nextHandle = w.nextHandle + 1 := hn₂.trans hn
    intro n hmem
    rw [hkept] at hmem
    rw [hnext]
    rcases List.mem_cons.mp hmem with rfl | hmem
    · exact hc₂ ▸ Nat.lt_succ_self _
    · exact (hw n (by rw [hh]; exact List.mem_cons_of_mem _ hmem)).trans (Nat.lt_succ_self _)
  exact Tidy.loses (w := w.quietly q₂) (tidy_knownTypes id type value addresses _) hissued
    (List.cons_ne_nil c₂.handle []) hkept _

omit [Jdk] in
/-- An object of its own crashes when it says that closing failed. -/
theorem wp_lending_closeConnection_perRequest {t : List (Event calls World)} {c : Connection}
    {Q : Unit → World × List (Event calls World) → Prop}
    {E : Exn → World × List (Event calls World) → Prop}
    (h : ∀ q, q.openHandles = w.openHandles.erase c.handle → q.nextHandle = w.nextHandle →
      Q () (w.quietly q, t) ∧ E .nullPointer (w.quietly q, t)) :
    wp (lending col) (closeConnection .perRequest c) Q E (w, t) := by
  simp only [closeConnection, wp_bind]
  refine wp_lending_close fun ok => (wp_ite _ _ _).mpr ⟨fun _ => ?_, fun _ => (h _ rfl rfl).1⟩
  rw [appendToOutputOf, wp_bind]
  refine (wp_lending_steady (c := .appendArea .wsnGeneralPanelOutput .closeProblem)
    (fun _ => rfl) fun h => h).mpr ?_
  exact (h (w.traffic.closed c |>.sayOn .wsnGeneralPanelOutput .closeProblem) rfl rfl).2

/-- A node is not auto added when its id is listed, or no list is there. -/
def World.ignoresNode (w : World) (id : String) : Bool :=
  match w.ignoreNodeList with
  | none => true
  | some l => l.contains (some id)

/-- A reading. -/
def sensedPlan (col : Collation) (w : World) (id : String) : Plan Selection :=
  if (Query.node id).finds col w.database then leftPlan w.selection
  else .ask (!w.checked .wsnGeneralAutoAddCheck || w.ignoresNode id)
    (nodesPlan col (w.database.apply col (.insertNode id none)) w.selection) (.done w.selection)

theorem leases_sensed (id type : String) (value : Int32) (hw : w.Issued)
    (hh : w.openHandles = base) :
    Leases col base (sensed id type value) w (sensedPlan col w id) Anyhow := by
  have hplan : sensedPlan col w id = .ask ((Query.node id).finds col w.database ||
      (!w.checked .wsnGeneralAutoAddCheck || w.ignoresNode id))
      (if (Query.node id).finds col w.database then .done w.selection
        else nodesPlan col (w.database.apply col (.insertNode id none)) w.selection)
      (.done w.selection) := by
    rw [sensedPlan]
    cases (Query.node id).finds col w.database <;> rfl
  rw [hplan, sensed, lookUpNode, bind_assoc]
  refine .ask hh (fun q hq => .pure hq trivial) ?_ ?_
  · rintro hkept c q hurl hc hq hn t
    have hissued := issued_of_opened hw hh hc hq hn
    rw [Query.finds, World.database_of_url hurl] at hkept
    simp only [bind_assoc]
    rw [wp_bind, wp_lending_executeQuery]
    simp only [bind_assoc]
    rw [wp_bind]
    refine wp_lending_collectNodes _ _ fun q₂ addresses hq₂ hn₂ => ?_
    refine (wp_ite _ _ _).mpr ⟨fun hempty => ?_, fun hsome => ?_⟩
    · rw [wp_bind, unrecognisedNode, wp_bind, wp_lending_appendToOutput, wp_bind,
        wp_lending_isSelected]
      have hleft : ∃ kept, kept ≠ [] ∧ q₂.openHandles = kept ++ base :=
        ⟨[c.handle], by simp, hq₂.trans hq⟩
      refine (wp_ite _ _ _).mpr ⟨fun hoff => ?_, fun hon => ?_⟩
      · simp only [wp_bind, wp_lending_appendToOutput, wp_pure]
        exact hleft
      rw [wp_bind, wp_lending_getIgnoreNodeList]
      cases hl : w.ignoreNodeList with
      | none =>
        simp only [World.quietly_ignoreNodeList, hl, throwExn, wp_raise]
        exact hleft
      | some l =>
        simp only [World.quietly_ignoreNodeList, hl]
        refine (wp_ite _ _ _).mpr ⟨fun hlisted => ?_, fun hnew => ?_⟩
        · simp only [wp_bind, wp_lending_appendToOutput, wp_pure]
          exact hleft
        · simp_all [World.ignoresNode]
    · refine loses_recognisedNode id type value addresses (w := w.quietly q₂) ?_ (hq₂.trans hq) t
      exact issued_of_le (w := w.quietly q) hissued hq (hq₂.trans hq) hn₂.ge
  · rintro hgiven c q hurl hc hq hn t
    simp only [Bool.or_eq_false_iff] at hgiven
    obtain ⟨hfinds, hon, hlisted⟩ := hgiven
    rw [if_neg (by simp [hfinds])]
    rw [Query.finds, World.database_of_url hurl] at hfinds
    simp only [bind_assoc]
    rw [wp_bind, wp_lending_executeQuery]
    simp only [bind_assoc]
    rw [wp_bind]
    refine wp_lending_collectNodes _ _ fun q₂ addresses hq₂ hn₂ => ?_
    refine (wp_ite _ _ _).mpr ⟨fun _ => ?_, fun hsome => by simp_all⟩
    rw [wp_bind, unrecognisedNode, wp_bind, wp_lending_appendToOutput, wp_bind,
      wp_lending_isSelected]
    refine (wp_ite _ _ _).mpr ⟨fun hoff => by simp_all, fun _ => ?_⟩
    rw [wp_bind, wp_lending_getIgnoreNodeList]
    cases hl : w.ignoreNodeList with
    | none => simp [World.ignoresNode, hl] at hlisted
    | some l =>
      simp only [World.quietly_ignoreNodeList, hl]
      refine (wp_ite _ _ _).mpr ⟨fun hin => by simp_all [World.ignoresNode], fun _ => ?_⟩
      rw [addUnrecognisedNode, wp_bind, wp_lending_appendToOutput, wp_bind,
        wp_lending_createStatement, Bool.not_true, if_neg Bool.false_ne_true, wp_bind,
        wp_lending_executeUpdate, Bool.not_true, if_neg Bool.false_ne_true, wp_bind]
      refine wp_lending_closeConnection_perRequest fun q₃ hq₃ hn₃ => ?_
      have hq₃' : q₃.openHandles = base := by
        rw [hq₃]
        exact (congrArg (List.erase · c.handle) (hq₂.trans hq)).trans (List.erase_cons_head _ _)
      refine ⟨?_, [], by simp, .inl ⟨hq₃', _, .refl _, trivial⟩⟩
      rw [wp_bind, wp_lending_appendToOutput, ← World.update_database hurl col]
      have hissued : ∀ n ∈ q₃.openHandles, n < q₃.nextHandle :=
        issued_of_le hw hh hq₃' ((Nat.le_succ _).trans_eq (hn₃.trans (hn₂.trans hn)).symm)
      have hrest : Leases col base (updateNodeSelects >>= fun _ => pure false : Panel Bool)
          ((w.update col c.url (.insertNode id none)).quietly (q₃.say .nodeAdded)) (nodesPlan col
            (w.update col c.url (.insertNode id none)).database w.selection) Anyhow :=
        .bind_offline (R := EndsShowing) hq₃' hissued tidy_updateNodeSelects
          (leases_updateNodeSelects hissued hq₃') fun _ => trivial
      have := hrest t
      rw [wp_bind] at this
      exact this

end Methods

end CrossingReality
