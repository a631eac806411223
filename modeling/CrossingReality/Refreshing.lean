import CrossingReality.Showing

/-!
# Which actions refresh the fields

Over a session against one database in which no database call fails, every field shows what it
should, or a text that the operator has typed and not saved, as long as each turn keeps off the few
paths that write the field of another item or leave a field behind.

* `Refreshes` — what has to hold of the desk before an action.
* `session_details` — sessions from a start-up that went well.
-/

namespace CrossingReality

open Effects

variable {col : Collation} {d : Database} {s s' : Desk} {f : TextField}

/-- The nodes of the two tabs are one to the database. -/
def Screen.sameNode (col : Collation) (w : Screen) : Prop :=
  ∃ i ∈ w.selected .wsnGeneralNodeComboBox, ∃ j ∈ w.selected .wsnSensorsNodeComboBox,
    col.same j i = true

instance (w : Screen) : Decidable (w.sameNode col) :=
  inferInstanceAs (Decidable (∃ i ∈ _, ∃ j ∈ _, _ = _))

/-- The action writes only to fields about what it is about, and leaves no field behind. -/
def Refreshes [Jdk] (col : Collation) (a : Action) (s : Desk) : Prop :=
  match a with
  -- The address of the node on the general tab goes to the field of the sensors tab.
  | .press .wsnGeneralUpdateNodeAddressButton =>
    parsesURL (some (s.screen.text .wsnGeneralNodeAddressField)) = true →
      s.screen.sameNode col ∨ s.detail col .wsnSensorsNodeAddressField =
        s.screen.text .wsnGeneralNodeAddressField
  | .press .wsnGeneralRefreshNodeAddressButton =>
    s.detail col .wsnSensorsNodeAddressField = s.detail col .wsnGeneralNodeAddressField
  -- Nothing blanks the bounds when the last node goes.
  | .press .wsnGeneralRemoveNodeButton =>
    ¬ (s.checked .wsnGeneralRemoveNodeIgnoreCheck ∧ s.ignoreNodeList = none) →
      (∀ r ∈ s.database.nodes,
        col.same r.id (spell (s.screen.selected .wsnGeneralRemoveNodeComboBox)) = true) →
        s.screen.text .wsnSensorsCalibrationMinField = "" ∧
          s.screen.text .wsnSensorsCalibrationMaxField = ""
  -- With no node selected the bounds are those of the sensors of the node `null`.
  | .press .wsnSensorsManualAddSensorButton =>
    s.newSensor col → (∃ l ∈ s.ignoreSensorList, (removeEntry s.typedSensor l).isOk = true) →
      s.screen.selected .wsnSensorsNodeComboBox = none →
        ∀ type ∈ (s.database.typesOf col "null").head?, s.database.Blank col "null" type
  | .press .wsnSensorsRemoveSensorButton =>
    ¬ (s.checked .wsnSensorsRemoveSensorIgnoreCheck ∧ s.ignoreSensorList = none) →
      s.screen.selected .wsnSensorsNodeComboBox = none →
        ∀ type ∈ ((s.database.apply col (.deleteSensor "null"
          (spell (s.screen.selected .wsnSensorsSensorsComboBox)))).typesOf col "null").head?,
          (s.database.apply col (.deleteSensor "null"
            (spell (s.screen.selected .wsnSensorsSensorsComboBox)))).Blank col "null" type
  | .select .wsnSensorsSensorsComboBox i =>
    i ∈ (s.screen.combo .wsnSensorsSensorsComboBox).items →
      s.screen.selected .wsnSensorsSensorsComboBox ≠ some i →
        s.screen.selected .wsnSensorsNodeComboBox = none → s.database.Blank col "null" i
  -- The program and the database compare what is selected with the reading in their own ways.
  | .reading id type value =>
    s.database.hasNode col id → s.database.hasSensor col id type →
      s.checked .wsnSensorsCalibrateCheck →
        ∀ b ∈ ((Query.bounds id type).run col s.database).head?,
          calibration id type value b ≠ [] →
            (s.screen.selectedSensorIs id type = true ↔ s.screen.selectsPair col id type)
  | _ => True

instance [Jdk] (col : Collation) (a : Action) (s : Desk) : Decidable (Refreshes col a s) :=
  match a with
  | .press .wsnGeneralUpdateNodeAddressButton =>
    inferInstanceAs (Decidable (_ = _ → _ ∨ _ = _))
  | .press .wsnGeneralRefreshNodeAddressButton => inferInstanceAs (Decidable (_ = _))
  | .press .wsnGeneralRemoveNodeButton =>
    inferInstanceAs (Decidable (¬ (_ ∧ _) → (∀ r ∈ _, _ = _) → _ = _ ∧ _ = _))
  | .press .wsnSensorsManualAddSensorButton =>
    inferInstanceAs (Decidable (_ → (∃ l ∈ _, _ = _) → _ = _ → ∀ type ∈ _, _))
  | .press .wsnSensorsRemoveSensorButton =>
    inferInstanceAs (Decidable (¬ (_ ∧ _) → _ = _ → ∀ type ∈ _, _))
  | .select .wsnSensorsSensorsComboBox _ =>
    inferInstanceAs (Decidable (_ ∈ _ → _ ≠ _ → _ = _ → _))
  | .reading .. => inferInstanceAs (Decidable (_ → _ → _ → ∀ b ∈ _, _ ≠ _ → (_ ↔ _)))
  | .press .wsnGeneralUpdateMysqlAddressButton | .press .wsnGeneralSaveMysqlDetailsButton
  | .press .wsnGeneralManualNodeAddButton | .press .wsnSensorsCalibrateResetButton
  | .press .actuatorManualActuatorAddButton | .press .actuatorUpdateActuatorAddressButton
  | .press .actuatorRefreshActuatorAddressButton
  | .press .actuatorRemoveActuatorButton => .isTrue trivial
  | .select .wsnGeneralNodeComboBox _ | .select .wsnGeneralRemoveNodeComboBox _
  | .select .wsnSensorsNodeComboBox _ | .select .actuatorActuatorComboBox _
  | .select .actuatorRemoveActuatorComboBox _ => .isTrue trivial
  | .tick .. | .typeText .. => .isTrue trivial

/-! ## Readings -/

section Readings

theorem renewed_addNode (hcol : ∀ s, col.same s s = true) (hshown : Shown s s')
    (hactuators : s'.database.actuators = s.database.actuators) (id : String)
    (address : Option String) : Renewed col s (s'.addNode col id address) := by
  refine renewed_updateNodeSelects hcol (by exact hshown) ?_ ?_
  · rw [Desk.update_database]
    exact hactuators
  · rw [Desk.update_database]
    exact fun hnil => absurd hnil (List.append_ne_nil_of_right_ne_nil _ (List.cons_ne_nil _ _))

theorem renewed_addSensor (hshown : Shown s s') (hdatabase : s'.database = s.database)
    {id type : String} (hnull : s.screen.selected .wsnSensorsNodeComboBox = none →
      ∀ t ∈ ((s.database.apply col (.insertSensor id type)).typesOf col "null").head?,
        (s.database.apply col (.insertSensor id type)).Blank col "null" t) :
    Renewed col s (s'.addSensor col id type) := by
  have hafter : (s'.update col (.insertSensor id type)).database =
      s.database.apply col (.insertSensor id type) := by
    rw [Desk.update_database, hdatabase]
  have hselected : s'.screen.selected .wsnSensorsNodeComboBox =
      s.screen.selected .wsnSensorsNodeComboBox := hshown.selected _
  change Renewed col s ((s'.update col (.insertSensor id type)).draw fun d =>
    Screen.updateSensorsSelect col d (s'.screen.selected .wsnSensorsNodeComboBox))
  refine renewed_updateSensorsSelect (by exact hshown) ?_ ?_ hselected ?_
  · rw [hafter]
    rfl
  · rw [hafter]
    rfl
  · rw [hafter, hselected]
    exact hnull

theorem renewed_unrecognisedNode (hcol : ∀ s, col.same s s = true) {id : String} :
    Renewed col s (s.unrecognisedNode col id).2 := by
  unfold Desk.unrecognisedNode
  split
  · split
    · exact .refl s
    · split
      · exact .refl s
      · exact renewed_addNode hcol (.refl _) rfl _ _
  · exact .refl s

variable [Jdk] {id type : String} {value : Int32}

theorem renewed_unrecognisedSensor
    (hnode : s.screen.selected .wsnSensorsNodeComboBox ≠ none) :
    Renewed col s (s.unrecognisedSensor col id type).2 := by
  unfold Desk.unrecognisedSensor
  split
  · split
    · exact .refl s
    · split
      · exact .refl s
      · exact .refl s
      · exact renewed_addSensor (.refl _) rfl fun h => absurd h hnode
  · exact .refl s

theorem renewed_sensed (hcol : Equivalence fun s t => col.same s t = true)
    (h : Mirrored col (· ≠ .wsnSensorsSensorsComboBox) s)
    (hr : Refreshes col (.reading id type value) s) :
    Renewed col s (s.sensed col id type value).2 := by
  unfold Desk.sensed
  split
  · rename_i hnode
    split
    · rename_i hsensor
      exact renewed_calibrateIfTicked hcol (hr hnode hsensor)
    · exact renewed_unrecognisedSensor (h.selected_of_hasNode (fun _ h => h) hnode)
  · exact renewed_unrecognisedNode hcol.refl

end Readings

/-! ## Addresses -/

/-- Rows that match keep matching when their addresses are set. -/
theorem head_filter_map {ρ β : Type} {p : ρ → Bool} {g : ρ → ρ} {column : ρ → β} {x : β}
    (hp : ∀ r, p (g r) = p r) (hg : ∀ r, p r = true → column (g r) = x) (l : List ρ) :
    ((l.map g).filter p).head?.map column = (l.filter p).head?.map fun _ => x := by
  induction l with
  | nil => rfl
  | cons r l ih =>
    by_cases hr : p r = true
    · rw [List.map_cons, List.filter_cons_of_pos ((hp r).trans hr), List.filter_cons_of_pos hr]
      exact congrArg some (hg r hr)
    · rw [List.map_cons, List.filter_cons_of_neg (by rwa [hp r]), List.filter_cons_of_neg hr]
      exact ih

/-- The address shown for a node is the one that has just been set for it. -/
theorem addressText_setNodeAddress_of_same (hcol : Equivalence fun s t => col.same s t = true)
    {i id : String} (hi : i ∈ d.nodeIds) (hid : col.same i id = true) (address : String) :
    Screen.addressText ((d.apply col (.setNodeAddress address id)).nodeAddress col) (some i) =
      address := by
  obtain ⟨a, ha⟩ := Database.nodeAddress_of_mem hcol.refl hi
  have hset : (d.apply col (.setNodeAddress address id)).nodeAddress col i =
      (d.nodeAddress col i).map fun _ => some address := by
    rw [Database.nodeAddress, Database.nodeAddress, Option.map_map]
    refine head_filter_map (fun r => ?_) (fun r hr => ?_) d.nodes
    · split <;> rfl
    · rw [if_pos (hcol.trans hr hid)]
  rw [Screen.addressText, Option.bind_some, hset, ha]
  rfl

/-- The addresses of other nodes stay. -/
theorem addressText_setNodeAddress_of_ne (hcol : Equivalence fun s t => col.same s t = true)
    {o : Option String} {id : String} (hid : ∀ i ∈ o, ¬ col.same i id = true) (address : String) :
    Screen.addressText ((d.apply col (.setNodeAddress address id)).nodeAddress col) o =
      Screen.addressText (d.nodeAddress col) o := by
  cases o with
  | none => rfl
  | some i =>
    have hkey : ((fun r : NodeRow => col.same r.id i) ∘ fun r =>
        if col.same r.id id then { r with address := some address } else r) =
        fun r => col.same r.id i := by
      funext r
      simp only [Function.comp]
      split <;> rfl
    have hkept : (d.apply col (.setNodeAddress address id)).nodeAddress col i =
        d.nodeAddress col i := by
      simp only [Database.nodeAddress, Query.run, Database.apply, List.filter_map, hkey]
      congr 2
      refine (List.map_congr_left fun r hr => ?_).trans (List.map_id _)
      rw [if_neg fun h => hid i rfl (hcol.trans (hcol.symm (List.mem_filter.mp hr).2) h)]
      rfl
    rw [Screen.addressText, Option.bind_some, hkept, Screen.addressText, Option.bind_some]

theorem addressText_setActuatorAddress (hcol : ∀ s, col.same s s = true) {id : String}
    (hi : id ∈ d.actuatorIds) (address : String) :
    Screen.addressText ((d.apply col (.setActuatorAddress address id)).actuatorAddress col)
      (some id) = address := by
  obtain ⟨a, ha⟩ := Database.actuatorAddress_of_mem hcol hi
  have hset : (d.apply col (.setActuatorAddress address id)).actuatorAddress col id =
      (d.actuatorAddress col id).map fun _ => some address := by
    rw [Database.actuatorAddress, Database.actuatorAddress, Option.map_map]
    refine head_filter_map (fun r => ?_) (fun r hr => ?_) d.actuators
    · split <;> rfl
    · rw [if_pos hr]
  rw [Screen.addressText, Option.bind_some, hset, ha]
  rfl

/-! ## Buttons -/

/-- A selected item of a box in order has its row in the tables. -/
theorem Mirrored.selected_cases {b : ComboBox} {B : ComboBox → Prop} (h : Mirrored col B s)
    (hb : B b) : s.screen.selected b = none ∧ s.screen.contents col s.database b = [] ∨
      ∃ i, s.screen.selected b = some i ∧ i ∈ s.screen.contents col s.database b := by
  cases hselected : s.screen.selected b with
  | none =>
    refine .inl ⟨rfl, ?_⟩
    by_contra hne
    exact (h b hb).selected hne hselected
  | some i => exact .inr ⟨i, rfl, (h b hb).mem i hselected⟩

/-- What the sensors tab should show of the tables that a typed address has been saved to. -/
theorem addressText_saved (hcol : Equivalence fun s t => col.same s t = true)
    (h : Mirrored col (· ≠ .wsnSensorsSensorsComboBox) s) {typed : String}
    (hshows : s.screen.sameNode col ∨ s.detail col .wsnSensorsNodeAddressField = typed) :
    Screen.addressText ((s.database.apply col (.setNodeAddress typed
      (spell (s.screen.selected .wsnGeneralNodeComboBox)))).nodeAddress col)
        (s.screen.selected .wsnSensorsNodeComboBox) = typed := by
  by_cases hsame : ∃ j ∈ s.screen.selected .wsnSensorsNodeComboBox,
      col.same j (spell (s.screen.selected .wsnGeneralNodeComboBox)) = true
  · obtain ⟨j, hj, hid⟩ := hsame
    rw [Option.mem_def.mp hj]
    exact addressText_setNodeAddress_of_same hcol ((h _ (by simp)).mem j hj) hid typed
  · rw [addressText_setNodeAddress_of_ne hcol fun j hj hid => hsame ⟨j, hj, hid⟩]
    rcases hshows with ⟨i, hi, j, hj, hij⟩ | hshown
    · refine absurd ⟨j, hj, ?_⟩ hsame
      rwa [Option.mem_def.mp hi, spell_some]
    · exact hshown

section Buttons

variable [Jdk]

theorem renewed_updateNodeAddress (hcol : Equivalence fun s t => col.same s t = true)
    (h : Mirrored col (· ≠ .wsnSensorsSensorsComboBox) s)
    (hr : Refreshes col (.press .wsnGeneralUpdateNodeAddressButton) s) :
    Renewed col s (s.updateNodeAddress col).2 := by
  unfold Desk.updateNodeAddress
  dsimp only
  split
  · rename_i hparses
    have hshows := hr hparses
    generalize htyped : s.screen.text .wsnGeneralNodeAddressField = typed at hshows ⊢
    have hsaved := addressText_saved hcol h hshows
    generalize hid : spell (s.screen.selected .wsnGeneralNodeComboBox) = id at hsaved ⊢
    have hdatabase : ((s.update col (.setNodeAddress typed id)).setText .wsnSensorsNodeAddressField
        typed).database = s.database.apply col (.setNodeAddress typed id) := by
      rw [Desk.setText_database, Desk.update_database]
    have hwithin : Screen.Within (· = .wsnSensorsNodeAddressField) (fun _ => False) s.screen
        ((s.update col (.setNodeAddress typed id)).setText .wsnSensorsNodeAddressField
          typed).screen := .setText _ (by rfl) _
    intro f hf
    by_cases hgeneral : f = .wsnGeneralNodeAddressField
    · subst hgeneral
      have htext := (hwithin.text .wsnGeneralNodeAddressField (by simp)).trans htyped
      rw [Desk.done, Renews, Desk.detail, hdatabase, Desk.setText_screen, Screen.detail,
        Screen.setText_selected, Desk.update_screen, Desk.detail, Screen.detail]
      rcases h.selected_cases (b := .wsnGeneralNodeComboBox) (by simp) with
        ⟨hnone, -⟩ | ⟨i, hi, hmem⟩
      · rw [hnone]
        exact .inr ⟨htext.trans htyped.symm, rfl⟩
      · rw [hi, spell_some] at hid
        rw [hi]
        exact .inl (htext.trans
          (addressText_setNodeAddress_of_same hcol hmem (hid ▸ hcol.refl i) typed).symm)
    · by_cases hsensors : f = .wsnSensorsNodeAddressField
      · subst hsensors
        refine .inl ?_
        rw [Desk.done, Desk.detail, hdatabase, Desk.setText_screen, Screen.setText_text_self,
          Screen.detail, Screen.setText_selected, Desk.update_screen, hsaved]
      · refine .of_within hf hwithin hsensors (fun _ _ h => h) ?_ ?_ ?_
        · exact fun h => absurd h (by simp [hgeneral, hsensors])
        · exact fun _ _ _ => by rw [Desk.done, hdatabase]; rfl
        · exact fun _ => by rw [Desk.done, hdatabase]; rfl
  · exact .refl s

theorem renewed_updateActuatorAddress (hcol : ∀ s, col.same s s = true)
    (h : Mirrored col (· ≠ .wsnSensorsSensorsComboBox) s) :
    Renewed col s (s.updateActuatorAddress col).2 := by
  unfold Desk.updateActuatorAddress
  dsimp only
  split
  · generalize htyped : s.screen.text .actuatorAddressField = typed
    generalize hid : spell (s.screen.selected .actuatorActuatorComboBox) = id
    have hdatabase : ((s.update col (.setActuatorAddress typed id)).setText .actuatorAddressField
        typed).database = s.database.apply col (.setActuatorAddress typed id) := by
      rw [Desk.setText_database, Desk.update_database]
    intro f hf
    by_cases hactuator : f = .actuatorAddressField
    · subst hactuator
      rw [Desk.done, Renews, Desk.detail, hdatabase, Desk.setText_screen, Screen.setText_text_self,
        Screen.detail, Screen.setText_selected, Desk.update_screen, Desk.detail, Screen.detail]
      rcases h.selected_cases (b := .actuatorActuatorComboBox) (by simp) with
        ⟨hnone, -⟩ | ⟨i, hi, hmem⟩
      · rw [hnone]
        exact .inr ⟨htyped.symm, rfl⟩
      · rw [hi, spell_some] at hid
        rw [hi, ← hid]
        exact .inl (addressText_setActuatorAddress hcol hmem typed).symm
    · have hwithin : Screen.Within (· = .actuatorAddressField) (fun _ => False) s.screen
          ((s.update col (.setActuatorAddress typed id)).setText .actuatorAddressField
            typed).screen := .setText _ (by rfl) _
      refine .of_within hf hwithin hactuator (fun _ _ h => h) ?_ ?_ fun h => absurd h hactuator
      · exact fun _ => by rw [Desk.done, hdatabase]; rfl
      · exact fun _ _ _ => by rw [Desk.done, hdatabase]; rfl
  · exact .refl s

omit [Jdk] in
/-- The bounds that are reset are those of the sensor that is selected. -/
theorem renewed_calibrateReset (hcol : Equivalence fun s t => col.same s t = true) :
    Renewed col s (s.calibrateReset col).2 := by
  have hwithin : Screen.Within Screen.bound (fun _ => False) s.screen
      (s.calibrateReset col).2.screen :=
    (Screen.Within.setText _ (.inr rfl) _).trans (Screen.Within.setText _ (.inl rfl) _)
  have hdatabase : (s.calibrateReset col).2.database = s.database.mapBounds col
      (spell (s.screen.selected .wsnSensorsNodeComboBox))
        (spell (s.screen.selected .wsnSensorsSensorsComboBox)) fun _ => ⟨none, none⟩ := by
    rw [Desk.calibrateReset, Desk.done, Desk.setText_database, Desk.setText_database,
      Desk.update_database, Database.apply_resetBounds]
  intro f hf
  by_cases hbound : Screen.bound f
  · refine .inl ?_
    have htext : (s.calibrateReset col).2.screen.text f = "" := by
      rcases hbound with rfl | rfl
      · exact Screen.setText_text_self _ _ _
      · exact (Screen.setText_text_of_ne _ _ (by simp)).trans (Screen.setText_text_self _ _ _)
    rw [htext, Desk.detail, Screen.detail_bound hbound, hdatabase]
    change _ = Database.boundOf _ _ _ (s.screen.selected _) (s.screen.selected _)
    cases hi : s.screen.selected .wsnSensorsNodeComboBox with
    | none => rfl
    | some i =>
      cases hj : s.screen.selected .wsnSensorsSensorsComboBox with
      | none => rfl
      | some j =>
        rw [← hi, ← hj, boundOf_mapBounds_of_selectsPair hcol ⟨i, hi, j, hj, by
          simp [hi, hj, hcol.refl]⟩]
        cases ((Query.bounds (spell (s.screen.selected .wsnSensorsNodeComboBox)) (spell
          (s.screen.selected .wsnSensorsSensorsComboBox))).run col s.database).head? with
        | none => rfl
        | some b => simp [Screen.columnOf_null]
  · refine .of_within hf hwithin hbound (fun _ _ h => h) ?_ (fun h => absurd h hbound) ?_
    · exact fun _ => by rw [hdatabase]; rfl
    · exact fun _ => by rw [hdatabase]; rfl

omit [Jdk] in
theorem renewed_refreshNodeAddress (hcol : ∀ s, col.same s s = true)
    (h : Mirrored col (· ≠ .wsnSensorsSensorsComboBox) s)
    (hr : s.detail col .wsnSensorsNodeAddressField = s.detail col .wsnGeneralNodeAddressField) :
    Renewed col s (s.draw (Screen.refreshNodeAddress col)) := by
  rcases h.selected_cases (b := .wsnGeneralNodeComboBox) (by simp) with
    ⟨hnone, hnil⟩ | ⟨i, hi, hmem⟩
  · -- There is no node, so there is no row to show.
    have hrow : s.database.nodeAddress col (spell none) = none := by
      rw [Database.nodeAddress, Query.run, List.map_eq_nil_iff.mp hnil]
      rfl
    have hsame : s.draw (Screen.refreshNodeAddress col) = s := by
      rw [Desk.draw, Screen.refreshNodeAddress, hnone, hrow]
      rfl
    rw [hsame]
    exact .refl s
  · obtain ⟨a, ha⟩ := Database.nodeAddress_of_mem hcol hmem
    have hdraw : (s.draw (Screen.refreshNodeAddress col)).screen =
        (s.screen.setText .wsnGeneralNodeAddressField (a.getD "")).setText
          .wsnSensorsNodeAddressField (a.getD "") := by
      rw [Desk.draw_screen, Screen.refreshNodeAddress, hi, spell_some, ha]
      rfl
    have hgeneral : s.detail col .wsnGeneralNodeAddressField = a.getD "" := by
      rw [Desk.detail, Screen.detail, hi, Screen.addressText, Option.bind_some, ha]
      rfl
    have hwithin : Screen.Within (fun f => f = .wsnGeneralNodeAddressField ∨
        f = .wsnSensorsNodeAddressField) (fun _ => False) s.screen
        (s.draw (Screen.refreshNodeAddress col)).screen := by
      rw [hdraw]
      exact (Screen.Within.setText _ (.inl rfl) _).trans (Screen.Within.setText _ (.inr rfl) _)
    have hkept : ∀ f, (s.draw (Screen.refreshNodeAddress col)).detail col f = s.detail col f := by
      intro f
      rw [Desk.detail, hdraw]
      rfl
    intro f hf
    by_cases hwritten : f = .wsnGeneralNodeAddressField ∨ f = .wsnSensorsNodeAddressField
    · refine .inl ?_
      rw [hkept, hdraw]
      rcases hwritten with rfl | rfl
      · rw [hgeneral, Screen.setText_text_of_ne _ _ (by simp), Screen.setText_text_self]
      · rw [hr, hgeneral, Screen.setText_text_self]
    · exact .inr ⟨hwithin.text f hwritten, hkept f⟩

omit [Jdk] in
theorem renewed_refreshActuatorAddress (hcol : ∀ s, col.same s s = true)
    (h : Mirrored col (· ≠ .wsnSensorsSensorsComboBox) s) :
    Renewed col s (s.draw (Screen.actuatorActuatorChanged col)) := by
  intro f hf
  have hwithin : Screen.Within (· = .actuatorAddressField) (fun _ => False) s.screen
      (s.draw (Screen.actuatorActuatorChanged col)).screen := .showAddress _ (by rfl) _
  by_cases hactuator : f = .actuatorAddressField
  · subst hactuator
    rcases h.selected_cases (b := .actuatorActuatorComboBox) (by simp) with
      ⟨hnone, hnil⟩ | ⟨i, hi, hmem⟩
    · have hrow : s.database.actuatorAddress col (spell none) = none := by
        rw [Database.actuatorAddress, Query.run, List.map_eq_nil_iff.mp hnil]
        rfl
      have hsame : s.draw (Screen.actuatorActuatorChanged col) = s := by
        rw [Desk.draw, Screen.actuatorActuatorChanged, hnone, hrow]
        rfl
      rw [hsame]
      exact .inr ⟨rfl, rfl⟩
    · exact .inl (Screen.itemStateChanged_right (b := .actuatorActuatorComboBox) hcol hi
        (fun hb => hb.elim) (fun _ => hmem) (fun hb => absurd hb (by simp)) rfl)
  · exact .of_within hf hwithin hactuator (fun _ _ h => h) (fun _ => rfl) (fun _ _ _ => rfl)
      fun _ => rfl

theorem renewed_manualNodeAdd (hcol : ∀ s, col.same s s = true) :
    Renewed col s (s.manualNodeAdd col).2 := by
  unfold Desk.manualNodeAdd
  split
  · split
    · exact .refl s
    · exact ((renewed_addNode hcol (.refl _) rfl _ _).setText (by simp [TextField.shows])
        _).setText (by simp [TextField.shows]) _
  · exact .refl s

theorem renewed_manualSensorAdd (hcol : ∀ s, col.same s s = true)
    (hr : Refreshes col (.press .wsnSensorsManualAddSensorButton) s) :
    Renewed col s (s.manualSensorAdd col).2 := by
  unfold Desk.manualSensorAdd
  split
  · rename_i hnew
    split
    · exact .refl s
    · rename_i l hl
      split
      · refine .of_tables rfl ?_ (fun f i t => ?_) ?_
        · rw [Desk.throws, Desk.update_database]
          rfl
        · rw [Desk.throws, Desk.update_database,
            Database.boundText_insertSensor (Screen.columnOf_null f)]
        · rw [Desk.throws, Desk.update_database]
          rfl
      · rename_i rest hrest
        refine (renewed_addSensor (s := s) (.refl _) rfl fun hnone t ht => ?_).setText
          (by simp [TextField.shows]) _
        have hblank : ∀ t, s.database.Blank col "null" t →
            (s.database.apply col (.insertSensor (spell (s.screen.selected
              .wsnSensorsNodeComboBox)) (s.screen.text .wsnSensorsManualSensorAddType))).Blank
                col "null" t := fun t h =>
          ⟨(Database.boundText_insertSensor rfl _ _ _ _).trans h.1,
            (Database.boundText_insertSensor rfl _ _ _ _).trans h.2⟩
        refine hblank t ?_
        have hlisted := hr hnew ⟨l, hl, by rw [hrest]; rfl⟩ hnone
        rw [hnone, spell_none, typesOf_insertSensor hcol] at ht
        cases htypes : s.database.typesOf col "null" with
        | nil =>
          exact ⟨Database.boundText_of_typesOf htypes _ _, Database.boundText_of_typesOf htypes _ _⟩
        | cons type types =>
          rw [htypes] at hlisted ht
          exact hlisted t ht
  · exact .refl s

theorem renewed_manualActuatorAdd : Renewed col s (s.manualActuatorAdd col).2 := by
  unfold Desk.manualActuatorAdd
  split
  · have hshown : Shown s (((s.update col (.insertActuator
        (s.screen.text .actuatorManualActuatorAddId)
          (s.screen.text .actuatorManualActuatorAddAddress))).setText
            .actuatorManualActuatorAddAddress "").setText .actuatorManualActuatorAddId "") :=
      (Screen.Within.setText _ (by simp [TextField.shows]) _).trans
        (Screen.Within.setText _ (by simp [TextField.shows]) _)
    refine renewed_updateActuatorsSelects hshown ?_ ?_
    · rw [Desk.setText_database, Desk.setText_database, Desk.update_database]
      rfl
    · rw [Desk.setText_database, Desk.setText_database, Desk.update_database]
      rfl
  · exact .refl s

theorem renewed_removeNode (hcol : ∀ s, col.same s s = true)
    (hr : Refreshes col (.press .wsnGeneralRemoveNodeButton) s) :
    Renewed col s (s.removeNode col (s.screen.selected .wsnGeneralRemoveNodeComboBox)).2 := by
  unfold Desk.removeNode
  split
  · exact .refl s
  · rename_i hgoes
    refine renewed_updateNodeSelects hcol (.refl _) ?_ fun hnil _ f hf => ?_
    · rw [Desk.setSelected_database, Desk.update_database, Desk.update_database]
      rfl
    · rw [Desk.setSelected_database, Desk.update_database, Desk.update_database] at hnil
      have hall := hr hgoes fun r hr => by simpa using List.filter_eq_nil_iff.mp hnil r hr
      rcases hf with rfl | rfl
      · exact hall.1
      · exact hall.2

theorem renewed_removeSensor (hr : Refreshes col (.press .wsnSensorsRemoveSensorButton) s) :
    Renewed col s (s.removeSensor col (s.screen.selected .wsnSensorsNodeComboBox)
      (s.screen.selected .wsnSensorsSensorsComboBox)).2 := by
  unfold Desk.removeSensor
  split
  · exact .refl s
  · rename_i hgoes
    refine renewed_updateSensorsSelect (.refl _) ?_ ?_ rfl fun hnone => ?_
    · rw [Desk.setSelected_database, Desk.update_database]
      rfl
    · rw [Desk.setSelected_database, Desk.update_database]
      rfl
    · rw [Desk.setSelected_database, Desk.update_database, hnone]
      exact hr hgoes hnone

omit [Jdk] in
theorem renewed_removeActuator (id : Option String) :
    Renewed col s (s.removeActuator col id).2 := by
  refine renewed_updateActuatorsSelects (.refl _) ?_ ?_
  · rw [Desk.update_database]
    rfl
  · rw [Desk.update_database]
    rfl

/-- **Step.** An action that types nothing renews the fields. -/
theorem renewed_act (hcol : Equivalence fun s t => col.same s t = true)
    (h : Mirrored col (· ≠ .wsnSensorsSensorsComboBox) s) {a : Action}
    (hurl : (s.act col a).2.url = s.url) (hr : Refreshes col a s)
    (htypes : ∀ f v, a ≠ .typeText f v) : Renewed col s (s.act col a).2 := by
  cases a with
  | reading id type value => exact renewed_sensed hcol h hr
  | tick b v => exact .of_tables rfl rfl (fun _ _ _ => rfl) rfl
  | typeText f v => exact absurd rfl (htypes f v)
  | select b i =>
    refine renewed_selectItem hcol.refl h fun hb => ?_
    subst hb
    exact hr
  | press b =>
    cases b with
    | wsnGeneralUpdateNodeAddressButton => exact renewed_updateNodeAddress hcol h hr
    | wsnGeneralUpdateMysqlAddressButton =>
      have hdatabase : s.takeMysqlFields.database = s.database := congrArg s.servers hurl
      refine renewed_updateNodeSelects hcol.refl (.refl _) (by rw [hdatabase]) fun hnil hnode => ?_
      rw [hdatabase] at hnil
      rcases h.selected_cases (b := .wsnSensorsNodeComboBox) (by simp) with
        ⟨hnone, -⟩ | ⟨i, -, hmem⟩
      · exact absurd hnone hnode
      · have hlisted : i ∈ s.database.nodeIds := hmem
        rw [Database.nodeIds, hnil] at hlisted
        cases hlisted
    | wsnGeneralSaveMysqlDetailsButton =>
      have hdatabase : s.takeMysqlFields.database = s.database := congrArg s.servers hurl
      exact .of_tables rfl (congrArg Database.nodes hdatabase) (fun _ _ _ => by
        rw [Desk.act, Desk.actionPerformed, Desk.done, hdatabase])
        (congrArg Database.actuators hdatabase)
    | wsnGeneralManualNodeAddButton => exact renewed_manualNodeAdd hcol.refl
    | wsnGeneralRemoveNodeButton => exact renewed_removeNode hcol.refl hr
    | wsnSensorsManualAddSensorButton => exact renewed_manualSensorAdd hcol.refl hr
    | wsnSensorsRemoveSensorButton => exact renewed_removeSensor hr
    | wsnSensorsCalibrateResetButton => exact renewed_calibrateReset hcol
    | wsnGeneralRefreshNodeAddressButton => exact renewed_refreshNodeAddress hcol.refl h hr
    | actuatorManualActuatorAddButton => exact renewed_manualActuatorAdd
    | actuatorUpdateActuatorAddressButton => exact renewed_updateActuatorAddress hcol.refl h
    | actuatorRefreshActuatorAddressButton => exact renewed_refreshActuatorAddress hcol.refl h
    | actuatorRemoveActuatorButton => exact renewed_removeActuator _

/-- Typing renews all fields but the one that is typed into. -/
theorem renews_typeText (col : Collation) (s : Desk) (g : TextField) (v : String) (hf : f.shows) :
    Renews col s (s.act col (.typeText g v)).2 f ∨
      f.readOnly = false ∧ g = f ∧ (s.act col (.typeText g v)).2.screen.text f = v := by
  cases hg : g.readOnly with
  | true =>
    refine .inl ?_
    rw [Desk.act, Desk.done, Desk.draw, Screen.typeInto, if_pos hg]
    exact .inr ⟨rfl, rfl⟩
  | false =>
    have hscreen : (s.act col (.typeText g v)).2.screen = s.screen.setText g v := by
      rw [Desk.act, Desk.done, Desk.draw_screen, Screen.typeInto, if_neg (by simp [hg])]
    by_cases hgf : g = f
    · subst hgf
      exact .inr ⟨hg, rfl, by rw [hscreen, Screen.setText_text_self]⟩
    · have hwithin : Screen.Within (· = g) (fun _ => False) s.screen
          (s.act col (.typeText g v)).2.screen := by
        rw [hscreen]
        exact .setText _ (by rfl) _
      exact .inl (.of_within hf hwithin (Ne.symm hgf) (fun _ _ h => h) (fun _ => rfl)
        (fun _ _ _ => rfl) fun _ => rfl)

end Buttons

/-! ## Sessions -/

/-- What a field of the window should show. -/
def World.detail (col : Collation) (w : World) (f : TextField) : String :=
  w.screen.detail col w.database f

theorem deskAt_detail {w : World} {url : String} (hurl : w.mysql .mysqlAddress = some url)
    (f : TextField) : (w.deskAt url).detail col f = w.detail col f := by
  rw [Desk.detail, deskAt_database hurl]
  rfl

/-- The field holds a text that was typed and, as long as it has been there, was not what the field
should show. -/
def Unsaved (col : Collation) (f : TextField) (ts : List PanelTurn) : Prop :=
  ∃ ts₁ t ts₂ v x, ts = ts₁ ++ t :: ts₂ ∧ f.readOnly = false ∧ t.action = .typeText f v ∧ v ≠ x ∧
    ∀ u ∈ t :: ts₂, u.after.text f = v ∧ u.after.detail col f = x

/-- The fields show what they should, but for texts that were typed and not saved. -/
def Details (col : Collation) (ts : List PanelTurn) (w : World) : Prop :=
  ∀ f, f.shows → w.text f = w.detail col f ∨ Unsaved col f ts

section Sessions

variable [Jdk] {url : String} {w : World} {ts : List PanelTurn}

/-- The action of the turn refreshes the fields. -/
def RefreshesAll (col : Collation) (t : PanelTurn) : Prop :=
  ∀ s ∈ t.before.desk, Refreshes col t.action s

instance (t : PanelTurn) : Decidable (RefreshesAll col t) :=
  inferInstanceAs (Decidable (∀ s ∈ t.before.desk, _))

omit [Jdk] in
/-- A text stays unsaved while the field shows it and should show what it should have. -/
theorem Unsaved.snoc {t : PanelTurn} (h : Unsaved col f ts)
    (hlast : ∀ u ∈ ts.getLast?, u.after = t.before) (htext : t.after.text f = t.before.text f)
    (hdetail : t.after.detail col f = t.before.detail col f) : Unsaved col f (ts ++ [t]) := by
  obtain ⟨ts₁, t', ts₂, v, x, rfl, hf, htyped, hne, hkept⟩ := h
  refine ⟨ts₁, t', ts₂ ++ [t], v, x, by simp, hf, htyped, hne, fun u hu => ?_⟩
  rw [← List.cons_append] at hu
  rcases List.mem_append.mp hu with hu | hu
  · exact hkept u hu
  · obtain rfl := List.mem_singleton.mp hu
    have hbefore : ((t' :: ts₂).getLast (List.cons_ne_nil _ _)).after = u.before := by
      refine hlast _ ?_
      rw [List.getLast?_append_of_ne_nil _ (List.cons_ne_nil _ _), List.getLast?_eq_some_getLast]
      rfl
    have hshown := hkept _ (List.getLast_mem (List.cons_ne_nil t' ts₂))
    rw [hbefore] at hshown
    exact ⟨htext.trans hshown.1, hdetail.trans hshown.2⟩

omit [Jdk] in
/-- A text that has just been typed. -/
theorem unsaved_typed {t : PanelTurn} {v : String} (hf : f.readOnly = false)
    (haction : t.action = .typeText f v) (htext : t.after.text f = v)
    (hne : v ≠ t.after.detail col f) : Unsaved col f (ts ++ [t]) := by
  refine ⟨ts, t, [], v, _, rfl, hf, haction, hne, fun u hu => ?_⟩
  obtain rfl := List.mem_singleton.mp hu
  exact ⟨htext, rfl⟩

/-- What the turns so far have made of the window. -/
structure InView (col : Collation) (url : String) (ts : List PanelTurn) (w : World) : Prop where
  address : w.mysql .mysqlAddress = some url
  mirrored : Mirrored col (· ≠ .wsnSensorsSensorsComboBox) (w.deskAt url)
  last : ∀ u ∈ ts.getLast?, u.after = w
  details : Details col ts w

/-- Against one database no tables are swapped for others. -/
theorem keepsTables_of_url {a : Action} (hurl : (s.act col a).2.url = s.url) :
    KeepsTables a s := by
  have hdatabase : s.takeMysqlFields.url = s.url → s.takeMysqlFields.database = s.database :=
    fun h => congrArg s.servers h
  cases a with
  | press b =>
    cases b with
    | wsnGeneralUpdateMysqlAddressButton =>
      exact congrArg Database.actuatorIds (hdatabase hurl)
    | wsnGeneralSaveMysqlDetailsButton =>
      exact ⟨congrArg Database.nodeIds (hdatabase hurl),
        congrArg Database.actuatorIds (hdatabase hurl)⟩
    | _ => trivial
  | _ => trivial

/-- **Step** of a session. -/
theorem InView.turn {t : PanelTurn} (hcol : Equivalence fun s t => col.same s t = true)
    (hw : InView col url ts t.before)
    (hrun : Runs (under col httpFault) t.action.program t.before t.trace t.outcome t.after)
    (hurl : t.after.mysql .mysqlAddress = some url) (hr : RefreshesAll col t) :
    InView col url (ts ++ [t]) t.after := by
  have hbefore := desk_of_url hw.address
  have hdesk : t.after.deskAt url = ((t.before.deskAt url).act col t.action).2 :=
    Option.some_inj.mp ((desk_of_url hurl).symm.trans (left_of_runs hcol.refl hbefore hrun).2)
  have hkept : ((t.before.deskAt url).act col t.action).2.url = (t.before.deskAt url).url :=
    (congrArg Desk.url hdesk.symm).trans rfl
  have hmirrored : Mirrored col (· ≠ .wsnSensorsSensorsComboBox) (t.after.deskAt url) := by
    rw [hdesk]
    exact hw.mirrored.act hcol.refl (fun _ h => h) t.action (keepsTables_of_url hkept)
      fun h => absurd rfl h
  refine ⟨hurl, hmirrored, by simp, fun f hf => ?_⟩
  have hrenews : Renews col (t.before.deskAt url) (t.after.deskAt url) f ∨ ∃ v,
      f.readOnly = false ∧ t.action = .typeText f v ∧ t.after.text f = v := by
    by_cases htypes : ∀ f v, t.action ≠ .typeText f v
    · rw [hdesk]
      exact .inl (renewed_act hcol hw.mirrored hkept (hr _ hbefore) htypes f hf)
    · obtain ⟨g, v, hg⟩ : ∃ g v, t.action = .typeText g v := by simpa using htypes
      rw [hg] at hdesk
      rcases renews_typeText col (t.before.deskAt url) g v hf with hrenews | ⟨hwritable, rfl, htext⟩
      · rw [hdesk]
        exact .inl hrenews
      · exact .inr ⟨v, hwritable, hg, by rwa [← hdesk] at htext⟩
  rw [Renews, deskAt_detail hurl, deskAt_detail hw.address] at hrenews
  rcases hrenews with (hright | ⟨htext, hdetail⟩) | ⟨v, hwritable, htyped, htext⟩
  · exact .inl hright
  · rcases hw.details f hf with hright | hunsaved
    · exact .inl (htext.trans (hright.trans hdetail.symm))
    · exact .inr (hunsaved.snoc hw.last htext hdetail)
  · by_cases hright : v = t.after.detail col f
    · exact .inl (htext.trans hright)
    · exact .inr (unsaved_typed hwritable htyped htext hright)

theorem inView_startUp {servers : String → Database} {details : Option String}
    {l : List (Event calls World)} (hcol : ∀ s, col.same s s = true)
    (hstart : Runs (under col httpFault) startUp (.launched servers details) l (.ok ()) w)
    (haddress : w.mysql .mysqlAddress = some url) : InView col url [] w := by
  have hstarted := hstart.outcome_of_wp wp_startUp_desk _ (desk_of_url haddress)
  refine ⟨haddress, hstarted.mirrored hcol, by simp, fun f hf => .inl ?_⟩
  obtain ⟨blank, hcombo, htext, hscreen⟩ := hstarted.screen
  have hselected : ∀ b, blank.selected b = none := fun b => congrArg Combo.selected (hcombo b)
  -- The window as it is built, and then refilled twice.
  have hnodes : Renewed col { w.deskAt url with screen := blank }
      (Desk.draw (Screen.updateNodeSelects col) { w.deskAt url with screen := blank }) :=
    renewed_updateNodeSelects hcol (.refl _) rfl fun _ hnode => absurd (hselected _) hnode
  have hboth := hnodes.trans (renewed_updateActuatorsSelects (.refl _) rfl rfl)
  have hshown : (Desk.draw (Screen.updateActuatorsSelects col) (Desk.draw
      (Screen.updateNodeSelects col) { w.deskAt url with screen := blank })) = w.deskAt url :=
    congrArg (fun x => ({ w.deskAt url with screen := x } : Desk)) hscreen.symm
  rw [hshown] at hboth
  rcases hboth f hf with hright | ⟨hkept, hdetail⟩
  · exact hright.trans (deskAt_detail haddress f)
  · have hblank : blank.detail col (w.deskAt url).database f = "" := by
      cases f <;> simp [Screen.detail, hselected, Screen.addressText]
    rw [deskAt_detail haddress] at hdetail
    exact (hkept.trans (htext f hf)).trans (hdetail.trans hblank).symm

/-- **The fields.** Take a start-up that found an address, and a session after it against that
database in which no database call fails. If every turn refreshes the fields, then after every turn
they show what they should, but for texts that were typed and not saved. -/
theorem session_details {servers : String → Database} {details : Option String} {w₀ w : World}
    {l : List (Event calls World)} {ts : List PanelTurn}
    (hcol : Equivalence fun s t => col.same s t = true)
    (hstart : Runs (under col httpFault) startUp (.launched servers details) l (.ok ()) w₀)
    (haddress : w₀.mysql .mysqlAddress = some url)
    (h : Session (under col httpFault) Action.program w₀ ts w) (hurl : OneDatabase url ts)
    (hr : ∀ t ∈ ts, RefreshesAll col t) :
    Details col [] w₀ ∧ ∀ ts₁ t ts₂, ts = ts₁ ++ t :: ts₂ → Details col (ts₁ ++ [t]) t.after := by
  have hstarted := inView_startUp hcol.refl hstart haddress
  refine ⟨hstarted.details, ?_⟩
  intro ts₁ t ts₂ hts
  subst hts
  obtain ⟨hbefore, hrun⟩ := h.split
  have hview : InView col url (ts₁ ++ [t]) t.after := by
    refine (Session.snoc hbefore hrun).invariant (I := InView col url)
      (C := fun t => t.after.mysql .mysqlAddress = some url ∧ RefreshesAll col t)
      (fun u hu => ?_) hstarted fun ts u hw hu hrun => hw.turn hcol hrun hu.1 hu.2
    have hmem : u ∈ ts₁ ++ t :: ts₂ := by
      rcases List.mem_append.mp hu with hu | hu
      · exact List.mem_append_left _ hu
      · exact List.mem_append_right _ (List.mem_singleton.mp hu ▸ List.mem_cons_self)
    exact ⟨hurl u hmem, hr u hmem⟩
  exact hview.details

end Sessions

/-! ## Bounds of no sensor -/

/-- Readings add a node with a sensor and calibrate it, and then the node is removed. -/
def removeCalibrated : List Action :=
  [.tick .wsnGeneralAutoAddCheck true, .tick .wsnSensorsAutoAddCheck true,
    .tick .wsnSensorsCalibrateCheck true, .reading "1" "light" 5, .reading "1" "light" 5,
    .reading "1" "light" 5, .press .wsnGeneralRemoveNodeButton]

/-- Nothing is selected any more, and the fields still show the bounds. -/
theorem not_always_details : ¬ ∀ (jdk : Jdk) (col : Collation) (url : String)
    (servers : String → Database) (details : Option String) (w₀ w : World)
    (l : List (Event calls World)) (ts : List PanelTurn),
    Equivalence (fun s t => col.same s t = true) →
    Runs (under col httpFault) startUp (.launched servers details) l (.ok ()) w₀ →
    w₀.mysql .mysqlAddress = some url →
    Session (under col httpFault) (@Action.program jdk) w₀ ts w → OneDatabase url ts →
    ∀ ts₁ t ts₂, ts = ts₁ ++ t :: ts₂ → Details col (ts₁ ++ [t]) t.after := by
  intro h
  have hdetails := h plainJdk .exact "jdbc:mysql://db" _ _ _ _ _ _ exact_equivalence runs_emptyStart
    (by decide +kernel) (session_windowTurns removeCalibrated) (by decide +kernel)
  have hmin : ∀ t ∈ windowTurns removeCalibrated, t.after.text .wsnSensorsCalibrationMinField =
      t.after.detail .exact .wsnSensorsCalibrationMinField := by
    intro t ht
    obtain ⟨ts₁, ts₂, hts⟩ := List.append_of_mem ht
    rcases hdetails ts₁ t ts₂ hts .wsnSensorsCalibrationMinField trivial with
      hright | ⟨_, _, _, _, _, -, hwritable, -⟩
    · exact hright
    · cases hwritable
  revert hmin
  decide +kernel

/-- Two nodes, addresses saved and refreshed with one node on both tabs, and bounds reset before
the nodes are removed. -/
def tendFields : List Action :=
  [.tick .wsnGeneralAutoAddCheck true, .tick .wsnSensorsAutoAddCheck true,
    .tick .wsnSensorsCalibrateCheck true, .reading "1" "light" 5, .reading "1" "light" 5,
    .reading "1" "light" 5, .reading "1" "light" 7,
    .typeText .wsnGeneralNodeAddressField "http://one", .press .wsnGeneralUpdateNodeAddressButton,
    .reading "2" "temp" 5, .select .wsnGeneralNodeComboBox "2",
    .select .wsnSensorsNodeComboBox "2", .typeText .wsnGeneralNodeAddressField "http://two",
    .press .wsnGeneralUpdateNodeAddressButton, .typeText .wsnGeneralNodeAddressField "draft",
    .tick .wsnSensorsCalibrateCheck false, .press .wsnGeneralRefreshNodeAddressButton,
    .select .wsnSensorsNodeComboBox "1", .press .wsnSensorsCalibrateResetButton,
    .press .wsnGeneralRemoveNodeButton, .press .wsnGeneralRemoveNodeButton]

/-- Every one of these turns refreshes the fields. -/
theorem tendFields_details : Details .exact [] emptyWindow ∧
    ∀ ts₁ t ts₂, windowTurns tendFields = ts₁ ++ t :: ts₂ →
      Details .exact (ts₁ ++ [t]) t.after :=
  @session_details .exact plainJdk "jdbc:mysql://db" _ _ _ _ _ _ exact_equivalence runs_emptyStart
    (by decide +kernel) (session_windowTurns tendFields) (by decide +kernel) (by decide +kernel)

end CrossingReality
