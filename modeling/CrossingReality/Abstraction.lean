import CrossingReality.Desk
import CrossingReality.Ownership

/-!
# The program does what the desk does

Where no database call fails, a method leaves the desk that its function on desks gives, and throws
what that function throws. Requests to the virtual world may fail: nothing of it reaches the desk.

* `Performs` — a method does what a function on desks says.
* `session_desk` — a session leads where its actions lead, whatever else happens in it.
-/

namespace CrossingReality

open Effects

variable {col : Collation} {w w' : World} {s s' : Desk} {url : String} {E : Exn → World → Prop}

/-! ## Desks of worlds -/

/-- What the desk would be if the address were `url`. -/
def World.deskAt (w : World) (url : String) : Desk :=
  ⟨w.servers, url, w.screen, w.checked, w.ignoreNodeList, w.ignoreSensorList⟩

theorem desk_of_url (h : w.mysql .mysqlAddress = some url) : w.desk = some (w.deskAt url) := by
  rw [World.desk, h]
  rfl

theorem of_desk (h : w.desk = some s) :
    ∃ url, w.mysql .mysqlAddress = some url ∧ s = w.deskAt url := by
  obtain ⟨url, hurl, rfl⟩ := Option.map_eq_some_iff.mp h
  exact ⟨url, hurl, rfl⟩

theorem desk_ne_none (h : w.mysql .mysqlAddress ≠ none) : ∃ s, w.desk = some s := by
  obtain ⟨url, hurl⟩ := Option.ne_none_iff_exists'.mp h
  exact ⟨_, desk_of_url hurl⟩

theorem deskAt_database (h : w.mysql .mysqlAddress = some url) :
    (w.deskAt url).database = w.database := (World.database_of_url h).symm

theorem desk_drawn {f : Database → Screen → Screen} (h : w.mysql .mysqlAddress = some url)
    (q : Traffic) : (w.drawn (f w.database w.screen) q).desk = some ((w.deskAt url).draw f) := by
  rw [desk_of_url (w := w.drawn _ q) h, ← deskAt_database h]
  rfl

theorem deskAt_withDatabase (h : w.mysql .mysqlAddress = some url) (u : Update) :
    (w.withDatabase url (w.database.apply col u)).deskAt url = (w.deskAt url).update col u := by
  rw [← deskAt_database h]
  rfl

theorem desk_setText (h : w.desk = some s) (f : TextField) (v : String) :
    (w.setText f v).desk = some (s.setText f v) := by
  obtain ⟨url, hw, rfl⟩ := of_desk h
  exact desk_of_url hw

/-! ## Methods that go through -/

/-- The program gives back `a`, and does to the desk what `f` does. -/
def Moves {α : Type} (col : Collation) (p : Panel α) (a : α) (f : Desk → Desk) : Prop :=
  ∀ (w : World) (s : Desk) (Q : α → World → Prop) (E : Exn → World → Prop), w.desk = some s →
    (∀ w', w'.desk = some (f s) → Q a w') → wp (under col httpFault) p Q E w

theorem Draws.moves {p : Panel Unit} {f : Database → Screen → Screen}
    (hp : Draws col httpFault p f) : Moves col p () (Desk.draw f) := by
  intro w s Q E hs h
  obtain ⟨url, hw, rfl⟩ := of_desk hs
  exact hp w Q E (not_trouble hw) fun q => h _ (desk_drawn hw q)

theorem wp_updateSelectedSensors {Q : Unit → World → Prop} (hs : w.desk = some s)
    (h : ∀ w', w'.desk = some (s.draw (Screen.updateSelectedSensors col)) → Q () w') :
    wp (under col httpFault) (updateSensorsSelect (w.combo .wsnSensorsNodeComboBox).selected)
      Q E w := by
  obtain ⟨url, hw, rfl⟩ := of_desk hs
  exact (draws_updateSensorsSelect _).moves w _ Q E hs h

theorem moves_pure {α : Type} (a : α) : Moves col (pure a) a fun s => s :=
  fun w _ _ _ hs h => h w hs

section Readings

variable [Jdk]

theorem draws_showBound {may : Call → Prop} (id type : String) (value : Int32)
    (fields : List TextField) : Draws col may (showBound id type value fields) fun _ =>
      Screen.showBound id type value fields := by
  have hfields : Draws col may (fields.forM fun f => setText f (toString value.toInt)) fun _ s =>
      fields.foldl (fun s f => s.setText f (toString value.toInt)) s := by
    induction fields with
    | nil => exact draws_pure
    | cons f fields ih => exact (draws_setText f _).bind ih
  intro w Q E ht h
  simp only [showBound, selectedSensorIs, wp_bind, wp_getSelectedItem]
  have hselected : w.screen.selectedSensorIs id type =
      (equalsIgnoreCase id (w.combo .wsnSensorsNodeComboBox).selected &&
        equalsIgnoreCase type (w.combo .wsnSensorsSensorsComboBox).selected) := rfl
  simp only [Screen.showBound, hselected] at h
  rw [wp_ite]
  refine ⟨fun hid => ?_, fun hid => ?_⟩
  · rw [Bool.not_eq_true'] at hid
    rw [hid, Bool.false_and, if_neg Bool.false_ne_true] at h
    exact h w.traffic
  · rw [Bool.not_eq_true', Bool.not_eq_false] at hid
    rw [hid, Bool.true_and] at h
    simp only [wp_bind, wp_getSelectedItem, wp_pure]
    rw [wp_ite]
    refine ⟨fun htype => ?_, fun htype => ?_⟩
    · rw [if_pos htype] at h
      exact hfields w Q E ht h
    · rw [if_neg htype] at h
      exact h w.traffic

/-- Writing a bound, and then showing it. -/
theorem moves_writeShown {id type : String} {value : Int32} {u : Update} {m m' : Message}
    {fields : List TextField} (hfields : u.shownIn = fields) : Moves col (do
      if !(← writeBound u m m') then return false
      showBound id type value fields
      return true) true fun s => s.writeShown col id type value u := by
  subst hfields
  intro w s Q E hs h
  obtain ⟨url, hw, rfl⟩ := of_desk hs
  rw [wp_bind]
  refine wp_writeBound (fun ht => absurd ht (not_trouble hw)) hw fun q => ?_
  simp only [Bool.not_true, Bool.false_eq_true, if_false, wp_bind]
  refine (draws_showBound id type value u.shownIn).moves _ _ _ E (desk_of_url hw) fun w' hw' => ?_
  refine h w' (hw'.trans (congrArg some ?_))
  exact congrArg (Desk.draw fun _ => Screen.showBound id type value u.shownIn)
    (deskAt_withDatabase hw u)

theorem moves_lowerMin (id type : String) (value min : Int32) :
    Moves col (lowerMin id type value min) true fun s =>
      (if value < min then [Update.setMin value id type] else []).foldl
        (Desk.writeShown col id type value) s := by
  rw [lowerMin]
  split
  · exact moves_writeShown rfl
  · exact moves_pure true

theorem moves_raiseMax (id type : String) (value max : Int32) :
    Moves col (raiseMax id type value max) true fun s =>
      (if max < value then [Update.setMax value id type] else []).foldl
        (Desk.writeShown col id type value) s := by
  rw [raiseMax]
  split
  · exact moves_writeShown rfl
  · exact moves_pure true

theorem moves_calibrateRow (id type : String) (value : Int32) (b : Bounds) :
    Moves col (calibrateRow id type value b) true fun s =>
      (calibration id type value b).foldl (Desk.writeShown col id type value) s := by
  obtain ⟨max, min⟩ := b
  cases min with
  | none =>
    cases max with
    | none => exact moves_writeShown rfl
    | some max => exact moves_pure true
  | some min =>
    cases max with
    | none => exact moves_pure true
    | some max =>
      intro w s Q E hs h
      simp only [calibrateRow, wp_bind]
      refine moves_lowerMin id type value min w s _ E hs fun w₁ hw₁ => ?_
      simp only [Bool.not_true, Bool.false_eq_true, if_false]
      refine moves_raiseMax id type value max w₁ _ _ E hw₁ fun w₂ hw₂ => ?_
      refine h w₂ (hw₂.trans (congrArg some ?_))
      exact List.foldl_append.symm

/-- A registered sensor is calibrated, and its reading forwarded or not. -/
theorem wp_recognisedSensor_desk {id type : String} {value : Int32}
    {addresses : List String} {Q : Bool → World → Prop} (hs : w.desk = some s)
    (hcol : col.same type type = true) (hsensor : s.database.hasSensor col id type)
    (h : ∀ ok w', w'.desk = some (s.calibrateIfTicked col id type value) → Q ok w') :
    wp (under col httpFault) (recognisedSensor id type value addresses) Q E w := by
  obtain ⟨b₀, hb₀⟩ := Database.head_run_bounds hcol hsensor
  -- There are still bounds to forward with after calibrating.
  have hforward : ∀ w', w'.desk = some (s.calibrateIfTicked col id type value) →
      wp (under col httpFault) (forwardReading id type value addresses) Q E w' := by
    intro w' hw'
    obtain ⟨url, hurl, hdesk⟩ := of_desk hw'
    obtain ⟨f, hf⟩ := Desk.calibrateIfTicked_database col id type value s
    have hb : ((Query.bounds id type).run col w'.database).head? = some (f b₀) := by
      rw [← deskAt_database hurl, ← hdesk, hf, Database.run_bounds_mapBounds, List.head?_map, hb₀]
      rfl
    exact wp_forwardReading (not_trouble hurl) hb (fun q _ => h false _ hw') fun _ ok q _ _ =>
      h ok _ hw'
  simp only [recognisedSensor, calibrateIfTicked, wp_bind, wp_isSelected]
  obtain ⟨url, hw, rfl⟩ := of_desk hs
  rw [wp_ite]
  refine ⟨fun hon => ?_, fun hoff => ?_⟩
  · simp only [calibrate, wp_bind]
    refine wp_readBounds (fun q => ?_) fun ht _ => absurd ht (not_trouble hw)
    rw [deskAt_database hw] at hb₀
    simp only [hb₀]
    refine moves_calibrateRow id type value b₀ _ _ _ E (desk_of_url hw) fun w' hw' => ?_
    simp only [Bool.not_true, Bool.false_eq_true, if_false]
    refine hforward w' (hw'.trans (congrArg some ?_))
    rw [Desk.calibrateIfTicked, if_pos (by exact hon), deskAt_database hw, hb₀]
    rfl
  · simp only [Bool.not_true, Bool.false_eq_true, if_false, wp_pure]
    refine hforward w (hs.trans (congrArg some ?_))
    exact (if_neg hoff).symm

/-! ## Readings -/

/-- How an action ended, and the desk it left. -/
def Left (o : Desk.Outcome) (r : Except Exn Unit) (w : World) : Prop := o.1 = r ∧ w.desk = some o.2

/-- The method does to the desk what `f` does, and throws what `f` throws. -/
def Performs (col : Collation) (p : Panel Unit) (f : Desk → Desk.Outcome) : Prop :=
  ∀ (w : World) (s : Desk), w.desk = some s → wp (under col httpFault) p
    (fun _ => Left (f s) (.ok ())) (fun e => Left (f s) (.error e)) w

omit [Jdk] in
theorem Moves.performs {p : Panel Unit} {f : Desk → Desk} (hp : Moves col p () f) :
    Performs col p fun s => (f s).done :=
  fun w s hs => hp w s _ _ hs fun _ hw' => ⟨rfl, hw'⟩

omit [Jdk] in
/-- A statement, and then a refill. -/
theorem desk_updated_drawn {f : Database → Screen → Screen} {u : Update} {q : Traffic}
    (h : w.mysql .mysqlAddress = some url) (q' : Traffic) :
    (World.drawn ((w.withDatabase url (w.database.apply col u)).quietly q)
      (f ((w.withDatabase url (w.database.apply col u)).quietly q).database
        ((w.withDatabase url (w.database.apply col u)).quietly q).screen) q').desk =
      some (((w.deskAt url).update col u).draw f) :=
  (desk_drawn (by exact h) q').trans (congrArg (fun s => some (Desk.draw f s))
    (deskAt_withDatabase h u))

theorem performs_sensed (hcol : ∀ s, col.same s s = true) (id type : String) (value : Int32) :
    Performs col (do let _ ← sensed id type value) (Desk.sensed col id type value) := by
  intro w s hs
  obtain ⟨url, hw, rfl⟩ := of_desk hs
  have hdb := deskAt_database hw
  have hidle : ∀ q, (w.quietly q).desk = some (w.deskAt url) := fun q => desk_of_url hw
  rw [wp_bind]
  refine wp_sensed_parts (not_trouble hw) hw (hcol type) (fun q hnode hauto => ?_)
    (fun q hnode hauto hl => ?_) (fun l q hnode hauto hl hid => ?_)
    (fun q hnode hsensor hauto => ?_) (fun e q hnode hsensor hauto hl => ?_)
    (fun l q hnode hsensor hauto hl hc => ?_) fun b q hnode hsensor hb => ?_
  · rw [← hdb] at hnode
    rw [wp_pure, Desk.sensed, if_neg hnode, Desk.unrecognisedNode_skipped hauto]
    exact ⟨rfl, hidle q⟩
  · rw [← hdb] at hnode
    rw [Desk.sensed, if_neg hnode, Desk.unrecognisedNode_throws hauto hl]
    exact ⟨rfl, hidle q⟩
  · rw [← hdb] at hnode
    rw [Desk.sensed, if_neg hnode, Desk.unrecognisedNode_added hauto hl hid]
    refine draws_updateNodeSelects _ _ _ (not_trouble (by exact hw)) fun q' => ?_
    exact ⟨rfl, desk_updated_drawn hw q'⟩
  · rw [← hdb] at hnode hsensor
    rw [wp_pure, Desk.sensed, if_pos hnode, if_neg hsensor, Desk.unrecognisedSensor_skipped hauto]
    exact ⟨rfl, hidle q⟩
  · rw [← hdb] at hnode hsensor
    rw [Desk.sensed, if_pos hnode, if_neg hsensor]
    obtain ⟨rfl, hl⟩ | hl := hl
    · rw [Desk.unrecognisedSensor_crashes hauto hl]
      exact ⟨rfl, hidle q⟩
    · rw [Desk.unrecognisedSensor_throws hauto hl]
      exact ⟨rfl, hidle q⟩
  · rw [← hdb] at hnode hsensor
    rw [Desk.sensed, if_pos hnode, if_neg hsensor, Desk.unrecognisedSensor_added hauto hl hc]
    refine draws_updateSensorsSelect _ _ _ _ (not_trouble (by exact hw)) fun q₁ q₂ => ?_
    exact ⟨rfl, desk_updated_drawn (f := Screen.updateSelectedSensors col) hw q₂⟩
  · rw [← hdb] at hnode hsensor
    rw [Desk.sensed, if_pos hnode, if_pos hsensor]
    exact wp_recognisedSensor_desk (hidle q) (hcol type) hsensor fun _ _ hw' => ⟨rfl, hw'⟩

end Readings

/-! ## Removing -/

theorem performs_removeNode (id : Option String) :
    Performs col (removeNode id) (Desk.removeNode col id) := by
  intro w s hs
  obtain ⟨url, hw, rfl⟩ := of_desk hs
  refine wp_removeNode (not_trouble hw) hw (fun hon hl => ?_) fun q hlist => ?_
  · rw [Desk.removeNode, if_pos (by exact ⟨hon, hl⟩)]
    exact ⟨rfl, hs⟩
  · rw [Desk.removeNode, if_neg (by exact fun h => hlist h.1 h.2)]
    exact draws_updateNodeSelects _ _ _ (not_trouble (by exact hw)) fun q' =>
      ⟨rfl, desk_drawn (by exact hw) q'⟩

theorem performs_removeSensor (id type : Option String) :
    Performs col (removeSensor id type) (Desk.removeSensor col id type) := by
  intro w s hs
  obtain ⟨url, hw, rfl⟩ := of_desk hs
  refine wp_removeSensor (not_trouble hw) hw (fun hon hl => ?_) fun q hlist => ?_
  · rw [Desk.removeSensor, if_pos (by exact ⟨hon, hl⟩)]
    exact ⟨rfl, hs⟩
  · rw [Desk.removeSensor, if_neg (by exact fun h => hlist h.1 h.2)]
    exact draws_updateSensorsSelect id _ _ _ (not_trouble (by exact hw)) fun q' =>
      ⟨rfl, desk_drawn (f := fun d => Screen.updateSensorsSelect col d id) (by exact hw) q'⟩

theorem performs_removeActuator (id : Option String) :
    Performs col (removeActuator id) (Desk.removeActuator col id) := by
  intro w s hs
  obtain ⟨url, hw, rfl⟩ := of_desk hs
  refine wp_removeActuator (not_trouble hw) hw fun q => ?_
  exact draws_updateActuatorsSelects _ _ _ (not_trouble (by exact hw)) fun q' =>
    ⟨rfl, desk_drawn (by exact hw) q'⟩

/-! ## Adding -/

section Adding

variable [Jdk]

theorem performs_manualNodeAdd : Performs col manualNodeAdd (Desk.manualNodeAdd col) := by
  intro w s hs
  obtain ⟨url, hw, rfl⟩ := of_desk hs
  have hdb := deskAt_database hw
  have hnew : (w.text .wsnGeneralManualNodeAddId).isEmpty = false →
      ¬ w.database.hasNode col (w.text .wsnGeneralManualNodeAddId) →
      parsesURL (some (w.text .wsnGeneralManualNodeAddAddress)) = true →
      (w.deskAt url).newNode col := by
    intro hid hnode hparse
    rw [← hdb] at hnode
    exact ⟨hid, hnode, hparse⟩
  refine wp_manualNodeAdd (not_trouble hw) hw (fun q h => ?_) (fun q hl hid hnode hparse => ?_)
    fun l q hl hid hnode hparse => ?_
  · rw [Desk.manualNodeAdd, if_neg]
    · exact ⟨rfl, hs⟩
    · rintro ⟨hid, hnode, hparse⟩
      rw [hdb] at hnode
      exact absurd hparse (Bool.eq_false_iff.mp (h hid hnode))
  · rw [Desk.manualNodeAdd_throws (hnew hid hnode hparse) hl]
    exact ⟨rfl, hs⟩
  · rw [Desk.manualNodeAdd_added (hnew hid hnode hparse) hl]
    exact draws_updateNodeSelects _ _ _ (not_trouble (by exact hw)) fun q' =>
      ⟨rfl, desk_setText (desk_setText (desk_drawn (by exact hw) q') _ _) _ _⟩

theorem performs_manualActuatorAdd :
    Performs col manualActuatorAdd (Desk.manualActuatorAdd col) := by
  intro w s hs
  obtain ⟨url, hw, rfl⟩ := of_desk hs
  rw [Desk.manualActuatorAdd]
  refine wp_manualActuatorAdd (not_trouble hw) hw (fun q h => ?_)
    fun q hid haddress hnone hparse => ?_
  · rw [if_neg]
    · exact ⟨rfl, hs⟩
    · rintro ⟨hid, haddress, hnone, hparse⟩
      rw [deskAt_database hw] at hnone
      obtain h | h | h | h := h
      · exact absurd h (Bool.eq_false_iff.mp hid)
      · exact absurd h (Bool.eq_false_iff.mp haddress)
      · exact absurd hparse (Bool.eq_false_iff.mp h)
      · exact h hnone
  · rw [← deskAt_database hw] at hnone
    rw [if_pos ⟨hid, haddress, hnone, hparse⟩]
    exact draws_updateActuatorsSelects _ _ _ (not_trouble (by exact hw)) fun q' =>
      ⟨rfl, desk_drawn (by exact hw) q'⟩

theorem removeEntry_of_containsEntry_false {o : SensorIgnoreIdTypeObject}
    {l : List SensorIgnoreIdTypeObject} (h : containsEntry o l = .ok false) :
    removeEntry o l = .ok l := by
  induction l with
  | nil => rfl
  | cons entry l ih =>
    rw [containsEntry] at h
    rw [removeEntry]
    cases ho : o.equals entry with
    | error e => simp [ho] at h
    | ok b =>
      cases b with
      | true => simp [ho] at h
      | false => simp [ih (by simpa [ho] using h), Except.map]

theorem removeEntry_of_containsEntry_error {o : SensorIgnoreIdTypeObject} {e : Exn}
    {l : List SensorIgnoreIdTypeObject} (h : containsEntry o l = .error e) :
    removeEntry o l = .error e := by
  induction l with
  | nil => cases h
  | cons entry l ih =>
    rw [containsEntry] at h
    rw [removeEntry]
    cases ho : o.equals entry with
    | error e' => simpa [ho] using h
    | ok b =>
      cases b with
      | true => simp [ho] at h
      | false => simp [ih (by simpa [ho] using h), Except.map]

theorem performs_manualSensorAdd : Performs col manualSensorAdd (Desk.manualSensorAdd col) := by
  intro w s hs
  obtain ⟨url, hw, rfl⟩ := of_desk hs
  have hdb := deskAt_database hw
  have hnew : (w.text .wsnSensorsManualSensorAddType).isEmpty = false →
      (Query.sensor (spell (w.combo .wsnSensorsNodeComboBox).selected)
        (w.text .wsnSensorsManualSensorAddType)).run col w.database = [] →
      (w.deskAt url).newSensor col := by
    intro htype hnone
    rw [← hdb] at hnone
    exact ⟨htype, hnone⟩
  refine wp_manualSensorAdd_refill (not_trouble hw) hw (fun q h => ?_)
    (fun q hl htype hnone => ?_) fun htype hnone hlist q => ?_
  · rw [Desk.manualSensorAdd, if_neg]
    · exact ⟨rfl, hs⟩
    · rintro ⟨htype, hnone⟩
      rw [hdb] at hnone
      rcases h with h | h
      · exact absurd h (Bool.eq_false_iff.mp htype)
      · exact h hnone
  · rw [Desk.manualSensorAdd_crashes (hnew htype hnone) hl]
    exact ⟨rfl, hs⟩
  · obtain ⟨l, hl⟩ := Option.ne_none_iff_exists'.mp hlist
    have hrefill : ∀ rest (w' : World), removeEntry (w.deskAt url).typedSensor l = .ok rest →
        w'.desk = some (({ w.deskAt url with ignoreSensorList := some rest } : Desk).update col
          (.insertSensor (spell (w.combo .wsnSensorsNodeComboBox).selected)
            (w.text .wsnSensorsManualSensorAddType))) →
        wp (under col httpFault) (updateSensorsSelect (w'.combo .wsnSensorsNodeComboBox).selected)
          (fun _ w'' => Left ((w.deskAt url).manualSensorAdd col) (.ok ())
            (w''.setText .wsnSensorsManualSensorAddType ""))
          (fun e => Left ((w.deskAt url).manualSensorAdd col) (.error e)) w' := by
      intro rest w' hrest hw'
      rw [Desk.manualSensorAdd_added (hnew htype hnone) hl hrest]
      exact wp_updateSelectedSensors hw' fun w'' hw'' => ⟨rfl, desk_setText hw'' _ _⟩
    refine wp_unignoreSensor hl (fun e he => ?_) (fun hout => ?_) fun rest q' _ hrest => ?_
    · rw [Desk.manualSensorAdd_throws (hnew htype hnone) hl (removeEntry_of_containsEntry_error he)]
      exact ⟨rfl, desk_of_url (by exact hw)⟩
    · refine hrefill l _ (removeEntry_of_containsEntry_false hout) ?_
      rw [← hl]
      exact desk_of_url (by exact hw)
    · refine hrefill rest _ hrest ?_
      exact desk_of_url (by exact hw)

/-! ## The other buttons -/

theorem performs_updateNodeAddress :
    Performs col updateNodeAddress (Desk.updateNodeAddress col) := by
  intro w s hs
  obtain ⟨url, hw, rfl⟩ := of_desk hs
  refine wp_updateNodeAddress (not_trouble hw) hw (fun q hparse => ?_) fun q hparse => ?_
  · rw [Desk.updateNodeAddress, if_neg (by exact Bool.eq_false_iff.mp hparse)]
    exact ⟨rfl, hs⟩
  · rw [Desk.updateNodeAddress, if_pos (by exact hparse)]
    exact ⟨rfl, desk_of_url (by exact hw)⟩

theorem performs_updateActuatorAddress :
    Performs col updateActuatorAddress (Desk.updateActuatorAddress col) := by
  intro w s hs
  obtain ⟨url, hw, rfl⟩ := of_desk hs
  refine wp_updateActuatorAddress (not_trouble hw) hw (fun q hparse => ?_) fun q hparse => ?_
  · rw [Desk.updateActuatorAddress, if_neg (by exact Bool.eq_false_iff.mp hparse)]
    exact ⟨rfl, hs⟩
  · rw [Desk.updateActuatorAddress, if_pos (by exact hparse)]
    exact ⟨rfl, desk_of_url (by exact hw)⟩

omit [Jdk] in
theorem performs_calibrateReset : Performs col calibrateReset (Desk.calibrateReset col) := by
  intro w s hs
  obtain ⟨url, hw, rfl⟩ := of_desk hs
  exact wp_calibrateReset (not_trouble hw) hw fun q => ⟨rfl, desk_of_url (by exact hw)⟩

omit [Jdk] in
theorem draws_refreshNodeAddress {may : Call → Prop} :
    Draws col may refreshNodeAddress (Screen.refreshNodeAddress col) := by
  intro w Q E ht h
  rw [refreshNodeAddress, wp_bind, wp_getSelectedItem, wp_bind]
  refine wp_openStatement (fun c q₁ hurl => ?_) fun h => absurd h ht
  dsimp only
  rw [wp_bind]
  refine wp_executeQuery_inForce (by exact ht) (by exact hurl) ?_
  dsimp only
  rw [wp_bind]
  refine wp_firstRow ?_ fun h => absurd h ht
  rw [World.quietly_database]
  have hfound : ∀ a, w.database.nodeAddress col
      (spell (w.screen.selected .wsnGeneralNodeComboBox)) = a → ∀ q, Q () (w.drawn
        ((w.screen.showAddress .wsnGeneralNodeAddressField a).showAddress
          .wsnSensorsNodeAddressField a) q) := by
    rintro a rfl q
    exact h q
  cases hrow : ((Query.node (spell (w.combo .wsnGeneralNodeComboBox).selected)).run col
      w.database).head? with
  | none =>
    have hnone := hfound none (congrArg (Option.map NodeRow.address) hrow)
    dsimp only
    rw [wp_appendToOutput]
    exact hnone _
  | some row =>
    have hsome := hfound (some row.address) (congrArg (Option.map NodeRow.address) hrow)
    dsimp only
    rw [wp_bind, setTextOrNull, wp_setText, wp_bind, wp_fetch]
    refine ⟨?_, fun hm => absurd (.of_may (c := .fetch c) trivial hm) ht⟩
    simp only [Bool.not_true, Bool.false_eq_true, if_false, wp_bind, setTextOrNull, wp_setText]
    exact wp_closeConnection fun q => hsome q

omit [Jdk] in
theorem draws_refreshActuatorAddress {may : Call → Prop} :
    Draws col may refreshActuatorAddress (Screen.actuatorActuatorChanged col) := by
  intro w Q E ht h
  rw [refreshActuatorAddress, wp_bind, wp_getSelectedItem, wp_bind]
  refine wp_openStatement (fun c q₁ hurl => ?_) fun h => absurd h ht
  dsimp only
  rw [wp_bind]
  refine wp_executeQuery_inForce (by exact ht) (by exact hurl) ?_
  exact wp_showFirst ActuatorRow.address ht rfl (fun _ => rfl) h

/-! ## All actions -/

omit [Jdk] in
theorem wp_takeMysqlFields_desk {Q : Unit → World → Prop} (hs : w.desk = some s)
    (h : ∀ w', w'.desk = some s.takeMysqlFields → Q () w') :
    wp (under col httpFault) takeMysqlFields Q E w := by
  have hset : ∀ d v {R : Unit → World → Prop} {w' : World}, wp (α := Unit) (under col httpFault)
      (call (.setMysql d v)) R E w' ↔ R () (w'.setMysql d v) :=
    fun d v {R w'} => wp_call_steady (c := .setMysql d v) fun _ => rfl
  obtain ⟨url, hw, rfl⟩ := of_desk hs
  simp only [takeMysqlFields, wp_bind, wp_getText, hset]
  exact h _ rfl

theorem performs_saveMysql :
    Performs col (actionPerformed .wsnGeneralSaveMysqlDetailsButton) fun s =>
      s.takeMysqlFields.done := by
  have hget : ∀ d {R : Option String → World → Prop} {E : Exn → World → Prop} {w' : World},
      wp (α := Option String) (under col httpFault) (call (.getMysql d)) R E w' ↔
        R (w'.mysql d) w' :=
    fun d {R E w'} => wp_call_steady (c := .getMysql d) fun _ => rfl
  intro w s hs
  simp only [actionPerformed, wp_bind]
  refine wp_takeMysqlFields_desk hs fun w' hw' => ?_
  have hkept : ∀ (v : Option String) (q : Traffic),
      ((w'.withDetailsFile v).quietly q).desk = w'.desk := fun _ _ => rfl
  simp only [saveMysqlDetails, wp_bind, hget]
  refine (wp_call_faulty (.writeMysqldetails _)).mpr ⟨fun r => ?_, fun _ r => ?_⟩
  · rw [wp_ite]
    refine ⟨fun _ => ?_, fun h => absurd rfl h⟩
    rw [wp_appendToOutput]
    exact ⟨rfl, (hkept _ _).trans hw'⟩
  · rw [wp_ite]
    refine ⟨by simp [step], fun _ => ?_⟩
    rw [wp_appendToOutput]
    exact ⟨rfl, (hkept w'.mysqldetails _).trans hw'⟩

theorem performs_actionPerformed (b : Button) :
    Performs col (actionPerformed b) (Desk.actionPerformed col b) := by
  cases b with
  | wsnGeneralUpdateNodeAddressButton => exact performs_updateNodeAddress
  | wsnGeneralUpdateMysqlAddressButton =>
    intro w s hs
    simp only [actionPerformed, wp_bind]
    refine wp_takeMysqlFields_desk hs fun w' hw' => ?_
    exact draws_updateNodeSelects.moves w' _ _ _ hw' fun _ hw'' => ⟨rfl, hw''⟩
  | wsnGeneralSaveMysqlDetailsButton => exact performs_saveMysql
  | wsnGeneralManualNodeAddButton => exact performs_manualNodeAdd
  | wsnGeneralRemoveNodeButton =>
    intro w s hs
    simp only [actionPerformed, wp_bind, wp_getSelectedItem]
    obtain ⟨url, hw, rfl⟩ := of_desk hs
    exact performs_removeNode _ w _ hs
  | wsnSensorsManualAddSensorButton => exact performs_manualSensorAdd
  | wsnSensorsRemoveSensorButton =>
    intro w s hs
    simp only [actionPerformed, wp_bind, wp_getSelectedItem]
    obtain ⟨url, hw, rfl⟩ := of_desk hs
    exact performs_removeSensor _ _ w _ hs
  | wsnSensorsCalibrateResetButton => exact performs_calibrateReset
  | wsnGeneralRefreshNodeAddressButton => exact draws_refreshNodeAddress.moves.performs
  | actuatorManualActuatorAddButton => exact performs_manualActuatorAdd
  | actuatorUpdateActuatorAddressButton => exact performs_updateActuatorAddress
  | actuatorRefreshActuatorAddressButton => exact draws_refreshActuatorAddress.moves.performs
  | actuatorRemoveActuatorButton =>
    intro w s hs
    simp only [actionPerformed, wp_bind, wp_getSelectedItem]
    obtain ⟨url, hw, rfl⟩ := of_desk hs
    exact performs_removeActuator _ w _ hs

omit [Jdk] in
theorem draws_selectItem {may : Call → Prop} (b : ComboBox) (i : String) :
    Draws col may (selectItem b i) fun d => Screen.selectItem col d b i := by
  intro w Q E ht h
  rw [selectItem, wp_bind, wp_call_steady (fun _ => rfl)]
  exact draws_fire (draws_itemStateChanged b) _ _ Q E (by exact ht) h

omit [Jdk] in
theorem draws_typeInto {may : Call → Prop} (f : TextField) (v : String) :
    Draws col may (typeInto f v) fun _ => Screen.typeInto f v := by
  unfold typeInto Screen.typeInto
  split
  · exact draws_pure
  · exact draws_setText f v

/-- **Step.** An action does to the desk what its function does. -/
theorem performs_action (hcol : ∀ s, col.same s s = true) (a : Action) :
    Performs col a.program (Desk.act col a) := by
  cases a with
  | reading id type value => exact performs_sensed hcol id type value
  | press b => exact performs_actionPerformed b
  | tick b v =>
    intro w s hs
    obtain ⟨url, hw, rfl⟩ := of_desk hs
    simp only [Action.program, wp_setSelected]
    exact ⟨rfl, desk_of_url (by exact hw)⟩
  | typeText f v => exact (draws_typeInto f v).moves.performs
  | select b i => exact (draws_selectItem b i).moves.performs

end Adding

/-! ## Start-up -/

/-- The desk after a start-up that found an address: the boxes have been filled, from empty. -/
structure Started (col : Collation) (servers : String → Database) (s : Desk) : Prop where
  servers : s.servers = servers
  screen : ∃ blank : Screen, (∀ b, blank.combo b = .empty) ∧ (∀ f, f.shows → blank.text f = "") ∧
    s.screen = (blank.updateNodeSelects col s.database).updateActuatorsSelects col s.database
  ignoreNodeList : s.ignoreNodeList = some []
  ignoreSensorList : s.ignoreSensorList = some []

theorem wp_startUp_desk [Jdk] {servers : String → Database} {details : Option String} :
    wp (under col httpFault) startUp (fun _ w => ∀ s, w.desk = some s → Started col servers s)
      (fun _ _ => True) (World.launched servers details) := by
  -- Before the refills nothing is shown yet.
  have hload : ∀ c f (w : World), Call.loads c → (w.servers = servers ∧
      (∀ b, w.combo b = .empty) ∧ ∀ f, f.shows → w.text f = "") →
      (step col c f w).2.servers = servers ∧ (∀ b, (step col c f w).2.combo b = .empty) ∧
        ∀ g, g.shows → (step col c f w).2.text g = "" := by
    intro c f w hc hw
    obtain ⟨hs, hcombo, htext⟩ := hw
    refine ⟨(step_loads hc f).1.trans hs, fun b => ?_, fun g hg => ?_⟩
    · rw [(step_loads hc f).2, hcombo]
    · rw [step_loads_text hc f hg, htext g hg]
  simp only [startUp, loadMysqlDetails, wp_bind]
  refine (wp_of_steps loads_loadFile hload ⟨rfl, fun _ => rfl, fun _ _ => rfl⟩).mono
    (fun _ w h => ?_) fun _ _ _ => trivial
  obtain ⟨hs, hcombo, htext⟩ := h
  cases haddr : w.mysql .mysqlAddress with
  | none =>
    refine wp_redraws redraws_updateNodeSelects fun _ t c q _ => ?_
    refine wp_redraws redraws_updateActuatorsSelects fun _ t' c' q' _ => ?_
    rw [wp_call_steady (fun _ => rfl), wp_call_steady (fun _ => rfl)]
    intro s hdesk
    obtain ⟨url, hurl, -⟩ := of_desk hdesk
    rw [show w.mysql .mysqlAddress = some url from hurl] at haddr
    cases haddr
  | some url =>
    refine draws_updateNodeSelects.moves w _ _ _ (desk_of_url haddr) fun w₁ hw₁ => ?_
    refine draws_updateActuatorsSelects.moves w₁ _ _ _ hw₁ fun w₂ hw₂ => ?_
    rw [wp_call_steady (fun _ => rfl), wp_call_steady (fun _ => rfl)]
    intro s hdesk
    obtain ⟨url', hurl', rfl⟩ := of_desk hdesk
    have hdesk₂ : w₂.deskAt url' =
        ((w.deskAt url).draw (Screen.updateNodeSelects col)).draw
          (Screen.updateActuatorsSelects col) :=
      Option.some_inj.mp ((desk_of_url (by exact hurl')).symm.trans hw₂)
    have hservers : w₂.servers = w.servers := congrArg Desk.servers hdesk₂
    obtain rfl : url' = url := congrArg Desk.url hdesk₂
    refine ⟨hservers.trans hs, ⟨w.screen, hcombo, htext, ?_⟩, rfl, rfl⟩
    exact (congrArg Desk.screen hdesk₂).trans
      (congrArg
        (fun d : Database => (w.screen.updateNodeSelects col d).updateActuatorsSelects col d)
        (congrFun hservers url').symm)

/-! ## Sessions -/

section Sessions

variable [Jdk]

theorem left_of_runs {a : Action} {l : List (Event calls World)} {r : Except Exn Unit}
    (hcol : ∀ s, col.same s s = true) (hs : w.desk = some s)
    (hrun : Runs (under col httpFault) a.program w l r w') : Left (s.act col a) r w' := by
  have hout := hrun.outcome_of_wp (performs_action hcol a w s hs)
  cases r with
  | ok u => exact hout
  | error e => exact hout

/-- A turn starts from a desk, and does to it what its action does. -/
def ActsOnDesk (col : Collation) (t : PanelTurn) : Prop :=
  ∃ s, t.before.desk = some s ∧ Left (s.act col t.action) t.outcome t.after

/-- **Refinement.** Take a session in which no database call fails, from a world with a database
address. Every turn does to the desk what its action does, and throws what that throws; and the
session leads where its actions lead. -/
theorem session_desk {w₀ : World} {ts : List PanelTurn} (hcol : ∀ s, col.same s s = true)
    (hw : w₀.desk = some s) (h : Session (under col httpFault) Action.program w₀ ts w) :
    w.desk = some (s.run col (ts.map Turn.action)) ∧ ∀ t ∈ ts, ActsOnDesk col t := by
  refine h.invariant (I := fun ts w => w.desk = some (s.run col (ts.map Turn.action)) ∧
    ∀ t ∈ ts, ActsOnDesk col t) (C := fun _ => True) (fun _ _ => trivial) ⟨hw, by simp⟩ ?_
  rintro ts t ⟨hdesk, hts⟩ - hrun
  have hleft := left_of_runs hcol hdesk hrun
  refine ⟨?_, fun u hu => ?_⟩
  · rw [hleft.2, List.map_append, Desk.run, Desk.run, List.foldl_append]
    rfl
  · rcases List.mem_append.mp hu with hu | hu
    · exact hts u hu
    · obtain rfl := List.mem_singleton.mp hu
      exact ⟨_, hdesk, hleft⟩

end Sessions

/-- On empty tables, the session that adds a node and a sensor of it. -/
theorem addSensorOfNode_desk : ∃ s, emptyWorld.desk = some s ∧
    (playedTo addSensorOfNode).desk =
      some (@Desk.run plainJdk .exact s ((played addSensorOfNode).map Turn.action)) ∧
    ∀ t ∈ played addSensorOfNode, @ActsOnDesk plainJdk .exact t :=
  ⟨_, rfl, @session_desk .exact _ _ plainJdk _ _ (by simp) rfl (session_played addSensorOfNode)⟩

end CrossingReality
