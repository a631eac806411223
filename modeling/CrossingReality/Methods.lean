import CrossingReality.Redrawing

/-!
# What the buttons do

The methods of the window where no database call fails, up to the refill they end with: each rule
gives the world in which the refill starts, or the world in which the method stops.
-/

namespace CrossingReality

open Effects

variable {col : Collation} {may : Call → Prop} {w : World} {url : String} {E : Exn → World → Prop}

/-! ## The ignore lists -/

section Lists

/-- The same world with other ignore lists. -/
def World.listing (w : World) (l : Option (List (Option String)))
    (l' : Option (List SensorIgnoreIdTypeObject)) : World :=
  { w with ignoreNodeList := l, ignoreSensorList := l' }

variable {l : Option (List (Option String))} {l' : Option (List SensorIgnoreIdTypeObject)}

@[simp] theorem listing_mysql : (w.listing l l').mysql = w.mysql := rfl
@[simp] theorem listing_database : (w.listing l l').database = w.database := rfl
@[simp] theorem listing_combo : (w.listing l l').combo = w.combo := rfl
@[simp] theorem listing_text : (w.listing l l').text = w.text := rfl
@[simp] theorem listing_checked : (w.listing l l').checked = w.checked := rfl
@[simp] theorem listing_self : w.listing w.ignoreNodeList w.ignoreSensorList = w := rfl

theorem wp_addIgnoreNode {id : Option String} {Q : Bool → World → Prop} :
    wp (α := Bool) (under col may) (call (.addIgnoreNode id)) Q E w ↔
      Q w.ignoreNodeList.isSome
        (w.listing (w.ignoreNodeList.map (· ++ [id])) w.ignoreSensorList) :=
  wp_call_steady (c := .addIgnoreNode id) fun _ => rfl

theorem wp_removeIgnoreNode {id : String} {Q : Unit → World → Prop} :
    wp (α := Unit) (under col may) (call (.removeIgnoreNode id)) Q E w ↔
      Q () (w.listing (w.ignoreNodeList.map (·.erase (some id))) w.ignoreSensorList) :=
  wp_call_steady (c := .removeIgnoreNode id) fun _ => rfl

theorem wp_addIgnoreSensor {o : SensorIgnoreIdTypeObject} {Q : Bool → World → Prop} :
    wp (α := Bool) (under col may) (call (.addIgnoreSensor o)) Q E w ↔
      Q w.ignoreSensorList.isSome
        (w.listing w.ignoreNodeList (w.ignoreSensorList.map (· ++ [o]))) :=
  wp_call_steady (c := .addIgnoreSensor o) fun _ => rfl

theorem wp_setIgnoreSensorList {l : List SensorIgnoreIdTypeObject} {Q : Unit → World → Prop} :
    wp (α := Unit) (under col may) (call (.setIgnoreSensorList l)) Q E w ↔
      Q () (w.listing w.ignoreNodeList (some l)) :=
  wp_call_steady (c := .setIgnoreSensorList l) fun _ => rfl

end Lists

/-- An ignore list, with an entry more if a box is ticked. -/
def listedIf {α : Type} (ticked : Bool) (a : α) (l : Option (List α)) : Option (List α) :=
  if ticked then l.map (· ++ [a]) else l

theorem wp_ignoreNodeIfTicked {id : Option String} {Q : Unit → World → Prop}
    (hcrash : w.checked .wsnGeneralRemoveNodeIgnoreCheck = true → w.ignoreNodeList = none →
      E .nullPointer w)
    (h : ∀ q, (w.checked .wsnGeneralRemoveNodeIgnoreCheck = true → w.ignoreNodeList ≠ none) →
      Q () ((w.listing (listedIf (w.checked .wsnGeneralRemoveNodeIgnoreCheck) id w.ignoreNodeList)
        w.ignoreSensorList).quietly q)) :
    wp (under col may) (ignoreNodeIfTicked id) Q E w := by
  simp only [ignoreNodeIfTicked, wp_bind, wp_isSelected]
  rw [wp_ite]
  refine ⟨fun hon => ?_, fun hoff => ?_⟩
  · rw [listedIf, if_pos hon] at h
    simp only [wp_bind, wp_addIgnoreNode]
    cases hl : w.ignoreNodeList with
    | none =>
      have hself : w.listing none w.ignoreSensorList = w := by rw [← hl, listing_self]
      exact hself ▸ hcrash hon hl
    | some l => simpa [hl] using h _ fun _ => by simp [hl]
  · rw [listedIf, if_neg hoff] at h
    exact h w.traffic fun hon => absurd hon hoff

theorem wp_ignoreSensorIfTicked {id type : Option String} {Q : Unit → World → Prop}
    (hcrash : w.checked .wsnSensorsRemoveSensorIgnoreCheck = true → w.ignoreSensorList = none →
      E .nullPointer w)
    (h : ∀ q, (w.checked .wsnSensorsRemoveSensorIgnoreCheck = true → w.ignoreSensorList ≠ none) →
      Q () ((w.listing w.ignoreNodeList (listedIf (w.checked .wsnSensorsRemoveSensorIgnoreCheck)
        ⟨id, type⟩ w.ignoreSensorList)).quietly q)) :
    wp (under col may) (ignoreSensorIfTicked id type) Q E w := by
  simp only [ignoreSensorIfTicked, wp_bind, wp_isSelected]
  rw [wp_ite]
  refine ⟨fun hon => ?_, fun hoff => ?_⟩
  · rw [listedIf, if_pos hon] at h
    simp only [wp_bind, wp_addIgnoreSensor]
    cases hl : w.ignoreSensorList with
    | none =>
      have hself : w.listing w.ignoreNodeList none = w := by rw [← hl, listing_self]
      exact hself ▸ hcrash hon hl
    | some l => simpa [hl] using h _ fun _ => by simp [hl]
  · rw [listedIf, if_neg hoff] at h
    exact h w.traffic fun hon => absurd hon hoff

/-! ## Removing -/

theorem wp_removeNode {id : Option String} {Q : Unit → World → Prop} (ht : ¬ Trouble may w)
    (hw : w.mysql .mysqlAddress = some url)
    (hcrash : w.checked .wsnGeneralRemoveNodeIgnoreCheck = true → w.ignoreNodeList = none →
      E .nullPointer w)
    (h : ∀ q, (w.checked .wsnGeneralRemoveNodeIgnoreCheck = true → w.ignoreNodeList ≠ none) →
      wp (under col may) updateNodeSelects Q E (((((w.listing (listedIf (w.checked
        .wsnGeneralRemoveNodeIgnoreCheck) id w.ignoreNodeList) w.ignoreSensorList).update col url
          (.deleteNode (spell id))).update col url (.deleteSensors (spell id))).setSelected
            .wsnGeneralRemoveNodeIgnoreCheck false).quietly q)) :
    wp (under col may) (removeNode id) Q E w := by
  simp only [removeNode, wp_bind]
  refine wp_ignoreNodeIfTicked hcrash fun q hlist => ?_
  simp only [deleteNode, wp_bind]
  refine wp_openStatement (fun c q₁ hurl => ?_) fun h => absurd h ht
  obtain rfl : url = c.url := Option.some_inj.mp (hw.symm.trans hurl)
  simp only [wp_bind]
  refine wp_executeUpdate ?_ fun h => absurd h ht
  simp only [Bool.not_true, Bool.false_eq_true, if_false, wp_bind]
  refine wp_executeUpdate ?_ fun h => absurd h ht
  simp only [Bool.not_true, Bool.false_eq_true, if_false, wp_bind, wp_appendToOutput,
    wp_setSelected]
  exact h _ hlist

theorem wp_removeSensor {id type : Option String} {Q : Unit → World → Prop}
    (ht : ¬ Trouble may w) (hw : w.mysql .mysqlAddress = some url)
    (hcrash : w.checked .wsnSensorsRemoveSensorIgnoreCheck = true → w.ignoreSensorList = none →
      E .nullPointer w)
    (h : ∀ q, (w.checked .wsnSensorsRemoveSensorIgnoreCheck = true → w.ignoreSensorList ≠ none) →
      wp (under col may) (updateSensorsSelect id) Q E ((((w.listing w.ignoreNodeList (listedIf
        (w.checked .wsnSensorsRemoveSensorIgnoreCheck) ⟨id, type⟩ w.ignoreSensorList)).update
          col url (.deleteSensor (spell id) (spell type))).setSelected
            .wsnSensorsRemoveSensorIgnoreCheck false).quietly q)) :
    wp (under col may) (removeSensor id type) Q E w := by
  simp only [removeSensor, wp_bind]
  refine wp_ignoreSensorIfTicked hcrash fun q hlist => ?_
  simp only [deleteSensor, wp_bind]
  refine wp_openStatement (fun c q₁ hurl => ?_) fun h => absurd h ht
  obtain rfl : url = c.url := Option.some_inj.mp (hw.symm.trans hurl)
  simp only [wp_bind]
  refine wp_executeUpdate ?_ fun h => absurd h ht
  simp only [Bool.not_true, Bool.false_eq_true, if_false, wp_bind, wp_appendToOutput,
    wp_setSelected]
  exact h _ hlist

theorem wp_removeActuator {id : Option String} {Q : Unit → World → Prop} (ht : ¬ Trouble may w)
    (hw : w.mysql .mysqlAddress = some url)
    (h : ∀ q, wp (under col may) updateActuatorsSelects Q E
      ((w.update col url (.deleteActuator (spell id))).quietly q)) :
    wp (under col may) (removeActuator id) Q E w := by
  simp only [removeActuator, wp_bind]
  refine wp_openStatement (fun c q₁ hurl => ?_) fun h => absurd h ht
  obtain rfl : url = c.url := Option.some_inj.mp (hw.symm.trans hurl)
  simp only [wp_bind]
  refine wp_executeUpdate ?_ fun h => absurd h ht
  simp only [Bool.not_true, Bool.false_eq_true, if_false, wp_bind, wp_appendToOutput]
  exact h _

/-! ## Adding -/

theorem wp_unignoreNode {Q : Unit → World → Prop}
    (hcrash : w.ignoreNodeList = none → E .nullPointer w)
    (h : ∀ l q, w.ignoreNodeList = some l → Q () ((w.listing
      (some (l.erase (some (w.text .wsnGeneralManualNodeAddId)))) w.ignoreSensorList).quietly q)) :
    wp (under col may) unignoreNode Q E w := by
  simp only [unignoreNode, wp_bind, wp_getText, wp_getIgnoreNodeList]
  cases hl : w.ignoreNodeList with
  | none => exact hcrash hl
  | some l =>
    simp only
    rw [wp_ite]
    refine ⟨fun _ => ?_, fun hmem => ?_⟩
    · simp only [wp_bind, wp_appendToOutput, wp_getText, wp_removeIgnoreNode]
      rw [World.quietly_ignoreNodeList, hl, Option.map_some]
      exact h l (w.traffic.say .nodeUnignored) hl
    · have := h l w.traffic hl
      rw [List.erase_of_not_mem (by simpa using hmem), ← hl] at this
      exact this

section Adding

variable [Jdk]

theorem wp_manualNodeAdd {Q : Unit → World → Prop} (ht : ¬ Trouble may w)
    (hw : w.mysql .mysqlAddress = some url)
    (hidle : ∀ q, ((w.text .wsnGeneralManualNodeAddId).isEmpty = false →
      ¬ w.database.hasNode col (w.text .wsnGeneralManualNodeAddId) →
      parsesURL (some (w.text .wsnGeneralManualNodeAddAddress)) = false) → Q () (w.quietly q))
    (hcrash : ∀ q, w.ignoreNodeList = none →
      (w.text .wsnGeneralManualNodeAddId).isEmpty = false →
      ¬ w.database.hasNode col (w.text .wsnGeneralManualNodeAddId) →
      parsesURL (some (w.text .wsnGeneralManualNodeAddAddress)) = true →
        E .nullPointer (w.quietly q))
    (hadd : ∀ l q, w.ignoreNodeList = some l →
      (w.text .wsnGeneralManualNodeAddId).isEmpty = false →
      ¬ w.database.hasNode col (w.text .wsnGeneralManualNodeAddId) →
      parsesURL (some (w.text .wsnGeneralManualNodeAddAddress)) = true →
      wp (under col may) updateNodeSelects (fun _ w' =>
          Q () ((w'.setText .wsnGeneralManualNodeAddId "").setText
            .wsnGeneralManualNodeAddAddress "")) E
        (((w.listing (some (l.erase (some (w.text .wsnGeneralManualNodeAddId))))
          w.ignoreSensorList).update col url (.insertNode (w.text .wsnGeneralManualNodeAddId)
            (some (w.text .wsnGeneralManualNodeAddAddress)))).quietly q)) :
    wp (under col may) manualNodeAdd Q E w := by
  simp only [manualNodeAdd, wp_bind, wp_getText]
  rw [wp_ite]
  refine ⟨fun hempty => by simpa using hidle _ (by simp [hempty]), fun hid => ?_⟩
  simp only [wp_bind]
  refine wp_openStatement (fun c q₁ hurl => ?_) fun h => absurd h ht
  obtain rfl : url = c.url := Option.some_inj.mp (hw.symm.trans hurl)
  simp only [wp_bind, wp_getText]
  refine wp_executeQuery ?_ fun h => absurd h ht
  simp only [wp_bind]
  refine wp_readRows (fun q₂ => ?_) fun h => absurd h ht
  simp only
  have hrows : ((Query.node (w.text .wsnGeneralManualNodeAddId)).run col (w.servers c.url)).map
      NodeRow.id = [] ↔ ¬ w.database.hasNode col (w.text .wsnGeneralManualNodeAddId) := by
    rw [List.map_eq_nil_iff, ← World.database_of_url hw, Database.run_node_eq_nil]
  rw [wp_ite]
  refine ⟨fun hsome => ?_, fun hnone => ?_⟩
  · simp only [wp_bind, wp_appendToOutput, wp_pure]
    refine hidle _ fun _ hnot => absurd (hrows.mpr hnot) ?_
    simpa using hsome
  have hnot := hrows.mp (by simpa using hnone)
  simp only [wp_bind, wp_getText]
  rw [wp_ite]
  refine ⟨fun hparse => ?_, fun hparse => ?_⟩
  · simp only [wp_bind, wp_appendToOutput, wp_pure]
    exact hidle _ fun _ _ => by simpa using hparse
  simp only [wp_bind, wp_appendToOutput]
  refine wp_unignoreNode (fun hl => hcrash _ hl (by simpa using hid) hnot (by simpa using hparse))
    fun l q₃ hl => ?_
  simp only [insertTypedNode, wp_bind, wp_createStatement]
  refine ⟨?_, fun h => absurd (.of_may (c := .createStatement c) trivial h) ht⟩
  simp only [Bool.not_true, Bool.false_eq_true, if_false, wp_bind, wp_getText]
  refine wp_executeUpdate ?_ fun h => absurd h ht
  simp only [Bool.not_true, Bool.false_eq_true, if_false, wp_bind, wp_appendToOutput]
  refine wp_closeConnection fun q₄ => ?_
  refine (hadd l q₄ hl (by simpa using hid) hnot (by simpa using hparse)).mono
    (fun _ w' h => ?_) fun _ _ h => h
  simp only [wp_setText]
  exact h

omit [Jdk] in
theorem wp_ignoreSensorListContainsString {Q : Unit → World → Prop}
    (hcrash : w.ignoreSensorList = none → E .nullPointer w)
    (h : w.ignoreSensorList ≠ none → Q () w) :
    wp (under col may) ignoreSensorListContainsString Q E w := by
  simp only [ignoreSensorListContainsString, wp_bind, wp_getIgnoreSensorList]
  cases hl : w.ignoreSensorList with
  | none => exact hcrash hl
  | some l => exact h (by simp [hl])

/-- What a search found can be taken out. -/
theorem removeEntry_of_containsEntry {o : SensorIgnoreIdTypeObject}
    {l : List SensorIgnoreIdTypeObject} (h : containsEntry o l = .ok true) :
    ∃ rest, removeEntry o l = .ok rest ∧ rest.length + 1 = l.length := by
  induction l with
  | nil => cases h
  | cons entry l ih =>
    rw [containsEntry] at h
    rw [removeEntry]
    cases ho : o.equals entry with
    | error e => simp [ho] at h
    | ok b =>
      cases b with
      | true => exact ⟨l, rfl, rfl⟩
      | false =>
        obtain ⟨rest, hrest, hlen⟩ := ih (by simpa [ho] using h)
        exact ⟨entry :: rest, by simp [hrest, Except.map], by simpa using hlen⟩

theorem wp_unignoreSensor {Q : Unit → World → Prop} {l : List SensorIgnoreIdTypeObject}
    (hl : w.ignoreSensorList = some l)
    (hcrash : ∀ e, containsEntry ⟨(w.combo .wsnSensorsNodeComboBox).selected,
      some (w.text .wsnSensorsManualSensorAddType)⟩ l = .error e → E e w)
    (hout : containsEntry ⟨(w.combo .wsnSensorsNodeComboBox).selected,
      some (w.text .wsnSensorsManualSensorAddType)⟩ l = .ok false → Q () w)
    (hin : ∀ rest q, containsEntry ⟨(w.combo .wsnSensorsNodeComboBox).selected,
      some (w.text .wsnSensorsManualSensorAddType)⟩ l = .ok true →
      removeEntry ⟨(w.combo .wsnSensorsNodeComboBox).selected,
        some (w.text .wsnSensorsManualSensorAddType)⟩ l = .ok rest →
      Q () ((w.listing w.ignoreNodeList (some rest)).quietly q)) :
    wp (under col may) unignoreSensor Q E w := by
  simp only [unignoreSensor, ignoreSensorListContains, wp_bind, wp_getSelectedItem, wp_getText,
    wp_getIgnoreSensorList, hl]
  cases hc : containsEntry _ l with
  | error e => exact hcrash e hc
  | ok listed =>
    cases listed with
    | false => exact hout hc
    | true =>
      obtain ⟨rest, hrest, -⟩ := removeEntry_of_containsEntry hc
      simp only [wp_pure, if_true, wp_bind, wp_getIgnoreSensorList, hl, hrest,
        wp_setIgnoreSensorList, wp_appendToOutput]
      exact hin rest _ hc hrest

/-- What adding a sensor by hand comes down to: the row goes in, then the ignore list is seen to,
and the box is refilled last. -/
theorem wp_manualSensorAdd_refill {Q : Unit → World → Prop} (ht : ¬ Trouble may w)
    (hw : w.mysql .mysqlAddress = some url)
    (hidle : ∀ q, ((w.text .wsnSensorsManualSensorAddType).isEmpty = true ∨
      (Query.sensor (spell (w.combo .wsnSensorsNodeComboBox).selected)
        (w.text .wsnSensorsManualSensorAddType)).run col w.database ≠ []) → Q () (w.quietly q))
    (hcrash : ∀ q, w.ignoreSensorList = none →
      (w.text .wsnSensorsManualSensorAddType).isEmpty = false →
      (Query.sensor (spell (w.combo .wsnSensorsNodeComboBox).selected)
        (w.text .wsnSensorsManualSensorAddType)).run col w.database = [] →
        E .nullPointer (w.quietly q))
    (hadd : (w.text .wsnSensorsManualSensorAddType).isEmpty = false →
      (Query.sensor (spell (w.combo .wsnSensorsNodeComboBox).selected)
        (w.text .wsnSensorsManualSensorAddType)).run col w.database = [] →
      w.ignoreSensorList ≠ none → ∀ q, wp (under col may) unignoreSensor (fun _ w' =>
          wp (under col may) (updateSensorsSelect (w'.combo .wsnSensorsNodeComboBox).selected)
            (fun _ w'' => Q () (w''.setText .wsnSensorsManualSensorAddType "")) E w') E
        ((w.update col url (.insertSensor (spell (w.combo .wsnSensorsNodeComboBox).selected)
          (w.text .wsnSensorsManualSensorAddType))).quietly q)) :
    wp (under col may) manualSensorAdd Q E w := by
  simp only [manualSensorAdd, wp_bind, wp_getText]
  rw [wp_ite]
  refine ⟨fun hempty => by simpa using hidle _ (.inl hempty), fun htype => ?_⟩
  simp only [wp_bind]
  refine wp_openStatement (fun c q₁ hurl => ?_) fun h => absurd h ht
  obtain rfl : url = c.url := Option.some_inj.mp (hw.symm.trans hurl)
  simp only [wp_bind, wp_getSelectedItem, wp_getText]
  refine wp_executeQuery ?_ fun h => absurd h ht
  simp only [wp_bind]
  refine wp_readRows (fun q₂ => ?_) fun h => absurd h ht
  simp only
  rw [wp_ite]
  rw [World.database_of_url hw] at hidle hcrash hadd
  refine ⟨fun hsome => by simpa using hidle _ (.inr (by simpa using hsome)), fun hnone => ?_⟩
  have htype' : (w.text .wsnSensorsManualSensorAddType).isEmpty = false := by simpa using htype
  simp only [wp_bind, wp_appendToOutput]
  refine wp_ignoreSensorListContainsString (fun hl => hcrash _ hl htype' (by simpa using hnone))
    fun hl => ?_
  simp only [insertTypedSensor, wp_bind, wp_createStatement]
  refine ⟨?_, fun h => absurd (.of_may (c := .createStatement c) trivial h) ht⟩
  simp only [Bool.not_true, Bool.false_eq_true, if_false, wp_bind, wp_getSelectedItem, wp_getText]
  refine wp_executeUpdate ?_ fun h => absurd h ht
  simp only [Bool.not_true, Bool.false_eq_true, if_false, wp_bind, wp_appendToOutput]
  refine wp_closeConnection fun q₄ => ?_
  refine (hadd htype' (by simpa using hnone) hl q₄).mono (fun _ w' h => ?_) fun _ _ h => h
  rw [wp_getSelectedItem]
  refine h.mono (fun _ w'' h => ?_) fun _ _ h => h
  rw [wp_setText]
  exact h

/-- The refill redraws the box of the sensors. -/
theorem wp_manualSensorAdd {Q : Unit → World → Prop} (ht : ¬ Trouble may w)
    (hw : w.mysql .mysqlAddress = some url)
    (hidle : ∀ q, ((w.text .wsnSensorsManualSensorAddType).isEmpty = false →
      (Query.sensor (spell (w.combo .wsnSensorsNodeComboBox).selected)
        (w.text .wsnSensorsManualSensorAddType)).run col w.database ≠ []) → Q () (w.quietly q))
    (hcrash : ∀ q, w.ignoreSensorList = none → E .nullPointer (w.quietly q))
    (hadd : (w.text .wsnSensorsManualSensorAddType).isEmpty = false →
      (Query.sensor (spell (w.combo .wsnSensorsNodeComboBox).selected)
        (w.text .wsnSensorsManualSensorAddType)).run col w.database = [] →
      w.ignoreSensorList ≠ none → ∀ q, wp (under col may) unignoreSensor (fun _ w' => ∀ t b q',
          Frame (· = .wsnSensorsSensorsComboBox) w' t b →
          Q () ((w'.redrawn t b q').setText .wsnSensorsManualSensorAddType "")) E
        ((w.update col url (.insertSensor (spell (w.combo .wsnSensorsNodeComboBox).selected)
          (w.text .wsnSensorsManualSensorAddType))).quietly q)) :
    wp (under col may) manualSensorAdd Q E w := by
  refine wp_manualSensorAdd_refill ht hw (fun q h => hidle q fun htype => ?_)
    (fun q hl _ _ => hcrash q hl) fun htype hnone hlist q => ?_
  · exact h.resolve_left (by simp [htype])
  · refine (hadd htype hnone hlist q).mono (fun _ w' h => ?_) fun _ _ h => h
    exact wp_redraws (redraws_updateSensorsSelect (S := (· = .wsnSensorsSensorsComboBox)) rfl _)
      fun _ => h

theorem wp_manualActuatorAdd {Q : Unit → World → Prop} (ht : ¬ Trouble may w)
    (hw : w.mysql .mysqlAddress = some url)
    (hidle : ∀ q, ((w.text .actuatorManualActuatorAddId).isEmpty = true ∨
      (w.text .actuatorManualActuatorAddAddress).isEmpty = true ∨
      parsesURL (some (w.text .actuatorManualActuatorAddAddress)) = false ∨
      (Query.actuator (w.text .actuatorManualActuatorAddId)).run col w.database ≠ []) →
        Q () (w.quietly q))
    (hadd : ∀ q, (w.text .actuatorManualActuatorAddId).isEmpty = false →
      (w.text .actuatorManualActuatorAddAddress).isEmpty = false →
      (Query.actuator (w.text .actuatorManualActuatorAddId)).run col w.database = [] →
      parsesURL (some (w.text .actuatorManualActuatorAddAddress)) = true →
      wp (under col may) updateActuatorsSelects Q E
        ((((w.update col url (.insertActuator (w.text .actuatorManualActuatorAddId)
          (w.text .actuatorManualActuatorAddAddress))).setText .actuatorManualActuatorAddAddress
            "").setText .actuatorManualActuatorAddId "").quietly q)) :
    wp (under col may) manualActuatorAdd Q E w := by
  simp only [manualActuatorAdd, wp_bind, wp_getText]
  rw [wp_ite]
  refine ⟨fun hid => by simpa using hidle _ (.inl hid), fun hid => ?_⟩
  simp only [wp_bind, wp_getText]
  rw [wp_ite]
  refine ⟨fun haddress => by simpa using hidle _ (.inr (.inl haddress)), fun haddress => ?_⟩
  simp only [wp_bind, wp_getText]
  rw [wp_ite]
  refine ⟨fun hparse => by simpa using hidle _ (.inr (.inr (.inl (by simpa using hparse)))),
    fun hparse => ?_⟩
  simp only [wp_bind]
  refine wp_openStatement (fun c q₁ hurl => ?_) fun h => absurd h ht
  obtain rfl : url = c.url := Option.some_inj.mp (hw.symm.trans hurl)
  simp only [wp_bind, wp_getText]
  refine wp_executeQuery ?_ fun h => absurd h ht
  simp only [wp_bind]
  refine wp_readRows (fun q₂ => ?_) fun h => absurd h ht
  simp only
  rw [wp_ite]
  rw [World.database_of_url hw] at hidle hadd
  refine ⟨fun hsome => by simpa using hidle _ (.inr (.inr (.inr (by simpa using hsome)))),
    fun hnone => ?_⟩
  simp only [insertTypedActuator, wp_bind, wp_appendToOutput, wp_createStatement]
  refine ⟨?_, fun h => absurd (.of_may (c := .createStatement c) trivial h) ht⟩
  simp only [Bool.not_true, Bool.false_eq_true, if_false, wp_bind, wp_getText]
  refine wp_executeUpdate ?_ fun h => absurd h ht
  simp only [Bool.not_true, Bool.false_eq_true, if_false, wp_bind, wp_appendToOutput]
  refine wp_closeConnection fun q₃ => ?_
  simp only [wp_setText]
  exact hadd _ (by simpa using hid) (by simpa using haddress) (by simpa using hnone)
    (by simpa using hparse)

/-! ## The other buttons -/

theorem wp_updateNodeAddress {Q : Unit → World → Prop} (ht : ¬ Trouble may w)
    (hw : w.mysql .mysqlAddress = some url)
    (hidle : ∀ q, parsesURL (some (w.text .wsnGeneralNodeAddressField)) = false →
      Q () (w.quietly q))
    (hsave : ∀ q, parsesURL (some (w.text .wsnGeneralNodeAddressField)) = true →
      Q () (((w.update col url (.setNodeAddress (w.text .wsnGeneralNodeAddressField)
        (spell (w.combo .wsnGeneralNodeComboBox).selected))).setText .wsnSensorsNodeAddressField
          (w.text .wsnGeneralNodeAddressField)).quietly q)) :
    wp (under col may) updateNodeAddress Q E w := by
  simp only [updateNodeAddress, wp_bind, wp_getText, wp_getSelectedItem]
  rw [wp_ite]
  refine ⟨fun hparse => ?_, fun hparse => ?_⟩
  · simp only [wp_bind, wp_appendToOutput, wp_pure]
    exact hidle _ (by simpa using hparse)
  simp only [wp_bind]
  refine wp_openStatement (fun c q₁ hurl => ?_) fun h => absurd h ht
  obtain rfl : url = c.url := Option.some_inj.mp (hw.symm.trans hurl)
  simp only [wp_bind]
  refine wp_executeUpdate ?_ fun h => absurd h ht
  simp only [Bool.not_true, Bool.false_eq_true, if_false, wp_bind, wp_appendToOutput]
  refine wp_closeConnection fun q₂ => ?_
  rw [wp_setText]
  exact hsave q₂ (by simpa using hparse)

theorem wp_updateActuatorAddress {Q : Unit → World → Prop} (ht : ¬ Trouble may w)
    (hw : w.mysql .mysqlAddress = some url)
    (hidle : ∀ q, parsesURL (some (w.text .actuatorAddressField)) = false → Q () (w.quietly q))
    (hsave : ∀ q, parsesURL (some (w.text .actuatorAddressField)) = true →
      Q () (((w.update col url (.setActuatorAddress (w.text .actuatorAddressField)
        (spell (w.combo .actuatorActuatorComboBox).selected))).setText .actuatorAddressField
          (w.text .actuatorAddressField)).quietly q)) :
    wp (under col may) updateActuatorAddress Q E w := by
  simp only [updateActuatorAddress, wp_bind, wp_getText, wp_getSelectedItem]
  rw [wp_ite]
  refine ⟨fun hparse => ?_, fun hparse => ?_⟩
  · simp only [wp_bind, wp_appendToOutput, wp_pure]
    exact hidle _ (by simpa using hparse)
  simp only [wp_bind]
  refine wp_openStatement (fun c q₁ hurl => ?_) fun h => absurd h ht
  obtain rfl : url = c.url := Option.some_inj.mp (hw.symm.trans hurl)
  simp only [wp_bind]
  refine wp_executeUpdate ?_ fun h => absurd h ht
  simp only [Bool.not_true, Bool.false_eq_true, if_false, wp_bind, wp_appendToOutput]
  refine wp_closeConnection fun q₂ => ?_
  rw [wp_setText]
  exact hsave q₂ (by simpa using hparse)

end Adding

theorem wp_calibrateReset {Q : Unit → World → Prop} (ht : ¬ Trouble may w)
    (hw : w.mysql .mysqlAddress = some url)
    (h : ∀ q, Q () ((((w.update col url (.resetBounds
      (spell (w.combo .wsnSensorsNodeComboBox).selected)
      (spell (w.combo .wsnSensorsSensorsComboBox).selected))).setText
        .wsnSensorsCalibrationMaxField "").setText .wsnSensorsCalibrationMinField "").quietly q)) :
    wp (under col may) calibrateReset Q E w := by
  simp only [calibrateReset, wp_bind, wp_getSelectedItem]
  refine wp_openStatement (fun c q₁ hurl => ?_) fun h => absurd h ht
  obtain rfl : url = c.url := Option.some_inj.mp (hw.symm.trans hurl)
  simp only [wp_bind]
  refine wp_executeUpdate ?_ fun h => absurd h ht
  simp only [Bool.not_true, Bool.false_eq_true, if_false, wp_bind, wp_appendToOutput]
  refine wp_closeConnection fun q₂ => ?_
  simp only [wp_setText]
  exact h q₂

theorem redraws_refreshNodeAddress {S : ComboBox → Prop} : Redraws S refreshNodeAddress := by
  refine (redraws_getSelectedItem _).bind fun id => ?_
  refine redraws_bindOption (redraws_openStatement _) trivial fun connect => ?_
  refine redraws_bindOption (redraws_executeQuery _ _ _) trivial fun rows => ?_
  refine redraws_bindOption (redraws_firstRow _ _) (redraws_appendToOutput _) fun row => ?_
  refine (redraws_setTextOrNull (by trivial) _).bind fun _ => ?_
  refine uses_call_bind _ _ |>.mpr ⟨trivial, fun ok => Program.uses_ite _ ?_ ?_⟩
  · exact (redraws_appendToOutput _).bind fun _ => trivial
  · exact (redraws_setTextOrNull (by trivial) _).bind fun _ => redraws_closeConnection _

theorem redraws_refreshActuatorAddress {S : ComboBox → Prop} :
    Redraws S refreshActuatorAddress := by
  refine (redraws_getSelectedItem _).bind fun id => ?_
  refine redraws_bindOption (redraws_openStatement _) trivial fun connect => ?_
  refine redraws_bindOption (redraws_executeQuery _ _ _) trivial fun rows => ?_
  refine redraws_bindOption (redraws_firstRow _ _) (redraws_appendToOutput _) fun row => ?_
  exact (redraws_setTextOrNull (by trivial) _).bind fun _ => redraws_closeConnection _

theorem wp_takeMysqlFields {Q : Unit → World → Prop}
    (h : ∀ m, m .mysqlAddress ≠ none → Q () { w with mysql := m }) :
    wp (under col may) takeMysqlFields Q E w := by
  have hset : ∀ d s {R : Unit → World → Prop} {w' : World}, wp (α := Unit) (under col may)
      (call (.setMysql d s)) R E w' ↔ R () (w'.setMysql d s) :=
    fun d s {R w'} => wp_call_steady (c := .setMysql d s) fun _ => rfl
  simp only [takeMysqlFields, wp_bind, wp_getText, hset]
  exact h _ (by simp [World.setMysql, Function.update])

/-- The details file holds something else. -/
def World.withDetailsFile (w : World) (s : Option String) : World := { w with mysqldetails := s }

/-- *Save*: the details in force change, and perhaps those in the file. -/
theorem wp_saveMysql {Q : Unit → World → Prop}
    (h : ∀ m s q, m .mysqlAddress ≠ none →
      Q () ((({ w with mysql := m } : World).withDetailsFile s).quietly q)) :
    wp (under col may) (do takeMysqlFields; saveMysqlDetails) Q E w := by
  have hget : ∀ d {R : Option String → World → Prop} {w' : World},
      wp (α := Option String) (under col may) (call (.getMysql d)) R E w' ↔ R (w'.mysql d) w' :=
    fun d {R w'} => wp_call_steady (c := .getMysql d) fun _ => rfl
  rw [wp_bind]
  refine wp_takeMysqlFields fun m hm => ?_
  simp only [saveMysqlDetails, wp_bind, hget]
  refine (wp_call_faulty (.writeMysqldetails _)).mpr ⟨fun r => ?_, fun _ r => ?_⟩
  · rw [wp_ite]
    refine ⟨fun _ => ?_, fun h => absurd rfl h⟩
    rw [wp_appendToOutput]
    exact h m _ _ hm
  · rw [wp_ite]
    refine ⟨by simp [step], fun _ => ?_⟩
    rw [wp_appendToOutput]
    exact h m w.mysqldetails _ hm

end CrossingReality
