import CrossingReality.Forwarding

/-!
# What a reading does

The parts of `sensed` one after the other, where no database call fails. Each rule says what the
part makes of the registry and of the POSTs, as a function of the world it starts in.

* `wp_sensed` — the things a reading can lead to.
-/

namespace CrossingReality

open Effects

variable {col : Collation} {may : Call → Prop} {w : World} {E : Exn → World → Prop}
variable {id type url : String}

/-! ## A node that is not registered -/

theorem wp_addUnrecognisedNode {c : Connection} {Q : Unit → World → Prop}
    (ht : ¬ Trouble may w) (hc : w.mysql .mysqlAddress = some c.url)
    (h : ∀ q, wp (under col may) updateNodeSelects Q E
      ((w.withDatabase c.url (w.database.apply col (.insertNode id none))).quietly q)) :
    wp (under col may) (addUnrecognisedNode c id) Q E w := by
  simp only [addUnrecognisedNode, wp_bind, wp_appendToOutput, wp_createStatement]
  refine ⟨?_, fun hm => absurd (.of_may (c := .createStatement c) trivial hm) ht⟩
  simp only [Bool.not_true, Bool.false_eq_true, if_false, wp_bind]
  refine wp_executeUpdate ?_ fun h => absurd h ht
  simp only [Bool.not_true, Bool.false_eq_true, if_false, wp_bind]
  refine wp_closeConnection_perRequest (fun q₁ => ?_)
    fun hm => absurd (.of_may (c := .close c) trivial hm) ht
  simp only [wp_appendToOutput]
  rw [← World.update_eq_withDatabase hc] at h
  exact h _

/-- A reading from an unregistered node adds it, unless that is off or the node is ignored. -/
theorem wp_unrecognisedNode {c : Connection} {Q : Unit → World → Prop}
    (ht : ¬ Trouble may w) (hc : w.mysql .mysqlAddress = some c.url)
    (hskip : ∀ q, (w.checked .wsnGeneralAutoAddCheck = true →
      ∃ l, w.ignoreNodeList = some l ∧ some id ∈ l) → Q () (w.quietly q))
    (hcrash : ∀ q, w.checked .wsnGeneralAutoAddCheck = true → w.ignoreNodeList = none →
      E .nullPointer (w.quietly q))
    (hadd : ∀ l q, w.checked .wsnGeneralAutoAddCheck = true → w.ignoreNodeList = some l →
      some id ∉ l → wp (under col may) updateNodeSelects Q E
        ((w.withDatabase c.url (w.database.apply col (.insertNode id none))).quietly q)) :
    wp (under col may) (unrecognisedNode c id) Q E w := by
  simp only [unrecognisedNode, wp_bind, wp_appendToOutput, wp_isSelected]
  rw [wp_ite]
  refine ⟨fun hoff => ?_, fun hon => ?_⟩
  · simp only [wp_bind, wp_appendToOutput, wp_pure]
    exact hskip _ fun h => by simp_all
  simp only [Bool.not_eq_true', Bool.not_eq_false, World.quietly_checked] at hon
  simp only [wp_bind, wp_getIgnoreNodeList]
  cases hl : (w.quietly (w.traffic.say (.nodeUnrecognised id))).ignoreNodeList with
  | none => exact hcrash _ hon hl
  | some l =>
    simp only
    rw [wp_ite]
    refine ⟨fun hmem => ?_, fun hmem => ?_⟩
    · simp only [wp_bind, wp_appendToOutput, wp_pure]
      exact hskip _ fun _ => ⟨l, hl, by simpa using hmem⟩
    · exact wp_addUnrecognisedNode ht hc fun q => hadd l q hon hl (by simpa using hmem)

/-! ## A sensor that is not registered -/

theorem wp_lookUpTypes {Q : Option (List String) → World → Prop} (ht : ¬ Trouble may w)
    (h : ∀ q, Q (some (((Query.sensors id).run col w.database).map SensorRow.type))
      (w.quietly q)) :
    wp (under col may) (lookUpTypes id) Q E w := by
  simp only [lookUpTypes, wp_bind]
  refine wp_openStatement (fun c q₁ hurl => ?_) fun h => absurd h ht
  have hdb : w.database = w.servers c.url := World.database_of_url hurl
  simp only [wp_bind]
  refine wp_executeQuery ?_ fun h => absurd h ht
  refine wp_readRows (fun q₂ => ?_) fun h => absurd h ht
  simpa [hdb] using h q₂

theorem wp_addUnrecognisedSensor {Q : Unit → World → Prop} (ht : ¬ Trouble may w)
    (hw : w.mysql .mysqlAddress = some url)
    (h : ∀ q, wp (under col may) (updateSensorsSelect (w.combo .wsnSensorsNodeComboBox).selected)
      (fun _ w' => ∀ q', Q () (w'.quietly q')) E
      ((w.withDatabase url (w.database.apply col (.insertSensor id type))).quietly q)) :
    wp (under col may) (addUnrecognisedSensor id type) Q E w := by
  simp only [addUnrecognisedSensor, wp_bind, wp_appendToOutput]
  refine wp_openStatement (fun c q₁ hurl => ?_) fun h => absurd h ht
  obtain rfl : url = c.url := Option.some_inj.mp (hw.symm.trans hurl)
  simp only [wp_bind]
  refine wp_executeUpdate ?_ fun h => absurd h ht
  simp only [Bool.not_true, Bool.false_eq_true, if_false, wp_bind, wp_appendToOutput]
  refine wp_closeConnection fun q₂ => ?_
  rw [wp_getSelectedItem]
  rw [← World.update_eq_withDatabase hw] at h
  exact (h q₂).mono (fun _ _ h => h _) fun _ _ h => h

/-! ## Calibration -/

/-- The updates a reading makes on the bounds that were read. -/
def calibration (id type : String) (value : Int32) (b : Bounds) : List Update :=
  match b.min, b.max with
  | some min, some max =>
    (if value < min then [.setMin value id type] else []) ++
      (if max < value then [.setMax value id type] else [])
  | none, none => [.setBounds value id type]
  | _, _ => []

/-- The bounds after a reading. A row with one bound is left alone. -/
def calibrated (value : Int32) (b : Bounds) : Bounds :=
  match b.min, b.max with
  | some min, some max =>
    ⟨some (if max < value then value else max), some (if value < min then value else min)⟩
  | none, none => ⟨some value, some value⟩
  | _, _ => b

/-- The updates of a reading change the bounds of the rows that match, those that were read to
calibrated ones. -/
theorem foldl_calibration (col : Collation) (id type : String) (d : Database) (value : Int32)
    (b : Bounds) :
    ∃ f, (calibration id type value b).foldl (Database.apply col) d =
      d.mapBounds col id type f ∧ f b = calibrated value b := by
  obtain ⟨max, min⟩ := b
  cases min with
  | none =>
    cases max with
    | none => exact ⟨fun _ => ⟨some value, some value⟩, rfl, rfl⟩
    | some max => exact ⟨_, Database.mapBounds_id.symm, rfl⟩
  | some min =>
    cases max with
    | none => exact ⟨_, Database.mapBounds_id.symm, rfl⟩
    | some max =>
      simp only [calibration, List.foldl_append]
      split <;> split <;> simp only [List.foldl_cons, List.foldl_nil, Database.apply_setMin,
        Database.apply_setMax, Database.mapBounds_mapBounds]
      · exact ⟨_, rfl, by simp [calibrated, *]⟩
      · exact ⟨_, rfl, by simp [calibrated, *]⟩
      · exact ⟨_, rfl, by simp [calibrated, *]⟩
      · exact ⟨_, Database.mapBounds_id.symm, by simp [calibrated, *]⟩

theorem wp_writeBound {u : Update} {m m' : Message} {Q : Bool → World → Prop}
    (hbad : Trouble may w → ∀ w', Q false w') (hw : w.mysql .mysqlAddress = some url)
    (h : ∀ q, Q true ((w.withDatabase url (w.database.apply col u)).quietly q)) :
    wp (under col may) (writeBound u m m') Q E w := by
  simp only [writeBound, wp_bind]
  refine wp_openStatement (fun c q₁ hurl => ?_) fun ht q => hbad ht _
  obtain rfl : url = c.url := Option.some_inj.mp (hw.symm.trans hurl)
  simp only [wp_bind]
  refine wp_executeUpdate ?_ fun ht q => hbad ht _
  simp only [Bool.not_true, Bool.false_eq_true, if_false, wp_bind]
  refine wp_closeConnection fun q₂ => ?_
  rw [← World.update_eq_withDatabase hw] at h
  simpa using h _

section Sensed

variable [Jdk]

/-! ## Looking up the node -/

/-- The address of a row, if it parses. -/
def parsedAddress (row : NodeRow) : Option String := row.address.filter fun a => parsesURL (some a)

/-- What `sensed` keeps of the rows of a node. -/
def nodeLookup (rows : List NodeRow) : List String × List String :=
  (rows.map NodeRow.id, rows.filterMap parsedAddress)

theorem foldl_collect (rows : List NodeRow) (acc : List String × List String) :
    rows.foldl (fun acc row => (acc.1 ++ [row.id], acc.2 ++ (parsedAddress row).toList)) acc =
      (acc.1 ++ (nodeLookup rows).1, acc.2 ++ (nodeLookup rows).2) := by
  induction rows generalizing acc with
  | nil => simp [nodeLookup]
  | cons row rows ih =>
    rw [List.foldl_cons, ih]
    cases h : parsedAddress row <;> simp [nodeLookup, h]

theorem wp_collectNode {acc : List String × List String} {row : NodeRow}
    {Q : List String × List String → World → Prop}
    (h : ∀ q, Q (acc.1 ++ [row.id], acc.2 ++ (parsedAddress row).toList) (w.quietly q)) :
    wp (under col may) (collectNode acc row) Q E w := by
  unfold collectNode
  cases haddr : row.address with
  | none => simpa [parsedAddress, haddr] using h _
  | some a =>
    cases hparse : parsesURL (some a) with
    | true => simpa [parsedAddress, haddr, hparse, Option.filter] using h w.traffic
    | false => simpa [parsedAddress, haddr, hparse, Option.filter] using h _

theorem wp_lookUpNode {Q : Option (Connection × List String × List String) → World → Prop}
    (ht : ¬ Trouble may w)
    (h : ∀ c q, w.mysql .mysqlAddress = some c.url →
      Q (some (c, nodeLookup ((Query.node id).run col w.database))) (w.quietly q)) :
    wp (under col may) (lookUpNode id) Q E w := by
  simp only [lookUpNode, wp_bind]
  refine wp_openStatement (fun c q₁ hurl => ?_) fun h => absurd h ht
  have hdb : w.database = w.servers c.url := World.database_of_url hurl
  simp only [wp_bind]
  refine wp_executeQuery ?_ fun h => absurd h ht
  simp only [wp_bind]
  refine wp_whileNext (fun acc row q R hR => wp_collectNode hR) _ _ q₁ (fun q₂ => ?_)
    fun h => absurd h ht
  rw [foldl_collect]
  simpa [hdb] using h c q₂ hurl

/-! ## Calibrating a registered sensor -/

theorem redraws_selectedSensorIs {S : ComboBox → Prop} : Redraws S (selectedSensorIs id type) := by
  refine (redraws_getSelectedItem _).bind fun node => Program.uses_ite _ trivial ?_
  exact (redraws_getSelectedItem _).bind fun _ => trivial

theorem redraws_showBound {S : ComboBox → Prop} (value : Int32) {fields : List TextField}
    (hf : ∀ f ∈ fields, f.shows) : Redraws S (showBound id type value fields) := by
  refine redraws_selectedSensorIs.bind fun b => Program.uses_ite _ ?_ trivial
  induction fields with
  | nil => trivial
  | cons f fields ih =>
    refine (redraws_setText (hf f List.mem_cons_self) _).bind fun _ => ?_
    exact ih fun g hg => hf g (List.mem_cons_of_mem f hg)

/-- Some fields that show what is selected may have changed. -/
theorem wp_showBound {value : Int32} {fields : List TextField} {Q : Unit → World → Prop}
    (hf : ∀ f ∈ fields, f.shows)
    (h : ∀ t q, (∀ f, ¬ f.shows → t f = w.text f) → Q () (w.redrawn t w.combo q)) :
    wp (under col may) (showBound id type value fields) Q E w :=
  wp_redraws (S := fun _ => False) (redraws_showBound value hf) fun _ t c q hf => by
    obtain rfl : c = w.combo := funext fun b => hf.combo b not_false
    exact h t q hf.text

/-- Write a bound and show it. -/
theorem wp_writeShown {value : Int32} {u : Update} {m m' : Message} {fields : List TextField}
    {Q : Bool → World → Prop} (hbad : Trouble may w → ∀ w', Q false w')
    (hw : w.mysql .mysqlAddress = some url) (hf : ∀ f ∈ fields, f.shows)
    (h : ∀ t q, (∀ f, ¬ f.shows → t f = w.text f) →
      Q true ((w.withDatabase url (w.database.apply col u)).redrawn t w.combo q)) :
    wp (under col may) (do
      if !(← writeBound u m m') then return false
      showBound id type value fields
      return true) Q E w := by
  rw [wp_bind]
  refine wp_writeBound (fun ht w' => by simpa using hbad ht w') hw fun q₁ => ?_
  simp only [Bool.not_true, Bool.false_eq_true, if_false, wp_bind]
  exact wp_showBound hf fun t q hft => h t q hft

theorem wp_lowerMin {value min : Int32} {Q : Bool → World → Prop}
    (hbad : Trouble may w → ∀ w', Q false w') (hw : w.mysql .mysqlAddress = some url)
    (h : ∀ t q, (∀ f, ¬ f.shows → t f = w.text f) →
      Q true ((w.withDatabase url ((if value < min then [.setMin value id type] else []).foldl
        (Database.apply col) w.database)).redrawn t w.combo q)) :
    wp (under col may) (lowerMin id type value min) Q E w := by
  rw [lowerMin, wp_ite]
  refine ⟨fun hlt => wp_writeShown hbad hw ?_ ?_, fun hlt => ?_⟩
  · simp [TextField.shows]
  · simpa [hlt] using h
  · simpa [hlt, World.withDatabase_self hw] using h w.text w.traffic fun _ _ => rfl

theorem wp_raiseMax {value max : Int32} {Q : Bool → World → Prop}
    (hbad : Trouble may w → ∀ w', Q false w') (hw : w.mysql .mysqlAddress = some url)
    (h : ∀ t q, (∀ f, ¬ f.shows → t f = w.text f) →
      Q true ((w.withDatabase url ((if max < value then [.setMax value id type] else []).foldl
        (Database.apply col) w.database)).redrawn t w.combo q)) :
    wp (under col may) (raiseMax id type value max) Q E w := by
  rw [raiseMax, wp_ite]
  refine ⟨fun hlt => wp_writeShown hbad hw ?_ ?_, fun hlt => ?_⟩
  · simp [TextField.shows]
  · simpa [hlt] using h
  · simpa [hlt, World.withDatabase_self hw] using h w.text w.traffic fun _ _ => rfl

/-- Calibrating leaves the sensor's rows with the updates that the reading asks for. -/
theorem wp_calibrateRow {value : Int32} {b : Bounds} {Q : Bool → World → Prop}
    (hbad : Trouble may w → ∀ w', Q false w') (hw : w.mysql .mysqlAddress = some url)
    (h : ∀ t q, (∀ f, ¬ f.shows → t f = w.text f) →
      Q true ((w.withDatabase url ((calibration id type value b).foldl (Database.apply col)
        w.database)).redrawn t w.combo q)) :
    wp (under col may) (calibrateRow id type value b) Q E w := by
  obtain ⟨max, min⟩ := b
  cases min with
  | none =>
    cases max with
    | none => exact wp_writeShown hbad hw (by simp [TextField.shows]) h
    | some max =>
      simpa [calibrateRow, calibration, World.withDatabase_self hw] using
        h w.text w.traffic fun _ _ => rfl
  | some min =>
    cases max with
    | none =>
      simpa [calibrateRow, calibration, World.withDatabase_self hw] using
        h w.text w.traffic fun _ _ => rfl
    | some max =>
      simp only [calibrateRow, wp_bind]
      refine wp_lowerMin (fun ht w' => by simpa using hbad ht w') hw fun t q hf => ?_
      simp only [Bool.not_true, Bool.false_eq_true, if_false]
      refine wp_raiseMax (fun ht w' => hbad (by simpa [Trouble] using ht) w')
        (show _ = some url by simpa using hw) fun t' q' hf' => ?_
      simpa [calibration, World.withDatabase_database hw] using
        h t' q' fun f hs => (hf' f hs).trans (hf f hs)

theorem wp_calibrate {value : Int32} {b : Bounds} {Q : Bool → World → Prop}
    (hbad : Trouble may w → ∀ w', Q false w') (hw : w.mysql .mysqlAddress = some url)
    (hb : ((Query.bounds id type).run col w.database).head? = some b)
    (h : ∀ t q, (∀ f, ¬ f.shows → t f = w.text f) →
      Q true ((w.withDatabase url ((calibration id type value b).foldl (Database.apply col)
        w.database)).redrawn t w.combo q)) :
    wp (under col may) (calibrate id type value) Q E w := by
  simp only [calibrate, wp_bind]
  refine wp_readBounds (fun q₁ => ?_) fun ht q => hbad ht _
  simp only [hb]
  exact wp_calibrateRow (fun ht w' => hbad ht w') (show _ = some url from hw)
    fun t q hf => by simpa using h t q hf

/-! ## Forwarding a reading of a registered sensor -/

/-- The number sent for a reading. -/
def scaled (value : Int32) (b : Bounds) : JDouble :=
  match b.min, b.max with
  | some min, some max =>
    let x := (JDouble.num value.toInt).divInt (max - min).toInt
    let x := if x.gtOne then .num 1 else x
    if x.ltZero then .num 0 else x
  | _, _ => .num value.toInt

omit [Jdk] in
theorem wp_scaleValue_under {value : Int32} {b : Bounds} {Q : JDouble → World → Prop}
    (h : ∀ q, Q (scaled value b) (w.quietly q)) :
    wp (under col may) (scaleValue value b) Q E w := by
  have habove : ∀ (x : JDouble) (R : JDouble → World → Prop) (w' : World),
      (∀ q, R (if x.gtOne then .num 1 else x) (w'.quietly q)) →
        wp (under col may) (clampAbove x) R E w' := by
    intro x R w' hR
    cases hx : x.gtOne with
    | false => simpa [clampAbove, hx] using hR w'.traffic
    | true => simpa [clampAbove, hx] using hR _
  have hbelow : ∀ (x : JDouble) (R : JDouble → World → Prop) (w' : World),
      (∀ q, R (if x.ltZero then .num 0 else x) (w'.quietly q)) →
        wp (under col may) (clampBelow x) R E w' := by
    intro x R w' hR
    cases hx : x.ltZero with
    | false => simpa [clampBelow, hx] using hR w'.traffic
    | true => simpa [clampBelow, hx] using hR _
  obtain ⟨max, min⟩ := b
  cases min with
  | none => exact h w.traffic
  | some min =>
    cases max with
    | none => exact h w.traffic
    | some max =>
      simp only [scaleValue, wp_bind]
      exact habove _ _ _ fun q₁ => hbelow _ _ _ fun q₂ => h q₂

theorem wp_HTTPPOSTForward {value : Int32} {b : Bounds} {address : String}
    {Q : Bool → World → Prop} (ht : ¬ Trouble may w)
    (hb : ((Query.bounds id type).run col w.database).head? = some b)
    (h : ∀ ok q, Q ok ((w.posting ⟨address, ⟨id, type, scaled value b⟩⟩ ok).quietly q)) :
    wp (under col may) (HTTPPOSTForward id type value address) Q E w := by
  simp only [HTTPPOSTForward, wp_bind]
  refine wp_readBounds (fun q₁ => ?_) fun h => absurd h ht
  simp only [hb, wp_bind]
  refine wp_scaleValue_under fun q₂ => wp_sendPost fun ok q₃ => ?_
  cases ok with
  | false => simpa using h false q₃
  | true => simpa using h true _

/-- A reading of a registered sensor is posted to the address of its node, unless there is none or
forwarding is paused. -/
theorem wp_forwardReading {value : Int32} {b : Bounds} {addresses : List String}
    {Q : Bool → World → Prop} (ht : ¬ Trouble may w)
    (hb : ((Query.bounds id type).run col w.database).head? = some b)
    (hstop : ∀ q, (w.checked .wsnGeneralPauseWsnToVwCheck = true ∨ addresses.head? = none) →
      Q false (w.quietly q))
    (hgo : ∀ address ok q, w.checked .wsnGeneralPauseWsnToVwCheck = false →
      addresses.head? = some address →
        Q ok ((w.posting ⟨address, ⟨id, type, scaled value b⟩⟩ ok).quietly q)) :
    wp (under col may) (forwardReading id type value addresses) Q E w := by
  simp only [forwardReading, wp_bind, wp_appendToOutput, wp_isSelected]
  rw [wp_ite]
  refine ⟨fun hpaused => ?_, fun hpaused => ?_⟩
  · simpa using hstop _ (.inl hpaused)
  cases haddress : addresses.head? with
  | none => simpa using hstop _ (.inr haddress)
  | some address =>
    simp only [wp_bind, wp_appendToOutput]
    refine wp_HTTPPOSTForward ht hb fun ok q => ?_
    exact hgo address ok q (by simpa using hpaused) haddress

/-! ## A reading of a registered sensor -/

/-- The database after calibrating with a reading. -/
def Database.learn (col : Collation) (d : Database) (id type : String) (value : Int32) : Database :=
  match ((Query.bounds id type).run col d).head? with
  | none => d
  | some b => (calibration id type value b).foldl (Database.apply col) d

/-- The database after a reading of a registered sensor. -/
def World.learnt (w : World) (col : Collation) (id type : String) (value : Int32) : Database :=
  if w.checked .wsnSensorsCalibrateCheck then w.database.learn col id type value else w.database

omit [Jdk] in
theorem learn_eq_mapBounds (col : Collation) (d : Database) (id type : String) (value : Int32) :
    ∃ f, d.learn col id type value = d.mapBounds col id type f := by
  unfold Database.learn
  split
  · exact ⟨_, Database.mapBounds_id.symm⟩
  · obtain ⟨f, hf, -⟩ := foldl_calibration col id type d value ‹_›
    exact ⟨f, hf⟩

omit [Jdk] in
theorem learnt_eq_mapBounds (w : World) (col : Collation) (id type : String) (value : Int32) :
    ∃ f, w.learnt col id type value = w.database.mapBounds col id type f := by
  unfold World.learnt
  split
  · exact learn_eq_mapBounds _ _ _ _ _
  · exact ⟨_, Database.mapBounds_id.symm⟩

omit [Jdk] in
theorem head_run_bounds_learnt (value : Int32) {b : Bounds}
    (hb : ((Query.bounds id type).run col w.database).head? = some b) :
    ∃ b', ((Query.bounds id type).run col (w.learnt col id type value)).head? = some b' := by
  obtain ⟨f, hf⟩ := learnt_eq_mapBounds w col id type value
  exact ⟨f b, by rw [hf, Database.run_bounds_mapBounds, List.head?_map, hb, Option.map_some]⟩

theorem wp_recognisedSensor {value : Int32} {b : Bounds} {addresses : List String}
    {Q : Bool → World → Prop} (ht : ¬ Trouble may w) (hw : w.mysql .mysqlAddress = some url)
    (hb : ((Query.bounds id type).run col w.database).head? = some b)
    (hstop : ∀ t q, (∀ f, ¬ f.shows → t f = w.text f) →
      (w.checked .wsnGeneralPauseWsnToVwCheck = true ∨ addresses.head? = none) →
      Q false ((w.withDatabase url (w.learnt col id type value)).redrawn t w.combo q))
    (hgo : ∀ address x ok t q, (∀ f, ¬ f.shows → t f = w.text f) →
      w.checked .wsnGeneralPauseWsnToVwCheck = false → addresses.head? = some address →
      Q ok (((w.withDatabase url (w.learnt col id type value)).posting
        ⟨address, ⟨id, type, x⟩⟩ ok).redrawn t w.combo q)) :
    wp (under col may) (recognisedSensor id type value addresses) Q E w := by
  have hnext : ∀ t q, (∀ f, ¬ f.shows → t f = w.text f) →
      wp (under col may) (forwardReading id type value addresses) Q E
        ((w.withDatabase url (w.learnt col id type value)).redrawn t w.combo q) := by
    intro t q hf
    have hdb : ((w.withDatabase url (w.learnt col id type value)).redrawn t w.combo q).database =
        w.learnt col id type value := World.withDatabase_database hw
    obtain ⟨b', hb'⟩ := head_run_bounds_learnt value hb
    refine wp_forwardReading (b := b') (by simpa [Trouble] using ht) (by rw [hdb]; exact hb')
      (fun q' hs => hstop t q' hf hs) fun address ok q' hp ha => hgo address _ ok t q' hf hp ha
  simp only [recognisedSensor, calibrateIfTicked, wp_bind, wp_isSelected]
  rw [wp_ite]
  refine ⟨fun hon => ?_, fun hoff => ?_⟩
  · refine wp_calibrate (fun h => absurd h ht) hw hb fun t q hf => ?_
    have := hnext t q hf
    simp only [World.learnt, if_pos hon, Database.learn, hb] at this
    simpa using this
  · have := hnext w.text w.traffic fun _ _ => rfl
    rw [World.learnt, if_neg hoff, World.withDatabase_self hw] at this
    simpa using this

/-! ## The reactions -/

/-- The address readings of a node are sent to: the first of its rows' that parses. -/
def addressOf (col : Collation) (d : Database) (id : String) : Option String :=
  (((Query.node id).run col d).filterMap parsedAddress).head?

/-- What a reading leads to when no database call fails. -/
inductive Reaction (col : Collation) (url : String) (w : World) (id type : String) (value : Int32) :
    Except Exn Bool → World → Prop
  /-- The node is not registered, and auto add is off or it is ignored. -/
  | nodeSkipped (q : Traffic) (hnode : ¬ w.database.hasNode col id)
      (h : w.checked .wsnGeneralAutoAddCheck = true →
        ∃ l, w.ignoreNodeList = some l ∧ some id ∈ l) :
      Reaction col url w id type value (.ok false) (w.quietly q)
  /-- The node is not registered, and there is no ignore list to look it up in. -/
  | nodeCrashed (q : Traffic) (hnode : ¬ w.database.hasNode col id)
      (hauto : w.checked .wsnGeneralAutoAddCheck = true) (hl : w.ignoreNodeList = none) :
      Reaction col url w id type value (.error .nullPointer) (w.quietly q)
  | nodeAdded (l : List (Option String)) (t : TextField → String) (b : ComboBox → Combo)
      (q : Traffic) (hnode : ¬ w.database.hasNode col id)
      (hauto : w.checked .wsnGeneralAutoAddCheck = true) (hl : w.ignoreNodeList = some l)
      (hid : some id ∉ l) (hf : Frame ComboBox.showsNodes w t b)
      (hb : b .wsnSensorsNodeComboBox =
        .filled (w.database.apply col (.insertNode id none)).nodeIds) :
      Reaction col url w id type value (.ok false)
        ((w.withDatabase url (w.database.apply col (.insertNode id none))).redrawn t b q)
  /-- The type is not registered, and auto add is off or the pair is ignored. -/
  | sensorSkipped (q : Traffic) (hnode : w.database.hasNode col id)
      (hsensor : ¬ w.database.hasSensor col id type)
      (h : w.checked .wsnSensorsAutoAddCheck = true →
        ∃ l, w.ignoreSensorList = some l ∧ containsEntry ⟨some id, some type⟩ l = .ok true) :
      Reaction col url w id type value (.ok false) (w.quietly q)
  /-- The type is not registered, and the ignore list is missing or the search in it fails. -/
  | sensorCrashed (e : Exn) (q : Traffic) (hnode : w.database.hasNode col id)
      (hsensor : ¬ w.database.hasSensor col id type)
      (hauto : w.checked .wsnSensorsAutoAddCheck = true)
      (h : w.ignoreSensorList = none ∨
        ∃ l, w.ignoreSensorList = some l ∧ containsEntry ⟨some id, some type⟩ l = .error e) :
      Reaction col url w id type value (.error e) (w.quietly q)
  | sensorAdded (l : List SensorIgnoreIdTypeObject) (t : TextField → String)
      (b : ComboBox → Combo) (q : Traffic) (hnode : w.database.hasNode col id)
      (hsensor : ¬ w.database.hasSensor col id type)
      (hauto : w.checked .wsnSensorsAutoAddCheck = true) (hl : w.ignoreSensorList = some l)
      (hpair : containsEntry ⟨some id, some type⟩ l = .ok false)
      (hf : Frame (· = .wsnSensorsSensorsComboBox) w t b) :
      Reaction col url w id type value (.ok false)
        ((w.withDatabase url (w.database.apply col (.insertSensor id type))).redrawn t b q)
  /-- The sensor is registered, and forwarding is paused or its node has no address. -/
  | stopped (t : TextField → String) (q : Traffic) (hnode : w.database.hasNode col id)
      (hsensor : w.database.hasSensor col id type) (hf : ∀ f, ¬ f.shows → t f = w.text f)
      (h : w.checked .wsnGeneralPauseWsnToVwCheck = true ∨ addressOf col w.database id = none) :
      Reaction col url w id type value (.ok false)
        ((w.withDatabase url (w.learnt col id type value)).redrawn t w.combo q)
  | forwarded (address : String) (x : JDouble) (ok : Bool) (t : TextField → String) (q : Traffic)
      (hnode : w.database.hasNode col id) (hsensor : w.database.hasSensor col id type)
      (hf : ∀ f, ¬ f.shows → t f = w.text f)
      (hgo : w.checked .wsnGeneralPauseWsnToVwCheck = false)
      (haddress : addressOf col w.database id = some address) :
      Reaction col url w id type value (.ok ok)
        (((w.withDatabase url (w.learnt col id type value)).posting
          ⟨address, ⟨id, type, x⟩⟩ ok).redrawn t w.combo q)

theorem wp_unrecognisedSensor {Q : Unit → World → Prop} (ht : ¬ Trouble may w)
    (hw : w.mysql .mysqlAddress = some url)
    (hskip : ∀ l q, w.ignoreSensorList = some l →
      containsEntry ⟨some id, some type⟩ l = .ok true → Q () (w.quietly q))
    (hcrash : ∀ e q, (e = .nullPointer ∧ w.ignoreSensorList = none ∨
      ∃ l, w.ignoreSensorList = some l ∧ containsEntry ⟨some id, some type⟩ l = .error e) →
        E e (w.quietly q))
    (hadd : ∀ l q, w.ignoreSensorList = some l →
      containsEntry ⟨some id, some type⟩ l = .ok false →
      wp (under col may) (updateSensorsSelect (w.combo .wsnSensorsNodeComboBox).selected)
        (fun _ w' => ∀ q', Q () (w'.quietly q')) E
        ((w.withDatabase url (w.database.apply col (.insertSensor id type))).quietly q)) :
    wp (under col may) (unrecognisedSensor id type) Q E w := by
  simp only [unrecognisedSensor, ignoreSensorListContains, wp_bind, wp_getIgnoreSensorList]
  cases hl : w.ignoreSensorList with
  | none => exact hcrash .nullPointer w.traffic (.inl ⟨rfl, hl⟩)
  | some l =>
    simp only
    cases hc : containsEntry ⟨some id, some type⟩ l with
    | error e => exact hcrash e w.traffic (.inr ⟨l, hl, hc⟩)
    | ok ignored =>
      cases ignored with
      | true => simpa using hskip l _ hl hc
      | false => exact wp_addUnrecognisedSensor ht hw fun q => hadd l q hl hc

/-- What `sensed` comes down to, up to the refills and to what it does for a registered sensor. -/
theorem wp_sensed_parts {value : Int32} {Q : Bool → World → Prop} (ht : ¬ Trouble may w)
    (hw : w.mysql .mysqlAddress = some url) (hcol : col.same type type = true)
    (hnodeSkipped : ∀ q, ¬ w.database.hasNode col id → (w.checked .wsnGeneralAutoAddCheck = true →
      ∃ l, w.ignoreNodeList = some l ∧ some id ∈ l) → Q false (w.quietly q))
    (hnodeCrashed : ∀ q, ¬ w.database.hasNode col id → w.checked .wsnGeneralAutoAddCheck = true →
      w.ignoreNodeList = none → E .nullPointer (w.quietly q))
    (hnodeAdded : ∀ l q, ¬ w.database.hasNode col id →
      w.checked .wsnGeneralAutoAddCheck = true → w.ignoreNodeList = some l → some id ∉ l →
      wp (under col may) updateNodeSelects (fun _ => Q false) E
        ((w.withDatabase url (w.database.apply col (.insertNode id none))).quietly q))
    (hsensorSkipped : ∀ q, w.database.hasNode col id → ¬ w.database.hasSensor col id type →
      (w.checked .wsnSensorsAutoAddCheck = true → ∃ l, w.ignoreSensorList = some l ∧
        containsEntry ⟨some id, some type⟩ l = .ok true) → Q false (w.quietly q))
    (hsensorCrashed : ∀ e q, w.database.hasNode col id → ¬ w.database.hasSensor col id type →
      w.checked .wsnSensorsAutoAddCheck = true → (e = .nullPointer ∧ w.ignoreSensorList = none ∨
        ∃ l, w.ignoreSensorList = some l ∧ containsEntry ⟨some id, some type⟩ l = .error e) →
      E e (w.quietly q))
    (hsensorAdded : ∀ l q, w.database.hasNode col id → ¬ w.database.hasSensor col id type →
      w.checked .wsnSensorsAutoAddCheck = true → w.ignoreSensorList = some l →
      containsEntry ⟨some id, some type⟩ l = .ok false →
      wp (under col may) (updateSensorsSelect (w.combo .wsnSensorsNodeComboBox).selected)
        (fun _ w' => ∀ q', Q false (w'.quietly q')) E
        ((w.withDatabase url (w.database.apply col (.insertSensor id type))).quietly q))
    (hrecognised : ∀ b q, w.database.hasNode col id → w.database.hasSensor col id type →
      ((Query.bounds id type).run col w.database).head? = some b →
      wp (under col may) (recognisedSensor id type value
        (nodeLookup ((Query.node id).run col w.database)).2) Q E (w.quietly q)) :
    wp (under col may) (sensed id type value) Q E w := by
  simp only [sensed, wp_bind]
  refine wp_lookUpNode ht fun c q₁ hc => ?_
  obtain rfl : url = c.url := Option.some_inj.mp (hw.symm.trans hc)
  simp only [nodeLookup, List.isEmpty_iff]
  rw [wp_ite]
  refine ⟨fun hnone => ?_, fun hsome => ?_⟩
  · have hnode := Database.run_node_eq_nil.mp (List.map_eq_nil_iff.mp hnone)
    simp only [wp_bind]
    refine wp_unrecognisedNode ht hc (fun q h => ?_) (fun q hauto hl => ?_)
      fun l q hauto hl hid => ?_
    · exact hnodeSkipped q hnode h
    · exact hnodeCrashed q hnode hauto hl
    · exact hnodeAdded l q hnode hauto hl hid
  have hnode : w.database.hasNode col id := by
    by_contra h
    exact hsome (List.map_eq_nil_iff.mpr (Database.run_node_eq_nil.mpr h))
  simp only [recognisedNode, wp_bind, wp_appendToOutput]
  refine wp_lookUpTypes ht fun q₂ => ?_
  simp only [wp_bind]
  refine wp_closeConnection fun q₃ => ?_
  rw [wp_ite]
  refine ⟨fun hmem => ?_, fun hmem => ?_⟩
  · have hsensor := Database.mem_run_sensors.mp (by simpa using hmem)
    obtain ⟨b, hb⟩ := Database.head_run_bounds hcol hsensor
    exact hrecognised b q₃ hnode hsensor hb
  have hsensor : ¬ w.database.hasSensor col id type := fun h =>
    hmem (by simpa using Database.mem_run_sensors.mpr h)
  simp only [wp_bind, wp_isSelected]
  rw [wp_ite]
  refine ⟨fun hoff => ?_, fun hon => ?_⟩
  · simp only [wp_bind, wp_appendToOutput, wp_pure]
    exact hsensorSkipped _ hnode hsensor fun h => by simp_all
  simp only [Bool.not_eq_true', Bool.not_eq_false, World.quietly_checked] at hon
  simp only [wp_bind, wp_isSelected]
  rw [wp_ite]
  refine ⟨fun _ => ?_, fun h => absurd hon h⟩
  simp only [wp_bind]
  refine wp_unrecognisedSensor ht hc (fun l q hl hc => ?_) (fun e q h => ?_)
    fun l q hl hc => ?_
  · exact hsensorSkipped q hnode hsensor fun _ => ⟨l, hl, hc⟩
  · exact hsensorCrashed e q hnode hsensor hon h
  · exact hsensorAdded l q hnode hsensor hon hl hc

/-- **Reactions.** A reading that meets no failing database call has one of the reactions. -/
theorem wp_sensed {value : Int32} (ht : ¬ Trouble may w) (hw : w.mysql .mysqlAddress = some url)
    (hcol : col.same type type = true) :
    wp (under col may) (sensed id type value)
      (fun b => Reaction col url w id type value (.ok b))
      (fun e => Reaction col url w id type value (.error e)) w := by
  refine wp_sensed_parts ht hw hcol (fun q hnode h => .nodeSkipped q hnode h)
    (fun q hnode hauto hl => .nodeCrashed q hnode hauto hl) (fun l q hnode hauto hl hid => ?_)
    (fun q hnode hsensor h => .sensorSkipped q hnode hsensor h)
    (fun e q hnode hsensor hon h => .sensorCrashed e q hnode hsensor hon (h.imp_left And.right))
    (fun l q hnode hsensor hon hl hc => ?_) fun b q hnode hsensor hb => ?_
  · refine wp_updateNodeSelects (by exact ht) fun t b q₂ hf hg hr hs => ?_
    have hdb := World.withDatabase_database (d := w.database.apply col (.insertNode id none)) hw
    exact .nodeAdded l t b q₂ hnode hauto hl hid ⟨hf.text, hf.combo⟩
      (hs.trans (congrArg (fun d => Combo.filled d.nodeIds) hdb))
  · exact wp_redraws (redraws_updateSensorsSelect (by rfl) _) fun _ t b _ hf q' =>
      .sensorAdded l t b q' hnode hsensor hon hl hc ⟨hf.text, hf.combo⟩
  · refine wp_recognisedSensor (by exact ht) (by exact hw) hb (fun t q hf h => ?_)
      fun address x ok t q hf hgo ha => ?_
    · exact .stopped t q hnode hsensor hf h
    · exact .forwarded address x ok t q hnode hsensor hf hgo ha

end Sensed

end CrossingReality
