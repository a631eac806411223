import CrossingReality.Recognition

/-!
# What a reading should do

The decision of `sensed`, as one would state it: when a node or a sensor is added, when a reading
is forwarded, and to where. The code departs from it only where it dereferences an ignore list
that does not exist, or a null string in an entry of one.
-/

namespace CrossingReality

open Effects

section Reacting

variable [Jdk] {may : Call → Prop} {w w' : World} {id type url : String} {value : Int32}

/-! ## The ignore lists -/

/-- The node is on the ignore list. -/
def NodeIgnored (w : World) (id : String) : Prop := ∃ l, w.ignoreNodeList = some l ∧ some id ∈ l

/-- An entry is the pair, ignoring case. -/
def SensorIgnoreIdTypeObject.is (o : SensorIgnoreIdTypeObject) (id type : String) : Prop :=
  ∃ i t, o.id = some i ∧ o.type = some t ∧ sameIgnoringCase i id ∧ sameIgnoringCase t type

/-- The comparison with an entry throws: it has no id, or it has the id and no type. -/
def SensorIgnoreIdTypeObject.trips (o : SensorIgnoreIdTypeObject) (id : String) : Prop :=
  o.id = none ∨ ∃ i, o.id = some i ∧ sameIgnoringCase i id ∧ o.type = none

/-- The pair is on the ignore list. -/
def PairIgnored (w : World) (id type : String) : Prop :=
  ∃ l, w.ignoreSensorList = some l ∧ ∃ o ∈ l, o.is id type

theorem equals_ok_iff (o : SensorIgnoreIdTypeObject) :
    SensorIgnoreIdTypeObject.equals ⟨some id, some type⟩ o = .ok true ↔ o.is id type := by
  obtain ⟨i, t⟩ := o
  cases i with
  | none => simp [SensorIgnoreIdTypeObject.equals, SensorIgnoreIdTypeObject.is]
  | some i =>
    cases hi : sameIgnoringCase i id <;> cases t <;>
      simp [SensorIgnoreIdTypeObject.equals, SensorIgnoreIdTypeObject.is, equalsIgnoreCase, hi]

theorem equals_error_iff (type : String) (o : SensorIgnoreIdTypeObject) :
    (∃ e, SensorIgnoreIdTypeObject.equals ⟨some id, some type⟩ o = .error e) ↔ o.trips id := by
  obtain ⟨i, t⟩ := o
  cases i with
  | none => simp [SensorIgnoreIdTypeObject.equals, SensorIgnoreIdTypeObject.trips]
  | some i =>
    cases hi : sameIgnoringCase i id <;> cases t <;>
      simp [SensorIgnoreIdTypeObject.equals, SensorIgnoreIdTypeObject.trips, equalsIgnoreCase, hi]

/-- A search that ends with true has found the pair. -/
theorem is_of_containsEntry {l : List SensorIgnoreIdTypeObject}
    (h : containsEntry ⟨some id, some type⟩ l = .ok true) : ∃ o ∈ l, o.is id type := by
  induction l with
  | nil => cases h
  | cons o l ih =>
    rw [containsEntry] at h
    cases ho : SensorIgnoreIdTypeObject.equals ⟨some id, some type⟩ o with
    | error e => simp [ho] at h
    | ok b =>
      cases b with
      | true => exact ⟨o, List.mem_cons_self, (equals_ok_iff o).mp ho⟩
      | false =>
        obtain ⟨o', ho', his⟩ := ih (by simpa [ho] using h)
        exact ⟨o', List.mem_cons_of_mem o ho', his⟩

/-- A search that ends with false has gone through the whole list without tripping. -/
theorem not_of_containsEntry {l : List SensorIgnoreIdTypeObject}
    (h : containsEntry ⟨some id, some type⟩ l = .ok false) :
    ∀ o ∈ l, ¬ o.is id type ∧ ¬ o.trips id := by
  induction l with
  | nil => simp
  | cons o l ih =>
    rw [containsEntry] at h
    cases ho : SensorIgnoreIdTypeObject.equals ⟨some id, some type⟩ o with
    | error e => simp [ho] at h
    | ok b =>
      cases b with
      | true => simp [ho] at h
      | false =>
        rintro o' (_ | ⟨_, ho'⟩)
        · refine ⟨fun his => ?_, fun htrips => ?_⟩
          · rw [(equals_ok_iff o).mpr his] at ho
            cases ho
          · obtain ⟨e, he⟩ := (equals_error_iff type o).mpr htrips
            rw [he] at ho
            cases ho
        · exact ih (by simpa [ho] using h) o' ho'

/-- A search that throws has tripped over an entry. -/
theorem trips_of_containsEntry {l : List SensorIgnoreIdTypeObject} {e : Exn}
    (h : containsEntry ⟨some id, some type⟩ l = .error e) : ∃ o ∈ l, o.trips id := by
  induction l with
  | nil => cases h
  | cons o l ih =>
    rw [containsEntry] at h
    cases ho : SensorIgnoreIdTypeObject.equals ⟨some id, some type⟩ o with
    | error e' => exact ⟨o, List.mem_cons_self, (equals_error_iff type o).mp ⟨e', ho⟩⟩
    | ok b =>
      cases b with
      | true => simp [ho] at h
      | false =>
        obtain ⟨o', ho', htrips⟩ := ih (by simpa [ho] using h)
        exact ⟨o', List.mem_cons_of_mem o ho', htrips⟩

/-! ## The decision -/

/-- The reading should add its node. -/
def NodeDue (w : World) (id : String) : Prop :=
  id ∉ w.database.nodeIds ∧ w.checked .wsnGeneralAutoAddCheck = true ∧ ¬ NodeIgnored w id

/-- The reading should add its sensor. -/
def SensorDue (w : World) (id type : String) : Prop :=
  id ∈ w.database.nodeIds ∧ (id, type) ∉ w.database.sensorKeys ∧
    w.checked .wsnSensorsAutoAddCheck = true ∧ ¬ PairIgnored w id type

/-- The reading should be forwarded to `address`. -/
def ForwardDue (w : World) (id type address : String) : Prop :=
  addressOf .exact w.database id = some address ∧ (id, type) ∈ w.database.sensorKeys ∧
    w.checked .wsnGeneralPauseWsnToVwCheck = false

/-- The reading may change the bounds of its sensor. -/
def CalibrationDue (w : World) (id type : String) : Prop :=
  id ∈ w.database.nodeIds ∧ (id, type) ∈ w.database.sensorKeys ∧
    w.checked .wsnSensorsCalibrateCheck = true

/-- From `w` to `w'`, a reading did what it should. -/
structure ReactsRight (w : World) (id type : String) (r : Except Exn Bool) (w' : World) :
    Prop where
  node : NodeDue w id → w'.database.nodes = w.database.nodes ++ [⟨id, none⟩]
  noNode : ¬ NodeDue w id → w'.database.nodes = w.database.nodes
  sensor : SensorDue w id type →
    w'.database.sensors = w.database.sensors ++ [⟨id, type, none, none⟩]
  noSensor : ¬ SensorDue w id type → ¬ CalibrationDue w id type →
    w'.database.sensors = w.database.sensors
  bounds : CalibrationDue w id type →
    ∃ f, w'.database.sensors = (w.database.mapBounds .exact id type f).sensors
  actuators : w'.database.actuators = w.database.actuators
  others : ∀ url, w.mysql .mysqlAddress ≠ some url → w'.servers url = w.servers url
  forward : ∀ address, ForwardDue w id type address →
    ∃ x, w'.posts = w.posts ++ [⟨address, ⟨id, type, x⟩⟩]
  noForward : (∀ address, ¬ ForwardDue w id type address) → w'.posts = w.posts
  returned : r = .ok true → ∃ p, w'.posts = w.posts ++ [p] ∧ w'.delivered = w.delivered ++ [p]

/-- A sighting that should add something, and runs into a missing list or a null string. -/
def Crashes (w : World) (id type : String) : Prop :=
  NodeDue w id ∧ w.ignoreNodeList = none ∨
    SensorDue w id type ∧ ∀ l, w.ignoreSensorList = some l → ∃ o ∈ l, o.trips id

/-! ## The code's decision -/

theorem mem_nodeIds_of_addressOf {d : Database} {address : String}
    (h : addressOf .exact d id = some address) : id ∈ d.nodeIds := by
  by_contra hid
  have hrows := Database.run_node_eq_nil.mpr (mt Database.hasNode_exact.mp hid)
  simp [addressOf, hrows] at h

/-- A reading that changed nothing did right if there was nothing to do. -/
theorem reactsRight_quietly {r : Except Exn Bool} (q : Traffic) (hr : r ≠ .ok true)
    (hnode : ¬ NodeDue w id) (hsensor : ¬ SensorDue w id type)
    (hkey : (id, type) ∉ w.database.sensorKeys ∨ id ∉ w.database.nodeIds) :
    ReactsRight w id type r (w.quietly q) where
  node h := absurd h hnode
  noNode _ := rfl
  sensor h := absurd h hsensor
  noSensor _ _ := rfl
  bounds h := by
    rcases hkey with hkey | hid
    · exact absurd h.2.1 hkey
    · exact absurd h.1 hid
  actuators := rfl
  others _ _ := rfl
  forward address h := by
    rcases hkey with hkey | hid
    · exact absurd h.2.1 hkey
    · exact absurd (mem_nodeIds_of_addressOf h.1) hid
  noForward _ := rfl
  returned h := absurd h hr

omit [Jdk] in
theorem withDatabase_others {d : Database} {url' : String} (hw : w.mysql .mysqlAddress = some url)
    (h : w.mysql .mysqlAddress ≠ some url') :
    (w.withDatabase url d).servers url' = w.servers url' :=
  Function.update_of_ne (fun heq => h (hw.trans (congrArg some heq.symm))) _ _

/-- A reading of a registered sensor did right if it was calibrated and forwarded as it should. -/
theorem reactsRight_recognised {r : Except Exn Bool} (hw : w.mysql .mysqlAddress = some url)
    (hnode : id ∈ w.database.nodeIds) (hsensor : (id, type) ∈ w.database.sensorKeys)
    (hmysql : w'.mysql = w.mysql)
    (hservers : w'.servers = (w.withDatabase url (w.learnt .exact id type value)).servers)
    (hforward : ∀ address, ForwardDue w id type address →
      ∃ x, w'.posts = w.posts ++ [⟨address, ⟨id, type, x⟩⟩])
    (hstop : (∀ address, ¬ ForwardDue w id type address) → w'.posts = w.posts)
    (hreturned : r = .ok true →
      ∃ p, w'.posts = w.posts ++ [p] ∧ w'.delivered = w.delivered ++ [p]) :
    ReactsRight w id type r w' := by
  have hdb : w'.database = w.learnt .exact id type value := by
    have hw' : w'.mysql .mysqlAddress = some url := hmysql ▸ hw
    rw [World.database_of_url hw', hservers, World.withDatabase_servers_self]
  obtain ⟨f, hf⟩ := learnt_eq_mapBounds w .exact id type value
  refine ⟨fun h => absurd hnode h.1, fun _ => ?_, fun h => absurd hsensor h.2.1, fun _ h => ?_,
    fun h => ⟨f, ?_⟩, ?_, fun url' h => ?_, hforward, hstop, hreturned⟩
  · rw [hdb, hf]
    rfl
  · rw [hdb, World.learnt, if_neg fun hon => h ⟨hnode, hsensor, hon⟩]
  · rw [hdb, hf]
  · rw [hdb, hf]
    rfl
  · rw [hservers]
    exact withDatabase_others hw h

/-- A reaction is what should happen, unless the reading crashes. -/
theorem Reaction.reactsRight_iff {r : Except Exn Bool} (hw : w.mysql .mysqlAddress = some url)
    (h : Reaction .exact url w id type value r w') :
    ReactsRight w id type r w' ↔ ¬ Crashes w id type := by
  cases h with
  | nodeSkipped q hnode h =>
    rw [Database.hasNode_exact] at hnode
    have hnodue : ¬ NodeDue w id := fun hdue => hdue.2.2 (h hdue.2.1)
    refine iff_of_true (reactsRight_quietly q (by simp) hnodue (fun h => hnode h.1) (.inr hnode)) ?_
    rintro (⟨hdue, -⟩ | ⟨hdue, -⟩)
    · exact hnodue hdue
    · exact hnode hdue.1
  | nodeCrashed q hnode hauto hl =>
    rw [Database.hasNode_exact] at hnode
    have hdue : NodeDue w id := ⟨hnode, hauto, fun ⟨l, hl', _⟩ => by simp [hl] at hl'⟩
    refine iff_of_false (fun hright => ?_) (not_not.mpr (.inl ⟨hdue, hl⟩))
    simpa using hright.node hdue
  | nodeAdded l t b q hnode hauto hl hid hf hb =>
    rw [Database.hasNode_exact] at hnode
    have hdue : NodeDue w id := ⟨hnode, hauto, fun ⟨l', hl', hm⟩ => by simp_all⟩
    have hdb : ((w.withDatabase url (w.database.apply .exact (.insertNode id none))).redrawn t b
      q).database = w.database.apply .exact (.insertNode id none) := World.withDatabase_database hw
    refine iff_of_true ⟨fun _ => ?_, fun h => absurd hdue h, fun h => absurd h.1 hnode,
      fun _ _ => ?_, fun h => absurd h.1 hnode, ?_, fun url' h => ?_, fun a h => ?_, fun _ => rfl,
      nofun⟩ ?_
    · rw [hdb]; rfl
    · rw [hdb]; rfl
    · rw [hdb]; rfl
    · exact withDatabase_others hw h
    · exact absurd (mem_nodeIds_of_addressOf h.1) hnode
    · rintro (⟨-, hnone⟩ | ⟨h, -⟩)
      · simp [hl] at hnone
      · exact hnode h.1
  | sensorSkipped q hnode hsensor h =>
    rw [Database.hasNode_exact] at hnode
    rw [Database.hasSensor_exact] at hsensor
    have hnodue : ¬ SensorDue w id type := by
      rintro ⟨-, -, hauto, hign⟩
      obtain ⟨l, hl, hc⟩ := h hauto
      exact hign ⟨l, hl, is_of_containsEntry hc⟩
    refine iff_of_true (reactsRight_quietly q (by simp) (fun h => h.1 hnode) hnodue
      (.inl hsensor)) ?_
    rintro (⟨hdue, -⟩ | ⟨hdue, -⟩)
    · exact hdue.1 hnode
    · exact hnodue hdue
  | sensorCrashed e q hnode hsensor hauto h =>
    rw [Database.hasNode_exact] at hnode
    rw [Database.hasSensor_exact] at hsensor
    -- Whether the pair is ignored after all decides whether something was to be done.
    by_cases hign : PairIgnored w id type
    · have hnodue : ¬ SensorDue w id type := fun hdue => hdue.2.2.2 hign
      refine iff_of_true (reactsRight_quietly q (by simp) (fun h => h.1 hnode) hnodue
        (.inl hsensor)) ?_
      rintro (⟨hdue, -⟩ | ⟨hdue, -⟩)
      · exact hdue.1 hnode
      · exact hnodue hdue
    · have hdue : SensorDue w id type := ⟨hnode, hsensor, hauto, hign⟩
      refine iff_of_false (fun hright => ?_) (not_not.mpr (.inr ⟨hdue, fun l hl => ?_⟩))
      · simpa using hright.sensor hdue
      · obtain hnone | ⟨l', hl', hc⟩ := h
        · simp [hnone] at hl
        · obtain rfl : l' = l := by simpa [hl'] using hl
          exact trips_of_containsEntry hc
  | sensorAdded l t b q hnode hsensor hauto hl hpair hf =>
    rw [Database.hasNode_exact] at hnode
    rw [Database.hasSensor_exact] at hsensor
    have hnot := not_of_containsEntry hpair
    have hdue : SensorDue w id type := by
      refine ⟨hnode, hsensor, hauto, ?_⟩
      rintro ⟨l', hl', o, ho, his⟩
      obtain rfl : l = l' := by simpa [hl] using hl'
      exact (hnot o ho).1 his
    have hdb : ((w.withDatabase url (w.database.apply .exact (.insertSensor id type))).redrawn t b
      q).database = w.database.apply .exact (.insertSensor id type) :=
      World.withDatabase_database hw
    refine iff_of_true ⟨fun h => absurd hnode h.1, fun _ => ?_, fun _ => ?_, fun h => absurd hdue h,
      fun h => absurd h.2.1 hsensor, ?_, fun url' h => ?_, fun a h => absurd h.2.1 hsensor,
      fun _ => rfl, nofun⟩ ?_
    · rw [hdb]; rfl
    · rw [hdb]; rfl
    · rw [hdb]; rfl
    · exact withDatabase_others hw h
    · rintro (⟨h, -⟩ | ⟨-, htrips⟩)
      · exact h.1 hnode
      · obtain ⟨o, ho, ht⟩ := htrips l hl
        exact (hnot o ho).2 ht
  | stopped t q hnode hsensor hf h =>
    rw [Database.hasNode_exact] at hnode
    rw [Database.hasSensor_exact] at hsensor
    have hnot : ∀ address, ¬ ForwardDue w id type address := by
      rintro address ⟨haddress, -, hgo⟩
      rcases h with hpaused | hnone
      · simp [hpaused] at hgo
      · simp [hnone] at haddress
    refine iff_of_true (reactsRight_recognised hw hnode hsensor rfl rfl
      (fun a h => absurd h (hnot a)) (fun _ => rfl) nofun) ?_
    rintro (⟨h, -⟩ | ⟨h, -⟩)
    · exact h.1 hnode
    · exact h.2.1 hsensor
  | forwarded address x ok t q hnode hsensor hf hgo haddress =>
    rw [Database.hasNode_exact] at hnode
    rw [Database.hasSensor_exact] at hsensor
    refine iff_of_true (reactsRight_recognised hw hnode hsensor rfl rfl (fun a h => ?_)
      (fun h => absurd ⟨haddress, hsensor, hgo⟩ (h address)) fun hr => ?_) ?_
    · obtain rfl : address = a := by simpa [haddress] using h.1
      exact ⟨x, rfl⟩
    · obtain rfl : ok = true := by simpa using hr
      exact ⟨_, rfl, rfl⟩
    · rintro (⟨h, -⟩ | ⟨h, -⟩)
      · exact h.1 hnode
      · exact h.2.1 hsensor

/-- **Readings.** A reading that meets no failing database call does what it should if and only if
it does not crash. -/
theorem sensed_reactsRight_iff {l : List (Event calls World)} {r : Except Exn Bool}
    (hw : w.mysql .mysqlAddress = some url)
    (hrun : Runs (under .exact httpFault) (sensed id type value) w l r w') :
    ReactsRight w id type r w' ↔ ¬ Crashes w id type := by
  have hreaction := hrun.outcome_of_wp (wp_sensed (not_trouble hw) hw (beq_self_eq_true type))
  cases r <;> exact Reaction.reactsRight_iff hw hreaction

end Reacting

/-- A window over a registry with one node, adding sensors, with an ignore list of sensors. -/
def addingWorld (ignored : List SensorIgnoreIdTypeObject) : World :=
  { World.running "jdbc:mysql://db" ⟨[⟨"1", none⟩], [], []⟩ with
    checked := fun b => b = .wsnSensorsAutoAddCheck
    ignoreSensorList := some ignored }

/-- A first reading of a sensor of that node, with nothing failing. -/
def senseFirst (ignored : List SensorIgnoreIdTypeObject) :
    List (Event calls World) × Except Exn Bool × World :=
  (machine .exact).play .fine (@sensed plainJdk "1" "light" 5) [] (addingWorld ignored)

theorem runs_senseFirst (ignored : List SensorIgnoreIdTypeObject) :
    Runs (under .exact httpFault) (@sensed plainJdk "1" "light" 5) (addingWorld ignored)
      (senseFirst ignored).1 (senseFirst ignored).2.1 (senseFirst ignored).2.2 :=
  runs_play_under _ _ _ (by simp) _

/-- An entry without an id keeps every new sensor from being added. -/
theorem not_always_reactsRight : ¬ ∀ (jdk : Jdk) (w w' : World) (id type url : String)
    (value : Int32) (l : List (Event calls World)) (r : Except Exn Bool),
    w.mysql .mysqlAddress = some url → w.database.nodeIds.Nodup → w.database.sensorKeys.Nodup →
    Runs (under .exact httpFault) (@sensed jdk id type value) w l r w' →
    @ReactsRight jdk w id type r w' := by
  intro h
  have hright := h plainJdk _ _ _ _ _ _ _ _ rfl (by decide) (by decide)
    (runs_senseFirst [⟨none, none⟩])
  have hdue : @SensorDue plainJdk (addingWorld [⟨none, none⟩]) "1" "light" := by
    refine ⟨by decide, by decide, by decide, ?_⟩
    rintro ⟨l, hl, o, ho, i, t, hi, -⟩
    obtain rfl : [⟨none, none⟩] = l := by simpa [addingWorld] using hl
    obtain rfl : o = ⟨none, none⟩ := by simpa using ho
    cases hi
  have hsensors : (senseFirst [⟨none, none⟩]).2.2.database.sensors = [] := by decide +kernel
  have hrow := @ReactsRight.sensor plainJdk _ _ _ _ _ hright hdue
  rw [hsensors] at hrow
  exact absurd hrow (by decide)

/-- With an empty ignore list the sensor is added. -/
theorem senseFirst_reactsRight :
    @ReactsRight plainJdk (addingWorld []) "1" "light" (senseFirst []).2.1 (senseFirst []).2.2 := by
  refine (@sensed_reactsRight_iff plainJdk (addingWorld []) _ _ _ "jdbc:mysql://db" 5 _ _ rfl
    (runs_senseFirst [])).mpr ?_
  rintro (⟨hdue, -⟩ | ⟨-, htrips⟩)
  · exact hdue.1 (by decide)
  · obtain ⟨o, ho, -⟩ := htrips [] rfl
    cases ho

end CrossingReality
