import CrossingReality.Failures
import CrossingReality.Reactions

/-!
# Which sensors are the same

Three comparisons decide whether two pairs of strings name one sensor: the database's own in a
`WHERE` clause, `equalsIgnoreCase` in an entry of the ignore list, and `equals` in the list of a
node's types. A reading is recognised by the last, an entry stops or loses a sensor by the second,
and everything else goes by the first.

* `wp_sensed_recognises` — when a reading is treated as one of a registered sensor.
* `oneIdentity_iff` — when the three places agree with the database.
-/

namespace CrossingReality

open Effects

/-- The database takes the two pairs for one sensor. -/
def Collation.sameSensor (col : Collation) (s t : String × String) : Bool :=
  col.same s.1 t.1 && col.same s.2 t.2

/-- The entry of a pair on the ignore list. -/
def entryOf (s : String × String) : SensorIgnoreIdTypeObject := ⟨some s.1, some s.2⟩

/-- The two pairs are the same to an entry of the ignore list. -/
def samePair [Jdk] (s t : String × String) : Bool :=
  sameIgnoringCase s.1 t.1 && sameIgnoringCase s.2 t.2

theorem entryOf_injective : Function.Injective entryOf := by
  rintro ⟨i, t⟩ ⟨i', t'⟩ h
  simpa [entryOf] using h

/-! ## Recognising -/

/-- The question that comes first once a sensor is recognised: whether to calibrate. -/
def asksCalibrate (e : Event calls World) : Bool :=
  match e.call with
  | .isSelected .wsnSensorsCalibrateCheck => true
  | _ => false

/-- The reading was treated as one of a recognised sensor. -/
def Recognised (l : List (Event calls World)) : Prop := ∃ e ∈ l, asksCalibrate e

section Recognising

variable {col : Collation} {may : Call → Prop} {w : World} {id type : String}
  {t : List (Event calls World)}

theorem not_asksCalibrate (e : Event calls World)
    (h : e.call ≠ .isSelected .wsnSensorsCalibrateCheck) : asksCalibrate e = false := by
  unfold asksCalibrate
  split
  · exact absurd ‹_› h
  · rfl

theorem ne_of_redraws (c : Call) (hc : c.redraws fun _ => True) :
    c ≠ .isSelected .wsnSensorsCalibrateCheck := by
  rintro rfl
  exact hc

/-- A part that does not ask leaves the record as it is. -/
theorem wp_unasked {α : Type} {p : Panel α}
    (hp : p.Uses (fun c : Call => c ≠ .isSelected .wsnSensorsCalibrateCheck) fun _ => True) :
    wp ((under col may).recording asksCalibrate) p (fun _ s => s.2 = t) (fun _ s => s.2 = t)
      (w, t) := by
  refine wp_recording_of_dull hp not_asksCalibrate ?_
  have hall := wp_of_uses (K := under col may) (I := fun _ => True) (s := w) hp
    (fun _ _ _ _ => ⟨trivial, fun _ _ _ => trivial⟩) trivial
  exact hall.mono (fun _ _ _ => rfl) fun _ _ _ => rfl

variable [Jdk]

theorem wp_recognisedSensor_asks (value : Int32) (addresses : List String) :
    wp ((under col may).recording asksCalibrate) (recognisedSensor id type value addresses)
      (fun _ s => s.2 ≠ []) (fun _ s => s.2 ≠ []) (w, []) := by
  simp only [recognisedSensor, calibrateIfTicked, wp_bind]
  rw [isSelected, wp_call_recording]
  intro f _
  have hasked : ∀ p : Panel Bool, wp ((under col may).recording asksCalibrate) p
      (fun _ s => s.2 ≠ []) (fun _ s => s.2 ≠ []) (w, [⟨w, .isSelected .wsnSensorsCalibrateCheck,
        w.checked .wsnSensorsCalibrateCheck⟩]) := fun p =>
    (wp_recording_grows (K := under col may) (fun _ _ => trivial) p).mono
      (fun _ _ h hnil => by simp [hnil] at h) fun _ _ h hnil => by simp [hnil] at h
  have := hasked ((if w.checked .wsnSensorsCalibrateCheck then calibrate id type value
    else return true) >>= fun ok => if (!ok) = true then return false
      else forwardReading id type value addresses)
  rwa [wp_bind] at this

/-- **Recognition.** A reading is treated as one of a recognised sensor if its node is registered,
and the very type is for that node. -/
theorem wp_sensed_recognises {value : Int32} (ht : ¬ Trouble may w) :
    wp ((under col may).recording asksCalibrate) (sensed id type value)
      (fun _ s => s.2 ≠ [] ↔ w.database.hasNode col id ∧ w.database.hasSensor col id type)
      (fun _ s => s.2 ≠ [] ↔ w.database.hasNode col id ∧ w.database.hasSensor col id type)
      (w, []) := by
  have hdull : ∀ e : Event calls World, e.call.redraws (fun _ => True) → asksCalibrate e = false :=
    fun e he => not_asksCalibrate e (ne_of_redraws _ he)
  have hskip : ∀ {α : Type} (p : Panel α) (w' : World), p.Uses (fun c : Call =>
      c ≠ .isSelected .wsnSensorsCalibrateCheck) (fun _ => True) →
      ¬ (w.database.hasNode col id ∧ w.database.hasSensor col id type) →
      wp ((under col may).recording asksCalibrate) (p >>= fun _ => pure false)
        (fun _ s => s.2 ≠ [] ↔ w.database.hasNode col id ∧ w.database.hasSensor col id type)
        (fun _ s => s.2 ≠ [] ↔ w.database.hasNode col id ∧ w.database.hasSensor col id type)
        (w', []) := by
    intro α p w' hp hnot
    rw [wp_bind]
    exact (wp_unasked hp).mono (fun _ _ h => iff_of_false (not_not.mpr h) hnot)
      fun _ _ h => iff_of_false (not_not.mpr h) hnot
  rw [sensed, wp_bind]
  refine wp_recording_of_dull (redraws_lookUpNode id) hdull ?_
  refine wp_lookUpNode ht fun c q _ => ?_
  simp only [nodeLookup, List.isEmpty_iff]
  rw [wp_ite]
  refine ⟨fun hnone => ?_, fun hsome => ?_⟩
  · have hnode := Database.run_node_eq_nil.mp (List.map_eq_nil_iff.mp hnone)
    refine hskip _ _ ?_ fun h => hnode h.1
    exact uses_unrecognisedNode ne_of_redraws (by simp) (by simp) (by simp) (fun _ => (by simp)) c
  have hnode : w.database.hasNode col id := by
    by_contra h
    exact hsome (List.map_eq_nil_iff.mpr (Database.run_node_eq_nil.mpr h))
  rw [recognisedNode, wp_bind]
  refine wp_recording_of_dull (redraws_appendToOutput _) hdull ?_
  rw [wp_appendToOutput, wp_bind]
  refine wp_recording_of_dull (redraws_lookUpTypes id) hdull ?_
  refine wp_lookUpTypes ht fun q₂ => ?_
  simp only [wp_bind]
  refine wp_recording_of_dull (redraws_closeConnection c) hdull ?_
  refine wp_closeConnection fun q₃ => ?_
  rw [wp_ite]
  refine ⟨fun hmem => ?_, fun hmem => ?_⟩
  · have hsensor := Database.mem_run_sensors.mp (by simpa using hmem)
    exact (wp_recognisedSensor_asks value _).mono (fun _ _ h => iff_of_true h ⟨hnode, hsensor⟩)
      fun _ _ h => iff_of_true h ⟨hnode, hsensor⟩
  have hsensor : ¬ w.database.hasSensor col id type := fun h =>
    hmem (by simpa using Database.mem_run_sensors.mpr h)
  have hother : (isSelected .wsnSensorsAutoAddCheck).Uses (fun c : Call =>
      c ≠ .isSelected .wsnSensorsCalibrateCheck) fun _ => True := by simp [isSelected]
  -- The box is asked twice, with nothing in between.
  rw [wp_bind]
  refine wp_recording_of_dull hother not_asksCalibrate ?_
  rw [wp_isSelected, wp_ite]
  refine ⟨fun _ => ?_, fun hon => ?_⟩
  · refine hskip (appendToOutput _) _ ?_ fun h => hsensor h.2
    exact (redraws_appendToOutput _).uses ne_of_redraws
  rw [wp_bind]
  refine wp_recording_of_dull hother not_asksCalibrate ?_
  rw [wp_isSelected, wp_ite]
  refine ⟨fun _ => ?_, fun hoff => absurd (by simpa using hon) hoff⟩
  refine hskip _ _ ?_ fun h => hsensor h.2
  exact uses_unrecognisedSensor ne_of_redraws (by simp) fun _ => (by simp)

end Recognising

/-! ## Lists of pairs -/

section Entries

variable [Jdk] {col : Collation} {may : Call → Prop} {w : World} {url : String}
  {L : List (String × String)} {s t : String × String}

theorem equals_entryOf (s t : String × String) :
    (entryOf t).equals (entryOf s) = .ok (samePair s t) := by
  by_cases h : sameIgnoringCase s.1 t.1 = true <;>
    simp [SensorIgnoreIdTypeObject.equals, entryOf, equalsIgnoreCase, samePair, h]

theorem containsEntry_entries (L : List (String × String)) (t : String × String) :
    containsEntry (entryOf t) (L.map entryOf) = .ok (L.any fun s => samePair s t) := by
  induction L with
  | nil => rfl
  | cons s L ih =>
    rw [List.map_cons, containsEntry, equals_entryOf, List.any_cons]
    cases samePair s t with
    | false => simpa using ih
    | true => rfl

theorem removeEntry_entries (L : List (String × String)) (t : String × String) :
    removeEntry (entryOf t) (L.map entryOf) =
      .ok ((L.eraseP fun s => samePair s t).map entryOf) := by
  induction L with
  | nil => rfl
  | cons s L ih =>
    rw [List.map_cons, removeEntry, equals_entryOf]
    cases h : samePair s t with
    | false =>
      rw [List.eraseP_cons_of_neg (by simp [h])]
      simp [ih, Except.map]
    | true => rw [List.eraseP_cons_of_pos (by simpa using h)]

omit [Jdk] in
/-- Taking out the first element with a property takes out `s` if it is that one, and the only
copy. -/
theorem not_mem_eraseP_iff {α : Type} [BEq α] [LawfulBEq α] {p : α → Bool} {l : List α} {a : α}
    (ha : a ∈ l) : a ∉ l.eraseP p ↔ l.find? p = some a ∧ l.count a = 1 := by
  induction l with
  | nil => cases ha
  | cons b l ih =>
    by_cases hab : b = a
    · subst hab
      cases hb : p b with
      | true => simp [hb, List.count_eq_zero]
      | false =>
        have hfind : l.find? p ≠ some b := fun h => by simp [List.find?_some h] at hb
        simp [hb, hfind]
    · have hl : a ∈ l := by
        rcases List.mem_cons.mp ha with rfl | hl
        · exact absurd rfl hab
        · exact hl
      cases hb : p b with
      | true => simp [hb, hl, hab]
      | false => simpa [hb, hab, Ne.symm hab] using ih hl

theorem wp_unignoreSensor_entries {Q : Unit → World → Prop} {E : Exn → World → Prop}
    (hl : w.ignoreSensorList = some (L.map entryOf))
    (hbox : (w.combo .wsnSensorsNodeComboBox).selected = some t.1)
    (htype : w.text .wsnSensorsManualSensorAddType = t.2)
    (h : ∀ q, Q () ((w.listing w.ignoreNodeList
      (some ((L.eraseP fun s => samePair s t).map entryOf))).quietly q)) :
    wp (under col may) unignoreSensor Q E w := by
  have hpair : (⟨(w.combo .wsnSensorsNodeComboBox).selected,
      some (w.text .wsnSensorsManualSensorAddType)⟩ : SensorIgnoreIdTypeObject) = entryOf t := by
    rw [hbox, htype]
    rfl
  refine wp_unignoreSensor hl (fun e he => ?_) (fun hout => ?_) fun rest q _ hrest => ?_
  · rw [hpair, containsEntry_entries] at he
    cases he
  · rw [hpair, containsEntry_entries] at hout
    have hany : (L.any fun s => samePair s t) = false := by simpa using hout
    have herase : L.eraseP (fun s => samePair s t) = L :=
      List.eraseP_of_forall_not fun s hs => by simpa using List.any_eq_false.mp hany s hs
    rw [herase, ← hl] at h
    exact h w.traffic
  · rw [hpair, removeEntry_entries] at hrest
    obtain rfl : _ = rest := by simpa using hrest
    exact h q

/-! ## What happens to the pair -/

theorem recognised_iff {value : Int32} {l : List (Event calls World)} {r : Except Exn Bool}
    {w' : World} (ht : ¬ Trouble may w)
    (hrun : Runs (under col may) (sensed t.1 t.2 value) w l r w') :
    Recognised l ↔ w.database.hasNode col t.1 ∧ w.database.hasSensor col t.1 t.2 := by
  have := hrun.of_recording (I := fun s => s.2 ≠ [] ↔ _) (wp_sensed_recognises ht)
  rw [← this]
  simp [Recognised, List.filter_eq_nil_iff]

/-- An unregistered type of a registered node is added, unless an entry of the list is the same
ignoring case. -/
theorem stopped_iff {value : Int32} {l : List (Event calls World)} {r : Except Exn Bool}
    {w' : World} (hw : w.mysql .mysqlAddress = some url) (hcol : ∀ x, col.same x x = true)
    (hl : w.ignoreSensorList = some (L.map entryOf)) (hnode : w.database.hasNode col t.1)
    (hsensor : ¬ w.database.hasSensor col t.1 t.2)
    (hauto : w.checked .wsnSensorsAutoAddCheck = true)
    (hrun : Runs (under col httpFault) (sensed t.1 t.2 value) w l r w') :
    w'.database = w.database ↔ ∃ s ∈ L, samePair s t := by
  have hlist : ∀ l', w.ignoreSensorList = some l' →
      containsEntry ⟨some t.1, some t.2⟩ l' = .ok (L.any fun s => samePair s t) := by
    rintro l' hl'
    obtain rfl : L.map entryOf = l' := by simpa [hl] using hl'
    exact containsEntry_entries L t
  have hreaction : Reaction col url w t.1 t.2 value r w' := by
    have := hrun.outcome_of_wp (wp_sensed (not_trouble hw) hw (hcol t.2))
    cases r <;> exact this
  cases hreaction with
  | nodeSkipped q hnode' | nodeCrashed q hnode' | nodeAdded _ _ _ _ hnode' =>
    exact absurd hnode hnode'
  | stopped t' q _ hsensor' | forwarded a x ok t' q _ hsensor' => exact absurd hsensor' hsensor
  | sensorSkipped q _ _ h =>
    obtain ⟨l', hl', hc⟩ := h hauto
    rw [hlist l' hl'] at hc
    exact iff_of_true rfl (by simpa using hc)
  | sensorCrashed e q _ _ _ h =>
    rcases h with hnone | ⟨l', hl', hc⟩
    · simp [hl] at hnone
    · rw [hlist l' hl'] at hc
      cases hc
  | sensorAdded l' t' b q _ _ _ hl' hc hf =>
    rw [hlist l' hl'] at hc
    have hdb : ((w.withDatabase url (w.database.apply col (.insertSensor t.1 t.2))).redrawn t' b
      q).database = w.database.apply col (.insertSensor t.1 t.2) := World.withDatabase_database hw
    refine iff_of_false (fun h => ?_) (by simpa using hc)
    rw [hdb] at h
    simpa [Database.apply] using congrArg Database.sensors h

/-- Adding a pair by hand takes the first entry that is the same ignoring case off the list. -/
theorem released {l : List (Event calls World)} {r : Except Exn Unit} {w' : World}
    (hw : w.mysql .mysqlAddress = some url) (hl : w.ignoreSensorList = some (L.map entryOf))
    (hbox : (w.combo .wsnSensorsNodeComboBox).selected = some t.1)
    (htype : w.text .wsnSensorsManualSensorAddType = t.2) (hne : t.2 ≠ "")
    (hnone : (Query.sensor t.1 t.2).run col w.database = [])
    (hrun : Runs (under col httpFault) manualSensorAdd w l r w') :
    w'.ignoreSensorList = some ((L.eraseP fun s => samePair s t).map entryOf) := by
  have hspell : spell (w.combo .wsnSensorsNodeComboBox).selected = t.1 := by rw [hbox, spell_some]
  refine hrun.of_wp (I := fun w' => w'.ignoreSensorList = _) (wp_manualSensorAdd (not_trouble hw) hw
    (fun q h => ?_) (fun q h => ?_) fun _ _ _ q => ?_)
  · rw [hspell, htype] at h
    exact absurd hnone (h (by simpa using hne))
  · simp [hl] at h
  · exact wp_unignoreSensor_entries hl hbox htype fun q' t b q'' _ => rfl

/-! ## One identity -/

/-- Wherever the program asks whether a sensor is `t`, it means what the database means. -/
structure OneIdentity (col : Collation) (w : World) (L : List (String × String))
    (t : String × String) : Prop where
  /-- A reading of `t` is one of a recognised sensor if the database has a row for it. -/
  recognises : ∀ value l r w', Runs (under col httpFault) (sensed t.1 t.2 value) w l r w' →
    (Recognised l ↔ (Query.sensor t.1 t.2).run col w.database ≠ [])
  /-- What is on the ignore list stops its own adding. -/
  stops : w.database.hasNode col t.1 → ¬ w.database.hasSensor col t.1 t.2 →
    w.checked .wsnSensorsAutoAddCheck = true →
    ∀ value l r w', Runs (under col httpFault) (sensed t.1 t.2 value) w l r w' →
      (w'.database = w.database ↔ ∃ s ∈ L, col.sameSensor s t)
  /-- Adding `t` by hand takes `t` off the ignore list. -/
  releases : (w.combo .wsnSensorsNodeComboBox).selected = some t.1 →
    w.text .wsnSensorsManualSensorAddType = t.2 → t.2 ≠ "" →
    (Query.sensor t.1 t.2).run col w.database = [] →
    ∀ l r w', Runs (under col httpFault) manualSensorAdd w l r w' →
      ∀ l', w'.ignoreSensorList = some l' → ∀ s ∈ L, (entryOf s ∉ l' ↔ col.sameSensor s t)

/-- The comparisons agree about `t`, as far as each is asked. -/
structure ComparisonsAgree (col : Collation) (w : World) (L : List (String × String))
    (t : String × String) : Prop where
  row : (Query.sensor t.1 t.2).run col w.database ≠ [] →
    w.database.hasNode col t.1 ∧ w.database.hasSensor col t.1 t.2
  ignored : w.database.hasNode col t.1 → ¬ w.database.hasSensor col t.1 t.2 →
    w.checked .wsnSensorsAutoAddCheck = true →
    ((∃ s ∈ L, samePair s t) ↔ ∃ s ∈ L, col.sameSensor s t)
  first : (w.combo .wsnSensorsNodeComboBox).selected = some t.1 →
    w.text .wsnSensorsManualSensorAddType = t.2 → t.2 ≠ "" →
    (Query.sensor t.1 t.2).run col w.database = [] →
    ∀ s ∈ L, (L.find? (fun s => samePair s t) = some s ∧ L.count s = 1 ↔ col.sameSensor s t)

omit [Jdk] in
theorem run_sensor_ne_nil (hcol : ∀ x, col.same x x = true)
    (h : w.database.hasSensor col t.1 t.2) : (Query.sensor t.1 t.2).run col w.database ≠ [] := by
  obtain ⟨r, hr, hid, htype⟩ := h
  refine List.ne_nil_of_mem (a := r) (List.mem_filter.mpr ⟨hr, ?_⟩)
  simp [hid, htype, hcol]

omit [Jdk] in
theorem exists_run {α : Type} (p : Panel α) (col : Collation) (may : Call → Prop) (w : World) :
    ∃ l r w', Runs (under col may) p w l r w' := ⟨_, _, _, runs_play_under p [] w (by simp) may⟩

/-- **Identity.** The program has one notion of sensor identity if and only if its comparisons
agree: a row that matches a reading stands for its very type and has a node, an entry that is the
same ignoring case is the same to the database, and it is the first of its kind and on the list
once. -/
theorem oneIdentity_iff (hw : w.mysql .mysqlAddress = some url)
    (hcol : ∀ x, col.same x x = true) (hl : w.ignoreSensorList = some (L.map entryOf)) :
    OneIdentity col w L t ↔ ComparisonsAgree col w L t := by
  constructor
  · intro h
    obtain ⟨l, r, w', hrun⟩ := exists_run (sensed t.1 t.2 0) col httpFault w
    obtain ⟨l₂, r₂, w₂, hrun₂⟩ := exists_run manualSensorAdd col httpFault w
    refine ⟨fun hrow => ?_, fun hnode hsensor hauto => ?_, fun hbox htype hne hnone s hs => ?_⟩
    · exact (recognised_iff (not_trouble hw) hrun).mp ((h.recognises 0 l r w' hrun).mpr hrow)
    · rw [← h.stops hnode hsensor hauto 0 l r w' hrun]
      exact (stopped_iff hw hcol hl hnode hsensor hauto hrun).symm
    · rw [← h.releases hbox htype hne hnone l₂ r₂ w₂ hrun₂ _
        (released hw hl hbox htype hne hnone hrun₂) s hs,
        List.mem_map_of_injective entryOf_injective]
      exact (not_mem_eraseP_iff hs).symm
  · intro h
    refine ⟨fun value l r w' hrun => ?_, fun hnode hsensor hauto value l r w' hrun => ?_,
      fun hbox htype hne hnone l r w' hrun l' hl' s hs => ?_⟩
    · rw [recognised_iff (not_trouble hw) hrun]
      exact ⟨fun hboth => run_sensor_ne_nil hcol hboth.2, h.row⟩
    · rw [stopped_iff hw hcol hl hnode hsensor hauto hrun]
      exact h.ignored hnode hsensor hauto
    · rw [released hw hl hbox htype hne hnone hrun, Option.some_inj] at hl'
      rw [← hl', List.mem_map_of_injective entryOf_injective, ← h.first hbox htype hne hnone s hs]
      exact not_mem_eraseP_iff hs

end Entries

/-- A type that was put on the ignore list under another spelling is not added. -/
theorem not_always_oneIdentity : ¬ ∀ (jdk : Jdk) (col : Collation) (w : World) (url : String)
    (L : List (String × String)) (t : String × String), w.mysql .mysqlAddress = some url →
    (∀ x, col.same x x = true) → w.ignoreSensorList = some (L.map entryOf) →
    @OneIdentity jdk col w L t := by
  intro h
  have hone := h plainJdk .exact (addingWorld [entryOf ("1", "Light")]) "jdbc:mysql://db"
    [("1", "Light")] ("1", "light") rfl beq_self_eq_true rfl
  have hnode : (addingWorld [entryOf ("1", "Light")]).database.hasNode .exact "1" :=
    ⟨⟨"1", none⟩, List.mem_singleton_self _, by decide⟩
  have hsensor : ¬ (addingWorld [entryOf ("1", "Light")]).database.hasSensor .exact "1" "light" :=
    nofun
  have hsame := (@OneIdentity.stops plainJdk _ _ _ _ hone hnode hsensor rfl 5 _ _ _
    (runs_senseFirst [entryOf ("1", "Light")])).mp (by decide +kernel)
  revert hsame
  decide

/-- Under the spelling that is on the list, the program means what the database means. -/
theorem ignored_oneIdentity : @OneIdentity plainJdk .exact (addingWorld [entryOf ("1", "light")])
    [("1", "light")] ("1", "light") := by
  refine (@oneIdentity_iff plainJdk .exact (addingWorld [entryOf ("1", "light")])
    "jdbc:mysql://db" [("1", "light")] ("1", "light") rfl beq_self_eq_true rfl).mpr
      (@ComparisonsAgree.mk plainJdk _ _ _ _ (fun h => absurd rfl h)
        (fun _ _ _ => by decide +kernel) fun hbox => by cases hbox)

end CrossingReality
