import CrossingReality.Effects.Serving
import CrossingReality.Encoding
import CrossingReality.Threads

/-!
# Where the values come from

The one call of a reading that writes a bound writes the reading's own value, for its own sensor,
and what it posts is its own value, scaled to bounds that were read. No action of the operator does
either. This holds of a thread in any company.

* `stays_action` — what an action calls, as long as it only reads bounds of a kind.
* `boundsOf_of_post` — what these calls make of the tables.
-/

namespace CrossingReality

open Effects

/-! ## Values of sensors -/

/-- The pairs of a sensor and a value. -/
abbrev Values := String → String → Int32 → Prop

/-- The bounds that are there are as `N` says. -/
def Bounds.All (N : Int32 → Prop) (b : Bounds) : Prop := (∀ v ∈ b.max, N v) ∧ ∀ v ∈ b.min, N v

/-- Bounds are only written as `V` says. -/
def Update.writesOnly (V : Values) : Update → Prop
  | .setMin v id type | .setMax v id type | .setBounds v id type => V id type v
  | _ => True

/-- Bounds are only written, and readings only posted, as `V` says, the latter scaled to bounds as
`N` says. -/
def Call.sourced (V N : Values) : Call → Prop
  | .executeUpdate _ u => u.writesOnly V
  | .http _ p => ∃ v b, V p.payload.id p.payload.type v ∧ b.All (N p.payload.id p.payload.type) ∧
    p.payload.value = scaled v b
  | _ => True

/-- The calls that have to do with neither bounds nor posting. -/
def Call.unsourced : Call → Prop
  | .executeUpdate _ u => ∀ V, u.writesOnly V
  | .http _ _ => False
  | _ => True

variable {V N : Values} {R : Exn → Prop} {α : Type}

theorem sourced_of_unsourced (c : Call) (hc : c.unsourced) : c.sourced V N := by
  cases c with
  | executeUpdate k u => exact hc V
  | http k p => exact hc.elim
  | _ => trivial

theorem unsourced_of_redraws (c : Call) (hc : c.redraws fun _ => True) : c.unsourced := by
  cases c <;> first | exact hc.elim | trivial

theorem sourced_of_redraws (c : Call) (hc : c.redraws fun _ => True) : c.sourced V N :=
  sourced_of_unsourced c (unsourced_of_redraws c hc)

theorem Redraws.unsourced {p : Panel α} (hp : Redraws (fun _ => True) p) :
    p.Uses Call.unsourced R := hp.uses unsourced_of_redraws

/-! ## The operator's actions -/

section Operator

theorem unsourced_executeUpdate {u : Update} (hu : ∀ V, u.writesOnly V) (c : Connection)
    (m : Message) : (executeUpdate c u m).Uses Call.unsourced R :=
  uses_executeUpdate (fun _ => hu) (fun _ => trivial) c m

theorem unsourced_setText (f : TextField) (s : String) : (setText f s).Uses Call.unsourced R :=
  ⟨trivial, fun _ => trivial⟩

theorem unsourced_say (m : Message) :
    (do appendToOutput m; return : Panel Unit).Uses Call.unsourced R :=
  ⟨trivial, fun _ => trivial⟩

theorem unsourced_updateNodeSelects : updateNodeSelects.Uses Call.unsourced R :=
  tame_updateNodeSelects.unsourced

theorem unsourced_updateActuatorsSelects : updateActuatorsSelects.Uses Call.unsourced R :=
  tame_updateActuatorsSelects.unsourced

theorem unsourced_deleteNode (id : Option String) : (deleteNode id).Uses Call.unsourced R := by
  refine uses_bindOption (redraws_openStatement _).unsourced trivial fun connect => ?_
  refine (unsourced_executeUpdate (fun _ => by trivial) _ _).bind fun ok => ?_
  refine Program.uses_ite _ trivial ?_
  refine (unsourced_executeUpdate (fun _ => by trivial) _ _).bind fun ok => ?_
  refine Program.uses_ite _ trivial ((redraws_appendToOutput _).unsourced.bind fun _ => ?_)
  exact ⟨trivial, fun _ => unsourced_updateNodeSelects⟩

theorem unsourced_removeNode (id : Option String) :
    (removeNode id).Uses Call.unsourced fun _ => True := by
  refine .bind ⟨trivial, fun ticked => ?_⟩ fun _ => unsourced_deleteNode id
  refine Program.uses_ite _ ⟨trivial, fun ok => ?_⟩ trivial
  exact Program.uses_ite _ (redraws_appendToOutput _).unsourced trivial

theorem unsourced_deleteSensor (id type : Option String) :
    (deleteSensor id type).Uses Call.unsourced R := by
  refine uses_bindOption (redraws_openStatement _).unsourced trivial fun connect => ?_
  refine (unsourced_executeUpdate (fun _ => by trivial) _ _).bind fun ok => ?_
  refine Program.uses_ite _ trivial ((redraws_appendToOutput _).unsourced.bind fun _ => ?_)
  exact ⟨trivial, fun _ => (redraws_updateSensorsSelect trivial _).unsourced⟩

theorem unsourced_removeSensor (id type : Option String) :
    (removeSensor id type).Uses Call.unsourced fun _ => True := by
  refine .bind ⟨trivial, fun ticked => ?_⟩ fun _ => unsourced_deleteSensor id type
  refine Program.uses_ite _ ⟨trivial, fun ok => ?_⟩ trivial
  exact Program.uses_ite _ (redraws_appendToOutput _).unsourced trivial

theorem unsourced_removeActuator (id : Option String) :
    (removeActuator id).Uses Call.unsourced R := by
  refine uses_bindOption (redraws_openStatement _).unsourced trivial fun connect => ?_
  refine (unsourced_executeUpdate (fun _ => by trivial) _ _).bind fun ok => ?_
  refine Program.uses_ite _ trivial ((redraws_appendToOutput _).unsourced.bind fun _ => ?_)
  exact unsourced_updateActuatorsSelects

theorem unsourced_calibrateReset : calibrateReset.Uses Call.unsourced R := by
  refine (redraws_getSelectedItem _).unsourced.bind fun id => ?_
  refine (redraws_getSelectedItem _).unsourced.bind fun type => ?_
  refine uses_bindOption (redraws_openStatement _).unsourced trivial fun connect => ?_
  refine (unsourced_executeUpdate (fun _ => by trivial) _ _).bind fun ok => ?_
  refine Program.uses_ite _ trivial ((redraws_appendToOutput _).unsourced.bind fun _ => ?_)
  refine (redraws_closeConnection _).unsourced.bind fun _ => ?_
  exact (unsourced_setText _ _).bind fun _ => unsourced_setText _ _

theorem unsourced_takeMysqlFields : takeMysqlFields.Uses Call.unsourced R := by
  simp [takeMysqlFields, getText, Call.unsourced]

theorem unsourced_saveMysqlDetails : saveMysqlDetails.Uses Call.unsourced R := by
  simp only [saveMysqlDetails, uses_call_bind]
  refine ⟨trivial, fun _ => ⟨trivial, fun _ => ⟨trivial, fun _ => ⟨trivial, fun ok => ?_⟩⟩⟩⟩
  exact Program.uses_ite _ (redraws_appendToOutput _).unsourced (redraws_appendToOutput _).unsourced

theorem unsourced_insertTypedActuator (connect : Connection) :
    (insertTypedActuator connect).Uses Call.unsourced R := by
  refine ⟨trivial, fun ok => Program.uses_ite _ (unsourced_say _) ?_⟩
  refine ⟨trivial, fun id => ⟨trivial, fun address => ?_⟩⟩
  refine (unsourced_executeUpdate (fun _ => by trivial) _ _).bind fun ok => ?_
  refine Program.uses_ite _ trivial ((redraws_appendToOutput _).unsourced.bind fun _ => ?_)
  refine (redraws_closeConnection _).unsourced.bind fun _ => ?_
  refine (unsourced_setText _ _).bind fun _ => (unsourced_setText _ _).bind fun _ => ?_
  exact unsourced_updateActuatorsSelects

theorem unsourced_insertTypedNode (connect : Connection) :
    (insertTypedNode connect).Uses Call.unsourced R := by
  refine ⟨trivial, fun ok => Program.uses_ite _ (unsourced_say _) ?_⟩
  refine ⟨trivial, fun id => ⟨trivial, fun address => ?_⟩⟩
  refine (unsourced_executeUpdate (fun _ => by trivial) _ _).bind fun ok => ?_
  refine Program.uses_ite _ trivial ((redraws_appendToOutput _).unsourced.bind fun _ => ?_)
  refine (redraws_closeConnection _).unsourced.bind fun _ => ?_
  refine unsourced_updateNodeSelects.bind fun _ => ?_
  exact (unsourced_setText _ _).bind fun _ => unsourced_setText _ _

theorem unsourced_unignoreNode : unignoreNode.Uses Call.unsourced fun _ => True := by
  refine ⟨trivial, fun id => ⟨trivial, fun ignored => ?_⟩⟩
  cases ignored with
  | none => trivial
  | some l =>
    refine Program.uses_ite _ ((redraws_appendToOutput _).unsourced.bind fun _ => ?_) trivial
    exact ⟨trivial, fun _ => ⟨trivial, fun _ => trivial⟩⟩

variable [Jdk]

theorem unsourced_updateNodeAddress : updateNodeAddress.Uses Call.unsourced R := by
  refine ⟨trivial, fun newAddress => ⟨trivial, fun id => ⟨trivial, fun text => ?_⟩⟩⟩
  refine Program.uses_ite _ (unsourced_say _) ?_
  refine uses_bindOption (redraws_openStatement _).unsourced trivial fun connect => ?_
  refine (unsourced_executeUpdate (fun _ => by trivial) _ _).bind fun ok => ?_
  refine Program.uses_ite _ trivial ((redraws_appendToOutput _).unsourced.bind fun _ => ?_)
  exact (redraws_closeConnection _).unsourced.bind fun _ => unsourced_setText _ _

theorem unsourced_updateActuatorAddress : updateActuatorAddress.Uses Call.unsourced R := by
  refine ⟨trivial, fun newAddress => ⟨trivial, fun id => ⟨trivial, fun text => ?_⟩⟩⟩
  refine Program.uses_ite _ (unsourced_say _) ?_
  refine uses_bindOption (redraws_openStatement _).unsourced trivial fun connect => ?_
  refine (unsourced_executeUpdate (fun _ => by trivial) _ _).bind fun ok => ?_
  refine Program.uses_ite _ trivial ((redraws_appendToOutput _).unsourced.bind fun _ => ?_)
  exact (redraws_closeConnection _).unsourced.bind fun _ => unsourced_setText _ _

theorem unsourced_manualActuatorAdd : manualActuatorAdd.Uses Call.unsourced R := by
  refine ⟨trivial, fun id => Program.uses_ite _ (unsourced_say _) ⟨trivial, fun address => ?_⟩⟩
  refine Program.uses_ite _ (unsourced_say _) ⟨trivial, fun address => ?_⟩
  refine Program.uses_ite _ (unsourced_say _) ?_
  refine uses_bindOption (redraws_openStatement _).unsourced trivial fun connect => ?_
  refine ⟨trivial, fun id => ?_⟩
  refine uses_bindOption (redraws_executeQuery _ _ _).unsourced trivial fun rows => ?_
  refine uses_bindOption (redraws_readRows _ _ _).unsourced trivial fun types => ?_
  refine Program.uses_ite _ (unsourced_say _) ?_
  refine (redraws_appendToOutput _).unsourced.bind fun _ => ?_
  exact unsourced_insertTypedActuator connect

theorem unsourced_manualNodeAdd : manualNodeAdd.Uses Call.unsourced fun _ => True := by
  refine ⟨trivial, fun id => Program.uses_ite _ (unsourced_say _) ?_⟩
  refine uses_bindOption (redraws_openStatement _).unsourced trivial fun connect => ?_
  refine ⟨trivial, fun id => ?_⟩
  refine uses_bindOption (redraws_executeQuery _ _ _).unsourced trivial fun rows => ?_
  refine uses_bindOption (redraws_readRows _ _ _).unsourced trivial fun ids => ?_
  refine Program.uses_ite _ (unsourced_say _) ⟨trivial, fun address => ?_⟩
  refine Program.uses_ite _ (unsourced_say _) ?_
  refine (redraws_appendToOutput _).unsourced.bind fun _ => ?_
  exact unsourced_unignoreNode.bind fun _ => unsourced_insertTypedNode connect

theorem unsourced_unignoreSensor : unignoreSensor.Uses Call.unsourced fun _ => True := by
  refine (redraws_getSelectedItem _).unsourced.bind fun id => ?_
  refine (redraws_getText _).unsourced.bind fun type => ?_
  refine .bind (uses_ignoreSensorListContains _ trivial) fun listed => ?_
  refine Program.uses_ite _ ?_ trivial
  simp only [uses_call_bind]
  refine ⟨trivial, fun ignored => ?_⟩
  cases ignored with
  | none => trivial
  | some l =>
    simp only
    cases removeEntry ⟨id, some type⟩ l with
    | error e => trivial
    | ok rest => exact ⟨trivial, fun _ => (redraws_appendToOutput _).unsourced⟩

theorem unsourced_insertTypedSensor (connect : Connection) :
    (insertTypedSensor connect).Uses Call.unsourced fun _ => True := by
  refine ⟨trivial, fun ok => Program.uses_ite _ (unsourced_say _) ?_⟩
  refine ⟨trivial, fun id => ⟨trivial, fun type => ?_⟩⟩
  refine (unsourced_executeUpdate (fun _ => by trivial) _ _).bind fun ok => ?_
  refine Program.uses_ite _ trivial ((redraws_appendToOutput _).unsourced.bind fun _ => ?_)
  refine (redraws_closeConnection _).unsourced.bind fun _ => ?_
  refine unsourced_unignoreSensor.bind fun _ => ⟨trivial, fun id => ?_⟩
  exact (redraws_updateSensorsSelect trivial _).unsourced.bind fun _ => unsourced_setText _ _

theorem unsourced_manualSensorAdd : manualSensorAdd.Uses Call.unsourced fun _ => True := by
  refine ⟨trivial, fun type => Program.uses_ite _ (unsourced_say _) ?_⟩
  refine uses_bindOption (redraws_openStatement _).unsourced trivial fun connect => ?_
  refine ⟨trivial, fun id => ⟨trivial, fun type => ?_⟩⟩
  refine uses_bindOption (redraws_executeQuery _ _ _).unsourced trivial fun rows => ?_
  refine uses_bindOption (redraws_readRows _ _ _).unsourced trivial fun types => ?_
  refine Program.uses_ite _ (unsourced_say _) ?_
  refine (redraws_appendToOutput _).unsourced.bind fun _ => ?_
  refine .bind ⟨trivial, fun ignored => ?_⟩ fun _ => unsourced_insertTypedSensor connect
  cases ignored <;> trivial

/-- **The operator.** What he does has to do with neither bounds nor posting. -/
theorem unsourced_actionPerformed (b : Button) :
    (actionPerformed b).Uses Call.unsourced fun _ => True := by
  cases b with
  | wsnGeneralUpdateNodeAddressButton => exact unsourced_updateNodeAddress
  | wsnGeneralUpdateMysqlAddressButton =>
    exact unsourced_takeMysqlFields.bind fun _ => unsourced_updateNodeSelects
  | wsnGeneralSaveMysqlDetailsButton =>
    exact unsourced_takeMysqlFields.bind fun _ => unsourced_saveMysqlDetails
  | wsnGeneralManualNodeAddButton => exact unsourced_manualNodeAdd
  | wsnGeneralRemoveNodeButton => exact ⟨trivial, unsourced_removeNode⟩
  | wsnSensorsManualAddSensorButton => exact unsourced_manualSensorAdd
  | wsnSensorsRemoveSensorButton =>
    exact ⟨trivial, fun id => ⟨trivial, unsourced_removeSensor id⟩⟩
  | wsnSensorsCalibrateResetButton => exact unsourced_calibrateReset
  | wsnGeneralRefreshNodeAddressButton => exact redraws_refreshNodeAddress.unsourced
  | actuatorManualActuatorAddButton => exact unsourced_manualActuatorAdd
  | actuatorUpdateActuatorAddressButton => exact unsourced_updateActuatorAddress
  | actuatorRefreshActuatorAddressButton => exact redraws_refreshActuatorAddress.unsourced
  | actuatorRemoveActuatorButton => exact ⟨trivial, unsourced_removeActuator⟩

theorem unsourced_action {a : Action} (ha : ∀ id type value, a ≠ .reading id type value) :
    a.program.Uses Call.unsourced fun _ => True := by
  cases a with
  | reading id type value => exact absurd rfl (ha id type value)
  | press b => exact unsourced_actionPerformed b
  | tick b v => exact ⟨trivial, fun _ => trivial⟩
  | typeText f s => exact Program.uses_ite _ trivial ⟨trivial, fun _ => trivial⟩
  | select b s =>
    refine ⟨trivial, fun n => Redraws.unsourced ?_⟩
    exact redraws_fire (redraws_itemStateChanged b fun _ => trivial) n

end Operator

/-! ## Readings -/

/-- The bounds of every row are values of its sensor, as `W` says. -/
def Database.BoundsOf (W : Values) (d : Database) : Prop :=
  ∀ r ∈ d.sensors, r.bounds.All (W r.id r.type)

/-- The bounds of every database are as `W` says of it. -/
def World.BoundsOf (W : String → Values) (w : World) : Prop :=
  ∀ url, (w.servers url).BoundsOf (W url)

/-- What a query for a sensor can find where the bounds are as `W` says. -/
def found (col : Collation) (W : String → Values) : Values := fun id type v =>
  ∃ url id' type', col.same id' id = true ∧ col.same type' type = true ∧ W url id' type' v

section Readings

variable {col : Collation} {W : String → Values} {id type : String} {value : Int32}

theorem Bounds.All.mono {N N' : Int32 → Prop} (hN : ∀ v, N v → N' v) {b : Bounds} (h : b.All N) :
    b.All N' :=
  ⟨fun v hv => hN v (h.1 v hv), fun v hv => hN v (h.2 v hv)⟩

/-- The rows of a bounds query are bounds that are stored. -/
theorem all_of_answers {c : Connection} {rows : List Bounds}
    (h : (under col anyFault).answers (World.BoundsOf W) (.executeQuery c (.bounds id type))
      (some rows)) : ∀ b ∈ rows, b.All (found col W id type) := by
  obtain ⟨w, hw, rfl⟩ := rows_of_answers h
  intro b hb
  obtain ⟨r, hr, rfl⟩ := List.mem_map.mp hb
  obtain ⟨hr, hmatch⟩ := List.mem_filter.mp hr
  obtain ⟨hid, htype⟩ := (Bool.and_eq_true _ _).mp hmatch
  exact (hw c.url r hr).mono fun v hv => ⟨c.url, r.id, r.type, hid, htype, hv⟩

variable {P : Call → Prop} {A : (c : Call) → c.Ret → Prop} {E : Exn → Unit → Prop}

theorem wp_executeQuery_guarding {c : Connection} {q : Query} {m : Message}
    {Q : Option (List q.Row) → Unit → Prop} (hP : ∀ c, c.redraws (fun _ => True) → P c)
    (h : ∀ rows, A (.executeQuery c q) (some rows) → Q (some rows) ()) (hnone : Q none ()) :
    wp (Contract.guarding (S := calls) P A) (executeQuery c q m) Q E () := by
  refine ⟨hP _ trivial, ?_⟩
  rintro rows ⟨⟩ hrows
  cases rows with
  | none => exact ⟨hP _ trivial, fun _ _ _ => hnone⟩
  | some rows => exact h rows hrows

/-- What is read from rows is in them. -/
theorem wp_readRows_guarding {ρ β : Type} {c : Connection} {column : ρ → β} {rows : List ρ}
    (hfetch : P (.fetch c)) (hsay : ∀ m, P (.append m)) :
    wp (Contract.guarding (S := calls) P A) (readRows c column rows)
      (fun r _ => ∀ l ∈ r, ∀ b ∈ l, ∃ row ∈ rows, column row = b) E () := by
  -- The loop carries what has been read so far.
  have hloop : ∀ (rest : List ρ) (acc : List β), (∀ row ∈ rest, row ∈ rows) →
      (∀ b ∈ acc, ∃ row ∈ rows, column row = b) →
      wp (Contract.guarding (S := calls) P A)
        (whileNext c (fun acc row => pure (acc ++ [column row])) rest acc)
        (fun r _ => ∀ l ∈ r, ∀ b ∈ l, ∃ row ∈ rows, column row = b) E () := by
    intro rest
    induction rest with
    | nil =>
      intro acc _ hacc
      refine ⟨hfetch, fun ok _ _ => ?_⟩
      cases ok with
      | false => exact fun l hl => by cases hl
      | true =>
        intro l hl
        obtain rfl := Option.some_inj.mp hl
        exact hacc
    | cons row rest ih =>
      intro acc hrest hacc
      refine ⟨hfetch, fun ok _ _ => ?_⟩
      cases ok with
      | false => exact fun l hl => by cases hl
      | true =>
        refine ih _ (fun r hr => hrest r (List.mem_cons_of_mem _ hr)) fun b hb => ?_
        rcases List.mem_append.mp hb with hb | hb
        · exact hacc b hb
        · obtain rfl := List.mem_singleton.mp hb
          exact ⟨row, hrest row List.mem_cons_self, rfl⟩
  simp only [readRows, wp_bind]
  refine (hloop rows [] (fun _ h => h) (by simp)).mono (fun r _ h => ?_) fun _ _ h => h
  cases r with
  | none => exact ⟨hsay _, fun _ _ _ l hl => by cases hl⟩
  | some l => exact h

/-- The bounds that are read are stored somewhere. -/
theorem wp_readBounds_guarding (hP : ∀ c, c.redraws (fun _ => True) → P c) :
    wp (Contract.guarding P ((under col anyFault).answers (World.BoundsOf W)))
      (readBounds id type) (fun r _ => ∀ l ∈ r, ∀ b ∈ l, b.All (found col W id type))
      (fun _ _ => True) () := by
  have hnone : ∀ l ∈ (none : Option (List Bounds)), ∀ b ∈ l, b.All (found col W id type) :=
    fun l hl => by cases hl
  simp only [readBounds, wp_bind]
  refine wp_guarding_of_uses (R := fun _ => False) (redraws_openStatement _) hP (fun connect => ?_)
    fun _ _ => trivial
  cases connect with
  | none => exact hnone
  | some connect =>
    simp only [wp_bind]
    refine wp_executeQuery_guarding hP (fun rows hrows => ?_) hnone
    have hstored := all_of_answers hrows
    simp only [wp_bind]
    refine (wp_readRows_guarding (hP _ trivial) fun _ => hP _ trivial).mono (fun r _ hread => ?_)
      fun _ _ h => h
    cases r with
    | none => exact hnone
    | some bounds =>
      simp only [wp_bind]
      refine wp_guarding_of_uses (R := fun _ => False) (redraws_closeConnection _) hP (fun _ => ?_)
        fun _ _ => trivial
      intro l hl b hb
      obtain rfl := Option.some_inj.mp hl
      obtain ⟨row, hrow, rfl⟩ := hread _ rfl b hb
      exact hstored row hrow

theorem wp_scaleValue_guarding {b : Bounds} (hsay : ∀ m, P (.append m)) :
    wp (Contract.guarding (S := calls) P A) (scaleValue value b)
      (fun x _ => x = scaled value b) E () := by
  have habove : ∀ (x : JDouble) (Q : JDouble → Unit → Prop), Q (if x.gtOne then .num 1 else x) () →
      wp (Contract.guarding (S := calls) P A) (clampAbove x) Q E () := by
    intro x Q hQ
    unfold clampAbove
    by_cases hx : x.gtOne = true
    · rw [if_pos hx] at hQ ⊢
      exact ⟨hsay _, fun _ _ _ => hQ⟩
    · rw [if_neg hx] at hQ ⊢
      exact hQ
  have hbelow : ∀ (x : JDouble) (Q : JDouble → Unit → Prop), Q (if x.ltZero then .num 0 else x) () →
      wp (Contract.guarding (S := calls) P A) (clampBelow x) Q E () := by
    intro x Q hQ
    unfold clampBelow
    by_cases hx : x.ltZero = true
    · rw [if_pos hx] at hQ ⊢
      exact ⟨hsay _, fun _ _ _ => hQ⟩
    · rw [if_neg hx] at hQ ⊢
      exact hQ
  obtain ⟨max, min⟩ := b
  cases min with
  | none => rfl
  | some min =>
    cases max with
    | none => rfl
    | some max =>
      simp only [scaleValue, wp_bind]
      exact habove _ _ (hbelow _ _ rfl)

theorem sourced_sendPost {p : Post} {l : List (HttpCall × Message)}
    (hp : ∀ c, Call.sourced V N (.http c p)) : (sendPost p l).Uses (Call.sourced V N) R := by
  induction l with
  | nil => trivial
  | cons c l ih =>
    obtain ⟨c, problem⟩ := c
    exact ⟨hp c, fun ok => Program.uses_ite _ ⟨trivial, fun _ => trivial⟩ ih⟩

variable [Jdk]

/-- Forwarding posts the value, scaled to bounds that are stored somewhere. -/
theorem stays_HTTPPOSTForward (address : String) (hV : V id type value) :
    (HTTPPOSTForward id type value address).Stays (under col anyFault)
      (Call.sourced V (found col W)) (World.BoundsOf W) := by
  refine .bind_of (wp_readBounds_guarding sourced_of_redraws) fun bounds hbounds => ?_
  cases bounds with
  | none => trivial
  | some bounds =>
    dsimp only
    cases hhead : bounds.head? with
    | none => trivial
    | some b =>
      dsimp only
      refine .bind_of (wp_scaleValue_guarding fun _ => trivial) fun x hx => ?_
      have hpost : ∀ c, Call.sourced V (found col W) (.http c ⟨address, ⟨id, type, x⟩⟩) := fun c =>
        ⟨value, b, hV, hbounds _ rfl b (List.mem_of_head? hhead), hx⟩
      refine .of_uses (C := Call.sourced V (found col W)) (R := fun _ => True) ?_ fun _ h => h
      refine (sourced_sendPost hpost).bind fun ok => Program.uses_ite _ trivial ?_
      exact ⟨trivial, fun _ => trivial⟩

theorem stays_forwardReading (addresses : List String) (hV : V id type value) :
    (forwardReading id type value addresses).Stays (under col anyFault)
      (Call.sourced V (found col W)) (World.BoundsOf W) := by
  have hsay : ∀ m, (appendToOutput m).Stays (under col anyFault) (Call.sourced V (found col W))
      (World.BoundsOf W) := fun m => ⟨trivial, fun _ _ _ => trivial⟩
  refine (hsay _).bind fun _ => .bind ⟨trivial, fun _ _ _ => trivial⟩ fun paused => ?_
  refine .ite _ ((hsay _).bind fun _ => trivial) ?_
  cases addresses.head? with
  | none => exact (hsay _).bind fun _ => trivial
  | some address => exact (hsay _).bind fun _ => stays_HTTPPOSTForward address hV

/-- Calibrating writes the value. -/
theorem sourced_calibrateRow (b : Bounds) (hV : V id type value) :
    (calibrateRow id type value b).Uses (Call.sourced V N) R := by
  have hwrite : ∀ {u : Update} {m m' : Message} {fields : List TextField}, u.writesOnly V →
      (∀ f ∈ fields, f.shows) → (do
        if !(← writeBound u m m') then return false
        showBound id type value fields
        return true : Panel Bool).Uses (Call.sourced V N) R := fun hu hf =>
    uses_writeShown sourced_of_redraws (fun _ => hu) _ _ hf
  have hlower : ∀ min, (lowerMin id type value min).Uses (Call.sourced V N) R := fun min =>
    Program.uses_ite _ (hwrite hV (by simp [TextField.shows])) trivial
  have hraise : ∀ max, (raiseMax id type value max).Uses (Call.sourced V N) R := fun max =>
    Program.uses_ite _ (hwrite hV (by simp [TextField.shows])) trivial
  obtain ⟨max, min⟩ := b
  cases min with
  | none =>
    cases max with
    | none => exact hwrite hV (by simp [TextField.shows])
    | some max => trivial
  | some min =>
    cases max with
    | none => trivial
    | some max => exact (hlower min).bind fun ok => Program.uses_ite _ trivial (hraise max)

theorem sourced_calibrateIfTicked (hV : V id type value) :
    (calibrateIfTicked id type value).Uses (Call.sourced V N) fun _ => True := by
  simp only [calibrateIfTicked, isSelected, uses_call_bind]
  refine ⟨trivial, fun on => Program.uses_ite _ ?_ trivial⟩
  refine uses_bindOption ((redraws_readBounds _ _).uses sourced_of_redraws) trivial fun bounds => ?_
  cases h : bounds.head? <;> simp only [h]
  · trivial
  · exact sourced_calibrateRow _ hV

theorem stays_recognisedSensor (addresses : List String) (hV : V id type value) :
    (recognisedSensor id type value addresses).Stays (under col anyFault)
      (Call.sourced V (found col W)) (World.BoundsOf W) := by
  refine .bind (.of_uses (sourced_calibrateIfTicked hV) fun _ h => h) fun ok => ?_
  exact .ite _ trivial (stays_forwardReading addresses hV)

/-- **A reading.** It writes and posts its own value, for its own sensor. -/
theorem stays_sensed (hV : V id type value) :
    (sensed id type value).Stays (under col anyFault) (Call.sourced V (found col W))
      (World.BoundsOf W) := by
  have hredraws : ∀ {β : Type} {p : Panel β}, Redraws (fun _ => True) p →
      p.Stays (under col anyFault) (Call.sourced V (found col W)) (World.BoundsOf W) := fun hp =>
    .of_uses (R := fun _ => False) hp sourced_of_redraws
  refine .bindOption (hredraws (redraws_lookUpNode id)) trivial fun found => ?_
  obtain ⟨connect, ids, addresses⟩ := found
  have hnode : (unrecognisedNode connect id).Uses (Call.sourced V (found col W)) fun _ => True :=
    uses_unrecognisedNode sourced_of_redraws (fun _ _ => trivial) trivial trivial
      (fun _ => trivial) connect
  refine .ite _ (.bind (.of_uses hnode fun _ h => h) fun _ => trivial) ?_
  refine (hredraws (redraws_appendToOutput _)).bind fun _ => ?_
  refine .bindOption (hredraws (redraws_lookUpTypes id)) trivial fun types => ?_
  refine (hredraws (redraws_closeConnection _)).bind fun _ => ?_
  refine .ite _ (stays_recognisedSensor addresses hV) ?_
  refine .bind ⟨trivial, fun _ _ _ => trivial⟩ fun on => ?_
  refine .ite _ ((hredraws (redraws_appendToOutput _)).bind fun _ => trivial) ?_
  refine .bind ⟨trivial, fun _ _ _ => trivial⟩ fun on => ?_
  have hsensor : (unrecognisedSensor id type).Uses (Call.sourced V (found col W)) fun _ => True :=
    uses_unrecognisedSensor sourced_of_redraws trivial (fun _ => trivial)
  exact .ite _ (.bind (.of_uses hsensor fun _ h => h) fun _ => trivial)
    (stays_recognisedSensor addresses hV)

/-- **An action.** It writes and posts no value but that of a reading. -/
theorem stays_action {a : Action} (ha : ∀ id type value, a = .reading id type value →
      V id type value) :
    a.program.Stays (under col anyFault) (Call.sourced V (found col W)) (World.BoundsOf W) := by
  by_cases hreading : ∃ id type value, a = .reading id type value
  · obtain ⟨id, type, value, rfl⟩ := hreading
    exact (stays_sensed (ha id type value rfl)).bind fun _ => trivial
  · refine .of_uses (unsourced_action fun id type value h => ?_) sourced_of_unsourced
    exact hreading ⟨id, type, value, h⟩

end Readings

/-! ## The tables -/

section Tables

variable {col : Collation} {W : Values} {d : Database}

theorem Bounds.all_none {N : Int32 → Prop} : (⟨none, none⟩ : Bounds).All N :=
  ⟨fun _ hv => absurd hv (Option.not_mem_none _), fun _ hv => absurd hv (Option.not_mem_none _)⟩

/-- Changing the bounds of the rows that match a pair. -/
theorem Database.BoundsOf.mapSensors (h : d.BoundsOf W) {id type : String}
    {f : SensorRow → SensorRow} (hf : ∀ r, col.same r.id id = true → col.same r.type type = true →
      r.bounds.All (W r.id r.type) →
        (f r).id = r.id ∧ (f r).type = r.type ∧ (f r).bounds.All (W r.id r.type)) :
    (d.mapSensors col id type f).BoundsOf W := by
  intro r hr
  obtain ⟨r₀, hr₀, rfl⟩ := List.mem_map.mp hr
  by_cases hmatch : (col.same r₀.id id && col.same r₀.type type) = true
  · obtain ⟨hid, htype⟩ := (Bool.and_eq_true _ _).mp hmatch
    obtain ⟨hid', htype', hbounds⟩ := hf r₀ hid htype (h r₀ hr₀)
    rw [if_pos hmatch, hid', htype']
    exact hbounds
  · rw [if_neg hmatch]
    exact h r₀ hr₀

/-- **Step.** A statement that writes only values of the sensor it is about. -/
theorem Database.BoundsOf.apply (h : d.BoundsOf W) {u : Update} (hu : u.writesOnly V)
    (hW : ∀ id type v, V id type v → ∀ id' type', col.same id' id = true →
      col.same type' type = true → W id' type' v) : (d.apply col u).BoundsOf W := by
  have hsub : ∀ p : SensorRow → Bool, ({ d with sensors := d.sensors.filter p } :
      Database).BoundsOf W := fun p r hr => h r (List.mem_filter.mp hr).1
  have hsome : ∀ {v w : Int32} {id type : String}, W id type v → w ∈ some v → W id type w := by
    intro v w id type hv hw
    obtain rfl := Option.some_inj.mp hw
    exact hv
  cases u with
  | insertSensor id type =>
    intro r hr
    rcases List.mem_append.mp hr with hr | hr
    · exact h r hr
    · obtain rfl := List.mem_singleton.mp hr
      exact Bounds.all_none
  | deleteSensors id => exact hsub _
  | deleteSensor id type => exact hsub _
  | setMin v id type =>
    refine h.mapSensors fun r hid htype hr => ⟨rfl, rfl, hr.1, fun w hw => ?_⟩
    exact hsome (hW id type v hu r.id r.type hid htype) hw
  | setMax v id type =>
    refine h.mapSensors fun r hid htype hr => ⟨rfl, rfl, fun w hw => ?_, hr.2⟩
    exact hsome (hW id type v hu r.id r.type hid htype) hw
  | setBounds v id type =>
    refine h.mapSensors fun r hid htype _ => ⟨rfl, rfl, fun w hw => ?_, fun w hw => ?_⟩
    · exact hsome (hW id type v hu r.id r.type hid htype) hw
    · exact hsome (hW id type v hu r.id r.type hid htype) hw
  | resetBounds id type =>
    exact h.mapSensors fun r _ _ _ => ⟨rfl, rfl, Bounds.all_none⟩
  | _ => exact h

/-- A call that writes only values of the sensor it is about. -/
theorem boundsOf_of_post {W : String → Values} {c : Call} {x : c.Ret} {w w' : World}
    (hc : c.sourced V N) (hW : ∀ url id type v, V id type v → ∀ id' type',
      col.same id' id = true → col.same type' type = true → W url id' type' v)
    (hpost : (under col anyFault).post c w x w') (h : w.BoundsOf W) : w'.BoundsOf W := by
  intro url
  rcases servers_of_post hpost url with ⟨-, hsame⟩ | ⟨u, hwrites, hdone⟩
  · rw [hsame]
    exact h url
  · have hu : u.writesOnly V := by
      have hupdate := hwrites.update
      cases c with
      | executeUpdate k u' =>
        obtain rfl := Option.some_inj.mp hupdate
        exact hc
      | _ => cases hupdate
    rw [hdone]
    exact (h url).apply hu (hW url)

end Tables

end CrossingReality
