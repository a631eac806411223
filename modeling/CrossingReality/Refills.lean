import CrossingReality.Lending

/-!
# Connections of the window

The plans of the refills and of the listeners they set off. A listener runs when the selection of
its box changes, so a plan carries the selections along.

* `refillWith` — the plan of a refill, by the plan of its listener.
* `itemPlan` — the plans of the listeners. That of the node on the sensors tab keeps a connection.
* `leases_updateSelect` — the refills follow their plans.
-/

namespace CrossingReality

open Effects

/-! ## Plans -/

section Plans

variable {α : Type} (col : Collation) (d : Database)

/-- What is selected in each combo box. -/
abbrev Selection := ComboBox → Option String

/-- The items of `b` are removed: the listener runs if one was selected. -/
def emptyPlan (listener : Selection → Plan Selection) (b : ComboBox) (s : Selection) :
    Plan Selection :=
  if (s b).isSome then listener (Function.update s b none) else .done (Function.update s b none)

/-- The empty box `b` is filled: the listener runs when the first id is put in. -/
def fillPlan (listener : Selection → Plan Selection) (b : ComboBox) (ids : List String)
    (s : Selection) : Plan Selection :=
  match ids.head? with
  | some id => listener (Function.update s b (some id))
  | none => .done s

/-- A refill of `b` with `ids`. The connection their query is made on is closed. -/
def refillWith (listener : Selection → Plan Selection) (b : ComboBox) (ids : List String)
    (s : Selection) : Plan Selection :=
  (emptyPlan listener b s).bind fun s => .ask false (fillPlan listener b ids s) (.done s)

/-- The listener of the sensors. -/
def sensorsPlan (s : Selection) : Plan Selection :=
  lookUpPlan col d
    (.bounds (spell (s .wsnSensorsNodeComboBox)) (spell (s .wsnSensorsSensorsComboBox))) s

/-- A refill of the sensors of a node. -/
def refillSensors (id : Option String) : Selection → Plan Selection :=
  refillWith (sensorsPlan col d) .wsnSensorsSensorsComboBox
    (((Query.sensors (spell id)).run col d).map SensorRow.type)

/-- The listener of the node on the sensors tab. Its second connection is never closed. -/
def sensorsNodePlan (s : Selection) : Plan Selection :=
  .ask (!(Query.node (spell (s .wsnSensorsNodeComboBox))).finds col d)
    ((refillSensors col d (s .wsnSensorsNodeComboBox) s).bind fun s =>
      .ask true (.done s) (.done s)) (.done s)

/-- The listeners. -/
def itemPlan : ComboBox → Selection → Plan Selection
  | .wsnGeneralNodeComboBox, s =>
    lookUpPlan col d (.node (spell (s .wsnGeneralNodeComboBox))) s
  | .wsnSensorsNodeComboBox, s => sensorsNodePlan col d s
  | .wsnSensorsSensorsComboBox, s => sensorsPlan col d s
  | .actuatorActuatorComboBox, s =>
    lookUpPlan col d (.actuator (spell (s .actuatorActuatorComboBox))) s
  | .wsnGeneralRemoveNodeComboBox, s => .done s
  | .actuatorRemoveActuatorComboBox, s => .done s

/-- A refill with the nodes. -/
def refillNodes (b : ComboBox) : Selection → Plan Selection :=
  refillWith (itemPlan col d b) b d.nodeIds

/-- A refill with the actuators. -/
def refillActuators (b : ComboBox) : Selection → Plan Selection :=
  refillWith (itemPlan col d b) b (d.actuators.map ActuatorRow.id)

/-- The refills after a change of the nodes. -/
def nodesPlan (s : Selection) : Plan Selection :=
  (refillNodes col d .wsnGeneralNodeComboBox s).bind fun s =>
    (refillNodes col d .wsnGeneralRemoveNodeComboBox s).bind
      (refillNodes col d .wsnSensorsNodeComboBox)

/-- The refills after a change of the actuators. -/
def actuatorsPlan (s : Selection) : Plan Selection :=
  (refillActuators col d .actuatorActuatorComboBox s).bind
    (refillActuators col d .actuatorRemoveActuatorComboBox)

end Plans

/-! ## The window -/

section Window

variable {col : Collation} {w : World}

/-- What is selected. -/
def World.selection (w : World) : Selection := fun b => (w.combo b).selected

/-- The selection the plan ends with is the one shown. -/
def EndsShowing {α : Type} (_ : α) (s : Selection) (w : World) : Prop := w.selection = s

theorem leases_wsnGeneralNodeChanged :
    Leases col w.openHandles wsnGeneralNodeChanged w
      (itemPlan col w.database .wsnGeneralNodeComboBox w.selection) EndsShowing := by
  refine .getSelectedItem (.lookUp rfl (fun _ => rfl) (fun _ _ => rfl) ?_ ?_ ?_)
  · exact fun q hq => .pure hq rfl
  · exact fun c q hq => loses_appendToOutput _ hq
  · exact fun c q row _ hq _ => .setText (leases_closeConnection hq fun _ => rfl)

theorem leases_actuatorActuatorChanged :
    Leases col w.openHandles actuatorActuatorChanged w
      (itemPlan col w.database .actuatorActuatorComboBox w.selection) EndsShowing := by
  refine .getSelectedItem (.lookUp rfl (fun _ => rfl) (fun _ _ => rfl) ?_ ?_ ?_)
  · exact fun q hq => .pure hq rfl
  · exact fun c q hq => loses_appendToOutput _ hq
  · exact fun c q row _ hq _ => .setText (leases_closeConnection hq fun _ => rfl)

theorem wp_lending_showBoundsRow {c : Connection} {rows : List Bounds} {b : Bool}
    {t : List (Event calls World)} {Q : Bool → World × List (Event calls World) → Prop}
    {E : Exn → World × List (Event calls World) → Prop} (hb : rows.head?.isSome = b)
    (h : ∀ x q, q.openHandles = w.openHandles → q.nextHandle = w.nextHandle →
      Q b (w.redrawn x w.combo q, t)) :
    wp (lending col) (showBoundsRow c rows) Q E (w, t) := by
  subst hb
  simp only [showBoundsRow, wp_bind, wp_lending_firstRow]
  cases hrow : rows.head? with
  | none =>
    rw [hrow] at h
    simp only [wp_bind, wp_lending_appendToOutput, wp_lending_setText, wp_pure]
    exact h _ (w.traffic.say .boundsResultsProblem) rfl rfl
  | some row =>
    rw [hrow] at h
    simp only [wp_bind, setTextOrNull, wp_lending_setText, wp_pure]
    exact h _ w.traffic rfl rfl

theorem leases_wsnSensorsSensorsChanged :
    Leases col w.openHandles wsnSensorsSensorsChanged w
      (itemPlan col w.database .wsnSensorsSensorsComboBox w.selection) EndsShowing := by
  refine .getSelectedItem (.ask rfl (fun q hq => .pure hq rfl) ?_ ?_)
  · rintro hfinds c q hurl - hq - t
    have hnone := head_of_not_finds hfinds
    rw [World.database_of_url hurl] at hnone
    rw [wp_bind, wp_lending_getSelectedItem, wp_bind, wp_lending_executeQuery, wp_bind]
    refine wp_lending_showBoundsRow (congrArg Option.isSome hnone) fun x q' hq' _ => ?_
    exact ⟨[c.handle], by simp, hq'.trans hq⟩
  · rintro hfinds c q hurl - hq - t
    obtain ⟨row, hrow⟩ := head_of_finds hfinds
    rw [World.database_of_url hurl] at hrow
    rw [wp_bind, wp_lending_getSelectedItem, wp_bind, wp_lending_executeQuery, wp_bind]
    refine wp_lending_showBoundsRow (congrArg Option.isSome hrow) fun x q' hq' _ => ?_
    exact leases_closeConnection (hq'.trans hq) (fun _ => rfl) t

/-! ### Refills -/

section Refills

variable {base : List Nat} {listener : Panel Unit} {b : ComboBox}
  {plan : Selection → Plan Selection}

/-- The listener follows its plan, wherever the tables are those of `w`. -/
def Listens (col : Collation) (base : List Nat) (w : World) (listener : Panel Unit)
    (plan : Selection → Plan Selection) : Prop :=
  ∀ w', w'.Issued → w'.openHandles = base → w'.mysql = w.mysql → w'.servers = w.servers →
    Leases col base listener w' (plan w'.selection) EndsShowing

theorem selection_setCombo (w : World) (b : ComboBox) (v : Combo) :
    (w.setCombo b v).selection = Function.update w.selection b v.selected := by
  funext b'
  by_cases hb : b' = b
  · subst hb
    simp [World.selection, World.setCombo]
  · simp [World.selection, World.setCombo, hb]

theorem leases_fire_one {w' : World} {P : Plan Selection} {R : Unit → Selection → World → Prop}
    (h : Leases col base listener w' P R) : Leases col base (fire listener 1) w' P R := by
  have hfire : fire listener 1 = listener := bind_pure_unit
  rw [hfire]
  exact h

/-- The tables are as in `w`, the box is empty, and the selection is as planned. -/
def Emptied (w : World) (b : ComboBox) (_ : Unit) (s : Selection) (w' : World) : Prop :=
  w'.selection = s ∧ w'.combo b = Combo.empty ∧ w'.mysql = w.mysql ∧ w'.servers = w.servers

theorem leases_removeAllItems (hw : w.Issued) (hh : w.openHandles = base)
    (hrl : Redraws (listens b) listener) (hl : Listens col base w listener plan) :
    Leases col base (removeAllItems listener b) w (emptyPlan plan b w.selection)
      (Emptied w b) := by
  have hselection := selection_setCombo w b Combo.empty
  have hempty : (w.setCombo b Combo.empty).combo b = Combo.empty := Function.update_self ..
  intro t
  rw [removeAllItems, wp_bind, wp_lending_steady (c := .removeAllItems b) (fun _ => rfl) fun h => h]
  cases hs : (w.combo b).selected with
  | none =>
    rw [emptyPlan, if_neg (by simp [World.selection, hs])]
    exact Leases.pure (w := w.setCombo b Combo.empty) hh ⟨hselection, hempty, rfl, rfl⟩ t
  | some x =>
    rw [emptyPlan, if_pos (by simp [World.selection, hs])]
    have hlistener := hl (w.setCombo b Combo.empty) hw hh rfl rfl
    rw [hselection] at hlistener
    refine ((leases_fire_one hlistener).redrawn (redraws_fire hrl 1)).mono ?_ t
    rintro _ s w' ⟨hs', tx, c, q, rfl, hf⟩
    exact ⟨hs', (hf.combo b (not_listens_self b)).trans hempty, rfl, rfl⟩

/-- Once an item is selected, more items change nothing. -/
theorem leases_addItems_rest (ids : List String) {l : List String} {x : String}
    (hh : w.openHandles = base) (hb : w.combo b = ⟨l, some x⟩) :
    Leases col base (addItems listener b ids) w (.done w.selection) EndsShowing := by
  induction ids generalizing w l with
  | nil => exact .pure hh rfl
  | cons id ids ih =>
    have hadd : (w.combo b).addItem id = ⟨l ++ [id], some x⟩ := by simp [hb, Combo.addItem]
    have hselection : (w.setCombo b ⟨l ++ [id], some x⟩).selection = w.selection := by
      rw [selection_setCombo]
      exact Function.update_eq_self_iff.mpr (by simp [World.selection, hb])
    intro t
    rw [addItems, wp_bind, wp_lending_steady (c := .addItem b id) (fun _ => rfl) fun h => h, hadd,
      hb]
    simp only [Combo.itemEvents, if_true, fire, wp_bind, wp_pure]
    have := ih (w := w.setCombo b ⟨l ++ [id], some x⟩) (l := l ++ [id]) hh
      (by simp [World.setCombo])
    rw [hselection] at this
    exact this t

theorem leases_addItems (hw : w.Issued) (hh : w.openHandles = base)
    (htl : Tidy listener)
    (hrl : Redraws (listens b) listener) (hl : Listens col base w listener plan) (ids : List String)
    (hb : w.combo b = Combo.empty) :
    Leases col base (addItems listener b ids) w (fillPlan plan b ids w.selection)
      EndsShowing := by
  cases ids with
  | nil => exact .pure hh rfl
  | cons id ids =>
    have hadd : (w.combo b).addItem id = ⟨[id], some id⟩ := by
      simp [hb, Combo.empty, Combo.addItem]
    have hselection := selection_setCombo w b ⟨[id], some id⟩
    intro t
    rw [addItems, wp_bind, wp_lending_steady (c := .addItem b id) (fun _ => rfl) fun h => h, hadd,
      hb]
    have hlistener := hl (w.setCombo b ⟨[id], some id⟩) hw hh rfl rfl
    rw [hselection] at hlistener
    have hitems : Leases col base (fire listener 1 >>= fun _ => addItems listener b ids)
        (w.setCombo b ⟨[id], some id⟩) (plan (Function.update w.selection b (some id)))
        EndsShowing := by
      refine .bind_done hh hw (tidy_fire htl 1) (fun _ => tidy_addItems htl b ids)
        ((leases_fire_one hlistener).redrawn (redraws_fire hrl 1)) ?_
      rintro _ s w' ⟨rfl, tx, c, q, rfl, hf⟩ hh'
      have hcombo := hf.combo b (not_listens_self b)
      exact leases_addItems_rest (l := [id]) (x := id) ids hh'
        (hcombo.trans (by simp [World.setCombo]))
    exact hitems t

theorem leases_appendToOutput (m : Message) (hh : w.openHandles = base) :
    Leases col base (appendToOutput m) w (.done w.selection) EndsShowing := fun t => by
  rw [wp_lending_appendToOutput]
  exact ⟨[], by simp, .inl ⟨hh, _, .refl _, _, rfl, rfl⟩⟩

/-- The second half of a refill: the query, and the items it finds. -/
theorem leases_refill {q : Query} {column : q.Row → String} {m m' m'' : Message}
    {f : Option Connection → Panel Unit} {k : Connection → Option (List q.Row) → Panel Unit}
    {r : Connection → Option (List String) → Panel Unit} {d : Database} (hw : w.Issued)
    (hh : w.openHandles = base) (hd : w.database = d) (htl : Tidy listener)
    (hrl : Redraws (listens b) listener) (hl : Listens col base w listener plan)
    (hb : w.combo b = Combo.empty) (hnone : f none = pure ())
    (hf : ∀ c, f (some c) = (executeQuery c q m' >>= k c))
    (hk : ∀ c rows, k c (some rows) = (readRows c column rows >>= r c))
    (hr : ∀ c ids, r c (some ids) = (closeConnection .cp c >>= fun _ =>
      addItems listener b ids >>= fun _ => appendToOutput m'')) :
    Leases col base (openStatement m >>= f) w
      (.ask false (fillPlan plan b ((q.run col d).map column) w.selection) (.done w.selection))
      EndsShowing := by
  subst hd
  refine .ask hh (fun q' hq => hnone ▸ .pure hq rfl) (fun h => by cases h) ?_
  rintro - c q' hurl - hq hn' t
  have hdb := World.database_of_url hurl
  rw [hf, wp_bind, wp_lending_executeQuery, hk, wp_bind, wp_lending_readRows, hr, wp_bind,
    World.quietly_servers, ← hdb]
  refine wp_lending_closeConnection fun q'' hq'' hn => ?_
  have hq₂ : q''.openHandles = base := by
    rw [hq'']
    change q'.openHandles.erase c.handle = base
    rw [hq, List.erase_cons_head]
  have hissued' : (w.quietly q'').Issued :=
    issued_of_le hw hh hq₂ ((Nat.le_succ _).trans_eq (hn.trans hn').symm)
  have hitems : Leases col base (addItems listener b ((q.run col w.database).map column) >>=
      fun _ => appendToOutput m'') (w.quietly q'')
      (fillPlan plan b ((q.run col w.database).map column) w.selection) EndsShowing := by
    refine .bind_done hq₂ hissued' (tidy_addItems htl b _) (fun _ => tidy_appendToOutput _)
      (leases_addItems hissued' hq₂ htl hrl hl ((q.run col w.database).map column) hb) ?_
    rintro _ s w' rfl hh'
    exact leases_appendToOutput _ hh'
  exact hitems t

theorem database_congr {w' : World} (hmysql : w'.mysql = w.mysql)
    (hservers : w'.servers = w.servers) : w'.database = w.database := by
  rw [World.database, World.database, hmysql, hservers]

theorem leases_updateSensorsSelect (id : Option String) (hw : w.Issued)
    (hh : w.openHandles = base) : Leases col base (updateSensorsSelect id) w
      (refillSensors col w.database id w.selection) EndsShowing := by
  have hl : ∀ {w₀ : World}, w₀.mysql = w.mysql → w₀.servers = w.servers → Listens col base w₀
      wsnSensorsSensorsChanged (sensorsPlan col w.database) := by
    rintro w₀ hmysql₀ hservers₀ w' hw' rfl hmysql hservers
    rw [← database_congr (hmysql.trans hmysql₀) (hservers.trans hservers₀)]
    exact leases_wsnSensorsSensorsChanged
  rw [refillSensors, refillWith, updateSensorsSelect]
  refine .appendToOutput fun q hq hn => ?_
  have hissued : (w.quietly q).Issued := issued_of_le hw rfl hq hn.ge
  refine Leases.bind (hq.trans hh) hissued (tidy_removeAllItems tidy_wsnSensorsSensorsChanged _)
    (fun _ => ?_) (leases_removeAllItems hissued (hq.trans hh) redraws_wsnSensorsSensorsChanged
      (hl rfl rfl)) ?_
  · exact tidy_refill tidy_wsnSensorsSensorsChanged rfl (fun _ => rfl) (fun _ => rfl)
      (fun _ _ => rfl) (fun _ => rfl) fun _ _ => rfl
  · rintro - s w' ⟨rfl, hempty, hmysql, hservers⟩ hh' hw' -
    apply leases_refill (q := .sensors (spell id)) hw' hh' (database_congr hmysql hservers)
      tidy_wsnSensorsSensorsChanged redraws_wsnSensorsSensorsChanged (hl hmysql hservers) hempty rfl
    · exact fun _ => rfl
    · exact fun _ _ => rfl
    · exact fun _ _ => rfl

/-- The listener of the node closes its first connection twice. -/
theorem leases_wsnSensorsNodeChanged (hw : w.Issued) (hh : w.openHandles = base) :
    Leases col base wsnSensorsNodeChanged w
      (itemPlan col w.database .wsnSensorsNodeComboBox w.selection) EndsShowing := by
  refine .getSelectedItem (.lookUp hh (fun _ => rfl) (fun _ _ => rfl) ?_ ?_ ?_)
  · exact fun q hq => .pure hq rfl
  · exact fun c q hq => loses_appendToOutput _ hq
  · intro c q row hc hq hn
    refine .setText (.closeConnection hq fun q₁ hq₁ hn₁ => ?_)
    have hnext : q₁.nextHandle = w.nextHandle + 1 := hn₁.trans hn
    have hissued : (w.quietly q₁).Issued :=
      issued_of_le hw hh hq₁ ((Nat.le_succ _).trans_eq hnext.symm)
    have hbase : c.handle ∉ base := fun hmem => (hw _ (hh ▸ hmem)).ne hc
    have hspent : c.handle < q₁.nextHandle := by rw [hnext, hc]; exact Nat.lt_succ_self _
    refine .bind_loses hq₁ hissued (tidy_updateSensorsSelect _) ?_
      (leases_updateSensorsSelect _ hissued hq₁) ?_
    · intro _ w' kept hne hh' hw' hfresh hle
      refine (tidyAfter_showBounds c _).loses hw' hne hh' (hspent.trans_le hle) ?_
      rw [hh']
      exact List.not_mem_append (fun hmem => (hspent.trans_le (hfresh _ hmem)).ne rfl) hbase
    · rintro - s w' rfl hh' hw' hle
      refine .ask hh' (fun q hq => .pure hq rfl) (fun _ c₂ q₂ _ hc₂ hq₂ _ t => ?_)
        fun h => by cases h
      have hnot : c.handle ∉ c₂.handle :: base := by
        have : c.handle < c₂.handle := by rw [hc₂]; exact hspent.trans_le hle
        simp [this.ne, hbase]
      rw [wp_bind, wp_lending_getSelectedItem, wp_bind, wp_lending_executeQuery, wp_bind]
      refine wp_lending_showBoundsRow rfl fun x q₃ hq₃ _ => ?_
      refine (wp_ite _ _ _).mpr ⟨fun _ => ⟨[c₂.handle], by simp, hq₃.trans hq₂⟩, fun _ => ?_⟩
      refine wp_lending_closeConnection fun q₄ hq₄ _ => ⟨[c₂.handle], by simp, hq₄.trans ?_⟩
      have hhandles : ((w'.quietly q₂).redrawn x (w'.quietly q₂).combo q₃).openHandles =
          c₂.handle :: base := hq₃.trans hq₂
      rw [hhandles, List.erase_of_not_mem hnot]
      rfl

theorem leases_itemStateChanged (b : ComboBox) (hw : w.Issued) (hh : w.openHandles = base) :
    Leases col base (itemStateChanged b) w (itemPlan col w.database b w.selection) EndsShowing := by
  cases b with
  | wsnGeneralNodeComboBox => exact hh ▸ leases_wsnGeneralNodeChanged
  | wsnSensorsNodeComboBox => exact leases_wsnSensorsNodeChanged hw hh
  | wsnSensorsSensorsComboBox => exact hh ▸ leases_wsnSensorsSensorsChanged
  | actuatorActuatorComboBox => exact hh ▸ leases_actuatorActuatorChanged
  | wsnGeneralRemoveNodeComboBox | actuatorRemoveActuatorComboBox => exact .pure hh rfl

theorem Leases.clearAddress {β γ : Type} {b : ComboBox} {f : Unit → Panel β} {P : Plan γ}
    {R : β → γ → World → Prop}
    (h : ∀ x, Leases col base (f ()) (w.redrawn x w.combo w.traffic) P R) :
    Leases col base (CrossingReality.clearAddress b >>= f) w P R := by
  cases b with
  | wsnGeneralNodeComboBox | wsnSensorsNodeComboBox | actuatorActuatorComboBox =>
    exact .setText (h _)
  | _ => exact h w.text

theorem leases_updateSelect (b : ComboBox) (q : Query) (column : q.Row → String)
    (m m' : Message) (hw : w.Issued) (hh : w.openHandles = base) :
    Leases col base (updateSelect b q column m m') w (refillWith (itemPlan col w.database b) b
      ((q.run col w.database).map column) w.selection) EndsShowing := by
  have hl : ∀ {w₀ : World}, w₀.mysql = w.mysql → w₀.servers = w.servers → Listens col base w₀
      (itemStateChanged b) (itemPlan col w.database b) := by
    rintro w₀ hmysql₀ hservers₀ w' hw' hh' hmysql hservers
    rw [← database_congr (hmysql.trans hmysql₀) (hservers.trans hservers₀)]
    exact leases_itemStateChanged b hw' hh'
  have htl := tidy_itemStateChanged b
  have hrl := redraws_itemStateChanged (S := listens b) b fun hb => ⟨hb, rfl⟩
  rw [refillWith, updateSelect]
  refine .appendToOutput fun q₁ hq₁ hn₁ => ?_
  have hissued : (w.quietly q₁).Issued := issued_of_le hw rfl hq₁ hn₁.ge
  refine Leases.bind (hq₁.trans hh) hissued (tidy_removeAllItems htl b) (fun _ => ?_)
    (leases_removeAllItems hissued (hq₁.trans hh) hrl (hl rfl rfl)) ?_
  · refine (tidy_clearAddress b).bind fun _ => ?_
    exact tidy_refill htl rfl (fun _ => rfl) (fun _ => rfl) (fun _ _ => rfl) (fun _ => rfl)
      fun _ _ => rfl
  · rintro - s w' ⟨rfl, hempty, hmysql, hservers⟩ hh' hw' -
    refine .clearAddress fun x => ?_
    apply leases_refill (q := q) (w := w'.redrawn x w'.combo w'.traffic) hw' hh'
      (database_congr hmysql hservers) htl hrl (hl hmysql hservers) hempty rfl
    · exact fun _ => rfl
    · exact fun _ _ => rfl
    · exact fun _ _ => rfl

theorem leases_updateNodeSelect (b : ComboBox) (hw : w.Issued) (hh : w.openHandles = base) :
    Leases col base (updateNodeSelect b) w (refillNodes col w.database b w.selection)
      EndsShowing :=
  leases_updateSelect b .nodes NodeRow.id _ _ hw hh

theorem leases_updateActuatorsSelect (b : ComboBox) (hw : w.Issued) (hh : w.openHandles = base) :
    Leases col base (updateActuatorsSelect b) w (refillActuators col w.database b w.selection)
      EndsShowing :=
  leases_updateSelect b .actuators ActuatorRow.id _ _ hw hh

/-- One refill after another. -/
theorem Leases.bind_redraws {p : Panel Unit} {f : Unit → Panel Unit} {P : Plan Selection}
    {Q : Selection → Plan Selection} (hh : w.openHandles = base) (hw : w.Issued) (htp : Tidy p)
    (htf : Tidy (f ())) (hrp : Redraws (fun _ => True) p)
    (hp : Leases col base p w P EndsShowing)
    (hf : ∀ w', w'.Issued → w'.openHandles = base → w'.database = w.database →
      Leases col base (f ()) w' (Q w'.selection) EndsShowing) :
    Leases col base (p >>= f) w (P.bind Q) EndsShowing := by
  refine .bind hh hw htp (fun _ => htf) (hp.redrawn hrp) ?_
  rintro - s w' ⟨rfl, x, c, q, rfl, -⟩ hh' hw' -
  exact hf _ hw' hh' rfl

theorem leases_updateNodeSelects (hw : w.Issued) (hh : w.openHandles = base) :
    Leases col base updateNodeSelects w (nodesPlan col w.database w.selection) EndsShowing := by
  have htidy := fun b => tidy_updateSelect b .nodes NodeRow.id .updatingNodeList .nodeListUpdated
  have hredraws : ∀ b, Redraws (fun _ => True) (updateNodeSelect b) := fun b =>
    redraws_updateSelect trivial (fun _ => trivial) _ _ _ _
  refine .bind_redraws hh hw (htidy _) ((htidy _).bind fun _ => htidy _) (hredraws _)
    (leases_updateNodeSelect _ hw hh) fun w₁ hw₁ hh₁ hd₁ => ?_
  refine .bind_redraws hh₁ hw₁ (htidy _) (htidy _) (hredraws _) ?_ fun w₂ hw₂ hh₂ hd₂ => ?_
  · exact hd₁ ▸ leases_updateNodeSelect _ hw₁ hh₁
  · exact (hd₂.trans hd₁) ▸ leases_updateNodeSelect _ hw₂ hh₂

theorem leases_updateActuatorsSelects (hw : w.Issued) (hh : w.openHandles = base) :
    Leases col base updateActuatorsSelects w (actuatorsPlan col w.database w.selection)
      EndsShowing := by
  have htidy := fun b => tidy_updateSelect b .actuators ActuatorRow.id .updatingActuatorsList
    .actuatorListUpdated
  refine .bind_redraws hh hw (htidy _) (htidy _) ?_ (leases_updateActuatorsSelect _ hw hh)
    fun w₁ hw₁ hh₁ hd₁ => ?_
  · exact redraws_updateSelect trivial (fun _ => trivial) _ _ _ _
  · exact hd₁ ▸ leases_updateActuatorsSelect _ hw₁ hh₁

end Refills

end Window

end CrossingReality
