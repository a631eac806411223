import CrossingReality.Rules

/-!
# What refilling the window changes

The item listeners and the three refills only redraw: whatever fails in them, they throw nothing
and touch neither the tables nor the ignore lists. When no database call fails, a refilled combo
box holds the column it was filled with, its first entry selected.
-/

namespace CrossingReality

open Effects

variable {S : ComboBox → Prop} {α β ρ : Type}

/-! ## Only redrawing -/

section Uses

variable {P : Call → Prop} {R : Exn → Prop}

@[simp] theorem uses_call (c : Call) :
    @Program.Uses calls Exn (no_index c.Ret) P R (call c) ↔ P c :=
  Program.uses_lift (S := calls) c

@[simp] theorem uses_call_bind (c : Call) (f : c.Ret → Panel α) :
    (@bind Panel _ (no_index c.Ret) _ (call c) f).Uses P R ↔ P c ∧ ∀ x, (f x).Uses P R := Iff.rfl

@[simp] theorem uses_throwExn (e : Exn) : (throwExn e : Panel α).Uses P R ↔ R e := Iff.rfl

end Uses

theorem redraws_openStatement (m : Message) : Redraws S (openStatement m) := by
  simp [Redraws, openStatement, appendToOutput, Option.forall]

theorem redraws_executeQuery (c : Connection) (q : Query) (m : Message) :
    Redraws S (executeQuery c q m) := by
  simp [Redraws, executeQuery, appendToOutput, Option.forall]

theorem redraws_whileNext {c : Connection} {body : β → ρ → Panel β}
    (hbody : ∀ acc row, Redraws S (body acc row)) (rows : List ρ) (acc : β) :
    Redraws S (whileNext c body rows acc) := by
  induction rows generalizing acc with
  | nil => simp [Redraws, whileNext]
  | cons row rows ih =>
    simp only [Redraws, whileNext, uses_call_bind]
    refine ⟨trivial, fun ok => Program.uses_ite _ trivial ?_⟩
    exact (hbody acc row).bind ih

/-- Going on from a result that may be missing. -/
theorem redraws_bindOption {p : Panel (Option α)} {f : Option α → Panel β} (hp : Redraws S p)
    (hnone : Redraws S (f none)) (hsome : ∀ a, Redraws S (f (some a))) : Redraws S (p >>= f) :=
  Program.Uses.bind hp fun o => by
    cases o with
    | none => exact hnone
    | some a => exact hsome a

theorem redraws_readRows (c : Connection) (column : ρ → β) (rows : List ρ) :
    Redraws S (readRows c column rows) := by
  refine redraws_bindOption (redraws_whileNext (fun _ _ => Program.uses_pure _) rows []) ?_ ?_
  · simp [Redraws, appendToOutput]
  · exact fun _ => Program.uses_pure _

theorem redraws_firstRow (c : Connection) (rows : List ρ) : Redraws S (firstRow c rows) := by
  simp [Redraws, firstRow]

theorem redraws_closeConnection (c : Connection) : Redraws S (closeConnection .cp c) := by
  simp [Redraws, closeConnection, appendToOutputOf, appendToOutput]

theorem redraws_appendToOutput (m : Message) : Redraws S (appendToOutput m) := by
  simp [Redraws, appendToOutput]

theorem redraws_getSelectedItem (b : ComboBox) : Redraws S (getSelectedItem b) := by
  simp [Redraws, getSelectedItem]

theorem redraws_setText {f : TextField} (hf : f.shows) (s : String) : Redraws S (setText f s) := by
  simpa [Redraws, setText] using hf

theorem redraws_setTextOrNull {f : TextField} (hf : f.shows) (s : Option String) :
    Redraws S (setTextOrNull f s) := redraws_setText hf _

theorem redraws_wsnGeneralNodeChanged : Redraws S wsnGeneralNodeChanged := by
  refine (redraws_getSelectedItem _).bind fun id => ?_
  refine redraws_bindOption (redraws_openStatement _) trivial fun connect => ?_
  refine redraws_bindOption (redraws_executeQuery _ _ _) trivial fun rows => ?_
  refine redraws_bindOption (redraws_firstRow _ _) (redraws_appendToOutput _) fun row => ?_
  refine (redraws_setTextOrNull ?_ _).bind fun _ => redraws_closeConnection _
  trivial

theorem redraws_showBoundsRow (c : Connection) (rows : List Bounds) :
    Redraws S (showBoundsRow c rows) := by
  refine redraws_bindOption (redraws_firstRow _ _) ?_ fun row => ?_
  · refine (redraws_appendToOutput _).bind fun _ => ?_
    refine (redraws_setText (by trivial) _).bind fun _ => ?_
    exact (redraws_setText (by trivial) _).bind fun _ => trivial
  · refine (redraws_setTextOrNull (by trivial) _).bind fun _ => ?_
    exact (redraws_setTextOrNull (by trivial) _).bind fun _ => trivial

theorem redraws_wsnSensorsSensorsChanged : Redraws S wsnSensorsSensorsChanged := by
  refine (redraws_getSelectedItem _).bind fun id => ?_
  refine redraws_bindOption (redraws_openStatement _) trivial fun connect => ?_
  refine (redraws_getSelectedItem _).bind fun type => ?_
  refine redraws_bindOption (redraws_executeQuery _ _ _) trivial fun rows => ?_
  refine (redraws_showBoundsRow _ _).bind fun shown => ?_
  exact Program.uses_ite _ trivial (redraws_closeConnection _)

theorem redraws_fire {listener : Panel Unit} (hl : Redraws S listener) (n : Nat) :
    Redraws S (fire listener n) := by
  induction n with
  | zero => trivial
  | succ n ih => exact hl.bind fun _ => ih

theorem redraws_removeAllItems {listener : Panel Unit} (hl : Redraws S listener) {b : ComboBox}
    (hb : S b) : Redraws S (removeAllItems listener b) := by
  simpa [Redraws, removeAllItems] using ⟨hb, fun n => redraws_fire hl n⟩

theorem redraws_addItems {listener : Panel Unit} (hl : Redraws S listener) {b : ComboBox}
    (hb : S b) (ss : List String) : Redraws S (addItems listener b ss) := by
  induction ss with
  | nil => trivial
  | cons s ss ih =>
    simp only [Redraws, addItems, uses_call_bind]
    exact ⟨hb, fun n => (redraws_fire hl n).bind fun _ => ih⟩

theorem redraws_updateSensorsSelect (hS : S .wsnSensorsSensorsComboBox) (id : Option String) :
    Redraws S (updateSensorsSelect id) := by
  refine (redraws_appendToOutput _).bind fun _ => ?_
  refine (redraws_removeAllItems redraws_wsnSensorsSensorsChanged hS).bind fun _ => ?_
  refine redraws_bindOption (redraws_openStatement _) trivial fun connect => ?_
  refine redraws_bindOption (redraws_executeQuery _ _ _) trivial fun rows => ?_
  refine redraws_bindOption (redraws_readRows _ _ _) trivial fun types => ?_
  refine (redraws_closeConnection _).bind fun _ => ?_
  refine (redraws_addItems redraws_wsnSensorsSensorsChanged hS _).bind fun _ => ?_
  exact redraws_appendToOutput _

theorem redraws_wsnSensorsNodeChanged (hS : S .wsnSensorsSensorsComboBox) :
    Redraws S wsnSensorsNodeChanged := by
  refine (redraws_getSelectedItem _).bind fun id => ?_
  refine redraws_bindOption (redraws_openStatement _) trivial fun connect => ?_
  refine redraws_bindOption (redraws_executeQuery _ _ _) trivial fun rows => ?_
  refine redraws_bindOption (redraws_firstRow _ _) (redraws_appendToOutput _) fun row => ?_
  refine (redraws_setTextOrNull (by trivial) _).bind fun _ => ?_
  refine (redraws_closeConnection _).bind fun _ => ?_
  refine (redraws_updateSensorsSelect hS id).bind fun _ => ?_
  refine redraws_bindOption (redraws_openStatement _) trivial fun connect2 => ?_
  refine (redraws_getSelectedItem _).bind fun type => ?_
  refine redraws_bindOption (redraws_executeQuery _ _ _) trivial fun rows2 => ?_
  refine (redraws_showBoundsRow _ _).bind fun shown => ?_
  exact Program.uses_ite _ trivial (redraws_closeConnection _)

theorem redraws_actuatorActuatorChanged : Redraws S actuatorActuatorChanged := by
  refine (redraws_getSelectedItem _).bind fun id => ?_
  refine redraws_bindOption (redraws_openStatement _) trivial fun connect => ?_
  refine redraws_bindOption (redraws_executeQuery _ _ _) trivial fun rows => ?_
  refine redraws_bindOption (redraws_firstRow _ _) (redraws_appendToOutput _) fun row => ?_
  exact (redraws_setTextOrNull (by trivial) _).bind fun _ => redraws_closeConnection _

/-- The item listener of a box changes no box, but the sensors for the node of the sensors tab. -/
theorem redraws_itemStateChanged (b : ComboBox)
    (hS : b = .wsnSensorsNodeComboBox → S .wsnSensorsSensorsComboBox) :
    Redraws S (itemStateChanged b) := by
  cases b with
  | wsnGeneralNodeComboBox => exact redraws_wsnGeneralNodeChanged
  | wsnSensorsNodeComboBox => exact redraws_wsnSensorsNodeChanged (hS rfl)
  | wsnSensorsSensorsComboBox => exact redraws_wsnSensorsSensorsChanged
  | actuatorActuatorComboBox => exact redraws_actuatorActuatorChanged
  | wsnGeneralRemoveNodeComboBox | actuatorRemoveActuatorComboBox => trivial

theorem redraws_clearAddress (b : ComboBox) : Redraws S (clearAddress b) := by
  cases b <;> first | exact redraws_setText (by trivial) _ | trivial

theorem redraws_updateSelect {b : ComboBox} (hb : S b)
    (hS : b = .wsnSensorsNodeComboBox → S .wsnSensorsSensorsComboBox) (q : Query)
    (column : q.Row → String) (m m' : Message) : Redraws S (updateSelect b q column m m') := by
  have hl := redraws_itemStateChanged b hS
  refine (redraws_appendToOutput _).bind fun _ => ?_
  refine (redraws_removeAllItems hl hb).bind fun _ => ?_
  refine (redraws_clearAddress b).bind fun _ => ?_
  refine redraws_bindOption (redraws_openStatement _) trivial fun connect => ?_
  refine redraws_bindOption (redraws_executeQuery _ _ _) trivial fun rows => ?_
  refine redraws_bindOption (redraws_readRows _ _ _) trivial fun ids => ?_
  refine (redraws_closeConnection _).bind fun _ => ?_
  exact (redraws_addItems hl hb _).bind fun _ => redraws_appendToOutput _

/-- The boxes refilled after a change of the `nodes` table. -/
def ComboBox.showsNodes : ComboBox → Prop
  | .wsnGeneralNodeComboBox | .wsnGeneralRemoveNodeComboBox | .wsnSensorsNodeComboBox
  | .wsnSensorsSensorsComboBox => True
  | _ => False

/-- The boxes refilled after a change of the `actuators` table. -/
def ComboBox.showsActuators : ComboBox → Prop
  | .actuatorActuatorComboBox | .actuatorRemoveActuatorComboBox => True
  | _ => False

theorem redraws_updateNodeSelects : Redraws ComboBox.showsNodes updateNodeSelects := by
  refine (redraws_updateSelect (by trivial) (fun _ => trivial) _ _ _ _).bind fun _ => ?_
  refine (redraws_updateSelect (by trivial) (fun _ => trivial) _ _ _ _).bind fun _ => ?_
  exact redraws_updateSelect (by trivial) (fun _ => trivial) _ _ _ _

theorem redraws_updateActuatorsSelects :
    Redraws ComboBox.showsActuators updateActuatorsSelects := by
  refine (redraws_updateSelect (by trivial) (by simp) _ _ _ _).bind fun _ => ?_
  exact redraws_updateSelect (by trivial) (by simp) _ _ _ _

/-! ## What a refilled box holds -/

variable {col : Collation} {may : Call → Prop} {w : World} {E : Exn → World → Prop}

/-- The boxes a refill of `b` can change. -/
def refills (b b' : ComboBox) : Prop :=
  b' = b ∨ b = .wsnSensorsNodeComboBox ∧ b' = .wsnSensorsSensorsComboBox

/-- The boxes the item listener of `b` can change. -/
def listens (b b' : ComboBox) : Prop :=
  b = .wsnSensorsNodeComboBox ∧ b' = .wsnSensorsSensorsComboBox

theorem refills_of_listens {b b' : ComboBox} (h : listens b b') : refills b b' := .inr h

theorem not_listens_self (b : ComboBox) : ¬ listens b b := by
  rintro ⟨rfl, h⟩
  cases h

/-- A box that was filled from empty. -/
def Combo.filled (l : List String) : Combo := ⟨l, l.head?⟩

theorem Combo.addItem_filled (l : List String) (s : String) :
    (filled l).addItem s = filled (l ++ [s]) := by
  cases l <;> simp [filled, addItem]

theorem wp_fire {b : ComboBox} (n : Nat) {Q : Unit → World → Prop}
    (h : ∀ t c q, Frame (listens b) w t c → Q () (w.redrawn t c q)) :
    wp (under col may) (fire (itemStateChanged b) n) Q E w :=
  wp_redraws (redraws_fire (redraws_itemStateChanged b fun hb => ⟨hb, rfl⟩) n) fun _ => h

/-- After a change of `b` itself, its listener leaves it as it is. -/
theorem Frame.of_setCombo {b : ComboBox} {v : Combo} {t : TextField → String}
    {c : ComboBox → Combo} (h : Frame (listens b) (w.setCombo b v) t c) :
    Frame (refills b) w t c ∧ c b = v := by
  refine ⟨⟨h.text, fun b' hb' => ?_⟩, ?_⟩
  · have hne : b' ≠ b := fun he => hb' (.inl he)
    rw [h.combo b' fun hl => hb' (refills_of_listens hl)]
    exact Function.update_of_ne hne _ _
  · rw [h.combo b (not_listens_self b)]
    exact Function.update_self ..

theorem Frame.trans_refills {b : ComboBox} {t t' : TextField → String}
    {c c' : ComboBox → Combo} {q : Traffic} (h : Frame (refills b) w t c)
    (h' : Frame (refills b) (w.redrawn t c q) t' c') : Frame (refills b) w t' c' :=
  ⟨fun f hf => (h'.text f hf).trans (h.text f hf),
    fun b' hb' => (h'.combo b' hb').trans (h.combo b' hb')⟩

theorem wp_removeAllItems {b : ComboBox} {Q : Unit → World → Prop}
    (h : ∀ t c q, Frame (refills b) w t c → c b = .filled [] → Q () (w.redrawn t c q)) :
    wp (under col may) (removeAllItems (itemStateChanged b) b) Q E w := by
  rw [removeAllItems, wp_bind, wp_call_steady (fun _ => rfl)]
  refine wp_fire _ fun t c q hf => ?_
  obtain ⟨hframe, hb⟩ := hf.of_setCombo
  exact h t c q hframe hb

theorem wp_addItems {b : ComboBox} {Q : Unit → World → Prop} (ss l : List String)
    (hw : w.combo b = .filled l)
    (h : ∀ t c q, Frame (refills b) w t c → c b = .filled (l ++ ss) → Q () (w.redrawn t c q)) :
    wp (under col may) (addItems (itemStateChanged b) b ss) Q E w := by
  induction ss generalizing l w with
  | nil => exact h w.text w.combo w.traffic (.refl _ w) (by simpa using hw)
  | cons s ss ih =>
    rw [addItems, wp_bind, wp_call_steady (fun _ => rfl), wp_bind]
    refine wp_fire _ fun t c q hf => ?_
    obtain ⟨hframe, hb⟩ := hf.of_setCombo
    rw [hw, Combo.addItem_filled] at hb
    refine ih (l ++ [s]) hb fun t' c' q' hf' hb' => ?_
    exact h t' c' q' (hframe.trans_refills hf') (by simpa using hb')

theorem wp_clearAddress {b : ComboBox} {Q : Unit → World → Prop}
    (h : ∀ t q, (∀ f, ¬ f.shows → t f = w.text f) → Q () (w.redrawn t w.combo q)) :
    wp (under col may) (clearAddress b) Q E w :=
  wp_redraws (S := fun _ => False) (redraws_clearAddress b) fun _ t c q hf => by
    obtain rfl : c = w.combo := funext fun b' => hf.combo b' id
    exact h t q hf.text

/-- **Refill.** Without failing database calls a refilled box holds the column it is filled
with. -/
theorem wp_updateSelect {b : ComboBox} {q : Query} {column : q.Row → String} {m m' : Message}
    {Q : Unit → World → Prop} (hw : ¬ Trouble may w)
    (h : ∀ t c q', Frame (refills b) w t c →
      c b = .filled ((q.run col w.database).map column) → Q () (w.redrawn t c q')) :
    wp (under col may) (updateSelect b q column m m') Q E w := by
  simp only [updateSelect, wp_bind, wp_appendToOutput]
  refine wp_removeAllItems fun t c q₁ hf hb => ?_
  refine wp_clearAddress fun t' q₂ ht' => ?_
  refine wp_openStatement (fun connect q₃ hurl => ?_) fun ht => absurd ht hw
  simp only [wp_bind]
  refine wp_executeQuery ?_ fun ht => absurd ht hw
  simp only [wp_bind]
  refine wp_readRows (fun q₄ => ?_) fun ht => absurd ht hw
  simp only [wp_bind]
  refine wp_closeConnection fun q₅ => ?_
  refine wp_addItems _ [] hb fun t'' c' q₆ hf' hb' => ?_
  rw [wp_appendToOutput]
  have hdb : w.database = w.servers connect.url := World.database_of_url hurl
  refine h t'' c' _ ⟨fun f hs => ?_, fun b' hb' => ?_⟩ ?_
  · exact ((hf'.text f hs).trans (ht' f hs)).trans (hf.text f hs)
  · exact (hf'.combo b' hb').trans (hf.combo b' hb')
  · simpa [hdb] using hb'

theorem wp_updateNodeSelects {Q : Unit → World → Prop} (hw : ¬ Trouble may w)
    (h : ∀ t c q, Frame ComboBox.showsNodes w t c →
      c .wsnGeneralNodeComboBox = .filled w.database.nodeIds →
      c .wsnGeneralRemoveNodeComboBox = .filled w.database.nodeIds →
      c .wsnSensorsNodeComboBox = .filled w.database.nodeIds → Q () (w.redrawn t c q)) :
    wp (under col may) updateNodeSelects Q E w := by
  simp only [updateNodeSelects, updateNodeSelect, wp_bind]
  refine wp_updateSelect hw fun t₁ c₁ q₁ hf₁ hb₁ => ?_
  refine wp_updateSelect hw fun t₂ c₂ q₂ hf₂ hb₂ => ?_
  refine wp_updateSelect hw fun t₃ c₃ q₃ hf₃ hb₃ => ?_
  refine h t₃ c₃ q₃ ⟨fun f hs => ?_, fun b hb => ?_⟩ ?_ ?_ hb₃
  · exact ((hf₃.text f hs).trans (hf₂.text f hs)).trans (hf₁.text f hs)
  · have hne : ∀ b', b'.showsNodes → ¬ refills b' b := by
      rintro b' hb' (rfl | ⟨_, rfl⟩)
      · exact hb hb'
      · exact hb trivial
    exact ((hf₃.combo b (hne _ trivial)).trans (hf₂.combo b (hne _ trivial))).trans
      (hf₁.combo b (hne _ trivial))
  · exact ((hf₃.combo _ (by simp [refills])).trans (hf₂.combo _ (by simp [refills]))).trans hb₁
  · exact (hf₃.combo _ (by simp [refills])).trans hb₂

end CrossingReality
