import CrossingReality.Failures
import CrossingReality.Terminals

/-!
# Nodes that must not come back

A node removed with *Prevent auto add* ticked must not be added by a reading until it has been
added by hand. The program keeps a list; it goes wrong where a manual add takes the node off the
list and then fails to insert it, and where a node is put on the list twice.

* `InStep` — the invariant: the node is listed once while it is prevented, and else not at all.
* `session_honours` — sessions that avoid the two.
-/

namespace CrossingReality

open Effects

variable {col : Collation} {may : Call → Prop} {w w' : World} {id : String}

/-! ## The calls that matter -/

/-- An `INSERT` of the node was sent. -/
def inserts (id : String) (e : Event calls World) : Bool :=
  match e.call with
  | .executeUpdate _ (.insertNode i _) => i == id
  | _ => false

/-- An `INSERT` of the node went through. -/
def inserted (id : String) : Event calls World → Bool
  | ⟨_, .executeUpdate _ (.insertNode i _), ok⟩ => i == id && ok
  | _ => false

/-- The node was taken off the ignore list. -/
def unlists (id : String) (e : Event calls World) : Bool :=
  match e.call with
  | .removeIgnoreNode i => i == id
  | _ => false

/-- A removal that is to prevent the node from being added again. -/
def prevents (id : String) (w : World) : Bool :=
  (w.combo .wsnGeneralRemoveNodeComboBox).selected == some id &&
    w.checked .wsnGeneralRemoveNodeIgnoreCheck

/-- Whether the node is prevented from being added by a reading, after one more turn. -/
def prevented (id : String) (b : Bool) (t : PanelTurn) : Bool :=
  match t.action with
  | .press .wsnGeneralRemoveNodeButton => b || prevents id t.before
  | .press .wsnGeneralManualNodeAddButton => b && !t.trace.any (inserted id)
  | _ => b

theorem unlists_of_says (e : Event calls World) (h : e.call.says = true) :
    unlists id e = false := by
  obtain ⟨w, c, x⟩ := e
  cases c <;> first | rfl | cases h

theorem inserts_of_says (e : Event calls World) (h : e.call.says = true) :
    inserts id e = false := by
  obtain ⟨w, c, x⟩ := e
  cases c <;> first | rfl | cases h

theorem inserted_of_says (e : Event calls World) (h : e.call.says = true) :
    inserted id e = false := by
  obtain ⟨w, c, x⟩ := e
  cases c <;> first | rfl | cases h

theorem failed_of_says (e : Event calls World) (h : e.call.says = true) : failed e = false := by
  obtain ⟨w, c, x⟩ := e
  cases c <;> first | rfl | cases h

/-! ## The ignore list -/

/-- The node is listed once if it is prevented, and else not at all. -/
def InStep (id : String) (b : Bool) (w : World) : Prop :=
  ∀ l, w.ignoreNodeList = some l → l.count (some id) = b.toNat

theorem step_ignoreNodeList {c : Call} (hset : ∀ l, c ≠ .setIgnoreNodeList l)
    (hadd : ∀ id, c ≠ .addIgnoreNode id) (hremove : ∀ id, c ≠ .removeIgnoreNode id) (f : Fate) :
    (step col c f w).2.ignoreNodeList = w.ignoreNodeList := by
  cases c with
  | setIgnoreNodeList l => exact absurd rfl (hset l)
  | addIgnoreNode id => exact absurd rfl (hadd id)
  | removeIgnoreNode id => exact absurd rfl (hremove id)
  | _ => first | rfl | exact (step_outside rfl col f w).ignoreNodeList

/-- The calls that leave the ignore list of nodes alone. -/
def Call.sparesNodeList (c : Call) : Prop :=
  (∀ l, c ≠ .setIgnoreNodeList l) ∧ (∀ id, c ≠ .addIgnoreNode id) ∧
    ∀ id, c ≠ .removeIgnoreNode id

/-- A part that leaves the ignore list of nodes alone. -/
theorem wp_sparing {α : Type} {p : Panel α} (hp : p.Uses Call.sparesNodeList fun _ => True)
    {l : Option (List (Option String))} (hl : w.ignoreNodeList = l) :
    wp (under col may) p (fun _ w' => w'.ignoreNodeList = l) (fun _ w' => w'.ignoreNodeList = l)
      w := by
  refine (wp_of_steps hp (fun c f w hc hw => ?_) hl).mono (fun _ _ h => h) fun _ _ h => h.2
  exact (step_ignoreNodeList hc.1 hc.2.1 hc.2.2 f).trans hw

theorem sparesNodeList_of_tame {c : Call} (hc : c.tame) : c.sparesNodeList := by
  refine ⟨?_, ?_, ?_⟩ <;> rintro _ rfl <;> exact hc

theorem wp_sparing_of_tame {α : Type} {p : Panel α} (hp : p.Uses Call.tame fun _ => True)
    {l : Option (List (Option String))} (hl : w.ignoreNodeList = l) :
    wp (under col may) p (fun _ w' => w'.ignoreNodeList = l) (fun _ w' => w'.ignoreNodeList = l)
      w :=
  wp_sparing (hp.mono (fun _ => sparesNodeList_of_tame) fun _ h => h) hl

/-! ## Removing -/

theorem wp_removeNode_ignoreNodeList {id : Option String} {l : List (Option String)}
    (hl : w.ignoreNodeList = some l) :
    wp (under col may) (removeNode id)
      (fun _ w' => w'.ignoreNodeList = some
        (l ++ if w.checked .wsnGeneralRemoveNodeIgnoreCheck then [id] else []))
      (fun _ w' => w'.ignoreNodeList = some
        (l ++ if w.checked .wsnGeneralRemoveNodeIgnoreCheck then [id] else [])) w := by
  simp only [removeNode, ignoreNodeIfTicked, wp_bind, wp_isSelected]
  rw [wp_ite]
  refine ⟨fun hticked => ?_, fun hticked => ?_⟩
  · simp only [wp_bind, wp_addIgnoreNode, hl, Option.isSome_some, if_true, wp_appendToOutput]
    exact wp_sparing_of_tame (uses_deleteNode id) (by simp [hticked, World.listing])
  · exact wp_sparing_of_tame (uses_deleteNode id) (by simp [hticked, hl])

/-! ## Adding by hand -/

/-- The calls that take the node off the list or add it. -/
def aboutNode (id : String) (e : Event calls World) : Bool := unlists id e || inserted id e

theorem aboutNode_of_tame (e : Event calls World) (h : e.call.tame) : aboutNode id e = false := by
  obtain ⟨w, c, x⟩ := e
  cases c with
  | removeIgnoreNode i => exact h.elim
  | executeUpdate k u => cases u <;> first | exact h.elim | rfl
  | _ => rfl

theorem any_unlists_filter (l : List (Event calls World)) :
    (l.filter (aboutNode id)).any (unlists id) = l.any (unlists id) := by
  rw [List.any_filter]
  congr 1
  funext e
  cases h : unlists id e <;> simp [aboutNode, h]

theorem any_inserted_filter (l : List (Event calls World)) :
    (l.filter (aboutNode id)).any (inserted id) = l.any (inserted id) := by
  rw [List.any_filter]
  congr 1
  funext e
  cases h : inserted id e <;> simp [aboutNode, h]

/-- The world, and the calls about the node so far. -/
abbrev NodeRecord := World × List (Event calls World)

variable {t : List (Event calls World)} {Q : NodeRecord → Prop}

/-- A tame part neither changes the list nor makes a call about the node. -/
theorem wp_tame_recording {α : Type} {p : Panel α} (hp : p.Uses Call.tame fun _ => True)
    (h : ∀ w', w'.ignoreNodeList = w.ignoreNodeList → Q (w', t)) :
    wp ((under col may).recording (aboutNode id)) p (fun _ => Q) (fun _ => Q) (w, t) :=
  wp_recording_of_dull hp aboutNode_of_tame ((wp_sparing_of_tame hp rfl).mono (fun _ => h)
    fun _ => h)

theorem wp_insertTypedNode_recording {c : Connection}
    (hnot : ∀ w', w'.ignoreNodeList = w.ignoreNodeList → Q (w', t))
    (hok : ∀ w' e, w'.ignoreNodeList = w.ignoreNodeList → unlists id e = false →
      inserted id e = (w.text .wsnGeneralManualNodeAddId == id) →
      Q (w', t ++ [e].filter (aboutNode id))) :
    wp ((under col may).recording (aboutNode id)) (insertTypedNode c) (fun _ => Q) (fun _ => Q)
      (w, t) := by
  rw [insertTypedNode, wp_bind]
  refine wp_redraws_recording aboutNode_of_tame (redraws_createStatement _) ?_
  rw [wp_createStatement]
  refine ⟨?_, fun _ => ?_⟩
  · simp only [Bool.not_true, Bool.false_eq_true, if_false, wp_bind]
    refine wp_redraws_recording aboutNode_of_tame (redraws_getText _) ?_
    rw [wp_getText]
    refine wp_redraws_recording aboutNode_of_tame (redraws_getText _) ?_
    rw [wp_getText]
    refine wp_executeUpdate_recording rfl ?_ fun _ q => ?_
    · simp only [Bool.not_true, Bool.false_eq_true, if_false]
      refine wp_tame_recording ?_ fun w' h => hok w' _ h rfl (by simp [inserted])
      refine (redraws_appendToOutput _).tame.bind fun _ => ?_
      refine (redraws_closeConnection _).tame.bind fun _ => tame_updateNodeSelects.tame.bind ?_
      exact fun _ => (tame_setText _ _).bind fun _ => tame_setText _ _
    · simpa [aboutNode, unlists, inserted] using hnot (w.quietly q) rfl
  · simp only [Bool.not_false, if_true]
    exact wp_tame_recording ((redraws_appendToOutput _).tame.bind fun _ => trivial) hnot

/-- How a manual add can leave a node that was listed `n` times: as it was, unless it was not
listed, or listed once less. -/
def Added (id : String) (n : Nat) (s : NodeRecord) : Prop :=
  ∃ l, s.1.ignoreNodeList = some l ∧
    ((s.2.any (unlists id) = false ∧ l.count (some id) = n ∧
        (s.2.any (inserted id) = true → n = 0)) ∨
      s.2.any (unlists id) = true ∧ l.count (some id) = n - 1)

theorem wp_unignoreNode_recording {l : List (Option String)} (hl : w.ignoreNodeList = some l)
    {Q : Unit → NodeRecord → Prop} {E : Exn → NodeRecord → Prop}
    (hout : ∀ q, some (w.text .wsnGeneralManualNodeAddId) ∉ l → Q () (w.quietly q, t))
    (hin : ∀ q e, some (w.text .wsnGeneralManualNodeAddId) ∈ l →
      unlists id e = (w.text .wsnGeneralManualNodeAddId == id) → inserted id e = false →
      Q () ((w.listing (some (l.erase (some (w.text .wsnGeneralManualNodeAddId))))
        w.ignoreSensorList).quietly q, t ++ [e].filter (aboutNode id))) :
    wp ((under col may).recording (aboutNode id)) unignoreNode Q E (w, t) := by
  rw [unignoreNode, wp_bind]
  refine wp_redraws_recording aboutNode_of_tame (redraws_getText _) ?_
  rw [wp_getText, wp_bind, wp_call_recording]
  intro f _
  have hget : (step col .getIgnoreNodeList f w) = (some l, w) := by rw [← hl]; rfl
  rw [hget]
  change wp _ (if l.contains (some (w.text .wsnGeneralManualNodeAddId)) = true then _ else _) _ _ _
  have hnil : [(⟨w, .getIgnoreNodeList, some l⟩ : Event calls World)].filter (aboutNode id) = [] :=
    rfl
  rw [hnil, List.append_nil, wp_ite]
  refine ⟨fun hmem => ?_, fun hmem => hout w.traffic (by simpa using hmem)⟩
  rw [wp_bind]
  refine wp_redraws_recording aboutNode_of_tame (redraws_appendToOutput _) ?_
  rw [wp_appendToOutput, wp_bind]
  refine wp_redraws_recording aboutNode_of_tame (redraws_getText _) ?_
  rw [wp_getText, wp_call_recording]
  intro f _
  have hstep : (step col (.removeIgnoreNode (w.text .wsnGeneralManualNodeAddId)) f
      (w.quietly (w.traffic.say .nodeUnignored))).2 =
      (w.listing (some (l.erase (some (w.text .wsnGeneralManualNodeAddId))))
        w.ignoreSensorList).quietly (w.traffic.say .nodeUnignored) := by
    simp [step, hl, World.quietly, World.listing]
  have := hin (w.traffic.say .nodeUnignored) ⟨w.quietly (w.traffic.say .nodeUnignored),
    .removeIgnoreNode (w.text .wsnGeneralManualNodeAddId), ()⟩ (by simpa using hmem) rfl rfl
  rw [← hstep] at this
  exact this

section Turns

variable [Jdk]

/-- A manual add leaves a list that is there as `Added` says, however it ends. -/
theorem wp_manualNodeAdd_recording (id : String) {l : List (Option String)}
    (hl : w.ignoreNodeList = some l) :
    wp ((under col may).recording (aboutNode id)) manualNodeAdd
      (fun _ => Added id (l.count (some id))) (fun _ => Added id (l.count (some id))) (w, []) := by
  have hstay : ∀ w' : World, w'.ignoreNodeList = w.ignoreNodeList →
      Added id (l.count (some id)) (w', []) := fun w' h =>
    ⟨l, h.trans hl, .inl ⟨rfl, rfl, nofun⟩⟩
  have hsay : ∀ m q, wp ((under col may).recording (aboutNode id))
      (do appendToOutput m; return : Panel Unit) (fun _ => Added id (l.count (some id)))
      (fun _ => Added id (l.count (some id))) (w.quietly q, []) := fun m q =>
    wp_tame_recording ((redraws_appendToOutput m).tame.bind fun _ => trivial) hstay
  simp only [manualNodeAdd, wp_bind]
  refine wp_redraws_recording aboutNode_of_tame (redraws_getText _) ?_
  rw [wp_getText, wp_ite]
  refine ⟨fun _ => hsay _ w.traffic, fun _ => ?_⟩
  simp only [wp_bind]
  refine wp_redraws_recording aboutNode_of_tame (redraws_openStatement _) ?_
  refine wp_openStatement (fun c q₁ _ => ?_) fun _ q => hstay _ rfl
  simp only [wp_bind]
  refine wp_redraws_recording aboutNode_of_tame (redraws_getText _) ?_
  rw [wp_getText]
  refine wp_redraws_recording aboutNode_of_tame (redraws_executeQuery _ _ _) ?_
  refine wp_executeQuery ?_ fun _ q => hstay _ rfl
  simp only [wp_bind]
  refine wp_redraws_recording aboutNode_of_tame (redraws_readRows _ _ _) ?_
  refine wp_readRows (fun q₂ => ?_) fun _ q => hstay _ rfl
  simp only
  rw [wp_ite]
  refine ⟨fun _ => hsay _ q₂, fun _ => ?_⟩
  simp only [wp_bind]
  refine wp_redraws_recording aboutNode_of_tame (redraws_getText _) ?_
  rw [wp_getText, wp_ite]
  refine ⟨fun _ => hsay _ q₂, fun _ => ?_⟩
  simp only [wp_bind]
  refine wp_redraws_recording aboutNode_of_tame (redraws_appendToOutput _) ?_
  rw [wp_appendToOutput]
  refine wp_unignoreNode_recording (w := w.quietly _) hl (fun q₃ hout => ?_)
    fun q₃ e hin hun hins => ?_
  · -- The typed node is not listed. If it is the one in question, it was listed no times.
    refine wp_insertTypedNode_recording hstay fun w' e' hw' hun' hins' => ?_
    refine ⟨l, hw'.trans hl, .inl ⟨?_, rfl, fun h => ?_⟩⟩
    · rw [List.nil_append, any_unlists_filter, List.any_cons, hun']
      rfl
    · rw [List.nil_append, any_inserted_filter, List.any_cons, hins'] at h
      obtain rfl : w.text .wsnGeneralManualNodeAddId = id := by simpa using h
      exact List.count_eq_zero.mpr hout
  · -- The typed node is listed, and comes off the list.
    have herased : ∀ w' (t' : List (Event calls World)),
        w'.ignoreNodeList = some (l.erase (some (w.text .wsnGeneralManualNodeAddId))) →
        t'.any (unlists id) = (w.text .wsnGeneralManualNodeAddId == id) →
        (t'.any (inserted id) = true → w.text .wsnGeneralManualNodeAddId = id) →
        Added id (l.count (some id)) (w', t') := by
      intro w' t' hw' hun' hins'
      refine ⟨_, hw', ?_⟩
      by_cases hid : w.text .wsnGeneralManualNodeAddId = id
      · exact .inr ⟨hun'.trans (by simpa using hid), by rw [hid, List.count_erase_self]⟩
      · refine .inl ⟨hun'.trans (by simpa using hid), ?_, fun h => absurd (hins' h) hid⟩
        exact List.count_erase_of_ne fun h => hid (Option.some_inj.mp h).symm
    refine wp_insertTypedNode_recording (fun w' hw' => ?_) fun w' e' hw' hun' hins' => ?_
    · refine herased w' _ (by exact hw') ?_ ?_
      · rw [List.nil_append, any_unlists_filter, List.any_cons, hun]
        exact Bool.or_false _
      · rw [List.nil_append, any_inserted_filter, List.any_cons, hins]
        exact nofun
    · refine herased w' _ (by exact hw') ?_ ?_
      · rw [List.nil_append, List.any_append, any_unlists_filter, any_unlists_filter,
          List.any_cons, List.any_cons, hun, hun']
        exact (Bool.or_false _).trans (Bool.or_false _)
      · rw [List.nil_append, List.any_append, any_inserted_filter, any_inserted_filter,
          List.any_cons, List.any_cons, hins, hins']
        simp

/-! ## Turns -/

/-- A manual add that takes the node off the list goes on to insert it. -/
def Inserts (id : String) (t : PanelTurn) : Prop :=
  t.trace.any (unlists id) = true → t.trace.any (inserted id) = true

/-- A removal that is to prevent the node does not find it on the list. -/
def Once (id : String) (t : PanelTurn) : Prop :=
  t.action = .press .wsnGeneralRemoveNodeButton → prevents id t.before = true →
    some id ∉ t.before.ignoreNodeList.getD []

/-- A turn that does what the operator is told, and leaves level terminals level. -/
structure Orderly (id : String) (t : PanelTurn) : Prop where
  inserts : Inserts id t
  once : Once id t
  closes : Closes t

/-- A list that does not exist is not made by any action. -/
theorem ignoreNodeList_eq_none {t : PanelTurn}
    (hrun : Runs (under col anyFault) t.action.program t.before t.trace t.outcome t.after)
    (h : t.before.ignoreNodeList = none) : t.after.ignoreNodeList = none := by
  have huses : t.action.program.Uses (fun c : Call => ∀ l, c ≠ .setIgnoreNodeList l)
      fun _ => True := by
    refine (uses_action t.action).mono (fun c hc l => ?_) fun _ h => h
    rintro rfl
    cases haction : t.action with
    | press b => cases b <;> simp [haction, Call.ofAction, Call.tame] at hc
    | _ => simp [haction, Call.ofAction, Call.ofReading, Call.tame] at hc
  refine hrun.of_wp ((wp_of_steps (I := fun w => w.ignoreNodeList = none) huses ?_ h).mono
    (fun _ _ h => h) fun _ _ h => h.2)
  intro c f w hc hw
  by_cases hspares : c.sparesNodeList
  · exact (step_ignoreNodeList hspares.1 hspares.2.1 hspares.2.2 f).trans hw
  · cases c with
    | setIgnoreNodeList l => exact absurd rfl (hc l)
    | addIgnoreNode | removeIgnoreNode => simp [step, hw]
    | _ => exact absurd (by simp [Call.sparesNodeList]) hspares

/-- The actions that can change the list are adding a node by hand and removing one. -/
theorem spares_action {a : Action} (hadd : a ≠ .press .wsnGeneralManualNodeAddButton)
    (hremove : a ≠ .press .wsnGeneralRemoveNodeButton) :
    a.program.Uses Call.sparesNodeList fun _ => True := by
  refine (uses_action a).mono (fun c hc => ?_) fun _ h => h
  cases a with
  | reading id type value =>
    refine ⟨?_, ?_, ?_⟩ <;> rintro _ rfl <;> exact hc
  | press b =>
    cases b with
    | wsnGeneralManualNodeAddButton => exact absurd rfl hadd
    | wsnGeneralRemoveNodeButton => exact absurd rfl hremove
    | wsnSensorsManualAddSensorButton =>
      obtain hc | ⟨l, rfl⟩ | ⟨k, id, type, rfl⟩ := hc
      · exact sparesNodeList_of_tame hc
      · exact ⟨nofun, nofun, nofun⟩
      · exact ⟨nofun, nofun, nofun⟩
    | wsnSensorsRemoveSensorButton =>
      obtain hc | ⟨o, rfl⟩ := hc
      · exact sparesNodeList_of_tame hc
      · exact ⟨nofun, nofun, nofun⟩
    | wsnGeneralUpdateMysqlAddressButton | wsnGeneralSaveMysqlDetailsButton =>
      obtain hc | ⟨d, s, rfl⟩ := hc
      · exact sparesNodeList_of_tame hc
      · exact ⟨nofun, nofun, nofun⟩
    | _ => exact sparesNodeList_of_tame hc
  | _ => exact sparesNodeList_of_tame hc

/-- Such a turn keeps the list in step with the operator. -/
theorem InStep.turn {b : Bool} {t : PanelTurn} (h : InStep id b t.before)
    (hinserts : Inserts id t) (honce : Once id t)
    (hrun : Runs (under col anyFault) t.action.program t.before t.trace t.outcome t.after) :
    InStep id (prevented id b t) t.after := by
  cases hl : t.before.ignoreNodeList with
  | none =>
    intro l hl'
    rw [ignoreNodeList_eq_none hrun hl] at hl'
    cases hl'
  | some l =>
    have hcount := h l hl
    by_cases hadd : t.action = .press .wsnGeneralManualNodeAddButton
    · rw [hadd] at hrun
      obtain ⟨l', hl', hadded⟩ := hrun.of_recording (wp_manualNodeAdd_recording id hl)
      simp only [List.nil_append, any_unlists_filter, any_inserted_filter] at hadded
      intro l'' hl''
      obtain rfl : l' = l'' := Option.some_inj.mp (hl'.symm.trans hl'')
      rw [prevented, hadd]
      rcases hadded with ⟨-, hn, hins⟩ | ⟨hun, hn⟩
      · rw [hn, hcount]
        cases b with
        | false => rfl
        | true =>
          -- The node is listed and stays so: it was not inserted.
          have : t.trace.any (inserted id) = false := by
            rw [Bool.eq_false_iff]
            exact fun hi => absurd (hins hi) (by simp [hcount])
          simp [this]
      · have := hinserts hun
        rw [hn, hcount]
        cases b <;> simp [this]
    by_cases hremove : t.action = .press .wsnGeneralRemoveNodeButton
    · have hwp : wp (under col anyFault) t.action.program
          (fun _ w' => w'.ignoreNodeList = some (l ++
            if t.before.checked .wsnGeneralRemoveNodeIgnoreCheck then
              [(t.before.combo .wsnGeneralRemoveNodeComboBox).selected] else []))
          (fun _ w' => w'.ignoreNodeList = some (l ++
            if t.before.checked .wsnGeneralRemoveNodeIgnoreCheck then
              [(t.before.combo .wsnGeneralRemoveNodeComboBox).selected] else [])) t.before := by
        rw [hremove]
        simp only [Action.program, actionPerformed, wp_bind, wp_getSelectedItem]
        exact wp_removeNode_ignoreNodeList hl
      intro l' hl'
      obtain rfl := Option.some_inj.mp ((hrun.of_wp hwp).symm.trans hl')
      rw [prevented, hremove, List.count_append, hcount]
      cases hp : prevents id t.before with
      | true =>
        have hnot : l.count (some id) = 0 :=
          List.count_eq_zero.mpr (by simpa [hl] using honce hremove hp)
        obtain rfl : b = false := by
          cases b with
          | false => rfl
          | true => simp [hnot] at hcount
        obtain ⟨hsel, htick⟩ := Bool.and_eq_true_iff.mp hp
        simp [htick, beq_iff_eq.mp hsel]
      | false =>
        cases htick : t.before.checked .wsnGeneralRemoveNodeIgnoreCheck with
        | false => simp
        | true =>
          have hsel : (t.before.combo .wsnGeneralRemoveNodeComboBox).selected ≠ some id := by
            simpa [prevents, htick] using hp
          simp [hsel]
    · have hspared := hrun.of_wp (wp_sparing (spares_action hadd hremove) hl)
      intro l' hl'
      obtain rfl : l = l' := Option.some_inj.mp (hspared.symm.trans hl')
      have hb : prevented id b t = b := by
        rw [prevented]
        split
        · exact absurd ‹_› hremove
        · exact absurd ‹_› hadd
        · rfl
      rw [hb, hcount]

/-- **Step.** An orderly turn on level terminals keeps the list in step with the operator. -/
theorem InStep.orderly {b : Bool} {t : PanelTurn} (h : InStep id b t.before)
    (hlevel : Level t.before.output) (ht : Orderly id t)
    (hrun : Runs (under col anyFault) t.action.withCarets t.before t.trace t.outcome t.after) :
    InStep id (prevented id b t) t.after ∧ Level t.after.output := by
  obtain ⟨l, hrun, hlevel', hl⟩ := runs_plain ht.closes hlevel hrun
  have hun : l.any (unlists id) = t.trace.any (unlists id) := any_plain hl unlists_of_says
  have hins : l.any (inserted id) = t.trace.any (inserted id) := any_plain hl inserted_of_says
  have hstep := InStep.turn (t := { t with trace := l }) h
    (by rw [Inserts, hun, hins]; exact ht.inserts) ht.once hrun
  have hprevented : prevented id b { t with trace := l } = prevented id b t := by
    simp only [prevented, hins]
  rw [hprevented] at hstep
  exact ⟨hstep, hlevel'⟩

/-! ## Readings -/

omit [Jdk] in
theorem inserts_of_tame (e : Event calls World) (h : e.call.tame) : inserts id e = false := by
  obtain ⟨w, c, x⟩ := e
  cases c with
  | executeUpdate k u => cases u <;> first | exact h.elim | rfl
  | _ => rfl

omit [Jdk] in
/-- A reading of a registered node inserts none. -/
theorem inserts_of_ofSensor {i type : String} (e : Event calls World)
    (h : e.call.ofReading (Update.ofSensor i type)) : inserts id e = false := by
  obtain ⟨w, c, x⟩ := e
  cases c with
  | executeUpdate k u => cases u <;> first | exact h.elim | rfl
  | _ => rfl

omit [Jdk] in
/-- A node that is listed is not inserted. -/
theorem wp_unrecognisedNode_listed {c : Connection}
    (hl : ∀ l, w.ignoreNodeList = some l → some id ∈ l) :
    wp ((under col may).recording (inserts id)) (unrecognisedNode c id) (fun _ s => s.2 = [])
      (fun _ s => s.2 = []) (w, []) := by
  have hsay : ∀ m w', wp ((under col may).recording (inserts id))
      (do appendToOutput m; return : Panel Unit) (fun _ s => s.2 = []) (fun _ s => s.2 = [])
      (w', []) := fun m w' =>
    wp_recording_of_dull (R := fun _ => True)
      ((redraws_appendToOutput m).tame.bind fun _ => trivial) inserts_of_tame (by simp)
  rw [unrecognisedNode, wp_bind]
  refine wp_redraws_recording inserts_of_tame (redraws_appendToOutput _) ?_
  rw [wp_appendToOutput, wp_bind]
  refine wp_recording_of_dull (tame_isSelected (R := fun _ => True) _) inserts_of_tame ?_
  rw [wp_isSelected, wp_ite]
  refine ⟨fun _ => hsay _ _, fun _ => ?_⟩
  rw [wp_bind, wp_call_recording]
  intro f _
  cases h : w.ignoreNodeList with
  | none =>
    have hget : (step col .getIgnoreNodeList f
        (w.quietly (w.traffic.say (.nodeUnrecognised id)))).1 = none := h
    rw [hget]
    rfl
  | some l =>
    have hget : (step col .getIgnoreNodeList f
        (w.quietly (w.traffic.say (.nodeUnrecognised id)))).1 = some l := h
    rw [hget]
    change wp _ (if l.contains (some id) = true then _ else _) _ _ _
    rw [if_pos (by simpa using hl l h)]
    exact hsay _ _

/-- A reading of a node that is listed does not insert it. -/
theorem wp_sensed_listed {type : String} {value : Int32}
    (hl : ∀ l, w.ignoreNodeList = some l → some id ∈ l) :
    wp ((under col may).recording (inserts id)) (sensed id type value) (fun _ s => s.2 = [])
      (fun _ s => s.2 = []) (w, []) := by
  rw [sensed, wp_bind]
  refine wp_redraws_recording inserts_of_tame (redraws_lookUpNode _) ?_
  refine wp_redraws (redraws_lookUpNode (S := fun _ => True) id) fun found t b q _ => ?_
  cases found with
  | none => rfl
  | some found =>
    obtain ⟨c, ids, addresses⟩ := found
    change wp _ (if ids.isEmpty = true then _ else _) _ _ _
    rw [wp_ite]
    refine ⟨fun _ => ?_, fun _ => ?_⟩
    · rw [wp_bind]
      exact wp_unrecognisedNode_listed hl
    · refine wp_recording_of_dull (uses_recognisedNode value c addresses) inserts_of_ofSensor ?_
      exact wp_of_runs (fun _ _ => trivial) fun l r w' _ => by cases r <;> rfl

/-- A reading as it should be: a node that is prevented is not inserted, and one that is not is
inserted where auto add is on and the database does its part. -/
structure Honours (col : Collation) (id : String) (b : Bool) (t : PanelTurn) : Prop where
  kept : b = true → t.trace.any (inserts id) = false
  lifted : b = false → t.before.ignoreNodeList ≠ none →
    t.before.checked .wsnGeneralAutoAddCheck = true → ¬ t.before.database.hasNode col id →
    (∀ e ∈ t.trace, failed e = false) →
    t.after.database.nodes = t.before.database.nodes ++ [⟨id, none⟩]

/-- While the list is in step with the operator, readings are as they should be. -/
theorem InStep.honours {b : Bool} {t : PanelTurn} {type : String} {value : Int32}
    (hcol : ∀ s, col.same s s = true) (h : InStep id b t.before)
    (hrun : Runs (under col anyFault) t.action.program t.before t.trace t.outcome t.after)
    (ht : t.action = .reading id type value) : Honours col id b t := by
  rw [ht] at hrun
  refine ⟨?_, ?_⟩
  · intro hb
    subst hb
    have hl : ∀ l, t.before.ignoreNodeList = some l → some id ∈ l := fun l hl =>
      List.one_le_count_iff.mp (h l hl).ge
    have hnone : [] ++ t.trace.filter (inserts id) = [] :=
      hrun.of_recording (I := fun s => s.2 = []) (by
        rw [Action.program, wp_bind]
        exact wp_sensed_listed hl)
    rw [Bool.eq_false_iff]
    intro hany
    obtain ⟨e, he, hins⟩ := List.any_eq_true.mp hany
    exact List.filter_eq_nil_iff.mp hnone e he hins
  · intro hb hlist hauto hnode hok
    subst hb
    obtain ⟨url, hurl⟩ : ∃ url, t.before.mysql .mysqlAddress = some url := by
      rw [Action.program, sensed, lookUpNode, bind_assoc, bind_assoc] at hrun
      exact exists_address hrun hok
    have hwp : wp (under col httpFault) (Action.reading id type value).program
        (fun _ w' => ∃ r, Reaction col url t.before id type value r w')
        (fun _ w' => ∃ r, Reaction col url t.before id type value r w') t.before := by
      rw [Action.program, wp_bind]
      exact (wp_sensed (not_trouble hurl) hurl (hcol type)).mono (fun b w' h => ⟨_, h⟩)
        fun e w' h => ⟨_, h⟩
    obtain ⟨r, hreaction⟩ := (runs_httpFault hrun hok).of_wp hwp
    generalize t.after = w' at hreaction ⊢
    cases hreaction with
    | nodeSkipped q _ hskip =>
      obtain ⟨l, hl, hmem⟩ := hskip hauto
      exact absurd hmem (List.count_eq_zero.mp (h l hl))
    | nodeCrashed q _ _ hl => exact absurd hl hlist
    | nodeAdded l t' b q =>
      exact (congrArg Database.nodes (World.withDatabase_database (w := t.before)
        (d := t.before.database.apply col (.insertNode id none)) hurl) :)
    | sensorSkipped _ hnode' | sensorCrashed _ _ hnode' | sensorAdded _ _ _ _ hnode'
    | stopped _ _ hnode' | forwarded _ _ _ _ _ hnode' => exact absurd hnode' hnode

/-- So they are with the statements of their lines written out, on level terminals. -/
theorem InStep.honours_withCarets {b : Bool} {t : PanelTurn} {type : String} {value : Int32}
    (hcol : ∀ s, col.same s s = true) (h : InStep id b t.before) (hlevel : Level t.before.output)
    (hcloses : Closes t)
    (hrun : Runs (under col anyFault) t.action.withCarets t.before t.trace t.outcome t.after)
    (ht : t.action = .reading id type value) : Honours col id b t := by
  obtain ⟨l, hrun, -, hl⟩ := runs_plain hcloses hlevel hrun
  obtain ⟨hkept, hlifted⟩ := InStep.honours (t := { t with trace := l }) hcol h hrun ht
  refine ⟨fun hb => ?_, fun hb hlist hauto hnode hok => hlifted hb hlist hauto hnode ?_⟩
  · rw [← any_plain hl inserts_of_says]
    exact hkept hb
  · have hany : l.any failed = t.trace.any failed := any_plain hl failed_of_says
    intro e he
    by_contra hfailed
    rw [List.any_eq_true.mpr ⟨e, he, by simpa using hfailed⟩] at hany
    obtain ⟨e', he', hfailed'⟩ := List.any_eq_true.mp hany.symm
    rw [hok e' he'] at hfailed'
    cases hfailed'

/-! ## Sessions -/

/-- **Prevention.** Take a session in which any database call may fail, from a state as start-up
leaves it: the node is not listed and the terminals are level. Say that every manual add that takes
the node off the list goes on to insert it, that no removal is to prevent the node while it is
listed, and that readings close the connections on which they added nodes. Then a reading never
inserts the node while it is prevented, and inserts it again when it is not. -/
theorem session_honours {w₀ : World} {ts : List PanelTurn} (hcol : ∀ s, col.same s s = true)
    (h : Session (under col anyFault) Action.withCarets w₀ ts w)
    (hstart : some id ∉ w₀.ignoreNodeList.getD []) (hlevel : Level w₀.output)
    (hts : ∀ t ∈ ts, Orderly id t)
    {ts₁ ts₂ : List PanelTurn} {t : PanelTurn} (hsplit : ts = ts₁ ++ t :: ts₂) {type : String}
    {value : Int32} (ht : t.action = .reading id type value) :
    Honours col id (ts₁.foldl (prevented id) false) t := by
  subst hsplit
  obtain ⟨h₁, hrun⟩ := h.split
  have hbefore : InStep id (ts₁.foldl (prevented id) false) t.before ∧ Level t.before.output := by
    refine h₁.invariant (I := fun ts w => InStep id (ts.foldl (prevented id) false) w ∧
      Level w.output) (C := Orderly id) (fun u hu => hts u (List.mem_append_left _ hu)) ?_ ?_
    · refine ⟨fun l hl => ?_, hlevel⟩
      exact List.count_eq_zero.mpr (by simpa [hl] using hstart)
    · intro ts u hw hu hrun
      rw [List.foldl_append]
      exact hw.1.orderly hw.2 hu hrun
  exact hbefore.1.honours_withCarets hcol hbefore.2 (hts t (by simp)).closes hrun ht

end Turns

/-! ## A node that comes back -/

/-- The turns of some actions over empty tables, each with the fates of its calls. -/
def faulted (as : List (Action × List Fate)) : List PanelTurn :=
  (machine .exact).turns .fine (@Action.withCarets plainJdk) as emptyWorld

/-- The world they lead to. -/
def faultedTo (as : List (Action × List Fate)) : World :=
  (machine .exact).endOf .fine (@Action.withCarets plainJdk) as emptyWorld

/-- The turn of one more action after them, nothing failing. -/
def faultedThen (as : List (Action × List Fate)) (a : Action) : PanelTurn :=
  (machine .exact).turn .fine (@Action.withCarets plainJdk) a [] (faultedTo as)

theorem faulted_snoc (as : List (Action × List Fate)) (a : Action) :
    faulted (as ++ [(a, [])]) = faulted as ++ faultedThen as a :: [] :=
  Machine.turns_append _ _ _ as [(a, [])] emptyWorld

theorem session_faulted (as : List (Action × List Fate)) :
    Session (under .exact anyFault) (@Action.withCarets plainJdk) emptyWorld (faulted as)
      (faultedTo as) :=
  Machine.session_turns (fun _ _ _ => by trivial) (fun _ _ _ _ _ _ => by exact fun _ => trivial)
    .nil

/-- Add a node by hand, the calls of the last step meeting the given fates. -/
def addByHand (id : String) (fates : List Fate) : List (Action × List Fate) :=
  [(.typeText .wsnGeneralManualNodeAddId id, []),
   (.typeText .wsnGeneralManualNodeAddAddress "http://vw", []),
   (.press .wsnGeneralManualNodeAddButton, fates)]

/-- Add a node, remove it with *Prevent auto add* ticked, and turn auto add on. -/
def preventOnce : List (Action × List Fate) :=
  addByHand "1" [] ++ [(.tick .wsnGeneralRemoveNodeIgnoreCheck true, []),
    (.press .wsnGeneralRemoveNodeButton, []), (.tick .wsnGeneralAutoAddCheck true, [])]

/-- Then add it by hand again, where the `INSERT` fails. -/
def failToAdd : List (Action × List Fate) :=
  preventOnce ++ addByHand "1" (List.replicate 39 .fine ++ [⟨true, .fault⟩])

/-- The node is off the list without having been inserted, and the next reading inserts it. -/
theorem not_always_honours : ¬ ∀ (jdk : Jdk) (col : Collation) (id : String) (w₀ w : World)
    (ts ts₁ ts₂ : List PanelTurn) (t : PanelTurn) (type : String) (value : Int32),
    (∀ s, col.same s s = true) → Session (under col anyFault) (@Action.withCarets jdk) w₀ ts w →
    some id ∉ w₀.ignoreNodeList.getD [] → ts = ts₁ ++ t :: ts₂ →
    t.action = .reading id type value → Honours col id (ts₁.foldl (prevented id) false) t := by
  intro h
  have hkept := (h plainJdk .exact "1" _ _ _ _ _ _ "light" 5 (by simp) (session_faulted _)
    (by decide) (faulted_snoc failToAdd (.reading "1" "light" 5)) rfl).kept
  have hprevented : (faulted failToAdd).foldl (prevented "1") false = true := by decide +kernel
  have hinserts : (faultedThen failToAdd (.reading "1" "light" 5)).trace.any (inserts "1") =
      true := by decide +kernel
  rw [hkept hprevented] at hinserts
  cases hinserts

instance (id : String) (t : PanelTurn) : Decidable (Orderly id t) :=
  decidable_of_iff ((t.trace.any (unlists id) = true → t.trace.any (inserted id) = true) ∧
      (t.action = .press .wsnGeneralRemoveNodeButton → prevents id t.before = true →
        (t.before.ignoreNodeList.getD []).contains (some id) = false) ∧ Closes t)
    ⟨fun h => ⟨h.1, fun ha hp => by simpa using h.2.1 ha hp, h.2.2⟩,
      fun h => ⟨h.inserts, fun ha hp => by simpa using h.once ha hp, h.closes⟩⟩

/-- A reading adds another node in between. -/
def addAnother : List (Action × List Fate) := preventOnce ++ [(.reading "2" "light" 5, [])]

/-- Without the step that fails the node stays away. -/
theorem addAnother_honours :
    Honours .exact "1" ((faulted addAnother).foldl (prevented "1") false)
      (faultedThen addAnother (.reading "1" "light" 5)) :=
  @session_honours .exact _ "1" plainJdk _ _ (by simp) (session_faulted _) (by decide)
    (by decide) (by decide +kernel) _ _ _ (faulted_snoc addAnother (.reading "1" "light" 5))
    "light" 5 rfl

end CrossingReality
