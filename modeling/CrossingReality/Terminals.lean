import CrossingReality.Effects.Expansion
import CrossingReality.Ownership
import CrossingReality.Usage

/-!
# Lines on the terminals

`cp.appendToOutput` puts its line on three text areas, one after the other, and moves the caret of
each to the length of the first. While the areas are level no caret throws, and the six statements
amount to one call. They come to differ when a reading cannot close the connection on which it
added a node, and while another thread is half way through a line.

* `runs_plain` — a turn on level areas, its statements written out, is a turn without them.
* `interleaving_carets` — threads whose lines do not overlap set every caret.
-/

namespace CrossingReality

open Effects

variable {col : Collation} {may : Call → Prop} {w w' : World} {α : Type}

/-- The areas, in the order of the statements. -/
def textAreas : List TextArea :=
  [.wsnGeneralPanelOutput, .wsnSensorsPanelOutput, .actuatorPanelOutput]

/-- What a call stands for: `cp.appendToOutput` is six statements. -/
def statements : Bodies calls Exn
  | .append m => some (appendLine m textAreas)
  | _ => none

/-- A method with the statements of `cp.appendToOutput` written out. -/
def withCarets (p : Panel α) : Panel α := p.expand statements

/-- What an action runs. -/
def Action.withCarets [Jdk] (a : Action) : Panel Unit := CrossingReality.withCarets a.program

/-- The call is one of these statements. -/
def Call.ofLine : Call → Bool
  | .appendArea _ _ | .setCaretPosition _ => true
  | _ => false

theorem statements_eq_none {c : Call} : statements c = none ↔ ∀ m, c ≠ .append m := by
  cases c <;> simp [statements]

/-! ## Level areas -/

/-- All areas have the same lines. -/
def Level (o : TextArea → List Message) : Prop := ∀ a, o a = o .wsnGeneralPanelOutput

instance (o : TextArea → List Message) : Decidable (Level o) :=
  decidable_of_iff (o .wsnSensorsPanelOutput = o .wsnGeneralPanelOutput ∧
      o .actuatorPanelOutput = o .wsnGeneralPanelOutput)
    ⟨fun h a => by cases a <;> first | rfl | exact h.1 | exact h.2, fun h => ⟨h _, h _⟩⟩

/-- The line is on the areas that are `done`. -/
def lined (done : List TextArea) (m : Message) (o : TextArea → List Message) :
    TextArea → List Message :=
  fun a => if a ∈ done then o a ++ [m] else o a

section Lined

variable {o : TextArea → List Message} {done : List TextArea} {a : TextArea} {m : Message}

theorem lined_nil : lined [] m o = o := by
  funext a
  simp [lined]

theorem lined_concat (ha : a ∉ done) :
    Function.update (lined done m o) a (lined done m o a ++ [m]) = lined (done ++ [a]) m o := by
  funext b
  by_cases hb : b = a
  · subst hb
    simp [lined, ha]
  · simp [lined, hb]

theorem lined_textAreas : lined textAreas m o = fun a => o a ++ [m] := by
  funext a
  cases a <;> rfl

theorem Level.append (ho : Level o) (m : Message) : Level fun a => o a ++ [m] := fun a =>
  congrArg (· ++ [m]) (ho a)

/-- On areas that were level, the caret of an area that has the line can be set. -/
theorem Level.caret (ho : Level o) (hgeneral : .wsnGeneralPanelOutput ∈ done) (ha : a ∈ done) :
    decide ((lined done m o .wsnGeneralPanelOutput).length ≤ (lined done m o a).length) = true := by
  simp [lined, hgeneral, ha, ho a]

end Lined

/-- Only the statements of a line, and the call that stands for them, change the areas. -/
theorem step_output {c : Call} (hline : c.ofLine = false) (happend : ∀ m, c ≠ .append m)
    (f : Fate) : (step col c f w).2.output = w.output := by
  cases c with
  | append m => exact absurd rfl (happend m)
  | appendArea | setCaretPosition => cases hline
  | _ => first | rfl | exact (step_outside rfl col f w).output

/-- A call that is no such statement leaves level areas level. -/
theorem level_of_post {c : Call} {x : c.Ret} (hc : c.ofLine = false) (hw : Level w.output)
    (h : (under col may).post c w x w') : Level w'.output := by
  obtain ⟨f, -, rfl⟩ := step_of_post h
  by_cases happend : ∃ m, c = .append m
  · obtain ⟨m, rfl⟩ := happend
    exact hw.append m
  · rw [step_output hc fun m h => happend ⟨m, h⟩]
    exact hw

@[simp] theorem wp_setCaretPosition (a : TextArea) {Q : Bool → World → Prop}
    {E : Exn → World → Prop} : wp (α := Bool) (under col may) (call (.setCaretPosition a)) Q E w ↔
      Q (decide ((w.output .wsnGeneralPanelOutput).length ≤ (w.output a).length)) w :=
  wp_call_steady (c := .setCaretPosition a) fun _ => rfl

/-- Where an area stands: the general one is first, the actuator one last, and none comes twice. -/
theorem split_textAreas {done as : List TextArea} {a : TextArea}
    (h : done ++ a :: as = textAreas) : .wsnGeneralPanelOutput ∈ done ++ [a] ∧ a ∉ done ∧
      (a = .wsnGeneralPanelOutput ↔ done = []) ∧ (a = .actuatorPanelOutput ↔ as = []) := by
  rcases done with _ | ⟨b, _ | ⟨c, _ | ⟨d, done⟩⟩⟩ <;> simp_all [textAreas]

/-- The statements from some area on, run alone: no caret throws. -/
theorem wp_appendLine {m : Message} {o : TextArea → List Message} (ho : Level o) :
    ∀ {done as : List TextArea} {w : World}, done ++ as = textAreas → w.output = lined done m o →
      wp (under col may) (appendLine m as)
        (fun _ w' => w' = { w with output := lined textAreas m o }) (fun _ _ => False) w
  | done, [], w, has, hw => by
    rw [List.append_nil] at has
    rw [← has, ← hw]
    rfl
  | done, a :: as, w, has, hw => by
    obtain ⟨hgeneral, ha, -⟩ := split_textAreas has
    have hput : (w.quietly (w.traffic.sayOn a m)).output = lined (done ++ [a]) m o := by
      rw [← lined_concat ha, ← hw]
      rfl
    have hcaret := ho.caret (m := m) hgeneral
      (List.mem_append_right done (List.mem_singleton_self a))
    simp only [appendLine, setCaretPosition, wp_bind, wp_appendArea, wp_setCaretPosition, hput,
      hcaret]
    exact wp_appendLine ho (by simpa using has) hput

theorem uses_appendLine (m : Message) (as : List TextArea) :
    (appendLine m as).Uses (fun c : Call => c.ofLine = true) fun _ => True := by
  induction as with
  | nil => trivial
  | cons a as ih =>
    have hcaret : (setCaretPosition a).Uses (fun c : Call => c.ofLine = true) fun _ => True :=
      ⟨rfl, fun ok => Program.uses_ite _ trivial trivial⟩
    exact ⟨rfl, fun _ => hcaret.bind fun _ => ih⟩

/-- **A line.** Run alone on level areas, the statements do what the call does. -/
theorem alone_statements :
    Alone (under col may) statements (fun w => Level w.output) Call.ofLine := by
  intro c p hc w l r w' hw h
  cases c with
  | append m =>
    obtain rfl := Option.some_inj.mp hc
    refine ⟨?_, h.calls_of_uses (uses_appendLine m textAreas)⟩
    have hout := h.outcome_of_wp (wp_appendLine hw (List.nil_append _) lined_nil.symm)
    cases r with
    | error e => exact hout.elim
    | ok u =>
      refine ⟨(), rfl, .fine, by simp [Fate.fine], ?_⟩
      rw [show w' = { w with output := lined textAreas m w.output } from hout, lined_textAreas]
      rfl
  | _ => cases hc

/-- The statements do what the call does under any contract that they are nothing to. -/
theorem faithful_statements {σ : Type} {K : Contract calls σ} {E : Exn → σ → Prop}
    (hK : ∀ c s, c.ofLine = true → K.pre c s ∧ ∀ x s', K.post c s x s' → s' = s)
    (hcaret : ∀ a s, K.post (.setCaretPosition a) s false s → E .illegalArgument s)
    (happend : ∀ m s, K.post (.append m) s () s) : Faithful K statements E := by
  intro c p hc s Q h
  cases c with
  | append m =>
    obtain rfl := Option.some_inj.mp hc
    have hQ : Q () s := h.2 () s (happend m s)
    generalize textAreas = as
    induction as with
    | nil => exact hQ
    | cons a as ih =>
      obtain ⟨hput, hput'⟩ := hK (.appendArea a m) s rfl
      refine ⟨hput, fun u s₁ hs₁ => ?_⟩
      obtain rfl := hput' u s₁ hs₁
      obtain ⟨hset, hset'⟩ := hK (.setCaretPosition a) s₁ rfl
      refine ⟨hset, fun ok s₂ hs₂ => ?_⟩
      obtain rfl := hset' ok s₂ hs₂
      cases ok with
      | false => exact hcaret a s₂ hs₂
      | true => exact ih
  | _ => cases hc

/-! ## Whole lines -/

/-- The call added a node on a connection. -/
def AddsNode {σ : Type} (c : Connection) : Event calls σ → Prop
  | ⟨_, .executeUpdate c' (.insertNode _ _), ok⟩ => c' = c ∧ ok = true
  | _ => False

/-- The connection did not close. -/
def FailsToClose {σ : Type} (c : Connection) : Event calls σ → Prop
  | ⟨_, .close c', ok⟩ => c' = c ∧ ok = false
  | _ => False

/-- No connection on which a node was added failed to close. -/
def AllClose {σ : Type} (l : List (Event calls σ)) : Prop :=
  ∀ e ∈ l, ∀ e' ∈ l, ∀ c, AddsNode c e → ¬ FailsToClose c e'

/-- The connection on which a call added a node. -/
def addedOn {σ : Type} : Event calls σ → Option Connection
  | ⟨_, .executeUpdate c (.insertNode _ _), true⟩ => some c
  | _ => none

/-- The connection that a call failed to close. -/
def leftOpen {σ : Type} : Event calls σ → Option Connection
  | ⟨_, .close c, false⟩ => some c
  | _ => none

theorem addsNode_iff {σ : Type} {c : Connection} {e : Event calls σ} :
    AddsNode c e ↔ addedOn e = some c := by
  obtain ⟨w, c', x⟩ := e
  cases c' with
  | executeUpdate c' u => cases u <;> cases x <;> simp [AddsNode, addedOn]
  | _ => simp [AddsNode, addedOn]

theorem failsToClose_iff {σ : Type} {c : Connection} {e : Event calls σ} :
    FailsToClose c e ↔ leftOpen e = some c := by
  obtain ⟨w, c', x⟩ := e
  cases c' with
  | close c' => cases x <;> simp [FailsToClose, leftOpen]
  | _ => simp [FailsToClose, leftOpen]

instance {σ : Type} (l : List (Event calls σ)) : Decidable (AllClose l) :=
  decidable_of_iff (∀ e ∈ l, ∀ c ∈ addedOn e, ∀ e' ∈ l, leftOpen e' ≠ some c) <| by
    simp only [AllClose, addsNode_iff, failsToClose_iff, Option.mem_def]
    exact ⟨fun h e he e' he' c hc => h e he c hc e' he',
      fun h e he c hc e' he' => h e he e' he' c hc⟩

/-- A call that was answered so, or puts a line on the terminals. -/
def Answered {σ : Type} (l : List (Event calls σ)) (c : Call) (x : c.Ret) : Prop :=
  (∃ e ∈ l, (⟨(), e.call, e.ret⟩ : Event calls Unit) = ⟨(), c, x⟩) ∨ ∃ m, c = .append m

theorem answered_of_mem {σ : Type} {l : List (Event calls σ)} {e : Event calls σ} (he : e ∈ l) :
    Answered l e.call e.ret := .inl ⟨e, he, rfl⟩

theorem AllClose.not_answered {σ : Type} {l : List (Event calls σ)} (h : AllClose l)
    {c : Connection} {id : String} {a : Option String}
    (hadds : Answered l (.executeUpdate c (.insertNode id a)) true) :
    ¬ Answered l (.close c) false := by
  intro hleft
  rcases hleft with ⟨⟨w, c', x⟩, he, heq⟩ | ⟨m, hm⟩
  · cases heq
    obtain ⟨⟨w', c', x⟩, he', heq⟩ | ⟨m, hm⟩ := hadds
    · cases heq
      exact h _ he' _ he c ⟨rfl, rfl⟩ ⟨rfl, rfl⟩
    · cases hm
  · cases hm

variable {A : (c : Call) → c.Ret → Prop}

/-- As long as its calls are answered as in `A`, the program puts no line on one area alone. -/
abbrev WholeLines (A : (c : Call) → c.Ret → Prop) (p : Panel α) : Prop :=
  Keeps (Contract.guarding (fun c : Call => c.ofLine = false) A) (fun _ => True) p

theorem wholeLines_of_uses {R : Exn → Prop} {p : Panel α}
    (hp : p.Uses (fun c : Call => c.ofLine = false) R) : WholeLines A p :=
  keeps_of_uses hp fun _ _ hc _ => ⟨hc, fun _ _ _ => trivial⟩

theorem ofLine_of_redraws (c : Call) (hc : c.redraws fun _ => True) : c.ofLine = false := by
  cases c <;> first | exact hc.elim | rfl

theorem Redraws.wholeLines {p : Panel α} (hp : Redraws (fun _ => True) p) : WholeLines A p :=
  wholeLines_of_uses (R := fun _ => True) (hp.uses ofLine_of_redraws)

theorem ofLine_of_tame {c : Call} (hc : c.tame) : c.ofLine = false := by
  cases c <;> first | exact hc.elim | rfl

theorem ofLine_of_ofSensor {id type : String} (c : Call)
    (hc : c.ofReading (Update.ofSensor id type)) : c.ofLine = false := by
  cases c with
  | appendArea a m => exact hc.elim fun _ h => h.elim
  | setCaretPosition a => exact hc.elim
  | _ => rfl

/-- The actions other than readings. -/
theorem ofLine_of_ofAction {a : Action} (ha : ∀ id type v, a ≠ .reading id type v) {c : Call}
    (hc : Call.ofAction a c) : c.ofLine = false := by
  cases a with
  | reading id type v => exact absurd rfl (ha id type v)
  | press b =>
    cases b with
    | wsnGeneralManualNodeAddButton =>
      obtain hc | ⟨id, rfl⟩ | ⟨k, id, a, rfl⟩ := hc <;> first | rfl | exact ofLine_of_tame hc
    | wsnSensorsManualAddSensorButton =>
      obtain hc | ⟨l, rfl⟩ | ⟨k, id, type, rfl⟩ := hc <;> first | rfl | exact ofLine_of_tame hc
    | wsnGeneralRemoveNodeButton | wsnSensorsRemoveSensorButton =>
      obtain hc | ⟨x, rfl⟩ := hc <;> first | rfl | exact ofLine_of_tame hc
    | wsnGeneralUpdateMysqlAddressButton | wsnGeneralSaveMysqlDetailsButton =>
      obtain hc | ⟨d, s, rfl⟩ := hc <;> first | rfl | exact ofLine_of_tame hc
    | _ => exact ofLine_of_tame hc
  | _ => exact ofLine_of_tame hc

/-- A reading reaches the general area alone only where it cannot close the connection on which it
has added a node. -/
theorem wholeLines_addUnrecognisedNode {c : Connection} {id : String}
    (hA : A (.executeUpdate c (.insertNode id none)) true → ¬ A (.close c) false) :
    WholeLines A (addUnrecognisedNode c id) := by
  have hsay : ∀ m, WholeLines A (appendToOutput m) := fun m => (redraws_appendToOutput m).wholeLines
  refine (hsay _).bind fun _ => ?_
  refine (wholeLines_of_uses (R := fun _ => True) ((uses_call (.createStatement c)).mpr rfl)).bind
    fun created => keeps_ite _ ((hsay _).bind fun _ => keeps_pure _) fun u _ => ?_
  simp only [executeUpdate, wp_bind]
  refine ⟨rfl, fun ok u hok => ?_⟩
  cases ok with
  | false => exact ((hsay .nodeAddProblem).bind fun _ => keeps_pure false) u trivial
  | true =>
    refine ⟨rfl, fun closed u hclosed => ?_⟩
    cases closed with
    | false => exact absurd hclosed (hA hok)
    | true =>
      exact ((hsay .nodeAdded).bind fun _ => tame_updateNodeSelects.wholeLines) u trivial

theorem wholeLines_sensed [Jdk] {id type : String} {v : Int32}
    (hA : ∀ c, A (.executeUpdate c (.insertNode id none)) true → ¬ A (.close c) false) :
    WholeLines A (sensed id type v) := by
  refine (redraws_lookUpNode id).wholeLines.bindOption (keeps_pure _) fun found => ?_
  obtain ⟨connect, ids, addresses⟩ := found
  refine keeps_ite _ (.bind ?_ fun _ => keeps_pure _) ?_
  · refine (redraws_appendToOutput _).wholeLines.bind fun _ => ?_
    refine (wholeLines_of_uses (R := fun _ => True) ((uses_call (.isSelected _)).mpr rfl)).bind
      fun auto => keeps_ite _ ?_ ?_
    · exact (redraws_appendToOutput _).wholeLines.bind fun _ => keeps_pure _
    refine (wholeLines_of_uses (R := fun _ => True) ((uses_call .getIgnoreNodeList).mpr rfl)).bind
      fun ignored => ?_
    cases ignored with
    | none => exact keeps_raise _
    | some l =>
      refine keeps_ite _ ?_ (wholeLines_addUnrecognisedNode (hA connect))
      exact (redraws_appendToOutput _).wholeLines.bind fun _ => keeps_pure _
  · exact wholeLines_of_uses ((uses_recognisedNode v connect addresses).mono ofLine_of_ofSensor
      fun _ h => h)

/-- Starting up puts whole lines. -/
theorem wholeLines_startUp [Jdk] : WholeLines A startUp := by
  refine wholeLines_of_uses (R := fun _ => True) (.bind ?_ fun _ => ⟨rfl, fun _ => ⟨rfl, ?_⟩⟩)
  · exact uses_loadMysqlDetails ofLine_of_redraws rfl (fun _ _ => rfl) fun _ _ => rfl
  · exact fun _ => trivial

/-! ## Turns -/

section Turns

/-- The action is a reading. -/
def Action.isReading : Action → Bool
  | .reading _ _ _ => true
  | _ => false

/-- The turn of a reading closes the connection on which it added a node. -/
def Closes (t : PanelTurn) : Prop := t.action.isReading = true → AllClose t.trace

instance (t : PanelTurn) : Decidable (Closes t) := inferInstanceAs (Decidable (_ → _))

variable [Jdk] {a : Action} {l : List (Event calls World)}

theorem wholeLines_action (ha : a.isReading = true → AllClose l) :
    WholeLines (Answered l) a.program := by
  by_cases hreading : ∃ id type v, a = .reading id type v
  · obtain ⟨id, type, v, rfl⟩ := hreading
    exact (wholeLines_sensed fun c => (ha rfl).not_answered).bind fun _ => keeps_pure _
  · refine wholeLines_of_uses ((uses_action a).mono (fun _ => ofLine_of_ofAction ?_) fun _ h => h)
    exact fun id type v h => hreading ⟨id, type, v, h⟩

omit [Jdk] in
/-- A program that puts whole lines on level areas runs as if they were single calls. -/
theorem runs_of_withCarets {p : Panel α} {r : Except Exn α} (hp : WholeLines (Answered l) p)
    (hw : Level w.output) (h : Runs (under col may) (withCarets p) w l r w') :
    ∃ l', Runs (under col may) p w l' r w' ∧ Level w'.output ∧
      l'.filter (fun e => (statements e.call).isNone) = l.filter fun e => !e.call.ofLine :=
  h.contract alone_statements (fun _ _ _ _ hc hw hx => level_of_post hc hw hx) (fun _ hc _ => hc)
    (fun c _ hc => .inr (by cases c <;> first | exact ⟨_, rfl⟩ | exact absurd rfl hc))
    (hp () trivial) (fun _ => answered_of_mem) hw

/-- **A turn.** On level areas, with its statements written out, it is the turn it stands for. -/
theorem runs_plain {t : PanelTurn} (ht : Closes t) (hw : Level t.before.output)
    (h : Runs (under col may) t.action.withCarets t.before t.trace t.outcome t.after) :
    ∃ l', Runs (under col may) t.action.program t.before l' t.outcome t.after ∧
      Level t.after.output ∧
      l'.filter (fun e => (statements e.call).isNone) = t.trace.filter fun e => !e.call.ofLine :=
  runs_of_withCarets (wholeLines_action ht) hw h

/-- The call puts something on the terminals. -/
def Call.says : Call → Bool
  | .append _ | .appendArea _ _ | .setCaretPosition _ => true
  | _ => false

omit [Jdk] in
/-- Anything else is in a trace with the statements written out if and only if it is in the trace
without. -/
theorem any_plain {l l' : List (Event calls World)} {q : Event calls World → Bool}
    (hl : l'.filter (fun e => (statements e.call).isNone) = l.filter fun e => !e.call.ofLine)
    (hq : ∀ e, e.call.says = true → q e = false) : l'.any q = l.any q := by
  have hfilter : ∀ (p : Call → Bool) (l : List (Event calls World)),
      (∀ c, p c = false → c.says = true) → (l.filter fun e => p e.call).any q = l.any q := by
    intro p l hp
    rw [List.any_filter]
    congr 1
    funext e
    cases he : p e.call with
    | false => exact (hq e (hp _ he)).symm
    | true => rfl
  rw [← hfilter (fun c => (statements c).isNone) l', hl, hfilter (fun c => !c.ofLine) l]
  · intro c hc
    cases c <;> first | rfl | cases hc
  · intro c hc
    cases c <;> first | rfl | cases hc

end Turns

/-! ## Threads -/

section Threads

variable {ι : Type} [DecidableEq ι] {l : List (Move ι calls World)}

/-- Who is half way through a line after one more move. -/
def writerAfter (i : Option ι) (m : Move ι calls World) : Option ι :=
  match m.call with
  | .appendArea .wsnGeneralPanelOutput _ => some m.thread
  | .setCaretPosition .actuatorPanelOutput => none
  | _ => i

/-- The thread that is half way through a line. -/
def writer (l : List (Move ι calls World)) : Option ι := l.foldl writerAfter none

/-- Lines do not overlap: while a thread is half way through one, no other touches the areas. -/
def OneByOne (l : List (Move ι calls World)) : Prop :=
  Stepwise (fun l m => m.call.ofLine = true → ∀ i, writer l = some i → m.thread = i) l

omit [DecidableEq ι] in
theorem writer_concat (m : Move ι calls World) : writer (l ++ [m]) = writerAfter (writer l) m := by
  rw [writer, List.foldl_append]
  rfl

omit [DecidableEq ι] in
theorem writerAfter_of_ofLine {m : Move ι calls World} (hm : m.call.ofLine = false)
    (i : Option ι) : writerAfter i m = i := by
  obtain ⟨⟨w, c, x⟩, j⟩ := m
  cases c with
  | appendArea | setCaretPosition => cases hm
  | _ => rfl

/-- A caret could not be set. -/
def CaretThrows {σ : Type} : Event calls σ → Prop
  | ⟨_, .setCaretPosition _, ok⟩ => ok = false
  | _ => False

omit [DecidableEq ι] in
theorem not_caretThrows {σ : Type} {e : Event calls σ} (h : e.call.ofLine = false) :
    ¬ CaretThrows e := by
  obtain ⟨w, c, x⟩ := e
  cases c with
  | setCaretPosition a => cases h
  | _ => exact id

/-- A thread that goes on with `p` once its line is on all areas, which were as in `o` before. -/
inductive Writing (m : Message) (p : Panel α) (o : TextArea → List Message) :
    Panel α → (TextArea → List Message) → Prop
  | caret {done : List TextArea} {a : TextArea} {as : List TextArea} :
      done ++ a :: as = textAreas →
      Writing m p o ((do setCaretPosition a; appendLine m as) >>= fun _ => p)
        (lined (done ++ [a]) m o)
  | area {done : List TextArea} {a : TextArea} {as : List TextArea} :
      done ++ a :: as = textAreas → done ≠ [] →
      Writing m p o (appendLine m (a :: as) >>= fun _ => p) (lined done m o)

omit [DecidableEq ι] in
/-- **Step** of a thread in a line: its caret can be set, and the line goes on or is done. -/
theorem Writing.move {m : Message} {p : Panel α} {o : TextArea → List Message} (ho : Level o)
    {c : Call} {k : c.Ret → Panel α} {x : c.Ret} (h : Writing m p o (.call c k) w.output)
    (hx : (under col may).post c w x w') :
    c.ofLine = true ∧ ¬ CaretThrows (⟨w, c, x⟩ : Event calls World) ∧
      ((c = .setCaretPosition .actuatorPanelOutput ∧ k x = p ∧ Level w'.output) ∨
        (∀ i (j : ι), writerAfter i ⟨⟨w, c, x⟩, j⟩ = i) ∧ Writing m p o (k x) w'.output) := by
  obtain ⟨f, hret, rfl⟩ := step_of_post hx
  generalize hq : (Program.call (S := calls) c k : Panel α) = q at h
  generalize hout : w.output = out at h
  cases h with
  | @caret done a as has =>
    obtain ⟨hgeneral, -, -, hlast⟩ := split_textAreas has
    have hcaret := ho.caret (m := m) hgeneral
      (List.mem_append_right done (List.mem_singleton_self a))
    rw [← hout] at hcaret
    cases hq
    obtain rfl : true = x := hcaret.symm.trans hret
    refine ⟨rfl, fun hthrows => Bool.noConfusion hthrows, ?_⟩
    cases as with
    | nil =>
      obtain rfl := hlast.mpr rfl
      refine .inl ⟨rfl, rfl, ?_⟩
      show Level w.output
      rw [hout, has, lined_textAreas]
      exact ho.append m
    | cons b as =>
      refine .inr ⟨fun i j => ?_, ?_⟩
      · cases a with
        | actuatorPanelOutput => cases hlast.mp rfl
        | _ => rfl
      · show Writing m p o (appendLine m (b :: as) >>= fun _ => p) w.output
        rw [hout]
        exact .area (by simpa using has) (by simp)
  | @area done a as has hdone =>
    obtain ⟨-, ha, hfirst, -⟩ := split_textAreas has
    cases hq
    refine ⟨rfl, id, .inr ⟨fun i j => ?_, ?_⟩⟩
    · cases a with
      | wsnGeneralPanelOutput => exact absurd (hfirst.mp rfl) hdone
      | _ => rfl
    · have hput : (w.sayOn a m).output = lined (done ++ [a]) m o := by
        rw [← lined_concat ha, ← hout]
        rfl
      show Writing m p o _ (w.sayOn a m).output
      rw [hput]
      exact .caret has

/-- A thread between two lines, which puts whole lines as long as it is answered as in `A`. -/
def Idle (A : (c : Call) → c.Ret → Prop) (q : Panel α) : Prop :=
  ∃ p, q = withCarets p ∧ WholeLines A p

omit [DecidableEq ι] in
/-- **Step** of a thread between two lines: it begins a line, or makes a call that is no part of
one. -/
theorem Idle.move (hA : ∀ m, A (.append m) ()) {c : Call} {k : c.Ret → Panel α}
    (h : Idle A (.call c k)) :
    (c.ofLine = false ∧ (∀ m, c ≠ .append m) ∧ ∀ x, A c x → Idle A (k x)) ∨
      ∃ m p, Idle A p ∧ c = .appendArea .wsnGeneralPanelOutput m ∧
        ∀ x o, Writing m p o (k x) (lined [.wsnGeneralPanelOutput] m o) := by
  obtain ⟨p, hq, hp⟩ := h
  cases p with
  | pure a => cases hq
  | raise e => cases hq
  | call c₀ k₀ =>
    obtain ⟨hline, hnext⟩ := hp () trivial
    cases hbody : statements c₀ with
    | none =>
      rw [withCarets, Program.expand_none hbody] at hq
      cases hq
      exact .inl ⟨hline, statements_eq_none.mp hbody, fun x hx =>
        ⟨k₀ x, rfl, fun u _ => hnext x u hx⟩⟩
    | some body =>
      cases c₀ with
      | append m =>
        cases hbody
        rw [withCarets, Program.expand_some rfl] at hq
        cases hq
        refine .inr ⟨m, withCarets (k₀ ()), ⟨k₀ (), rfl, fun u _ => hnext () u (hA m)⟩, rfl, ?_⟩
        exact fun x o => @Writing.caret _ m _ o [] _ _ rfl
      | _ => cases hbody

/-- After the moves `l` the areas are level and all threads idle, or one thread is in a line. -/
def Printing (A : (c : Call) → c.Ret → Prop) (l : List (Move ι calls World)) (ps : ι → Panel α)
    (w : World) : Prop :=
  match writer l with
  | none => Level w.output ∧ ∀ i, Idle A (ps i)
  | some j => (∃ m p o, Level o ∧ Idle A p ∧ Writing m p o (ps j) w.output) ∧
      ∀ i, i ≠ j → Idle A (ps i)

/-- **Step** of the pool. -/
theorem Printing.move (hA : ∀ m, A (.append m) ()) {ps : ι → Panel α} {i : ι} {c : Call}
    {k : c.Ret → Panel α} {x : c.Ret} (h : Printing A l ps w) (hi : ps i = .call c k)
    (hx : (under col may).post c w x w') (hAx : A c x)
    (hone : c.ofLine = true → ∀ j, writer l = some j → i = j) :
    ¬ CaretThrows (⟨w, c, x⟩ : Event calls World) ∧
      Printing A (l ++ [⟨⟨w, c, x⟩, i⟩]) (Function.update ps i (k x)) w' := by
  have hupdate : ∀ {P : ι → Prop} {q : Panel α}, (P i → Idle A q) → (∀ j, P j → Idle A (ps j)) →
      ∀ j, P j → Idle A (Function.update ps i q j) := fun {P q} hq hps =>
    (Function.forall_update_iff ps fun j q => P j → Idle A q).mpr ⟨hq, fun j _ => hps j⟩
  unfold Printing at h ⊢
  rw [writer_concat]
  cases hwriter : writer l with
  | none =>
    rw [hwriter] at h
    obtain ⟨hw, hidle⟩ := h
    rcases (hi ▸ hidle i).move hA with ⟨hline, -, hnext⟩ | ⟨m, p, hp, rfl, hwriting⟩
    · refine ⟨not_caretThrows hline, ?_⟩
      rw [writerAfter_of_ofLine hline]
      refine ⟨level_of_post hline hw hx, fun j => ?_⟩
      exact hupdate (P := fun _ => True) (fun _ => hnext x hAx) (fun j _ => hidle j) j trivial
    · refine ⟨id, ⟨m, p, w.output, hw, hp, ?_⟩, hupdate (absurd rfl) fun j _ => hidle j⟩
      obtain ⟨f, -, rfl⟩ := step_of_post hx
      show Writing m p w.output _ (w.sayOn .wsnGeneralPanelOutput m).output
      have hput : (w.sayOn .wsnGeneralPanelOutput m).output =
          lined [.wsnGeneralPanelOutput] m w.output := by
        rw [← List.nil_append [_], ← lined_concat List.not_mem_nil, lined_nil]
        rfl
      rw [Function.update_self, hput]
      exact hwriting x w.output
  | some j =>
    rw [hwriter] at h
    obtain ⟨⟨m, p, o, ho, hp, hwriting⟩, hidle⟩ := h
    by_cases hij : i = j
    · -- The thread goes on with its line.
      subst hij
      rw [hi] at hwriting
      obtain ⟨-, hcaret, ⟨rfl, hdone, hlevel⟩ | ⟨hstays, hwriting⟩⟩ := hwriting.move ho hx
      · refine ⟨hcaret, hlevel, fun j => ?_⟩
        by_cases hj : j = i
        · subst hj
          rw [Function.update_self, hdone]
          exact hp
        · exact hupdate (absurd rfl) hidle j hj
      · rw [hstays]
        refine ⟨hcaret, ⟨m, p, o, ho, hp, ?_⟩, hupdate (absurd rfl) hidle⟩
        rw [Function.update_self]
        exact hwriting
    · -- Another thread makes a call that is no part of a line.
      rcases (hi ▸ hidle i hij).move hA with ⟨hline, happend, hnext⟩ | ⟨m', p', -, rfl, -⟩
      · refine ⟨not_caretThrows hline, ?_⟩
        rw [writerAfter_of_ofLine hline]
        refine ⟨⟨m, p, o, ho, hp, ?_⟩, hupdate (fun _ => hnext x hAx) hidle⟩
        obtain ⟨f, -, rfl⟩ := step_of_post hx
        rw [Function.update_of_ne (Ne.symm hij), step_output hline happend]
        exact hwriting
      · exact absurd (hone rfl j hwriter) hij

/-- **Carets.** Threads that put whole lines on level areas, one line at a time, set every caret. -/
theorem interleaving_carets {ps ps' : ι → Panel α} (hA : ∀ m, A (.append m) ())
    (h : Interleaving (under col may) (fun i => withCarets (ps i)) w l ps' w')
    (hps : ∀ i, WholeLines A (ps i)) (hl : ∀ m ∈ l, A m.call m.ret) (hone : OneByOne l)
    (hw : Level w.output) : ∀ m ∈ l, ¬ CaretThrows m.toEvent := by
  suffices hmoves : (∀ m ∈ l, ¬ CaretThrows m.toEvent) ∧ Printing A l ps' w' from hmoves.1
  induction h with
  | nil => exact ⟨by simp, hw, fun i => ⟨ps i, rfl, hps i⟩⟩
  | @move l ps' w' w'' i c k x h hi hx ih =>
    obtain ⟨hbefore, hlast⟩ := stepwise_concat.mp hone
    obtain ⟨hcarets, hprinting⟩ := ih (fun m hm => hl m (List.mem_append_left _ hm)) hbefore
    obtain ⟨hcaret, hafter⟩ := hprinting.move hA hi hx
      (hl _ (List.mem_append_right _ (List.mem_singleton_self _))) hlast
    refine ⟨fun m hm => ?_, hafter⟩
    rcases List.mem_append.mp hm with hm | hm
    · exact hcarets m hm
    · obtain rfl := List.mem_singleton.mp hm
      exact hcaret

/-- The scan for lines that overlap, the thread `i` being half way through one. -/
def scanLines (i : Option ι) : List (Move ι calls World) → Bool
  | [] => true
  | m :: l => (!m.call.ofLine || i.all (· == m.thread)) && scanLines (writerAfter i m) l

theorem oneByOne_of_scan {l' : List (Move ι calls World)} (hl : OneByOne l)
    (h : scanLines (writer l) l' = true) : OneByOne (l ++ l') := by
  induction l' generalizing l with
  | nil => rwa [List.append_nil]
  | cons m l' ih =>
    obtain ⟨hm, hrest⟩ := Bool.and_eq_true_iff.mp h
    rw [← writer_concat] at hrest
    have hconcat : OneByOne (l ++ [m]) := by
      refine stepwise_concat.mpr ⟨hl, fun hline i hi => ?_⟩
      have hthread : i = m.thread := by simpa [hline, hi] using hm
      exact hthread.symm
    have := ih hconcat hrest
    rwa [List.append_assoc, List.singleton_append] at this

end Threads

end CrossingReality
