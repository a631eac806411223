import CrossingReality.Failures
import CrossingReality.Ownership

/-!
# The divisor

`HTTPPOSTForward` divides by `max - min`, an `int`, with the bounds that it finds stored when
`sensed` is through with calibrating. The very reading it forwards may be what the bounds come
from, and then the divisor is 0; and bounds of either sign can lie further apart than an `int`
reaches.

* `wp_sensed_posting` — what a reading asks a connection for, whatever fails.
* `session_divides_iff` — the readings of a run whose divisor is as it should be.
-/

namespace CrossingReality

open Effects

variable {col : Collation} {id type : String} {value : Int32}

/-! ## Bounds that lie apart -/

/-- The bounds stored for a sensor. -/
def World.boundsOf (w : World) (col : Collation) (id type : String) : Option Bounds :=
  ((Query.bounds id type).run col w.database).head?

/-- The bounds stored for a sensor once a reading of it is through with calibrating. -/
def World.widened (w : World) (col : Collation) (id type : String) (value : Int32) :
    Option Bounds :=
  (w.boundsOf col id type).map fun b =>
    if w.checked .wsnSensorsCalibrateCheck then calibrated value b else b

/-- Both bounds are stored, apart, and by no more than an `int` can say. -/
def Bounds.apart (b : Bounds) : Bool :=
  match b.max, b.min with
  | some max, some min => min < max && max.toInt - min.toInt < 2 ^ 31
  | _, _ => false

/-- Both bounds are stored for a sensor, and a reading leaves them apart: itself as the one it goes
beyond, if *Calibrate* is ticked. -/
def World.roomFor (w : World) (col : Collation) (id type : String) (value : Int32) : Bool :=
  match w.boundsOf col id type with
  | some ⟨some max, some min⟩ =>
    let ticked := w.checked .wsnSensorsCalibrateCheck
    let hi := if ticked = true ∧ max < value then value else max
    let lo := if ticked = true ∧ value < min then value else min
    (⟨some hi, some lo⟩ : Bounds).apart
  | _ => false

/-- There is room for a reading where the bounds it leaves are apart. -/
theorem roomFor_eq (w : World) (col : Collation) (id type : String) (value : Int32) :
    w.roomFor col id type value = (w.widened col id type value).any Bounds.apart := by
  rw [World.roomFor, World.widened]
  cases w.boundsOf col id type with
  | none => rfl
  | some b =>
    obtain ⟨max, min⟩ := b
    rw [Option.map_some, Option.any_some]
    cases w.checked .wsnSensorsCalibrateCheck <;> cases max <;> cases min <;>
      simp [calibrated, Bounds.apart]

/-- The divisor for these bounds did not wrap around, is positive, and gave a number from 0 to
1. -/
def DividesRight (min max : Int32) (x : JDouble) : Prop :=
  (max - min).toInt = max.toInt - min.toInt ∧ 0 < (max - min).toInt ∧
    ∃ q, x = .num q ∧ 0 ≤ q ∧ q ≤ 1

theorem clamp_mem (q : ℚ) : 0 ≤ clamp q ∧ clamp q ≤ 1 := by
  unfold clamp
  split
  · exact ⟨zero_le_one, le_rfl⟩
  · split
    · exact ⟨le_rfl, zero_le_one⟩
    · exact ⟨not_lt.mp ‹_›, not_lt.mp ‹_›⟩

/-- Where the divisor is not 0, a number is sent. -/
theorem scaled_eq_clamp {min max : Int32} (h : (max - min).toInt ≠ 0) :
    scaled value ⟨some max, some min⟩ = .num (clamp (value.toInt / (max - min).toInt)) := by
  simp only [scaled, divInt_of_ne_zero _ h, JDouble.gtOne, clamp]
  generalize (value.toInt / (max - min).toInt : ℚ) = x
  by_cases habove : 1 < x
  · simp [habove, JDouble.ltZero]
  by_cases hbelow : x < 0
  · simp [habove, hbelow, JDouble.ltZero]
  · simp [habove, hbelow, JDouble.ltZero]

theorem dividesRight_iff {min max : Int32} :
    DividesRight min max (scaled value ⟨some max, some min⟩) ↔
      (⟨some max, some min⟩ : Bounds).apart = true := by
  simp only [Bounds.apart, Bool.and_eq_true, decide_eq_true_eq]
  constructor
  · rintro ⟨hexact, hpos, -⟩
    have := (max - min).toInt_lt
    exact ⟨Int32.lt_iff_toInt_lt.mpr (by omega), by omega⟩
  · rintro ⟨hlt, hnear⟩
    have hexact : (max - min).toInt = max.toInt - min.toInt := by
      rw [toInt_sub_eq_wrap hlt, wrap, if_pos hnear]
    have hpos : 0 < (max - min).toInt := by
      have := Int32.lt_iff_toInt_lt.mp hlt
      omega
    exact ⟨hexact, hpos, _, scaled_eq_clamp hpos.ne', clamp_mem _⟩

/-! ## What a reading posts -/

/-- The POST that a call asks a connection for. -/
def posted (e : Event calls World) : Option Post :=
  match e.call with
  | .http .openConnection p => some p
  | _ => none

/-- The calls that ask for no connection. -/
def Call.unposting (c : Call) : Prop := ∀ p, c ≠ .http .openConnection p

theorem posted_of_unposting (e : Event calls World) (h : Call.unposting e.call) :
    (posted e).isSome = false := by
  unfold posted
  split
  · exact absurd ‹_› (h _)
  · rfl

theorem unposting_of_redraws (c : Call) (hc : c.redraws fun _ => True) : c.unposting := by
  rintro p rfl
  exact hc

/-- The call asks for a reading to be sent, scaled to the bounds that are stored then, and these
are the ones the reading left. -/
def Posting (col : Collation) (w : World) (id type : String) (value : Int32)
    (e : Event calls World) : Prop :=
  ∀ p, posted e = some p → ∃ b, p.payload = ⟨id, type, scaled value b⟩ ∧
    e.before.boundsOf col id type = some b ∧ w.widened col id type value = some b

/-- A record of readings that were sent. -/
def Postings (col : Collation) (w : World) (id type : String) (value : Int32)
    (s : World × List (Event calls World)) : Prop := ∀ e ∈ s.2, Posting col w id type value e

section Posting

variable {may : Call → Prop} {w w₁ : World} {α : Type} {p : Panel α}

/-- The world beside the POSTs that were asked for. -/
abbrev postings (col : Collation) (may : Call → Prop) :
    Contract calls (World × List (Event calls World)) :=
  (under col may).recording fun e => (posted e).isSome

/-- A part that asks for no connection leaves the record alone. -/
theorem wp_unposting {R : Exn → Prop} {t : List (Event calls World)}
    {Q : α → World × List (Event calls World) → Prop}
    {E : Exn → World × List (Event calls World) → Prop} (hp : p.Uses Call.unposting R)
    (h : ∀ a w', Q a (w', t)) (h' : ∀ e w', R e → E e (w', t)) :
    wp (postings col may) p Q E (w₁, t) := by
  refine wp_recording_of_dull hp posted_of_unposting ?_
  have hends := wp_of_uses (K := under col may) (s := w₁) (I := fun _ => True) hp
    (fun _ _ _ _ => ⟨trivial, fun _ _ _ => trivial⟩) (trivial : True)
  exact hends.mono (fun a w' _ => h a w') fun e w' he => h' e w' he.1

theorem wp_redraws_posting {t : List (Event calls World)}
    {Q : α → World × List (Event calls World) → Prop}
    {E : Exn → World × List (Event calls World) → Prop} (hp : Redraws (fun _ => True) p)
    (h : wp (under col may) p (fun a w' => Q a (w', t)) (fun e w' => E e (w', t)) w₁) :
    wp (postings col may) p Q E (w₁, t) :=
  wp_recording_of_dull (hp.uses (R := fun _ => True) unposting_of_redraws) posted_of_unposting h

/-- Only the first of the calls that send a POST is recorded. -/
theorem wp_sendPost_posting {p : Post} {t : List (Event calls World)}
    {Q : Bool → World × List (Event calls World) → Prop}
    {E : Exn → World × List (Event calls World) → Prop}
    (h : ∀ ok x w', Q ok (w', t ++ [⟨w₁, .http .openConnection p, x⟩])) :
    wp (postings col may) (sendPost p postCalls) Q E (w₁, t) := by
  have hcalls : postCalls = (.openConnection, .postConnectProblem) :: postCalls.tail := rfl
  rw [hcalls]
  simp only [sendPost, wp_bind]
  rw [wp_call_recording]
  intro f _
  refine wp_unposting (R := fun _ => False) ?_ (fun ok w' => h ok _ w') fun _ _ he => he.elim
  refine Program.uses_ite _ ?_ ?_
  · simp [appendToOutput, Call.unposting]
  · simp [postCalls, sendPost, appendToOutput, Call.unposting]

variable [Jdk]

theorem wp_HTTPPOSTForward_posting {address : String}
    (h : w₁.boundsOf col id type = w.widened col id type value) :
    wp (postings col may) (HTTPPOSTForward id type value address)
      (fun _ => Postings col w id type value) (fun _ => Postings col w id type value)
      (w₁, []) := by
  simp only [HTTPPOSTForward, wp_bind]
  refine wp_redraws_posting (redraws_readBounds id type) ?_
  refine wp_readBounds (fun q₁ => ?_) fun _ q => by simp [Postings]
  have hb : ((Query.bounds id type).run col w₁.database).head? = w.widened col id type value := h
  cases hw : w.widened col id type value with
  | none =>
    simp only [hb, hw]
    exact fun e he => by simp at he
  | some b =>
    simp only [hb, hw, wp_bind]
    refine wp_redraws_posting (redraws_scaleValue value b) ?_
    refine wp_scaleValue_under fun q₂ => wp_sendPost_posting fun ok x w₂ => ?_
    have hposting : Postings col w id type value (w₂, [⟨w₁.quietly q₂,
        .http .openConnection ⟨address, ⟨id, type, scaled value b⟩⟩, x⟩]) := by
      rintro e he p hp
      obtain rfl := List.mem_singleton.mp he
      obtain rfl := Option.some_inj.mp hp
      exact ⟨b, rfl, h.trans hw, hw⟩
    refine wp_unposting (R := fun _ => True) ?_ (fun _ _ => hposting)
      fun _ _ _ => hposting
    cases ok <;> simp [appendToOutput, Call.unposting]

theorem wp_forwardReading_posting {addresses : List String}
    (h : w₁.boundsOf col id type = w.widened col id type value) :
    wp (postings col may) (forwardReading id type value addresses)
      (fun _ => Postings col w id type value) (fun _ => Postings col w id type value)
      (w₁, []) := by
  have hnone : ∀ w', Postings col w id type value (w', []) := fun w' e he => by simp at he
  simp only [forwardReading, wp_bind]
  refine wp_redraws_posting (redraws_appendToOutput _) ?_
  simp only [wp_appendToOutput, isSelected]
  rw [wp_call_recording]
  intro f _
  refine (wp_ite _ _ _).mpr ⟨fun _ => ?_, fun _ => ?_⟩
  · exact wp_unposting (R := fun _ => True) (by simp [appendToOutput, Call.unposting])
      (fun _ => hnone) fun _ w' _ => hnone w'
  cases addresses.head? with
  | none =>
    exact wp_unposting (R := fun _ => True) (by simp [appendToOutput, Call.unposting])
      (fun _ => hnone) fun _ w' _ => hnone w'
  | some address =>
    simp only [wp_bind]
    refine wp_redraws_posting (redraws_appendToOutput _) ?_
    exact (wp_appendToOutput _).mpr (wp_HTTPPOSTForward_posting h)

omit [Jdk] in
/-- Calibrating leaves the widened bounds. -/
theorem boundsOf_calibration {url : String} {b : Bounds} (hw : w.mysql .mysqlAddress = some url)
    (hb : w.boundsOf col id type = some b) :
    (w.withDatabase url ((calibration id type value b).foldl (Database.apply col)
      w.database)).boundsOf col id type = some (calibrated value b) := by
  obtain ⟨f, hf, hfb⟩ := foldl_calibration col id type w.database value b
  rw [World.boundsOf, World.withDatabase_database hw, hf, Database.run_bounds_mapBounds,
    List.head?_map, ← hfb]
  exact congrArg (Option.map f) hb

/-- A reading of a registered sensor, of a node that was looked up. -/
theorem wp_recognisedSensor_posting {addresses : List String} (hchecked : w₁.checked = w.checked)
    (hb : w₁.boundsOf col id type = w.boundsOf col id type) :
    wp (postings col may) (recognisedSensor id type value addresses)
      (fun _ => Postings col w id type value) (fun _ => Postings col w id type value)
      (w₁, []) := by
  have hnone : ∀ w', Postings col w id type value (w', []) := fun w' e he => by simp at he
  simp only [recognisedSensor, wp_bind]
  refine wp_recording_of_dull (uses_calibrateIfTicked unposting_of_redraws nofun
    (fun _ _ _ => nofun) value) posted_of_unposting ?_
  simp only [calibrateIfTicked, wp_bind, wp_isSelected, hchecked]
  refine (wp_ite _ _ _).mpr ⟨fun hon => ?_, fun hoff => ?_⟩
  · cases hbounds : w.boundsOf col id type with
    | none =>
      have hhead : ((Query.bounds id type).run col w₁.database).head? = none := hb.trans hbounds
      rw [calibrate, wp_bind]
      refine wp_readBounds (fun q => ?_) fun _ q => hnone _
      simp only [hhead]
      exact hnone _
    | some b =>
      cases hurl : w₁.mysql .mysqlAddress with
      | none =>
        have : w₁.boundsOf col id type = none := by
          simp [World.boundsOf, World.database, hurl, Database.empty, Query.run]
        rw [this, hbounds] at hb
        cases hb
      | some url =>
        rw [hbounds] at hb
        refine wp_calibrate (fun _ w' => hnone w') hurl hb fun t q _ => ?_
        refine wp_forwardReading_posting ?_
        rw [World.widened, hbounds, Option.map_some, if_pos hon]
        exact boundsOf_calibration hurl hb
  · refine wp_forwardReading_posting ?_
    rw [hb, World.widened]
    simp [hoff]

/-- A reading of a registered node. -/
theorem wp_recognisedNode_posting {connect : Connection} {addresses : List String}
    (hchecked : w₁.checked = w.checked)
    (hb : w₁.boundsOf col id type = w.boundsOf col id type) :
    wp (postings col may) (recognisedNode id type value connect addresses)
      (fun _ => Postings col w id type value) (fun _ => Postings col w id type value)
      (w₁, []) := by
  have hnone : ∀ w', Postings col w id type value (w', []) := fun w' e he => by simp at he
  have hquiet : ∀ p : Panel Bool, p.Uses Call.unposting (fun _ => True) → ∀ w',
      wp (postings col may) p (fun _ => Postings col w id type value)
        (fun _ => Postings col w id type value) (w', []) := fun p hp w' =>
    wp_unposting hp (fun _ => hnone) fun _ w' _ => hnone w'
  simp only [recognisedNode, wp_bind]
  refine wp_redraws_posting (redraws_appendToOutput _) ?_
  rw [wp_appendToOutput]
  refine wp_redraws_posting (redraws_lookUpTypes id) ?_
  refine wp_redraws (S := fun _ => True) (redraws_lookUpTypes id) fun types t₁ c₁ q₁ _ => ?_
  cases types with
  | none => exact hnone _
  | some types =>
    simp only [wp_bind]
    refine wp_redraws_posting (redraws_closeConnection _) (wp_closeConnection fun q₂ => ?_)
    refine (wp_ite _ _ _).mpr ⟨fun _ => wp_recognisedSensor_posting hchecked hb, fun _ => ?_⟩
    simp only [isSelected, wp_bind]
    rw [wp_call_recording]
    intro f₁ _
    refine (wp_ite _ _ _).mpr ⟨fun _ => ?_, fun _ => ?_⟩
    · exact hquiet _ (by simp [appendToOutput, Call.unposting]) _
    simp only [wp_bind]
    rw [wp_call_recording]
    intro f₂ _
    refine (wp_ite _ _ _).mpr ⟨fun _ => ?_, fun _ => wp_recognisedSensor_posting hchecked hb⟩
    refine hquiet _ (.bind ?_ fun _ => by trivial) _
    exact uses_unrecognisedSensor unposting_of_redraws (by simp [Call.unposting])
      (by simp [Call.unposting])

/-- **A reading.** Whatever fails, what it asks a connection for is the reading, scaled to the
bounds that it left. -/
theorem wp_sensed_posting :
    wp (postings col may) (sensed id type value) (fun _ => Postings col w id type value)
      (fun _ => Postings col w id type value) (w, []) := by
  have hnone : ∀ w', Postings col w id type value (w', []) := fun w' e he => by simp at he
  simp only [sensed, wp_bind]
  refine wp_redraws_posting (redraws_lookUpNode id) ?_
  refine wp_redraws (S := fun _ => True) (redraws_lookUpNode id) fun found t₁ c₁ q₁ _ => ?_
  cases found with
  | none => exact hnone _
  | some found =>
    obtain ⟨connect, ids, addresses⟩ := found
    refine (wp_ite _ _ _).mpr ⟨fun _ => ?_, fun _ => wp_recognisedNode_posting rfl rfl⟩
    exact wp_unposting (.bind (uses_unrecognisedNode unposting_of_redraws (fun _ => nofun) nofun
      nofun (fun _ => nofun) connect) fun _ => trivial) (fun _ => hnone) fun _ w' _ => hnone w'

end Posting

/-! ## The readings of a run -/

/-- **Divisors.** Take any run, whatever fails in it, any reading of it, and a connection it asks
for where both bounds of the sensor are stored. The reading was scaled to those, and the divisor
was as it should be if and only if there was room for the reading. -/
theorem session_divides_iff [Jdk] {w₀ w' : World} {ts : List PanelTurn}
    (h : Session (under col anyFault) Action.program w₀ ts w') {t : PanelTurn}
    (ht : t ∈ ts) (hreading : t.action = .reading id type value) {e : Event calls World}
    (he : e ∈ t.trace) {p : Post} (hp : posted e = some p) {max min : Int32}
    (hb : e.before.boundsOf col p.payload.id p.payload.type = some ⟨some max, some min⟩) :
    p.payload.value = scaled value ⟨some max, some min⟩ ∧
      (DividesRight min max p.payload.value ↔ t.before.roomFor col id type value = true) := by
  obtain ⟨ts₁, ts₂, rfl⟩ := List.append_of_mem ht
  obtain ⟨-, hrun⟩ := h.split
  rw [hreading] at hrun
  have hwp : wp (postings col anyFault) (Action.reading id type value).program
      (fun _ => Postings col t.before id type value) (fun _ => Postings col t.before id type value)
      (t.before, []) := by
    simp only [Action.program, wp_bind]
    exact wp_sensed_posting.mono (fun _ _ h => h) fun _ _ h => h
  have hend := hrun.of_recording hwp
  obtain ⟨b, hpayload, hstored, hleft⟩ :=
    hend e (List.mem_filter.mpr ⟨he, by rw [hp]; rfl⟩) p hp
  rw [hpayload, hstored] at hb
  obtain rfl := Option.some_inj.mp hb
  rw [hpayload, roomFor_eq, hleft]
  exact ⟨rfl, by simpa using dividesRight_iff⟩

/-! ## Readings from start-up -/

/-- The window once start-up has read the file, over a registry with one sensor that is not
calibrated. -/
def uncalibratedWindow : World :=
  ((machine .exact).play .fine startUp [] (.launched
    (fun _ => ⟨[⟨"1", some "http://vw"⟩], [⟨"1", "light", none, none⟩], []⟩)
    (some "jdbc:mysql://db,user,pass"))).2.2

/-- The turns of some actions on that window, nothing failing. -/
def uncalibratedTurns (as : List (Action × List Fate)) : List PanelTurn :=
  (machine .exact).turns .fine (@Action.program plainJdk) as uncalibratedWindow

theorem session_uncalibratedTurns (as : List (Action × List Fate)) :
    Session (under .exact anyFault) (@Action.program plainJdk) uncalibratedWindow
      (uncalibratedTurns as)
      ((machine .exact).endOf .fine (@Action.program plainJdk) as uncalibratedWindow) :=
  Machine.session_turns (fun _ _ _ => by trivial) (fun _ _ _ _ _ _ => by exact fun _ => trivial)
    .nil

/-- Calibrate the sensor with these readings. -/
def calibrateWith (values : List Int32) : List (Action × List Fate) :=
  (.tick .wsnSensorsCalibrateCheck true, []) ::
    values.map fun v => (.reading "1" "light" v, [])

/-- The last of the actions, its POST, and the bounds that was scaled to. -/
def lastPosted (as : List (Action × List Fate)) : Option (Action × Post × Option Bounds) :=
  (uncalibratedTurns as).getLast?.bind fun t =>
    (t.trace.find? fun e => (posted e).isSome).bind fun e =>
      (posted e).map fun p => (t.action, p, e.before.boundsOf .exact p.payload.id p.payload.type)

theorem exists_lastPosted {as : List (Action × List Fate)} {a : Action} {p : Post}
    {b : Option Bounds} (h : lastPosted as = some (a, p, b)) :
    ∃ t ∈ uncalibratedTurns as, t.action = a ∧ ∃ e ∈ t.trace, posted e = some p ∧
      e.before.boundsOf .exact p.payload.id p.payload.type = b := by
  obtain ⟨t, ht, h⟩ := Option.bind_eq_some_iff.mp h
  obtain ⟨e, he, h⟩ := Option.bind_eq_some_iff.mp h
  obtain ⟨p', hp, h⟩ := Option.map_eq_some_iff.mp h
  obtain ⟨rfl, rfl, rfl⟩ : t.action = a ∧ p' = p ∧ _ = b := by simpa using h
  exact ⟨t, List.mem_of_getLast? ht, rfl, e, List.mem_of_find?_eq_some he, hp, rfl⟩

/-- The first reading of a sensor is both its bounds, and is forwarded at once. -/
theorem not_always_dividesRight : ¬ ∀ (jdk : Jdk) (col : Collation)
    (servers : String → Database) (details : Option String) (l : List (Event calls World))
    (r : Except Exn Unit) (w₀ w' : World) (ts : List PanelTurn),
    Runs (under col anyFault) startUp (.launched servers details) l r w₀ →
    Session (under col anyFault) (@Action.program jdk) w₀ ts w' → ∀ t ∈ ts,
    ∀ (id type : String) (value : Int32), t.action = .reading id type value → ∀ e ∈ t.trace,
    ∀ p, posted e = some p → ∀ max min : Int32,
    e.before.boundsOf col p.payload.id p.payload.type = some ⟨some max, some min⟩ →
    DividesRight min max p.payload.value := by
  intro h
  have hlast : lastPosted (calibrateWith [5]) = some (.reading "1" "light" 5,
      ⟨"http://vw", ⟨"1", "light", .num 1⟩⟩, some ⟨some 5, some 5⟩) := by decide +kernel
  obtain ⟨t, ht, haction, e, he, hp, hb⟩ := exists_lastPosted hlast
  have hright := h plainJdk .exact _ _ _ _ _ _ _ (runs_play_under startUp [] _ (by simp) _)
    (session_uncalibratedTurns (calibrateWith [5])) t ht "1" "light" 5 haction e he _ hp 5 5 hb
  exact absurd hright.2.1 (by decide)

/-- Two readings that differ leave room. -/
theorem twoReadings_divides : ∃ t ∈ uncalibratedTurns (calibrateWith [5, 15]), ∃ e ∈ t.trace, ∃ p,
    posted e = some p ∧ p.payload.value = scaled 15 ⟨some 15, some 5⟩ ∧
      (DividesRight 5 15 p.payload.value ↔ t.before.roomFor .exact "1" "light" 15 = true) := by
  have hlast : lastPosted (calibrateWith [5, 15]) = some (.reading "1" "light" 15,
      ⟨"http://vw", ⟨"1", "light", .num 1⟩⟩, some ⟨some 15, some 5⟩) := by decide +kernel
  obtain ⟨t, ht, haction, e, he, hp, hb⟩ := exists_lastPosted hlast
  exact ⟨t, ht, e, he, _, hp, @session_divides_iff .exact "1" "light" 15 plainJdk _ _ _
    (session_uncalibratedTurns (calibrateWith [5, 15])) t ht haction e he _ hp 15 5 hb⟩

end CrossingReality
