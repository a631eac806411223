import CrossingReality.Redrawing
import CrossingReality.Scaling

/-!
# Forwarding a reading

`HTTPPOSTForward` reads the bounds, scales and posts.

* `wp_readBounds`, `wp_sendPost` — the rules for its parts.
* `HTTPPOSTForward_postsPosition_iff` — when what it posts and logs is the position of the
  reading in the calibrated range.
-/

namespace CrossingReality

open Effects

variable {col : Collation} {may : Call → Prop} {w : World} {E : Exn → World → Prop}

/-! ## Reading the bounds -/

theorem redraws_readBounds {S : ComboBox → Prop} (id type : String) :
    Redraws S (readBounds id type) := by
  refine redraws_bindOption (redraws_openStatement _) trivial fun connect => ?_
  refine redraws_bindOption (redraws_executeQuery _ _ _) trivial fun rows => ?_
  refine redraws_bindOption (redraws_readRows _ _ _) trivial fun bounds => ?_
  exact (redraws_closeConnection _).bind fun _ => trivial

theorem wp_readBounds {id type : String} {Q : Option (List Bounds) → World → Prop}
    (hok : ∀ q, Q (some ((Query.bounds id type).run col w.database)) (w.quietly q))
    (hbad : Trouble may w → ∀ q, Q none (w.quietly q)) :
    wp (under col may) (readBounds id type) Q E w := by
  simp only [readBounds, wp_bind]
  refine wp_openStatement (fun connect q₁ hurl => ?_) fun ht q => hbad ht q
  have hdb : w.database = w.servers connect.url := World.database_of_url hurl
  simp only [wp_bind]
  refine wp_executeQuery ?_ fun ht q => hbad ht q
  simp only [wp_bind]
  refine wp_readRows (fun q₂ => ?_) fun ht q => hbad ht q
  simp only [wp_bind]
  refine wp_closeConnection fun q₃ => ?_
  simpa [hdb] using hok q₃

/-! ## The lines about the bounds -/

/-- A line was written. -/
def said (l : List (Event calls World)) (m : Message) : Prop := ∃ e ∈ l, e.call = .append m

@[simp] theorem said_nil (m : Message) : ¬ said [] m := by simp [said]

@[simp] theorem said_append (l l' : List (Event calls World)) (m : Message) :
    said (l ++ l') m ↔ said l m ∨ said l' m := by
  simp [said, or_and_right, exists_or]

@[simp] theorem said_singleton (w : World) (m m' : Message) :
    said [⟨w, .append m, ()⟩] m' ↔ m = m' := by
  simp [said]

/-- The lines about the bounds. -/
def aboutBounds (e : Event calls World) : Bool :=
  match e.call with
  | .append .exceededMaximum | .append .belowMinimum => true
  | _ => false

theorem said_filter_aboutBounds {l : List (Event calls World)} {m : Message}
    (hm : m = .exceededMaximum ∨ m = .belowMinimum) :
    said (l.filter aboutBounds) m ↔ said l m := by
  have hkeep : ∀ e : Event calls World, e.call = .append m → aboutBounds e = true := by
    rintro e he
    rcases hm with rfl | rfl <;> simp [aboutBounds, he]
  simp only [said, List.mem_filter]
  exact ⟨fun ⟨e, he, hc⟩ => ⟨e, he.1, hc⟩, fun ⟨e, he, hc⟩ => ⟨e, ⟨he, hkeep e hc⟩, hc⟩⟩

/-- The calls that do not write a line about the bounds. -/
def Call.aside (c : Call) : Prop := c ≠ .append .exceededMaximum ∧ c ≠ .append .belowMinimum

theorem aboutBounds_of_aside (e : Event calls World) (h : Call.aside e.call) :
    aboutBounds e = false := by
  unfold aboutBounds
  split
  · exact absurd ‹_› h.1
  · exact absurd ‹_› h.2
  · rfl

theorem aside_readBounds (id type : String) :
    (readBounds id type).Uses Call.aside fun _ => False := by
  have hrows : ∀ (c : Connection) (rows acc : List Bounds),
      (whileNext c (fun acc row => pure (acc ++ [row])) rows acc).Uses Call.aside
        fun _ => False := by
    intro c rows
    induction rows with
    | nil => simp [whileNext, Call.aside]
    | cons row rows ih => simp [whileNext, Call.aside, ih]
  refine .bind (by simp [openStatement, appendToOutput, Call.aside, Option.forall]) ?_
  rintro (_ | connect)
  · trivial
  refine .bind (by simp [executeQuery, appendToOutput, Call.aside, Option.forall]) ?_
  rintro (_ | rows)
  · trivial
  refine .bind (.bind (hrows connect rows []) ?_) ?_
  · rintro (_ | bounds) <;> simp [appendToOutput, Call.aside]
  rintro (_ | bounds)
  · trivial
  · simp [closeConnection, appendToOutputOf, appendToOutput, Call.aside]

/-! ## Posting -/

/-- A POST that was sent, and delivered if `ok`. -/
def World.posting (w : World) (p : Post) (ok : Bool) : World :=
  { w with
    posts := w.posts ++ [p]
    delivered := if ok then w.delivered ++ [p] else w.delivered }

theorem aside_sendPost (p : Post) : (sendPost p postCalls).Uses Call.aside fun _ => False := by
  simp [postCalls, sendPost, appendToOutput, Call.aside]

theorem wp_http {c : HttpCall} {p : Post} {Q : Bool → World → Prop}
    (h : ∀ ok, Q ok (step col (.http c p) ⟨!ok, .result true⟩ w).2) :
    wp (α := Bool) (under col may) (call (.http c p)) Q E w := by
  refine (wp_call_faulty (.http c p)).mpr ⟨fun r => ?_, fun _ r => ?_⟩
  · cases c <;> exact h true
  · cases c <;> exact h false

/-- Whatever fails on the connection, the POST is on its way once it has been asked for. -/
theorem wp_sendPost {p : Post} {Q : Bool → World → Prop}
    (h : ∀ ok q, Q ok ((w.posting p ok).quietly q)) :
    wp (under col may) (sendPost p postCalls) Q E w := by
  have hrest : ∀ cs : List (HttpCall × Message), (∀ c ∈ cs, c.1 ≠ .openConnection ∧ c.1 ≠ .close) →
      ∀ m, wp (under col may) (sendPost p (cs ++ [(.close, m)])) Q E (w.posting p false) := by
    intro cs hcs m
    induction cs with
    | nil =>
      simp only [List.nil_append, sendPost, wp_bind]
      refine wp_http fun ok => ?_
      have hstep : (step col (.http .close p) ⟨!ok, .result true⟩ (w.posting p false)).2 =
          w.posting p ok := by cases ok <;> rfl
      rw [hstep]
      cases ok with
      | false => simpa using h false _
      | true => exact h true w.traffic
    | cons c cs ih =>
      obtain ⟨⟨hopen, hclose⟩, hcs'⟩ := List.forall_mem_cons.mp hcs
      obtain ⟨c, m'⟩ := c
      simp only [List.cons_append, sendPost, wp_bind]
      refine wp_http fun ok => ?_
      have hstep : (step col (.http c p) ⟨!ok, .result true⟩ (w.posting p false)).2 =
          w.posting p false := by
        cases c <;> first | rfl | contradiction
      rw [hstep]
      cases ok with
      | false => simpa using h false _
      | true => simpa using ih hcs'
  have hcalls : postCalls = (.openConnection, .postConnectProblem) ::
      (postCalls.tail.dropLast ++ [(.close, .postCloseProblem)]) := rfl
  rw [hcalls]
  simp only [sendPost, wp_bind]
  refine wp_http fun ok => ?_
  have hstep : (step col (.http .openConnection p) ⟨!ok, .result true⟩ w).2 =
      w.posting p false := rfl
  rw [hstep]
  cases ok with
  | false => simpa using h false _
  | true => simpa using hrest postCalls.tail.dropLast (by simp [postCalls]) .postCloseProblem

/-! ## Scaling -/

theorem divInt_of_ne_zero (v : ℤ) {d : ℤ} (hd : d ≠ 0) :
    (JDouble.num v).divInt d = .num (v / d) := if_neg hd

/-- The world, and the lines about the bounds so far. -/
abbrev Remarks := World × List (Event calls World)

theorem wp_remark {m : Message} {t : List (Event calls World)} {Q : Unit → Remarks → Prop}
    {E : Exn → Remarks → Prop} (hm : aboutBounds ⟨w, .append m, ()⟩ = true)
    (h : Q () (w.quietly (w.traffic.say m), t ++ [⟨w, .append m, ()⟩])) :
    wp ((under col may).recording aboutBounds) (appendToOutput m) Q E (w, t) := by
  refine ⟨trivial, ?_⟩
  rintro _ ⟨w', t'⟩ ⟨⟨_, _, hs⟩, rfl : t' = _⟩
  cases hs
  rw [List.filter_singleton, hm]
  exact h

theorem wp_clampAbove {x : ℚ} {t : List (Event calls World)} {Q : JDouble → Remarks → Prop}
    {E : Exn → Remarks → Prop}
    (habove : 1 < x → ∀ q, Q (.num 1) (w.quietly q, t ++ [⟨w, .append .exceededMaximum, ()⟩]))
    (hin : ¬ 1 < x → Q (.num x) (w, t)) :
    wp ((under col may).recording aboutBounds) (clampAbove (.num x)) Q E (w, t) := by
  by_cases h : 1 < x
  · simp only [clampAbove, JDouble.gtOne, h, decide_true, if_true, wp_bind, wp_pure]
    exact wp_remark rfl (habove h _)
  · simpa [clampAbove, JDouble.gtOne, h] using hin h

theorem wp_clampBelow {x : ℚ} {t : List (Event calls World)} {Q : JDouble → Remarks → Prop}
    {E : Exn → Remarks → Prop}
    (hbelow : x < 0 → ∀ q, Q (.num 0) (w.quietly q, t ++ [⟨w, .append .belowMinimum, ()⟩]))
    (hin : ¬ x < 0 → Q (.num x) (w, t)) :
    wp ((under col may).recording aboutBounds) (clampBelow (.num x)) Q E (w, t) := by
  by_cases h : x < 0
  · simp only [clampBelow, JDouble.ltZero, h, decide_true, if_true, wp_bind, wp_pure]
    exact wp_remark rfl (hbelow h _)
  · simpa [clampBelow, JDouble.ltZero, h] using hin h

/-- A reading with both bounds: the number sent, and the lines about it. -/
theorem wp_scaleValue {value min max : Int32} {t : List (Event calls World)} (hlt : min < max)
    {Q : JDouble → Remarks → Prop} {E : Exn → Remarks → Prop}
    (h : ∀ q l, (said l .exceededMaximum ↔ 1 < quotient min.toInt max.toInt value.toInt) →
      (said l .belowMinimum ↔ quotient min.toInt max.toInt value.toInt < 0) →
        Q (.num (clamp (quotient min.toInt max.toInt value.toInt))) (w.quietly q, t ++ l)) :
    wp ((under col may).recording aboutBounds) (scaleValue value ⟨some max, some min⟩) Q E
      (w, t) := by
  have hd : wrap (max.toInt - min.toInt) ≠ 0 := by
    have := Int32.lt_iff_toInt_lt.mp hlt
    have := min.le_toInt
    have := max.toInt_lt
    unfold wrap
    split <;> omega
  simp only [scaleValue, wp_bind, toInt_sub_eq_wrap hlt, divInt_of_ne_zero _ hd]
  change wp _ (clampAbove (.num (quotient min.toInt max.toInt value.toInt))) _ _ _
  generalize quotient min.toInt max.toInt value.toInt = x at h ⊢
  refine wp_clampAbove (fun h₁ q => ?_) fun h₁ => ?_
  · refine wp_clampBelow (fun h₀ => absurd h₀ zero_le_one.not_gt) fun _ => ?_
    rw [← clamp_of_one_lt h₁]
    exact h q _ (by simp [h₁]) (by simp [(one_pos.trans h₁).not_gt])
  · refine wp_clampBelow (fun h₀ q => ?_) fun h₀ => ?_
    · rw [← clamp_of_neg h₀]
      exact h q _ (by simp [h₁]) (by simp [h₀])
    · have hc : clamp x = x := by rw [clamp, if_neg h₁, if_neg h₀]
      simpa [h₁, h₀, hc] using h w.traffic []

@[simp] theorem posting_quietly (w : World) (q : Traffic) (p : Post) (ok : Bool) :
    (w.quietly q).posting p ok = (w.posting p ok).quietly q := rfl

@[simp] theorem posting_redrawn (w : World) (t : TextField → String) (c : ComboBox → Combo)
    (q : Traffic) (p : Post) (ok : Bool) :
    (w.redrawn t c q).posting p ok = (w.posting p ok).redrawn t c q := rfl

section Forward

variable [Jdk]

/-- What `HTTPPOSTForward` posts for a calibrated sensor, if it gets that far. -/
theorem wp_HTTPPOSTForward_recording {id type address : String} {value min max : Int32}
    (hlt : min < max) (hb : ((Query.bounds id type).run col w.database).head? =
      some ⟨some max, some min⟩)
    {Q : Remarks → Prop} (hnot : ∀ q l, Q (w.quietly q, l))
    (hpost : ∀ q l, (said l .exceededMaximum ↔ 1 < quotient min.toInt max.toInt value.toInt) →
      (said l .belowMinimum ↔ quotient min.toInt max.toInt value.toInt < 0) →
        ∀ ok, Q ((w.posting ⟨address, ⟨id, type,
          .num (clamp (quotient min.toInt max.toInt value.toInt))⟩⟩ ok).quietly q, l)) :
    wp ((under col may).recording aboutBounds) (HTTPPOSTForward id type value address)
      (fun _ => Q) (fun _ => Q) (w, []) := by
  rw [HTTPPOSTForward, wp_bind]
  refine wp_recording_of_dull (aside_readBounds id type) aboutBounds_of_aside ?_
  refine wp_readBounds (fun q₁ => ?_) fun _ q => hnot q _
  cases hrows : (Query.bounds id type).run col w.database with
  | nil => simp [hrows] at hb
  | cons b rows =>
    obtain rfl : b = ⟨some max, some min⟩ := by simpa [hrows] using hb
    simp only [List.head?_cons, wp_bind]
    refine wp_scaleValue hlt fun q₂ l₂ habove hbelow => ?_
    refine wp_recording_of_dull (aside_sendPost _) aboutBounds_of_aside ?_
    refine wp_sendPost fun b q₃ => ?_
    cases b with
    | false => simpa using hpost q₃ l₂ habove hbelow false
    | true =>
      simp only [Bool.not_true, Bool.false_eq_true, if_false, wp_bind, wp_pure]
      refine wp_recording_of_dull (P := Call.aside) (R := fun _ => False)
        (by simp [appendToOutput, Call.aside]) aboutBounds_of_aside ?_
      simpa using hpost _ l₂ habove hbelow true

/-- A forwarded reading is what it should be: one POST, with the reading's position in the
calibrated range, and the lines about the bounds where they are due. -/
def PostsPosition (id type address : String) (value min max : Int32) (w w' : World)
    (l : List (Event calls World)) : Prop :=
  ∃ x, w'.posts = w.posts ++ [⟨address, ⟨id, type, .num x⟩⟩] ∧
    Scaled min.toInt max.toInt value.toInt x (said l .exceededMaximum) (said l .belowMinimum)

/-- **Forwarding.** Take a sensor calibrated from `min` up to `max`. Whenever a reading of it is
posted, the number and the lines are right if and only if the bounds and the reading satisfy
`ScalesRight`. -/
theorem HTTPPOSTForward_postsPosition_iff {id type address : String} {value min max : Int32}
    {l : List (Event calls World)} {r : Except Exn Bool} {w' : World} (hlt : min < max)
    (hb : ((Query.bounds id type).run col w.database).head? = some ⟨some max, some min⟩)
    (hrun : Runs (under col anyFault) (HTTPPOSTForward id type value address) w l r w')
    (hposted : w'.posts ≠ w.posts) :
    PostsPosition id type address value min max w w' l ↔
      ScalesRight min.toInt max.toInt value.toInt := by
  have hscaled := scaled_iff (v := value.toInt) min.le_toInt max.toInt_lt
    (Int32.lt_iff_toInt_lt.mp hlt)
  -- The lines about the bounds say all that matters of the calls made.
  let right (s : Remarks) : Prop := s.1.posts ≠ w.posts →
    (PostsPosition id type address value min max w s.1 s.2 ↔
      ScalesRight min.toInt max.toInt value.toInt)
  have hend : wp ((under col anyFault).recording aboutBounds)
      (HTTPPOSTForward id type value address) (fun _ => right) (fun _ => right) (w, []) := by
    refine wp_HTTPPOSTForward_recording hlt hb (fun q l h => absurd rfl h) fun q l ha hb ok _ => ?_
    rw [← hscaled, PostsPosition, ha, hb]
    simp [World.posting]
  have := hrun.of_recording hend hposted
  simpa only [List.nil_append, PostsPosition, said_filter_aboutBounds (.inl rfl),
    said_filter_aboutBounds (.inr rfl)] using this

end Forward

/-- A registry with one node and one sensor, calibrated from 10 to 20. -/
def calibratedRegistry : Database :=
  ⟨[⟨"1", some "http://vw"⟩], [⟨"1", "light", some 10, some 20⟩], []⟩

/-- A window over that registry. -/
def calibratedWorld : World := .running "jdbc:mysql://db" calibratedRegistry

/-- Forward a reading of that sensor, with nothing failing. -/
def forwardOne (value : Int32) : List (Event calls World) × Except Exn Bool × World :=
  (machine .exact).play .fine (@HTTPPOSTForward plainJdk "1" "light" value "http://vw") []
    calibratedWorld

theorem runs_forwardOne (value : Int32) :
    Runs (under .exact anyFault) (@HTTPPOSTForward plainJdk "1" "light" value "http://vw")
      calibratedWorld (forwardOne value).1 (forwardOne value).2.1 (forwardOne value).2.2 :=
  runs_play_anyFault _ _ _

/-- A reading equal to the minimum is sent as 1. -/
theorem not_always_postsPosition : ¬ ∀ (jdk : Jdk) (col : Collation) (id type address : String)
    (value min max : Int32) (w w' : World) (l : List (Event calls World))
    (r : Except Exn Bool), min < max →
    ((Query.bounds id type).run col w.database).head? = some ⟨some max, some min⟩ →
    Runs (under col anyFault) (@HTTPPOSTForward jdk id type value address) w l r w' →
    w'.posts ≠ w.posts → PostsPosition id type address value min max w w' l := by
  intro h
  have hposts : (forwardOne 10).2.2.posts = [⟨"http://vw", ⟨"1", "light", .num 1⟩⟩] := by
    decide +kernel
  obtain ⟨x, hx, hs, -⟩ := h plainJdk .exact "1" "light" "http://vw" 10 10 20 calibratedWorld
    _ _ _ (by decide) (by decide) (runs_forwardOne 10) (by rw [hposts]; decide)
  have hx' : 1 = x := by
    rw [hposts] at hx
    simpa [show calibratedWorld.posts = [] from rfl] using hx
  rw [← hx', show position (Int32.toInt 10) (Int32.toInt 20) (Int32.toInt 10) = 0 by
    decide +kernel] at hs
  exact one_ne_zero hs

/-- A reading above the maximum is sent as 1, as it should be. -/
theorem forwardOne_postsPosition_iff :
    PostsPosition "1" "light" "http://vw" 25 10 20 calibratedWorld (forwardOne 25).2.2
      (forwardOne 25).1 ↔ ScalesRight 10 20 25 :=
  @HTTPPOSTForward_postsPosition_iff .exact calibratedWorld plainJdk "1" "light" "http://vw" 25 10
    20 _ _ _ (by decide) (by decide) (runs_forwardOne 25) (by decide +kernel)

end CrossingReality
