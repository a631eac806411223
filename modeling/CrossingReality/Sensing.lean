import CrossingReality.PhotoMsgReaderToXMLRPC

/-!
# The sensing side

The motes, the air, the reader and the control panel together, in any interleaving and whatever
fails: what the virtual world hears of, and what the panel keeps as a bound, was sampled by the mote
it is said of.

* `sensing_posts` — what is posted, up to what the virtual world decodes.
* `sensing_bounds` — what is stored.
* `sensing_scales` — what the panel makes of 16-bit readings.
-/

namespace CrossingReality

open Effects Formats PhotoToRadioC

variable {col : Collation} {N : Int32 → Prop} {f : Field} {id type : String} {v : Int32}

/-! ## What the reader passes on -/

namespace Field

/-- The reader can have passed the value on: a mote sampled it, or it stands for a message of
another class. -/
def Passed (f : Field) : Values := fun id type v =>
  ∃ message, (∀ msg ∈ message, f.Sampled msg) ∧ messageReceived message = .reading id type v

theorem Passed.next (h : f.Passed id type v) (e : FieldEvent) : (f.next e).Passed id type v := by
  obtain ⟨message, hsampled, hmessage⟩ := h
  exact ⟨message, fun msg hmsg => (hsampled msg hmsg).next e, hmessage⟩

theorem Sound.passed (h : f.Sound) (hoffers : f.offers (.reading id type v)) :
    f.Passed id type v := by
  rcases hoffers with hother | ⟨msg, hmsg, hphoto⟩
  · exact ⟨none, fun msg hmsg => absurd hmsg (Option.not_mem_none _), hother.symm⟩
  · refine ⟨some msg, fun msg' hmsg' => ?_, hphoto.symm⟩
    obtain rfl := Option.some_inj.mp hmsg'
    exact h.aired msg hmsg

/-- The two kinds of values that are passed on. -/
theorem passed_iff : f.Passed id type v ↔ type = "light" ∧
    ((∃ msg, f.Sampled msg ∧ id = toString msg.nodeid.toNat ∧ v = getUInt16 msg.photoreading) ∨
      id = "0" ∧ v = 0) := by
  constructor
  · rintro ⟨message, hsampled, hmessage⟩
    cases message with
    | none =>
      rw [messageReceived_none] at hmessage
      obtain ⟨rfl, rfl, rfl⟩ := Action.reading.inj hmessage
      exact ⟨rfl, .inr ⟨rfl, rfl⟩⟩
    | some msg =>
      rw [messageReceived_some] at hmessage
      obtain ⟨rfl, rfl, rfl⟩ := Action.reading.inj hmessage
      exact ⟨rfl, .inl ⟨msg, hsampled msg rfl, rfl, rfl⟩⟩
  · rintro ⟨rfl, ⟨msg, hsampled, rfl, rfl⟩ | ⟨rfl, rfl⟩⟩
    · refine ⟨some msg, fun msg' hmsg' => ?_, messageReceived_some msg⟩
      obtain rfl := Option.some_inj.mp hmsg'
      exact hsampled
    · exact ⟨none, fun msg hmsg => absurd hmsg (Option.not_mem_none _), messageReceived_none⟩

/-- Where a bound comes from: it was there at first, in a row of the same key, or has been passed
on since for what the database takes to be the same sensor. -/
def Origin (col : Collation) (w₀ : World) (f : Field) (url : String) : Values := fun id type v =>
  (∃ r ∈ (w₀.servers url).sensors, r.id = id ∧ r.type = type ∧ (v ∈ r.max ∨ v ∈ r.min)) ∨
    ∃ id' type', col.same id id' = true ∧ col.same type type' = true ∧ f.Passed id' type' v

theorem Origin.next {w₀ : World} {url : String} (h : f.Origin col w₀ url id type v)
    (e : FieldEvent) : (f.next e).Origin col w₀ url id type v := by
  rcases h with hstored | ⟨id', type', hid, htype, hpassed⟩
  · exact .inl hstored
  · exact .inr ⟨id', type', hid, htype, hpassed.next e⟩

end Field

/-! ## Sixteen bits -/

/-- A number a mote can sample. -/
def Short (v : Int32) : Prop := 0 ≤ v.toInt ∧ v.toInt < 2 ^ 16

theorem short_getUInt16 (x : UInt16) : Short (getUInt16 x) := by
  have hx := x.toNat_lt
  rw [Short, toInt_getUInt16]
  omega

theorem Field.Passed.short (h : f.Passed id type v) : Short v := by
  obtain ⟨-, ⟨msg, -, -, rfl⟩ | ⟨-, rfl⟩⟩ := passed_iff.mp h
  · exact short_getUInt16 _
  · exact ⟨by decide, by decide⟩

/-- What becomes of a value between bounds: with both of them the divisor is exact and a number from
0 to 1 is sent, but for a 0 between two bounds that are the same. -/
def ScalesShort (v : Int32) (b : Bounds) (x : JDouble) : Prop :=
  match b.min, b.max with
  | some min, some max => (max - min).toInt = max.toInt - min.toInt ∧
    (x = .nan ↔ v = 0 ∧ max = min) ∧ (x ≠ .nan → ∃ q, x = .num q ∧ 0 ≤ q ∧ q ≤ 1)
  | _, _ => x = .num v.toInt

theorem toInt_sub_of_short {max min : Int32} (hmax : Short max) (hmin : Short min) :
    (max - min).toInt = max.toInt - min.toInt := by
  obtain ⟨hmax₀, hmax₁⟩ := hmax
  obtain ⟨hmin₀, hmin₁⟩ := hmin
  rw [Int32.toInt_sub]
  refine Int.bmod_eq_of_le ?_ ?_
  · norm_num
    omega
  · norm_num
    omega

/-- Between two bounds that are the same, a value above 0 counts as above them, one below 0 as below
them, and 0 as neither. -/
theorem scaled_of_zero {max min : Int32} (h : (max - min).toInt = 0) :
    scaled v ⟨some max, some min⟩ =
      if 0 < v.toInt then .num 1 else if v.toInt < 0 then .num 0 else .nan := by
  simp only [scaled, h, JDouble.divInt, if_true, Int.cast_pos, Int.cast_lt_zero]
  by_cases hpos : 0 < v.toInt
  · simp [hpos, JDouble.gtOne, JDouble.ltZero]
  · by_cases hneg : v.toInt < 0
    · simp [hpos, hneg, JDouble.gtOne, JDouble.ltZero]
    · simp [hpos, hneg, JDouble.gtOne, JDouble.ltZero]

theorem scalesShort_scaled {b : Bounds} (hb : b.All Short) : ScalesShort v b (scaled v b) := by
  obtain ⟨max, min⟩ := b
  cases min with
  | none => rfl
  | some min =>
    cases max with
    | none => rfl
    | some max =>
      have hexact := toInt_sub_of_short (hb.1 max rfl) (hb.2 min rfl)
      refine ⟨hexact, ?_⟩
      by_cases hzero : (max - min).toInt = 0
      · obtain rfl : max = min := Int32.toInt_inj.mp (by omega)
        have hv : v = 0 ↔ v.toInt = 0 := Int32.toInt_inj.symm
        rw [scaled_of_zero hzero, hv]
        by_cases hpos : 0 < v.toInt
        · rw [if_pos hpos]
          refine ⟨⟨fun h => ?_, fun h => by omega⟩, fun _ => ⟨1, rfl, zero_le_one, le_rfl⟩⟩
          cases h
        rw [if_neg hpos]
        by_cases hneg : v.toInt < 0
        · rw [if_pos hneg]
          refine ⟨⟨fun h => ?_, fun h => by omega⟩, fun _ => ⟨0, rfl, le_rfl, zero_le_one⟩⟩
          cases h
        · rw [if_neg hneg]
          exact ⟨⟨fun _ => ⟨by omega, rfl⟩, fun _ => rfl⟩, fun h => absurd rfl h⟩
      · rw [scaled_eq_clamp hzero]
        refine ⟨⟨fun h => ?_, ?_⟩, fun _ => ⟨_, rfl, clamp_mem _⟩⟩
        · cases h
        · rintro ⟨-, rfl⟩
          omega

/-! ## Runs -/

section Runs

variable [Jdk] {ι : Type} [DecidableEq ι] {w₀ w : World} {l : List (Happening ι calls World
  FieldEvent Action)} {ps : ι → Panel Unit}

/-- The sensing side from where every mote boots and the threads of the panel are idle. -/
abbrev Sensing (col : Collation) (w₀ : World) (l : List (Happening ι calls World FieldEvent Action))
    (f : Field) (ps : ι → Panel Unit) (w : World) : Prop :=
  Serving (under col anyFault) field Action.program (fun _ => pure ()) Field.init w₀ l f ps w

/-- Every bound stored in a run has its origin, and from then on a thread has to do only with what
has been passed on. -/
theorem sourced_of_sensing (h : Sensing col w₀ l f ps w) :
    w.BoundsOf (f.Origin col w₀) ∧ ∀ i, (ps i).Stays (under col anyFault)
      (Call.sourced f.Passed (found col (f.Origin col w₀))) (World.BoundsOf (f.Origin col w₀)) := by
  have hlasts : ∀ {f f' : Field}, field.Reaches f f' → ∀ {id type v}, f.Passed id type v →
      f'.Passed id type v := by
    intro f f' hreach id type v hv
    induction hreach with
    | refl => exact hv
    | next _ _ ih => exact ih.next _
  have hstays := Serving.guaranteed
    (P := fun f => Call.sourced f.Passed (found col (f.Origin col w₀)))
    (I := fun f => World.BoundsOf (f.Origin col w₀)) h
    (fun f e w _ _ hw url r hr => (hw url r hr).mono fun v hv => hv.next e)
    (fun f c w x w' _ hc hw hpost => boundsOf_of_post hc
      (fun url id type v hv id' type' hid htype => .inr ⟨id, type, hid, htype, hv⟩) hpost hw)
    (fun i f _ => trivial)
    (fun f₁ a f₂ hreach hoffers hreach' => stays_action fun id type v ha =>
      hlasts hreach' ((Field.sound_of_reaches hreach).passed (ha ▸ hoffers)))
    fun url r hr => ⟨fun v hv => .inl ⟨r, hr, rfl, rfl, .inl hv⟩,
      fun v hv => .inl ⟨r, hr, rfl, rfl, .inr hv⟩⟩
  exact ⟨hstays.1, fun i => hstays.2 i f .refl⟩

/-- What is posted was passed on by then, and is scaled to bounds that are there for it. -/
theorem passed_of_posted {l₁ l₂ : List (Happening ι calls World FieldEvent Action)}
    {m : Move ι calls World} {p : Post} (h : Sensing col w₀ l f ps w)
    (hl : l = l₁ ++ .moved m :: l₂) (hp : posted m.toEvent = some p) :
    ∃ f₁ ps₁, Sensing col w₀ l₁ f₁ ps₁ m.before ∧ ∃ v b,
      f₁.Passed p.payload.id p.payload.type v ∧
      b.All (found col (f₁.Origin col w₀) p.payload.id p.payload.type) ∧
      p.payload.value = scaled v b := by
  subst hl
  obtain ⟨f₁, ps₁, k, h₁, hthread⟩ := h.split
  have hstays := (sourced_of_sensing h₁).2 m.thread
  rw [hthread] at hstays
  have hcall : Call.sourced f₁.Passed (found col (f₁.Origin col w₀)) m.call := hstays.1
  obtain ⟨⟨before, c, x⟩, i⟩ := m
  cases c with
  | http c p' =>
    cases c with
    | openConnection =>
      obtain rfl := Option.some_inj.mp hp
      exact ⟨f₁, ps₁, h₁, hcall⟩
    | _ => cases hp
  | _ => cases hp

/-- The body, decoded, is a reading of a sensor of light, scaled to bounds that are there for it. -/
def Field.Reports (col : Collation) (w₀ : World) (f : Field) (body id : String) (v : Int32) :
    Prop :=
  ∃ b, b.All (found col (f.Origin col w₀) id "light") ∧ Urlencoded.parse body =
    some [("id", id), ("type", "light"), ("value", Jdk.doubleToString (scaled v b))]

/-- **Provenance.** In any interleaving, whatever fails: what the panel asks to post, once decoded,
is the id of a mote and a reading it had sampled by then, scaled to bounds that are there for it; or
it is the 0 of node 0 that stands for a message of another class. -/
theorem sensing_posts {l₁ l₂ : List (Happening ι calls World FieldEvent Action)}
    {m : Move ι calls World} {p : Post} (h : Sensing col w₀ l f ps w)
    (hl : l = l₁ ++ .moved m :: l₂) (hp : posted m.toEvent = some p) :
    ∃ f₁ ps₁, Sensing col w₀ l₁ f₁ ps₁ m.before ∧
      ((∃ msg, f₁.Sampled msg ∧ f₁.Reports col w₀ p.payload.body (toString msg.nodeid.toNat)
          (getUInt16 msg.photoreading)) ∨
        f₁.Reports col w₀ p.payload.body "0" 0) := by
  obtain ⟨f₁, ps₁, h₁, v, b, hpassed, hb, hvalue⟩ := passed_of_posted h hl hp
  obtain ⟨htype, hkind⟩ := Field.passed_iff.mp hpassed
  have hreports : f₁.Reports col w₀ p.payload.body p.payload.id v := by
    refine ⟨b, htype ▸ hb, ?_⟩
    rw [Payload.parse_body, hvalue, htype]
  refine ⟨f₁, ps₁, h₁, ?_⟩
  rcases hkind with ⟨msg, hsampled, hid, rfl⟩ | ⟨hid, rfl⟩
  · rw [hid] at hreports
    exact .inl ⟨msg, hsampled, hreports⟩
  · rw [hid] at hreports
    exact .inr hreports

/-- **Bounds.** In any interleaving, whatever fails: a bound that is stored was there at first, in
a row of the same key, or a mote whose id and type the database takes to be that key sampled it, or
it is the 0 that stands for a message of another class. -/
theorem sensing_bounds (h : Sensing col w₀ l f ps w) {url : String} {r : SensorRow}
    (hr : r ∈ (w.servers url).sensors) (hv : v ∈ r.max ∨ v ∈ r.min) :
    (∃ r₀ ∈ (w₀.servers url).sensors, r₀.id = r.id ∧ r₀.type = r.type ∧
      (v ∈ r₀.max ∨ v ∈ r₀.min)) ∨
    col.same r.type "light" = true ∧
      ((∃ msg, f.Sampled msg ∧ col.same r.id (toString msg.nodeid.toNat) = true ∧
        v = getUInt16 msg.photoreading) ∨ col.same r.id "0" = true ∧ v = 0) := by
  have hbounds := (sourced_of_sensing h).1 url r hr
  have horigin : f.Origin col w₀ url r.id r.type v := by
    rcases hv with hmax | hmin
    · exact hbounds.1 v hmax
    · exact hbounds.2 v hmin
  rcases horigin with hstored | ⟨id', type', hid, htype, hpassed⟩
  · exact .inl hstored
  · obtain ⟨rfl, ⟨msg, hsampled, rfl, rfl⟩ | ⟨rfl, rfl⟩⟩ := Field.passed_iff.mp hpassed
    · exact .inr ⟨htype, .inl ⟨msg, hsampled, hid, rfl⟩⟩
    · exact .inr ⟨htype, .inr ⟨hid, rfl⟩⟩

/-- **Scaling.** Where all bounds are 16-bit numbers at first, every value that is posted in any
interleaving, whatever fails, is a 16-bit reading that had been passed on by then, scaled between
16-bit bounds without wrapping around. -/
theorem sensing_scales {l₁ l₂ : List (Happening ι calls World FieldEvent Action)}
    {m : Move ι calls World} {p : Post} (h : Sensing col w₀ l f ps w)
    (hshort : ∀ url, ∀ r ∈ (w₀.servers url).sensors, r.bounds.All Short)
    (hl : l = l₁ ++ .moved m :: l₂) (hp : posted m.toEvent = some p) :
    ∃ f₁ ps₁, Sensing col w₀ l₁ f₁ ps₁ m.before ∧ ∃ v b,
      f₁.Passed p.payload.id p.payload.type v ∧ Short v ∧ b.All Short ∧
        p.payload.value = scaled v b ∧ ScalesShort v b p.payload.value := by
  obtain ⟨f₁, ps₁, h₁, v, b, hpassed, hb, hvalue⟩ := passed_of_posted h hl hp
  have hbounds : b.All Short := by
    refine hb.mono fun x hx => ?_
    obtain ⟨url, id', type', -, -, ⟨r, hr, -, -, hmax | hmin⟩ | ⟨id, type, -, -, hpassed⟩⟩ := hx
    · exact (hshort url r hr).1 x hmax
    · exact (hshort url r hr).2 x hmin
    · exact hpassed.short
  exact ⟨f₁, ps₁, h₁, v, b, hpassed, hpassed.short, hbounds, hvalue,
    hvalue ▸ scalesShort_scaled hbounds⟩

end Runs

/-! ## A reading that comes through -/

/-- A panel over a registry with the sensor of mote 7, calibrated. -/
def calibratedPanel : World :=
  .running "jdbc:mysql://db"
    ⟨[⟨"7", some "http://vw"⟩], [⟨"7", "light", some 100, some 900⟩], []⟩

/-- Mote 7 samples 700, its radio sends it, the reader passes it on and a thread handles it. -/
def oneReading : List (Cue Unit FieldEvent Action Fate) :=
  [.outside (.mote 7 (.readDone 0 700 SUCCESS)), .outside (.radio 7),
    .take () (messageReceived (some ⟨7, 700⟩))] ++ List.replicate 60 (.move () .fine)

/-- What happens on some cues. -/
def sensingTurns (cues : List (Cue Unit FieldEvent Action Fate)) :
    List (Happening Unit calls World FieldEvent Action) × Field × (Unit → Panel Unit) × World :=
  (machine .exact).serve field (@Action.program plainJdk) cues Field.init (fun _ => pure ())
    calibratedPanel

theorem sensing_turns (cues : List (Cue Unit FieldEvent Action Fate)) :
    @Sensing plainJdk Unit _ .exact calibratedPanel (sensingTurns cues).1 (sensingTurns cues).2.1
      (sensingTurns cues).2.2.1 (sensingTurns cues).2.2.2 :=
  Machine.serving_serve (l := []) (fun _ _ _ => by exact fun _ => trivial) .nil

/-- The POST a happening asks for. -/
def postedBy {ι : Type} : Happening ι calls World FieldEvent Action → Option Post
  | .moved m => posted m.toEvent
  | _ => none

theorem exists_moved {ι : Type} {l : List (Happening ι calls World FieldEvent Action)} {p : Post}
    (h : l.findSome? postedBy = some p) :
    ∃ l₁ m l₂, l = l₁ ++ .moved m :: l₂ ∧ posted m.toEvent = some p := by
  obtain ⟨x, hx, hposted⟩ := List.exists_of_findSome?_eq_some h
  obtain ⟨l₁, l₂, hl⟩ := List.append_of_mem hx
  cases x with
  | moved m => exact ⟨l₁, m, l₂, hl, hposted⟩
  | _ => cases hposted

/-- It is posted as 700 / 800. -/
theorem oneReading_posted : (sensingTurns oneReading).1.findSome? postedBy =
    some ⟨"http://vw", ⟨"7", "light", .num (7 / 8)⟩⟩ := by
  decide +kernel

/-- What was posted stands for the 700 that mote 7 sampled, or for a message of another class. -/
theorem oneReading_provenance : ∃ l₁ m l₂ p f₁ ps₁,
    (sensingTurns oneReading).1 = l₁ ++ .moved m :: l₂ ∧ posted m.toEvent = some p ∧
      @Sensing plainJdk Unit _ .exact calibratedPanel l₁ f₁ ps₁ m.before ∧
        ((∃ msg, f₁.Sampled msg ∧ @Field.Reports plainJdk .exact calibratedPanel f₁
            (@Payload.body plainJdk p.payload) (toString msg.nodeid.toNat)
              (getUInt16 msg.photoreading)) ∨
          @Field.Reports plainJdk .exact calibratedPanel f₁ (@Payload.body plainJdk p.payload)
            "0" 0) := by
  obtain ⟨l₁, m, l₂, hl, hp⟩ := exists_moved oneReading_posted
  obtain ⟨f₁, ps₁, h⟩ := @sensing_posts .exact _ plainJdk Unit _ _ _ _ _ _ _ _ _
    (sensing_turns oneReading) hl hp
  exact ⟨l₁, m, l₂, _, f₁, ps₁, hl, hp, h⟩

/-- With *Calibrate* ticked it becomes the upper bound if it is above that. -/
def calibratingReading : List (Cue Unit FieldEvent Action Fate) :=
  [.take () (.tick .wsnSensorsCalibrateCheck true), .move () .fine,
    .outside (.mote 7 (.readDone 0 950 SUCCESS)), .outside (.radio 7),
    .take () (messageReceived (some ⟨7, 950⟩))] ++ List.replicate 60 (.move () .fine)

/-- It was not there at first, so mote 7 sampled it. -/
theorem calibratingReading_bounds :
    (∃ r₀ ∈ (calibratedPanel.servers "jdbc:mysql://db").sensors, r₀.id = "7" ∧
      r₀.type = "light" ∧ (950 ∈ r₀.max ∨ 950 ∈ r₀.min)) ∨
    Collation.exact.same "light" "light" = true ∧
      ((∃ msg, (sensingTurns calibratingReading).2.1.Sampled msg ∧
        Collation.exact.same "7" (toString msg.nodeid.toNat) = true ∧
          (950 : Int32) = getUInt16 msg.photoreading) ∨
        Collation.exact.same "7" "0" = true ∧ (950 : Int32) = 0) := by
  have hrow : (⟨"7", "light", some 100, some 950⟩ : SensorRow) ∈
      ((sensingTurns calibratingReading).2.2.2.servers "jdbc:mysql://db").sensors := by
    decide +kernel
  exact @sensing_bounds .exact _ 950 plainJdk Unit _ _ _ _ _ (sensing_turns calibratingReading)
    "jdbc:mysql://db" _ hrow (.inl rfl)

/-- 700 / 800 is the 700 that was passed on, scaled without wrapping around. -/
theorem oneReading_scales : ∃ l₁ m l₂ p f₁ ps₁,
    (sensingTurns oneReading).1 = l₁ ++ .moved m :: l₂ ∧ posted m.toEvent = some p ∧
      @Sensing plainJdk Unit _ .exact calibratedPanel l₁ f₁ ps₁ m.before ∧ ∃ v b,
        f₁.Passed p.payload.id p.payload.type v ∧ Short v ∧ b.All Short ∧
          p.payload.value = scaled v b ∧ ScalesShort v b p.payload.value := by
  obtain ⟨l₁, m, l₂, hl, hp⟩ := exists_moved oneReading_posted
  have hshort : ∀ url, ∀ r ∈ (calibratedPanel.servers url).sensors, r.bounds.All Short := by
    intro url r hr
    obtain rfl := List.mem_singleton.mp hr
    refine ⟨fun v hv => ?_, fun v hv => ?_⟩
    · obtain rfl := Option.some_inj.mp hv
      exact ⟨by decide, by decide⟩
    · obtain rfl := Option.some_inj.mp hv
      exact ⟨by decide, by decide⟩
  obtain ⟨f₁, ps₁, h⟩ := @sensing_scales .exact _ plainJdk Unit _ _ _ _ _ _ _ _ _
    (sensing_turns oneReading) hshort hl hp
  exact ⟨l₁, m, l₂, _, f₁, ps₁, hl, hp, h⟩

end CrossingReality
