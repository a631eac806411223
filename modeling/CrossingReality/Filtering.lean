import CrossingReality.PhotoToRadioC

/-!
# What the mote keeps to itself

A reading is worth sending when it has moved out of a band around the last one sent. The test of
the program joins the two sides of the band the wrong way round, so that above 100 it holds inside
the band as well, and its upper end wraps at 16 bits.

**Theorem (`run_filters_iff`).** After any run in which AMSend has refused nothing since it last
accepted a packet, a reading is treated as it should be if and only if it is one that `Fits`.
-/

namespace CrossingReality.PhotoToRadioC

/-! ## The band -/

/-- Half the width of the band around a reading: a quarter of it on each side, roughly. -/
def halfWidth (last : UInt16) : Nat := last.toNat / 100 * 50

/-- The reading lies outside the band around the last one. -/
def Outside (last data : UInt16) : Prop :=
  data.toNat < last.toNat - halfWidth last ∨ last.toNat + halfWidth last < data.toNat

/-- The band is a point, or the reading is outside it and not above a wrapped end, or it is on the
lower end of a band that wraps. -/
def Fits (last data : UInt16) : Prop :=
  last.toNat < 100 ∨
    (Outside last data ∧
      (last.toNat + halfWidth last < 2 ^ 16 ∨ data.toNat + 2 ^ 16 < last.toNat + halfWidth last)) ∨
    (2 ^ 16 ≤ last.toNat + halfWidth last ∧ data.toNat = last.toNat - halfWidth last)

instance (last data : UInt16) : Decidable (Outside last data) := by
  unfold Outside
  infer_instance

instance (last data : UInt16) : Decidable (Fits last data) := by
  unfold Fits
  infer_instance

variable {last data : UInt16}

theorem two_mul_halfWidth_le (last : UInt16) : 2 * halfWidth last ≤ last.toNat := by
  unfold halfWidth
  omega

theorem halfWidth_eq_zero : halfWidth last = 0 ↔ last.toNat < 100 := by
  unfold halfWidth
  omega

theorem toNat_halfWidth (last : UInt16) : (last / 100 * 50).toNat = halfWidth last := by
  have hlast := last.toNat_lt
  simp only [UInt16.toNat_mul, UInt16.toNat_div, halfWidth]
  change last.toNat / 100 * 50 % 2 ^ 16 = last.toNat / 100 * 50
  omega

/-- The test, in numbers. -/
theorem changed_iff : Mote.changed last data = true ↔
    data.toNat < (last.toNat + halfWidth last) % 2 ^ 16 ∨
      last.toNat - halfWidth last < data.toNat := by
  have hhalf := toNat_halfWidth last
  have hle := two_mul_halfWidth_le last
  have hsub : (last - last / 100 * 50).toNat = last.toNat - halfWidth last := by
    rw [UInt16.toNat_sub_of_le _ _ (by rw [UInt16.le_iff_toNat_le, hhalf]; omega), hhalf]
  rw [Mote.changed, Bool.or_eq_true, decide_eq_true_eq, decide_eq_true_eq, gt_iff_lt,
    UInt16.lt_iff_toNat_lt, UInt16.lt_iff_toNat_lt, hsub, UInt16.toNat_add, hhalf]

/-- The test tells whether the reading is outside the band just when the reading fits. -/
theorem changed_iff_outside_iff :
    (Mote.changed last data = true ↔ Outside last data) ↔ Fits last data := by
  have hlast := last.toNat_lt
  have hdata := data.toNat_lt
  have hle := two_mul_halfWidth_le last
  rw [changed_iff, Fits, Outside, ← halfWidth_eq_zero]
  generalize halfWidth last = half at *
  generalize last.toNat = l at *
  generalize data.toNat = d at *
  omega

/-! ## Runs -/

namespace Occurrence

/-- The reading of the packet that AMSend accepted, if it accepted one. -/
def accepted (o : Occurrence) : Option UInt16 :=
  match o.event with
  | .readDone _ _ sent =>
    if sent = SUCCESS then (Node.sends o.commands).head?.map PhotoToRadioMsg.photoreading else none
  | _ => none

/-- AMSend refused a packet. -/
def Refused (o : Occurrence) : Prop :=
  match o.event with
  | .readDone _ _ sent => sent ≠ SUCCESS ∧ Node.sends o.commands ≠ []
  | _ => False

instance : (o : Occurrence) → Decidable o.Refused
  | ⟨_, .readDone _ _ sent, commands⟩ =>
    inferInstanceAs (Decidable (sent ≠ SUCCESS ∧ Node.sends commands ≠ []))
  | ⟨_, .booted, _⟩ | ⟨_, .amStartDone _, _⟩ | ⟨_, .amStopDone _, _⟩ | ⟨_, .photoStartDone _, _⟩
  | ⟨_, .photoStopDone _, _⟩ | ⟨_, .fired, _⟩ | ⟨_, .sendDone _ _, _⟩ => .isFalse id

end Occurrence

/-- The reading that the last accepted packet carried, and 1 before the first. -/
def lastAccepted (os : List Occurrence) : UInt16 :=
  os.foldl (fun last o => o.accepted.getD last) 1

variable {nodeId : UInt16} {n : Node} {os : List Occurrence}

theorem lastAccepted_snoc (o : Occurrence) :
    lastAccepted (os ++ [o]) = o.accepted.getD (lastAccepted os) := by
  simp [lastAccepted]

/-- A packet has been refused and none accepted since. -/
def refusedSince (os : List Occurrence) : Bool :=
  os.foldl (fun refused o => o.accepted.isNone && (refused || decide o.Refused)) false

theorem refusedSince_snoc (o : Occurrence) : refusedSince (os ++ [o]) =
    (o.accepted.isNone && (refusedSince os || decide o.Refused)) := by
  simp [refusedSince]

/-- What an idle mote hands to AMSend. -/
theorem sends_idle {result sent : ErrorT} (hidle : n.mote.busy = false) :
    Node.sends (n.step nodeId (.readDone result data sent)).2 =
      if Mote.changed n.mote.lastTransmit data = true then [⟨nodeId, data⟩] else [] := by
  by_cases hchanged : Mote.changed n.mote.lastTransmit data = true <;>
    simp [Node.step, Mote.readDone, Mote.transmit, hidle, hchanged, Node.sends]

theorem sends_busy {result sent : ErrorT} (hbusy : n.mote.busy = true) :
    Node.sends (n.step nodeId (.readDone result data sent)).2 = [] := by
  simp [Node.step, Mote.readDone, hbusy, Node.sends]

/-- **Step.** An event whose packet is accepted makes its reading the kept one. One that hands
nothing over changes neither. -/
theorem lastTransmit_step (e : MoteEvent) :
    (Occurrence.accepted ⟨n, e, (n.step nodeId e).2⟩ =
        some (n.step nodeId e).1.mote.lastTransmit) ∨
      (Occurrence.accepted ⟨n, e, (n.step nodeId e).2⟩ = none ∧
        (¬ Occurrence.Refused ⟨n, e, (n.step nodeId e).2⟩ →
          (n.step nodeId e).1.mote.lastTransmit = n.mote.lastTransmit)) := by
  cases e with
  | readDone result data sent =>
    cases hbusy : n.mote.busy with
    | true =>
      right
      rw [step_busy hbusy]
      simp [Occurrence.accepted, sends_busy hbusy]
    | false =>
      rw [step_idle hbusy]
      by_cases hchanged : Mote.changed n.mote.lastTransmit data = true
      · by_cases hsent : sent = SUCCESS
        · left
          simp [Occurrence.accepted, sends_idle hbusy, hchanged, hsent]
        · right
          simp [Occurrence.accepted, Occurrence.Refused, sends_idle hbusy, hchanged, hsent]
      · right
        simp [Occurrence.accepted, sends_idle hbusy, hchanged]
  | sendDone msg error =>
    right
    cases msg <;> simp [Node.step, Mote.sendDone, Occurrence.accepted]
  | _ => exact Or.inr ⟨rfl, fun _ => rfl⟩

/-- **Run.** Unless a packet has been refused since, the mote keeps the last accepted reading. -/
theorem lastTransmit_of_run (h : Run nodeId os n) (hrefused : refusedSince os = false) :
    n.mote.lastTransmit = lastAccepted os := by
  induction h with
  | nil => rfl
  | @snoc os n e _ _ ih =>
    rw [lastAccepted_snoc]
    rw [refusedSince_snoc] at hrefused
    have hstep := @lastTransmit_step nodeId n e
    rcases hstep with haccepted | ⟨hnone, hkept⟩
    · rw [haccepted, Option.getD_some]
    · simp only [hnone, Option.isNone_none, Bool.true_and, Bool.or_eq_false_iff,
        decide_eq_false_iff_not] at hrefused
      rw [hnone, Option.getD_none, hkept hrefused.2, ih hrefused.1]

/-- **Filtering.** After a run in which nothing was refused since the last packet was accepted, a
reading that finds no packet in flight is handed to AMSend just when it is outside the band around
the last accepted one, if and only if it fits. -/
theorem run_filters_iff (h : Run nodeId os n) (hrefused : refusedSince os = false)
    (hidle : n.inFlight = []) (result sent : ErrorT) :
    (.send ⟨nodeId, data⟩ ∈ (n.step nodeId (.readDone result data sent)).2 ↔
      Outside (lastAccepted os) data) ↔ Fits (lastAccepted os) data := by
  have hbusy : n.mote.busy = false := by
    rw [← Bool.not_eq_true, (exclusive_of_run h).busy, hidle]
    simp
  have hhanded : .send ⟨nodeId, data⟩ ∈ (n.step nodeId (.readDone result data sent)).2 ↔
      Mote.changed n.mote.lastTransmit data = true := by
    by_cases hchanged : Mote.changed n.mote.lastTransmit data = true <;>
      simp [Node.step, Mote.readDone, Mote.transmit, hbusy, hchanged]
  rw [hhanded, lastTransmit_of_run h hrefused]
  exact changed_iff_outside_iff

/-! ## The same reading twice -/

/-- A first packet is sent and completed. -/
def firstPacket (reading : UInt16) : List MoteEvent :=
  [.fired, .readDone 0 reading SUCCESS, .sendDone .pkt SUCCESS]

/-- The run of a first packet. -/
def afterFirst (reading : UInt16) : List Occurrence × Node :=
  played 7 (firstPacket reading) ([], .init)

/-- The same reading once more is sent again, though it is in the middle of the band. -/
theorem not_always_filters : ¬ ∀ (nodeId data : UInt16) (os : List Occurrence) (n : Node)
    (result sent : ErrorT), Run nodeId os n → n.inFlight = [] →
    (.send ⟨nodeId, data⟩ ∈ (n.step nodeId (.readDone result data sent)).2 ↔
      Outside (lastAccepted os) data) := by
  intro h
  have hfilters := h 7 200 (afterFirst 200).1 (afterFirst 200).2 0 SUCCESS
    (run_played .nil (by decide)) (by decide)
  exact absurd (hfilters.mp (by decide)) (by decide)

/-- A reading well below the last one is sent. -/
theorem firstPacket_filters :
    (.send ⟨7, 90⟩ ∈ ((afterFirst 200).2.step 7 (.readDone 0 90 SUCCESS)).2 ↔
      Outside (lastAccepted (afterFirst 200).1) 90) ↔ Fits (lastAccepted (afterFirst 200).1) 90 :=
  run_filters_iff (run_played .nil (by decide)) (by decide) (by decide) 0 SUCCESS

end CrossingReality.PhotoToRadioC
