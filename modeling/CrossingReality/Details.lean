import CrossingReality.Formats.Separated
import CrossingReality.Redrawing

/-!
# The details file

The three details are joined with commas and read back from the first line, each taken and put
into its field before the next is looked for. A line with fewer than three pieces stops the
program halfway through, and `main` with it. The platform charset, in which the file is written and
read, is taken to encode all three.

* `loadMysqlDetails_settled_iff` — which files can be loaded.
* `saved_iff` — which details come back.
-/

namespace CrossingReality

open Effects Formats

/-! ## Reading -/

namespace Detail

/-- Its place on the line. -/
def index : Detail → Nat
  | .mysqlAddress => 0
  | .mysqlUser => 1
  | .mysqlPass => 2

/-- The field it is typed into. -/
def field : Detail → TextField
  | .mysqlAddress => .wsnGeneralMysqlAddressField
  | .mysqlUser => .wsnGeneralMysqlUserField
  | .mysqlPass => .wsnGeneralMysqlPassField

theorem field_not_shows (d : Detail) : ¬ d.field.shows := by
  cases d <;> exact id

end Detail

/-- The pieces of the first line of a file. -/
def detailPieces (file : Option String) : List String :=
  match file.bind firstLine with
  | none => []
  | some line => split line ','

namespace World

/-- The details are in force, and in their fields. -/
def loading (w : World) (v : Detail → String) : World :=
  { w with
    mysql := fun d => some (v d)
    text := fun
      | .wsnGeneralMysqlAddressField => v .mysqlAddress
      | .wsnGeneralMysqlUserField => v .mysqlUser
      | .wsnGeneralMysqlPassField => v .mysqlPass
      | f => w.text f }

theorem loading_eq (w : World) (v : Detail → String) :
    ((((((w.setMysql .mysqlAddress (v .mysqlAddress)).setText .wsnGeneralMysqlAddressField
      (v .mysqlAddress)).setMysql .mysqlUser (v .mysqlUser)).setText .wsnGeneralMysqlUserField
      (v .mysqlUser)).setMysql .mysqlPass (v .mysqlPass)).setText .wsnGeneralMysqlPassField
      (v .mysqlPass)) = w.loading v := by
  have hmysql : Function.update (Function.update (Function.update w.mysql .mysqlAddress
      (some (v .mysqlAddress))) .mysqlUser (some (v .mysqlUser))) .mysqlPass
      (some (v .mysqlPass)) = fun d => some (v d) := by
    funext d
    cases d <;> rfl
  have htext : Function.update (Function.update (Function.update w.text
      .wsnGeneralMysqlAddressField (v .mysqlAddress)) .wsnGeneralMysqlUserField (v .mysqlUser))
      .wsnGeneralMysqlPassField (v .mysqlPass) = (w.loading v).text := by
    funext f
    cases f <;> rfl
  simp only [setMysql, setText, hmysql, htext]
  rfl

theorem text_loading (w : World) (v : Detail → String) (d : Detail) :
    (w.loading v).text d.field = v d := by
  cases d <;> rfl

end World

/-- Details that were not in force before are pieces of the file. -/
def Partly (w w' : World) : Prop :=
  ∀ d s, w'.mysql d = some s →
    w.mysql d = some s ∨ (detailPieces w.mysqldetails)[d.index]? = some s

theorem Partly.setMysql {w w' : World} {d : Detail} {s : String} {f : TextField}
    (h : Partly w w') (hs : (detailPieces w.mysqldetails)[d.index]? = some s) :
    Partly w ((w'.setMysql d s).setText f s) := by
  intro e t ht
  by_cases he : e = d
  · subst he
    have hst : some s = some t := by simpa [World.setMysql, World.setText] using ht
    exact Or.inr (hs.trans hst)
  · exact h e t (by simpa [World.setMysql, World.setText, he] using ht)

variable {col : Collation} {may : Call → Prop} {w : World} {E : Exn → World → Prop}

theorem wp_loadDetail {pieces : List String} {i : Nat} {d : Detail} {f : TextField}
    {Q : Unit → World → Prop}
    (hsome : ∀ s, pieces[i]? = some s → Q () ((w.setMysql d s).setText f s))
    (hnone : pieces[i]? = none → E .indexOutOfBounds w) :
    wp (under col may) (loadDetail pieces i d f) Q E w := by
  rw [loadDetail, wp_bind, pieceAt]
  cases hi : pieces[i]? with
  | none => exact hnone hi
  | some s =>
    rw [wp_pure, wp_bind]
    refine (wp_call_steady (c := .setMysql d s) fun _ => rfl).mpr ?_
    exact (wp_setText f s).mpr (hsome s hi)

/-- What loading comes to: nothing, all three details, or an exception halfway through. -/
theorem wp_loadFile {Q : Unit → World → Prop}
    (hsame : w.mysqldetails = none ∨ may .readMysqldetails → ∀ q, Q () (w.quietly q))
    (hloaded : ∀ v : Detail → String,
      (∀ d, (detailPieces w.mysqldetails)[d.index]? = some (v d)) → Q () (w.loading v))
    (hcrash : ∀ e w', w.mysqldetails ≠ none → (detailPieces w.mysqldetails).length < 3 →
      Partly w w' → E e w') :
    wp (under col may) loadFile Q E w := by
  have hself : Partly w w := fun d s h => Or.inl h
  rw [loadFile, wp_bind]
  refine (wp_call_faulty .readMysqldetails).mpr ⟨fun r => ?_, fun hmay r => ?_⟩
  · cases hfile : w.mysqldetails with
    | none =>
      simp only [step, hfile]
      exact (wp_appendToOutput _).mpr (hsame (Or.inl hfile) _)
    | some s =>
      have hne : w.mysqldetails ≠ none := by simp [hfile]
      simp only [step, hfile]
      cases hline : firstLine s with
      | none =>
        refine hcrash _ w hne ?_ hself
        simp [detailPieces, hfile, hline]
      | some line =>
        have hpieces : detailPieces w.mysqldetails = split line ',' := by
          simp [detailPieces, hfile, hline]
        simp only [Bool.false_eq_true, if_false, loadLine, wp_bind, ← hpieces]
        have hshort : ∀ {i : Nat}, i < 3 → (detailPieces w.mysqldetails)[i]? = none →
            (detailPieces w.mysqldetails).length < 3 := fun hi h =>
          Nat.lt_of_le_of_lt (List.getElem?_eq_none_iff.mp h) hi
        refine wp_loadDetail (fun a ha => ?_) fun h => hcrash _ _ hne (hshort (by decide) h) hself
        have hpartly := @Partly.setMysql w w .mysqlAddress a .wsnGeneralMysqlAddressField hself ha
        refine wp_loadDetail (fun u hu => ?_) fun h =>
          hcrash _ _ hne (hshort (by decide) h) hpartly
        have hpartly := @Partly.setMysql w _ .mysqlUser u .wsnGeneralMysqlUserField hpartly hu
        refine wp_loadDetail (fun p hp => ?_) fun h =>
          hcrash _ _ hne (hshort (by decide) h) hpartly
        have h := hloaded (fun
          | .mysqlAddress => a
          | .mysqlUser => u
          | .mysqlPass => p) (fun d => by cases d <;> assumption)
        rwa [← World.loading_eq] at h
  · cases hfile : w.mysqldetails with
    | none =>
      simp only [step, hfile]
      exact (wp_appendToOutput _).mpr (hsame (Or.inl hfile) _)
    | some s =>
      simp only [step, hfile, if_true]
      exact (wp_appendToOutput _).mpr (hsame (Or.inr hmay) _)

/-- The details in force, and their fields, are those of a file. -/
def Loaded (file : Option String) (w : World) : Prop :=
  ∀ d, ∃ s, (detailPieces file)[d.index]? = some s ∧ w.mysql d = some s ∧ w.text d.field = s

/-- The details in force, and their fields, are as they were. -/
def SameDetails (w w' : World) : Prop :=
  ∀ d, w'.mysql d = w.mysql d ∧ w'.text d.field = w.text d.field

theorem redraws_allSelects :
    Redraws (fun _ => True) (do updateNodeSelects; updateActuatorsSelects) :=
  (redraws_updateNodeSelects.mono fun _ _ => trivial).bind fun _ =>
    redraws_updateActuatorsSelects.mono fun _ _ => trivial

/-- **Loading.** Whatever fails, the details are those of the file or as they were, unless the
line is too short. -/
theorem wp_loadMysqlDetails : wp (under col may) loadMysqlDetails
    (fun _ w' => w'.mysqldetails = w.mysqldetails ∧ (Loaded w.mysqldetails w' ∨
      (w.mysqldetails = none ∨ may .readMysqldetails) ∧ SameDetails w w'))
    (fun _ w' => w.mysqldetails ≠ none ∧ (detailPieces w.mysqldetails).length < 3 ∧ Partly w w')
    w := by
  rw [loadMysqlDetails, wp_bind]
  refine wp_loadFile (fun hwhy q => ?_) (fun v hv => ?_) fun e w' hne hshort hpartly =>
    ⟨hne, hshort, hpartly⟩
  · refine wp_redraws redraws_allSelects fun _ t b q hf => ⟨rfl, Or.inr ⟨hwhy, fun d => ?_⟩⟩
    exact ⟨rfl, hf.text _ d.field_not_shows⟩
  · refine wp_redraws redraws_allSelects fun _ t b q hf => ⟨rfl, Or.inl fun d => ?_⟩
    exact ⟨v d, hv d, rfl, (hf.text _ d.field_not_shows).trans (w.text_loading v d)⟩

/-- Start-up loads the details, and makes the two lists unless the line is too short. -/
theorem wp_startUp : wp (under col may) startUp
    (fun _ w' => (w'.ignoreNodeList = some [] ∧ w'.ignoreSensorList = some []) ∧
      w'.mysqldetails = w.mysqldetails ∧ (Loaded w.mysqldetails w' ∨
        (w.mysqldetails = none ∨ may .readMysqldetails) ∧ SameDetails w w'))
    (fun _ w' => w.mysqldetails ≠ none ∧ (detailPieces w.mysqldetails).length < 3 ∧ Partly w w')
    w := by
  rw [startUp, wp_bind]
  refine wp_loadMysqlDetails.mono (fun _ w' h => ?_) fun _ _ h => h
  rw [wp_bind]
  refine (wp_call_steady (c := .setIgnoreNodeList []) fun _ => rfl).mpr ?_
  refine (wp_call_steady (c := .setIgnoreSensorList []) fun _ => rfl).mpr ?_
  exact ⟨⟨rfl, rfl⟩, h⟩

theorem not_loaded {file : Option String} (hshort : (detailPieces file).length < 3) :
    ¬ Loaded file w := by
  intro h
  obtain ⟨s, hs, -⟩ := h .mysqlPass
  have hnone : (detailPieces file)[Detail.mysqlPass.index]? = none :=
    List.getElem?_eq_none (Nat.le_of_lt_succ hshort)
  rw [hnone] at hs
  cases hs

/-- **Loading or not.** Whatever fails, loading returns with all details and fields taken from the
file or all as they were, and start-up goes on to make both ignore lists, if and only if there is
no file or its first line has three pieces. -/
theorem loadMysqlDetails_settled_iff (col : Collation) (file : Option String) :
    ((∀ w l r w', w.mysqldetails = file → Runs (under col anyFault) loadMysqlDetails w l r w' →
      r = .ok () ∧ (Loaded file w' ∨ SameDetails w w')) ∧
    ∀ servers l r w', Runs (under col anyFault) startUp (.launched servers file) l r w' →
      r = .ok () ∧ w'.ignoreNodeList ≠ none ∧ w'.ignoreSensorList ≠ none) ↔
    (file = none ∨ 3 ≤ (detailPieces file).length) := by
  constructor
  · rintro ⟨hload, -⟩
    by_contra hfile
    obtain ⟨hne, hshort⟩ : file ≠ none ∧ (detailPieces file).length < 3 := by
      simpa [not_or] using hfile
    have hruns := @runs_play_under col _ loadMysqlDetails [] (.launched (fun _ => .empty) file)
      (by simp)
    obtain ⟨hr, -⟩ := hload _ _ _ _ rfl (hruns anyFault)
    have hout := (hruns fun _ => False).outcome_of_wp wp_loadMysqlDetails
    rw [hr] at hout
    obtain ⟨-, hloaded | ⟨hnone | hfails, -⟩⟩ := hout
    · exact not_loaded hshort hloaded
    · exact hne hnone
    · exact hfails
  · intro hfile
    have hlong : ∀ {file' : Option String}, file' = file → file' ≠ none →
        ¬ (detailPieces file').length < 3 := by
      rintro _ rfl hne
      rcases hfile with hnone | hlen
      · exact absurd hnone hne
      · exact Nat.not_lt.mpr hlen
    refine ⟨fun w l r w' hw hrun => ?_, fun servers l r w' hrun => ?_⟩
    · have hout := hrun.outcome_of_wp wp_loadMysqlDetails
      cases r with
      | ok u => exact ⟨rfl, hw ▸ hout.2.imp_right fun h => h.2⟩
      | error e => exact absurd hout.2.1 (hlong hw hout.1)
    · have hout := hrun.outcome_of_wp wp_startUp
      cases r with
      | ok u => exact ⟨rfl, by simp [hout.1.1], by simp [hout.1.2]⟩
      | error e => exact absurd hout.2.1 (hlong rfl hout.1)

/-- A file with a line of two pieces stops start-up. -/
theorem not_always_settled : ¬ ∀ (col : Collation) (file : Option String)
    (servers : String → Database) (w' : World) (l : List (Event calls World))
    (r : Except Exn Unit), Runs (under col anyFault) startUp (.launched servers file) l r w' →
    r = .ok () ∧ w'.ignoreNodeList ≠ none ∧ w'.ignoreSensorList ≠ none := by
  intro h
  have hfine := h .exact (some "jdbc:mysql://db,root") _ _ _ _
    (runs_play_under startUp [] (.launched (fun _ => .empty) _) (by simp) anyFault)
  revert hfine
  decide +kernel

/-! ## What is written -/

/-- The details that what is typed stands for. -/
def entered (v : Detail → String) : Detail → String
  | .mysqlAddress => "jdbc:mysql://" ++ v .mysqlAddress
  | d => v d

/-- The text of the file for some details. -/
def fileText (v : Detail → String) : String :=
  v .mysqlAddress ++ "," ++ v .mysqlUser ++ "," ++ v .mysqlPass

/-- The string has no comma and no line break. -/
def Plain (s : String) : Prop := ∀ c ∈ s.toList, c ≠ ',' ∧ c ≠ '\n' ∧ c ≠ '\r'

instance (s : String) : Decidable (Plain s) := inferInstanceAs (Decidable (∀ c ∈ s.toList, _))

theorem toList_fileText (v : Detail → String) : (fileText v).toList =
    [','].intercalate [(v .mysqlAddress).toList, (v .mysqlUser).toList, (v .mysqlPass).toList] := by
  simp [fileText, List.intercalate]

theorem split_eq_fields {s : String} (h : ',' ∈ s.toList) :
    split s ',' = (fields ',' s.toList).map String.ofList := if_pos h

theorem comma_mem_fileText (v : Detail → String) : ',' ∈ (fileText v).toList := by
  simp [fileText]

/-- Details without line breaks are on one line. -/
theorem firstLine_fileText {v : Detail → String} (hv : ∀ d, Plain (v d)) :
    firstLine (fileText v) = some (fileText v) := by
  have hne : (fileText v).isEmpty = false := by
    rw [← Bool.not_eq_true, String.isEmpty_iff]
    intro h
    have := comma_mem_fileText v
    rw [h] at this
    cases this
  have hall : ∀ c ∈ (fileText v).toList, (c ≠ '\n' && c ≠ '\r') = true := by
    intro c hc
    simp only [fileText, String.toList_append, List.mem_append] at hc
    obtain (((hc | hc) | hc) | hc) | hc := hc
    · simpa using (hv _ c hc).2
    · rw [List.mem_singleton.mp hc]
      decide
    · simpa using (hv _ c hc).2
    · rw [List.mem_singleton.mp hc]
      decide
    · simpa using (hv _ c hc).2
  rw [firstLine, if_neg (by simp [hne]), List.takeWhile_eq_self_iff.mpr hall, String.ofList_toList]

/-- A piece of a line with a comma is plain. -/
theorem plain_of_mem_detailPieces {file : Option String} {s : String}
    (hlen : 2 ≤ (detailPieces file).length) (hs : s ∈ detailPieces file) : Plain s := by
  unfold detailPieces at hlen hs
  cases hline : file.bind firstLine with
  | none => simp [hline] at hs
  | some line =>
    simp only [hline] at hlen hs
    have hcomma : ',' ∈ line.toList := by
      by_contra hnot
      simp [split, hnot] at hlen
    rw [split_eq_fields hcomma] at hs
    obtain ⟨f, hf, rfl⟩ := List.mem_map.mp hs
    obtain ⟨text, -, htext⟩ := Option.bind_eq_some_iff.mp hline
    intro c hc
    rw [String.toList_ofList] at hc
    obtain ⟨hnot, hsub⟩ := of_mem_fields hf
    refine ⟨fun h => hnot (h ▸ hc), ?_⟩
    have hc := hsub hc
    unfold firstLine at htext
    split at htext
    · cases htext
    · rw [← Option.some_inj.mp htext, String.toList_ofList] at hc
      simpa using List.mem_takeWhile_imp hc

/-- **What is read back.** -/
theorem detailPieces_fileText {v : Detail → String} :
    (∀ d, (detailPieces (some (fileText v)))[d.index]? = some (v d)) ↔
      (∀ d, Plain (v d)) ∧ v .mysqlPass ≠ "" := by
  have hpieces : (∀ d, Plain (v d)) → detailPieces (some (fileText v)) =
      (fields ',' (fileText v).toList).map String.ofList := by
    intro hv
    simp [detailPieces, firstLine_fileText hv, split_eq_fields (comma_mem_fileText v)]
  have hsep : (∀ d, Plain (v d)) → ∀ f ∈ [(v .mysqlAddress).toList, (v .mysqlUser).toList],
      ',' ∉ f := by
    intro hv f hf hc
    obtain rfl | rfl : f = (v .mysqlAddress).toList ∨ f = (v .mysqlUser).toList := by simpa using hf
    · exact (hv _ _ hc).1 rfl
    · exact (hv _ _ hc).1 rfl
  constructor
  · intro h
    have hlen : 2 < (detailPieces (some (fileText v))).length :=
      (List.getElem?_eq_some_iff.mp (h .mysqlPass)).1
    have hplain : ∀ d, Plain (v d) := fun d =>
      plain_of_mem_detailPieces (Nat.le_of_lt hlen) (List.mem_of_getElem? (h d))
    refine ⟨hplain, fun hempty => ?_⟩
    have hlost := length_fields_le (hsep hplain)
    rw [hpieces hplain, List.length_map, toList_fileText, hempty] at hlen
    exact absurd hlen (Nat.not_lt.mpr hlost)
  · rintro ⟨hplain, hpass⟩ d
    have hback := @fields_intercalate _ _ ',' (v .mysqlPass).toList _ (hsep hplain)
      (by simpa using hpass) fun hc => (hplain _ _ hc).1 rfl
    rw [hpieces hplain, toList_fileText]
    simp only [List.cons_append, List.nil_append] at hback
    rw [hback]
    cases d <;> simp [Detail.index]

/-! ## Saving, and starting again -/

/-- No call to the file fails. -/
def fileFine : Call → Prop
  | .readMysqldetails | .writeMysqldetails _ => False
  | _ => True

/-- The buttons that put what is typed in force. -/
inductive MysqlButton where
  | update
  | save

def MysqlButton.button : MysqlButton → Button
  | .update => .wsnGeneralUpdateMysqlAddressButton
  | .save => .wsnGeneralSaveMysqlDetailsButton

/-- What is typed into the three fields. -/
def World.typed (w : World) (d : Detail) : String := w.text d.field

/-- The program is started over the file that `w` leaves. -/
def Restarts (col : Collation) (w w' : World) : Prop :=
  ∃ servers l r, Runs (under col fileFine) startUp (.launched servers w.mysqldetails) l r w'

/-- The details in force and the file are the same. -/
def SameStored (w w' : World) : Prop := w'.mysql = w.mysql ∧ w'.mysqldetails = w.mysqldetails

section Saving

variable [Jdk]

/-- A button is pressed, and what it runs goes to its end. -/
def Presses (col : Collation) (b : Button) (w w' : World) : Prop :=
  ∃ l r, Runs (under col fileFine) (actionPerformed b) w l r w'

/-- However often the program is started again and a button pressed, nothing changes. -/
def Stays (col : Collation) : List MysqlButton → World → Prop
  | [], _ => True
  | b :: bs, w => ∀ w₁ w₂, Restarts col w w₁ → Presses col b.button w₁ w₂ →
      SameStored w w₁ ∧ SameStored w w₂ ∧ Stays col bs w₂

omit [Jdk] in
theorem wp_takeFields {Q : Unit → World → Prop}
    (h : Q () { w with mysql := fun d => some (entered w.typed d) }) :
    wp (under col may) takeMysqlFields Q E w := by
  have hset : ∀ d s {R : Unit → World → Prop} {w' : World}, wp (α := Unit) (under col may)
      (call (.setMysql d s)) R E w' ↔ R () (w'.setMysql d s) :=
    fun d s {R w'} => wp_call_steady (c := .setMysql d s) fun _ => rfl
  have hmysql : Function.update (Function.update (Function.update w.mysql .mysqlAddress
      (some ("jdbc:mysql://" ++ w.text .wsnGeneralMysqlAddressField))) .mysqlUser
      (some (w.text .wsnGeneralMysqlUserField))) .mysqlPass
      (some (w.text .wsnGeneralMysqlPassField)) = fun d => some (entered w.typed d) := by
    funext d
    cases d <;> rfl
  simp only [takeMysqlFields, wp_bind, wp_getText, hset]
  simp only [World.setMysql, hmysql]
  exact h

/-- What pressing one of the two buttons does. -/
theorem wp_mysqlButton (b : MysqlButton) : wp (under col fileFine) (actionPerformed b.button)
    (fun _ w' => w'.mysql = (fun d => some (entered w.typed d)) ∧
      (b = .save → w'.mysqldetails = some (fileText (entered w.typed))))
    (fun _ _ => False) w := by
  have hget : ∀ d {R : Option String → World → Prop} {w' : World},
      wp (α := Option String) (under col fileFine) (call (.getMysql d)) R (fun _ _ => False) w' ↔
        R (w'.mysql d) w' :=
    fun d {R w'} => wp_call_steady (c := .getMysql d) fun _ => rfl
  cases b with
  | update =>
    simp only [MysqlButton.button, actionPerformed, wp_bind]
    refine wp_takeFields (wp_redraws redraws_updateNodeSelects fun _ t c q _ => ⟨rfl, by simp⟩)
  | save =>
    simp only [MysqlButton.button, actionPerformed, wp_bind]
    refine wp_takeFields ?_
    simp only [saveMysqlDetails, wp_bind, hget]
    refine (wp_call_faulty (.writeMysqldetails _)).mpr ⟨fun r => ?_, fun h => h.elim⟩
    rw [wp_ite]
    refine ⟨fun _ => ?_, fun h => absurd rfl h⟩
    rw [wp_appendToOutput]
    exact ⟨rfl, fun _ => rfl⟩

theorem Presses.of_mysqlButton {b : MysqlButton} {w' : World} (h : Presses col b.button w w') :
    w'.mysql = (fun d => some (entered w.typed d)) ∧
      (b = .save → w'.mysqldetails = some (fileText (entered w.typed))) := by
  obtain ⟨l, r, hrun⟩ := h
  have hout := hrun.outcome_of_wp (wp_mysqlButton b)
  cases r with
  | ok u => exact hout
  | error e => exact hout.elim

theorem exists_presses (col : Collation) (b : Button) (w : World) : ∃ w', Presses col b w w' :=
  ⟨_, _, _, runs_play_under _ [] w (by simp) _⟩

omit [Jdk] in
theorem exists_restarts (col : Collation) (w : World) : ∃ w', Restarts col w w' :=
  ⟨_, fun _ => .empty, _, _, runs_play_under _ [] _ (by simp) _⟩

omit [Jdk] in
/-- What is in force after a restart is in the file. -/
theorem Restarts.piece {w' : World} {d : Detail} {s : String} (h : Restarts col w w')
    (hfile : w.mysqldetails ≠ none) (hs : w'.mysql d = some s) :
    (detailPieces w.mysqldetails)[d.index]? = some s := by
  obtain ⟨servers, l, r, hrun⟩ := h
  have hout := hrun.outcome_of_wp wp_startUp
  cases r with
  | ok u =>
    obtain ⟨-, -, hloaded | ⟨hnone | hfails, -⟩⟩ := hout
    · obtain ⟨t, ht, hmysql, -⟩ := hloaded d
      rw [← hs, hmysql] at *
      exact ht
    · exact absurd hnone hfile
    · exact hfails.elim
  | error e =>
    rcases hout.2.2 d s hs with hnone | hpiece
    · cases hnone
    · exact hpiece

omit [Jdk] in
/-- A restart over details that can be read back puts them in force and into their fields. -/
theorem Restarts.loaded {w' : World} {v : Detail → String} (h : Restarts col w w')
    (hfile : w.mysqldetails = some (fileText v))
    (hv : ∀ d, (detailPieces (some (fileText v)))[d.index]? = some (v d)) :
    w'.mysql = (fun d => some (v d)) ∧ w'.typed = v ∧ w'.mysqldetails = w.mysqldetails := by
  obtain ⟨servers, l, r, hrun⟩ := h
  rw [hfile] at hrun
  have hout := hrun.outcome_of_wp wp_startUp
  cases r with
  | ok u =>
    obtain ⟨-, hsame, hloaded | ⟨hnone | hfails, -⟩⟩ := hout
    · have hpiece : ∀ d, w'.mysql d = some (v d) ∧ w'.text d.field = v d := fun d => by
        obtain ⟨s, hs, hmysql, htext⟩ := hloaded d
        obtain rfl : s = v d := Option.some_inj.mp (hs.symm.trans (hv d))
        exact ⟨hmysql, htext⟩
      exact ⟨funext fun d => (hpiece d).1, funext fun d => (hpiece d).2, hsame.trans hfile.symm⟩
    · cases hnone
    · exact hfails.elim
  | error e =>
    have hlen := (List.getElem?_eq_some_iff.mp (hv .mysqlPass)).1
    exact absurd hout.2.1 (Nat.not_lt.mpr hlen)

omit [Jdk] in
theorem plain_entered {v : Detail → String} {d : Detail} :
    Plain (entered v d) ↔ Plain (v d) := by
  have hprefix : ∀ c ∈ "jdbc:mysql://".toList, c ≠ ',' ∧ c ≠ '\n' ∧ c ≠ '\r' := by simp
  cases d with
  | mysqlAddress =>
    simp only [Plain, entered, String.toList_append, List.forall_mem_append]
    exact and_iff_right hprefix
  | mysqlUser | mysqlPass => rfl

omit [Jdk] in
theorem entered_ne (v : Detail → String) : entered (entered v) ≠ entered v := by
  intro h
  have hlen := congrArg String.length (congrFun h .mysqlAddress)
  simp [entered] at hlen

/-- **Coming back.** Details that are saved are in force again after a restart, and stay as they
are through further restarts and presses of the two buttons, if and only if they are plain, the
password is not empty and there are no further ones. -/
theorem saved_iff (col : Collation) (v : Detail → String) (bs : List MysqlButton) :
    (∀ w w₁ w₂, w.typed = v → Presses col .wsnGeneralSaveMysqlDetailsButton w w₁ →
      Restarts col w₁ w₂ → w₂.mysql = w₁.mysql ∧ Stays col bs w₂) ↔
    (∀ d, Plain (v d)) ∧ v .mysqlPass ≠ "" ∧ bs = [] := by
  have hback : (∀ d, (detailPieces (some (fileText (entered v))))[d.index]? =
      some (entered v d)) ↔ (∀ d, Plain (v d)) ∧ v .mysqlPass ≠ "" := by
    rw [detailPieces_fileText]
    simp only [plain_entered]
    rfl
  constructor
  · intro h
    obtain ⟨w₁, hsave⟩ := exists_presses col .wsnGeneralSaveMysqlDetailsButton
      ((World.launched (fun _ => .empty) none).loading v)
    obtain ⟨w₂, hrestart⟩ := exists_restarts col w₁
    have htyped : ((World.launched (fun _ => .empty) none).loading v).typed = v :=
      funext (World.text_loading _ v)
    obtain ⟨hmysql, hstays⟩ := h _ w₁ w₂ htyped hsave hrestart
    obtain ⟨hforce, hfile⟩ := Presses.of_mysqlButton (b := .save) hsave
    have hfile := hfile rfl
    rw [htyped] at hforce hfile
    have hpieces : ∀ d, (detailPieces (some (fileText (entered v))))[d.index]? =
        some (entered v d) := fun d => by
      rw [← hfile]
      exact hrestart.piece (by simp [hfile]) (by rw [hmysql, hforce])
    refine ⟨(hback.mp hpieces).1, (hback.mp hpieces).2, ?_⟩
    cases bs with
    | nil => rfl
    | cons b bs =>
      -- One more round puts the prefix before the address once more.
      obtain ⟨-, -, hfile₂⟩ := hrestart.loaded hfile hpieces
      obtain ⟨w₃, hrestart₃⟩ := exists_restarts col w₂
      obtain ⟨w₄, hpress⟩ := exists_presses col b.button w₃
      obtain ⟨-, ⟨hsame, -⟩, -⟩ := hstays w₃ w₄ hrestart₃ hpress
      obtain ⟨-, htyped₃, -⟩ := hrestart₃.loaded (hfile₂.trans hfile) hpieces
      have htwice := hpress.of_mysqlButton.1
      rw [hsame, hmysql, hforce, htyped₃] at htwice
      exact absurd (funext fun d => Option.some_inj.mp (congrFun htwice d).symm) (entered_ne v)
  · rintro ⟨hplain, hpass, rfl⟩ w w₁ w₂ htyped hsave hrestart
    obtain ⟨hforce, hfile⟩ := Presses.of_mysqlButton (b := .save) hsave
    have hloaded := hrestart.loaded (hfile rfl) (by rw [htyped]; exact hback.mpr ⟨hplain, hpass⟩)
    exact ⟨hloaded.1.trans hforce.symm, trivial⟩

end Saving

/-! ## A user without a password -/

/-- A user without a password. -/
def noPassword : Detail → String
  | .mysqlAddress => "localhost/cr"
  | .mysqlUser => "root"
  | .mysqlPass => ""

/-- The window into which they were typed. -/
def noPasswordTyped : World := (World.launched (fun _ => .empty) none).loading noPassword

/-- After *Save*. -/
def noPasswordSaved : World :=
  ((machine .exact).play .fine (@actionPerformed plainJdk .wsnGeneralSaveMysqlDetailsButton) []
    noPasswordTyped).2.2

/-- The details do not come back. -/
theorem not_always_saved : ¬ ∀ (jdk : Jdk) (col : Collation) (v : Detail → String)
    (bs : List MysqlButton) (w w₁ w₂ : World), w.typed = v →
    @Presses jdk col .wsnGeneralSaveMysqlDetailsButton w w₁ → Restarts col w₁ w₂ →
    w₂.mysql = w₁.mysql ∧ @Stays jdk col bs w₂ := by
  intro h
  have hsave : @Presses plainJdk .exact .wsnGeneralSaveMysqlDetailsButton noPasswordTyped
      noPasswordSaved := ⟨_, _, @runs_play_under .exact _ _ [] noPasswordTyped (by simp) _⟩
  have hrestart : Restarts .exact noPasswordSaved _ :=
    ⟨fun _ => .empty, _, _, runs_play_under startUp [] _ (by simp) _⟩
  have hpass := congrFun (h plainJdk .exact noPassword [] _ _ _ (by funext d; cases d <;> rfl)
    hsave hrestart).1 .mysqlPass
  revert hpass
  decide +kernel

end CrossingReality
