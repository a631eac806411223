import CrossingReality.Bodies
import CrossingReality.Formats.Separated

/-!
# What one read brings

The handler reads the body of a request once, into 32 bytes, and takes what the read brings for
the whole. What it has not filled stays zero, which the trimming of the action takes off again.

* `parseBody_readBody` — when what is parsed is the command of the whole body.
* `handle_pieces_iff` — when the handler forwards that command, or answers 400.
-/

namespace CrossingReality

open Effects Formats

/-! ## Cutting a text in two -/

section Texts

variable {s t : List Char} {sep : Char}

theorem split_of_not_mem (h : sep ∉ s) : split (String.ofList s) sep = [String.ofList s] := by
  rw [split, String.toList_ofList, if_neg h]

/-- The second piece of a text with one separator. -/
theorem split_second (hs : sep ∉ s) (ht : sep ∉ t) :
    (split (String.ofList (s ++ sep :: t)) sep)[1]? =
      if t = [] then none else some (String.ofList t) := by
  by_cases hne : t = []
  · subst hne
    have hlen := @length_fields_le _ _ sep [s] (by simpa using hs)
    have hjoin : [sep].intercalate ([s] ++ [[]]) = s ++ [sep] := by simp [List.intercalate]
    rw [hjoin] at hlen
    rw [if_pos rfl, split, String.toList_ofList, if_pos (by simp), List.getElem?_eq_none_iff,
      List.length_map]
    exact hlen
  · rw [split_pair hs ht hne, if_neg hne]
    rfl

theorem valueOf_of_not_mem (h : '=' ∉ s) : valueOf (String.ofList s) = none := by
  rw [valueOf, split_of_not_mem h]
  rfl

theorem valueOf_eq (hs : '=' ∉ s) (ht : '=' ∉ t) :
    valueOf (String.ofList (s ++ '=' :: t)) = if t = [] then none else some (String.ofList t) :=
  split_second hs ht

theorem parseBody_of_not_mem (h : '&' ∉ s) : parseBody (String.ofList s) = none := by
  rw [parseBody, split_of_not_mem h]
  cases valueOf (String.ofList s) <;> simp

theorem parseBody_eq (hs : '&' ∉ s) (ht : '&' ∉ t) :
    parseBody (String.ofList (s ++ '&' :: t)) =
      if t = [] then none
      else (valueOf (String.ofList s)).bind fun id =>
        (valueOf (String.ofList t)).map fun action => (id, trim action) := by
  by_cases hne : t = []
  · have hsecond := split_second hs ht
    rw [if_pos hne] at hsecond ⊢
    rw [parseBody, hsecond]
    cases (split (String.ofList (s ++ '&' :: t)) '&')[0]? with
    | none => rfl
    | some pair => cases valueOf pair <;> simp
  · rw [if_neg hne, parseBody, split_pair hs ht hne]
    cases hv : valueOf (String.ofList s) <;> cases hw : valueOf (String.ofList t) <;> simp [hv, hw]

/-- Zeros at the end are trimmed away. -/
theorem trim_zeros (l : List Char) (n : Nat) :
    trim (String.ofList (l ++ List.replicate n '\x00')) = trim (String.ofList l) := by
  have hpad : ∀ c ∈ List.replicate n '\x00', decide (c ≤ ' ') = true := by
    intro c hc
    rw [List.eq_of_mem_replicate hc]
    decide
  have hend : ∀ m : List Char, (m ++ List.replicate n '\x00').rdropWhile
      (fun c => decide (c ≤ ' ')) = m.rdropWhile fun c => decide (c ≤ ' ') := by
    intro m
    rw [List.rdropWhile, List.reverse_append, List.dropWhile_append_of_pos (by simp),
      ← List.rdropWhile]
  rw [trim, trim, String.toList_ofList, String.toList_ofList]
  by_cases hblank : ∀ c ∈ l, decide (c ≤ ' ') = true
  · rw [List.dropWhile_append_of_pos hblank, List.dropWhile_eq_nil_iff.mpr hpad,
      List.dropWhile_eq_nil_iff.mpr hblank]
  · have hne : l.dropWhile (fun c => decide (c ≤ ' ')) ≠ [] := fun h =>
      hblank (List.dropWhile_eq_nil_iff.mp h)
    rw [List.dropWhile_append, if_neg (by simpa using hne), hend]

end Texts

/-! ## Bytes and characters -/

/-- A charset in which an ASCII byte is always its own character, whatever is around it, and other
bytes stand for other characters. -/
structure ExtendsAscii [Jdk] : Prop where
  nil : Jdk.decode [] = ""
  ascii : ∀ (bs : List UInt8) (b : UInt8) (rest : List UInt8), b.toNat < 128 →
    Jdk.decode (bs ++ b :: rest) =
      Jdk.decode bs ++ (String.singleton (Char.ofNat b.toNat) ++ Jdk.decode rest)
  other : ∀ bs : List UInt8, bs ≠ [] → (∀ b ∈ bs, 128 ≤ b.toNat) →
    Jdk.decode bs ≠ "" ∧ ∀ c ∈ (Jdk.decode bs).toList, 128 ≤ c.toNat

/-- The characters of some bytes. -/
def decoded [Jdk] (bs : List UInt8) : List Char := (Jdk.decode bs).toList

section Charset

variable [Jdk] {bs rest : List UInt8} {b : UInt8}

theorem decoded_nil (hcharset : ExtendsAscii) : decoded [] = [] := by
  rw [decoded, hcharset.nil]
  rfl

theorem decoded_append (hcharset : ExtendsAscii) (hb : b.toNat < 128) :
    decoded (bs ++ b :: rest) = decoded bs ++ Char.ofNat b.toNat :: decoded rest := by
  simp [decoded, hcharset.ascii bs b rest hb]

theorem decoded_cons (hcharset : ExtendsAscii) (hb : b.toNat < 128) :
    decoded (b :: rest) = Char.ofNat b.toNat :: decoded rest := by
  have h := @decoded_append _ [] rest b hcharset hb
  rwa [decoded_nil hcharset] at h

theorem decoded_zeros (hcharset : ExtendsAscii) (bs : List UInt8) (n : Nat) :
    decoded (bs ++ List.replicate n 0) = decoded bs ++ List.replicate n '\x00' := by
  have hzeros : ∀ n, decoded (List.replicate n 0) = List.replicate n '\x00' := by
    intro n
    induction n with
    | zero => exact decoded_nil hcharset
    | succ n ih =>
      rw [List.replicate_succ, decoded_cons hcharset (by decide), ih]
      rfl
  cases n with
  | zero => simp
  | succ n =>
    rw [List.replicate_succ, decoded_append hcharset (by decide), hzeros]
    rfl

omit [Jdk] in
/-- A text is its bytes up to some ASCII byte, that byte, and the rest, or has none. -/
theorem exists_ascii_or (bs : List UInt8) :
    (∃ pre b rest, bs = pre ++ b :: rest ∧ b.toNat < 128) ∨ ∀ b ∈ bs, 128 ≤ b.toNat := by
  by_cases h : ∃ b ∈ bs, b.toNat < 128
  · obtain ⟨b, hb, hlt⟩ := h
    obtain ⟨pre, rest, rfl⟩ := List.append_of_mem hb
    exact Or.inl ⟨pre, b, rest, rfl, hlt⟩
  · exact Or.inr fun b hb => Nat.le_of_not_lt fun hlt => h ⟨b, hb, hlt⟩

omit [Jdk] in
theorem toNat_ofNat {n : Nat} (h : n < 256) : (Char.ofNat n).toNat = n := by
  have hvalid : n.isValidChar := Or.inl (Nat.lt_of_lt_of_le h (by decide))
  rw [Char.ofNat, dif_pos hvalid]
  rfl

/-- An ASCII character comes from its byte. -/
theorem mem_of_mem_decoded (hcharset : ExtendsAscii) {c : Char} (hc : c.toNat < 128)
    (h : c ∈ decoded bs) : UInt8.ofNat c.toNat ∈ bs := by
  induction hn : bs.length using Nat.strongRecOn generalizing bs with
  | _ n ih =>
    rcases exists_ascii_or bs with ⟨pre, b, rest, rfl, hb⟩ | hother
    · rw [decoded_append hcharset hb] at h
      simp only [List.length_append, List.length_cons] at hn
      rcases List.mem_append.mp h with h | h
      · exact List.mem_append_left _ (ih _ (by omega) h rfl)
      · rcases List.mem_cons.mp h with rfl | h
        · rw [toNat_ofNat b.toNat_lt, UInt8.ofNat_toNat]
          exact List.mem_append_right _ List.mem_cons_self
        · exact List.mem_append_right _ (List.mem_cons_of_mem _ (ih _ (by omega) h rfl))
    · by_cases hnil : bs = []
      · rw [hnil, decoded_nil hcharset] at h
        cases h
      · exact absurd hc (Nat.not_lt.mpr ((hcharset.other bs hnil hother).2 c h))

theorem decoded_ne_nil (hcharset : ExtendsAscii) (h : bs ≠ []) : decoded bs ≠ [] := by
  rcases exists_ascii_or bs with ⟨pre, b, rest, rfl, hb⟩ | hother
  · rw [decoded_append hcharset hb]
    simp
  · rw [decoded, ne_eq, String.toList_eq_nil_iff]
    exact (hcharset.other bs h hother).1

end Charset

/-! ## The first read -/

/-- No separator of a form. -/
def NoSeparator (bs : List UInt8) : Prop := 38 ∉ bs ∧ 61 ∉ bs

instance (bs : List UInt8) : Decidable (NoSeparator bs) := inferInstanceAs (Decidable (_ ∧ _))

/-- The bytes of `id=x&action=y`. -/
def commandBytes (x y : List UInt8) : List UInt8 :=
  asciiBytes "id=" ++ (x ++ (asciiBytes "&action=" ++ y))

/-- How many bytes of a body that comes in pieces the handler sees. -/
def firstRead (pieces : List (List UInt8)) : Nat := min 32 (pieces.headD []).length

theorem readBody_eq (ex : HttpExchange) : readBody ex =
    ex.body.flatten.take (firstRead ex.body) ++
      List.replicate (32 - firstRead ex.body) 0 := by
  have hgot : (ex.body.headD []).take 32 = ex.body.flatten.take (firstRead ex.body) := by
    rw [firstRead]
    cases ex.body with
    | nil => rfl
    | cons chunk chunks =>
      rw [List.headD_cons, List.flatten_cons, List.take_append_of_le_length (Nat.min_le_right _ _)]
      rcases Nat.le_total 32 chunk.length with h | h
      · rw [Nat.min_eq_left h]
      · rw [Nat.min_eq_right h, List.take_of_length_le h, List.take_length]
  rw [readBody, hgot, ← hgot, List.length_take, firstRead]

theorem firstRead_le (pieces : List (List UInt8)) : firstRead pieces ≤ pieces.flatten.length := by
  rw [firstRead]
  cases pieces with
  | nil => exact Nat.zero_le _
  | cons chunk chunks =>
    rw [List.headD_cons, List.flatten_cons, List.length_append]
    omega

/-- The first read brings the id, and of the action all but blanks. -/
def Brings [Jdk] (pieces : List (List UInt8)) (x y : List UInt8) : Prop :=
  x ≠ [] ∧ x.length ≤ 20 ∧ x.length + 11 ≤ firstRead pieces ∧
    trim (Jdk.decode (y.take (firstRead pieces - (x.length + 11)))) = trim (Jdk.decode y)

section Parsing

variable [Jdk] {ex : HttpExchange} {x y : List UInt8}

/-- Bytes without a separator have none in their characters. -/
theorem not_mem_decoded (hcharset : ExtendsAscii) {bs : List UInt8} (h : NoSeparator bs) :
    '&' ∉ decoded bs ∧ '=' ∉ decoded bs :=
  ⟨fun hc => h.1 (mem_of_mem_decoded hcharset (by decide) hc),
    fun hc => h.2 (mem_of_mem_decoded hcharset (by decide) hc)⟩

theorem decode_eq (bs : List UInt8) : Jdk.decode bs = String.ofList (decoded bs) :=
  (String.ofList_toList).symm

/-- The characters of a command whose id is whole. -/
theorem decoded_command (hcharset : ExtendsAscii) (x rest : List UInt8) :
    decoded (asciiBytes "id=" ++ (x ++ 38 :: rest)) =
      ("id".toList ++ '=' :: decoded x) ++ '&' :: decoded rest := by
  have hbytes : asciiBytes "id=" ++ (x ++ 38 :: rest) = 105 :: 100 :: 61 :: (x ++ 38 :: rest) := rfl
  rw [hbytes, decoded_cons hcharset (by decide), decoded_cons hcharset (by decide),
    decoded_cons hcharset (by decide), decoded_append hcharset (by decide)]
  rfl

theorem amp_not_mem_id (hcharset : ExtendsAscii) (hx : NoSeparator x) :
    '&' ∉ "id".toList ++ '=' :: decoded x := by
  simpa using (not_mem_decoded hcharset hx).1

omit [Jdk] in
theorem commandBytes_eq (x y : List UInt8) :
    commandBytes x y = asciiBytes "id=" ++ (x ++ 38 :: (asciiBytes "action=" ++ y)) := rfl

/-- A read that ends before the second `=` brings nothing that can be parsed. -/
theorem parseBody_short (hcharset : ExtendsAscii) (hx : NoSeparator x) {k n : Nat}
    (hk : k < x.length + 11) :
    parseBody (Jdk.decode ((commandBytes x y).take k ++ List.replicate n 0)) = none := by
  have hzero : ∀ b ∈ List.replicate n (0 : UInt8), b = 0 := fun b => List.eq_of_mem_replicate
  have hlen : (asciiBytes "id=" ++ x).length = x.length + 3 := by
    rw [List.length_append, Nat.add_comm]
    rfl
  rw [decode_eq]
  rcases Nat.lt_or_ge (x.length + 3) k with hid | hid
  swap
  · refine parseBody_of_not_mem fun hamp => ?_
    have hbyte := mem_of_mem_decoded hcharset (by decide) hamp
    rw [commandBytes, ← List.append_assoc, List.take_append_of_le_length (by omega)] at hbyte
    rcases List.mem_append.mp hbyte with hbyte | hbyte
    · rcases List.mem_append.mp (List.mem_of_mem_take hbyte) with hbyte | hbyte
      · exact absurd hbyte (by decide)
      · exact hx.1 hbyte
    · exact absurd (hzero _ hbyte) (by decide)
  · -- What is left of the name of the action has no `=`.
    obtain ⟨j, hj⟩ : ∃ j, j = k - (x.length + 4) := ⟨_, rfl⟩
    have htake : (commandBytes x y).take k =
        asciiBytes "id=" ++ (x ++ 38 :: (asciiBytes "action").take j) := by
      have hname : asciiBytes "action=" ++ y = asciiBytes "action" ++ 61 :: y := rfl
      rw [commandBytes_eq, hname, ← List.append_assoc, ← List.append_assoc, List.take_append,
        List.take_of_length_le (by omega), hlen, show k - (x.length + 3) = j + 1 by omega,
        List.take_succ_cons, List.take_append_of_le_length (by change j ≤ 6; omega)]
    have hrest : ∀ b ∈ (asciiBytes "action").take j ++ List.replicate n 0, b ≠ 38 ∧ b ≠ 61 := by
      intro b hb
      rcases List.mem_append.mp hb with hb | hb
      · have hnone : ∀ b ∈ asciiBytes "action", b ≠ 38 ∧ b ≠ 61 := by decide +kernel
        exact hnone b (List.mem_of_mem_take hb)
      · rw [hzero b hb]
        decide
    have hsep : NoSeparator ((asciiBytes "action").take j ++ List.replicate n 0) :=
      ⟨fun h => (hrest _ h).1 rfl, fun h => (hrest _ h).2 rfl⟩
    have hno := not_mem_decoded hcharset hsep
    rw [htake, List.append_assoc, List.append_assoc, List.cons_append, decoded_command hcharset,
      parseBody_eq (amp_not_mem_id hcharset hx) hno.1, valueOf_of_not_mem hno.2]
    split
    · rfl
    · cases valueOf (String.ofList ("id".toList ++ '=' :: decoded x)) <;> rfl

/-- A read that reaches the action brings the id, and of the action what it reaches. -/
theorem parseBody_long (hcharset : ExtendsAscii) (hx : NoSeparator x) (hy : NoSeparator y)
    {k n : Nat} (hk : x.length + 11 ≤ k) :
    parseBody (Jdk.decode ((commandBytes x y).take k ++ List.replicate n 0)) =
      if x = [] ∨ (y.take (k - (x.length + 11)) = [] ∧ n = 0) then none
      else some (Jdk.decode x, trim (Jdk.decode (y.take (k - (x.length + 11))))) := by
  obtain ⟨part, hpart⟩ : ∃ part, part = y.take (k - (x.length + 11)) := ⟨_, rfl⟩
  have hlen : (asciiBytes "id=" ++ (x ++ asciiBytes "&action=")).length = x.length + 11 := by
    simp only [List.length_append]
    change 3 + (x.length + 8) = x.length + 11
    omega
  have htake : (commandBytes x y).take k = commandBytes x part := by
    have hassoc : ∀ z, commandBytes x z =
        (asciiBytes "id=" ++ (x ++ asciiBytes "&action=")) ++ z := fun z => by
      simp only [commandBytes, List.append_assoc]
    rw [hassoc, hassoc, List.take_append, List.take_of_length_le (by omega), hlen, hpart]
  have hno : NoSeparator part := by
    rw [hpart]
    exact ⟨fun h => hy.1 (List.mem_of_mem_take h), fun h => hy.2 (List.mem_of_mem_take h)⟩
  have hzero : ∀ c ∈ List.replicate n '\x00', c ≠ '&' ∧ c ≠ '=' := fun c hc => by
    rw [List.eq_of_mem_replicate hc]
    decide
  have haction : decoded (asciiBytes "action=" ++ (part ++ List.replicate n 0)) =
      "action".toList ++ '=' :: (decoded part ++ List.replicate n '\x00') := by
    rw [← decoded_zeros hcharset]
    change decoded (97 :: 99 :: 116 :: 105 :: 111 :: 110 :: 61 :: _) = _
    simp only [decoded_cons hcharset (show UInt8.toNat 97 < 128 by decide),
      decoded_cons hcharset (show UInt8.toNat 99 < 128 by decide),
      decoded_cons hcharset (show UInt8.toNat 116 < 128 by decide),
      decoded_cons hcharset (show UInt8.toNat 105 < 128 by decide),
      decoded_cons hcharset (show UInt8.toNat 111 < 128 by decide),
      decoded_cons hcharset (show UInt8.toNat 110 < 128 by decide),
      decoded_cons hcharset (show UInt8.toNat 61 < 128 by decide)]
    rfl
  have hamp : '&' ∉ decoded part ++ List.replicate n '\x00' := fun h =>
    (List.mem_append.mp h).elim (not_mem_decoded hcharset hno).1 fun h => (hzero _ h).1 rfl
  have heq : '=' ∉ decoded part ++ List.replicate n '\x00' := fun h =>
    (List.mem_append.mp h).elim (not_mem_decoded hcharset hno).2 fun h => (hzero _ h).2 rfl
  have htext : decoded ((commandBytes x y).take k ++ List.replicate n 0) =
      ("id".toList ++ '=' :: decoded x) ++
        '&' :: ("action".toList ++ '=' :: (decoded part ++ List.replicate n '\x00')) := by
    rw [htake, commandBytes_eq, List.append_assoc, List.append_assoc, List.cons_append,
      List.append_assoc, decoded_command hcharset, haction]
  rw [decode_eq, htext, parseBody_eq (amp_not_mem_id hcharset hx) (by simpa using hamp),
    if_neg (by simp), valueOf_eq (by decide) (not_mem_decoded hcharset hx).2,
    valueOf_eq (by decide) heq, ← hpart]
  by_cases hempty : x = []
  · rw [if_pos (Or.inl hempty), hempty, if_pos (decoded_nil hcharset)]
    rfl
  · rw [if_neg (decoded_ne_nil hcharset hempty), Option.bind_some]
    by_cases hnone : part = [] ∧ n = 0
    · obtain ⟨rfl, rfl⟩ := hnone
      rw [if_pos (Or.inr ⟨rfl, rfl⟩), decoded_nil hcharset]
      rfl
    · have hne : decoded part ++ List.replicate n '\x00' ≠ [] := by
        simp only [ne_eq, List.append_eq_nil_iff, List.replicate_eq_nil_iff]
        rintro ⟨hnil, hn⟩
        exact hnone ⟨by_contra fun h => decoded_ne_nil hcharset h hnil, hn⟩
      rw [if_neg hne, if_neg (by simp [hempty, hnone]), Option.map_some, trim_zeros, ← decode_eq,
        ← decode_eq]

/-- **Parsing one read.** -/
theorem parseBody_readBody (hcharset : ExtendsAscii) (hx : NoSeparator x) (hy : NoSeparator y)
    (hbody : ex.body.flatten = commandBytes x y) :
    parseBody (Jdk.decode (readBody ex)) = some (Jdk.decode x, trim (Jdk.decode y)) ↔
      Brings ex.body x y := by
  have hbound : firstRead ex.body ≤ 32 := Nat.min_le_left _ _
  rw [readBody_eq, hbody, Brings]
  rcases Nat.lt_or_ge (firstRead ex.body) (x.length + 11) with hshort | hlong
  · rw [parseBody_short hcharset hx hshort]
    exact iff_of_false nofun fun h => absurd h.2.2.1 (Nat.not_le.mpr hshort)
  · rw [parseBody_long hcharset hx hy hlong]
    have hwhole := firstRead_le ex.body
    have hlen : (commandBytes x y).length = x.length + 11 + y.length := by
      simp only [commandBytes, List.length_append]
      change 3 + (x.length + (8 + y.length)) = x.length + 11 + y.length
      omega
    rw [hbody, hlen] at hwhole
    by_cases hempty : x = []
    · rw [if_pos (Or.inl hempty)]
      exact iff_of_false nofun fun h => h.1 hempty
    rcases Nat.lt_or_ge 20 x.length with hfull | hfits
    · rw [if_pos (Or.inr ⟨by simp; omega, by omega⟩)]
      exact iff_of_false nofun fun h => absurd h.2.1 (Nat.not_le.mpr hfull)
    · have hpart : ¬ (y.take (firstRead ex.body - (x.length + 11)) = [] ∧
          32 - firstRead ex.body = 0) := by
        rw [List.take_eq_nil_iff, ← List.length_eq_zero_iff]
        omega
      rw [if_neg (by simp only [hempty, hpart, or_self, not_false_eq_true]), Option.some_inj,
        Prod.mk.injEq]
      exact ⟨fun h => ⟨hempty, hfits, hlong, h.2⟩, fun h => ⟨rfl, h.2.2.2⟩⟩

end Parsing

/-! ## What is forwarded -/

/-- Exactly this command was forwarded, or none and the answer was 400. -/
def ForwardedOr400 (ex : HttpExchange) (id action : String) (w w' : World) : Prop :=
  (∃ address reply, w'.commands = w.commands ++ [⟨address, id, action, reply⟩]) ∨
    w'.commands = w.commands ∧ w'.responses = w.responses ++ [responseTo ex 400]

/-- The request, with its body in these pieces. -/
def HttpExchange.inPieces (ex : HttpExchange) (pieces : List (List UInt8)) : HttpExchange :=
  { ex with body := pieces }

section Handling

variable [Jdk] {col : Collation} {w w' : World} {ex : HttpExchange} {id action : String}
  {x y : List UInt8}

theorem wp_handleCommand_forwards : wp (under col anyFault) (handleCommand ex id action)
    (fun _ w' => ForwardedOr400 ex id action w w')
    (fun _ w' => ForwardedOr400 ex id action w w') w := by
  simp only [handleCommand, wp_bind]
  have h400 : ∀ q, ForwardedOr400 ex id action w ((w.responding (responseTo ex 400)).quietly q) :=
    fun q => Or.inr ⟨rfl, rfl⟩
  refine wp_lookUpActuator (fun row q => ?_) fun q => h400 q
  simp only [wp_bind, wp_appendToOutput, wp_isSelected]
  rw [wp_ite]
  refine ⟨fun _ => wp_badRequest fun q => h400 q, fun _ => ?_⟩
  exact wp_forwardCommand (P := fun _ w' => ForwardedOr400 ex id action w w') (fun q => h400 q)
    (fun address b q => Or.inl ⟨address, _, rfl⟩) (fun address q => Or.inl ⟨address, _, rfl⟩)
    (fun address q => Or.inl ⟨address, _, rfl⟩) fun address q => Or.inl ⟨address, _, rfl⟩

omit [Jdk] in
/-- Looking up an actuator that is registered, when nothing fails. -/
theorem wp_lookUpActuator_fine {url : String} {row : ActuatorRow} {E : Exn → World → Prop}
    {Q : Option ActuatorRow → World → Prop} (hw : w.mysql .mysqlAddress = some url)
    (hrow : ((Query.actuator id).run col (w.servers url)).head? = some row)
    (hok : ∀ q, Q (some row) (w.quietly q)) :
    wp (under col fun _ => False) (lookUpActuator ex id) Q E w := by
  simp only [lookUpActuator, openForHandler, wp_bind, wp_forName, wp_appendToOutput,
    wp_getConnection, wp_createStatement, Bool.not_true, Bool.not_false, Bool.false_eq_true,
    if_true, if_false, wp_pure]
  refine ⟨⟨fun url' hurl => ⟨?_, fun h => h.elim⟩, fun h => ?_⟩, fun h => h.elim⟩
  · obtain rfl : url = url' := Option.some_inj.mp (hw.symm.trans hurl)
    refine (wp_callExecuteQuery _ (.actuator id)).mpr ⟨?_, fun h => h.elim⟩
    rw [wp_bind]
    refine wp_firstRow ?_ fun h => absurd h ?_
    · simp only [World.quietly_servers, hrow, wp_bind]
      exact wp_closeConnection fun q => hok q
    · rintro (hnone | ⟨_, hfalse, -⟩)
      · rw [World.quietly_mysql, World.quietly_mysql, World.quietly_mysql, hw] at hnone
        cases hnone
      · exact hfalse
  · rcases h with hnone | hfalse
    · rw [World.quietly_mysql, hw] at hnone
      cases hnone
    · exact hfalse.elim

/-- A registry of one actuator, at an address that parses. -/
def World.withActuator (id address : String) : World :=
  .running "jdbc:mysql://db" ⟨[], [], [⟨id, some address⟩]⟩

/-- A command for a registered actuator is forwarded when nothing fails. -/
theorem exists_forwarded {address : String} (haddress : parsesURL (some address) = true) :
    ∃ l r w' reply, Runs (under .exact anyFault) (handleCommand ex id action)
      (.withActuator id address) l r w' ∧ w'.commands = [⟨address, id, action, reply⟩] := by
  have hruns := @runs_play_under .exact _ (handleCommand ex id action) []
    (.withActuator id address) (by simp)
  have hwp : wp (under .exact fun _ => False) (handleCommand ex id action)
      (fun _ w' => ∃ reply, w'.commands = [⟨address, id, action, reply⟩])
      (fun _ w' => ∃ reply, w'.commands = [⟨address, id, action, reply⟩])
      (.withActuator id address) := by
    have hrow : ((Query.actuator id).run .exact
        ((World.withActuator id address).servers "jdbc:mysql://db")).head? =
        some ⟨id, some address⟩ := by
      simp [Query.run, World.withActuator, World.running, World.launched]
    rw [handleCommand, wp_bind]
    refine wp_lookUpActuator_fine rfl hrow fun q => ?_
    simp only [wp_bind, wp_appendToOutput, wp_isSelected]
    rw [wp_ite]
    refine ⟨by simp [World.withActuator, World.running, World.launched], fun _ => ?_⟩
    have hfilter : ((some address).filter fun a => parsesURL (some a)) = some address := by
      simpa using haddress
    simp only [forwardCommand, SendXMLRPCRequest, hfilter, wp_bind, wp_appendToOutput, wp_execute]
    rintro (b | _ | _ | _)
    · cases b with
      | true => simpa using ⟨_, rfl⟩
      | false => exact wp_badRequest fun q => ⟨_, rfl⟩
    · exact ⟨_, rfl⟩
    · exact ⟨_, rfl⟩
    · simp only [wp_bind, wp_appendToOutput, wp_pure, Bool.false_eq_true, if_false]
      exact wp_badRequest fun q => ⟨_, rfl⟩
  obtain ⟨reply, hreply⟩ := (hruns _).of_wp hwp
  exact ⟨_, _, _, reply, hruns _, hreply⟩

/-- Whatever fails, exactly the command of the form is forwarded, or none and the answer is 400. -/
def RelaysForm (ex : HttpExchange) (x y : List UInt8) : Prop :=
  ∀ col w l r w', Runs (under col anyFault) (handle ex) w l r w' →
    ForwardedOr400 ex (Jdk.decode x) (trim (Jdk.decode y)) w w'

theorem relaysForm_iff (hcharset : ExtendsAscii) {address : String}
    (haddress : parsesURL (some address) = true)
    (hmethod : sameIgnoringCase ex.method "POST" = true) (hx : NoSeparator x) (hy : NoSeparator y)
    (hbody : ex.body.flatten = commandBytes x y) :
    RelaysForm ex x y ↔ Brings ex.body x y := by
  rw [← parseBody_readBody hcharset hx hy hbody]
  constructor
  · intro hrelays
    cases hparse : parseBody (Jdk.decode (readBody ex)) with
    | none =>
      have hthrow : handle ex = throwExn .indexOutOfBounds := by simp [handle, hmethod, hparse]
      rcases hrelays .exact actuatorWorld [] _ _ (by rw [hthrow]; exact .raise _ _) with
        ⟨_, _, h⟩ | ⟨-, h⟩
      · simp at h
      · simp at h
    | some command =>
      obtain ⟨id, action⟩ := command
      have hcommand : handle ex = handleCommand ex id action := by simp [handle, hmethod, hparse]
      obtain ⟨l, r, w', reply, hrun, hsent⟩ := @exists_forwarded _ ex id action address haddress
      rcases hrelays .exact _ l r w' (by rw [hcommand]; exact hrun) with ⟨_, _, h⟩ | ⟨h, -⟩
      · rw [hsent] at h
        obtain ⟨-, rfl, rfl, -⟩ : _ ∧ id = _ ∧ action = _ ∧ _ := by
          simpa [World.withActuator, World.running, World.launched] using h
        rfl
      · rw [hsent] at h
        simp [World.withActuator, World.running, World.launched] at h
  · intro hparse col w l r w' hrun
    have hcommand : handle ex = handleCommand ex (Jdk.decode x) (trim (Jdk.decode y)) := by
      simp [handle, hmethod, hparse]
    rw [hcommand] at hrun
    exact hrun.of_wp wp_handleCommand_forwards

/-- **One read for the whole.** Take a request with the form `id=x&action=y`, and two ways in which
it can come in pieces. In both the handler forwards exactly that command or answers 400, and does
the same, if and only if in both its one read brings the command. -/
theorem handle_pieces_iff (hcharset : ExtendsAscii) {address : String}
    (haddress : parsesURL (some address) = true)
    (hmethod : sameIgnoringCase ex.method "POST" = true) (hx : NoSeparator x) (hy : NoSeparator y)
    {ps qs : List (List UInt8)} (hps : ps.flatten = commandBytes x y)
    (hqs : qs.flatten = commandBytes x y) :
    (RelaysForm (ex.inPieces ps) x y ∧ RelaysForm (ex.inPieces qs) x y ∧
      handle (ex.inPieces ps) = handle (ex.inPieces qs)) ↔ Brings ps x y ∧ Brings qs x y := by
  have hiff : ∀ {pieces : List (List UInt8)}, pieces.flatten = commandBytes x y →
      (RelaysForm (ex.inPieces pieces) x y ↔ Brings pieces x y) := fun h =>
    @relaysForm_iff _ (ex.inPieces _) x y hcharset _ haddress hmethod hx hy h
  rw [hiff hps, hiff hqs]
  refine ⟨fun h => ⟨h.1, h.2.1⟩, fun h => ⟨h.1, h.2, ?_⟩⟩
  have hcommand : ∀ {pieces : List (List UInt8)}, pieces.flatten = commandBytes x y →
      Brings pieces x y → handle (ex.inPieces pieces) =
        handleCommand ex (Jdk.decode x) (trim (Jdk.decode y)) := by
    intro pieces hpieces hbrings
    have hparse := (@parseBody_readBody _ (ex.inPieces pieces) x y hcharset hx hy
      hpieces).mpr hbrings
    have hpost : sameIgnoringCase (ex.inPieces pieces).method "POST" = true := hmethod
    simp only [handle, hpost, hparse, if_true]
    rfl
  rw [hcommand hps h.1, hcommand hqs h.2]

end Handling

/-! ## An action cut short -/

theorem decode_plainJdk (bs : List UInt8) :
    @Jdk.decode plainJdk bs = String.ofList (bs.map fun b => Char.ofNat b.toNat) := rfl

theorem extendsAscii_plainJdk : @ExtendsAscii plainJdk := by
  refine @ExtendsAscii.mk plainJdk rfl (fun bs b rest _ => ?_) fun bs hne hother => ⟨?_, ?_⟩
  · rw [decode_plainJdk, decode_plainJdk, decode_plainJdk, List.map_append, List.map_cons,
      String.ofList_append, String.ofList_cons]
  · rw [decode_plainJdk, ne_eq, String.ofList_eq_empty_iff, List.map_eq_nil_iff]
    exact hne
  · rw [decode_plainJdk, String.toList_ofList]
    intro c hc
    obtain ⟨b, hb, rfl⟩ := List.mem_map.mp hc
    rw [toNat_ofNat b.toNat_lt]
    exact hother b hb

/-- A POST. -/
def post : HttpExchange := ⟨"POST", [], []⟩

/-- A command for the actuator `1`, in two pieces. -/
def twoPieces (first second : String) : List (List UInt8) :=
  [asciiBytes ("id=1&action=" ++ first), asciiBytes second]

/-- The command `once`, of which the first piece brings `on`, is forwarded as `on`. -/
theorem not_always_whole : ¬ ∀ (jdk : Jdk) (ex : HttpExchange) (x y : List UInt8)
    (ps : List (List UInt8)), @ExtendsAscii jdk → @sameIgnoringCase jdk ex.method "POST" = true →
    NoSeparator x → NoSeparator y → ps.flatten = commandBytes x y →
    @RelaysForm jdk (ex.inPieces ps) x y := by
  intro h
  have hrelays := h plainJdk post (asciiBytes "1") (asciiBytes "once") (twoPieces "on" "ce")
    extendsAscii_plainJdk (by decide) (by decide) (by decide) (by decide)
  have hsent := hrelays .exact actuatorWorld _ _ _ (runs_play_anyFault _ [] _)
  have hcommands : ((machine .exact).play .fine
      (@handle plainJdk (post.inPieces (twoPieces "on" "ce"))) [] actuatorWorld).2.2.commands =
      [⟨"http://actuator", "1", "on", .result true⟩] := by decide +kernel
  have hbefore : actuatorWorld.commands = [] := rfl
  rcases hsent with ⟨address, reply, hsent⟩ | ⟨hsent, -⟩
  · rw [hcommands, hbefore, List.nil_append, List.cons.injEq, Command.mk.injEq] at hsent
    have haction : "on" = @trim (@Jdk.decode plainJdk (asciiBytes "once")) := hsent.1.2.2.1
    exact absurd haction (by decide)
  · rw [hcommands, hbefore] at hsent
    cases hsent

/-- A blank may be cut off. -/
theorem twoPieces_blank : @RelaysForm plainJdk (post.inPieces (twoPieces "on " "")) (asciiBytes "1")
    (asciiBytes "on ") ∧ @RelaysForm plainJdk (post.inPieces (twoPieces "on" " ")) (asciiBytes "1")
    (asciiBytes "on ") ∧ @handle plainJdk (post.inPieces (twoPieces "on " "")) =
      @handle plainJdk (post.inPieces (twoPieces "on" " ")) :=
  (@handle_pieces_iff plainJdk post _ _ extendsAscii_plainJdk "http://a" (by decide) (by decide)
    (by decide) (by decide) _ _ (by decide) (by decide)).mpr
    ⟨⟨by decide, by decide, by decide, by decide⟩, ⟨by decide, by decide, by decide, by decide⟩⟩

end CrossingReality
