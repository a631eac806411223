import Mathlib.Data.List.Basic
import Mathlib.Data.List.Forall2

/-!
# Reading `application/x-www-form-urlencoded`

A form is cut at each `&`, a field at its first `=`, and what is between stands for bytes: `+` is a
blank, a percent sign and two hexadecimal digits are a byte, any other character is its own UTF-8.

* `Escapes` — a text stands for bytes, whatever follows it, and holds no separator.
* `parse_form` — a form put together from such texts is read back field by field.
-/

namespace Formats.Urlencoded

/-! ## Decoding -/

/-- The value of a hexadecimal digit. -/
def hexValue (c : Char) : Option Nat :=
  if '0' ≤ c ∧ c ≤ '9' then some (c.toNat - '0'.toNat)
  else if 'A' ≤ c ∧ c ≤ 'F' then some (c.toNat - 'A'.toNat + 10)
  else if 'a' ≤ c ∧ c ≤ 'f' then some (c.toNat - 'a'.toNat + 10)
  else none

/-- The byte of an escape, if its two characters are digits. -/
def escaped (a b : Char) : Option UInt8 := do
  return UInt8.ofNat (16 * (← hexValue a) + (← hexValue b))

/-- The bytes a text stands for. A percent sign that starts no escape stands for itself. -/
def unescape : List Char → List UInt8
  | [] => []
  | '%' :: a :: b :: rest =>
    match escaped a b with
    | some byte => byte :: unescape rest
    | none => String.utf8EncodeChar '%' ++ unescape (a :: b :: rest)
  | '+' :: rest => String.utf8EncodeChar ' ' ++ unescape rest
  | c :: rest => String.utf8EncodeChar c ++ unescape rest

/-- The string a text stands for, if its bytes are UTF-8. -/
def decodeText (l : List Char) : Option String :=
  (unescape l).toByteArray.utf8Decode?.map fun cs => String.ofList cs.toList

/-- A field is cut at its first `=`. -/
def decodeField (l : List Char) : Option (String × String) := do
  let name ← decodeText (l.takeWhile (· ≠ '='))
  let value ← decodeText ((l.dropWhile (· ≠ '=')).drop 1)
  return (name, value)

/-- The fields of a form. -/
def parse (form : String) : Option (List (String × String)) :=
  (form.toList.splitOn '&').mapM decodeField

/-! ## Escaped texts -/

/-- The text stands for the bytes, whatever follows it, and holds no separator. -/
structure Escapes (text : List Char) (bytes : List UInt8) : Prop where
  unescape : ∀ rest, unescape (text ++ rest) = bytes ++ unescape rest
  amp : '&' ∉ text
  eq : '=' ∉ text

namespace Escapes

variable {t t' : List Char} {b b' : List UInt8}

theorem nil : Escapes [] [] := ⟨fun _ => rfl, by simp, by simp⟩

theorem append (h : Escapes t b) (h' : Escapes t' b') : Escapes (t ++ t') (b ++ b') := by
  refine ⟨fun rest => ?_, ?_, ?_⟩
  · rw [List.append_assoc, h.unescape, h'.unescape, List.append_assoc]
  · simp [h.amp, h'.amp]
  · simp [h.eq, h'.eq]

/-- Escaping item by item. -/
theorem flatMap {α : Type} {f : α → List Char} {g : α → List UInt8}
    (h : ∀ a, Escapes (f a) (g a)) (l : List α) : Escapes (l.flatMap f) (l.flatMap g) := by
  induction l with
  | nil => exact nil
  | cons a l ih => exact (h a).append ih

theorem plus : Escapes ['+'] (String.utf8EncodeChar ' ') := ⟨fun _ => rfl, by decide, by decide⟩

/-- A character that neither escapes nor separates stands for itself. -/
theorem plain {c : Char} (hpercent : c ≠ '%') (hplus : c ≠ '+') (hamp : c ≠ '&') (heq : c ≠ '=') :
    Escapes [c] (String.utf8EncodeChar c) := by
  refine ⟨fun rest => ?_, by simpa using hamp.symm, by simpa using heq.symm⟩
  rw [List.singleton_append, Urlencoded.unescape.eq_def]
  split <;> simp_all

theorem percent {c d : Char} {byte : UInt8} (h : escaped c d = some byte) (hc : c ≠ '&' ∧ c ≠ '=')
    (hd : d ≠ '&' ∧ d ≠ '=') : Escapes ['%', c, d] [byte] := by
  refine ⟨fun rest => ?_, by simpa using ⟨hc.1.symm, hd.1.symm⟩,
    by simpa using ⟨hc.2.symm, hd.2.symm⟩⟩
  simp [Urlencoded.unescape, h]

/-- A text that stands for the UTF-8 of a string decodes to it. -/
theorem decodeText {s : String} (h : Escapes t (s.toList.flatMap String.utf8EncodeChar)) :
    Urlencoded.decodeText t = some s := by
  have hbytes : Urlencoded.unescape t = s.toList.flatMap String.utf8EncodeChar := by
    simpa [Urlencoded.unescape] using h.unescape []
  have hutf8 : (s.toList.flatMap String.utf8EncodeChar).toByteArray = s.toList.utf8Encode := rfl
  rw [Urlencoded.decodeText, hbytes, hutf8, List.utf8Decode?_utf8Encode]
  simp

end Escapes

/-! ## Forms -/

/-- A text for a field. -/
def EncodesField (text : List Char) (field : String × String) : Prop :=
  ∃ name value, text = name ++ '=' :: value ∧
    Escapes name (field.1.toList.flatMap String.utf8EncodeChar) ∧
    Escapes value (field.2.toList.flatMap String.utf8EncodeChar)

theorem EncodesField.decode {t : List Char} {field : String × String} (h : EncodesField t field) :
    decodeField t = some field := by
  obtain ⟨name, value, rfl, hname, hvalue⟩ := h
  have hall : ∀ c ∈ name, decide (c ≠ '=') = true := by
    rintro c hc
    exact decide_eq_true fun h => hname.eq (h ▸ hc)
  have htake : (name ++ '=' :: value).takeWhile (· ≠ '=') = name := by
    rw [List.takeWhile_append_of_pos hall]
    simp
  have hdrop : ((name ++ '=' :: value).dropWhile (· ≠ '=')).drop 1 = value := by
    rw [List.dropWhile_append_of_pos hall]
    simp
  rw [decodeField, htake, hdrop, hname.decodeText, hvalue.decodeText]
  rfl

theorem EncodesField.amp {t : List Char} {field : String × String} (h : EncodesField t field) :
    '&' ∉ t := by
  obtain ⟨name, value, rfl, hname, hvalue⟩ := h
  simp [hname.amp, hvalue.amp]

/-- **Forms.** Texts for fields, joined by `&`, are read back as these fields. -/
theorem parse_form {texts : List (List Char)} {fields : List (String × String)}
    (h : List.Forall₂ EncodesField texts fields) (hne : texts ≠ []) :
    parse (String.ofList (['&'].intercalate texts)) = some fields := by
  have hamp : ∀ t ∈ texts, '&' ∉ t := by
    clear hne
    induction h with
    | nil => simp
    | cons hf _ ih => exact List.forall_mem_cons.mpr ⟨hf.amp, ih⟩
  rw [parse, String.toList_ofList, List.splitOn_intercalate _ hamp hne]
  clear hne hamp
  induction h with
  | nil => rfl
  | cons hf _ ih => simp [hf.decode, ih]

end Formats.Urlencoded
