import Mathlib.Data.Rat.Defs
import Mathlib.Data.List.DropRight

/-!
# The parts of the Java library the program computes with

Strings are Lean strings, a nullable reference is an `Option`, an `int` is an `Int32`. What the
library decides and the program only consults (which characters are equal ignoring case, which
texts are URLs, how a double is printed, how bytes become characters) is a parameter, `Jdk`.
-/

namespace CrossingReality

/-! ## Doubles -/

/-- A `double`, read as the exact number it stands for. The two signed zeros are one. -/
inductive JDouble where
  | num (q : ℚ)
  | posInf
  | negInf
  | nan
deriving DecidableEq, Repr

namespace JDouble

/-- `x / d` for an `int` divisor, which Java first widens to a double. -/
def divInt : JDouble → Int → JDouble
  | num q, d =>
    if d = 0 then if 0 < q then posInf else if q < 0 then negInf else nan
    else num (q / d)
  | posInf, d => if 0 ≤ d then posInf else negInf
  | negInf, d => if 0 ≤ d then negInf else posInf
  | nan, _ => nan

/-- `x > 1`. -/
def gtOne : JDouble → Bool
  | num q => decide (1 < q)
  | posInf => true
  | negInf => false
  | nan => false

/-- `x < 0`. -/
def ltZero : JDouble → Bool
  | num q => decide (q < 0)
  | posInf => false
  | negInf => true
  | nan => false

end JDouble

/-! ## What the library decides -/

/-- The library functions the program consults but does not define. -/
class Jdk where
  /-- `Character.toLowerCase(Character.toUpperCase(c))`. -/
  foldChar : Char → Char
  /-- `new URL(spec)` does not throw `MalformedURLException`. -/
  parsesURL : String → Bool
  /-- `Double.toString`. -/
  doubleToString : JDouble → String
  /-- `new String(bytes)`, in the platform's charset. -/
  decode : List UInt8 → String

/-- A library for plain ASCII: every URL is absolute, and a number that is not whole prints as a
fraction. -/
@[reducible] def plainJdk : Jdk where
  foldChar := Char.toLower
  parsesURL spec := "http://".toList.isPrefixOf spec.toList
  doubleToString
    | .num q =>
      if q.den = 1 then toString q.num ++ ".0" else toString q.num ++ "/" ++ toString q.den
    | .posInf => "Infinity"
    | .negInf => "-Infinity"
    | .nan => "NaN"
  decode bytes := String.ofList (bytes.map fun b => Char.ofNat b.toNat)

/-- Whether `new URL(spec)` succeeds; the text `null` stands for throws. -/
def parsesURL [Jdk] : Option String → Bool
  | none => false
  | some spec => Jdk.parsesURL spec

/-! ## Strings -/

/-- What a possibly null string contributes to a concatenation. -/
def spell (s : Option String) : String := s.getD "null"

@[simp] theorem spell_some (s : String) : spell (some s) = s := rfl

@[simp] theorem spell_none : spell none = "null" := rfl

/-- `s.equalsIgnoreCase(t)` for two strings. -/
def sameIgnoringCase [Jdk] (s t : String) : Bool :=
  s.toList.map Jdk.foldChar == t.toList.map Jdk.foldChar

/-- `s.equalsIgnoreCase(t)`: a null argument is equal to nothing. -/
def equalsIgnoreCase [Jdk] (s : String) : Option String → Bool
  | none => false
  | some t => sameIgnoringCase s t

/-- `s.split(sep)` for a separator of one plain character: trailing empty pieces are dropped, and
a string without the separator is its own only piece. -/
def split (s : String) (sep : Char) : List String :=
  if sep ∈ s.toList then
    ((s.toList.splitOn sep).rdropWhile List.isEmpty).map String.ofList
  else [s]

/-- `s.trim()`: characters up to the blank go, at both ends. -/
def trim (s : String) : String :=
  String.ofList
    ((s.toList.dropWhile fun c => decide (c ≤ ' ')).rdropWhile fun c => decide (c ≤ ' '))

/-- A string with one separator, and something after it, is split in two. -/
theorem split_pair {s t : List Char} {sep : Char} (hs : sep ∉ s) (ht : sep ∉ t) (hne : t ≠ []) :
    split (String.ofList (s ++ sep :: t)) sep = [String.ofList s, String.ofList t] := by
  have hsplit : (s ++ sep :: t).splitOn sep = [s, t] := by
    simpa [List.intercalate] using
      @List.splitOn_intercalate _ [s, t] _ _ sep (by simp [hs, ht]) (by simp)
  have hlast : ([s, t] : List (List Char)).rdropWhile List.isEmpty = [s, t] :=
    List.rdropWhile_concat_neg (l := [s]) _ _ (by simpa using hne)
  rw [split, String.toList_ofList, if_pos (by simp), hsplit, hlast]
  rfl

/-- Trimming takes off what pads a string at its end. -/
theorem trim_padded {s : List Char} (hs : ∀ c ∈ s, ' ' < c) (hne : s ≠ []) {pad : List Char}
    (hpad : ∀ c ∈ pad, c ≤ ' ') : trim (String.ofList (s ++ pad)) = String.ofList s := by
  have hfirst : (s ++ pad).dropWhile (fun c => decide (c ≤ ' ')) = s ++ pad := by
    cases s with
    | nil => exact absurd rfl hne
    | cons c s =>
      exact List.dropWhile_cons_of_neg (by simpa using hs c List.mem_cons_self)
  have hlast : (s ++ pad).rdropWhile (fun c => decide (c ≤ ' ')) = s := by
    rw [List.rdropWhile, List.reverse_append, List.dropWhile_append_of_pos (by simpa using hpad),
      ← List.rdropWhile, List.rdropWhile_eq_self_iff]
    exact fun h => by simpa using hs _ (List.getLast_mem h)
  rw [trim, String.toList_ofList, hfirst, hlast]

/-- The first `readLine()` of a text: null when there is nothing to read. -/
def firstLine (s : String) : Option String :=
  if s.isEmpty then none
  else some (String.ofList (s.toList.takeWhile fun c => c ≠ '\n' && c ≠ '\r'))

/-! ## `URLEncoder.encode(s, "UTF-8")` -/

/-- One hexadecimal digit, upper case. -/
def hexDigit (n : Nat) : Char :=
  if n < 10 then Char.ofNat ('0'.toNat + n) else Char.ofNat ('A'.toNat + (n - 10))

/-- A byte as a percent escape. -/
def percentEscape (b : UInt8) : List Char := ['%', hexDigit (b.toNat / 16), hexDigit (b.toNat % 16)]

/-- One character of an encoded field. -/
def urlEncodeChar (c : Char) : List Char :=
  if c.isAlphanum || c == '.' || c == '-' || c == '*' || c == '_' then [c]
  else if c == ' ' then ['+']
  else (String.utf8EncodeChar c).flatMap percentEscape

/-- `URLEncoder.encode(s, "UTF-8")`. -/
def urlEncode (s : String) : String := String.ofList (s.toList.flatMap urlEncodeChar)

example : urlEncode "a b&ü" = "a+b%26%C3%BC" := by decide

example : split "id=1&action=on" '&' = ["id=1", "action=on"] := by decide

end CrossingReality
