import FlowConsole.Json.Printing
import FlowConsole.Proofs.Text.Characters
import FlowConsole.Text.Integer
import FlowConsole.Text.Word
import Mathlib.Tactic.SplitIfs

/-!
# Records and their lines

A flow record as the log store holds it: fields with texts, numbers, truth values or nothing, on one
line of compact JSON. Texts are escaped as JSON requires; which of the escapes are used, and for
which characters, is for the writer of the line to say (`Escaping`). Of a text on the line no more
is needed than that its quotes come after backslashes (`IsEscaped`).
-/

open FlowConsole.Text (Consists)

namespace FlowConsole

/-! ### Escapes -/

/-- The characters that have an escape of one letter or sign, each with that. -/
def escapeSigns : List (Char × Char) :=
  [('"', '"'), ('\\', '\\'), ('/', '/'), ('\x08', 'b'), ('\x0C', 'f'), ('\n', 'n'), ('\r', 'r'),
    ('\t', 't')]

/-- The characters are one way to write a character in a JSON text. -/
inductive SpellsInJson : Char → List Char → Prop
  | itself {c : Char} (hquote : c ≠ '"') (hescape : c ≠ '\\') (hcontrol : 0x20 ≤ c.toNat) :
    SpellsInJson c [c]
  | sign {c d : Char} (h : (c, d) ∈ escapeSigns) : SpellsInJson c ['\\', d]
  | unit {c : Char} {ds : List Char} (hlength : ds.length = 4)
    (h : Text.numeral? 16 ds = some c.toNat) : SpellsInJson c ('\\' :: 'u' :: ds)
  /-- Beyond the codes of four digits there are two escapes, for the upper and the lower bits. -/
  | units {c : Char} {ds es : List Char} (hcode : 0x10000 ≤ c.toNat) (hds : ds.length = 4)
    (hes : es.length = 4)
    (hupper : Text.numeral? 16 ds = some (0xD800 + (c.toNat - 0x10000) / 0x400))
    (hlower : Text.numeral? 16 es = some (0xDC00 + (c.toNat - 0x10000) % 0x400)) :
    SpellsInJson c ('\\' :: 'u' :: ds ++ '\\' :: 'u' :: es)

/-- How the characters of texts are written. -/
structure Escaping where
  escape : Char → List Char
  spells : ∀ c, SpellsInJson c (escape c)

namespace Escaping

private theorem spells_controlEscape {n : Nat} (h : n < 0x20) :
    (List.replicate (4 - (Nat.toDigits 16 n).length) '0' ++ Nat.toDigits 16 n).length = 4 ∧
      Text.numeral? 16 (List.replicate (4 - (Nat.toDigits 16 n).length) '0' ++
        Nat.toDigits 16 n) = some n := by
  revert n
  decide +kernel

/-- Only quotes, backslashes and control characters are escaped. -/
def required : Escaping where
  escape := Json.escapeChar
  spells c := by
    rw [Json.escapeChar]
    split_ifs with h₁ h₂ h₃ h₄ h₅ h₆ h₇ hcontrol
    · exact .sign (by simp [escapeSigns, h₁])
    · exact .sign (by simp [escapeSigns, h₂])
    · exact .sign (by simp [escapeSigns, h₃])
    · exact .sign (by simp [escapeSigns, h₄])
    · exact .sign (by simp [escapeSigns, h₅])
    · exact .sign (by simp [escapeSigns, h₆])
    · exact .sign (by simp [escapeSigns, h₇])
    · obtain ⟨hlength, hnumeral⟩ := spells_controlEscape hcontrol
      exact .unit hlength hnumeral
    · exact .itself h₁ h₂ (Nat.le_of_not_lt hcontrol)

end Escaping

/-- Quotes and backslashes stand after a backslash that escapes them. -/
inductive IsEscaped : List Char → Prop
  | nil : IsEscaped []
  | plain {c : Char} {cs : List Char} (hquote : c ≠ '"') (hescape : c ≠ '\\') (h : IsEscaped cs) :
    IsEscaped (c :: cs)
  | escape (c : Char) {cs : List Char} (h : IsEscaped cs) : IsEscaped ('\\' :: c :: cs)

/-- Escaped characters in order are escaped. -/
theorem IsEscaped.append {cs ds : List Char} (h : IsEscaped cs) (h' : IsEscaped ds) :
    IsEscaped (cs ++ ds) := by
  induction h with
  | nil => exact h'
  | plain hquote hescape _ ih => exact .plain hquote hescape ih
  | escape c _ ih => exact .escape c ih

/-- Without quotes and backslashes there is nothing to escape. -/
theorem isEscaped_of_not_mem {cs : List Char} (hquote : '"' ∉ cs) (hescape : '\\' ∉ cs) :
    IsEscaped cs := by
  induction cs with
  | nil => exact .nil
  | cons c cs ih =>
    rw [List.mem_cons, not_or] at hquote hescape
    exact .plain (Ne.symm hquote.1) (Ne.symm hescape.1) (ih hquote.2 hescape.2)

private theorem digitValue?_of_foldlM {base n m : Nat} {cs : List Char}
    (h : cs.foldlM
      (fun n c => (Text.digitValue? c).bind fun d => if d < base then some (n * base + d) else none)
      n = some m) : ∀ c ∈ cs, Text.digitValue? c ≠ none := by
  induction cs generalizing n with
  | nil => exact List.forall_mem_nil _
  | cons c cs ih =>
    rw [List.foldlM_cons] at h
    obtain ⟨n', hn, hrest⟩ := Option.bind_eq_some_iff.mp h
    obtain ⟨d, hd, -⟩ := Option.bind_eq_some_iff.mp hn
    rw [List.forall_mem_cons, hd]
    exact ⟨Option.some_ne_none d, ih hrest⟩

private theorem isEscaped_of_numeral? {base n : Nat} {ds : List Char}
    (h : Text.numeral? base ds = some n) : IsEscaped ds := by
  have hdigits := digitValue?_of_foldlM h
  exact isEscaped_of_not_mem (fun hmem => hdigits _ hmem rfl) (fun hmem => hdigits _ hmem rfl)

/-- However a character is written in a JSON text, it is escaped. -/
theorem SpellsInJson.isEscaped {c : Char} {cs : List Char} (h : SpellsInJson c cs) :
    IsEscaped cs := by
  cases h with
  | itself hquote hescape _ => exact .plain hquote hescape .nil
  | sign _ => exact .escape _ .nil
  | unit _ hnumeral => exact .escape 'u' (isEscaped_of_numeral? hnumeral)
  | units _ _ _ hupper hlower =>
    exact .escape 'u' ((isEscaped_of_numeral? hupper).append
      (.escape 'u' (isEscaped_of_numeral? hlower)))

/-- Texts are escaped. -/
theorem Escaping.isEscaped (w : Escaping) (cs : List Char) : IsEscaped (cs.flatMap w.escape) := by
  induction cs with
  | nil => exact .nil
  | cons c cs ih => exact (w.spells c).isEscaped.append ih

/-! ### Records -/

/-- A character of a number. -/
def isNumeralChar (c : Char) : Bool := c.isDigit || "+-.eE".toList.contains c

/-- A number as it is written. -/
structure Numeral where
  text : String
  chars : Consists isNumeralChar text

/-- The number of an integer, written with digits after an optional minus. -/
def Numeral.ofInt (n : Int) : Numeral where
  text := toString n
  chars := by
    have hdigits : ∀ m : Nat, Consists isNumeralChar (Nat.repr m) := by
      intro m c hc
      rw [Nat.toList_repr] at hc
      rw [isNumeralChar, Nat.isDigit_of_mem_toDigits (by decide) (by decide) hc, Bool.true_or]
    cases n with
    | ofNat m => exact hdigits m
    | negSucc m => exact Text.consists_append.mpr ⟨by decide, hdigits (m + 1)⟩

/-- The value of a field. -/
inductive RecordValue
  | text (s : String)
  | number (n : Numeral)
  | flag (b : Bool)
  | nothing

/-- A field of a record. -/
structure RecordField where
  name : String
  word : Consists Text.isWord name
  value : RecordValue

/-- The fields of a record in order. -/
abbrev FlowRecord := List RecordField

/-- The value as it stands on the line. -/
def RecordValue.written (w : Escaping) : RecordValue → List Char
  | .text s => '"' :: s.toList.flatMap w.escape ++ ['"']
  | .number n => n.text.toList
  | .flag true => "true".toList
  | .flag false => "false".toList
  | .nothing => "null".toList

/-- The field as it stands on the line. -/
def RecordField.written (w : Escaping) (f : RecordField) : List Char :=
  '"' :: f.name.toList ++ '"' :: ':' :: f.value.written w

namespace FlowRecord

/-- The line of a record. -/
def line (w : Escaping) (r : FlowRecord) : String :=
  String.ofList ('\x7b' :: Text.joinPieces ',' (r.map (RecordField.written w)) ++ ['\x7d'])

/-- What follows the value of a field, where the given fields come after it. -/
def closing (w : Escaping) : FlowRecord → List Char
  | [] => ['\x7d']
  | f :: r => ',' :: f.written w ++ closing w r

end FlowRecord

end FlowConsole
