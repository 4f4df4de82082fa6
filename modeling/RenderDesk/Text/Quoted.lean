/-
  RenderDesk.Text.Quoted
  ──────────────────────
  A text between double quotes, for messages that name what was typed, what
  came over the wire, or a path.

  The quote and the backslash are backslashed; tab, carriage return, line
  feed and NUL have letters of their own; a character that cannot be shown is
  written by its code point, and so is a combining mark at the very start,
  where it would be drawn onto the opening quote.

  Main statement: `quotedChars_of_plain` — printable ASCII without quote and
  backslash is quoted as it is.
-/
import RenderDesk.Text.Printable

namespace RenderDesk.Text

/-- A character by its code point in hexadecimal. -/
def codePointEscape (c : Char) : List Char :=
  "\\u\x7b".toList ++ Nat.toDigits 16 c.toNat ++ "\x7d".toList

/-- One character inside quotes; `atStart` says whether it is the first. -/
def quotedChar (atStart : Bool) (c : Char) : List Char :=
  if c = '\t' then ['\\', 't']
  else if c = '\r' then ['\\', 'r']
  else if c = '\n' then ['\\', 'n']
  else if c.toNat = 0 then ['\\', '0']
  else if c.toNat = 0x22 ∨ c = '\\' then ['\\', c]
  else if (atStart && extendsGrapheme c) || !isPrintable c then codePointEscape c
  else [c]

/-- The characters of a text as they stand between the quotes. -/
def quotedChars : List Char → List Char
  | [] => []
  | c :: cs => quotedChar true c ++ cs.flatMap (quotedChar false)

/-- A text between double quotes. -/
def quoted (s : String) : String :=
  "\"" ++ String.ofList (quotedChars s.toList) ++ "\""

/-! ## Laws. -/

/-- Printable ASCII that needs no escape. -/
def isPlainAscii (c : Char) : Bool :=
  0x20 ≤ c.toNat && c.toNat < 0x7F && c.toNat != 0x22 && c.toNat != 0x5C

theorem quotedChar_of_plain {c : Char} (h : isPlainAscii c = true) (b : Bool) :
    quotedChar b c = [c] := by
  simp only [isPlainAscii, Bool.and_eq_true, decide_eq_true_eq, bne_iff_ne] at h
  obtain ⟨⟨⟨h1, h2⟩, h3⟩, h4⟩ := h
  have hne : ∀ d : Char, c.toNat ≠ d.toNat → c ≠ d := fun d hd he => hd (he ▸ rfl)
  have e1 : c ≠ '\t' := hne _ (by simp only [show '\t'.toNat = 9 from rfl]; omega)
  have e2 : c ≠ '\r' := hne _ (by simp only [show '\r'.toNat = 13 from rfl]; omega)
  have e3 : c ≠ '\n' := hne _ (by simp only [show '\n'.toNat = 10 from rfl]; omega)
  have e4 : c ≠ '\\' := hne _ (by simpa only [show '\\'.toNat = 0x5C from rfl] using h4)
  have e5 : c.toNat ≠ 0 := by omega
  have e6 : extendsGrapheme c = false := by simp [extendsGrapheme]; omega
  have e7 : isPrintable c = true := by simp [isPrintable, h2, h1]
  simp [quotedChar, e1, e2, e3, e4, e5, e6, e7, h3]

theorem quotedChars_of_plain {cs : List Char} (h : cs.all isPlainAscii = true) :
    quotedChars cs = cs := by
  cases cs with
  | nil => rfl
  | cons c cs =>
    simp only [List.all_cons, Bool.and_eq_true] at h
    simp only [quotedChars, quotedChar_of_plain h.1, List.singleton_append, List.cons.injEq,
      true_and]
    have h2 := h.2
    clear h
    induction cs with
    | nil => rfl
    | cons d ds ih =>
      simp only [List.all_cons, Bool.and_eq_true] at h2
      simp [quotedChar_of_plain h2.1, ih h2.2]

end RenderDesk.Text
