/-
  RenderDesk.Json.Value
  ─────────────────────
  JSON values, and their compact text.

  A number is kept as it is written.  A string is `none` when it holds half
  of a pair of code units without the other half: such a string may be passed
  over, but it is no text.

  Main statement: `quotedText_plain` — printable ASCII without quote and
  backslash is written as it is.
-/
import RenderDesk.Text.Digits

namespace RenderDesk.Json

open RenderDesk.Text

/-! ## §1. Values. -/

inductive Value where
  | null
  | bool (b : Bool)
  | number (digits : List Char)
  | string (text : Option String)
  | array (items : List Value)
  | object (members : List (Option String × Value))
  deriving Inhabited

/-! ## §2. Strings. -/

/-- A character inside quotes. -/
def escapedChar (c : Char) : List Char :=
  if c.toNat = 0x22 ∨ c = '\\' then ['\\', c]
  else if c = '\n' then ['\\', 'n']
  else if c = '\r' then ['\\', 'r']
  else if c = '\t' then ['\\', 't']
  else if c.toNat = 8 then ['\\', 'b']
  else if c.toNat = 12 then ['\\', 'f']
  else if c.toNat < 0x20 then
    ['\\', 'u', '0', '0', lowerHexDigit (c.toNat / 16), lowerHexDigit (c.toNat % 16)]
  else [c]

/-- A text between quotes. -/
def quotedText (cs : List Char) : List Char :=
  let quote := Char.ofNat 0x22
  quote :: cs.flatMap escapedChar ++ [quote]

/-! ## §3. Compact text. -/

/-- Whether one text comes before another, by bytes. -/
def bytesBefore (a b : String) : Bool :=
  a.toUTF8.toList.map UInt8.toNat < b.toUTF8.toList.map UInt8.toNat

/-- Members by key, the last of equal keys taking the place of the others. -/
def insertMember (key : String) (text : List Char) :
    List (String × List Char) → List (String × List Char)
  | [] => [(key, text)]
  | (k, t) :: rest =>
    if key = k then (k, text) :: rest
    else if bytesBefore key k then (key, text) :: (k, t) :: rest
    else (k, t) :: insertMember key text rest

/-- Texts with commas between them. -/
def commaed (texts : List (List Char)) : List Char := [','].intercalate texts

mutual

/-- The text of a value without blanks, the members of objects by key; `none`
if a string in it is no text. -/
def Value.compact : Value → Option (List Char)
  | .null => some "null".toList
  | .bool b => some (toString b).toList
  | .number digits => some digits
  | .string text => text.map fun t => quotedText t.toList
  | .array items => do
    let texts ← compactItems items
    return '[' :: commaed texts ++ [']']
  | .object members => do
    let ms ← compactMembers members
    let texts := ms.map fun (key, text) => quotedText key.toList ++ ':' :: text
    return Char.ofNat 0x7B :: commaed texts ++ [Char.ofNat 0x7D]

def compactItems : List Value → Option (List (List Char))
  | [] => some []
  | item :: items => do
    let text ← item.compact
    return text :: (← compactItems items)

/-- Inserts the members from the end on, so that the last of equal keys is
inserted first and kept. -/
def compactMembers : List (Option String × Value) → Option (List (String × List Char))
  | [] => some []
  | (key, value) :: members => do
    let key ← key
    let text ← value.compact
    let ms ← compactMembers members
    return if ms.any (·.1 == key) then ms else insertMember key text ms

end

mutual

/-- How deep arrays and objects are nested. -/
def Value.depth : Value → Nat
  | .array items => depthOfItems items + 1
  | .object members => depthOfMembers members + 1
  | _ => 0

def depthOfItems : List Value → Nat
  | [] => 0
  | item :: items => max item.depth (depthOfItems items)

def depthOfMembers : List (Option String × Value) → Nat
  | [] => 0
  | (_, value) :: members => max value.depth (depthOfMembers members)

end

/-! ## §4. Laws. -/

theorem quotedText_plain {cs : List Char}
    (h : ∀ c ∈ cs, 0x20 ≤ c.toNat ∧ c.toNat ≠ 0x22 ∧ c.toNat ≠ 0x5C) :
    quotedText cs = Char.ofNat 0x22 :: cs ++ [Char.ofNat 0x22] := by
  have hc : ∀ c ∈ cs, escapedChar c = [c] := by
    intro c hm
    obtain ⟨h1, h2, h3⟩ := h c hm
    have hne : ∀ d : Char, c.toNat ≠ d.toNat → c ≠ d := fun d hd he => hd (he ▸ rfl)
    have e1 : c ≠ '\\' := hne _ (by simpa only [show '\\'.toNat = 0x5C from rfl] using h3)
    have e2 : c ≠ '\n' := hne _ (by simp only [show '\n'.toNat = 10 from rfl]; omega)
    have e3 : c ≠ '\r' := hne _ (by simp only [show '\r'.toNat = 13 from rfl]; omega)
    have e4 : c ≠ '\t' := hne _ (by simp only [show '\t'.toNat = 9 from rfl]; omega)
    have e5 : c.toNat ≠ 8 := by omega
    have e6 : c.toNat ≠ 12 := by omega
    have e7 : ¬c.toNat < 0x20 := by omega
    simp [escapedChar, h2, e1, e2, e3, e4, e5, e6, e7]
  have hf : cs.flatMap escapedChar = cs := by
    clear h
    induction cs with
    | nil => rfl
    | cons c cs ih => simp [hc c (by simp), ih fun d hd => hc d (by simp [hd])]
  simp [quotedText, hf]

end RenderDesk.Json
