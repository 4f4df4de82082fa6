/-
  RenderDesk.Proofs.Quoting
  ─────────────────────────
  What is written as JSON is read as what was meant.

  A text goes between quotes character by character, and each character is
  written in one of three ways: behind a backslash, as a code unit, or as it
  is.  The reader takes each of them for the same character, whatever follows,
  so a quoted text is one token.  A request consists of such tokens and of
  fixed ones.

  Main statements:
    * `readPieces_quoted` — a text is read back up to its closing quote;
    * `read_quotedText` — a quoted text is read as the text;
    * `read_wireText` — a request is read as the object of what it asks for.
-/
import Mathlib.Tactic.SplitIfs
import RenderDesk.Service.Wire

/-! ## §1. Characters between quotes. -/

namespace RenderDesk.Json

open RenderDesk.Text

/-- How a character is written between quotes. -/
theorem escapedChar_cases (c : Char) :
    (∃ a, escaped? a = some c ∧ escapedChar c = ['\\', a])
      ∨ (c.toNat < 0x20 ∧ escapedChar c
        = ['\\', 'u', '0', '0', lowerHexDigit (c.toNat / 16), lowerHexDigit (c.toNat % 16)])
      ∨ ((c ≠ '\\' ∧ c.toNat ≠ 0x22 ∧ ¬c.toNat < 0x20) ∧ escapedChar c = [c]) := by
  unfold escapedChar
  split_ifs with hmark hn hr ht hb hf hcontrol
  · refine .inl ⟨c, ?_, rfl⟩
    rcases hmark with hquote | rfl
    · rw [← Char.ofNat_toNat c, hquote]
      rfl
    · rfl
  · exact .inl ⟨'n', hn ▸ rfl, rfl⟩
  · exact .inl ⟨'r', hr ▸ rfl, rfl⟩
  · exact .inl ⟨'t', ht ▸ rfl, rfl⟩
  · exact .inl ⟨'b', by rw [← Char.ofNat_toNat c, hb]; rfl, rfl⟩
  · exact .inl ⟨'f', by rw [← Char.ofNat_toNat c, hf]; rfl, rfl⟩
  · exact .inr (.inl ⟨hcontrol, rfl⟩)
  · obtain ⟨hquote, hslash⟩ := not_or.1 hmark
    exact .inr (.inr ⟨⟨hslash, hquote, hcontrol⟩, rfl⟩)

/-- Puts a character in front of what has been read. -/
def before (c : Char) (read : List Piece × List Char) : List Piece × List Char :=
  (.char c :: read.1, read.2)

theorem readPieces_escaped {a c : Char} (ha : escaped? a = some c) (rest : List Char) :
    readPieces ('\\' :: a :: rest) = (readPieces rest).map (before c) := by
  -- the letter of a code unit stands for nothing by itself
  have hu : a ≠ 'u' := by
    rintro rfl
    cases ha
  rw [readPieces.eq_3 _ _ fun _ _ _ _ _ ha _ => hu ha, ha]
  cases readPieces rest <;> rfl

theorem readPieces_unit {c : Char} (hc : c.toNat < 0x20) (rest : List Char) :
    readPieces ('\\' :: 'u' :: '0' :: '0' :: lowerHexDigit (c.toNat / 16)
        :: lowerHexDigit (c.toNat % 16) :: rest)
      = (readPieces rest).map (before c) := by
  have hzero : hexValue? '0' = some 0 := rfl
  have hunit : Piece.ofUnit (0 * 4096 + 0 * 256 + c.toNat / 16 * 16 + c.toNat % 16) = .char c := by
    have hvalue : 0 * 4096 + 0 * 256 + c.toNat / 16 * 16 + c.toNat % 16 = c.toNat := by omega
    rw [hvalue, Piece.ofUnit, if_neg (by omega), Char.ofNat_toNat]
  rw [readPieces, hzero, hexValue?_lowerHexDigit (by omega), hexValue?_lowerHexDigit (by omega)]
  cases readPieces rest with
  | none => rfl
  | some read => simp only [hunit, Option.map_some, before]

theorem readPieces_bare {c : Char} (hslash : c ≠ '\\') (hquote : c.toNat ≠ 0x22)
    (hprinted : ¬c.toNat < 0x20) (rest : List Char) :
    readPieces (c :: rest) = (readPieces rest).map (before c) := by
  rw [readPieces.eq_4 _ _ (fun _ _ _ _ _ h _ => hslash h) fun _ _ h _ => hslash h,
    if_neg hquote, if_neg hprinted]
  rfl

/-- A character is read as it was written, whatever follows. -/
theorem readPieces_escapedChar (c : Char) (rest : List Char) :
    readPieces (escapedChar c ++ rest) = (readPieces rest).map (before c) := by
  rcases escapedChar_cases c with ⟨a, ha, hc⟩ | ⟨hcontrol, hc⟩ | ⟨⟨hslash, hquote, hprinted⟩, hc⟩
  · rw [hc]
    exact readPieces_escaped ha rest
  · rw [hc]
    exact readPieces_unit hcontrol rest
  · rw [hc]
    exact readPieces_bare hslash hquote hprinted rest

/-! ## §2. Quoted texts. -/

/-- **A text is read back up to its closing quote**, with what follows left. -/
theorem readPieces_quoted (cs rest : List Char) :
    readPieces (cs.flatMap escapedChar ++ Char.ofNat 0x22 :: rest) = some (cs.map .char, rest) := by
  induction cs with
  | nil => rfl
  | cons c cs ih =>
    rw [List.flatMap_cons, List.append_assoc, readPieces_escapedChar, ih]
    rfl

theorem textOf_chars (cs : List Char) : textOf (cs.map .char) = some cs := by
  induction cs with
  | nil => rfl
  | cons c cs ih =>
    show (textOf (cs.map .char)).map (c :: ·) = _
    rw [ih]
    rfl

/-- The token of a text. -/
def Token.ofText (text : String) : Token := .value (.string (some text))

theorem tokens_nil (steps : Nat) : tokens steps [] = some [] := by
  cases steps <;> rfl

/-- One step cuts one token off. -/
theorem tokens_cons {c : Char} {cs rest : List Char} {t : Token} (hspace : isSpace c = false)
    (htoken : token? c cs = some (t, rest)) (steps : Nat) :
    tokens (steps + 1) (c :: cs) = (tokens steps rest).map (t :: ·) := by
  rw [tokens, hspace, htoken]
  rfl

/-- A quoted text is one token. -/
theorem tokens_quotedText (steps : Nat) (text : String) (rest : List Char) :
    tokens (steps + 1) (quotedText text.toList ++ rest)
      = (tokens steps rest).map (.ofText text :: ·) := by
  have htoken : token? (Char.ofNat 0x22)
      (text.toList.flatMap escapedChar ++ Char.ofNat 0x22 :: rest) = some (.ofText text, rest) := by
    show (readPieces _).map _ = _
    rw [readPieces_quoted]
    show some (Token.value (.string ((textOf _).map String.ofList)), rest) = _
    rw [textOf_chars, Option.map_some, String.ofList_toList, Token.ofText]
  have hwritten : quotedText text.toList ++ rest
      = Char.ofNat 0x22 :: (text.toList.flatMap escapedChar ++ Char.ofNat 0x22 :: rest) := by
    simp [quotedText]
  rw [hwritten]
  exact tokens_cons rfl htoken steps

/-- **A quoted text is read as the text.** -/
theorem read_quotedText (text : String) :
    read (quotedText text.toList) = some (.string (some text)) := by
  have hlength : 1 ≤ (quotedText text.toList).length := by simp [quotedText]
  obtain ⟨steps, hsteps⟩ := Nat.exists_eq_add_of_le' hlength
  have htokens := tokens_quotedText steps text []
  rw [List.append_nil, tokens_nil] at htokens
  rw [read, hsteps, htokens]
  rfl

end RenderDesk.Json

/-! ## §3. Requests. -/

namespace RenderDesk.Service

open RenderDesk.Json

/-- A request as it is written: marks, and texts between quotes. -/
theorem wireText_eq (request : CompileRequest) :
    request.wireText.toList = Char.ofNat 0x7B ::
      (quotedText "content".toList ++ ':' :: (quotedText request.content.toList ++ ',' ::
        (quotedText "template".toList ++ ':' :: (quotedText request.template.toList ++ ',' ::
          (quotedText "compile".toList ++ ':' ::
            ((toString request.compile).toList ++ [Char.ofNat 0x7D])))))) := by
  have hcontent : "\x7b\"content\":".toList
      = Char.ofNat 0x7B :: (quotedText "content".toList ++ [':']) := by
    decide +kernel
  have htemplate : ",\"template\":".toList = ',' :: (quotedText "template".toList ++ [':']) := by
    decide +kernel
  have hcompile : ",\"compile\":".toList = ',' :: (quotedText "compile".toList ++ [':']) := by
    decide +kernel
  have hend : "\x7d".toList = [Char.ofNat 0x7D] := by decide
  unfold CompileRequest.wireText
  rw [String.toList_ofList]
  simp only [hcontent, htemplate, hcompile, hend, List.append_assoc, List.cons_append,
    List.nil_append]

/-- The tokens of a request. -/
theorem tokens_wireText (request : CompileRequest) (steps : Nat) :
    tokens (steps + 13) request.wireText.toList
      = some [.openObject, .ofText "content", .colon, .ofText request.content, .comma,
        .ofText "template", .colon, .ofText request.template, .comma,
        .ofText "compile", .colon, .value (.bool request.compile), .closeObject] := by
  have hcolon : ∀ steps rest,
      tokens (steps + 1) (':' :: rest) = (tokens steps rest).map (.colon :: ·) :=
    fun steps _ => tokens_cons rfl rfl steps
  have hcomma : ∀ steps rest,
      tokens (steps + 1) (',' :: rest) = (tokens steps rest).map (.comma :: ·) :=
    fun steps _ => tokens_cons rfl rfl steps
  have hflag : tokens (steps + 2) ((toString request.compile).toList ++ [Char.ofNat 0x7D])
      = some [.value (.bool request.compile), .closeObject] := by
    cases request.compile <;> cases steps <;> rfl
  rw [wireText_eq, tokens_cons rfl rfl]
  simp only [tokens_quotedText, hcolon, hcomma, hflag, Option.map_some]

/-- **A request is read as the object of what it asks for**, whatever is in its
texts. -/
theorem read_wireText (request : CompileRequest) :
    read request.wireText.toList = some (.object
      [(some "content", .string (some request.content)),
        (some "template", .string (some request.template)),
        (some "compile", .bool request.compile)]) := by
  have hlength : 13 ≤ request.wireText.toList.length := by
    rw [wireText_eq]
    simp [quotedText]
    omega
  obtain ⟨steps, hsteps⟩ := Nat.exists_eq_add_of_le' hlength
  unfold Json.read
  rw [hsteps, tokens_wireText]
  rfl

end RenderDesk.Service
