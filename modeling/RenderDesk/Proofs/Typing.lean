/-
  RenderDesk.Proofs.Typing
  ────────────────────────
  What a typed line is read as.

  Lines spell commands: `escape` says how a line of text is spelled, a table
  lists the words of the commands, and behind two of them an argument is
  spelled, with white space around it.  The reader gives each line the command
  that it spells, and no command to any other line.  So no text is taken for a
  command, and every text can be typed.

  The table and the rules (`Spells`) are apart from the reader; that a line
  spells at most one command follows from the reader being right.

  Main statements:
    * `nameAndArgument_iff` — how a command is divided;
    * `named?_iff` — which names and arguments are commands;
    * `parseChars_iff` — a line is read as what it spells, and as unknown when
      it spells nothing;
    * `Stripped.parse_eq` — line ends do not count;
    * `lines_read` — the three together, for every typed line.
-/
import RenderDesk.Proofs.Trimming
import RenderDesk.Terminal.Command

namespace RenderDesk.Terminal

open RenderDesk.Text

/-! ## §1. How commands are spelled. -/

/-- The words of the commands that stand alone. -/
def words : List (String × Command) :=
  [("render", .render), ("r", .render), ("source", .source), ("templates", .templates),
    ("clear-log", .clearLog), ("export", .saveArtifact), ("show", .status), ("reset", .reset),
    ("pop", .pop), ("help", .help), ("h", .help), ("quit", .quit), ("q", .quit)]

/-- The words of the commands that take an argument. -/
def prompts : List (String × (String → Command)) :=
  [("template", .useTemplate), ("load", .load)]

/-- A text that can be an argument. -/
structure Argument (cs : List Char) : Prop extends Bare isBlank cs where
  nonempty : cs ≠ []

/-- A command's name, and its argument if it has one, with white space behind each. -/
inductive Divided : List Char → List Char → List Char → Prop
  | alone {name gap : List Char} (hname : ∀ c ∈ name, isBlank c = false)
      (hgap : allBlank gap = true) : Divided (name ++ gap) name []
  | followed {name gap argument rest : List Char} (hname : ∀ c ∈ name, isBlank c = false)
      (hgap : allBlank gap = true) (hsome : gap ≠ []) (hargument : Argument argument)
      (hrest : allBlank rest = true) : Divided (name ++ (gap ++ argument ++ rest)) name argument

/-- The lines that spell a command. -/
inductive Spells : List Char → Command → Prop
  | text (line : List Char) : Spells (escape line) (.append (String.ofList line))
  | word {word : String} {c : Command} {cs : List Char} (hword : (word, c) ∈ words)
      (hcs : Divided cs word.toList []) : Spells (':' :: cs) c
  | prompt {word : String} {make : String → Command} {cs argument : List Char}
      (hword : (word, make) ∈ prompts) (hargument : Argument argument)
      (hcs : Divided cs word.toList argument) : Spells (':' :: cs) (make (String.ofList argument))

/-- Commands that a single colon begins. -/
def Recognised : Command → Prop
  | .append _ | .unknown _ => False
  | _ => True

/-! ## §2. Dividing a command. -/

theorem trim_blank {cs : List Char} (h : allBlank cs = true) : trim cs = [] := by
  have hnone : Bare isBlank [] := ⟨by simp, by simp⟩
  have hcore : trim (cs ++ [] ++ []) = [] := trimBoth_around h hnone rfl
  simpa using hcore

theorem Argument.trim_eq {argument front rest : List Char} (h : Argument argument)
    (hfront : allBlank front = true) (hrest : allBlank rest = true) :
    trim (front ++ argument ++ rest) = argument :=
  trimBoth_around hfront h.toBare hrest

theorem trim_of_plain {cs : List Char} (h : ∀ c ∈ cs, isBlank c = false) : trim cs = cs :=
  trimBoth_of_bare (bare_of_forall h)

theorem nameAndArgument_divided (cs : List Char) :
    Divided cs (nameAndArgument cs).1 (nameAndArgument cs).2 := by
  unfold nameAndArgument
  cases hcut : cut isBlank cs with
  | none =>
    -- without white space all of it is the name
    have hname : ∀ c ∈ cs, isBlank c = false := cut_eq_none_iff.1 hcut
    show Divided cs (trim cs) []
    rw [trim_of_plain hname]
    have halone : Divided (cs ++ []) cs [] := Divided.alone hname rfl
    rwa [List.append_nil] at halone
  | some found =>
    obtain ⟨name, behind⟩ := found
    obtain ⟨space, hspace, rfl, hname⟩ := cut_eq_some_iff.1 hcut
    obtain ⟨front, rest, hparts, hfront, hrest⟩ := trimBoth_parts isBlank behind
    have hgap : allBlank (space :: front) = true := by simp [allBlank, hspace, hfront]
    show Divided (name ++ space :: behind) name (trim behind)
    by_cases hnone : trim behind = []
    · have hblank : allBlank (space :: behind) = true := by
        have hbehind : behind = front ++ [] ++ rest := hnone ▸ hparts
        simp [hbehind, allBlank, hspace, hfront, hrest]
      rw [hnone]
      exact Divided.alone hname hblank
    · have hargument : Argument (trim behind) := ⟨trimBoth_bare isBlank behind, hnone⟩
      have hwhole : space :: behind = space :: front ++ trim behind ++ rest :=
        congrArg (space :: ·) hparts
      rw [hwhole]
      exact Divided.followed hname hgap (List.cons_ne_nil _ _) hargument hrest

theorem Divided.nameAndArgument_eq {cs name argument : List Char} (h : Divided cs name argument) :
    nameAndArgument cs = (name, argument) := by
  unfold nameAndArgument
  cases h with
  | @alone _ gap hname hgap =>
    cases gap with
    | nil =>
      have hcut : cut isBlank (name ++ []) = none := by
        rw [List.append_nil, cut_eq_none_iff]
        exact hname
      rw [hcut, List.append_nil, trim_of_plain hname]
    | cons space gap =>
      obtain ⟨hspace, hgap⟩ : isBlank space = true ∧ allBlank gap = true := by
        simpa [allBlank] using hgap
      have hcut : cut isBlank (name ++ space :: gap) = some (name, gap) :=
        cut_eq_some_iff.2 ⟨space, hspace, rfl, hname⟩
      rw [hcut]
      exact congrArg (Prod.mk name) (trim_blank hgap)
  | @followed _ gap _ rest hname hgap hsome hargument hrest =>
    cases gap with
    | nil => exact absurd rfl hsome
    | cons space gap =>
      -- the cut is at the first space of the gap; the others go with the argument
      obtain ⟨hspace, hgap⟩ : isBlank space = true ∧ allBlank gap = true := by
        simpa [allBlank] using hgap
      have hcut : cut isBlank (name ++ (space :: gap ++ argument ++ rest))
          = some (name, gap ++ argument ++ rest) :=
        cut_eq_some_iff.2 ⟨space, hspace, rfl, hname⟩
      rw [hcut]
      exact congrArg (Prod.mk name) (hargument.trim_eq hgap hrest)

/-- **A command is divided in one way.** -/
theorem nameAndArgument_iff {cs name argument : List Char} :
    nameAndArgument cs = (name, argument) ↔ Divided cs name argument := by
  constructor
  · intro h
    have hdivided := nameAndArgument_divided cs
    rwa [h] at hdivided
  · exact Divided.nameAndArgument_eq

/-! ## §3. Naming a command. -/

/-- **The names that are commands**, alone or with an argument. -/
theorem named?_iff {name argument : String} {c : Command} :
    named? name argument = some c ↔ ((name, c) ∈ words ∧ argument = "")
      ∨ ∃ make, (name, make) ∈ prompts ∧ argument ≠ "" ∧ c = make argument := by
  constructor
  · intro h
    unfold named? at h
    -- one case for each word, and those that name nothing
    split at h <;> simp_all [words, prompts]
  · rintro (⟨hword, rfl⟩ | ⟨make, hword, hargument, rfl⟩)
    · have hall : ∀ entry ∈ words, named? entry.1 "" = some entry.2 := by decide
      exact hall _ hword
    · -- the argument is any text, so the prompts are taken one by one
      simp only [prompts, List.mem_cons, List.not_mem_nil, Prod.mk.injEq, or_false] at hword
      rcases hword with ⟨rfl, rfl⟩ | ⟨rfl, rfl⟩
      · simp [named?]
      · simp [named?]

/-- What names a command begins with no colon. -/
theorem named?_plain {name argument : String} {c : Command} (h : named? name argument = some c) :
    name.toList ≠ [] ∧ name.toList.head? ≠ some ':' := by
  rcases named?_iff.1 h with ⟨hword, -⟩ | ⟨make, hword, -⟩
  · have hall : ∀ entry ∈ words, entry.1.toList ≠ [] ∧ entry.1.toList.head? ≠ some ':' := by decide
    exact hall _ hword
  · have hall : ∀ entry ∈ prompts, entry.1.toList ≠ [] ∧ entry.1.toList.head? ≠ some ':' := by
      simp [prompts]
    exact hall _ hword

/-- The reader of commands, on a line that a single colon begins. -/
theorem parseChars_colon {cs : List Char} (h : cs.head? ≠ some ':') :
    parseChars (':' :: cs) = (named? (String.ofList (nameAndArgument cs).1)
      (String.ofList (nameAndArgument cs).2)).getD (.unknown (String.ofList (':' :: cs))) := by
  unfold parseChars
  split
  · next heq =>
    injection heq with _ hcs
    rw [hcs] at h
    exact absurd rfl h
  · next heq =>
    injection heq with _ hcs
    rw [hcs]
  · next hnone => exact absurd rfl (hnone _)

/-! ## §4. Reading a line. -/

/-- A command begins as its name does. -/
theorem Divided.head {cs name argument : List Char} (h : Divided cs name argument)
    (hname : name ≠ []) : cs.head? = name.head? := by
  cases h with
  | alone _ _ => exact List.head?_append_of_ne_nil _ hname
  | followed _ _ _ _ _ => exact List.head?_append_of_ne_nil _ hname

theorem Divided.parse_eq {cs argument : List Char} {name : String} {c : Command}
    (h : Divided cs name.toList argument)
    (hnamed : named? name (String.ofList argument) = some c) : parseChars (':' :: cs) = c := by
  obtain ⟨hsome, hcolon⟩ := named?_plain hnamed
  rw [parseChars_colon (h.head hsome ▸ hcolon), nameAndArgument_iff.2 h, String.ofList_toList,
    hnamed]
  rfl

theorem Spells.parse_eq {line : List Char} {c : Command} (h : Spells line c) :
    parseChars line = c := by
  cases h with
  | text line => exact parseChars_escape line
  | word hword hcs => exact hcs.parse_eq (named?_iff.2 (.inl ⟨hword, rfl⟩))
  | @prompt word make cs argument hword hargument hcs =>
    have hne : String.ofList argument ≠ "" := by simpa using hargument.nonempty
    exact hcs.parse_eq (named?_iff.2 (.inr ⟨make, hword, hne, rfl⟩))

theorem Divided.spells {cs name argument : List Char} {c : Command} (h : Divided cs name argument)
    (hnamed : named? (String.ofList name) (String.ofList argument) = some c) :
    Spells (':' :: cs) c := by
  rcases named?_iff.1 hnamed with ⟨hword, hnone⟩ | ⟨make, hword, hsome, rfl⟩
  · obtain rfl : argument = [] := by simpa using hnone
    exact Spells.word hword (by simpa using h)
  · have hargument : Argument argument := by
      cases h with
      | alone _ _ => exact absurd String.ofList_nil hsome
      | followed _ _ _ hargument _ => exact hargument
    exact Spells.prompt hword hargument (by simpa using h)

/-- Without a colon in front, a line spells itself. -/
theorem spells_plain {line : List Char} (h : line.head? ≠ some ':') :
    Spells line (.append (String.ofList line)) := by
  have hescape : escape line = line := by
    unfold escape
    split
    · exact absurd rfl h
    · rfl
  have hspelled := Spells.text line
  rwa [hescape] at hspelled

/-- What a line is read as, it spells, unless it is unknown. -/
theorem parseChars_spelled (line : List Char) :
    Spells line (parseChars line) ∨ parseChars line = .unknown (String.ofList line) := by
  by_cases hcolon : line.head? = some ':'
  · obtain ⟨cs, rfl⟩ : ∃ cs, line = ':' :: cs := List.head?_eq_some_iff.1 hcolon
    by_cases hagain : cs.head? = some ':'
    · obtain ⟨rest, rfl⟩ : ∃ rest, cs = ':' :: rest := List.head?_eq_some_iff.1 hagain
      exact .inl (Spells.text (':' :: rest))
    · -- a single colon: a command if what stands behind it names one
      rw [parseChars_colon hagain]
      cases hnamed : named? (String.ofList (nameAndArgument cs).1)
          (String.ofList (nameAndArgument cs).2) with
      | none => exact .inr rfl
      | some c => exact .inl ((nameAndArgument_divided cs).spells hnamed)
  · have hplain := spells_plain hcolon
    rw [hplain.parse_eq]
    exact .inl hplain

/-- A line that spells something spells a text or a command. -/
theorem Spells.text_or_recognised {line : List Char} {c : Command} (h : Spells line c) :
    (∃ text, line = escape text ∧ c = .append (String.ofList text)) ∨ Recognised c := by
  cases h with
  | text line => exact .inl ⟨line, rfl, rfl⟩
  | word hword _ =>
    have hall : ∀ entry ∈ words, Recognised entry.2 := by simp [words, Recognised]
    exact .inr (hall _ hword)
  | prompt hword _ _ =>
    have hall : ∀ entry ∈ prompts, ∀ argument, Recognised (entry.2 argument) := by
      simp [prompts, Recognised]
    exact .inr (hall _ hword _)

theorem Spells.known {line : List Char} {c : Command} (h : Spells line c) (text : String) :
    c ≠ .unknown text := by
  rintro rfl
  rcases h.text_or_recognised with ⟨_, _, htext⟩ | hunknown
  · cases htext
  · exact hunknown

/-- **A line is read as what it spells**, and as unknown when it spells nothing. -/
theorem parseChars_iff {line : List Char} {c : Command} :
    parseChars line = c ↔ Spells line c
      ∨ c = .unknown (String.ofList line) ∧ ∀ other, ¬Spells line other := by
  constructor
  · rintro rfl
    rcases parseChars_spelled line with hspelled | hunknown
    · exact .inl hspelled
    · refine .inr ⟨hunknown, ?_⟩
      intro other hother
      exact hother.known _ (hother.parse_eq ▸ hunknown)
  · rintro (hspelled | ⟨rfl, hnone⟩)
    · exact hspelled.parse_eq
    · exact (parseChars_spelled line).resolve_left (hnone _)

/-- Only what `escape` makes of a text spells that text. -/
theorem spells_append_iff {line : List Char} {text : String} :
    Spells line (.append text) ↔ line = escape text.toList := by
  constructor
  · intro h
    rcases h.text_or_recognised with ⟨cs, hline, htext⟩ | hnone
    · injection htext with htext
      rw [hline, htext, String.toList_ofList]
    · exact hnone.elim
  · rintro rfl
    have hspelled := Spells.text text.toList
    rwa [String.ofList_toList] at hspelled

/-! ## §5. Typed lines. -/

/-- A typed line without the line ends behind it. -/
structure Stripped (typed line : String) : Prop where
  ends : ∃ ends : String, typed = line ++ ends ∧ ∀ c ∈ ends.toList, c = '\r' ∨ c = '\n'
  finish : ∀ c ∈ line.toList.getLast?, c ≠ '\r' ∧ c ≠ '\n'

/-- How a text is typed: a leading colon is doubled. -/
def escaped (text : String) : String := String.ofList (escape text.toList)

theorem isLineEnd_iff (c : Char) : isLineEnd c = true ↔ c = '\r' ∨ c = '\n' := by
  simp [isLineEnd]

theorem stripped_exists (typed : String) : ∃ line, Stripped typed line := by
  obtain ⟨ends, hends, hall⟩ := dropEndWhile_parts isLineEnd typed.toList
  refine ⟨String.ofList (dropEndWhile isLineEnd typed.toList), ⟨String.ofList ends, ?_, ?_⟩, ?_⟩
  · rw [← String.ofList_append, ← hends, String.ofList_toList]
  · intro c hc
    rw [String.toList_ofList] at hc
    exact (isLineEnd_iff c).1 (List.all_eq_true.1 hall c hc)
  · intro c hc
    rw [String.toList_ofList] at hc
    have hfinish : ¬isLineEnd c = true := ne_true_of_eq_false (dropEndWhile_finish _ _ c hc)
    rw [isLineEnd_iff] at hfinish
    exact not_or.1 hfinish

/-- **Line ends do not count.** -/
theorem Stripped.parse_eq {typed line : String} (h : Stripped typed line) :
    Command.parse typed = parseChars line.toList := by
  obtain ⟨⟨ends, rfl, hends⟩, hfinish⟩ := h
  have hall : ends.toList.all isLineEnd = true :=
    List.all_eq_true.2 fun c hc => (isLineEnd_iff c).2 (hends c hc)
  have hlast : ∀ c ∈ line.toList.getLast?, isLineEnd c = false := by
    intro c hc
    apply eq_false_of_ne_true
    show ¬isLineEnd c = true
    rw [isLineEnd_iff]
    exact not_or.2 (hfinish c hc)
  rw [Command.parse, String.toList_append, dropEndWhile_append_of_all hall,
    dropEndWhile_of_finish hlast]

theorem Stripped.append_iff {typed line : String} (h : Stripped typed line) (text : String) :
    Command.parse typed = .append text ↔ line = escaped text := by
  rw [h.parse_eq, parseChars_iff, spells_append_iff, escaped, ← String.toList_inj,
    String.toList_ofList]
  simp

theorem Stripped.command_iff {typed line : String} (h : Stripped typed line) {c : Command}
    (hc : Recognised c) : Command.parse typed = c ↔ Spells line.toList c := by
  rw [h.parse_eq, parseChars_iff]
  apply or_iff_left
  rintro ⟨rfl, -⟩
  exact hc

theorem Stripped.unknown_iff {typed line : String} (h : Stripped typed line) {text : String} :
    Command.parse typed = .unknown text ↔ text = line ∧ ∀ c, ¬Spells line.toList c := by
  rw [h.parse_eq, parseChars_iff, String.ofList_toList]
  constructor
  · rintro (hspelled | ⟨htext, hnone⟩)
    · exact absurd rfl (hspelled.known text)
    · injection htext with htext
      exact ⟨htext, hnone⟩
  · rintro ⟨rfl, hnone⟩
    exact .inr ⟨rfl, hnone⟩

theorem Stripped.unknown {typed line : String} (h : Stripped typed line)
    (htext : ∀ text, Command.parse typed ≠ .append text)
    (hcommand : ¬Recognised (Command.parse typed)) : Command.parse typed = .unknown line := by
  cases hread : Command.parse typed with
  | append text => exact absurd hread (htext text)
  | unknown text =>
    obtain ⟨rfl, -⟩ := h.unknown_iff.1 hread
    rfl
  | _ =>
    rw [hread] at hcommand
    exact absurd trivial hcommand

/-- An argument may stand behind one space. -/
theorem parse_prompt {word : String} {make : String → Command} (hword : (word, make) ∈ prompts)
    {name : String} (hname : Argument name.toList) :
    Command.parse (":" ++ word ++ " " ++ name) = make name := by
  have hline : (":" ++ word ++ " " ++ name).toList
      = ':' :: (word.toList ++ ([' '] ++ name.toList ++ [])) := by
    simp
  have hstripped : Stripped (":" ++ word ++ " " ++ name) (":" ++ word ++ " " ++ name) := by
    refine ⟨⟨"", by simp, by simp⟩, ?_⟩
    intro c hc
    -- the line ends as the argument does, and line ends are white space
    have hlast : c ∈ name.toList.getLast? := by
      rw [String.toList_append, List.getLast?_append_of_ne_nil _ hname.nonempty] at hc
      exact hc
    have hblank : isBlank c = false := hname.finish c hlast
    constructor
    · rintro rfl
      exact absurd hblank (by decide)
    · rintro rfl
      exact absurd hblank (by decide)
  have hplain : ∀ entry ∈ prompts, ∀ c ∈ entry.1.toList, isBlank c = false := by
    simp [prompts]
    decide
  have hcs : Divided (word.toList ++ ([' '] ++ name.toList ++ [])) word.toList name.toList :=
    Divided.followed (hplain _ hword) rfl (List.cons_ne_nil _ _) hname rfl
  have hspelled := Spells.prompt hword hname hcs
  rw [hstripped.parse_eq, hline, hspelled.parse_eq, String.ofList_toList]

/-- How a typed line is read. -/
structure ReadAs (typed line : String) : Prop where
  stripped : Stripped typed line
  /-- A text is read from its own spelling, and from nothing else. -/
  text : ∀ text, Command.parse typed = .append text ↔ line = escaped text
  /-- So is a command. -/
  command : ∀ c, Recognised c → (Command.parse typed = c ↔ Spells line.toList c)
  /-- What is read as neither is unknown, as it was typed. -/
  other : (∀ text, Command.parse typed ≠ .append text) → ¬Recognised (Command.parse typed) →
    Command.parse typed = .unknown line
  /-- What spells nothing is unknown. -/
  unknown : Command.parse typed = .unknown line ↔ ∀ c, ¬Spells line.toList c

/-- **Every text can be typed, and only commands are commands.**  A name that
white space does not surround can be the argument of a command. -/
theorem lines_read :
    (∀ typed : String, ∃ line : String, ReadAs typed line)
      ∧ ∀ name : String, Argument name.toList →
          Command.parse (":template " ++ name) = .useTemplate name
            ∧ Command.parse (":load " ++ name) = .load name := by
  constructor
  · intro typed
    obtain ⟨line, hline⟩ := stripped_exists typed
    refine ⟨line, hline, hline.append_iff, fun c hc => hline.command_iff hc, hline.unknown, ?_⟩
    rw [hline.unknown_iff]
    exact and_iff_right rfl
  · intro name hname
    have htemplate : ("template", Command.useTemplate) ∈ prompts := by simp [prompts]
    have hload : ("load", Command.load) ∈ prompts := by simp [prompts]
    exact ⟨parse_prompt htemplate hname, parse_prompt hload hname⟩

theorem spaced_path_loaded :
    Argument "my notes.md".toList ∧ Command.parse ":load my notes.md" = .load "my notes.md" := by
  have hbare : Bare isBlank "my notes.md".toList :=
    bare_of_ends rfl (by decide : isBlank 'm' = false) rfl (by decide : isBlank 's' = false)
  have hname : Argument "my notes.md".toList := ⟨hbare, by decide⟩
  exact ⟨hname, (lines_read.2 _ hname).2⟩

example : Command.parse "::colon\r\n" = .append ":colon" := by decide

end RenderDesk.Terminal
