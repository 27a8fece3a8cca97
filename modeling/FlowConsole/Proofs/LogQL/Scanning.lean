import FlowConsole.LogQL.Label
import FlowConsole.Proofs.Text.Characters
import Mathlib.Data.List.Basic

/-!
# Scanning the literals of queries

A text of the query language is code with literals in it. A literal stands between double quotes,
where a backslash starts an escape, or between backticks, where every character stands for itself.
The scanner reads a text character by character and tells its code from the values of its literals.

Queries are written from tokens. The text of tokens scans to their code and to their literals, if no
token that is written between quotes without escapes holds a quote (`scan_text`); if one does, the
literals come out different, or the text ends inside a literal (`scan_text_ne`).
-/

open FlowConsole.Text (Consists)

namespace FlowConsole.LogQL

/-! ### The scanner -/

/-- Where the scanner is, and what it has read of a literal. -/
inductive ScanMode
  | code
  | quoted (read : List Char)
  /-- After a backslash. -/
  | escaped (read : List Char)
  | raw (read : List Char)
  deriving DecidableEq

/-- What the scanner has read. -/
structure Scanner where
  code : List Char := []
  literals : List (List Char) := []
  mode : ScanMode := .code
  deriving DecidableEq

/-- The character that an escape stands for. -/
def unescape? (c : Char) : Option Char :=
  List.lookup c [('"', '"'), ('\\', '\\'), ('n', '\n'), ('r', '\r'), ('t', '\t'), ('a', '\x07'),
    ('b', '\x08'), ('f', '\x0c'), ('v', '\x0b')]

namespace Scanner

/-- The literal that was read has ended. -/
def close (s : Scanner) (read : List Char) : Scanner :=
  { s with literals := s.literals ++ [read], mode := .code }

/-- Reads a character. A quoted literal does not go beyond the end of its line. -/
def step (s : Scanner) (c : Char) : Option Scanner :=
  match s.mode with
  | .code =>
    if c = '"' then some { s with mode := .quoted [] }
    else if c = '`' then some { s with mode := .raw [] }
    else some { s with code := s.code ++ [c] }
  | .quoted read =>
    if c = '"' then some (s.close read)
    else if c = '\\' then some { s with mode := .escaped read }
    else if c = '\n' then none
    else some { s with mode := .quoted (read ++ [c]) }
  | .escaped read => (unescape? c).map fun d => { s with mode := .quoted (read ++ [d]) }
  | .raw read =>
    if c = '`' then some (s.close read) else some { s with mode := .raw (read ++ [c]) }

/-- Reads characters in order. -/
def run (s : Scanner) (cs : List Char) : Option Scanner := cs.foldlM step s

end Scanner

/-- The code and the literals of a text that does not end inside a literal. -/
def scan (text : String) : Option (String × List String) :=
  (Scanner.run {} text.toList).bind fun s =>
    if s.mode = .code then some (String.ofList s.code, s.literals.map String.ofList) else none

/-! ### Tokens -/

/-- What queries are written from. -/
inductive Token
  | code (text : String)
  /-- A literal between double quotes, with escapes. -/
  | quoted (value : String)
  /-- A literal between backticks. -/
  | raw (value : String)
  /-- A literal between double quotes, without escapes. -/
  | bare (value : String)
  deriving DecidableEq, Repr

namespace Token

/-- The text of a token. -/
def text : Token → String
  | .code t => t
  | .quoted v => "\"" ++ escape v ++ "\""
  | .raw v => "`" ++ v ++ "`"
  | .bare v => "\"" ++ v ++ "\""

/-- The code of a token. -/
def codeText : Token → String
  | .code t => t
  | _ => ""

/-- The value of a token that is a literal. -/
def literal? : Token → Option String
  | .code _ => none
  | .quoted v | .raw v | .bare v => some v

/-- A character of code. -/
def isCodeChar (c : Char) : Bool := c != '"' && c != '`'

/-- A character that stands for itself between backticks and can be written between quotes. -/
def isLiteralChar (c : Char) : Bool := c != '`' && c != '\n'

/-- A character that can stand between quotes without an escape, a quote excepted. -/
def isBareChar (c : Char) : Bool := isLiteralChar c && c != '\\'

/-- The characters of the token are such as its kind of token is meant for. -/
def Regular : Token → Prop
  | .code t => Consists isCodeChar t
  | .quoted v | .raw v => Consists isLiteralChar v
  | .bare v => Consists isBareChar v

/-- The token is written between quotes without escapes, and holds a quote. -/
def Broken : Token → Prop
  | .bare v => '"' ∈ v.toList
  | _ => False

end Token

/-- The text of tokens. -/
def textOf (ts : List Token) : String := String.join (ts.map Token.text)

/-- The code of tokens. -/
def codeOf (ts : List Token) : String := String.join (ts.map Token.codeText)

/-- The literals of tokens. -/
def literalsOf (ts : List Token) : List String := ts.filterMap Token.literal?

/-! ### Reading parts of tokens -/

namespace Scanner

/-- Nothing is read from no text. -/
theorem run_nil (s : Scanner) : s.run [] = some s := rfl

/-- A character is read, and then the rest. -/
theorem run_cons (s : Scanner) (c : Char) (cs : List Char) :
    s.run (c :: cs) = (s.step c).bind fun t => t.run cs := List.foldlM_cons

/-- A text is read, and then the one after it. -/
theorem run_append (s : Scanner) (cs ds : List Char) :
    s.run (cs ++ ds) = (s.run cs).bind fun t => t.run ds := List.foldlM_append

/-- Where a first part is read, the rest is read from there. -/
theorem run_of_append {s t : Scanner} {cs : List Char} (h : s.run cs = some t) (ds : List Char) :
    s.run (cs ++ ds) = t.run ds := by
  rw [run_append, h, Option.bind_some]

variable (code : List Char) (literals : List (List Char)) (read : List Char)

/-- Code is read as code. -/
theorem run_code {cs : List Char} (h : ∀ c ∈ cs, Token.isCodeChar c = true) :
    run ⟨code, literals, .code⟩ cs = some ⟨code ++ cs, literals, .code⟩ := by
  induction cs generalizing code with
  | nil => rw [run_nil, List.append_nil]
  | cons c cs ih =>
    have hc := h c List.mem_cons_self
    rw [Token.isCodeChar, Bool.and_eq_true, bne_iff_ne, bne_iff_ne] at hc
    have hs : step ⟨code, literals, .code⟩ c = some ⟨code ++ [c], literals, .code⟩ := by
      rw [step]
      dsimp only
      rw [if_neg hc.1, if_neg hc.2]
    rw [run_cons, hs, Option.bind_some, ih _ fun d hd => h d (List.mem_cons_of_mem _ hd),
      List.append_assoc, List.singleton_append]

/-- A character without a meaning of its own between quotes is read as itself. -/
theorem step_quoted {c : Char} (hq : c ≠ '"') (hb : c ≠ '\\') (hn : c ≠ '\n') :
    step ⟨code, literals, .quoted read⟩ c = some ⟨code, literals, .quoted (read ++ [c])⟩ := by
  rw [step]
  dsimp only
  rw [if_neg hq, if_neg hb, if_neg hn]

/-- A character that was escaped is read as itself. -/
theorem run_escapeChar {c : Char} (hn : c ≠ '\n') :
    run ⟨code, literals, .quoted read⟩ (escapeChar c) =
      some ⟨code, literals, .quoted (read ++ [c])⟩ := by
  rw [escapeChar]
  split
  · next h => rcases h with rfl | rfl <;> rfl
  · next h =>
    rw [not_or] at h
    rw [run_cons, step_quoted code literals read h.2 h.1 hn, Option.bind_some, run_nil]

/-- A text on one line that was escaped is read as it was. -/
theorem run_escape_of_line {cs : List Char} (h : '\n' ∉ cs) :
    run ⟨code, literals, .quoted read⟩ (cs.flatMap escapeChar) =
      some ⟨code, literals, .quoted (read ++ cs)⟩ := by
  induction cs generalizing read with
  | nil => rw [List.flatMap_nil, run_nil, List.append_nil]
  | cons c cs ih =>
    rw [List.mem_cons, not_or] at h
    rw [List.flatMap_cons, run_of_append (run_escapeChar code literals read (Ne.symm h.1)),
      ih _ h.2, List.append_assoc, List.singleton_append]

/-- A text that was escaped is read as it was. -/
theorem run_escape {cs : List Char} (h : ∀ c ∈ cs, Token.isLiteralChar c = true) :
    run ⟨code, literals, .quoted read⟩ (cs.flatMap escapeChar) =
      some ⟨code, literals, .quoted (read ++ cs)⟩ :=
  run_escape_of_line code literals read fun hn => absurd (h '\n' hn) (by decide)

/-- A quoted literal is not read beyond the end of its line, even if it was escaped. -/
theorem run_escape_of_mem {cs : List Char} (h : '\n' ∈ cs) (rest : List Char) :
    run ⟨code, literals, .quoted read⟩ (cs.flatMap escapeChar ++ rest) = none := by
  obtain ⟨before, after, rfl, hbefore⟩ := List.eq_append_cons_of_mem h
  rw [List.flatMap_append, List.append_assoc,
    run_of_append (run_escape_of_line code literals read hbefore)]
  rfl

/-- Between quotes, a text without quotes that was not escaped is read as it is. -/
theorem run_bare {cs : List Char} (h : ∀ c ∈ cs, Token.isBareChar c = true) (hq : '"' ∉ cs) :
    run ⟨code, literals, .quoted read⟩ cs = some ⟨code, literals, .quoted (read ++ cs)⟩ := by
  induction cs generalizing read with
  | nil => rw [run_nil, List.append_nil]
  | cons c cs ih =>
    have hc := h c List.mem_cons_self
    rw [Token.isBareChar, Token.isLiteralChar, Bool.and_eq_true, Bool.and_eq_true, bne_iff_ne,
      bne_iff_ne, bne_iff_ne] at hc
    rw [List.mem_cons, not_or] at hq
    rw [run_cons, step_quoted code literals read (Ne.symm hq.1) hc.2 hc.1.2, Option.bind_some,
      ih _ (fun d hd => h d (List.mem_cons_of_mem _ hd)) hq.2, List.append_assoc,
      List.singleton_append]

/-- Between backticks, a text without backticks is read as it is. -/
theorem run_raw {cs : List Char} (h : ∀ c ∈ cs, Token.isLiteralChar c = true) :
    run ⟨code, literals, .raw read⟩ cs = some ⟨code, literals, .raw (read ++ cs)⟩ := by
  induction cs generalizing read with
  | nil => rw [run_nil, List.append_nil]
  | cons c cs ih =>
    have hc := h c List.mem_cons_self
    rw [Token.isLiteralChar, Bool.and_eq_true, bne_iff_ne, bne_iff_ne] at hc
    have hs : step ⟨code, literals, .raw read⟩ c =
        some ⟨code, literals, .raw (read ++ [c])⟩ := by
      rw [step]
      dsimp only
      rw [if_neg hc.1]
    rw [run_cons, hs, Option.bind_some, ih _ fun d hd => h d (List.mem_cons_of_mem _ hd),
      List.append_assoc, List.singleton_append]

/-- A step keeps the literals that were read. -/
theorem literals_step {s t : Scanner} {c : Char} (h : s.step c = some t) :
    s.literals <+: t.literals := by
  rw [step] at h
  cases hm : s.mode with
  | code =>
    rw [hm] at h
    dsimp only at h
    split_ifs at h <;> cases h <;> exact List.prefix_rfl
  | quoted read =>
    rw [hm] at h
    dsimp only at h
    split_ifs at h <;> cases h
    · exact List.prefix_append _ _
    · exact List.prefix_rfl
    · exact List.prefix_rfl
  | escaped read =>
    rw [hm] at h
    obtain ⟨d, -, rfl⟩ := Option.map_eq_some_iff.mp h
    exact List.prefix_rfl
  | raw read =>
    rw [hm] at h
    dsimp only at h
    split_ifs at h <;> cases h
    · exact List.prefix_append _ _
    · exact List.prefix_rfl

/-- What was read of literals stays. -/
theorem literals_run {s t : Scanner} {cs : List Char} (h : s.run cs = some t) :
    s.literals <+: t.literals := by
  induction cs generalizing s with
  | nil =>
    cases h
    exact List.prefix_rfl
  | cons c cs ih =>
    rw [run_cons] at h
    obtain ⟨u, hu, ht⟩ := Option.bind_eq_some_iff.mp h
    exact (literals_step hu).trans (ih ht)

end Scanner

/-! ### Reading tokens -/

section

variable (code : List Char) (literals : List (List Char))

private theorem run_between_quotes {cs read : List Char}
    (h : Scanner.run ⟨code, literals, .quoted []⟩ cs = some ⟨code, literals, .quoted read⟩)
    (rest : List Char) :
    Scanner.run ⟨code, literals, .code⟩ ('"' :: cs ++ '"' :: rest) =
      Scanner.run ⟨code, literals ++ [read], .code⟩ rest := by
  rw [List.cons_append, Scanner.run_cons]
  change Scanner.run ⟨code, literals, .quoted []⟩ (cs ++ '"' :: rest) = _
  rw [Scanner.run_of_append h, Scanner.run_cons]
  rfl

private theorem toList_between_quotes (s : String) :
    ("\"" ++ s ++ "\"").toList = '"' :: s.toList ++ ['"'] := by
  rw [String.toList_append, String.toList_append]
  rfl

/-- A token that is not broken is read as its code or as its literal. -/
theorem run_token {t : Token} (h : t.Regular) (hb : ¬t.Broken) :
    Scanner.run ⟨code, literals, .code⟩ t.text.toList =
      some ⟨code ++ t.codeText.toList, literals ++ t.literal?.toList.map String.toList, .code⟩ := by
  cases t with
  | code s =>
    have hc := Scanner.run_code code literals h
    simpa [Token.text, Token.codeText, Token.literal?] using hc
  | quoted v =>
    have he := Scanner.run_escape code literals [] h
    rw [Token.text, toList_between_quotes, escape, String.toList_ofList,
      run_between_quotes code literals he]
    simp [Token.codeText, Token.literal?, Scanner.run_nil]
  | raw v =>
    have hr := Scanner.run_raw code literals [] h
    have ht : (Token.raw v).text.toList = '`' :: (v.toList ++ ['`']) := by
      rw [Token.text, String.toList_append, String.toList_append]
      rfl
    rw [ht, Scanner.run_cons]
    change Scanner.run ⟨code, literals, .raw []⟩ (v.toList ++ ['`']) = _
    rw [Scanner.run_of_append hr]
    simp [Token.codeText, Token.literal?, Scanner.run, Scanner.step, Scanner.close]
  | bare v =>
    have hr := Scanner.run_bare code literals [] h hb
    rw [Token.text, toList_between_quotes, run_between_quotes code literals hr]
    simp [Token.codeText, Token.literal?, Scanner.run_nil]

private theorem toList_textOf_cons (t : Token) (ts : List Token) :
    (textOf (t :: ts)).toList = t.text.toList ++ (textOf ts).toList := by
  simp [textOf, String.join_cons]

/-- Tokens none of which is broken are read as their code and their literals. -/
theorem run_tokens {ts : List Token} (h : ∀ t ∈ ts, t.Regular) (hb : ∀ t ∈ ts, ¬t.Broken) :
    Scanner.run ⟨code, literals, .code⟩ (textOf ts).toList =
      some ⟨code ++ (codeOf ts).toList, literals ++ (literalsOf ts).map String.toList, .code⟩ := by
  induction ts generalizing code literals with
  | nil => simp [textOf, codeOf, literalsOf, Scanner.run_nil]
  | cons t ts ih =>
    have ht := run_token code literals (h t List.mem_cons_self) (hb t List.mem_cons_self)
    rw [toList_textOf_cons, Scanner.run_of_append ht,
      ih _ _ (fun u hu => h u (List.mem_cons_of_mem _ hu))
        fun u hu => hb u (List.mem_cons_of_mem _ hu)]
    simp [codeOf, literalsOf, String.join_cons, List.filterMap_cons]
    cases t.literal? <;> simp

private theorem run_broken {v : String} (h : (Token.bare v).Regular) (hb : (Token.bare v).Broken) :
    ∃ before after, before ≠ v.toList ∧
      Scanner.run ⟨code, literals, .code⟩ (Token.bare v).text.toList =
        Scanner.run ⟨code, literals ++ [before], .code⟩ after := by
  obtain ⟨before, after, hv, hq⟩ := List.eq_append_cons_of_mem hb
  refine ⟨before, after ++ ['"'], ?_, ?_⟩
  · intro he
    have hl := congrArg List.length hv
    rw [he, List.length_append, List.length_cons] at hl
    omega
  · have hbare : ∀ c ∈ before, Token.isBareChar c = true :=
      fun c hc => h c (hv ▸ List.mem_append_left _ hc)
    have hr := Scanner.run_bare code literals [] hbare hq
    rw [Token.text, toList_between_quotes, hv]
    have hs : '"' :: (before ++ '"' :: after) ++ ['"'] =
        '"' :: before ++ '"' :: (after ++ ['"']) := by simp
    rw [hs, run_between_quotes code literals hr, List.nil_append]

/-- If a token is broken, other literals are read than those of the tokens. -/
theorem literals_of_broken {ts : List Token} {s : Scanner} (h : ∀ t ∈ ts, t.Regular)
    (hb : ∃ t ∈ ts, t.Broken)
    (hs : Scanner.run ⟨code, literals, .code⟩ (textOf ts).toList = some s) :
    s.literals ≠ literals ++ (literalsOf ts).map String.toList := by
  induction ts generalizing code literals with
  | nil =>
    obtain ⟨t, ht, -⟩ := hb
    exact absurd ht List.not_mem_nil
  | cons t ts ih =>
    rw [toList_textOf_cons] at hs
    -- up to the first broken token all is read as written; from there on the literals differ
    by_cases hbt : t.Broken
    · cases t with
      | bare v =>
        obtain ⟨before, after, hne, hr⟩ := run_broken code literals (h _ List.mem_cons_self) hbt
        rw [Scanner.run_append, hr, ← Scanner.run_append] at hs
        have hp : literals ++ [before] <+: s.literals := Scanner.literals_run hs
        intro he
        rw [he, List.prefix_append_right_inj] at hp
        simp only [literalsOf, List.filterMap_cons, Token.literal?, List.map_cons,
          List.cons_prefix_cons] at hp
        exact hne hp.1
      | code _ | quoted _ | raw _ => exact hbt.elim
    · have hrest : ∃ u ∈ ts, u.Broken := by
        obtain ⟨u, hu, hub⟩ := hb
        rcases List.mem_cons.mp hu with rfl | hu
        · exact absurd hub hbt
        · exact ⟨u, hu, hub⟩
      rw [Scanner.run_of_append (run_token code literals (h t List.mem_cons_self) hbt)] at hs
      have hne := ih _ _ (fun u hu => h u (List.mem_cons_of_mem _ hu)) hrest hs
      intro he
      apply hne
      rw [he]
      simp only [literalsOf, List.filterMap_cons]
      cases t.literal? <;> simp

end

/-- The text of tokens none of which is broken scans to their code and their literals. -/
theorem scan_text {ts : List Token} (h : ∀ t ∈ ts, t.Regular) (hb : ∀ t ∈ ts, ¬t.Broken) :
    scan (textOf ts) = some (codeOf ts, literalsOf ts) := by
  have hm : (literalsOf ts).map (String.ofList ∘ String.toList) = literalsOf ts := by
    simp [Function.comp_def]
  rw [scan, run_tokens [] [] h hb, Option.bind_some, if_pos rfl, List.nil_append, List.nil_append,
    String.ofList_toList, List.map_map, hm]

/-- The text of tokens one of which is broken does not scan to their literals. -/
theorem scan_text_ne {ts : List Token} (h : ∀ t ∈ ts, t.Regular) (hb : ∃ t ∈ ts, t.Broken)
    (code : String) : scan (textOf ts) ≠ some (code, literalsOf ts) := by
  intro hs
  rw [scan] at hs
  obtain ⟨s, hr, hs⟩ := Option.bind_eq_some_iff.mp hs
  split at hs
  · rw [Option.some_inj, Prod.mk.injEq] at hs
    apply literals_of_broken [] [] h hb hr
    rw [List.nil_append, ← hs.2, List.map_map]
    simp [Function.comp_def]
  · cases hs

end FlowConsole.LogQL
