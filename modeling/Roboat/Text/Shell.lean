import Mathlib.Data.List.Basic
import Mathlib.Tactic.SplitIfs
import Roboat.Text.Hex

/-! # The words of a shell command

Token recognition and quoting of a POSIX shell, up to quote removal: blanks and operators delimit
words; a backslash, single quotes and double quotes take characters literally, a `#` where a word
could begin starts a comment. A character of a word keeps whether it was taken literally: one that
was not and that can begin an expansion is acted upon after the text is split (`WordChar.isActive`).
The lexer is a fold over the text, so that a text may be read piece by piece (`read_append`).
Here-documents are not read; `<<` is an operator like the others. -/

namespace Roboat.Shell

/-! ## The lexer -/

/-- A character of a word, and whether it was taken literally. -/
structure WordChar where
  char : Char
  quoted : Bool
  deriving DecidableEq, Repr

/-- A token. -/
inductive Token where
  | word (chars : List WordChar)
  /-- The digits in front of a redirection. -/
  | ioNumber (digits : Str)
  | operator (text : Str)
  | comment
  deriving DecidableEq, Repr

/-- The operators; a line end is one of them. -/
def operators : List Str :=
  ["&", "&&", "|", "||", ";", ";;", "<", "<<", "<<-", "<&", "<>", ">", ">>", ">&", ">|", "(", ")",
    "\n"].map String.toList

def isOperator (text : Str) : Bool := operators.contains text

/-- What the next character is part of. -/
inductive Mode where
  | plain
  /-- Between single quotes. -/
  | single
  /-- Between double quotes. -/
  | double
  /-- After a backslash. -/
  | escape
  /-- After a backslash between double quotes. -/
  | doubleEscape
  /-- An operator that has begun with this text. -/
  | operator (text : Str)
  | comment
  deriving DecidableEq, Repr

/-- The lexer: the word that has begun, if one has, and the tokens before it. -/
structure Lexer where
  mode : Mode := .plain
  word : Option (List WordChar) := none
  tokens : List Token := []
  deriving DecidableEq, Repr

/-- The token of a word; digits right before a redirection are its descriptor. -/
def wordToken (redirects : Bool) (chars : List WordChar) : Token :=
  if redirects && !chars.isEmpty && chars.all fun c => !c.quoted && c.char.isDigit then
    .ioNumber (chars.map WordChar.char)
  else .word chars

namespace Lexer

/-- The word ends. -/
def endWord (l : Lexer) (redirects : Bool) : Lexer :=
  match l.word with
  | none => l
  | some chars => { l with word := none, tokens := l.tokens ++ [wordToken redirects chars] }

/-- The word goes on, or begins, with a character. -/
def push (l : Lexer) (c : Char) (quoted : Bool) : Lexer :=
  { l with word := some (l.word.getD [] ++ [⟨c, quoted⟩]) }

/-- A character outside quotes. -/
def plainStep (l : Lexer) (c : Char) : Lexer :=
  -- a quote begins a word, which may stay empty
  if c = '\x27' then { l with mode := .single, word := some (l.word.getD []) }
  else if c = '"' then { l with mode := .double, word := some (l.word.getD []) }
  else if c = '\\' then { l with mode := .escape }
  else if isOperator [c] then { l.endWord (c = '<' || c = '>') with mode := .operator [c] }
  else if c = ' ' || c = '\t' then l.endWord false
  else if c = '#' && l.word.isNone then
    { l with mode := .comment, tokens := l.tokens ++ [.comment] }
  else l.push c false

/-- A character. -/
def step (l : Lexer) (c : Char) : Lexer :=
  match l.mode with
  | .plain => l.plainStep c
  | .single => if c = '\x27' then { l with mode := .plain } else l.push c true
  | .double =>
    if c = '"' then { l with mode := .plain }
    else if c = '\\' then { l with mode := .doubleEscape }
    -- expansions take place between double quotes as well
    else l.push c (!(c = '$' || c = '\x60'))
  | .escape =>
    -- a line end after a backslash is not there
    if c = '\n' then { l with mode := .plain } else { l.push c true with mode := .plain }
  | .doubleEscape =>
    if c = '\n' then { l with mode := .double }
    else if c = '$' || c = '\x60' || c = '"' || c = '\\' then
      { l.push c true with mode := .double }
    else { (l.push '\\' true).push c true with mode := .double }
  | .operator text =>
    if isOperator (text ++ [c]) then { l with mode := .operator (text ++ [c]) }
    else
      plainStep { l with mode := .plain, tokens := l.tokens ++ [Token.operator text] } c
  | .comment => if c = '\n' then { l with mode := .operator [c] } else l

/-- Read a text. -/
def read (l : Lexer) (s : Str) : Lexer := s.foldl step l

/-- The end of the text; it must not be between quotes or after a backslash. -/
def finish (l : Lexer) : Option (List Token) :=
  match l.mode with
  | .plain => some (l.endWord false).tokens
  | .operator text => some (l.tokens ++ [.operator text])
  | .comment => some l.tokens
  | _ => none

end Lexer

/-- **The tokens of a text.** -/
def lex (s : Str) : Option (List Token) := (Lexer.read {} s).finish

example : lex "a 'b c'\"$d\" 2>&1 && e #f".toList = some
    [.word [⟨'a', false⟩],
      .word [⟨'b', true⟩, ⟨' ', true⟩, ⟨'c', true⟩, ⟨'$', false⟩, ⟨'d', true⟩],
      .ioNumber ['2'], .operator ['>', '&'], .word [⟨'1', false⟩], .operator ['&', '&'],
      .word [⟨'e', false⟩], .comment] := by decide +kernel

/-! ## Words that stand for themselves -/

/-- The characters that can mean something inside a word when they are not taken literally. -/
def activeChars : List Char := ['$', '\x60', '*', '?', '[', '#', '~', '=', '%']

/-- Whether the shell may act upon a character of a word. -/
def WordChar.isActive (c : WordChar) : Bool := !c.quoted && activeChars.contains c.char

/-- The token is one word, whose characters are those of the text and are not acted upon. -/
def Token.Literal (token : Token) (text : Str) : Prop :=
  ∃ chars, token = .word chars ∧ chars.map WordChar.char = text ∧
    ∀ c ∈ chars, c.isActive = false

/-- **A text is split into exactly these words**: the shell finds no operator and no comment in it,
and nothing to act upon in any of the words. -/
def SplitsInto (text : Str) (words : List Str) : Prop :=
  ∃ tokens, lex text = some tokens ∧ List.Forall₂ Token.Literal tokens words

/-- The characters of a text, all taken literally, or none of them. -/
def wordOf (quoted : Bool) (s : Str) : List WordChar := s.map fun c => ⟨c, quoted⟩

theorem literal_quoted (s : Str) : (Token.word (wordOf true s)).Literal s := by
  refine ⟨_, rfl, ?_, ?_⟩
  · rw [wordOf, List.map_map]
    exact List.map_id s
  · intro c hc
    obtain ⟨d, -, rfl⟩ := List.mem_map.mp hc
    rfl

theorem literal_plain {s : Str} (hplain : s.all (fun c => !activeChars.elem c) = true) :
    (Token.word (wordOf false s)).Literal s := by
  have h : ∀ c ∈ s, c ∉ activeChars := by
    intro c hc hactive
    have hnot := List.all_eq_true.mp hplain c hc
    rw [List.elem_eq_true_of_mem hactive] at hnot
    cases hnot
  refine ⟨_, rfl, ?_, ?_⟩
  · rw [wordOf, List.map_map]
    exact List.map_id s
  · intro c hc
    obtain ⟨d, hd, rfl⟩ := List.mem_map.mp hc
    simp [WordChar.isActive, h d hd]

/-! ## Reading piece by piece -/

namespace Lexer

theorem read_append (l : Lexer) (s t : Str) : l.read (s ++ t) = (l.read s).read t :=
  List.foldl_append

theorem read_cons (l : Lexer) (c : Char) (s : Str) : l.read (c :: s) = (l.step c).read s := rfl

/-- The same lexer with more tokens before. -/
def after (tokens : List Token) (l : Lexer) : Lexer := { l with tokens := tokens ++ l.tokens }

theorem plainStep_after (tokens : List Token) (l : Lexer) (c : Char) :
    (l.after tokens).plainStep c = (l.plainStep c).after tokens := by
  have hend : ∀ redirects, (l.after tokens).endWord redirects
      = (l.endWord redirects).after tokens := by
    intro redirects
    cases hword : l.word <;> simp [endWord, after, hword]
  unfold plainStep
  simp only [hend]
  split_ifs <;> simp_all [after, push]

theorem step_after (tokens : List Token) (l : Lexer) (c : Char) :
    (l.after tokens).step c = (l.step c).after tokens := by
  have hmode : (l.after tokens).mode = l.mode := rfl
  unfold step
  rw [hmode]
  cases l.mode with
  | plain => exact plainStep_after tokens l c
  | operator text =>
    have hplain := plainStep_after tokens
      { l with mode := .plain, tokens := l.tokens ++ [Token.operator text] } c
    simp only [after, List.append_assoc] at hplain ⊢
    split_ifs
    · rfl
    · exact hplain
  | single | double | escape | doubleEscape | comment => simp only; split_ifs <;> rfl

/-- **What a text adds does not depend on the tokens before it.** -/
theorem read_after (tokens : List Token) (l : Lexer) (s : Str) :
    (l.after tokens).read s = (l.read s).after tokens := by
  induction s generalizing l with
  | nil => rfl
  | cons c s ih => rw [read_cons, read_cons, step_after, ih]

/-- Between single quotes every character but the quote is taken literally. -/
theorem step_single {c : Char} (h : c ≠ '\x27') (chars : List WordChar) (tokens : List Token) :
    step ⟨.single, some chars, tokens⟩ c = ⟨.single, some (chars ++ [⟨c, true⟩]), tokens⟩ := by
  simp only [step, if_neg h, push, Option.getD_some]

/-- A blank ends the word. -/
theorem step_blank (chars : List WordChar) (tokens : List Token) :
    step ⟨.plain, some chars, tokens⟩ ' ' = ⟨.plain, none, tokens ++ [Token.word chars]⟩ := by
  simp [step, plainStep, isOperator, operators, endWord, wordToken]

end Lexer

end Roboat.Shell
