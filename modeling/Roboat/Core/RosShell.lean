import Mathlib.Tactic.SplitIfs
import Roboat.Text.Shell
import Roboat.Text.Strings

/-! # ROS commands for the shell

The agent runs `ros2` through a shell, so that the setup script of the ROS installation can be
sourced first. The arguments come from the other side of the tunnel: `shell_quote` has to make one
word of each of them, whatever is in it. It puts the text between single quotes, and a single quote
in the text between double quotes; `ros2ShellCommand_splits` reads the result back with the rules of
the shell. -/

namespace Roboat.Core

open Shell

/-! ## The code -/

/-- What `ros_setup_script_path` asks the system: the variables of the environment that are set to
valid Unicode, and which paths are files. -/
structure System where
  var : String → Option Str
  isFile : Str → Bool

/-- `KNOWN_ROS_DISTROS`. -/
def knownRosDistros : List Str :=
  ["jazzy", "humble", "iron", "rolling", "galactic", "foxy"].map String.toList

/-- The setup script of a distribution. -/
def distroScript (distro : Str) : Str := "/opt/ros/".toList ++ distro ++ "/setup.bash".toList

/-- The script that `AMENT_PREFIX_PATH` points to: that of its first part that is not blank. -/
def amentScript (value : Str) : Option Str :=
  ((value.splitOn ':').find? fun part => trimSpace part ≠ []).map fun part =>
    part.rdropWhile (· = '/') ++ "/setup.bash".toList

/-- `ros_setup_script_path`. -/
def rosSetupScriptPath (sys : System) : Option Str :=
  let fromVars := [sys.var "ROBOAT_ROS_SETUP", sys.var "ROS_SETUP",
    (sys.var "AMENT_PREFIX_PATH").bind amentScript].filterMap (Option.map trimSpace)
  let fromDistro := (sys.var "ROS_DISTRO").toList.map fun distro => distroScript (trimSpace distro)
  (fromVars ++ fromDistro ++ knownRosDistros.map distroScript).find? sys.isFile

/-- `value.replace('\'', "'\"'\"'")`. -/
def replaceQuotes (value : Str) : Str :=
  value.flatMap fun c => if c = '\x27' then ['\x27', '"', '\x27', '"', '\x27'] else [c]

/-- `shell_quote`. -/
def shellQuote (value : Str) : Str := '\x27' :: (replaceQuotes value ++ ['\x27'])

/-- `wrap_ros_shell`. -/
def wrapRosShell (sys : System) (command : Str) : Str :=
  let command := trimSpace command
  if command = [] then []
  else
    match rosSetupScriptPath sys with
    | some setup => ". ".toList ++ shellQuote setup ++ " >/dev/null 2>&1 && ".toList ++ command
    | none => command

/-- The loop of `ros2_shell_command`. -/
def ros2Command (args : List Str) : Str :=
  args.foldl (fun command arg => command ++ [' '] ++ shellQuote arg) "exec ros2".toList

/-- `ros2_shell_command`. -/
def ros2ShellCommand (sys : System) (args : List Str) : Str := wrapRosShell sys (ros2Command args)

example : ros2ShellCommand ⟨fun _ => none, fun _ => false⟩ ["echo".toList, "/te'st".toList]
    = "exec ros2 'echo' '/te'\"'\"'st'".toList := by decide +kernel

/-! ## Reading a quoted text -/

/-- **The text between the quotes is taken literally**: at each quote in it the lexer goes through
the double quotes and comes back. -/
theorem read_replaceQuotes (value : Str) (chars : List WordChar) (tokens : List Token) :
    Lexer.read ⟨.single, some chars, tokens⟩ (replaceQuotes value)
      = ⟨.single, some (chars ++ wordOf true value), tokens⟩ := by
  induction value generalizing chars with
  | nil => rw [wordOf, List.map_nil, List.append_nil]; rfl
  | cons c value ih =>
    have hword : wordOf true (c :: value) = [⟨c, true⟩] ++ wordOf true value := rfl
    have hsplit : replaceQuotes (c :: value)
        = (if c = '\x27' then ['\x27', '"', '\x27', '"', '\x27'] else [c])
          ++ replaceQuotes value := rfl
    have hhead : Lexer.read ⟨.single, some chars, tokens⟩
        (if c = '\x27' then ['\x27', '"', '\x27', '"', '\x27'] else [c])
        = ⟨.single, some (chars ++ [⟨c, true⟩]), tokens⟩ := by
      by_cases hc : c = '\x27'
      · rw [if_pos hc, hc]
        rfl
      · rw [if_neg hc, Lexer.read_cons, Lexer.step_single hc]
        rfl
    rw [hsplit, Lexer.read_append, hhead, ih, hword, List.append_assoc]

/-- A quoted text where no word has begun is a word. -/
theorem read_shellQuote (value : Str) (tokens : List Token) :
    Lexer.read ⟨.plain, none, tokens⟩ (shellQuote value)
      = ⟨.plain, some (wordOf true value), tokens⟩ := by
  have hopen : Lexer.step ⟨.plain, none, tokens⟩ '\x27' = ⟨.single, some [], tokens⟩ := rfl
  rw [shellQuote, Lexer.read_cons, hopen, Lexer.read_append, read_replaceQuotes]
  rfl

/-- **A quoted text is one word, which is the text.** -/
theorem splitsInto_shellQuote (value : Str) : SplitsInto (shellQuote value) [value] := by
  refine ⟨[.word (wordOf true value)], ?_, .cons (literal_quoted value) .nil⟩
  rw [lex, read_shellQuote]
  rfl

/-! ## Reading the command -/

/-- The tokens of the command. -/
def commandTokens (args : List Str) : List Token :=
  [.word (wordOf false "exec".toList), .word (wordOf false "ros2".toList)]
    ++ args.map fun arg => .word (wordOf true arg)

/-- Each token of the command is read as the argument it quotes. -/
theorem literal_commandTokens (args : List Str) :
    List.Forall₂ Token.Literal (commandTokens args) ("exec".toList :: "ros2".toList :: args) := by
  refine .cons (literal_plain (by decide +kernel))
    (.cons (literal_plain (by decide +kernel)) ?_)
  induction args with
  | nil => exact .nil
  | cons arg args ih => exact .cons (literal_quoted arg) ih

/-- The text of the arguments. -/
def argsText (args : List Str) : Str := args.flatMap fun arg => ' ' :: shellQuote arg

theorem ros2Command_eq (args : List Str) :
    ros2Command args = "exec ros2".toList ++ argsText args := by
  have hfold : ∀ (args : List Str) (command : Str),
      args.foldl (fun command arg => command ++ [' '] ++ shellQuote arg) command
        = command ++ argsText args := by
    intro args
    induction args with
    | nil => intro command; exact (List.append_nil _).symm
    | cons arg args ih =>
      intro command
      rw [List.foldl_cons, ih, List.append_assoc, List.append_assoc]
      rfl
  exact hfold args _

/-- With each argument the word before it ends, and the argument is the next one. -/
theorem finish_read_argsText (args : List Str) (chars : List WordChar) (tokens : List Token) :
    (Lexer.read ⟨.plain, some chars, tokens⟩ (argsText args)).finish
      = some (tokens ++ [Token.word chars] ++ args.map fun arg => .word (wordOf true arg)) := by
  induction args generalizing chars tokens with
  | nil => rw [List.map_nil, List.append_nil]; rfl
  | cons arg args ih =>
    have hsplit : argsText (arg :: args) = ' ' :: (shellQuote arg ++ argsText args) := rfl
    rw [hsplit, Lexer.read_cons, Lexer.step_blank, Lexer.read_append, read_shellQuote, ih,
      List.map_cons, List.append_assoc]
    rfl

/-- The command after some tokens. -/
theorem finish_read_ros2Command (args : List Str) (tokens : List Token) :
    (Lexer.read ⟨.plain, none, tokens⟩ (ros2Command args)).finish
      = some (tokens ++ commandTokens args) := by
  have hhead : Lexer.read ⟨.plain, none, tokens⟩ "exec ros2".toList
      = ⟨.plain, some (wordOf false "ros2".toList),
          tokens ++ [Token.word (wordOf false "exec".toList)]⟩ := rfl
  rw [ros2Command_eq, Lexer.read_append, hhead, finish_read_argsText, commandTokens,
    List.append_assoc, List.append_assoc]
  rfl

/-- The shell splits the command into the arguments it was built from. -/
theorem splitsInto_ros2Command (args : List Str) :
    SplitsInto (ros2Command args) ("exec".toList :: "ros2".toList :: args) :=
  ⟨commandTokens args, finish_read_ros2Command args [], literal_commandTokens args⟩

/-! ## The wrapped command -/

/-- `trim` finds nothing to remove. -/
theorem trimSpace_ros2Command (args : List Str) :
    trimSpace (ros2Command args) = ros2Command args := by
  rw [ros2Command_eq]
  apply trimSpace_eq_self
  · intro c hc
    cases hc
    decide
  · -- the last character is that of `ros2`, or the quote after the last argument
    intro c hc
    rcases List.eq_nil_or_concat' args with rfl | ⟨init, arg, rfl⟩
    · cases hc
      decide
    · have hend : "exec ros2".toList ++ argsText (init ++ [arg])
          = ("exec ros2".toList ++ argsText init ++ ' ' :: '\x27' :: replaceQuotes arg)
            ++ ['\x27'] := by
        simp only [argsText, shellQuote, List.flatMap_append, List.flatMap_cons, List.flatMap_nil,
          List.append_nil, List.append_assoc, List.cons_append]
      rw [hend, List.getLast?_concat] at hc
      cases hc
      decide

/-- The tokens in front of the command when a setup script is sourced. -/
def setupTokens (setup : Str) : List Token :=
  [.word (wordOf false ".".toList), .word (wordOf true setup), .operator ">".toList,
    .word (wordOf false "/dev/null".toList), .ioNumber "2".toList, .operator ">&".toList,
    .word (wordOf false "1".toList), .operator "&&".toList]

/-- The shell reads the part in front of the command as its tokens. -/
theorem read_setup (setup : Str) (rest : Str) :
    Lexer.read {} (". ".toList ++ shellQuote setup ++ " >/dev/null 2>&1 && ".toList ++ rest)
      = Lexer.read ⟨.plain, none, setupTokens setup⟩ rest := by
  have hdot : Lexer.read {} ". ".toList = ⟨.plain, none, [.word (wordOf false ".".toList)]⟩ := by
    decide +kernel
  -- the redirections are read after the path, which makes no difference to them
  have hredirect : Lexer.read {} ">/dev/null 2>&1 && ".toList
      = ⟨.plain, none, [.operator ">".toList, .word (wordOf false "/dev/null".toList),
          .ioNumber "2".toList, .operator ">&".toList, .word (wordOf false "1".toList),
          .operator "&&".toList]⟩ := by
    decide +kernel
  have hpath := Lexer.read_after
    [.word (wordOf false ".".toList), .word (wordOf true setup)] {} ">/dev/null 2>&1 && ".toList
  rw [hredirect] at hpath
  have hsplit : " >/dev/null 2>&1 && ".toList = ' ' :: ">/dev/null 2>&1 && ".toList := rfl
  rw [Lexer.read_append, Lexer.read_append, Lexer.read_append, hdot, read_shellQuote, hsplit,
    Lexer.read_cons, Lexer.step_blank]
  exact congrArg (Lexer.read · rest) hpath

/-- **Quoting is safe.** Whatever the arguments are, the shell splits the command into `exec`,
`ros2` and the arguments as they are. Where a setup script is sourced first, its path is one word,
and the operators in front of the command are those of the format. -/
theorem ros2ShellCommand_splits (sys : System) (args : List Str) :
    match rosSetupScriptPath sys with
    | none => SplitsInto (ros2ShellCommand sys args) ("exec".toList :: "ros2".toList :: args)
    | some setup =>
      SplitsInto (shellQuote setup) [setup] ∧
      ∃ command tokens,
        ros2ShellCommand sys args
          = ". ".toList ++ shellQuote setup ++ " >/dev/null 2>&1 && ".toList ++ command ∧
        SplitsInto command ("exec".toList :: "ros2".toList :: args) ∧
        lex (ros2ShellCommand sys args) = some (setupTokens setup ++ tokens) ∧
        List.Forall₂ Token.Literal tokens ("exec".toList :: "ros2".toList :: args) := by
  have hne : ros2Command args ≠ [] := by
    rw [ros2Command_eq]
    exact List.cons_ne_nil _ _
  have hwrap : ros2ShellCommand sys args
      = match rosSetupScriptPath sys with
        | some setup =>
          ". ".toList ++ shellQuote setup ++ " >/dev/null 2>&1 && ".toList ++ ros2Command args
        | none => ros2Command args := by
    rw [ros2ShellCommand, wrapRosShell, trimSpace_ros2Command, if_neg hne]
  rw [hwrap]
  cases rosSetupScriptPath sys with
  | none => exact splitsInto_ros2Command args
  | some setup =>
    refine ⟨splitsInto_shellQuote setup, ros2Command args, commandTokens args, rfl,
      splitsInto_ros2Command args, ?_, literal_commandTokens args⟩
    rw [lex, read_setup, finish_read_ros2Command]

end Roboat.Core
