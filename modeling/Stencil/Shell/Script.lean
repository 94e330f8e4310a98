import Stencil.Shell.ByteText

/-! # Shell scripts

A converter may be a script of shell commands. A script is a list of commands; the words of
a command are made of parts that are expanded when the command runs.
-/

namespace Stencil.Shell

/-- What a redirection does with the file or the stream it names. -/
inductive RedirectionMode where
  | input
  | output
  | append
  | both
  /-- Goes where another stream goes. -/
  | duplicate
  | here
  deriving Repr, DecidableEq

/-- What is made of the value of a parameter. The mark of a colon makes an empty value
    count as none. -/
inductive ParameterUse where
  | plain
  | length
  /-- The value, or else the word. -/
  | default (colon : Bool)
  /-- The value, or else the word, which is assigned. -/
  | assign (colon : Bool)
  /-- The value, or else an end with the word as its complaint. -/
  | demand (colon : Bool)
  /-- The word in the place of the value, if there is one. -/
  | alternative (colon : Bool)
  /-- The value without a start that the word matches. -/
  | dropStart (longest : Bool)
  /-- The value without an end that the word matches. -/
  | dropEnd (longest : Bool)
  /-- Something that is not known. -/
  | faulty
  deriving Repr, DecidableEq

mutual

/-- A part of a word. Parts outside of quotes are split at blanks once they are expanded,
    and their special characters match names of files. -/
inductive WordPart where
  | text (text : ByteText)
  /-- A text in single quotes, or a character behind a reverse solidus. -/
  | literal (text : ByteText)
  /-- Parts in double quotes. -/
  | quoted (parts : List WordPart)
  /-- The value of a variable or a parameter. -/
  | parameter (name : ByteText) (use : ParameterUse) (word : List WordPart)
  /-- What commands print. -/
  | output (commands : List Command)
  /-- The value of an expression. -/
  | number (expression : List WordPart)

/-- Where one stream of a command goes. -/
inductive Redirection where
  | to (stream : Nat) (mode : RedirectionMode) (target : List WordPart)

/-- A command. Commands that complain know the number of their line. -/
inductive Command where
  /-- Assignments and the words of a program's name and arguments. -/
  | simple (line : Nat) (assignments : List (ByteText × List WordPart))
      (words : List (List WordPart)) (redirections : List Redirection)
  /-- A compound command whose streams go elsewhere. -/
  | redirected (line : Nat) (command : Command) (redirections : List Redirection)
  /-- Commands each of which reads what the one before prints. -/
  | pipeline (commands : List Command)
  | negated (command : Command)
  /-- The second command runs if the first one succeeds. -/
  | both (first second : Command)
  /-- The second command runs if the first one fails. -/
  | either (first second : Command)
  /-- A command that is not waited for. -/
  | background (command : Command)
  | group (body : List Command)
  /-- Commands in parentheses: what they set is lost. -/
  | apart (body : List Command)
  /-- One run of the body for each word, all arguments if none are listed. -/
  | each (line : Nat) (name : ByteText) (words : Option (List (List WordPart)))
      (body : List Command)
  | choice (test : List Command) (body : List Command) (otherwise : List Command)
  /-- The body runs again as long as the test has the given success. -/
  | again (success : Bool) (test body : List Command)
  /-- The body of the first branch with a pattern that the subject matches. -/
  | cases (line : Nat) (subject : List WordPart)
      (branches : List (List (List WordPart) × List Command))
  | function (name : ByteText) (body : Command)

end

abbrev Word := List WordPart

/-- A text that was read as a script: its commands up to the first line with a fault, and
    the line and the wording of the fault. -/
structure Script where
  commands : List Command
  fault : Option (Nat × ByteText)

end Stencil.Shell
