/-!
The syntax of shell scripts. A word is a sequence of parts: literal text,
quoted or not, parameter references with or without an operation, command
substitutions and arithmetic expansions, each in double quotes or not.
-/

namespace JuryCaptions
namespace Shell

inductive WordPart where
  /-- Literal text; quoted text is never split nor matched as a pattern. -/
  | text (s : String) (quoted : Bool)
  /-- A parameter reference such as `$1`, `$@` or `${name}`. -/
  | param (name : String) (quoted : Bool)
  /-- `${name op word}`: a default, an assignment, a check or an alternative
  (`-`, `=`, `?`, `+`, each also after `:`), or the removal of a prefix or
  suffix (`#`, `##`, `%`, `%%`), with the word as written. -/
  | paramOp (name op word : String) (quoted : Bool)
  /-- `${#name}`: the length of the value. -/
  | length (name : String) (quoted : Bool)
  /-- `$(…)` or a backquoted command: the script as written. -/
  | command (script : String) (quoted : Bool)
  /-- `$((…))`: the expression as written. -/
  | arith (expr : String) (quoted : Bool)
  /-- A braced parameter that names no parameter or no operation: reading it
  is no error, expanding it is. -/
  | badSubstitution
  deriving Repr, Inhabited, BEq

abbrev Word := List WordPart

def plainText? (w : Word) : Option String :=
  match w with
  | [.text s false] => some s
  | _ => none

/-- What a redirection does with its file descriptor. -/
inductive RedirectKind where
  /-- `>`: write the file from its start; with the option `-C` the file must
  not exist yet, unless it is not a regular file. -/
  | write
  /-- `>|`: write the file from its start, whether it exists or not. -/
  | overwrite
  /-- `<>`: read the file, made empty when it does not exist; the standard
  output and error write to it instead. -/
  | readWrite
  /-- `>>`: add to the end of the file. -/
  | append
  /-- `<`: read the file. -/
  | read
  /-- `>&` or `<&`: copy another descriptor, or close with `-`. -/
  | copy
  /-- `<<`: read the text of the word, a here-document. -/
  | here
  deriving Repr, Inhabited, BEq

/-- A redirection of a descriptor to a file or another descriptor. -/
structure Redirect where
  fd : Nat
  kind : RedirectKind
  target : Word
  deriving Repr, Inhabited

inductive Command where
  /-- Assignments, then the command's words, with redirections; the line it starts on. -/
  | simple (assigns : List (String × Word)) (words : List Word) (redirects : List Redirect) (line : Nat)
  /-- Commands joined by pipes; `negate` inverts the status. -/
  | pipe (cmds : List Command) (negate : Bool)
  /-- `a && b`. -/
  | andThen (a b : Command)
  /-- `a || b`. -/
  | orElse (a b : Command)
  /-- Commands one after the other. -/
  | seq (cmds : List Command)
  /-- `{ … }` with redirections. -/
  | group (body : Command) (redirects : List Redirect)
  /-- `( … )`: runs in a copy of the shell. -/
  | subshell (body : Command) (redirects : List Redirect)
  /-- `if … then … else … fi`. -/
  | ifThen (cond thenPart : Command) (elsePart : Option Command) (redirects : List Redirect)
  /-- `while` or `until` loops. -/
  | loop (cond body : Command) (untilLoop : Bool) (redirects : List Redirect)
  /-- `for name in words; do … done`; without words, over the parameters. -/
  | forEach (name : String) (items : Option (List Word)) (body : Command) (redirects : List Redirect)
  /-- `case word in patterns) … ;; esac`. -/
  | caseOf (subject : Word) (arms : List (List Word × Command)) (redirects : List Redirect)
  /-- `name() body`: defines a function. -/
  | function (name : String) (body : Command)
  /-- `… &`: runs in a copy of the shell without being waited for. -/
  | background (body : Command)
  deriving Repr, Inhabited

inductive Token where
  | word (w : Word) (line : Nat)
  /-- An operator such as `;`, `&&`, `|`, `;;`, `(`, `>`, `>>`. -/
  | op (s : String)
  /-- A descriptor number written right before a redirection operator. -/
  | ioNumber (n : Nat)
  | newline
  deriving Repr, Inhabited, BEq

end Shell
end JuryCaptions
