import ContainerDesk.Text.Basic

/-!
# Shell words

A text becomes one word of a shell command line by `Text.shellQuoted`: texts made
of harmless code points stand as they are, all others go between single quotes,
and each single quote inside leaves the quotes, stands between double quotes and
enters the quotes again.

`shellWords?` is the other side: it splits a command line by the POSIX rules for
words and quotes.  It has an answer only for a single simple command in which the
shell would expand nothing.
-/

namespace ContainerDesk

namespace CodePoint

/-- May the code point stand outside quotes without any effect of its own? -/
def isShellSafe (c : CodePoint) : Bool :=
  c.isDigit || (65 ≤ c.val && c.val ≤ 90) || (97 ≤ c.val && c.val ≤ 122) ||
    (Text.of "_@%+=:,./-").contains c

def isShellBlank (c : CodePoint) : Bool :=
  c.val = 32 || c.val = 9

/-- Does the code point start an expansion, a comment, a redirection or another command
when it stands outside quotes? -/
def isShellActive (c : CodePoint) : Bool :=
  c.val = 10 || c.val = 96 || (Text.of "$;&|<>()*?[]\x7b\x7d#!~^").contains c

def expandsInDoubleQuotes (c : CodePoint) : Bool :=
  c.val = 36 || c.val = 96

def isEscapableInDoubleQuotes (c : CodePoint) : Bool :=
  c.val = 36 || c.val = 96 || c.val = 34 || c.val = 92

end CodePoint

namespace Text

def shellQuoteCodePoint (c : CodePoint) : Text :=
  if c.val = 39 then Text.of "'\"'\"'" else [c]

def shellQuoted (t : Text) : Text :=
  if t.isEmpty then
    Text.of "''"
  else if t.all CodePoint.isShellSafe then
    t
  else
    Text.of "'" ++ t.flatMap shellQuoteCodePoint ++ Text.of "'"

end Text

inductive ShellMode where
  | plain
  | single
  | double
deriving DecidableEq

/-- The words of the rest of a command line.  `word` is the word under way, the last code
point first; it is `none` between words. -/
def shellWordsFrom : ShellMode → (word : Option Text) → Text → Option (List Text)
  | .plain, none, [] => some []
  | .plain, some word, [] => some [word.reverse]
  | .plain, word, c :: rest =>
      if c.isShellBlank then
        match word with
        | none => shellWordsFrom .plain none rest
        | some w => (shellWordsFrom .plain none rest).map (w.reverse :: ·)
      else if c.val = 39 then
        shellWordsFrom .single (some (word.getD [])) rest
      else if c.val = 34 then
        shellWordsFrom .double (some (word.getD [])) rest
      else if c.val = 92 then
        match rest with
        | [] => none
        | d :: rest =>
            if d.val = 10 then
              shellWordsFrom .plain word rest
            else
              shellWordsFrom .plain (some (d :: word.getD [])) rest
      else if c.isShellActive then
        none
      else
        shellWordsFrom .plain (some (c :: word.getD [])) rest
  | .single, _, [] => none
  | .single, word, c :: rest =>
      if c.val = 39 then
        shellWordsFrom .plain word rest
      else
        shellWordsFrom .single (some (c :: word.getD [])) rest
  | .double, _, [] => none
  | .double, word, c :: rest =>
      if c.val = 34 then
        shellWordsFrom .plain word rest
      else if c.val = 92 then
        match rest with
        | [] => none
        | d :: rest =>
            if d.val = 10 then
              shellWordsFrom .double word rest
            else if d.isEscapableInDoubleQuotes then
              shellWordsFrom .double (some (d :: word.getD [])) rest
            else
              shellWordsFrom .double (some (d :: c :: word.getD [])) rest
      else if c.expandsInDoubleQuotes then
        none
      else
        shellWordsFrom .double (some (c :: word.getD [])) rest

/-- The words of a command line, if it is one simple command without expansions. -/
def shellWords? (line : Text) : Option (List Text) :=
  shellWordsFrom .plain none line

end ContainerDesk
