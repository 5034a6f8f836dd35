/-!
# The console

A console keeps what was printed on it, in order. Each piece goes to one of two streams: results to
the standard output, and what went wrong to the standard error. A message is one line behind a mark
that tells its tone.
-/

namespace CredentialVault

/-- The streams of a console. -/
inductive Console.Stream where
  /-- The standard output. -/
  | output
  /-- The standard error. -/
  | errors
deriving DecidableEq, Repr

/-- The tone of a message. -/
inductive Console.Tone where
  /-- Something was done. -/
  | success
  /-- Something failed. -/
  | error
  /-- Something needs care. -/
  | warning
  /-- Something is worth knowing. -/
  | info
  /-- Something can be done next. -/
  | tip
deriving DecidableEq, Repr

namespace Console.Tone

/-- The mark before the message. -/
def mark : Tone → String
  | success => "✓"
  | error => "✗"
  | warning => "⚠"
  | info => "ℹ"
  | tip => "→"

/-- The stream of the message. -/
def stream : Tone → Stream
  | error | warning => .errors
  | success | info | tip => .output

end Console.Tone

/-- What was printed. -/
structure Console where
  /-- The pieces of text with their streams, the first one first. -/
  printed : List (Console.Stream × String)
deriving DecidableEq, Repr

namespace Console

/-- A console on which nothing was printed. -/
def empty : Console := ⟨[]⟩

/-- The console with one more piece of text. -/
def print (console : Console) (stream : Stream) (text : String) : Console :=
  ⟨console.printed ++ [(stream, text)]⟩

/-- The line of a message. -/
def line (tone : Tone) (message : String) : String :=
  tone.mark ++ " " ++ message ++ "\n"

/-- The console with one more message. -/
def say (console : Console) (tone : Tone) (message : String) : Console :=
  console.print tone.stream (line tone message)

/-- All the text of a stream. -/
def text (console : Console) (stream : Stream) : String :=
  String.join ((console.printed.filter (·.1 = stream)).map (·.2))

end Console

end CredentialVault
