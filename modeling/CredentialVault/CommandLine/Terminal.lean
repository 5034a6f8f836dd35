import CredentialVault.Credential.Platform

/-!
# The terminal

Questions are put to the user at a terminal. Each takes the next of the replies that the user has
ready; when there are none left, there is no terminal, and a question cannot be put.
-/

namespace CredentialVault

/-- A question that is answered with yes or no. -/
structure Question where
  /-- What is asked. -/
  prompt : String
  /-- The answer of a user who does not choose one. -/
  default : Bool
deriving DecidableEq, Repr

/-- What comes of a question that is put. -/
inductive Reply where
  /-- The user says yes. -/
  | yes
  /-- The user says no. -/
  | no
  /-- The user takes the answer that is offered. -/
  | default
  /-- The reply cannot be read. -/
  | failure (reason : String)
deriving DecidableEq, Repr

/-- The answer to a question that offers one, or why there is none. -/
def Reply.answer (offered : Bool) : Reply → Except String Bool
  | yes => .ok true
  | no => .ok false
  | default => .ok offered
  | failure reason => .error reason

/-- A terminal. -/
structure Terminal where
  /-- The replies to the next questions. -/
  replies : List Reply
  /-- The questions that came up, the latest last. -/
  asked : List Question
deriving DecidableEq, Repr

namespace Terminal

/-- No terminal. -/
def absent : Terminal := ⟨[], []⟩

/-- Why a question cannot be put. -/
def missing : String := "IO error: not a terminal"

/-- The answer to the next question. -/
def answer (terminal : Terminal) (question : Question) : Except String Bool :=
  match terminal.replies with
  | [] => .error missing
  | reply :: _ => reply.answer question.default

/-- The terminal after questions. -/
def after (terminal : Terminal) (questions : List Question) : Terminal :=
  ⟨terminal.replies.drop questions.length, terminal.asked ++ questions⟩

end Terminal

/-! ## Ceremonies -/

/-- The question with which a ceremony begins. -/
def Ceremony.question (ceremony : Ceremony) : Question := ⟨ceremony.prompt ++ "?", true⟩

/-- How the user answers when ceremonies begin. A question that cannot be put or answered counts as
declined. -/
def Terminal.presence (terminal : Terminal) : Presence where
  queue := terminal.replies.map fun reply => (reply.answer true).toOption.getD false
  approve := false

namespace Platform

/-- A platform whose user answers in another way. -/
def answeredBy (platform : Platform) (presence : Presence) : Platform :=
  match platform with
  | virtual authenticator => virtual { authenticator with presence }
  | scripted _ => platform

/-- The questions that a platform put after it was as it was before. -/
def questionsSince : Platform → Platform → List Question
  | virtual before, virtual after =>
    (after.asked.drop before.asked.length).map fun (ceremony, _) => ceremony.question
  | _, _ => []

end Platform

end CredentialVault
