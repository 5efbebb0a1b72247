/-!
Failures as callers see them: a class that callers can test for and a message.
Every failure but the few classes callers treat specially is general, except a
crash: input an operation cannot take at all.
-/

namespace JuryCaptions

inductive FaultKind where
  | unknownJuror
  | frameTooLarge
  | noCaptions
  | closed
  | noSession
  | truncated
  | endOfStream
  | general
  | crash
  deriving Repr, BEq, DecidableEq, Inhabited

def FaultKind.name : FaultKind → String
  | .unknownJuror => "unknown_juror"
  | .frameTooLarge => "frame_too_large"
  | .noCaptions => "no_captions"
  | .closed => "closed"
  | .noSession => "no_session"
  | .truncated => "unexpected_eof"
  | .endOfStream => "eof"
  | .general => "error"
  | .crash => "panic"

structure Fault where
  kind : FaultKind
  message : String
  deriving Repr, BEq, Inhabited

namespace Fault

def plain (message : String) : Fault := ⟨.general, message⟩

/-- The same failure with context put before its message. A crash stops the
whole operation at once, so no caller gets to add context to it. -/
def context (prefixText : String) (f : Fault) : Fault :=
  match f.kind with
  | .crash => f
  | _ => ⟨f.kind, prefixText ++ ": " ++ f.message⟩

end Fault

end JuryCaptions
