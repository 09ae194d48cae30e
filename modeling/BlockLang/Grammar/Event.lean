import BlockLang.Token.Basic

/-!
# Events

While a session runs it records what it does. Events that choose a reading are of more interest than
those that only move through the tokens, which is what their levels say.
-/

namespace BlockLang

/-- What a session records. -/
inductive Event where
  /-- A session was opened on this many tokens. -/
  | opened (remaining : Nat)
  /-- A program was begun with this many tokens left. -/
  | begun (remaining : Nat)
  /-- A statement was begun at a token. -/
  | dispatched (position : Nat) (token : Token)
  /-- A token was consumed, whatever it was. -/
  | consumed (position : Nat) (token : Token)
  /-- The cursor went back from one position to another. -/
  | rewound (source target : Nat)
  /-- A parenthesis is read again as the start of a comparison. -/
  | retried (position : Nat)
  deriving DecidableEq, Repr, Inhabited

namespace Event

/-- How much an event matters. -/
inductive Level where
  | info | debug | trace
  deriving DecidableEq, Repr, Inhabited

def Level.text : Level → String
  | .info => "INFO"
  | .debug => "DEBUG"
  | .trace => "TRACE"

def level : Event → Level
  | .opened _ | .begun _ => .info
  | .dispatched _ _ | .retried _ => .debug
  | .consumed _ _ | .rewound _ _ => .trace

def message : Event → String
  | .opened remaining => "Parser created with " ++ toString remaining ++ " tokens"
  | .begun remaining => "Beginning parse of " ++ toString remaining ++ " tokens"
  | .dispatched position token =>
      "statement at token " ++ toString position ++ " starts with '" ++ token ++ "'"
  | .consumed position token => "consumed token " ++ toString position ++ " '" ++ token ++ "'"
  | .rewound source target =>
      "rewinding from token " ++ toString source ++ " to " ++ toString target
  | .retried position =>
      "token " ++ toString position ++ " is not a boolean group, retrying as comparison"

/-- The line that records an event. -/
def text (event : Event) : String := event.level.text ++ " " ++ event.message

end Event

end BlockLang
