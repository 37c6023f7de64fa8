import TypedTable.Instance
import TypedTable.Statement
/-!
# Clients

A `Client` runs statements and gives the rows that come back, or an error. What it runs them against
is a state that it may change.

`Script.client` is a client whose answers are laid down in advance. It keeps the statements that it
was given.
-/

namespace TypedTable

/-- Something that runs statements against a state. -/
structure Client (σ : Type) where
  query : Statement → σ → Except Error (List Record) × σ

/-- An answer that is laid down in advance. -/
inductive Response
  | rows (records : List Record)
  | failure (reason : String)
deriving DecidableEq

/-- The answers that are left, and the statements that have been sent. -/
structure Script where
  responses : List Response
  sent : List Statement := []
deriving DecidableEq

namespace Script

/-- The script after its next answer. -/
def advance (s : Script) (statement : Statement) : Script :=
  ⟨s.responses.tail, s.sent ++ [statement]⟩

/-- The rows of the next answer; none if there is no answer left. -/
def next (s : Script) : Except Error (List Record) :=
  match s.responses with
  | [] => .ok []
  | .rows records :: _ => .ok records
  | .failure reason :: _ => .error (.connection reason)

/-- The client that answers as the script says. A statement with a placeholder without a value is
not sent and uses up no answer. -/
def client : Client Script where
  query statement s :=
    match statement.positional with
    | .error e => (.error e, s)
    | .ok _ => (s.next, s.advance statement)

end Script

end TypedTable
