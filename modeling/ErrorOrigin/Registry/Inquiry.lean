import ErrorOrigin.Registry.Basic

/-!
# Inquiries

An inquiry asks a registry one query after the other, each perhaps depending on the answers before
it, failures among them, and comes to a result.

Running an inquiry yields the queries made beside the result; there is no result if the registry
broke down over the last of them.
-/

namespace ErrorOrigin

inductive Inquiry (α : Type) : Type where
  | done (result : α)
  | ask (q : Query) (next : q.Answer → Inquiry α)

namespace Inquiry

variable {α β : Type}

def bind (i : Inquiry α) (f : α → Inquiry β) : Inquiry β :=
  match i with
  | done a => f a
  | ask q next => ask q fun answer => (next answer).bind f

instance : Monad Inquiry where
  pure := done
  bind := bind

@[simp] theorem pure_bind (a : α) (f : α → Inquiry β) : (pure a >>= f) = f a := rfl

/-- The answer to a query, be it a failure. -/
def query (q : Query) : Inquiry q.Answer :=
  ask q done

end Inquiry

/-- The result of an inquiry after past queries, and the queries made by then. -/
def Registry.run (r : Registry) : Inquiry α → (past : List Query) → Option α × List Query
  | .done a, past => (some a, past)
  | .ask q next, past =>
    match r.answer past q with
    | none => (none, past ++ [q])
    | some answer => r.run (next answer) (past ++ [q])

end ErrorOrigin
