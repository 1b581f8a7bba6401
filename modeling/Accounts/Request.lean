import Accounts.User

/-!
# Accounts.Request — what may be asked of a store of users

A `Request` is a single step of a store: nothing else happens between its start and its end.  The
type of its reply depends on the request.
-/

namespace Accounts

/-- A single step of a store. -/
inductive Request where
  /-- Stores a user that was never stored, and answers with its identifier filled in. -/
  | add (user : User)
  | byId (id : Int)
  | byName (username : String)
  /-- Writes all fields of a stored user but its identifier. -/
  | save (user : User)
  | remove (id : Int)
  /-- Makes the table of users if it is missing. -/
  | createTable
  deriving DecidableEq

/-- What a store replies with when it can meet the request. -/
abbrev Request.Reply : Request → Type
  | .add _ | .save _ => User
  | .byId _ | .byName _ => Option User
  | .remove _ | .createTable => Unit

/-- A store whose contents are a `σ`: it meets a request or fails, and its contents change. -/
abbrev Store (σ : Type) :=
  (request : Request) → σ → Except Failure request.Reply × σ

end Accounts
