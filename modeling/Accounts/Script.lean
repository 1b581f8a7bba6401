import Accounts.Request

/-!
# Accounts.Script — a store whose replies are written in advance

A `Script` answers each request with the next line written for it, whatever the request asks, and
keeps a list of what it was asked.
-/

namespace Accounts

/-- A line of a script. -/
inductive Script.Line where
  /-- Nothing is there: lookups find no user, deletions succeed, and nothing can be written. -/
  | nothing
  /-- This user is the answer; deletions succeed. -/
  | user (user : User)
  /-- Writing succeeds with the user that was sent, under another identifier if one is given;
  lookups find no user and deletions succeed. -/
  | echo (id : Option Int)
  /-- The request fails. -/
  | failure (failure : Failure)

/-- The lines that are left and the requests that were made, the latest last. -/
structure Script where
  lines : List Script.Line
  requests : List Request := []

namespace Script

/-- The reply to a request for writing a user. -/
def Line.written (sent : User) : Line → Except Failure User
  | .nothing => .error .notFound
  | .user u => .ok u
  | .echo id => .ok { sent with id := id <|> sent.id }
  | .failure f => .error f

/-- The reply to a lookup. -/
def Line.lookup : Line → Except Failure (Option User)
  | .nothing | .echo _ => .ok none
  | .user u => .ok (some u)
  | .failure f => .error f

/-- The reply to a deletion. -/
def Line.deletion : Line → Except Failure Unit
  | .nothing | .user _ | .echo _ => .ok ()
  | .failure f => .error f

/-- The failure of a request for which no line is left. -/
def exhausted : Failure :=
  .internal "script exhausted"

/-- The next line, or a failure once no line is left. -/
def next (s : Script) : Line :=
  s.lines.headD (.failure exhausted)

/-- The script once a request was answered. -/
def after (s : Script) (r : Request) : Script :=
  ⟨s.lines.tail, s.requests ++ [r]⟩

/-- A script as a store of users.  Making the table always succeeds and uses up no line. -/
def store : Store Script
  | .add u, s => (s.next.written u, s.after (.add u))
  | .byId id, s => (s.next.lookup, s.after (.byId id))
  | .byName username, s => (s.next.lookup, s.after (.byName username))
  | .save u, s => (s.next.written u, s.after (.save u))
  | .remove id, s => (s.next.deletion, s.after (.remove id))
  | .createTable, s => (.ok (), s)

end Script

end Accounts
