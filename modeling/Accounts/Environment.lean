import Accounts.Word

/-!
# Accounts.Environment — variables from outside

An `Environment` sets variables to words.  A variable that is set to a word that is no text is
present (`get?`) but has no text (`text?`).
-/

namespace Accounts

/-- Variables and their values; of two entries for a name, the first counts. -/
abbrev Environment := List (String × Word)

namespace Environment

/-- The value of a variable, if it is set. -/
def get? (env : Environment) (name : String) : Option Word :=
  env.lookup name

/-- The value of a variable that is set to a text. -/
def text? (env : Environment) (name : String) : Option String :=
  (env.get? name).bind Word.text?

/-- The environment with a variable set anew. -/
def set (env : Environment) (name : String) (value : Word) : Environment :=
  (name, value) :: env

/-- The environment with each variable of `top` set as there. -/
def overlay (env top : Environment) : Environment :=
  top ++ env

theorem get?_set (env : Environment) (name : String) (value : Word) :
    (env.set name value).get? name = some value := by
  simp [get?, set]

theorem get?_set_of_ne (env : Environment) {name other : String} (value : Word)
    (h : other ≠ name) : (env.set name value).get? other = env.get? other := by
  have hb : (other == name) = false := beq_false_of_ne h
  simp [get?, set, List.lookup_cons, hb]

end Environment

end Accounts
