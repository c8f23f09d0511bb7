import EntityDiagram.Entries

/-! # Environment variables

Variables keep the order in which they were first set. A variable that is set again keeps its place.
-/

namespace EntityDiagram

/-- Environment variables in order. -/
structure Environment where
  entries : List (String × String) := []
  deriving Repr, DecidableEq

namespace Environment

/-- The value of a variable. -/
def get? (environment : Environment) (name : String) : Option String :=
  environment.entries.lookup name

/-- Sets a variable. -/
def set (environment : Environment) (name value : String) : Environment :=
  ⟨Entries.put name value environment.entries⟩

/-- Removes a variable. -/
def unset (environment : Environment) (name : String) : Environment :=
  ⟨environment.entries.filter fun entry => entry.1 != name⟩

/-- Why a variable cannot be set. -/
inductive VariableError where
  | nullCharacter
  /-- The name holds an equals sign. -/
  | illegalName
  | emptyName
  deriving Repr, DecidableEq

/-- Refuses a name or a value that no variable can have. -/
def admissible (name value : String) : Except VariableError Unit :=
  if (name ++ value).toList.contains '\x00' then .error .nullCharacter
  else if name.toList.contains '=' then .error .illegalName
  else if name.isEmpty then .error .emptyName
  else .ok ()

/-- Sets in order the variables that are not set, leaving out names without a value. The first that
cannot be set ends it; those before stay set. -/
def setMissing (environment : Environment) :
    List (String × Option String) → Except VariableError Unit × Environment
  | [] => (.ok (), environment)
  | (_, none) :: rest => environment.setMissing rest
  | (name, some value) :: rest =>
      if (environment.get? name).isSome then environment.setMissing rest
      else
        match admissible name value with
        | .error error => (.error error, environment)
        | .ok () => (environment.set name value).setMissing rest

theorem get?_set_of_ne (environment : Environment) {name other : String} (value : String)
    (h : other ≠ name) : (environment.set name value).get? other = environment.get? other :=
  Entries.lookup_put_of_ne h value environment.entries

theorem get?_unset_of_ne (environment : Environment) {name other : String} (h : other ≠ name) :
    (environment.unset name).get? other = environment.get? other := by
  change (environment.entries.filter fun entry => entry.1 != name).lookup other =
    environment.entries.lookup other
  induction environment.entries with
  | nil => rfl
  | cons entry rest ih =>
      obtain ⟨first, value⟩ := entry
      by_cases hfirst : first = name
      · subst hfirst
        have hother : (other == first) = false := by simpa using h
        simpa [List.lookup_cons, hother] using ih
      · simp [List.lookup_cons, hfirst, ih]

/-- A variable that is set keeps its value when missing ones are set. -/
theorem get?_setMissing_of_isSome (environment : Environment)
    (bindings : List (String × Option String)) {other : String}
    (h : (environment.get? other).isSome) :
    (environment.setMissing bindings).2.get? other = environment.get? other := by
  fun_induction setMissing environment bindings with
  | case1 => rfl
  | case2 environment name rest ih => exact ih h
  | case3 environment name value rest hset ih => exact ih h
  | case4 environment name value rest hset error herror => rfl
  | case5 environment name value rest hset hok ih =>
      have hne : other ≠ name := fun heq => hset (heq ▸ h)
      have hkept := get?_set_of_ne environment value hne
      rw [ih (hkept ▸ h), hkept]

end Environment

end EntityDiagram
