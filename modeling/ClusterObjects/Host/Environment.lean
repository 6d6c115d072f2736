/-!
# The environment of the program

The variables that are set, and the home directory of the account, which counts when the variable
for it is not set.
-/

namespace ClusterObjects

structure Environment where
  values : List (String × String) := []
  accountHome : Option String := none

namespace Environment

def get? (environment : Environment) (name : String) : Option String :=
  environment.values.lookup name

/-- The value of a variable that is set to something. -/
def filled? (environment : Environment) (name : String) : Option String :=
  (environment.get? name).filter fun value ↦ !value.isEmpty

/-- The home directory. A variable that is set to nothing means the working directory. -/
def home? (environment : Environment) : Option String :=
  match environment.get? "HOME" with
  | some home => some home
  | none => environment.accountHome

end Environment

end ClusterObjects
