import ClusterObjects.Text.LowerCase

/-!
# Request options

The parameters that a handler puts on its requests, one set for each verb, and the changes that
handlers make to them.
-/

namespace ClusterObjects

inductive Propagation where
  | foreground
  | background
  | orphan
  deriving DecidableEq, Repr

namespace Propagation

def name : Propagation → String
  | foreground => "Foreground"
  | background => "Background"
  | orphan => "Orphan"

/-- The policy that a word stands for; an unknown word stands for the background policy. -/
def ofWord (word : String) : Propagation :=
  match Text.lowerCase word with
  | "foreground" => foreground
  | "orphan" => orphan
  | _ => background

end Propagation

structure ListParams where
  labelSelector : Option String := none
  fieldSelector : Option String := none
  timeout : Option Nat := none
  limit : Option Nat := none
  deriving DecidableEq, Repr

structure PostParams where
  dryRun : Bool := false
  fieldManager : Option String := none
  deriving DecidableEq, Repr

structure DeleteParams where
  dryRun : Bool := false
  gracePeriodSeconds : Option Nat := none
  propagation : Option Propagation := none
  deriving DecidableEq, Repr

structure PatchParams where
  dryRun : Bool := false
  force : Bool := false
  fieldManager : Option String := none
  deriving DecidableEq, Repr

structure WatchParams where
  labelSelector : Option String := none
  fieldSelector : Option String := none
  timeout : Option Nat := none
  bookmarks : Bool := true
  deriving DecidableEq, Repr

structure Options where
  list : ListParams := {}
  post : PostParams := {}
  delete : DeleteParams := {}
  patch : PatchParams := {}
  deriving DecidableEq, Repr

/-- A change of options. -/
inductive OptionChange where
  | timeout (seconds : Nat)
  | limit (count : Nat)
  | forceDelete (force : Bool)
  | propagation (word : String)
  | fieldManager (manager : String)
  deriving DecidableEq, Repr

/-- A text, unless it is empty. -/
def nonEmpty? (s : String) : Option String := if s.isEmpty then none else some s

namespace Options

/-- Marks every mutating verb as a dry run. -/
def dryRun (options : Options) : Options :=
  { options with
    post := { options.post with dryRun := true }
    delete := { options.delete with dryRun := true, propagation := some .background }
    patch := { options.patch with dryRun := true } }

/-- A forced deletion has a grace period of zero; without force the server decides. -/
def change (options : Options) : OptionChange → Options
  | .timeout seconds => { options with list := { options.list with timeout := some seconds } }
  | .limit count => { options with list := { options.list with limit := some count } }
  | .forceDelete force =>
    { options with
      delete := { options.delete with gracePeriodSeconds := if force then some 0 else none } }
  | .propagation word =>
    { options with delete := { options.delete with propagation := some (.ofWord word) } }
  | .fieldManager manager =>
    { options with
      post := { options.post with fieldManager := some manager }
      patch := { options.patch with fieldManager := some manager } }

/-- List parameters with a label selector; an empty one selects everything. -/
def listByLabel (options : Options) (selector : String) : ListParams :=
  { options.list with labelSelector := nonEmpty? selector }

def listByField (options : Options) (selector : String) : ListParams :=
  { options.list with fieldSelector := nonEmpty? selector }

/-- A watch takes the list's timeout when it is positive and below the server's own limit. -/
def watchParams (options : Options) : WatchParams :=
  { timeout := options.list.timeout.filter fun seconds ↦ decide (0 < seconds ∧ seconds < 295) }

end Options

end ClusterObjects
