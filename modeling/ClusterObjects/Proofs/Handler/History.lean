import ClusterObjects.Proofs.Handler.Fleet
import Mathlib.Data.List.Forall2

/-!
# Histories of handlers

What a handler was told, by itself or through the handlers that it was copied from before it was
copied, is its history. One is kept beside every handler of a fleet, and the parameters of the
handler's deletions can be read off it. Orders to the other handlers never reach it.
-/

namespace ClusterObjects

/-! ## Orders to one of many -/

namespace Fleet

variable {α β : Type} {copied : α → HandlerCopy → α} {changed : α → OptionChange → α}
  {copied' : β → HandlerCopy → β} {changed' : β → OptionChange → β}

/-- Gives an order to one of many. A copy joins them at the end, and a change is made in place. -/
def tell (copied : α → HandlerCopy → α) (changed : α → OptionChange → α) (members : List α)
    (index : Nat) (order : FleetOrder) : List α :=
  match members[index]? with
  | none => members
  | some member =>
    match order with
    | .copy copy => members ++ [copied member copy]
    | .change change => members.set index (changed member change)
    | .perform _ => members

/-- Gives orders one after another. -/
def tellAll (copied : α → HandlerCopy → α) (changed : α → OptionChange → α) (members : List α)
    (orders : List (Nat × FleetOrder)) : List α :=
  orders.foldl (fun members (index, order) ↦ tell copied changed members index order) members

theorem forall₂_set {R : α → β → Prop} {xs : List α} {ys : List β}
    (h : List.Forall₂ R xs ys) (index : Nat) {x : α} {y : β} (hxy : R x y) :
    List.Forall₂ R (xs.set index x) (ys.set index y) := by
  induction h generalizing index with
  | nil => exact .nil
  | cons hhead hrest ih =>
    cases index with
    | zero => exact .cons hxy hrest
    | succ index => exact .cons hhead (ih index)

theorem forall₂_tell {R : α → β → Prop}
    (hcopied : ∀ x y, R x y → ∀ copy, R (copied x copy) (copied' y copy))
    (hchanged : ∀ x y, R x y → ∀ change, R (changed x change) (changed' y change))
    {xs : List α} {ys : List β} (h : List.Forall₂ R xs ys) (index : Nat) (order : FleetOrder) :
    List.Forall₂ R (tell copied changed xs index order) (tell copied' changed' ys index order) := by
  obtain ⟨hlength, hall⟩ := List.forall₂_iff_get.mp h
  unfold tell
  rcases hx : xs[index]? with _ | x
  · rw [List.getElem?_eq_none_iff, hlength, ← List.getElem?_eq_none_iff] at hx
    rw [hx]
    exact h
  · obtain ⟨hindex, rfl⟩ := List.getElem?_eq_some_iff.mp hx
    have hbound : index < ys.length := hlength ▸ hindex
    have hxy := hall index hindex hbound
    rw [List.getElem?_eq_getElem hbound]
    cases order with
    | copy copy => exact List.rel_append h (.cons (hcopied _ _ hxy copy) .nil)
    | change change => exact forall₂_set h index (hchanged _ _ hxy change)
    | perform mutation => exact h

/-- What holds between the members of two lists goes on to hold between them, when copies and
changes keep it. -/
theorem forall₂_tellAll {R : α → β → Prop}
    (hcopied : ∀ x y, R x y → ∀ copy, R (copied x copy) (copied' y copy))
    (hchanged : ∀ x y, R x y → ∀ change, R (changed x change) (changed' y change))
    {xs : List α} {ys : List β} (h : List.Forall₂ R xs ys) (orders : List (Nat × FleetOrder)) :
    List.Forall₂ R (tellAll copied changed xs orders) (tellAll copied' changed' ys orders) := by
  induction orders generalizing xs ys with
  | nil => exact h
  | cons order rest ih => exact ih (forall₂_tell hcopied hchanged h order.1 order.2)

/-- An order that does not change a member leaves it as it is. -/
theorem getElem?_tell {members : List α} {index : Nat} {member : α}
    (h : members[index]? = some member) (other : Nat) (order : FleetOrder)
    (hother : ∀ change, (other, order) ≠ (index, .change change)) :
    (tell copied changed members other order)[index]? = some member := by
  unfold tell
  rcases members[other]? with _ | told
  · exact h
  · cases order with
    | copy copy =>
      exact (List.getElem?_append_left (List.getElem?_eq_some_iff.mp h).1).trans h
    | change change =>
      have hne : other ≠ index := fun heq ↦ hother change (by rw [heq])
      exact (List.getElem?_set_ne hne).trans h
    | perform mutation => exact h

theorem getElem?_tellAll {members : List α} {index : Nat} {member : α}
    (h : members[index]? = some member) {orders : List (Nat × FleetOrder)}
    (horders : ∀ change, (index, .change change) ∉ orders) :
    (tellAll copied changed members orders)[index]? = some member := by
  induction orders generalizing members with
  | nil => exact h
  | cons order rest ih =>
    refine ih (getElem?_tell h order.1 order.2 fun change heq ↦ ?_) fun change hmem ↦ ?_
    · exact horders change (heq ▸ List.mem_cons_self)
    · exact horders change (List.mem_cons_of_mem _ hmem)

/-- Whatever is written to the server, the handlers of a fleet are only copied and changed. -/
theorem handlers_run (fleet : Fleet) (orders : List (Nat × FleetOrder)) :
    (fleet.run orders).handlers =
      tellAll AnyHandler.copy AnyHandler.change fleet.handlers orders := by
  induction orders generalizing fleet with
  | nil => rfl
  | cons order rest ih =>
    have hstep : (fleet.step order.1 order.2).handlers =
        tell AnyHandler.copy AnyHandler.change fleet.handlers order.1 order.2 := by
      unfold step tell
      rcases fleet.handlers[order.1]? with _ | handler
      · rfl
      · cases order.2 <;> rfl
    exact (ih _).trans (congrArg (tellAll _ _ · rest) hstep)

end Fleet

/-! ## Histories -/

/-- What a handler was told. -/
inductive Told where
  | change (change : OptionChange)
  | dryRun

namespace Told

def force? : Told → Option Bool
  | change (.forceDelete force) => some force
  | _ => none

/-- A dry run brings a policy of its own along. -/
def policy? : Told → Option Propagation
  | change (.propagation word) => some (.ofWord word)
  | dryRun => some .background
  | _ => none

end Told

/-- What a handler was told, the latest first. -/
abbrev History := List Told

namespace History

/-- Whether the last word on force was that there is to be force. -/
def forced (history : History) : Bool := (history.findSome? Told.force?).getD false

/-- A deletion with force has a grace period of zero, and any other has none of its own. -/
def grace? (history : History) : Option Nat := if history.forced then some 0 else none

/-- The last word on propagation. -/
def policy? (history : History) : Option Propagation := history.findSome? Told.policy?

/-- The policy for a kind. -/
def policyFor? (history : History) (kind : String) : Option Propagation :=
  if kind = "Job" ∨ kind = "CronJob" then some .background else history.policy?

/-- The history that a copy starts with. -/
def copied (history : History) : HandlerCopy → History
  | .clone | .inNamespace _ | .ofKind _ => history
  | .dryRun => .dryRun :: history

/-- The histories of a fleet after it was given orders. -/
def run : List History → List (Nat × FleetOrder) → List History :=
  Fleet.tellAll copied fun history change ↦ .change change :: history

/-- What a configuration tells the handler that is connected with it. -/
def ofConfig (config : Config) : History :=
  (config.fieldManager.map fun manager ↦ Told.change (.fieldManager manager)).toList
    ++ if config.dryRun then [.dryRun] else []

end History

/-- The history that a handler starts with. -/
inductive AnyHandler.Begins : AnyHandler → History → Prop where
  | typed (kind : Kind) (name : String) : Begins (.typed (.new kind name)) []
  | dynamic (name : String) : Begins (.dynamic (.new name)) []
  | connected {kind : Kind} {config : Config} {files : FileTree} {environment : Environment}
      {handler : Handler} (hconnect : Handler.connect kind config files environment = .ok handler) :
      Begins (.typed handler) (History.ofConfig config)

/-! ## Options that follow a history -/

/-- The parameters of deletions are those of a history. -/
structure Options.Follows (options : Options) (history : History) : Prop where
  grace : options.delete.gracePeriodSeconds = history.grace?
  policy : options.delete.propagation = history.policy?

namespace Options.Follows

variable {options : Options} {history : History}

theorem dryRun (h : options.Follows history) : options.dryRun.Follows (.dryRun :: history) :=
  ⟨h.grace, rfl⟩

theorem change (h : options.Follows history) (change : OptionChange) :
    (options.change change).Follows (.change change :: history) := by
  cases change with
  | timeout | limit | fieldManager => exact ⟨h.grace, h.policy⟩
  | forceDelete force => exact ⟨by cases force <;> rfl, h.policy⟩
  | propagation word => exact ⟨h.grace, rfl⟩

end Options.Follows

namespace AnyHandler

variable {handler : AnyHandler} {history : History}

def Follows (handler : AnyHandler) (history : History) : Prop := handler.options.Follows history

theorem follows_of_begins (h : handler.Begins history) : handler.Follows history := by
  cases h with
  | typed | dynamic => exact ⟨rfl, rfl⟩
  | @connected kind config _ _ _ hconnect =>
    rw [Handler.eq_ofConfig_of_connect hconnect]
    have hfresh : (Handler.new kind config.namespaceName).options.Follows [] := ⟨rfl, rfl⟩
    unfold Follows options Handler.ofConfig History.ofConfig
    cases config.dryRun <;> rcases config.fieldManager with _ | manager
    · exact hfresh
    · exact hfresh.change (.fieldManager manager)
    · exact hfresh.dryRun
    · exact hfresh.dryRun.change (.fieldManager manager)

theorem Follows.copy (h : handler.Follows history) (copy : HandlerCopy) :
    (handler.copy copy).Follows (history.copied copy) := by
  cases handler <;> cases copy
  all_goals first
    | exact h
    | exact Options.Follows.dryRun h

theorem Follows.change (h : handler.Follows history) (change : OptionChange) :
    (handler.change change).Follows (.change change :: history) := by
  cases handler with
  | typed handler => exact Options.Follows.change h change
  | dynamic handler => exact Options.Follows.change h change

end AnyHandler

end ClusterObjects
