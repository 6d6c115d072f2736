import ClusterObjects.Kubeconfig.Connection
import ClusterObjects.Proofs.Handler.DryRun

/-!
# Fleets of handlers

A fleet is a handler with the copies made of it and of its copies, and the session that they share.
Its history is a list of orders in any order: a handler is copied, its options are changed, or it
writes to the server. A fleet whose first handler was made for dry runs sends for each order nothing
but rehearsals of that order and requests that read. The mark of a rehearsal is lost where a name
ends the path early.
-/

namespace ClusterObjects

/-- A handler of one kind or of any kind. -/
inductive AnyHandler where
  | typed (handler : Handler)
  | dynamic (handler : DynamicHandler)

/-- The ways to copy a handler. A handler of one kind keeps its kind. -/
inductive HandlerCopy where
  | clone
  | inNamespace (name : String)
  | ofKind (gvk : GroupVersionKind)
  | dryRun

/-- The operations that write to the server. -/
inductive Mutation where
  | create (input : Input)
  | update (input : Input)
  | apply (input : Input)
  | delete (target : Input)
  | patch (existing : Object) (input : Input) (type : Option PatchType)
  | applyManifest (data : ByteArray)
  | deleteManifest (data : ByteArray)

/-- What a handler of a fleet may be told. -/
inductive FleetOrder where
  | copy (copy : HandlerCopy)
  | change (change : OptionChange)
  | perform (mutation : Mutation)

namespace AnyHandler

def options : AnyHandler → Options
  | typed handler => handler.options
  | dynamic handler => handler.options

def copy : AnyHandler → HandlerCopy → AnyHandler
  | handler, .clone => handler
  | typed handler, .inNamespace name => typed (handler.withNamespace name)
  | dynamic handler, .inNamespace name => dynamic (handler.withNamespace name)
  | typed handler, .ofKind _ => typed handler
  | dynamic handler, .ofKind gvk => dynamic (handler.withKind gvk)
  | typed handler, .dryRun => typed handler.withDryRun
  | dynamic handler, .dryRun => dynamic handler.withDryRun

def change : AnyHandler → OptionChange → AnyHandler
  | typed handler, change => typed (handler.change change)
  | dynamic handler, change => dynamic (handler.change change)

/-- The exchange of an operation. A handler of one kind has none for manifests. -/
def perform : AnyHandler → Mutation → Exchange Unit
  | typed handler, .create input => do let _ ← handler.create input
  | typed handler, .update input => do let _ ← handler.update input
  | typed handler, .apply input => do let _ ← handler.apply input
  | typed handler, .delete target => handler.delete target
  | typed handler, .patch existing input type => do
    let _ ← handler.patch existing input (type.getD default)
  | typed _, .applyManifest _ => return ()
  | typed _, .deleteManifest _ => return ()
  | dynamic handler, .create input => do let _ ← handler.create input
  | dynamic handler, .update input => do let _ ← handler.update input
  | dynamic handler, .apply input => do let _ ← handler.apply input
  | dynamic handler, .delete target => handler.delete target
  | dynamic handler, .patch existing input type => do let _ ← handler.patch existing input type
  | dynamic handler, .applyManifest data => do let _ ← handler.applyManifest data
  | dynamic handler, .deleteManifest data => handler.deleteManifest data

end AnyHandler

structure Fleet where
  handlers : List AnyHandler
  session : Session

namespace Fleet

/-- Gives an order to a handler. A copy joins the fleet at its end. -/
def step (fleet : Fleet) (index : Nat) (order : FleetOrder) : Fleet :=
  match fleet.handlers[index]? with
  | none => fleet
  | some handler =>
    match order with
    | .copy copy => { fleet with handlers := fleet.handlers ++ [handler.copy copy] }
    | .change change => { fleet with handlers := fleet.handlers.set index (handler.change change) }
    | .perform mutation =>
      { fleet with session := ((handler.perform mutation).run.run fleet.session).2 }

/-- Gives orders one after another. -/
def run (fleet : Fleet) (orders : List (Nat × FleetOrder)) : Fleet :=
  orders.foldl (fun fleet (index, order) ↦ fleet.step index order) fleet

end Fleet

/-! ## Dry runs -/

/-- A handler that is connected is the one that its configuration describes. -/
theorem Handler.eq_ofConfig_of_connect {kind : Kind} {config : Config} {files : FileTree}
    {environment : Environment} {handler : Handler}
    (h : connect kind config files environment = .ok handler) : handler = ofConfig kind config := by
  unfold connect at h
  cases htarget : config.target files environment with
  | error error =>
    rw [htarget] at h
    cases h
  | ok target =>
    rw [htarget] at h
    exact (Except.ok.inj h).symm

theorem Handler.dryRun_ofConfig {kind : Kind} {config : Config} (h : config.dryRun = true) :
    (ofConfig kind config).options.DryRun := by
  unfold ofConfig
  rw [h]
  cases config.fieldManager with
  | none => exact .of_dryRun (new kind config.namespaceName).options
  | some manager =>
    exact (Options.DryRun.of_dryRun (new kind config.namespaceName).options).change
      (.fieldManager manager)

namespace AnyHandler

theorem dryRun_copy {handler : AnyHandler} (h : handler.options.DryRun) (copy : HandlerCopy) :
    (handler.copy copy).options.DryRun := by
  cases copy with
  | clone | inNamespace name | ofKind gvk => cases handler <;> exact h
  | dryRun => cases handler <;> exact .of_dryRun _

theorem dryRun_change {handler : AnyHandler} (h : handler.options.DryRun)
    (change : OptionChange) : (handler.change change).options.DryRun := by
  cases handler with
  | typed handler => exact h.change change
  | dynamic handler => exact h.change change

/-- The path of the collection that an object belongs to, as far as it is known. -/
def collection? : AnyHandler → Session → Object → Option String
  | typed handler, _, object => handler.collection? object
  | dynamic handler, known, object => handler.collection? known object

/-- The object in an input that is no name. -/
def object : AnyHandler → Input → Except Error Object
  | typed handler, input => handler.object input
  | dynamic _, input => DynamicHandler.object input

/-- The objects that a mutation creates, replaces or patches. A handler of one kind has no operation
for manifests. -/
def written (handler : AnyHandler) : Mutation → List Object
  | .create input | .update input | .apply input => (handler.object input).toOption.toList
  | .patch existing _ _ => [existing]
  | .applyManifest data =>
    match handler with
    | typed _ => []
    | dynamic _ => (Manifest.objects data).toOption.getD []
  | .delete _ | .deleteManifest _ => []

/-- The rehearsals of a mutation: its writes are meant for the objects that it writes. -/
def Rehearsal (handler : AnyHandler) (mutation : Mutation) (known : Session) (request : Request) :
    Prop := request.Rehearses (PathAmong (handler.collection? known) (handler.written mutation))

theorem rehearses_perform {handler : AnyHandler} (h : handler.options.DryRun)
    (mutation : Mutation) :
    (handler.perform mutation).Leads (Session.Advances (handler.Rehearsal mutation)) := by
  cases handler with
  | typed handler =>
    cases mutation with
    | create input =>
      refine .bind (.lift_bind fun object hobject ↦ ?_) fun _ ↦ .pure ()
      exact Handler.rehearses_createObject h (mem_toList_of_eq_ok hobject)
    | update input =>
      refine .bind (.lift_bind fun object hobject ↦ ?_) fun _ ↦ .pure ()
      exact Handler.rehearses_updateObject h (mem_toList_of_eq_ok hobject)
    | apply input =>
      refine .bind (.lift_bind fun object hobject ↦ ?_) fun _ ↦ .pure ()
      exact Handler.rehearses_applyObject h (mem_toList_of_eq_ok hobject)
    | delete target => exact Handler.rehearses_delete h target
    | patch existing input type =>
      have hpatch := Handler.rehearses_patch h (List.mem_singleton_self existing) input
      exact .bind (hpatch _) fun _ ↦ .pure ()
    | applyManifest data => exact .pure ()
    | deleteManifest data => exact .pure ()
  | dynamic handler =>
    have honly := DynamicHandler.rehearses h ((dynamic handler).written mutation)
    cases mutation with
    | create input =>
      have hcreate := DynamicHandler.advances_create honly fun _ ↦ mem_toList_of_eq_ok
      exact .bind hcreate fun _ ↦ .pure ()
    | update input =>
      have hupdate := DynamicHandler.advances_update honly fun _ ↦ mem_toList_of_eq_ok
      exact .bind hupdate fun _ ↦ .pure ()
    | apply input =>
      have happly := DynamicHandler.advances_apply honly fun _ ↦ mem_toList_of_eq_ok
      exact .bind happly fun _ ↦ .pure ()
    | delete target => exact DynamicHandler.advances_delete honly target
    | patch existing input type =>
      have hmem := List.mem_singleton_self existing
      exact .bind (DynamicHandler.advances_patch honly hmem input type) fun _ ↦ .pure ()
    | applyManifest data =>
      refine .bind (DynamicHandler.advances_applyManifest honly fun found hfound ↦ ?_) fun _ ↦
        .pure ()
      intro object hmem
      simpa [written, hfound, Except.toOption] using hmem
    | deleteManifest data => exact DynamicHandler.advances_deleteManifest honly data

/-- A handler that was made for dry runs. -/
inductive BornDry : AnyHandler → Prop where
  | typed (handler : Handler) : BornDry (.typed handler.withDryRun)
  | dynamic (handler : DynamicHandler) : BornDry (.dynamic handler.withDryRun)
  | connected {kind : Kind} {config : Config} {files : FileTree} {environment : Environment}
      {handler : Handler} (hconnect : Handler.connect kind config files environment = .ok handler)
      (hdry : config.dryRun = true) : BornDry (.typed handler)

theorem BornDry.dryRun {handler : AnyHandler} (h : handler.BornDry) : handler.options.DryRun := by
  cases h with
  | typed handler => exact .of_dryRun _
  | dynamic handler => exact .of_dryRun _
  | connected hconnect hdry =>
    rw [Handler.eq_ofConfig_of_connect hconnect]
    exact Handler.dryRun_ofConfig hdry

end AnyHandler

namespace Fleet

/-- Every handler of the fleet is for dry runs only. -/
def DryRun (fleet : Fleet) : Prop := ∀ handler ∈ fleet.handlers, handler.options.DryRun

/-- Each order in turn sends nothing but requests that have a property of the mutation and of the
handler that performs it. Copies and changes send nothing. -/
inductive EachSends (P : AnyHandler → Mutation → Request → Prop) :
    Fleet → List (Nat × FleetOrder) → Prop where
  | done (fleet : Fleet) : EachSends P fleet []
  | step {fleet : Fleet} {index : Nat} {order : FleetOrder} {rest : List (Nat × FleetOrder)}
      (hsent : fleet.session.Extends (fun request ↦ ∃ handler mutation,
        fleet.handlers[index]? = some handler ∧ order = .perform mutation ∧
          P handler mutation request) (fleet.step index order).session)
      (hrest : EachSends P (fleet.step index order) rest) :
      EachSends P fleet ((index, order) :: rest)

/-- What an order sends that comes behind others. -/
theorem EachSends.extends_step {P : AnyHandler → Mutation → Request → Prop} {fleet : Fleet}
    (earlier : List (Nat × FleetOrder)) {later : List (Nat × FleetOrder)} {index : Nat}
    {order : FleetOrder} (h : fleet.EachSends P (earlier ++ (index, order) :: later)) :
    (fleet.run earlier).session.Extends (fun request ↦ ∃ handler mutation,
        (fleet.run earlier).handlers[index]? = some handler ∧ order = .perform mutation ∧
          P handler mutation request) ((fleet.run earlier).step index order).session := by
  induction earlier generalizing fleet with
  | nil =>
    cases h with
    | step hsent _ => exact hsent
  | cons first rest ih =>
    cases h with
    | step _ hrest => exact ih hrest

theorem DryRun.step {fleet : Fleet} (h : fleet.DryRun) (index : Nat) (order : FleetOrder) :
    (fleet.step index order).DryRun ∧
      fleet.session.Advances (fun known request ↦ ∃ handler mutation,
        fleet.handlers[index]? = some handler ∧ order = .perform mutation ∧
          handler.Rehearsal mutation known request) (fleet.step index order).session := by
  unfold Fleet.step
  cases hfound : fleet.handlers[index]? with
  | none => exact ⟨h, .refl _⟩
  | some handler =>
    have hdry : handler.options.DryRun := h handler (List.mem_of_getElem? hfound)
    cases order with
    | copy copy =>
      refine ⟨fun other hother ↦ ?_, .refl _⟩
      rcases List.mem_append.1 hother with hother | hother
      · exact h other hother
      · obtain rfl := List.mem_singleton.1 hother
        exact AnyHandler.dryRun_copy hdry copy
    | change change =>
      refine ⟨fun other hother ↦ ?_, .refl _⟩
      rcases List.mem_or_eq_of_mem_set hother with hother | rfl
      · exact h other hother
      · exact AnyHandler.dryRun_change hdry change
    | perform mutation =>
      refine ⟨h, (AnyHandler.rehearses_perform hdry mutation fleet.session).mono ?_⟩
      exact fun known request hrequest ↦ ⟨handler, mutation, rfl, rfl, hrequest⟩

/-- Every order rehearses, in the light of what is known when all orders have been carried out. -/
theorem DryRun.run {fleet : Fleet} (h : fleet.DryRun) (orders : List (Nat × FleetOrder)) :
    fleet.session.Remembers (fleet.run orders).session ∧
      ∀ known, (fleet.run orders).session.Remembers known →
        fleet.EachSends (fun handler mutation ↦ handler.Rehearsal mutation known) orders := by
  induction orders generalizing fleet with
  | nil => exact ⟨.refl _, fun _ _ ↦ .done fleet⟩
  | cons order rest ih =>
    obtain ⟨hdry, hadvances⟩ := h.step order.1 order.2
    obtain ⟨hremembers, hrest⟩ := ih hdry
    refine ⟨hadvances.remembers.trans hremembers, fun known hknown ↦ ?_⟩
    exact .step (hadvances.sent known (hremembers.trans hknown)) (hrest known hknown)

/-- A fleet that comes from a handler for dry runs sends for each order requests that read and
rehearsals of that order, through all copies and changes, whatever it is told to do and whatever the
server answers. -/
theorem run_rehearses {origin : AnyHandler} (h : origin.BornDry) (session : Session)
    (orders : List (Nat × FleetOrder)) :
    let fleet := Fleet.mk [origin] session
    fleet.EachSends
      (fun handler mutation ↦ handler.Rehearsal mutation (fleet.run orders).session) orders := by
  intro fleet
  have hdry : fleet.DryRun := by
    intro handler hhandler
    obtain rfl := List.mem_singleton.1 hhandler
    exact h.dryRun
  exact (hdry.run orders).2 _ (.refl _)

/-- A changed copy creates an object in another namespace: one request, meant for the object's
collection there, and the mark on it. -/
theorem run_rehearses_copy :
    let origin := AnyHandler.typed (Handler.new .configMap "apps").withDryRun
    let object : Object := ⟨none, [("name", .str "settings")], []⟩
    let fleet := (Fleet.mk [origin] { script := [] }).run
      [(0, .copy (.inNamespace "db")), (1, .change (.fieldManager "ops")),
        (1, .perform (.create (.object object)))]
    ∃ request, fleet.session.sent = [request] ∧ request.method = .post ∧
      Request.dryRunMark ∈ request.query ∧
      request.Rehearses fun _ path ↦ path = "/api/v1/namespaces/db/configmaps" := by
  intro origin object fleet
  have heach := run_rehearses (.typed (Handler.new .configMap "apps"))
    { script := [] } [(0, .copy (.inNamespace "db")), (1, .change (.fieldManager "ops")),
      (1, .perform (.create (.object object)))]
  obtain ⟨requests, hsent, hall⟩ := EachSends.extends_step
    [(0, .copy (.inNamespace "db")), (1, .change (.fieldManager "ops"))] heach
  have hknown : fleet.session.sent.map (fun request ↦ (request.method, request.query)) =
      [(.post, [Request.dryRunMark, ("fieldManager", "ops")])] := by decide +kernel
  obtain ⟨request, hrequest, hpair⟩ := List.map_eq_singleton_iff.1 hknown
  have hquery : request.query = [Request.dryRunMark, ("fieldManager", "ops")] :=
    congrArg Prod.snd hpair
  have hmem : request ∈ requests := by
    have hsplit : fleet.session.sent = requests ++ [] := hsent
    rw [List.append_nil] at hsplit
    exact hsplit ▸ hrequest ▸ List.mem_singleton_self request
  obtain ⟨handler, mutation, hhandler, hmutation, hrehearsal⟩ := hall request hmem
  cases hmutation
  cases hhandler
  have hmethod : request.method = .post := congrArg Prod.fst hpair
  refine ⟨request, hrequest, hmethod, hquery ▸ List.mem_cons_self,
    hrehearsal.mono fun path hpath ↦ ?_⟩
  obtain ⟨found, hfound, collection, hcollection, hpath⟩ := hpath
  obtain rfl := List.mem_singleton.1 hfound
  obtain rfl : "/api/v1/namespaces/db/configmaps" = collection :=
    Option.some.inj (Eq.trans (by decide +kernel) hcollection)
  cases hpath with
  | created => rfl
  | replaced hput | patched hput => cases hmethod.symm.trans hput

/-- A name with a hash in it ends the path before the query: the patch is applied for good, and to
another object. -/
theorem exists_write_without_mark :
    ∃ origin : AnyHandler, origin.BornDry ∧ ∃ orders : List (Nat × FleetOrder),
      ∃ request ∈ ((Fleet.mk [origin] { script := [] }).run orders).session.sent,
        request.method = .patch ∧ request.path = "/api/v1/namespaces/apps/configmaps/settings" ∧
          Request.dryRunMark ∉ request.query := by
  let existing : Object := ⟨none, [("name", .str "settings#")], []⟩
  let desired : Object := { existing with content := [("data", .obj [("a", .str "b")])] }
  refine ⟨_, .typed (Handler.new .configMap "apps"),
    [(0, .perform (.patch existing (.object desired) none))], ?_⟩
  decide +kernel

end Fleet

end ClusterObjects
