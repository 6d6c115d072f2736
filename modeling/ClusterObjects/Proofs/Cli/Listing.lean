import ClusterObjects.Proofs.Api.Answer
import ClusterObjects.Proofs.Api.Plain
import ClusterObjects.Proofs.Cli.DryRun
import ClusterObjects.Proofs.Cli.Setting
import ClusterObjects.Proofs.Handler.Apply
import Mathlib.Data.List.Sublists

/-!
# Listing objects

`list` asks for the objects of one namespace that a selector selects, or for the objects of all
namespaces. Against a server that answers such a request with the objects that it is about, the
first prints what the selector selects in the namespace, unless the two together are too long for an
address. The second prints all objects, whatever the selector is, since the selector is no part of
its request.
-/

namespace ClusterObjects

/-! ## Requests that list -/

/-- The name of a namespace. -/
def NamesNamespace (name : String) : Prop := name ≠ "" ∧ Request.IsPlain name

/-- The request that lists objects of a kind. That for all namespaces does not know the selector. -/
def listingOf (kind : Kind) (selector : String) (scope? : Option String) : Request where
  method := .get
  path := (Endpoint.ofKind kind scope?).path
  query := if scope?.isNone ∨ selector = "" then [] else [("labelSelector", selector)]
  contentType := none
  body := none

/-- Whether the request for a listing can be written down. -/
def listable (kind : Kind) (selector : String) (scope? : Option String) : Bool :=
  Request.addressFits (Endpoint.ofKind kind scope?).path
    (some (listingOf kind selector scope?).query)

/-- Nothing that is given makes the request for all namespaces longer. -/
theorem listable_everywhere (kind : Kind) (selector : String) : listable kind selector none := by
  have hquery : (listingOf kind selector none).query = [] := by simp [listingOf]
  unfold listable
  rw [hquery]
  cases kind <;> decide +kernel

def listing? (kind : Kind) (selector : String) (scope? : Option String) : Option Request :=
  if listable kind selector scope? then some (listingOf kind selector scope?) else none

namespace Endpoint

theorem asks_list (endpoint : Endpoint) (params : ListParams) :
    (endpoint.list params).Asks (endpoint.listRequest? (listQuery params)) fun request reply ↦
      endpoint.pageIn request reply >>= fun page ↦ .ok page.items :=
  (endpoint.asks_listPage (listQuery params)).bind fun _ _ ↦ rfl

theorem listRequest?_everywhere (kind : Kind) (selector : String) :
    (ofKind kind none).listRequest? (listQuery {}) = listing? kind selector none := by
  have hpath : Request.IsPlain (ofKind kind none).path :=
    isPlain_path_ofKind kind fun name hname ↦ nomatch hname
  exact Request.build?_of_isPlain hpath ..

theorem listRequest?_within (kind : Kind) (selector : String) {name : String}
    (hname : NamesNamespace name) :
    (ofKind kind (some name)).listRequest? (listQuery { labelSelector := nonEmpty? selector }) =
      listing? kind selector (some name) := by
  have hpath := isPlain_path_ofKind kind fun other hother ↦ Option.some.inj hother ▸ hname.2
  have hquery : listQuery { labelSelector := nonEmpty? selector } =
      (listingOf kind selector (some name)).query := by
    unfold nonEmpty? listingOf
    by_cases hselector : selector = ""
    · subst hselector
      rfl
    · rw [if_neg (by simpa using hselector), if_neg (by simpa using hselector)]
      rfl
  rw [listRequest?, Request.build?_of_isPlain hpath, hquery]
  rfl

end Endpoint

/-! ## The run -/

namespace Handler

variable {kind : Kind} {config : Config}

theorem kind_ofConfig : (ofConfig kind config).kind = kind := by
  unfold ofConfig
  cases config.dryRun <;> cases config.fieldManager <;> rfl

theorem namespaceName_ofConfig :
    (ofConfig kind config).namespaceName = normalNamespace config.namespaceName := by
  unfold ofConfig
  cases config.dryRun <;> cases config.fieldManager <;> rfl

/-- No setting of a configuration is about lists. -/
theorem list_ofConfig : (ofConfig kind config).options.list = {} := by
  unfold ofConfig
  cases config.dryRun <;> cases config.fieldManager <;> rfl

end Handler

namespace Cli

open Running

theorem run_talk {α : Type} (action : StateM Session α) (progress : Progress) :
    (talk action).run.run progress =
      (.ok (action.run progress.machine.session).1,
        { progress with
          machine := { progress.machine with
            session := (action.run progress.machine.session).2 } }) := rfl

theorem run_exchange {α : Type} (message : String) (action : Exchange α) (progress : Progress) :
    (exchange message action).run.run progress =
      ((action.run.run progress.machine.session).1.mapError fun error ↦
          [.message message, causeOf error],
        { progress with
          machine := { progress.machine with
            session := (action.run.run progress.machine.session).2 } }) := by
  have htalk : (talk action.run).run.run progress = _ := run_talk action.run progress
  rw [exchange, run_bind, htalk]
  dsimp only
  rw [run_explain, StateT.run]
  rcases action.run progress.machine.session with ⟨_ | _, after⟩ <;> rfl

/-- The exchange of a listing. Only that of one namespace knows the selector. -/
theorem asks_listing (kind : Kind) (selector : String) {config : Config} {scope? : Option String}
    (hscope : ∀ name, scope? = some name → NamesNamespace name ∧ config.namespaceName = name) :
    let handler := Handler.ofConfig kind config
    (if scope?.isNone then handler.listAll else handler.listByLabel selector).Asks
      (listing? kind selector scope?) fun request reply ↦
        (Endpoint.ofKind kind none).pageIn request reply >>= fun page ↦ .ok page.items := by
  intro handler
  rcases scope? with _ | name
  · rw [← Endpoint.listRequest?_everywhere]
    have hall : handler.listAll = (Endpoint.ofKind kind none).list {} := by
      rw [Handler.listAll, Handler.kind_ofConfig, Handler.list_ofConfig]
    exact hall ▸ Endpoint.asks_list _ _
  · obtain ⟨hname, hnamespace⟩ := hscope name rfl
    rw [← Endpoint.listRequest?_within kind selector hname]
    have hown : normalNamespace config.namespaceName = name := by
      rw [hnamespace, normalNamespace, if_neg (by simpa using hname.1)]
    have hone : handler.listByLabel selector = (Endpoint.ofKind kind (some name)).list
        { labelSelector := nonEmpty? selector } := by
      rw [Handler.listByLabel, Handler.endpoint, Handler.endpointIn, Handler.kind_ofConfig,
        Handler.namespaceName_ofConfig, hown, Options.listByLabel, Handler.list_ofConfig]
    exact hone ▸ Endpoint.asks_list _ _

variable {arguments : List String} {invocation : Invocation} {kind : Kind} {selector : String}
  {scope? : Option String} {target : Target}

/-- What is shown of a listing that fails. -/
def failedListing (kind : Kind) (error : Error) : Outcome where
  exit := 1
  complaint := failureText [.message ("Failed to list " ++ kind.name), causeOf error]

/-- A listing sends one request, if it can be written down, and prints the objects in the answer. -/
theorem run_list (machine : Machine)
    (hread : Invocation.ofArguments arguments = .ok invocation)
    (hcommand : invocation.command = .list kind selector scope?.isNone)
    (hscope : ∀ name, scope? = some name →
      NamesNamespace name ∧ invocation.namespaceName = some name)
    (htarget : (invocation.override (loadOrDefault machine.files machine.environment)).target
      machine.files machine.environment = .ok target) :
    run arguments machine =
      match listing? kind selector scope? with
      | none => (failedListing kind (.api .badRequest), machine)
      | some request =>
        let after := { machine with session := machine.session.asked request }
        match (Endpoint.ofKind kind none).pageIn request machine.session.next with
        | .ok page => ({ output := documents page.items }, after)
        | .error error => (failedListing kind error, after) := by
  let config := invocation.override (loadOrDefault machine.files machine.environment)
  have hnamespace : ∀ name, scope? = some name →
      NamesNamespace name ∧ config.namespaceName = name := by
    intro name hname
    obtain ⟨hnames, hgiven⟩ := hscope name hname
    refine ⟨hnames, ?_⟩
    change (invocation.namespaceName.bind nonEmpty?).getD _ = name
    rw [hgiven, Option.bind_some, nonEmpty?_eq_some_iff.mpr ⟨hnames.1, rfl⟩]
    rfl
  have hasks := asks_listing kind selector hnamespace machine.session
  have hinvocation : (runInvocation invocation).run.run { machine } =
      (runResource config (.list kind selector scope?.isNone)).run.run { machine } := by
    unfold runInvocation
    rw [hcommand, run_files_bind, run_environment_bind, run_bind, run_orFail, htarget]
    rfl
  unfold run
  rw [hread]
  dsimp only
  rw [hinvocation, runResource, run_bind, run_exchange, hasks, hcommand]
  rcases listing? kind selector scope? with _ | request
  · rfl
  · let after := { machine with session := machine.session.asked request }
    dsimp only
    rcases (Endpoint.ofKind kind none).pageIn request machine.session.next with error | page
    · rfl
    · exact congrArg (fun output : String ↦ (({ output } : Outcome), after)) String.empty_append

/-! ## The words -/

namespace CommandSpec

variable {spec : CommandSpec} {reading next : Reading} {rest : List String} {word : String}

/-- A word that is no option is an argument of a command that has no commands inside. -/
theorem readOn_argument (hspec : spec.commands = []) (hword : isOption word = false)
    (hreading : reading.onlyArguments = false) (hnext : reading.giveArgument spec word = .ok next) :
    spec.readOn reading none (word :: rest) = spec.readOn next none rest := by
  have hcommand : spec.command? word = none := by rw [command?, hspec]; rfl
  rw [readOn, hreading, hcommand, hspec, hword, hnext]
  simp [ne_dashes_of_isOption hword]
  rfl

theorem readOn_option {pending : Option OptionSpec} (hspec : spec.commands = [])
    (hword : isOption word = true) (hdashes : word ≠ "--") (hreading : reading.onlyArguments = false)
    (hnext : spec.readOption reading word = .ok (next, pending)) :
    spec.readOn reading none (word :: rest) = spec.readOn next pending rest := by
  have hcommand : spec.command? word = none := by rw [command?, hspec]; rfl
  rw [readOn, hreading, hcommand, hspec, hword, hnext]
  simp [hdashes]
  rfl

theorem readOn_value {option : OptionSpec} (hword : isOption word = false)
    (hnext : reading.give option word = .ok next) :
    spec.readOn reading (some option) (word :: rest) = spec.readOn next none rest := by
  rw [readOn, hword, hnext]
  rfl

end CommandSpec

def listCommand : CommandSpec :=
  { name := "list", about := "Print every object of a kind as YAML"
    options := [{ name := "selector", short := some 'l', value := some "SELECTOR"
                  about := "Label selector (e.g., \"app=nginx\") [default: ]" },
      { name := "all-namespaces", short := some 'A', about := "List across all namespaces" }]
    arguments := [kindArgument] }

theorem read_list (words : List String) : program.read ("list" :: words) =
    listCommand.readOn { path := ["list"] } none words := rfl

/-- Command lines that ask for the objects that a selector selects, in all namespaces or in one. -/
inductive AsksToList (kind : Kind) (selector : String) : Option String → List String → Prop
  | everywhere {word : String} (hkind : Kind.ofAlias? word = some kind)
    (hword : CommandSpec.isOption word = false)
    (hselector : CommandSpec.isOption selector = false) :
    AsksToList kind selector none ["list", word, "-l", selector, "-A"]
  | within {word name : String} (hkind : Kind.ofAlias? word = some kind)
    (hword : CommandSpec.isOption word = false)
    (hselector : CommandSpec.isOption selector = false)
    (hname : CommandSpec.isOption name = false) :
    AsksToList kind selector (some name) ["list", word, "-l", selector, "-n", name]

/-- The kind and the selector are read in any case. -/
theorem readOn_list_selector {word : String} (hkind : Kind.ofAlias? word = some kind)
    (hword : CommandSpec.isOption word = false)
    (hselector : CommandSpec.isOption selector = false) (rest : List String) :
    listCommand.readOn { path := ["list"] } none (word :: "-l" :: selector :: rest) =
      listCommand.readOn
        { path := ["list"], arguments := [word], given := ["selector"]
          options := [("selector", selector)] } none rest := by
  have hargument : ({ path := ["list"] } : Reading).giveArgument listCommand word =
      .ok { path := ["list"], arguments := [word] } := by
    have haccepts : kindArgument.accepts word = true := by simp [kindArgument, hkind]
    exact if_pos haccepts
  rw [CommandSpec.readOn_argument rfl hword rfl hargument,
    CommandSpec.readOn_option rfl (by decide +kernel) (by decide) rfl rfl,
    CommandSpec.readOn_value hselector rfl]

theorem ofReading?_list {word : String} {reading : Reading} (hkind : Kind.ofAlias? word = some kind)
    (hpath : reading.path = ["list"]) (harguments : reading.arguments = [word]) :
    Command.ofReading? reading = some (.list kind ((reading.option? "selector").getD "")
      (reading.has "all-namespaces")) := by
  rw [Command.ofReading?, hpath, harguments]
  change (Kind.ofAlias? word).map _ = _
  rw [hkind]
  rfl

theorem ofArguments_of_read {reading : Reading} {invocation : Invocation}
    (hread : program.read arguments = .ok reading)
    (hreading : Invocation.ofReading? reading = some invocation) :
    Invocation.ofArguments arguments = .ok invocation := by
  rw [Invocation.ofArguments, hread]
  dsimp only [bind, Except.bind]
  rw [hreading]
  rfl

theorem ofArguments_list (h : AsksToList kind selector scope? arguments) :
    Invocation.ofArguments arguments = .ok
      { command := .list kind selector scope?.isNone, namespaceName := scope? } := by
  cases h with
  | @everywhere word hkind hword hselector =>
    have hread : program.read ["list", word, "-l", selector, "-A"] = .ok
        { path := ["list"], arguments := [word], given := ["all-namespaces", "selector"]
          options := [("all-namespaces", ""), ("selector", selector)] } := by
      rw [read_list, readOn_list_selector hkind hword hselector,
        CommandSpec.readOn_option rfl (by decide +kernel) (by decide) rfl rfl]
      rfl
    refine ofArguments_of_read hread ?_
    rw [Invocation.ofReading?, ofReading?_list hkind rfl rfl]
    rfl
  | @within word name hkind hword hselector hname =>
    have hread : program.read ["list", word, "-l", selector, "-n", name] = .ok
        { path := ["list"], arguments := [word], given := ["namespace", "selector"]
          options := [("namespace", name), ("selector", selector)] } := by
      rw [read_list, readOn_list_selector hkind hword hselector,
        CommandSpec.readOn_option rfl (by decide +kernel) (by decide) rfl rfl,
        CommandSpec.readOn_value hname rfl]
      rfl
    refine ofArguments_of_read hread ?_
    rw [Invocation.ofReading?, ofReading?_list hkind rfl rfl]
    rfl

end Cli

/-! ## A server with objects in namespaces -/

namespace Endpoint

variable {kind : Kind}

theorem path_ofKind_inj (hkind : kind.namespaced = true) {first second : String} :
    (ofKind kind (some first)).path = (ofKind kind (some second)).path ↔ first = second := by
  refine ⟨fun h ↦ ?_, fun h ↦ h ▸ rfl⟩
  simp only [ofKind, collectionPath, hkind, if_true, ← String.toList_inj, String.toList_append,
    List.append_cancel_left_eq, List.append_cancel_right_eq] at h
  exact String.toList_inj.mp h

theorem path_ofKind_ne (hkind : kind.namespaced = true) (name : String) :
    (ofKind kind (some name)).path ≠ (ofKind kind none).path := by
  intro h
  have hlength := congrArg (fun path ↦ path.toList.length) h
  simp [ofKind, collectionPath, hkind] at hlength
  omega

end Endpoint

/-- The objects of a kind that a server keeps, and what it takes selectors to select. -/
structure Holdings where
  objects : List Object
  selects : String → Object → Bool

namespace Holdings

variable {store : Holdings} {kind : Kind}

/-- Whether a path leads to all objects of a kind, or to those of the object's namespace. -/
def covers (kind : Kind) (path : String) (object : Object) : Bool :=
  path == (Endpoint.ofKind kind none).path ||
    object.namespace?.any fun name ↦ path == (Endpoint.ofKind kind (some name)).path

/-- The objects that a request asks for: those that its path leads to and its selector selects. -/
def answer (store : Holdings) (kind : Kind) (request : Request) : List Object :=
  store.objects.filter fun object ↦ covers kind request.path object &&
    (request.query.lookup "labelSelector").all (store.selects · object)

/-- The server answers requests that list objects with the objects that they ask for. -/
def Serves (store : Holdings) (kind : Kind) (server : Request → Reply) : Prop :=
  ∀ request : Request, request.Reads →
    (∃ scope?, request.path = (Endpoint.ofKind kind scope?).path) →
      ∃ page, (Endpoint.ofKind kind none).pageIn request (server request) = .ok page ∧
        page.items = store.answer kind request

/-- Every object is in a namespace. -/
def InNamespaces (store : Holdings) : Prop :=
  ∀ object ∈ store.objects, ∃ name, object.namespace? = some name ∧ NamesNamespace name

/-- What a listing shows: all objects, or those of one namespace that a selector selects. -/
def shown (store : Holdings) (selector : String) : Option String → List Object
  | none => store.objects
  | some name => store.objects.filter fun object ↦
      object.namespace? == some name && (selector == "" || store.selects selector object)

theorem answer_listingOf (hkind : kind.namespaced = true) (selector : String)
    (scope? : Option String) :
    store.answer kind (listingOf kind selector scope?) = store.shown selector scope? := by
  rcases scope? with _ | name
  · refine List.filter_eq_self.mpr fun object _ ↦ ?_
    simp [covers, listingOf]
  · refine List.filter_congr fun object _ ↦ ?_
    have hcovers : covers kind (Endpoint.ofKind kind (some name)).path object =
        (object.namespace? == some name) := by
      have hall := beq_eq_false_iff_ne.mpr (Endpoint.path_ofKind_ne hkind name)
      unfold covers
      rw [hall, Bool.false_or]
      rcases object.namespace? with _ | own
      · rfl
      · rw [Option.any_some, Bool.eq_iff_iff, beq_iff_eq, beq_iff_eq, Option.some.injEq,
          Endpoint.path_ofKind_inj hkind, eq_comm]
    have hselects : ((listingOf kind selector (some name)).query.lookup "labelSelector").all
        (store.selects · object) = (selector == "" || store.selects selector object) := by
      unfold listingOf
      by_cases hselector : selector = ""
      · simp [hselector]
      · simp [hselector]
    exact congrArg₂ _ hcovers hselects

/-- The listings of the namespaces show together what the listing of all of them shows, exactly when
the selector selects everything and leaves room for the namespaces of the objects. -/
theorem shown_everywhere_iff (kind : Kind) (hstore : store.InNamespaces) (selector : String) :
    (∀ object, object ∈ store.shown selector none ↔
        ∃ name, NamesNamespace name ∧ listable kind selector (some name) ∧
          object ∈ store.shown selector (some name)) ↔
      ∀ object ∈ store.objects, listable kind selector object.namespace? ∧
        (selector = "" ∨ store.selects selector object = true) := by
  constructor
  · intro h object hmem
    obtain ⟨name, -, hlistable, hshown⟩ := (h object).mp hmem
    obtain ⟨-, hselected⟩ := List.mem_filter.mp hshown
    obtain ⟨hnamespace, hselected⟩ := Bool.and_eq_true_iff.mp hselected
    exact ⟨beq_iff_eq.mp hnamespace ▸ hlistable, by simpa using hselected⟩
  · intro h object
    constructor
    · intro hmem
      obtain ⟨name, hnamespace, hname⟩ := hstore object hmem
      obtain ⟨hlistable, hselected⟩ := h object hmem
      refine ⟨name, hname, hnamespace ▸ hlistable, List.mem_filter.mpr ⟨hmem, ?_⟩⟩
      simpa [hnamespace] using hselected
    · rintro ⟨name, -, -, hshown⟩
      exact (List.mem_filter.mp hshown).1

end Holdings

namespace Cli

/-- A run of a command line that asks for a listing, on a machine that is configured for a cluster.
The server of that cluster answers the request that is sent. -/
structure Listing (server : Request → Reply) (kind : Kind) (selector : String)
    (scope? : Option String) (arguments : List String) (machine : Machine) : Prop where
  asks : AsksToList kind selector scope? arguments
  reaches : ∃ target, (loadOrDefault machine.files machine.environment).target machine.files
    machine.environment = .ok target
  served : ∀ request, (run arguments machine).2.session.requests =
    machine.session.requests ++ [request] → machine.session.next = server request

variable {server : Request → Reply} {kind : Kind} {selector : String} {scope? : Option String}
  {arguments : List String} {machine : Machine} {store : Holdings}

/-- What a listing prints and sends. -/
theorem Listing.run_eq (h : Listing server kind selector scope? arguments machine)
    (hkind : kind.namespaced = true) (hserver : store.Serves kind server)
    (hscope : ∀ name, scope? = some name → NamesNamespace name) :
    run arguments machine =
      if listable kind selector scope? then
        ({ output := documents (store.shown selector scope?) },
          { machine with session := machine.session.asked (listingOf kind selector scope?) })
      else (failedListing kind (.api .badRequest), machine) := by
  obtain ⟨target, htarget⟩ := h.reaches
  have hrun := run_list machine (ofArguments_list h.asks) rfl
    (fun name hname ↦ ⟨hscope name hname, hname⟩) htarget
  unfold listing? at hrun
  split_ifs at hrun ⊢
  · have hsent : (run arguments machine).2.session.requests = machine.session.requests ++
        [listingOf kind selector scope?] := by
      rw [hrun]
      dsimp only
      split <;> exact Session.requests_asked _ _
    obtain ⟨page, hpage, hitems⟩ := hserver (listingOf kind selector scope?) rfl ⟨scope?, rfl⟩
    rw [hrun]
    dsimp only
    rw [h.served _ hsent, hpage, ← store.answer_listingOf hkind selector scope?, ← hitems]
  · exact hrun

/-- A listing of one namespace prints the objects that the selector selects there, unless its
request is too long to be written down: then it fails and sends nothing. A listing of all namespaces
prints all objects: its request has no selector. So the listings of the namespaces print together
what the listing of all of them prints, exactly when the selector is empty or selects everything,
and leaves room for the namespaces of the objects. -/
theorem list_everywhere_shows_all {kind : Kind} (hkind : kind.namespaced = true)
    {store : Holdings} {server : Request → Reply} (hserver : store.Serves kind server)
    (hstore : store.InNamespaces) (selector : String) :
    (∀ scope? arguments machine, (∀ name, scope? = some name → NamesNamespace name) →
      Listing server kind selector scope? arguments machine →
        run arguments machine =
          if scope? = none ∨ listable kind selector scope? then
            ({ output := documents (store.shown selector scope?) },
              { machine with session := machine.session.asked (listingOf kind selector scope?) })
          else (failedListing kind (.api .badRequest), machine)) ∧
      ((∀ object, object ∈ store.shown selector none ↔
          ∃ name, NamesNamespace name ∧ listable kind selector (some name) ∧
            object ∈ store.shown selector (some name)) ↔
        ∀ object ∈ store.objects, listable kind selector object.namespace? ∧
          (selector = "" ∨ store.selects selector object = true)) := by
  refine ⟨fun scope? arguments machine hscope h ↦ ?_,
    Holdings.shown_everywhere_iff kind hstore selector⟩
  rw [h.run_eq hkind hserver hscope]
  cases scope? with
  | none => rw [if_pos (listable_everywhere kind selector), if_pos (.inl rfl)]
  | some name => simp

/-! ### One labelled object -/

/-- Settings that are labelled for the web. -/
def webSettings : Object where
  types := some Kind.configMap.typeMeta
  metadata := [("labels", .obj [("app", .str "web")]), ("name", .str "web"),
    ("namespace", .str "apps")]
  content := []

/-- A server that keeps the settings alone. Only a selector that asks for their label selects
them. -/
def labelled : Holdings where
  objects := [webSettings]
  selects selector _ := selector == "app=web"

/-- A list as servers write it: its items do not state the kind. -/
def listOf (objects : List Object) : Json :=
  .obj [("items", .arr (objects.map fun object ↦ .obj [("metadata", .obj object.metadata)]))]

def labelledServer (request : Request) : Reply :=
  .ofValue 200 (listOf (labelled.answer .configMap request))

theorem serves_labelled : labelled.Serves .configMap labelledServer := by
  intro request _ _
  have hparts : labelled.answer .configMap request ∈ labelled.objects.sublists :=
    List.mem_sublists.mpr List.filter_sublist
  have hall : ∀ objects ∈ labelled.objects.sublists,
      Json.read? (listOf objects).text = some (listOf objects) ∧
        ((Endpoint.ofKind .configMap none).page? (listOf objects)).map (·.items) =
          some objects := by
    decide +kernel
  obtain ⟨hread, hitems⟩ := hall _ hparts
  obtain ⟨page, hpage, hitems⟩ := Option.map_eq_some_iff.mp hitems
  refine ⟨page, ?_, hitems⟩
  rw [Endpoint.pageIn, labelledServer, Reply.value_ofValue rfl hread]
  exact congrArg decodedOr hpage

theorem inNamespaces_labelled : labelled.InNamespaces := by
  intro object hmem
  obtain rfl := List.mem_singleton.mp hmem
  exact ⟨"apps", by decide, by decide, by decide⟩

/-- A machine that is configured for a cluster, whose server has one reply to give. -/
def listingMachine (reply : Reply) : Machine :=
  { dryMachine [] with
    environment.values := [("K8S_HANDLER_CONFIG", "/config"), ("KUBECONFIG", "/cluster")]
    session := { script := [reply] } }

/-- Words that ask for a listing make one on the machine whose server has the reply. -/
theorem listing_labelled {selector : String} {scope? : Option String} {arguments : List String}
    (hasks : AsksToList .configMap selector scope? arguments)
    (hscope : ∀ name, scope? = some name → NamesNamespace name) :
    let request := listingOf .configMap selector scope?
    Listing labelledServer .configMap selector scope? arguments
      (listingMachine (labelledServer request)) := by
  intro request
  have hconfigured : ((loadOrDefault (listingMachine .abort).files
      (listingMachine .abort).environment).target (listingMachine .abort).files
        (listingMachine .abort).environment).isOk = true := by decide +kernel
  have hreaches : ∃ target, (loadOrDefault (listingMachine .abort).files
      (listingMachine .abort).environment).target (listingMachine .abort).files
        (listingMachine .abort).environment = .ok target := by
    rcases htarget : (loadOrDefault (listingMachine .abort).files _).target _ _ with error | target
    · rw [htarget] at hconfigured
      cases hconfigured
    · exact ⟨target, rfl⟩
  obtain ⟨target, htarget⟩ := hreaches
  refine ⟨hasks, ⟨target, htarget⟩, fun sent hsent ↦ ?_⟩
  have hrun := run_list (listingMachine (labelledServer request)) (ofArguments_list hasks) rfl
    (fun name hname ↦ ⟨hscope name hname, hname⟩) htarget
  rw [hrun] at hsent
  unfold listing? at hsent
  split_ifs at hsent
  · have hasked : [request] = [sent] := by
      dsimp only at hsent
      split at hsent <;> exact hsent
    obtain rfl := List.singleton_inj.mp hasked
    rfl
  · cases hsent

theorem list_everywhere_shows_all_labelled :
    Kind.configMap.namespaced = true ∧ labelled.Serves .configMap labelledServer ∧
      labelled.InNamespaces ∧
      (run ["list", "configmap", "-l", "app=web", "-n", "apps"]
        (listingMachine (labelledServer (listingOf .configMap "app=web" (some "apps"))))).1 =
          { output := documents [webSettings] } := by
  have hkind : Kind.configMap.namespaced = true := rfl
  have hall := list_everywhere_shows_all hkind serves_labelled inNamespaces_labelled "app=web"
  refine ⟨rfl, serves_labelled, inNamespaces_labelled, ?_⟩
  have hnames : ∀ name, some "apps" = some name → NamesNamespace name := by
    intro name hname
    obtain rfl := Option.some.inj hname
    exact ⟨by decide, by decide⟩
  have hasks : AsksToList .configMap "app=web" (some "apps")
      ["list", "configmap", "-l", "app=web", "-n", "apps"] :=
    .within (by decide +kernel) (by decide +kernel) (by decide +kernel) (by decide +kernel)
  have hshown : labelled.shown "app=web" (some "apps") = [webSettings] := by decide +kernel
  rw [hall.1 (some "apps") _ _ hnames (listing_labelled hasks hnames), hshown,
    if_pos (.inr (by decide +kernel))]

/-- A listing of all namespaces prints settings that the selector does not select, and that no
listing of one namespace prints. -/
theorem list_everywhere_shows_unselected :
    ∃ (store : Holdings) (server : Request → Reply), store.Serves .configMap server ∧
      store.InNamespaces ∧
      ∃ object, (∃ arguments machine, Listing server .configMap "app=db" none arguments machine ∧
          ∃ objects, (run arguments machine).1 = { output := documents objects } ∧
            object ∈ objects) ∧
        ∀ name arguments machine, NamesNamespace name →
          Listing server .configMap "app=db" (some name) arguments machine →
            ∃ objects, (run arguments machine).1.output = documents objects ∧
              object ∉ objects := by
  refine ⟨labelled, labelledServer, serves_labelled, inNamespaces_labelled, webSettings,
    ?_, fun name arguments machine hname h ↦ ?_⟩
  · have hasks : AsksToList .configMap "app=db" none
        ["list", "configmap", "-l", "app=db", "-A"] :=
      .everywhere (by decide +kernel) (by decide +kernel) (by decide +kernel)
    have hlisting := listing_labelled hasks nofun
    refine ⟨_, _, hlisting, labelled.objects, ?_, List.mem_cons_self⟩
    rw [hlisting.run_eq rfl serves_labelled nofun, if_pos (listable_everywhere _ _)]
    rfl
  · rw [h.run_eq rfl serves_labelled fun other hother ↦ Option.some.inj hother ▸ hname]
    split_ifs
    · refine ⟨labelled.shown "app=db" (some name), rfl, fun hmem ↦ ?_⟩
      obtain ⟨-, hselected⟩ := List.mem_filter.mp hmem
      have hnot : labelled.selects "app=db" webSettings = false := by decide +kernel
      simp [hnot] at hselected
    · exact ⟨[], rfl, List.not_mem_nil⟩

end Cli

end ClusterObjects
