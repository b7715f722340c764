import FlowGraph.Proofs.Config.Precedence
import FlowGraph.Proofs.Node.TimeLimit
import FlowGraph.Proofs.Run.Sessions
import FlowGraph.Proofs.Walk.Moments

/-! # Runs under a configuration

An engine that is given the settings of a configuration follows it for good: its breakers have the
limits of the configuration at every moment of every run, and every handler sees its settings, so
the engines of the runs inside a run follow it as well. What is sent has the time limit of the
configuration, unless the node that sends it has one of its own.

* `Engine.Follows` is what an engine has of a configuration.
* `Walk.steady_follows` goes through the steps of a walk, `Engine.Follows.run` says it of a run.
* `Session.law_posts` is the law of sessions for the requests that are sent. `Sends` tells the nodes
  that send them, at any level.
* `Config.load_governs` goes from the file and the variables to the runs;
  `Config.load_not_governs_requests` has a request with a time limit of its own. -/

namespace FlowGraph

variable {σ τ ρ : Type}

/-! ### Engines that follow a configuration -/

/-- **The breakers follow a configuration.** At least one failure opens one of them. -/
structure Breakers.Follow (bs : Breakers) (c : Config) : Prop where
  threshold : bs.rule.failureThreshold = max c.breaker.failureThreshold 1
  cooldown : bs.rule.cooldown = c.breaker.cooldownSeconds * 1000

/-- **An engine follows a configuration**, with its settings and its breakers. -/
structure Engine.Follows (e : Engine σ τ) (c : Config) : Prop where
  settings : e.settings = c.engine
  breakers : e.breakers.Follow c

/-- An event follows a configuration: if it is a call, the handler sees the settings. -/
def Event.Follows (c : Config) : Event → Prop
  | .invoked ctx => ctx.settings = c.engine
  | _ => True

/-- The state of a run follows a configuration, and all that has happened does. -/
structure RunState.Follows (s : RunState σ τ) (c : Config) : Prop where
  breakers : s.breakers.Follow c
  events : ∀ ev ∈ s.journal, ev.Follows c

variable {c : Config}

/-- Breakers that are set up by a configuration follow it. -/
theorem Breakers.follow_rule {settings : BreakerSettings} (h : settings = c.breaker) :
    Breakers.Follow { rule := settings.rule } c := by
  subst h
  exact ⟨rfl, rfl⟩

theorem Breakers.Follow.one_le {bs : Breakers} (h : bs.Follow c) :
    1 ≤ bs.rule.failureThreshold :=
  h.threshold ▸ le_max_right _ _

theorem Breakers.Follow.of_rule_eq {bs bs' : Breakers} (h : bs.Follow c)
    (hrule : bs'.rule = bs.rule) : bs'.Follow c :=
  ⟨hrule ▸ h.threshold, hrule ▸ h.cooldown⟩

namespace Config.IsSynced

variable (hc : c.IsSynced)
include hc

/-- An engine that is given the settings of a configuration follows it. -/
theorem follows_withSettings (e : Engine σ τ) : (e.withSettings c.engine).Follows c :=
  ⟨rfl, Breakers.follow_rule hc.breaker⟩

/-- **The engine inside a call** follows the configuration that the call follows. -/
theorem follows_inside (registry : Registry σ) {ctx : NodeContext}
    (hctx : ctx.settings = c.engine) : (SubWorkflow.engine registry ctx).Follows c :=
  ⟨hctx, Breakers.follow_rule ((congrArg EngineSettings.breaker hctx).trans hc.breaker)⟩

end Config.IsSynced

/-! ### The steps of a walk -/

namespace RunState.Follows

variable {s s' : RunState σ τ} (h : s.Follows c)
include h

theorem onContext (f : RunContext → RunContext) : (s.onContext f).Follows c :=
  ⟨h.breakers, h.events⟩

theorem note (ev : Event) (hev : ev.Follows c) : (s.note ev).Follows c :=
  ⟨h.breakers, List.forall_mem_cons.mpr ⟨hev, h.events⟩⟩

theorem told (htold : Walk.Told s s') : s'.Follows c :=
  ⟨htold.breakers ▸ h.breakers, (htold.adds fun _ => trivial).forall_mem h.events⟩

end RunState.Follows

namespace Walk

variable {w : Walk σ τ}

theorem rule_callGuarded {node : Workflow.Node} {h : Handler σ} {ctx : NodeContext}
    {s s' : RunState σ τ} {outcome : Except Error NodeResult}
    (hc : w.callGuarded node h ctx s = (outcome, s')) : s'.breakers.rule = s.breakers.rule := by
  unfold callGuarded at hc
  split at hc
  · cases hc
    rfl
  · next key _ =>
    cases hc
    exact Breakers.rule_execute s.breakers key (w.call node h ctx) s

/-- **No step of a walk leaves the configuration** that its engine follows. -/
theorem steady_follows (hw : w.settings = c.engine) :
    w.Steady fun s => RunState.Follows s c where
  enter enclosing cause id input s h :=
    (h.note (.visited id input cause enclosing s.context.loops) trivial).onContext _
  skip id tag s h := (h.note (.skipped id) trivial).told (told_skip w id tag s)
  call node h input k s outcome s' hc hs := by
    refine ⟨hs.breakers.of_rule_eq (rule_callGuarded hc), ?_⟩
    rcases (callGuarded_effect hc).2 with hj | ⟨hj, -⟩
    · exact hj ▸ List.forall_mem_cons.mpr ⟨hw, hs.events⟩
    · exact hj ▸ hs.events
  count _ _ h := ⟨h.breakers, h.events⟩
  complete id output s _ _ h :=
    ((h.note (.completed id output) trivial).onContext _).told (told_complete w id output s)
  failed _ _ _ h := h.note _ trivial
  tooDeep _ _ _ _ h := h.note _ trivial
  recordFailure id e s _ h := (h.onContext _).told (told_recordFailure w id e s)
  enterLoop id total s h := (h.onContext (·.pushLoop id total)).note _ trivial
  setIteration _ _ h := h.onContext _
  popLoop _ h := h.onContext _

end Walk

/-! ### Runs -/

namespace Engine.Follows

variable {e : Engine σ τ} (he : e.Follows c)
include he

/-- A run comes to its end in a state that follows the configuration. -/
theorem run_finish (workflow : Workflow) (input : Json) (session : Session σ) (store : τ) :
    ∃ outcome s, e.run workflow input session store = e.finish outcome s ∧ s.Follows c :=
  e.runWith_finish _ workflow input session store
    (fun _ _ => ⟨he.breakers, List.forall_mem_nil _⟩)
    (fun w report s hs => hs.told (Walk.told_report w report s))
    (fun _ _ hs => ⟨hs.breakers, hs.events⟩)
    (fun hengine _ _ hcourse hs => (Walk.steady_follows
      ((congrArg Engine.settings hengine).trans he.settings)).course hcourse trivial hs)

/-- **At every moment of its runs** the breakers of an engine follow the configuration. -/
theorem breakers_moment {workflow : Workflow} {input : Json} {r : RunReport σ τ} {w : Walk σ τ}
    {trigger : String} {s₀ s₁ t : RunState σ τ} {o : Except Error Unit}
    (hw : Engine.Walked e workflow input r w trigger s₀ s₁ o)
    (ht : w.Moment (.visit [] .start trigger input) s₀ t) : t.breakers.Follow c := by
  have hstart : s₀.Follows c := by
    obtain ⟨rs, hrs⟩ := hw.start_journal
    exact ⟨hw.start_breakers ▸ he.breakers,
      hrs ▸ List.forall_mem_map.mpr fun _ _ => trivial⟩
  have hsettings : w.settings = c.engine := (congrArg Engine.settings hw.engine).trans he.settings
  exact ((Walk.steady_follows hsettings).moment ht trivial hstart).breakers

end Engine.Follows

/-! ### The requests of a run -/

section

variable (registry : Registry (Mailbox ρ)) (t : Transport ρ)

/-- **A node that sends requests** is one of these nodes, or in a workflow that one of them holds. -/
inductive Sends : List Workflow.Node → Sender → Json → Prop
  | here {nodes node h kind} (hn : node ∈ nodes) (hr : registry.resolve? node.tag = some h)
    (hbehaviour : h.behaviour = .call (kind.run t.recorded)) : Sends nodes kind node.config
  | inside {nodes node h k kind config} (hn : node ∈ nodes)
    (hr : registry.resolve? node.tag = some h) (hbehaviour : h.behaviour = .subWorkflow)
    (hk : SubWorkflow.Config.decode (.ofJson node.config) = .ok k)
    (hsends : Sends k.nodes kind config) : Sends nodes kind config

/-- Sessions between which requests were sent, each by a node that sends requests and under these
settings. -/
def Session.Posts (settings : EngineSettings) (nodes : List Workflow.Node)
    (s s' : Session (Mailbox ρ)) : Prop :=
  ∃ sent, s'.world.host.sent = sent ++ s.world.host.sent ∧ ∀ q ∈ sent, ∃ kind config ctx,
    Sends registry t nodes kind config ∧ ctx.settings = settings ∧ kind.Prepares config ctx q

/-- **The standard handlers send all requests**: any other handler sends none. -/
def Registry.SendsOnlyBy : Prop :=
  ∀ tag h, registry.resolve? tag = some h → h ∈ standardHandlers t.recorded .exact ∨ h.IsQuiet

end

namespace Session

variable {registry : Registry (Mailbox ρ)} {t : Transport ρ} {settings : EngineSettings}
  {nodes : List Workflow.Node} {s s' s'' : Session (Mailbox ρ)}

theorem Posts.of_sent_eq (h : s'.world.host.sent = s.world.host.sent) :
    Posts registry t settings nodes s s' := ⟨[], h, by simp⟩

theorem Posts.trans (h : Posts registry t settings nodes s s')
    (h' : Posts registry t settings nodes s' s'') : Posts registry t settings nodes s s'' := by
  obtain ⟨sent, hs, hall⟩ := h
  obtain ⟨sent', hs', hall'⟩ := h'
  exact ⟨sent' ++ sent, by rw [hs', hs, List.append_assoc],
    List.forall_mem_append.mpr ⟨hall', hall⟩⟩

/-- **Requests are sent by nodes that send requests**: this is a law of sessions. -/
theorem law_posts (hregistry : registry.SendsOnlyBy t) (settings : EngineSettings) :
    SessionLaw registry settings fun _ => Posts registry t settings where
  refl _ _ _ := .of_sent_eq rfl
  trans h h' := h.trans h'
  count _ _ _ _ := .of_sent_eq rfl
  call := by
    intro depth nodes node h run ctx s hn hr hbehaviour hctx
    have hsender : h.IsQuiet ∨ ∃ kind : Sender, h = kind.handler t.recorded :=
      (hregistry _ _ hr).elim isQuiet_of_mem_standardHandlers .inl
    rcases hsender with hquiet | ⟨kind, rfl⟩
    · exact .of_sent_eq (hquiet run hbehaviour node.config ctx s.world)
    · rw [Sender.behaviour_handler] at hbehaviour
      cases hbehaviour
      rcases kind.run_sent t node.config ctx s.world with hnone | ⟨q, hsent, hprepares⟩
      · exact .of_sent_eq hnone
      · refine ⟨[q], hsent, List.forall_mem_singleton.mpr ?_⟩
        exact ⟨kind, node.config, ctx, .here hn hr (kind.behaviour_handler _), hctx, hprepares⟩
  inside := by
    rintro depth nodes node h k s s' hn hr hbehaviour hk - ⟨sent, hsent, hall⟩
    refine ⟨sent, hsent, fun q hq => ?_⟩
    obtain ⟨kind, config, ctx, hsends, hprepares⟩ := hall q hq
    exact ⟨kind, config, ctx, .inside hn hr hbehaviour hk hsends, hprepares⟩

end Session

/-! ### From a file and variables to runs -/

/-- **A run follows a configuration**: its engine does afterwards, so do the breakers at every moment
of its walk, and every handler sees the settings, those that run a workflow of their own too. -/
structure RunReport.Follows (r : RunReport σ τ) (c : Config) (e : Engine σ τ) (workflow : Workflow)
    (input : Json) : Prop where
  engine : r.engine.Follows c
  breakers : ∀ w trigger s₀ s₁ o, Engine.Walked e workflow input r w trigger s₀ s₁ o → ∀ m,
    w.Moment (.visit [] .start trigger input) s₀ m →
      m.breakers.Follow c ∧ 1 ≤ m.breakers.rule.failureThreshold
  calls : ∀ ctx, .invoked ctx ∈ r.journal →
    ctx.settings = c.engine ∧ (SubWorkflow.engine e.registry ctx).Follows c

/-- **All runs of an engine that follows a configuration** follow it. -/
theorem Engine.Follows.run {e : Engine σ τ} (he : e.Follows c) (hc : c.IsSynced)
    (workflow : Workflow) (input : Json) (session : Session σ) (store : τ) :
    (e.run workflow input session store).Follows c e workflow input := by
  obtain ⟨outcome, s, hrun, hs⟩ := he.run_finish workflow input session store
  refine ⟨?_, fun w trigger s₀ s₁ o hw m hm => ?_, fun ctx hctx => ?_⟩
  · rw [hrun]
    exact ⟨he.settings, hs.breakers⟩
  · have hfollow := he.breakers_moment hw hm
    exact ⟨hfollow, hfollow.one_le⟩
  · rw [hrun] at hctx
    have hsettings : ctx.settings = c.engine := hs.events (.invoked ctx) hctx
    exact ⟨hsettings, hc.follows_inside e.registry hsettings⟩

namespace Config

/-- **From a file and variables to runs.** Each of the nine settings is what its variable says, if
it says something, and otherwise that of the file, if the file decodes as a whole, and otherwise the
default; no variable changes any other setting. The copies of the engine are equal to the sections.
An engine that is given the settings follows them, and so do all its runs, at every moment, and the
engines of the runs inside; the breakers open after one failure at least. Every request that is sent,
at any level, has the time limit in the configuration of the node that sends it, and if there is none
that of the settings. -/
theorem load_governs (file : Option String) :
    ∃ base, IsBase file base ∧ ∀ env,
      let c := load file env
      c.IsOverridden base env ∧
      (∀ (s : Setting) env', Fields.get? env' s.variableName = Fields.get? env s.variableName →
        s.of (load file env') = s.of c) ∧
      Function.Injective Setting.variableName ∧ c.IsSynced ∧
      (∀ (σ τ : Type) (e : Engine σ τ), (e.withSettings c.engine).Follows c) ∧
      (∀ (σ τ : Type) (e : Engine σ τ), e.Follows c → ∀ workflow input session store,
        (e.run workflow input session store).Follows c e workflow input) ∧
      ∀ (ρ τ : Type) (t : Transport ρ) (e : Engine (Mailbox ρ) τ), e.Follows c →
        e.registry.SendsOnlyBy t → ∀ workflow input session store, ∃ sent,
          (e.run workflow input session store).session.world.host.sent =
            sent ++ session.world.host.sent ∧
          ∀ q ∈ sent, ∃ kind config ctx, Sends e.registry t workflow.nodes kind config ∧
            kind.Prepares config ctx q ∧
            q.timeoutSeconds = (kind.ownLimit? config).getD c.httpTimeoutSeconds := by
  obtain ⟨base, hbase, hprecedence⟩ := load_precedence file
  refine ⟨base, hbase, fun env => ?_⟩
  intro c
  obtain ⟨hoverridden, hindependent⟩ := hprecedence env
  have hsynced : c.IsSynced := isSynced_load file env
  refine ⟨hoverridden, hindependent, Setting.variableName_injective, hsynced,
    fun σ τ e => hsynced.follows_withSettings e,
    fun σ τ e he => he.run hsynced, fun ρ τ t e he hregistry workflow input session store => ?_⟩
  obtain ⟨sent, hsent, hall⟩ := (Session.law_posts hregistry c.engine).run rfl he.settings
    workflow input session store
  refine ⟨sent, hsent, fun q hq => ?_⟩
  obtain ⟨kind, config, ctx, hsends, hctx, hprepares⟩ := hall q hq
  have hlimit := hprepares.timeoutSeconds
  rw [hctx, hsynced.httpTimeoutSeconds] at hlimit
  exact ⟨kind, config, ctx, hsends, hprepares, hlimit⟩

/-- A transport that gets a reply to every request. -/
def welcoming : Transport Unit := fun _ w => (.ok ⟨200, [], []⟩, w)

/-- A workflow with a node that does not want to wait, and one that does not mind. -/
def errand : Workflow where
  nodes := [{ id := "start", tag := "manual_trigger" },
    { id := "call", tag := "http_request"
      config := .obj [("timeout_seconds", .int 0), ("url", .str "http://[::1]/")] },
    { id := "tell", tag := "webhook", config := .obj [("url", .str "http://[::1]/")] }]
  edges := [⟨"start", "call"⟩, ⟨"call", "tell"⟩]

/-- A file with settings of three sections. -/
def settingsFile : String :=
  "[engine]\nmax_loop_depth = 7\nhttp_timeout_seconds = 1\n\n[circuit_breaker]\n" ++
    "cooldown_seconds = 9\n\n[http]\ntimeout_seconds = 5\n"

/-- Two variables that say something, and one that does not. -/
def threeVariables : Environment := [("NODEFLOW_BREAKER_FAILURE_THRESHOLD", "0"),
  ("NODEFLOW_HTTP_TIMEOUT_SECONDS", "+30"), ("NODEFLOW_MAX_LOOP_DEPTH", "many")]

/-- The engine that a configuration is given to. -/
def courier (c : Config) : Engine (Mailbox Unit) Unit :=
  Engine.withSettings { registry := .standard welcoming.recorded .exact } c.engine

/-- The session before its first request. -/
def morning : Session (Mailbox Unit) := { world := ⟨⟨⟨0, 0⟩, 0⟩, ⟨(), []⟩⟩ }

theorem load_governs_errand :
    let c := load (some settingsFile) threeVariables
    let r := (courier c).run errand .null morning ()
    c.breaker.failureThreshold = 0 ∧ c.httpTimeoutSeconds = 30 ∧ c.engine.maxLoopDepth = 7 ∧
      (courier c).Follows c ∧ r.engine.breakers.rule.failureThreshold = 1 ∧
      r.engine.breakers.rule.cooldown = 9000 ∧
      r.session.world.host.sent.map (·.timeoutSeconds) = [30, 0] ∧
      ∀ q ∈ r.session.world.host.sent, ∃ kind config ctx,
        Sends (courier c).registry welcoming errand.nodes kind config ∧
          kind.Prepares config ctx q ∧ q.timeoutSeconds = (kind.ownLimit? config).getD 30 := by
  intro c r
  obtain ⟨base, -, hall⟩ := load_governs (some settingsFile)
  obtain ⟨hoverridden, -, -, -, hgiven, hruns, hsent⟩ := hall threeVariables
  have hsaid : ∀ (s : Setting) (text : String) (v : s.Value), s.read text = some v →
      s.Says text v := fun s text v hread => s.read_eq_some_iff.mp hread
  have hthreshold : c.breaker.failureThreshold = 0 :=
    hoverridden.said .failureThreshold "0" (0 : Nat) rfl (hsaid .failureThreshold _ _ rfl)
  have hlimit : c.httpTimeoutSeconds = 30 :=
    hoverridden.said .httpTimeoutSeconds "+30" (30 : Nat) rfl (hsaid .httpTimeoutSeconds _ _ rfl)
  obtain ⟨hcooldown, hdepth⟩ : c.breaker.cooldownSeconds = 9 ∧ c.engine.maxLoopDepth = 7 := by
    decide +kernel
  have hfollows : (courier c).Follows c := hgiven _ _ _
  have hrun : r.Follows c (courier c) errand .null :=
    hruns _ _ (courier c) hfollows errand .null morning ()
  obtain ⟨sent, hall, hlimits⟩ := hsent _ _ welcoming (courier c) hfollows
    (fun _ _ hr => .inl (Registry.mem_of_resolve?_ofHandlers hr)) errand .null morning ()
  rw [show morning.world.host.sent = [] from rfl, List.append_nil] at hall
  refine ⟨hthreshold, hlimit, hdepth, hfollows, ?_, ?_, by decide +kernel, ?_⟩
  · rw [hrun.engine.breakers.threshold, hthreshold]
    rfl
  · rw [hrun.engine.breakers.cooldown, hcooldown]
  · rw [hall, ← hlimit]
    exact hlimits

/-- **A request with a time limit of its own** does not have that of the settings. -/
theorem load_not_governs_requests :
    let c := load none [("NODEFLOW_HTTP_TIMEOUT_SECONDS", "30")]
    let r := (courier c).run errand .null morning ()
    c.httpTimeoutSeconds = 30 ∧ (courier c).Follows c ∧
      ¬ ∀ q ∈ r.session.world.host.sent, q.timeoutSeconds = c.httpTimeoutSeconds := by
  intro c r
  have hlimits : r.session.world.host.sent.map (·.timeoutSeconds) = [30, 0] := by decide +kernel
  refine ⟨rfl, (isSynced_load _ _).follows_withSettings _, fun hall => ?_⟩
  have hmem : 0 ∈ r.session.world.host.sent.map (·.timeoutSeconds) := by
    rw [hlimits]
    decide
  obtain ⟨q, hq, hzero⟩ := List.mem_map.mp hmem
  exact absurd (hzero.symm.trans (hall q hq)) (by decide)

end Config

end FlowGraph
