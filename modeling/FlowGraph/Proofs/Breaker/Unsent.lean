import FlowGraph.Engine.Walk
import FlowGraph.Node.Request
import FlowGraph.Proofs.Breaker.Alike

/-! # Requests that are never sent

Both nodes that send requests work in three stages: they prepare a request from the configuration,
build it and hand it to the transport. What goes wrong while a request is prepared says nothing about
the resource, and the breaker stays as it was in the eyes of everyone who comes later. The error of a
request that cannot be built is one of the transport, though nothing was sent, and it counts as a
failure of the resource.

* `Sender` names the two nodes, which differ in how they prepare and in what they make of a reply.
* `Sender.not_counts_of_prepare` goes through everything that a preparation checks.
* `Walk.callGuarded_unsent` is the law for a call under a breaker; `unbuildable_opens` shows the
  breaker of a resource open to which no request was ever sent. -/

namespace FlowGraph

variable {σ τ : Type}

/-- The nodes that send requests. -/
inductive Sender where
  | request
  | webhook

namespace Sender

/-- How a request is prepared. -/
def prepare : Sender → Json → NodeContext → Timestamp → Except Error (RequestDraft × String)
  | request => RequestNode.prepare
  | webhook => WebhookNode.prepare

/-- What the handler does when it is called. -/
def run (t : Transport σ) : Sender → Call σ
  | request => RequestNode.run t
  | webhook => WebhookNode.run t

/-- The handler of a node. -/
def handler (t : Transport σ) : Sender → Handler σ
  | request => RequestNode.handler t
  | webhook => WebhookNode.handler t

variable {kind : Sender} {t : Transport σ} {config : Json} {ctx : NodeContext} {now : Timestamp}
  {w : World σ} {e : Error} {d : RequestDraft} {url : String}

@[simp] theorem behaviour_handler (kind : Sender) (t : Transport σ) :
    (kind.handler t).behaviour = .call (kind.run t) := by
  cases kind <;> rfl

/-! ### What a preparation checks -/

theorem not_counts_of_authenticate {auth : RequestNode.Auth}
    (h : RequestNode.authenticate d auth ctx now = .error e) : e.countsAgainstBreaker = false := by
  unfold RequestNode.authenticate at h
  split at h
  · cases h
  · split at h
    · cases h
      rfl
    · unfold RequestNode.addToken at h
      split_ifs at h
      split at h
      · cases h
      · cases h
        rfl

/-- **Whatever goes wrong in a preparation** says nothing about the resource: the configuration, the
URL and its scheme, the method, the credential and how it is to be sent. -/
theorem not_counts_of_prepare (h : kind.prepare config ctx now = .error e) :
    e.countsAgainstBreaker = false := by
  cases kind with
  | request =>
    change RequestNode.prepare config ctx now = .error e at h
    unfold RequestNode.prepare at h
    split at h
    · cases h; rfl
    · split at h
      · cases h; rfl
      · split at h
        · cases h; rfl
        · split at h
          · next hauth =>
            cases h
            exact not_counts_of_authenticate hauth
          · cases h
  | webhook =>
    change WebhookNode.prepare config ctx now = .error e at h
    unfold WebhookNode.prepare at h
    split at h
    · cases h; rfl
    · split at h
      · cases h; rfl
      · split at h
        · next hauth =>
          cases h
          exact not_counts_of_authenticate hauth
        · cases h

/-! ### The stages of a call -/

/-- What the node makes of a reply that took some milliseconds to arrive. -/
def result : Sender → RequestDraft → String → Nat → Reply → Except Error NodeResult
  | request, d, url, durationMs => RequestNode.result d.method url durationMs
  | webhook, _, url, _ => WebhookNode.result url

/-- Both nodes prepare, send and read the reply, and stop at the first error. -/
theorem run_eq (kind : Sender) (t : Transport σ) (config : Json) (ctx : NodeContext) (w : World σ) :
    kind.run t config ctx w = match kind.prepare config ctx w.clock.wall with
      | .error e => (.error e, w)
      | .ok (d, url) => match d.send t w with
        | (.error e, w') => (.error e, w')
        | (.ok reply, w') =>
          (kind.result d url (w'.clock.elapsed - w.clock.elapsed) reply, w') := by
  cases kind <;> rfl

theorem run_of_prepare_error (h : kind.prepare config ctx w.clock.wall = .error e) :
    kind.run t config ctx w = (.error e, w) := by
  rw [run_eq, h]

theorem run_of_send_error (h : kind.prepare config ctx w.clock.wall = .ok (d, url))
    {w' : World σ} (hsend : d.send t w = (.error e, w')) :
    kind.run t config ctx w = (.error e, w') := by
  rw [run_eq, h]
  simp only [hsend]

theorem world_of_send (h : kind.prepare config ctx w.clock.wall = .ok (d, url)) :
    (kind.run t config ctx w).2 = (d.send t w).2 := by
  rw [run_eq, h]
  rcases hsend : d.send t w with ⟨e | reply, w'⟩
  · simp only [hsend]
  · simp only [hsend]

end Sender

/-! ### A call under a breaker -/

namespace Walk

variable {w : Walk σ τ} {node : Workflow.Node} {h : Handler σ} {run : Call σ} {ctx : NodeContext}
  {s : RunState σ τ} {key : String}

theorem world_noteChange (b b' : Breaker) (s : RunState σ τ) :
    (Monitor.noteChange b b' s).session.world = s.session.world := by
  unfold Monitor.noteChange
  split_ifs <;> rfl

theorem call_eq (w : Walk σ τ) (node : Workflow.Node) (hrun : h.behaviour = .call run)
    (ctx : NodeContext) (s : RunState σ τ) :
    let ran := run node.config ctx s.session.world
    let r := w.call node h ctx s
    r.1 = ran.1 ∧ r.2.session.world = ran.2 ∧ r.2.breakers = s.breakers := by
  simp only [call, Handler.invoke, hrun]
  exact ⟨trivial, trivial, rfl⟩

/-- A call that names no resource has no breaker. -/
theorem callGuarded_of_unnamed (w : Walk σ τ) (s : RunState σ τ)
    (hkey : h.resource? node.config ctx = none) (hrun : h.behaviour = .call run) :
    let ran := run node.config ctx s.session.world
    let r := w.callGuarded node h ctx s
    r.1 = ran.1 ∧ r.2.session.world = ran.2 ∧ r.2.breakers = s.breakers := by
  unfold callGuarded
  rw [hkey]
  exact call_eq w node hrun ctx s

/-- A call that the breaker rejects does not come to the handler. -/
theorem callGuarded_of_rejected (w : Walk σ τ) (hkey : h.resource? node.config ctx = some key)
    (hb : (s.breakers.breaker key).admit? s.breakers.rule s.session.elapsed = none) :
    let r := w.callGuarded node h ctx s
    r.1 = .error (.circuitOpen key) ∧ r.2.session.world = s.session.world ∧
      r.2.breakers = s.breakers.update key (s.breakers.breaker key) := by
  unfold callGuarded
  simp only [hkey, Breakers.execute_of_none (s := s) hb]
  exact ⟨trivial, trivial, trivial⟩

/-- A call that the breaker lets through settles it. -/
theorem callGuarded_of_admitted (w : Walk σ τ) (hkey : h.resource? node.config ctx = some key)
    {b : Breaker} (hb : (s.breakers.breaker key).admit? s.breakers.rule s.session.elapsed = some b)
    (hrun : h.behaviour = .call run) :
    let ran := run node.config ctx s.session.world
    let r := w.callGuarded node h ctx s
    r.1 = ran.1 ∧ r.2.session.world = ran.2 ∧
      r.2.breakers = s.breakers.update key (b.settle s.breakers.rule ran.1 ran.2.clock.elapsed) := by
  let admitted := Monitor.noteChange (s.breakers.breaker key) b s
  obtain ⟨houtcome, hworld, -⟩ := call_eq w node hrun ctx admitted
  have hnow : Monitor.now (w.call node h ctx admitted).2 =
      (w.call node h ctx admitted).2.session.world.clock.elapsed := rfl
  rw [world_noteChange] at houtcome hworld
  unfold callGuarded
  simp only [hkey, Breakers.execute_of_some (s := s) hb, world_noteChange]
  exact ⟨houtcome, hworld, by rw [hnow, hworld, houtcome]⟩

section

variable {kind : Sender} {t : Transport σ} {e : Error} {d : RequestDraft} {url : String}

/-- **A request that cannot be prepared** leaves no trace. -/
theorem callGuarded_unprepared (w : Walk σ τ)
    (h : kind.prepare node.config ctx s.session.now = .error e) :
    let r := w.callGuarded node (kind.handler t) ctx s
    (∃ e', r.1 = .error e' ∧ e'.countsAgainstBreaker = false) ∧
      r.2.session.world = s.session.world ∧ s.breakers.Alike s.session.elapsed r.2.breakers := by
  have hlocal := Sender.not_counts_of_prepare h
  have hrun : kind.run t node.config ctx s.session.world = (.error e, s.session.world) :=
    Sender.run_of_prepare_error h
  have hbehaviour := kind.behaviour_handler t
  cases hkey : (kind.handler t).resource? node.config ctx with
  | none =>
    obtain ⟨houtcome, hworld, hbreakers⟩ := callGuarded_of_unnamed w s hkey hbehaviour
    rw [hrun] at houtcome hworld
    exact ⟨⟨e, houtcome, hlocal⟩, hworld, hbreakers ▸ .refl ..⟩
  | some key =>
    cases hb : (s.breakers.breaker key).admit? s.breakers.rule s.session.elapsed with
    | none =>
      obtain ⟨houtcome, hworld, hbreakers⟩ := callGuarded_of_rejected w hkey hb
      exact ⟨⟨_, houtcome, rfl⟩, hworld, hbreakers ▸ Breakers.alike_update _ (.refl ..)⟩
    | some b =>
      obtain ⟨houtcome, hworld, hbreakers⟩ := callGuarded_of_admitted w hkey hb hbehaviour
      rw [hrun] at houtcome hworld hbreakers
      exact ⟨⟨e, houtcome, hlocal⟩, hworld, hbreakers ▸ Breakers.alike_settle hb hlocal _⟩

/-- **A request that cannot be built** fails its resource. -/
theorem callGuarded_unbuilt (w : Walk σ τ)
    (h : kind.prepare node.config ctx s.session.now = .ok (d, url)) {fault : TransportFault}
    (hbuild : d.build = .error fault) (hkey : (kind.handler t).resource? node.config ctx = some key)
    {b : Breaker}
    (hb : (s.breakers.breaker key).admit? s.breakers.rule s.session.elapsed = some b) :
    let r := w.callGuarded node (kind.handler t) ctx s
    r.1 = .error (.transport d.url.text fault) ∧ r.2.session.world = s.session.world ∧
      r.2.breakers = s.breakers.update key (b.fail s.breakers.rule s.session.elapsed) := by
  have hsend : d.send t s.session.world =
      (.error (.transport d.url.text fault), s.session.world) := by
    simp only [RequestDraft.send, hbuild]
  have hran := callGuarded_of_admitted w hkey hb (kind.behaviour_handler t)
  rwa [Sender.run_of_send_error h hsend] at hran

/-- A request that can be built goes to the transport, unless the breaker rejects the call. -/
theorem callGuarded_sent (w : Walk σ τ)
    (h : kind.prepare node.config ctx s.session.now = .ok (d, url)) {request : Request}
    (hbuild : d.build = .ok request)
    (hpass : ∀ key, (kind.handler t).resource? node.config ctx = some key →
      ((s.breakers.breaker key).admit? s.breakers.rule s.session.elapsed).isSome) :
    (w.callGuarded node (kind.handler t) ctx s).2.session.world = (t request s.session.world).2 := by
  have hsend : (d.send t s.session.world).2 = (t request s.session.world).2 := by
    simp only [RequestDraft.send, hbuild]
    split <;> next heq => rw [heq]
  have hbehaviour := kind.behaviour_handler t
  rw [← hsend, ← Sender.world_of_send h]
  cases hkey : (kind.handler t).resource? node.config ctx with
  | none => exact (callGuarded_of_unnamed w s hkey hbehaviour).2.1
  | some key =>
    obtain ⟨b, hb⟩ := Option.isSome_iff_exists.mp (hpass key hkey)
    exact (callGuarded_of_admitted w hkey hb hbehaviour).2.1

end

/-- **Calls that send nothing.** A node that cannot prepare its request sends nothing, and nobody
can tell from the breakers that it was called: not from their states and failures, and not from what
becomes of any calls that come later. A node that cannot build the request it has prepared sends
nothing either, but the breaker of its resource notes a failure. Any other node makes an attempt,
unless the breaker rejects the call. -/
theorem callGuarded_unsent (kind : Sender) (t : Transport σ) (w : Walk σ τ) (node : Workflow.Node)
    (ctx : NodeContext) (s : RunState σ τ) :
    let key? := (kind.handler t).resource? node.config ctx
    let prepared := kind.prepare node.config ctx s.session.now
    let now := s.session.elapsed
    let r := w.callGuarded node (kind.handler t) ctx s
    (∀ e, prepared = .error e →
      (∃ e', r.1 = .error e' ∧ e'.countsAgainstBreaker = false) ∧
      r.2.session.world = s.session.world ∧ s.breakers.Alike now r.2.breakers ∧
      ∀ (S : Type) [Monitor S], (∀ next (u : S), Monitor.changed next u = u) →
        ∀ activities : List (Activity S), (∀ a ∈ activities, a.Forward) →
          ∀ u : Watched S, now ≤ Monitor.now u →
            (activities.foldl Activity.perform (r.2.breakers, u)).2 =
              (activities.foldl Activity.perform (s.breakers, u)).2) ∧
    (∀ d url fault, prepared = .ok (d, url) → d.build = .error fault → ∀ key b, key? = some key →
      (s.breakers.breaker key).admit? s.breakers.rule now = some b →
        r.1 = .error (.transport d.url.text fault) ∧ r.2.session.world = s.session.world ∧
        r.2.breakers = s.breakers.update key (b.fail s.breakers.rule now)) ∧
    (∀ d url request, prepared = .ok (d, url) → d.build = .ok request →
      (∀ key, key? = some key → ((s.breakers.breaker key).admit? s.breakers.rule now).isSome) →
        r.2.session.world = (t request s.session.world).2) := by
  intro key? prepared now r
  refine ⟨fun e he => ?_, fun d url fault hd hbuild key b hkey hb =>
    callGuarded_unbuilt w hd hbuild hkey hb, fun d url request hd hbuild hpass =>
    callGuarded_sent w hd hbuild hpass⟩
  obtain ⟨hlocal, hworld, halike⟩ := callGuarded_unprepared (t := t) w he
  exact ⟨hlocal, hworld, halike, fun S _ hm activities hf u hu =>
    (halike.mono hu).foldl_perform hm hf⟩

/-- A transport that reaches nobody, and counts how often it is asked to. -/
def counting : Transport Nat := fun _ w => (.error .notConnected, { w with host := w.host + 1 })

/-- A walk through nothing. -/
def bare : Walk Nat Unit :=
  ⟨⟨[], []⟩, "", { registry := {} }, none, fun _ _ s => (.error (.node .noRegistry), s)⟩

/-- The state before anything happens, but for the breakers. -/
def untouched (breakers : Breakers) : RunState Nat Unit :=
  { context := {}, breakers, session := { world := ⟨⟨⟨0, 0⟩, 0⟩, 0⟩ }, store := () }

/-- A node that requests a URL with one header. -/
def caller (url header : String) : Workflow.Node where
  id := "call"
  tag := "http_request"
  config := .obj [("headers", .obj [(header, .str "x")]), ("url", .str url)]

/-- A URL of another scheme moves a breaker whose cooldown is over, and still nobody can tell. -/
theorem callGuarded_unsent_ftp :
    let node := caller "ftp://[::1]/" "accept"
    let ctx := bare.nodeContext node .null {}
    let s := untouched ⟨⟨1, 0⟩, [("http:[::1]", ⟨.opened, 1, some 0⟩)]⟩
    let r := bare.callGuarded node (Sender.request.handler counting) ctx s
    (∃ e, Sender.request.prepare node.config ctx s.session.now = .error e) ∧
      (r.2.breakers.breaker "http:[::1]").state = .halfOpen ∧
      r.2.session.world = s.session.world ∧
      ∀ later, r.2.breakers.state "http:[::1]" later = s.breakers.state "http:[::1]" later := by
  intro node ctx s r
  have hmoved : (r.2.breakers.breaker "http:[::1]").state = .halfOpen := by decide +kernel
  have hrefused : (Sender.request.prepare node.config ctx s.session.now).isOk = false := by
    decide +kernel
  have hstart : s.session.elapsed = 0 := rfl
  -- from here on nothing may look into the node, which would run the parser of URLs
  clear_value node ctx s
  obtain ⟨e, hprepared⟩ : ∃ e, Sender.request.prepare node.config ctx s.session.now = .error e := by
    cases h : Sender.request.prepare node.config ctx s.session.now with
    | ok prepared => rw [h] at hrefused; cases hrefused
    | error e => exact ⟨e, rfl⟩
  obtain ⟨hunprepared, -, -⟩ := callGuarded_unsent .request counting bare node ctx s
  obtain ⟨-, hworld, halike, -⟩ := hunprepared e hprepared
  refine ⟨⟨e, hprepared⟩, hmoved, hworld, fun later => halike.state _ ?_⟩
  exact hstart ▸ Nat.zero_le later

/-- **A request that cannot be built opens a breaker**: with a blank in the name of a header nothing
is sent, and yet the resource is cut off. -/
theorem unbuildable_opens :
    let node := caller "http://[::1]/" "bad name"
    let ctx := bare.nodeContext node .null {}
    let s := untouched { rule := ⟨1, 60000⟩ }
    let r := bare.callGuarded node (Sender.request.handler counting) ctx s
    s.breakers.state "http:[::1]" 0 = .closed ∧
      r.2.session.world.host = 0 ∧ r.2.breakers.state "http:[::1]" 0 = .opened := by
  decide +kernel

end Walk

end FlowGraph
