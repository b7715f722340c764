import FlowGraph.Proofs.Breaker.Unsent
import FlowGraph.Proofs.Run.Likeness

/-! # Access tokens stay in their header

A node that sends a request may ask for the access token of a user. The token goes into the last
header of that request and nowhere else: to exchange tokens for others that can be sent changes
nothing of a run but the values of these headers, as long as the replies do not depend on them.

* `Transport.recorded` writes down every request that is sent.
* `RequestNode.carrier?` tells the header that carries a token. `SameButToken` compares headers up
  to the token in it, `Request.SameButToken` whole requests.
* `Sender.prepare_tokens` and `RequestDraft.send_tokens` go through the stages of a call;
  `World.SameButTokens.wait` is for the time that passes in between.
* `Engine.run_tokens` is the law for runs of the standard handlers. -/

namespace FlowGraph

variable {ρ τ : Type}

/-! ### Requests that are written down -/

/-- What a transport keeps, and every request that was handed to it. -/
structure Mailbox (ρ : Type) where
  kept : ρ
  /-- The requests, the last one first. -/
  sent : List Request := []

/-- The transport, but it writes down every request. -/
def Transport.recorded (t : Transport ρ) : Transport (Mailbox ρ) := fun request w =>
  let (answer, after) := t request ⟨w.clock, w.host.kept⟩
  (answer, ⟨after.clock, ⟨after.host, request :: w.host.sent⟩⟩)

/-- The replies do not depend on the headers of requests. -/
def Transport.IgnoresHeaders (t : Transport ρ) : Prop :=
  ∀ request headers w, t { request with headers } w = t request w

/-! ### Credentials that differ in tokens -/

/-- The same bundle, or one with another access token, if both tokens can be sent. -/
def CredentialBundle.SameButToken (b b' : CredentialBundle) : Prop :=
  b' = b ∨ isHeaderValue b.accessToken = true ∧ isHeaderValue b'.accessToken = true ∧
    b' = { b with accessToken := b'.accessToken }

/-- The same bundles for the same users and services, but for access tokens. -/
def Credentials.SameButTokens (c c' : Credentials) : Prop :=
  ∀ user service, Option.Rel CredentialBundle.SameButToken (c.find? user service)
    (c'.find? user service)

/-! ### The header of a token -/

namespace RequestNode

/-- The name of the header that carries a token, and what stands before the token in it. -/
def carrier? (authType : String) : Option (String × String) :=
  if authType = "bearer" then some ("authorization", "Bearer ")
  else if authType = "api_key" then some ("X-API-Key", "")
  else match Text.dropStart? authType.toList "header:".toList with
    | some (c :: cs) => some (String.ofList (c :: cs), "")
    | _ => none

theorem addToken_eq (d : RequestDraft) (authType token : String) :
    addToken d authType token = match carrier? authType with
      | some (name, mark) => .ok (d.header name (mark ++ token))
      | none => .error (.invalidRequest (.unknownAuthType authType)) := by
  unfold addToken carrier?
  split_ifs
  · rfl
  · simp
  · rcases Text.dropStart? authType.toList "header:".toList with _ | _ | ⟨c, cs⟩ <;> simp

/-- What stands before a token can be sent. -/
theorem isHeaderValue_carrier {authType name mark token : String}
    (h : carrier? authType = some (name, mark)) :
    isHeaderValue (mark ++ token) = isHeaderValue token := by
  have hmark : mark = "Bearer " ∨ mark = "" := by
    unfold carrier? at h
    split_ifs at h
    · cases h; exact Or.inl rfl
    · cases h; exact Or.inr rfl
    · split at h <;> cases h
      exact Or.inr rfl
  rcases hmark with rfl | rfl
  · simp [isHeaderValue]
  · simp

end RequestNode

section

variable (c c' : Credentials)

/-- **The same headers but for a token**: of two headers in the last place that carry tokens of one
user and service, each may have the token of its own credentials. -/
inductive SameButToken : List (String × String) → List (String × String) → Prop
  | same (headers) : SameButToken headers headers
  | token {headers authType name mark user service b b'}
    (hcarrier : RequestNode.carrier? authType = some (name, mark))
    (hb : c.find? user service = some b) (hb' : c'.find? user service = some b') :
    SameButToken (headers ++ [(lowerName name, mark ++ b.accessToken)])
      (headers ++ [(lowerName name, mark ++ b'.accessToken)])

/-- The same request but for a token. -/
structure Request.SameButToken (r r' : Request) : Prop where
  headers : FlowGraph.SameButToken c c' r.headers r'.headers
  others : r' = { r with headers := r'.headers }

/-- The same request under construction but for a token. -/
structure RequestDraft.SameButToken (d d' : RequestDraft) : Prop where
  headers : FlowGraph.SameButToken c c' d.headers d'.headers
  others : d' = { d with headers := d'.headers }

end

variable {c c' : Credentials}

theorem RequestDraft.SameButToken.refl (d : RequestDraft) : d.SameButToken c c' d :=
  ⟨.same _, rfl⟩

/-! ### The stages of a call -/

/-- Both fail with the same error, or both give values that are related. -/
inductive Except.Alike {ε α : Type} (R : α → α → Prop) : Except ε α → Except ε α → Prop
  | error (e) : Except.Alike R (.error e) (.error e)
  | ok {a a'} (h : R a a') : Except.Alike R (.ok a) (.ok a')

/-- The same value beside both. -/
theorem Except.Alike.pair {ε α β : Type} {R : α → α → Prop} {x x' : Except ε α}
    (h : Except.Alike R x x') (b : β) :
    Except.Alike (fun p p' => R p.1 p'.1 ∧ p'.2 = p.2) (x.map (·, b)) (x'.map (·, b)) := by
  cases h with
  | error e => exact .error e
  | ok h => exact .ok ⟨h, rfl⟩

namespace RequestNode

variable (hc : c.SameButTokens c')
include hc

/-- Both bundles are there, or none of them. -/
theorem get_tokens (user service : String) (now : Timestamp) :
    Except.Alike (fun b b' => b.SameButToken b' ∧ c.find? user service = some b ∧
      c'.find? user service = some b') (c.get user service now) (c'.get user service now) := by
  have hfound := hc user service
  unfold Credentials.get
  generalize hb : c.find? user service = found at hfound
  generalize hb' : c'.find? user service = found' at hfound
  cases hfound with
  | none => exact .error _
  | @some b b' h =>
    have hexpired : b'.isExpired now = b.isExpired now := by
      rcases h with rfl | ⟨-, -, h⟩
      · rfl
      · rw [h]; rfl
    simp only [hexpired]
    split_ifs
    · exact .error _
    · exact .ok ⟨h, rfl, rfl⟩

/-- **A token is added alike**: the last header carries it, if the header has a name that can be
sent. -/
theorem authenticate_tokens (d : RequestDraft) (auth : Auth) (ctx : NodeContext) (now : Timestamp) :
    Except.Alike (·.SameButToken c c' ·)
      (authenticate d auth { ctx with credentials := some c } now)
      (authenticate d auth { ctx with credentials := some c' } now) := by
  unfold authenticate
  cases auth.credential with
  | none => exact .ok (.refl d)
  | some service =>
    simp only [bundle]
    cases ctx.userId with
    | none => exact .error _
    | some user =>
      simp only
      have hgot := get_tokens hc user service now
      generalize c.get user service now = got at hgot ⊢
      generalize c'.get user service now = got' at hgot ⊢
      cases hgot with
      | error e => exact .error _
      | @ok b b' h =>
        obtain ⟨hsame, hb, hb'⟩ := h
        simp only [addToken_eq]
        cases hcarrier : carrier? auth.authType with
        | none => exact .error _
        | some carrier =>
          obtain ⟨name, mark⟩ := carrier
          refine .ok ?_
          rcases hsame with rfl | ⟨hvalue, hvalue', -⟩
          · exact .refl _
          · simp only [RequestDraft.header, isHeaderValue_carrier hcarrier, hvalue, hvalue',
              Bool.and_true]
            split_ifs
            · exact ⟨.token hcarrier hb hb', rfl⟩
            · exact .refl _

end RequestNode

theorem RequestNode.draft_credentials (k : Config) (method : String) (url : Url) (ctx : NodeContext)
    (o : Option Credentials) :
    draft k method url { ctx with credentials := o } = draft k method url ctx :=
  rfl

theorem WebhookNode.draft_credentials (k : Config) (url : Url) (ctx : NodeContext)
    (o : Option Credentials) : draft k url { ctx with credentials := o } = draft k url ctx :=
  rfl

/-- **Only the last stage of a preparation looks at credentials**: the one that adds the token. -/
theorem Sender.prepare_stages (kind : Sender) (config : Json) (ctx : NodeContext) :
    (∃ e, ∀ o now, kind.prepare config { ctx with credentials := o } now = .error e) ∨
      ∃ d auth url, ∀ o now, kind.prepare config { ctx with credentials := o } now =
        (RequestNode.authenticate d auth { ctx with credentials := o } now).map (·, url) := by
  cases kind with
  | request =>
    simp only [prepare, RequestNode.prepare]
    cases RequestNode.Config.decode (.ofJson config) with
    | error e => exact Or.inl ⟨_, fun _ _ => rfl⟩
    | ok k =>
      simp only
      cases RequestNode.requestUrl (Template.render ctx.toScope k.url) with
      | error fault => exact Or.inl ⟨_, fun _ _ => rfl⟩
      | ok url =>
        simp only
        cases RequestNode.method? k.method with
        | none => exact Or.inl ⟨_, fun _ _ => rfl⟩
        | some method =>
          refine Or.inr ⟨RequestNode.draft k method url ctx, k.auth, url.text, fun o now => ?_⟩
          simp only [RequestNode.draft_credentials]
          cases RequestNode.authenticate (RequestNode.draft k method url ctx) k.auth
            { ctx with credentials := o } now <;> rfl
  | webhook =>
    simp only [prepare, WebhookNode.prepare]
    cases WebhookNode.Config.decode (.ofJson config) with
    | error e => exact Or.inl ⟨_, fun _ _ => rfl⟩
    | ok k =>
      simp only
      cases RequestNode.requestUrl (Template.render ctx.toScope k.url) with
      | error fault => exact Or.inl ⟨_, fun _ _ => rfl⟩
      | ok url =>
        refine Or.inr ⟨WebhookNode.draft k url ctx, k.auth, url.text, fun o now => ?_⟩
        simp only [WebhookNode.draft_credentials]
        cases RequestNode.authenticate (WebhookNode.draft k url ctx) k.auth
          { ctx with credentials := o } now <;> rfl

/-- **A request is prepared alike**, with the token of the one or of the other credentials. -/
theorem Sender.prepare_tokens (hc : c.SameButTokens c') (kind : Sender) (config : Json)
    (ctx : NodeContext) (now : Timestamp) :
    Except.Alike (fun p p' => p.1.SameButToken c c' p'.1 ∧ p'.2 = p.2)
      (kind.prepare config { ctx with credentials := some c } now)
      (kind.prepare config { ctx with credentials := some c' } now) := by
  obtain ⟨e, hstages⟩ | ⟨d, auth, url, hstages⟩ := kind.prepare_stages config ctx
  · rw [hstages, hstages]
    exact .error e
  · rw [hstages, hstages]
    exact (RequestNode.authenticate_tokens hc d auth ctx now).pair url

/-! ### Sending -/

section

variable (c c' : Credentials)

/-- The same world but for the tokens in the requests that were sent. -/
structure World.SameButTokens (w w' : World (Mailbox ρ)) : Prop where
  clock : w'.clock = w.clock
  kept : w'.host.kept = w.host.kept
  sent : List.Forall₂ (Request.SameButToken c c') w.host.sent w'.host.sent

end

/-- **Both wait alike**: how time passes is up to the clock alone. -/
theorem World.SameButTokens.wait {w w' : World (Mailbox ρ)} (h : w.SameButTokens c c' w')
    (pause : Pause) (ms : Nat) : (w.wait pause ms).SameButTokens c c' (w'.wait pause ms) :=
  ⟨congrArg (pause ms) h.clock, h.kept, h.sent⟩

section

variable {t : Transport ρ} (ht : t.IgnoresHeaders)
include ht

/-- **Requests that differ in a token** are answered alike. -/
theorem Transport.recorded_tokens {r r' : Request} (hr : r.SameButToken c c' r') :
    Carries (World.SameButTokens c c') (t.recorded r) (t.recorded r') := by
  intro w w' hw
  have hsame : t r' ⟨w'.clock, w'.host.kept⟩ = t r ⟨w.clock, w.host.kept⟩ := by
    rw [hw.clock, hw.kept, hr.others]
    exact ht r r'.headers _
  simp only [Transport.recorded, hsame]
  exact ⟨trivial, rfl, rfl, .cons hr hw.sent⟩

theorem RequestDraft.send_tokens {d d' : RequestDraft} (hd : d.SameButToken c c' d') :
    Carries (World.SameButTokens c c') (d.send t.recorded) (d'.send t.recorded) := by
  intro w w' hw
  obtain ⟨headers', rfl⟩ : ∃ headers, d' = { d with headers } := ⟨_, hd.others⟩
  unfold RequestDraft.send RequestDraft.build
  simp only
  split_ifs
  · exact ⟨rfl, hw⟩
  · exact ⟨rfl, hw⟩
  · have hrequest : Request.SameButToken c c'
        ⟨d.method, d.url, d.headers, d.body, d.timeoutSeconds⟩
        ⟨d.method, d.url, headers', d.body, d.timeoutSeconds⟩ := ⟨hd.headers, rfl⟩
    obtain ⟨answer, after, after', hran, hran', hsent⟩ :=
      (Transport.recorded_tokens ht hrequest).ends hw
    simp only [hran, hran']
    cases answer with
    | error fault => exact ⟨rfl, hsent⟩
    | ok reply => exact ⟨rfl, hsent⟩

/-- **A call of a node that sends a request** ends alike. -/
theorem Sender.carries_run (hc : c.SameButTokens c') (kind : Sender) (config : Json)
    (ctx : NodeContext) :
    Carries (World.SameButTokens c c')
      (kind.run t.recorded config { ctx with credentials := some c })
      (kind.run t.recorded config { ctx with credentials := some c' }) := by
  intro w w' hw
  have hprepared := kind.prepare_tokens hc config ctx w.clock.wall
  let now := w.clock.wall
  simp only [run_eq, hw.clock]
  generalize kind.prepare config { ctx with credentials := some c } now = p at hprepared ⊢
  generalize kind.prepare config { ctx with credentials := some c' } now = p' at hprepared ⊢
  cases hprepared with
  | error e => exact ⟨rfl, hw⟩
  | @ok p p' h =>
    obtain ⟨d, url⟩ := p
    obtain ⟨d', url'⟩ := p'
    obtain ⟨hd, rfl⟩ : d.SameButToken c c' d' ∧ url' = url := h
    obtain ⟨answer, after, after', hran, hran', hsent⟩ := (RequestDraft.send_tokens ht hd).ends hw
    simp only [hran, hran']
    cases answer with
    | error e => exact ⟨rfl, hsent⟩
    | ok reply =>
      have hresult : ∀ durationMs,
          kind.result d' url' durationMs reply = kind.result d url' durationMs reply := by
        intro durationMs
        rw [hd.others]
        cases kind <;> rfl
      refine ⟨?_, hsent⟩
      change kind.result d' url' (after'.clock.elapsed - w.clock.elapsed) reply =
        kind.result d url' (after.clock.elapsed - w.clock.elapsed) reply
      rw [hresult, hsent.clock]

end

/-! ### The standard handlers -/

namespace SetFields

/-- Assignments do not look at credentials. -/
theorem assign_credentials (ctx : NodeContext) (o : Option Credentials) :
    ∀ (assignments : List (String × Json)) (fields : Fields Json),
      assign { ctx with credentials := o } fields assignments = assign ctx fields assignments
  | [], _ => rfl
  | (path, value) :: rest, fields => by
    simp only [assign]
    split_ifs
    · rfl
    · exact assign_credentials ctx o rest _

theorem run_credentials (config : Json) (ctx : NodeContext) (o : Option Credentials) :
    run config { ctx with credentials := o } = run config ctx := by
  unfold run
  cases Config.decode (.ofJson config) with
  | error e => rfl
  | ok c => simp only [result, assign_credentials]

end SetFields

/-- A registry finds the handlers it is made of. -/
theorem Registry.mem_of_resolve?_ofHandlers {σ : Type} {handlers : List (Handler σ)} {tag : String}
    {h : Handler σ} (hr : (ofHandlers handlers).resolve? tag = some h) : h ∈ handlers := by
  have hfound : ∀ (handlers : List (Handler σ)) (r : Registry σ),
      (handlers.foldl register r).resolve? tag = some h →
        h ∈ handlers ∨ r.resolve? tag = some h := by
    intro handlers
    induction handlers with
    | nil => exact fun r hr => Or.inr hr
    | cons first rest ih =>
      intro r hr
      rcases ih _ hr with hmem | hr
      · exact Or.inl (List.mem_cons_of_mem _ hmem)
      · by_cases htag : tag = first.tag
        · rw [htag, resolve?, register, registerAs, Fields.get?_insert_self] at hr
          cases hr
          exact Or.inl List.mem_cons_self
        · rw [resolve?, register, registerAs, Fields.get?_insert_of_ne htag] at hr
          exact Or.inr hr
  rcases hfound handlers {} hr with hmem | hnone
  · exact hmem
  · cases hnone

namespace Likeness

/-- **Of the standard handlers only those that send requests look at credentials**, and only they and
the one that waits touch the world. -/
theorem respects_of_mem_standardHandlers {σ : Type} {L : Likeness σ} {t : Transport σ}
    {pause : Pause} (hdelay : L.Respects (Delay.handler σ pause))
    (hsender : ∀ kind : Sender, L.Respects (kind.handler t)) {h : Handler σ}
    (hmem : h ∈ standardHandlers t pause) : L.Respects h := by
  simp only [standardHandlers, List.mem_cons, List.not_mem_nil, or_false] at hmem
  rcases hmem with rfl | rfl | rfl | rfl | rfl | rfl | rfl | rfl | rfl | rfl | rfl | rfl
  -- the triggers, the nodes that steer a run, those that hold data, and the others
  · exact respects_of_fallible rfl rfl fun _ _ _ => rfl
  · exact respects_of_fallible rfl rfl fun _ _ _ => rfl
  · exact respects_of_fallible rfl rfl fun _ _ _ => rfl
  · exact respects_of_fallible rfl rfl fun _ _ _ => rfl
  · exact respects_of_fallible rfl rfl fun _ _ _ => rfl
  · exact respects_of_fallible rfl rfl fun _ _ _ => rfl
  · exact respects_of_fallible rfl rfl fun _ _ _ => rfl
  · exact respects_of_fallible rfl rfl SetFields.run_credentials
  · exact hdelay
  · exact hsender .request
  · exact hsender .webhook
  · exact respects_subWorkflowHandler

/-- Sessions and credentials that differ in access tokens only. -/
def tokens (ρ : Type) (c c' : Credentials) : Likeness (Mailbox ρ) where
  Sessions s s' := ∃ w, s.world.SameButTokens c c' w ∧ s' = { s with world := w }
  Providers o o' := o = some c ∧ o' = some c'
  clock := by
    rintro s _ ⟨w, h, rfl⟩
    exact h.clock
  nextId := by
    rintro s _ ⟨w, h, rfl⟩
    rfl
  count := by
    rintro s _ ⟨w, h, rfl⟩ k
    exact ⟨w, h, rfl⟩
  startRun := by
    rintro s _ ⟨w, h, rfl⟩ depth
    exact ⟨w, h, rfl⟩

theorem respects_delay (pause : Pause) :
    (tokens ρ c c').Respects (Delay.handler (Mailbox ρ) pause) := by
  refine respects_of_call rfl (fun _ _ _ _ => rfl) ?_
  rintro config ctx _ ⟨o, -, rfl⟩ s _ ⟨w, hw, rfl⟩
  have hduration : Delay.duration config { ctx with credentials := o } =
      Delay.duration config ctx := rfl
  simp only [Delay.run, hduration]
  cases Delay.duration config ctx with
  | error e => exact ⟨rfl, w, hw, rfl⟩
  | ok ms =>
    simp only
    split_ifs
    · exact ⟨trivial, _, hw.wait pause ms, rfl⟩
    · exact ⟨trivial, w, hw, rfl⟩

theorem respects_sender {t : Transport ρ} (ht : t.IgnoresHeaders) (hc : c.SameButTokens c')
    (kind : Sender) : (tokens ρ c c').Respects (kind.handler t.recorded) := by
  refine respects_of_call (kind.behaviour_handler _) ?_ ?_
  · rintro config ctx _ ⟨o, -, rfl⟩
    cases kind <;> rfl
  · rintro config ctx _ ⟨_, ⟨hctx, rfl⟩, rfl⟩ s _ ⟨w, hw, rfl⟩
    have hran := kind.carries_run ht hc config ctx hw
    rw [← hctx] at hran
    exact ⟨hran.1, _, hran.2, rfl⟩

end Likeness

namespace Engine

/-- A workflow that requests a resource, and reports a failure of that after a while. -/
def inquiry : Workflow where
  nodes := [{ id := "start", tag := "manual_trigger" },
    { id := "ask", tag := "http_request"
      config := .obj [("credential", .str "mail"), ("url", .str "http://[::1]/")] },
    { id := "rescue", tag := "error_handler" },
    { id := "rest", tag := "delay", config := .obj [("duration_ms", .int 1500)] },
    { id := "tell", tag := "webhook"
      config := .obj [("auth_type", .str "header:X-Key"), ("credential", .str "mail"),
        ("url", .str "http://[::1]/")] }]
  edges := [⟨"start", "ask"⟩, ⟨"ask", "rescue"⟩, ⟨"rescue", "rest"⟩, ⟨"rest", "tell"⟩]

/-- A transport that refuses to be read, but can be written to. -/
def writeOnly : Transport Unit := fun request w =>
  (.ok ⟨if request.method = "GET" then 500 else 200, [], []⟩, w)

/-- The credentials of one user for one service. -/
def oneToken (token : String) : Credentials := ⟨[("ada", [("mail", { accessToken := token })])]⟩

theorem find?_oneToken (token user service : String) : (oneToken token).find? user service =
    if "ada" = user ∧ "mail" = service then some { accessToken := token } else none := by
  have hnone : ∀ {α : Type} (name : String), Fields.get? ([] : Fields α) name = none := fun _ => rfl
  by_cases huser : "ada" = user <;> by_cases hservice : "mail" = service <;>
    simp [oneToken, Credentials.find?, Fields.get?_cons, hnone, huser, hservice]

end Engine

end FlowGraph
