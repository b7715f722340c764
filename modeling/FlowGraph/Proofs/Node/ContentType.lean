import FlowGraph.Proofs.Run.Tokens

/-! # The content type of a request

Headers add up while a request is built, except that a JSON body brings its content type only if
there is none yet. So it matters when the body is set. A request node sets it behind the headers of
its configuration, and a content type among them is the only one; a webhook sets it before them, and
its own content type stays in front of any other.

* `RequestDraft.headers_addHeaders`: a draft that can be sent has all headers that were added to it.
* `RequestDraft.contentTypes_json` is the rule for a JSON body.
* `Sender.run_contentTypes` is the law for whatever the two nodes send; `Sender.webhook_contentTypes`
  has a webhook that sends two content types. -/

namespace FlowGraph

variable {ρ : Type}

/-! ### Headers of a draft -/

/-- The values of the headers with a content type, in their order. -/
def contentTypes (headers : List (String × String)) : List String :=
  (headers.filter fun h => h.1 == RequestDraft.jsonType.1).map (·.2)

/-- A header as it is sent: its name in small letters. -/
def sentHeader (h : String × String) : String × String := (lowerName h.1, h.2)

theorem contentTypes_append (headers more : List (String × String)) :
    contentTypes (headers ++ more) = contentTypes headers ++ contentTypes more := by
  simp [contentTypes]

namespace RequestDraft

variable {d d' : RequestDraft}

/-- A draft that can be sent has the header that was added last. -/
theorem headers_header {h : String × String} (hsound : (d.header h.1 h.2).isSound) :
    d.isSound ∧ (d.header h.1 h.2).headers = d.headers ++ [sentHeader h] := by
  unfold header at hsound ⊢
  split_ifs at hsound ⊢
  exact ⟨hsound, rfl⟩

/-- **A draft that can be sent has all headers** that were added to it. -/
theorem headers_addHeaders {headers : List (String × String)}
    (hsound : (d.addHeaders headers).isSound) :
    d.isSound ∧ (d.addHeaders headers).headers = d.headers ++ headers.map sentHeader := by
  induction headers generalizing d with
  | nil => exact ⟨hsound, (List.append_nil _).symm⟩
  | cons h headers ih =>
    have hfold : d.addHeaders (h :: headers) = (d.header h.1 h.2).addHeaders headers := rfl
    rw [hfold] at hsound ⊢
    obtain ⟨hfirst, hrest⟩ := ih hsound
    obtain ⟨hd, hheader⟩ := headers_header hfirst
    exact ⟨hd, by rw [hrest, hheader, List.append_assoc]; rfl⟩

/-- A new request has no content type. -/
theorem contentTypes_ofUrl (method : String) (url : Url) (timeoutSeconds : Nat) :
    contentTypes (ofUrl method url timeoutSeconds).headers = [] := by
  unfold ofUrl
  cases url.user? with
  | none => rfl
  | some user =>
    obtain ⟨name, password⟩ := user
    simp only [header]
    split_ifs
    · have hname : lowerName "authorization" = "authorization" := by decide
      simp [contentTypes, hname, jsonType]
    · rfl

/-- **A JSON body brings its content type** only if there is none yet. -/
theorem contentTypes_json (d : RequestDraft) (body : Json) :
    contentTypes (d.json body).headers =
      if contentTypes d.headers = [] then [jsonType.2] else contentTypes d.headers := by
  have hany : (d.headers.any fun h => h.1 == jsonType.1) = true ↔ contentTypes d.headers ≠ [] := by
    simp [contentTypes, List.filter_eq_nil_iff]
  unfold json
  simp only
  by_cases hnone : contentTypes d.headers = []
  · have hfew : ¬ (d.headers.any fun h => h.1 == jsonType.1) = true := fun h => hany.mp h hnone
    rw [if_neg hfew, if_pos hnone, contentTypes_append, hnone]
    rfl
  · rw [if_pos (hany.mpr hnone), if_neg hnone]

/-- A draft that can be sent gives its parts as they are. -/
theorem build_eq_ok {r : Request} (h : d.build = .ok r) :
    d.isSound ∧ r = ⟨d.method, d.url, d.headers, d.body, d.timeoutSeconds⟩ := by
  unfold build at h
  split_ifs at h with hsound
  cases h
  exact ⟨by simpa using hsound, rfl⟩

/-- What is sent is the request that the draft gives. -/
theorem sent_built (t : Transport ρ) (d : RequestDraft) (w : World (Mailbox ρ)) :
    (d.send t.recorded w).2.host.sent = w.host.sent ∨
      ∃ r, d.build = .ok r ∧ (d.send t.recorded w).2.host.sent = r :: w.host.sent := by
  unfold send
  cases hbuild : d.build with
  | error fault => exact Or.inl rfl
  | ok request =>
    refine Or.inr ⟨request, rfl, ?_⟩
    have hsent : (t.recorded request w).2.host.sent = request :: w.host.sent := rfl
    simp only
    split <;> next heq => rw [← hsent, heq]

/-- What is sent has the headers of the draft. -/
theorem sent_recorded (t : Transport ρ) (d : RequestDraft) (w : World (Mailbox ρ)) :
    (d.send t.recorded w).2.host.sent = w.host.sent ∨
      ∃ r : Request, d.isSound ∧ r.headers = d.headers ∧
        (d.send t.recorded w).2.host.sent = r :: w.host.sent := by
  refine (sent_built t d w).imp_right ?_
  rintro ⟨r, hbuild, hsent⟩
  obtain ⟨hsound, rfl⟩ := build_eq_ok hbuild
  exact ⟨_, hsound, rfl, hsent⟩

end RequestDraft

/-! ### Preparations that succeed -/

/-- A prepared request is the draft of its configuration, with the token that it asks for. -/
theorem RequestNode.prepare_eq_ok {config : Json} {ctx : NodeContext} {now : Timestamp}
    {d : RequestDraft} {url : String} (h : prepare config ctx now = .ok (d, url)) :
    ∃ c method u, Config.decode (.ofJson config) = .ok c ∧ url = u.text ∧
      authenticate (draft c method u ctx) c.auth ctx now = .ok d := by
  unfold prepare at h
  split at h
  · cases h
  · next c hconfig =>
    split at h
    · cases h
    · next u _ =>
      split at h
      · cases h
      · next method _ =>
        split at h
        · cases h
        · next hauth =>
          cases h
          exact ⟨c, method, u, hconfig, rfl, hauth⟩

theorem WebhookNode.prepare_eq_ok {config : Json} {ctx : NodeContext} {now : Timestamp}
    {d : RequestDraft} {url : String} (h : prepare config ctx now = .ok (d, url)) :
    ∃ c u, Config.decode (.ofJson config) = .ok c ∧ url = u.text ∧
      RequestNode.authenticate (draft c u ctx) c.auth ctx now = .ok d := by
  unfold prepare at h
  split at h
  · cases h
  · next c hconfig =>
    split at h
    · cases h
    · next u _ =>
      split at h
      · cases h
      · next hauth =>
        cases h
        exact ⟨c, u, hconfig, rfl, hauth⟩

/-! ### What a configuration asks for -/

/-- What a configuration says of the headers and the body of its request. -/
structure Sender.Plan where
  headers : Fields Json
  auth : RequestNode.Auth
  hasBody : Bool

namespace Sender

/-- The plan of a configuration. A webhook always has a body. -/
def plan : Sender → Json → Decoded Plan
  | request, config => (RequestNode.Config.decode (.ofJson config)).map fun c =>
      ⟨c.headers, c.auth, c.body.isSome⟩
  | webhook, config => (WebhookNode.Config.decode (.ofJson config)).map fun c =>
      ⟨c.headers, c.auth, true⟩

namespace Plan

/-- The resolved values of the headers that give a content type. -/
def configured (p : Plan) (ctx : NodeContext) : List String :=
  contentTypes ((RequestNode.resolvedPairs ctx p.headers).map sentHeader)

/-- Whether the header of a credential would be a content type. -/
def CarriesContentType (p : Plan) : Prop :=
  p.auth.credential.isSome ∧ ∃ name mark,
    RequestNode.carrier? p.auth.authType = some (name, mark) ∧
      lowerName name = RequestDraft.jsonType.1

end Plan

/-- The content types that a node sends, of those that its configuration gives. -/
def contentTypesOf (kind : Sender) (hasBody : Bool) (configured : List String) : List String :=
  match kind with
  | request => if hasBody ∧ configured = [] then [RequestDraft.jsonType.2] else configured
  | webhook => RequestDraft.jsonType.2 :: configured

variable {p : Sender.Plan} {kind : Sender} {config : Json} {ctx : NodeContext} {now : Timestamp}
  {d d' : RequestDraft} {url : String}

/-! ### What is sent -/

/-- A token is no content type, unless it is told to be. -/
theorem contentTypes_authenticate (hauth : RequestNode.authenticate d p.auth ctx now = .ok d')
    (hcarrier : ¬ p.CarriesContentType) (hsound : d'.isSound) :
    d.isSound ∧ contentTypes d'.headers = contentTypes d.headers := by
  unfold RequestNode.authenticate at hauth
  cases hcredential : p.auth.credential with
  | none =>
    rw [hcredential] at hauth
    cases hauth
    exact ⟨hsound, rfl⟩
  | some service =>
    simp only [hcredential, RequestNode.addToken_eq] at hauth
    split at hauth
    · cases hauth
    · split at hauth
      · next name mark hname =>
        cases hauth
        obtain ⟨hd, hheaders⟩ := RequestDraft.headers_header (h := (name, _)) hsound
        have hother : lowerName name ≠ RequestDraft.jsonType.1 := fun heq =>
          hcarrier ⟨by rw [hcredential]; rfl, name, mark, hname, heq⟩
        refine ⟨hd, ?_⟩
        rw [hheaders, contentTypes_append]
        simp [contentTypes, sentHeader, hother]
      · cases hauth

/-- The content types of a request node before a token is added. -/
theorem contentTypes_requestDraft {c : RequestNode.Config} {method : String} {url : Url}
    (hsound : (RequestNode.draft c method url ctx).isSound) :
    contentTypes (RequestNode.draft c method url ctx).headers = contentTypesOf request c.body.isSome
      (contentTypes ((RequestNode.resolvedPairs ctx c.headers).map sentHeader)) := by
  unfold RequestNode.draft at hsound ⊢
  simp only at hsound ⊢
  generalize hnew : RequestDraft.ofUrl method url _ = new at hsound ⊢
  have hempty : contentTypes new.headers = [] := hnew ▸ RequestDraft.contentTypes_ofUrl ..
  -- the query and the body leave the draft as sound as it was
  have hadded : (new.addHeaders (RequestNode.resolvedPairs ctx c.headers)).isSound := by
    cases hbody : c.body <;> rw [hbody] at hsound <;> exact hsound
  obtain ⟨-, hheaders⟩ := RequestDraft.headers_addHeaders hadded
  have hconfigured :
      contentTypes (new.addHeaders (RequestNode.resolvedPairs ctx c.headers)).headers =
        contentTypes ((RequestNode.resolvedPairs ctx c.headers).map sentHeader) := by
    rw [hheaders, contentTypes_append, hempty, List.nil_append]
  cases hbody : c.body with
  | none =>
    simp only [contentTypesOf, Option.isSome_none, Bool.false_eq_true, false_and, if_false]
    exact hconfigured
  | some body =>
    simp only [contentTypesOf, Option.isSome_some, true_and]
    rw [← hconfigured]
    exact RequestDraft.contentTypes_json _ _

/-- The content types of a webhook before a token is added: its own is the first. -/
theorem contentTypes_webhookDraft {c : WebhookNode.Config} {url : Url}
    (hsound : (WebhookNode.draft c url ctx).isSound) :
    contentTypes (WebhookNode.draft c url ctx).headers = contentTypesOf webhook true
      (contentTypes ((RequestNode.resolvedPairs ctx c.headers).map sentHeader)) := by
  unfold WebhookNode.draft at hsound ⊢
  obtain ⟨-, hheaders⟩ := RequestDraft.headers_addHeaders hsound
  rw [hheaders, contentTypes_append, RequestDraft.contentTypes_json,
    RequestDraft.contentTypes_ofUrl, if_pos rfl]
  rfl

/-- **The content types of a prepared request.** -/
theorem contentTypes_of_prepare (h : kind.prepare config ctx now = .ok (d, url))
    (hsound : d.isSound) :
    ∃ p, kind.plan config = .ok p ∧ (¬ p.CarriesContentType →
      contentTypes d.headers = kind.contentTypesOf p.hasBody (p.configured ctx)) := by
  cases kind with
  | request =>
    change RequestNode.prepare config ctx now = .ok (d, url) at h
    obtain ⟨c, method, u, hconfig, -, hauth⟩ := RequestNode.prepare_eq_ok h
    refine ⟨⟨c.headers, c.auth, c.body.isSome⟩, by rw [plan, hconfig]; rfl, fun hcarrier => ?_⟩
    obtain ⟨hdraft, hsame⟩ := contentTypes_authenticate hauth hcarrier hsound
    rw [hsame, contentTypes_requestDraft hdraft]
    rfl
  | webhook =>
    change WebhookNode.prepare config ctx now = .ok (d, url) at h
    obtain ⟨c, u, hconfig, -, hauth⟩ := WebhookNode.prepare_eq_ok h
    refine ⟨⟨c.headers, c.auth, true⟩, by rw [plan, hconfig]; rfl, fun hcarrier => ?_⟩
    obtain ⟨hdraft, hsame⟩ := contentTypes_authenticate hauth hcarrier hsound
    rw [hsame, contentTypes_webhookDraft hdraft]
    rfl

/-- **The content types that are sent.** A call sends one request at most. Unless a credential is
told to go into a content type, a request node with a body sends the content types of its
configuration, and that of JSON if there are none; without a body it sends those of its configuration
alone. A webhook sends that of JSON first, and then those of its configuration. -/
theorem run_contentTypes (kind : Sender) (t : Transport ρ) (config : Json) (ctx : NodeContext)
    (w : World (Mailbox ρ)) :
    let sent := (kind.run t.recorded config ctx w).2.host.sent
    sent = w.host.sent ∨ ∃ (r : Request) (p : Plan), sent = r :: w.host.sent ∧
      kind.plan config = .ok p ∧ (¬ p.CarriesContentType →
        contentTypes r.headers = kind.contentTypesOf p.hasBody (p.configured ctx)) := by
  intro sent
  cases hprepare : kind.prepare config ctx w.clock.wall with
  | error e =>
    have hran : kind.run t.recorded config ctx w = (.error e, w) := run_of_prepare_error hprepare
    exact Or.inl (congrArg (·.2.host.sent) hran)
  | ok prepared =>
    obtain ⟨d, url⟩ := prepared
    have hworld : sent = (d.send t.recorded w).2.host.sent :=
      congrArg (·.host.sent) (world_of_send hprepare)
    rcases RequestDraft.sent_recorded t d w with hnone | ⟨r, hsound, hheaders, hsent⟩
    · exact Or.inl (hworld.trans hnone)
    · obtain ⟨p, hplan, hlaw⟩ := contentTypes_of_prepare hprepare hsound
      exact Or.inr ⟨r, p, hworld.trans hsent, hplan, fun hcarrier => hheaders ▸ hlaw hcarrier⟩

/-- A node that sends a JSON body to an address of its own, with a content type. -/
def labelled (body : String) : Json := .obj [
  (body, .int 1), ("headers", .obj [("Content-Type", .str "text/plain")]), ("method", .str "POST"),
  ("url", .str "http://[::1]/")]

/-- What a node finds that nothing came before. -/
def unprompted : NodeContext := {
  input := .null, vars := .obj [], outputs := [], nodeId := "call", executionId := "",
  workflowName := "" }

/-- A world in which nothing was sent. -/
def unasked : World (Mailbox Nat) := ⟨⟨⟨0, 0⟩, 0⟩, ⟨0, []⟩⟩

/-- A request node sends the one content type of its configuration. -/
theorem run_contentTypes_plain :
    ∃ r : Request, (request.run (Transport.recorded Walk.counting) (labelled "body") unprompted
      unasked).2.host.sent = [r] ∧ contentTypes r.headers = ["text/plain"] := by
  have hcount : (request.run (Transport.recorded Walk.counting) (labelled "body") unprompted
      unasked).2.host.sent.length = 1 := by decide +kernel
  have hlaw := run_contentTypes request Walk.counting (labelled "body") unprompted unasked
  rcases hlaw with hnone | ⟨r, p, hsent, hplan, hlaw⟩
  · rw [hnone] at hcount
    cases hcount
  · have hp : request.plan (labelled "body") =
        .ok ⟨[("Content-Type", .str "text/plain")], ⟨none, "bearer"⟩, true⟩ := rfl
    obtain rfl : _ = p := Except.ok.inj (hp.symm.trans hplan)
    exact ⟨r, hsent, hlaw fun hcarrier => nomatch hcarrier.1⟩

/-- **A webhook with two content types**: it sends that of JSON beside the one it was given. -/
theorem webhook_contentTypes :
    let sent := (webhook.run (Transport.recorded Walk.counting) (labelled "payload") unprompted
      unasked).2.host.sent
    ∃ p, webhook.plan (labelled "payload") = .ok p ∧ p.configured unprompted = ["text/plain"] ∧
      ¬ p.CarriesContentType ∧
      sent.map (fun r => contentTypes r.headers) = [["application/json", "text/plain"]] := by
  refine ⟨⟨[("Content-Type", .str "text/plain")], ⟨none, "bearer"⟩, true⟩, rfl, ?_, ?_, ?_⟩
  · decide +kernel
  · exact fun hcarrier => nomatch hcarrier.1
  · decide +kernel

end Sender

end FlowGraph
