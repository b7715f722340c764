import FlowGraph.Node.Standard
import FlowGraph.Proofs.Node.ContentType

/-! # The time limit of a request

A request waits for its reply as long as its draft says. Nothing that is added to a draft changes
the limit, so it is the one that the draft was started with: that of the settings, or the one that a
request node has in its own configuration. A webhook has none of its own.

* `Sender.ownLimit?` is the limit in the configuration of a node.
* `Sender.run_sent`: what the two nodes send comes from their configurations
  (`Sender.Prepares`), and `Sender.Prepares.timeoutSeconds` is the law for its limit.
* `Handler.IsQuiet`: all other standard handlers send nothing. -/

namespace FlowGraph

variable {ρ : Type}

namespace RequestDraft

variable (d : RequestDraft)

@[simp] theorem timeoutSeconds_header (name value : String) :
    (d.header name value).timeoutSeconds = d.timeoutSeconds := by
  unfold header
  split_ifs <;> rfl

@[simp] theorem timeoutSeconds_addHeaders (headers : List (String × String)) :
    (d.addHeaders headers).timeoutSeconds = d.timeoutSeconds := by
  induction headers generalizing d with
  | nil => rfl
  | cons h headers ih => exact (ih (d.header h.1 h.2)).trans (timeoutSeconds_header d h.1 h.2)

@[simp] theorem timeoutSeconds_query (pairs : List (String × String)) :
    (d.query pairs).timeoutSeconds = d.timeoutSeconds := rfl

@[simp] theorem timeoutSeconds_json (body : Json) :
    (d.json body).timeoutSeconds = d.timeoutSeconds := rfl

@[simp] theorem timeoutSeconds_ofUrl (method : String) (url : Url) (n : Nat) :
    (ofUrl method url n).timeoutSeconds = n := by
  unfold ofUrl
  split
  · rfl
  · rw [timeoutSeconds_header]

end RequestDraft

/-! ### Preparing a request -/

theorem RequestNode.timeoutSeconds_draft (c : Config) (method : String) (url : Url)
    (ctx : NodeContext) : (draft c method url ctx).timeoutSeconds =
      c.timeoutSeconds.getD ctx.settings.httpTimeoutSeconds := by
  unfold draft
  cases c.body <;> simp

theorem WebhookNode.timeoutSeconds_draft (c : Config) (url : Url) (ctx : NodeContext) :
    (draft c url ctx).timeoutSeconds = ctx.settings.httpTimeoutSeconds := by
  simp [draft]

/-- A token does not change the time limit. -/
theorem RequestNode.timeoutSeconds_authenticate {d d' : RequestDraft} {auth : Auth}
    {ctx : NodeContext} {now : Timestamp} (h : authenticate d auth ctx now = .ok d') :
    d'.timeoutSeconds = d.timeoutSeconds := by
  unfold authenticate at h
  split at h
  · cases h
    rfl
  · split at h
    · cases h
    · rw [addToken_eq] at h
      split at h
      · cases h
        exact RequestDraft.timeoutSeconds_header ..
      · cases h

namespace Sender

/-- **The time limit in the configuration of a node.** -/
def ownLimit? : Sender → Json → Option Nat
  | request, config =>
    (RequestNode.Config.decode (.ofJson config)).toOption.bind (·.timeoutSeconds)
  | webhook, _ => none

variable {kind : Sender} {config : Json} {ctx : NodeContext} {now : Timestamp} {d : RequestDraft}
  {url : String}

theorem timeoutSeconds_of_prepare (h : kind.prepare config ctx now = .ok (d, url)) :
    d.timeoutSeconds = (kind.ownLimit? config).getD ctx.settings.httpTimeoutSeconds := by
  cases kind with
  | request =>
    change RequestNode.prepare config ctx now = .ok (d, url) at h
    obtain ⟨c, method, u, hconfig, -, hauth⟩ := RequestNode.prepare_eq_ok h
    rw [RequestNode.timeoutSeconds_authenticate hauth, RequestNode.timeoutSeconds_draft, ownLimit?,
      hconfig]
    rfl
  | webhook =>
    change WebhookNode.prepare config ctx now = .ok (d, url) at h
    obtain ⟨c, u, -, -, hauth⟩ := WebhookNode.prepare_eq_ok h
    rw [RequestNode.timeoutSeconds_authenticate hauth, WebhookNode.timeoutSeconds_draft]
    rfl

/-- **A request comes from a configuration**, in some context and at some time. -/
def Prepares (kind : Sender) (config : Json) (ctx : NodeContext) (q : Request) : Prop :=
  ∃ now d url, kind.prepare config ctx now = .ok (d, url) ∧ d.build = .ok q

/-- **The time limit of a request** is the one in the configuration of the node, or that of the
settings if there is none. -/
theorem Prepares.timeoutSeconds {q : Request} (h : kind.Prepares config ctx q) :
    q.timeoutSeconds = (kind.ownLimit? config).getD ctx.settings.httpTimeoutSeconds := by
  obtain ⟨now, d, url, hprepare, hbuild⟩ := h
  obtain ⟨-, rfl⟩ := RequestDraft.build_eq_ok hbuild
  exact timeoutSeconds_of_prepare hprepare

/-- A call sends one request at most, which comes from its configuration. -/
theorem run_sent (kind : Sender) (t : Transport ρ) (config : Json) (ctx : NodeContext)
    (w : World (Mailbox ρ)) :
    let sent := (kind.run t.recorded config ctx w).2.host.sent
    sent = w.host.sent ∨ ∃ q, sent = q :: w.host.sent ∧ kind.Prepares config ctx q := by
  intro sent
  cases hprepare : kind.prepare config ctx w.clock.wall with
  | error e =>
    have hran : kind.run t.recorded config ctx w = (.error e, w) := run_of_prepare_error hprepare
    exact Or.inl (congrArg (·.2.host.sent) hran)
  | ok prepared =>
    obtain ⟨d, url⟩ := prepared
    have hworld : sent = (d.send t.recorded w).2.host.sent :=
      congrArg (·.host.sent) (world_of_send hprepare)
    rcases RequestDraft.sent_built t d w with hnone | ⟨q, hbuild, hsent⟩
    · exact Or.inl (hworld.trans hnone)
    · exact Or.inr ⟨q, hworld.trans hsent, _, d, url, hprepare, hbuild⟩

end Sender

/-! ### The other handlers -/

/-- **A handler that sends nothing.** -/
def Handler.IsQuiet (h : Handler (Mailbox ρ)) : Prop :=
  ∀ run, h.behaviour = .call run → ∀ config ctx w, (run config ctx w).2.host.sent = w.host.sent

theorem Handler.isQuiet_of_fallible {h : Handler (Mailbox ρ)}
    {f : Json → NodeContext → Except Error NodeResult} (hbehaviour : h.behaviour = .fallible f) :
    h.IsQuiet := by
  intro run hrun
  obtain rfl := Behaviour.call.inj (hbehaviour.symm.trans hrun)
  exact fun _ _ _ => rfl

/-- A wait sends nothing. -/
theorem Delay.isQuiet_handler (pause : Pause) : (Delay.handler (Mailbox ρ) pause).IsQuiet := by
  rintro run ⟨⟩ config ctx w
  unfold Delay.run
  cases Delay.duration config ctx with
  | error e => rfl
  | ok ms =>
    simp only
    split_ifs <;> rfl

/-- Of the standard handlers, those of the two nodes that send requests are the only ones that are
not quiet. -/
theorem isQuiet_of_mem_standardHandlers {t : Transport (Mailbox ρ)} {pause : Pause}
    {h : Handler (Mailbox ρ)} (hmem : h ∈ standardHandlers t pause) :
    h.IsQuiet ∨ ∃ kind : Sender, h = kind.handler t := by
  simp only [standardHandlers, List.mem_cons, List.not_mem_nil, or_false] at hmem
  rcases hmem with rfl | rfl | rfl | rfl | rfl | rfl | rfl | rfl | rfl | rfl | rfl | rfl
  -- the triggers, the nodes that steer a run, those that hold data, and the others
  · exact .inl (Handler.isQuiet_of_fallible rfl)
  · exact .inl (Handler.isQuiet_of_fallible rfl)
  · exact .inl (Handler.isQuiet_of_fallible rfl)
  · exact .inl (Handler.isQuiet_of_fallible rfl)
  · exact .inl (Handler.isQuiet_of_fallible rfl)
  · exact .inl (Handler.isQuiet_of_fallible rfl)
  · exact .inl (Handler.isQuiet_of_fallible rfl)
  · exact .inl (Handler.isQuiet_of_fallible rfl)
  · exact .inl (Delay.isQuiet_handler pause)
  · exact .inr ⟨.request, rfl⟩
  · exact .inr ⟨.webhook, rfl⟩
  · refine .inl fun run hrun => ?_
    cases hrun

end FlowGraph
