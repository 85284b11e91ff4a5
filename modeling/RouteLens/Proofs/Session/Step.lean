import RouteLens.Session.Basic

/-!
# Steps of a session

What a step does to a session that serves (`Session.serves_dispatch`): it asks for lenses or for a
command, it reports something of a document, it ends the serving, or it leaves the server as it is.
A session that has ended serves no more.
-/

namespace RouteLens

/-- The request that a call makes, if its method and parameters are those of one. -/
def Call.request? (call : Call) : Option Request :=
  match Method.ofName call.method with
  | .request method => if call.notify then none else method.decode? call.params
  | _ => none

/-- What a call reports of a document, if it does. -/
def Call.report? (call : Call) : Option DocumentEvent :=
  match Method.ofName call.method with
  | .notification method =>
    if call.notify then match method.decode? call.params with
      | some (.document event) => some event
      | _ => none
    else none
  | _ => none

theorem Call.report?_notification {call : Call} {method : NotificationMethod}
    {event : DocumentEvent} (hmethod : Method.ofName call.method = .notification method)
    (hnotify : call.notify = true) (hdecode : method.decode? call.params = some (.document event)) :
    call.report? = some event := by
  rw [report?, hmethod]
  simp [hnotify, hdecode]

/-- What a step reports of a document, if it does. -/
def SessionStep.report? : SessionStep → Option DocumentEvent
  | .call made => made.report?
  | _ => none

/-- The request that a step makes, if it does. -/
def SessionStep.request? : SessionStep → Option Request
  | .call made => made.request?
  | _ => none

/-- The messages that go to the client with an answer. -/
def SessionAnswer.messages : SessionAnswer → List ClientMessage
  | .reply r => r.messages
  | _ => []

/-- The fetch that is made for an answer, if there is one. -/
def SessionAnswer.fetch? : SessionAnswer → Option Artisan.Fetch
  | .reply r => r.fetch
  | _ => none

/-- What a call does to a session that serves: the reply, and the session afterwards. -/
inductive Serves (launch : Launcher) (files : FileTree) (server : Server) (call : Call) :
    Reply × Session → Prop
  | lenses {uri : Url} (hrequest : call.request? = some (.codeLens uri))
      (hreport : call.report? = none) :
      Serves launch files server call
        ((server.codeLens launch files uri).1,
          Session.withServer (server.codeLens launch files uri).2.2
            (server.codeLens launch files uri).2.1)
  | command {name : String} (hrequest : call.request? = some (.executeCommand name))
      (hreport : call.report? = none) :
      Serves launch files server call
        ((server.executeCommand launch files name).1,
          Session.withServer (server.executeCommand launch files name).2.2
            (server.executeCommand launch files name).2.1)
  | announce (hreport : call.report? = none) :
      Serves launch files server call
        ({ messages := server.announcement files }, Session.withServer files server)
  | document {event : DocumentEvent} (hreport : call.report? = some event) :
      Serves launch files server call
        ({}, Session.withServer files { server with documents := server.documents.apply event })
  /-- A refusal, or no answer at all. -/
  | idle {reply : Reply} (hreport : call.report? = none) (hmessages : reply.messages = [])
      (hfetch : reply.fetch = none) :
      Serves launch files server call (reply, Session.withServer files server)
  | ended {reply : Reply} {after : Session} (hreport : call.report? = none)
      (hmessages : reply.messages = []) (hfetch : reply.fetch = none)
      (hafter : after.lifecycle = .stopped ∨ after.lifecycle = .exited) :
      Serves launch files server call (reply, after)

@[simp] theorem Reply.ofAnswer_messages (answer : Answer) :
    (Reply.ofAnswer answer).messages = [] := rfl

@[simp] theorem Reply.ofAnswer_fetch (answer : Answer) : (Reply.ofAnswer answer).fetch = none := rfl

/-! ## What a server keeps -/

namespace Server

variable (launch : Launcher) (server : Server) (files : FileTree)

/-- A fetch changes the cache of a server and nothing else of it. -/
theorem refresh_frame :
    (server.refresh launch files).1 =
      { server with cache := (server.refresh launch files).1.cache } := by
  rw [refresh]
  cases server.cache.start? <;> rfl

theorem load_frame :
    (server.load launch files).1 =
      { server with cache := (server.load launch files).1.cache } := by
  rw [load]
  split
  · exact refresh_frame launch server files
  · rfl

theorem codeLens_frame (uri : Url) :
    (server.codeLens launch files uri).2.1 =
      { server with cache := (server.codeLens launch files uri).2.1.cache } := by
  rw [codeLens]
  split
  · exact load_frame launch server files
  · rfl

theorem executeCommand_frame (name : String) :
    (server.executeCommand launch files name).2.1 =
      { server with cache := (server.executeCommand launch files name).2.1.cache } := by
  rw [executeCommand]
  split
  · exact refresh_frame launch server files
  · rfl

end Server

/-! ## Calls of a session that serves -/

theorem Server.codeLens_answer (launch : Launcher) (server : Server) (files : FileTree) (uri : Url) :
    (server.codeLens launch files uri).1.answer = some (.ok (.lenses
      (if uri.isPhpFile && server.config.enabled then
        ((server.load launch files).1.documents.text? (server.load launch files).2.1 uri).bind
          (Lens.ofSource (server.load launch files).1.cache.table)
      else none))) := by
  rw [codeLens]
  split <;> rfl

namespace Session

@[simp] theorem refuse_messages (call : Call) (refusal : Refusal) :
    (refuse call refusal).messages = [] := by
  rw [refuse]
  split <;> rfl

@[simp] theorem refuse_fetch (call : Call) (refusal : Refusal) :
    (refuse call refusal).fetch = none := by
  rw [refuse]
  split <;> rfl

@[simp] theorem withServer_lifecycle (files : FileTree) (server : Server) :
    (withServer files server).lifecycle = .serving server := rfl

@[simp] theorem withServer_files (files : FileTree) (server : Server) :
    (withServer files server).files = files := rfl

section Serving

variable {launch : Launcher} {files : FileTree} {server : Server} {call : Call}

theorem step_call (launch : Launcher) (files : FileTree) (server : Server) (call : Call) :
    (Session.mk files (.serving server)).step launch (.call call) =
      ((.reply (dispatch launch (withServer files server) call (Method.ofName call.method)).1),
        (dispatch launch (withServer files server) call (Method.ofName call.method)).2) := rfl

/-- A session that serves carries out a request, unless it is one to begin. -/
theorem dispatch_request {request : Request} (hask : call.request? = some request)
    (hbegun : ∀ workspace, request ≠ .begin workspace) :
    dispatch launch (withServer files server) call (Method.ofName call.method) =
      serveRequest launch files server request := by
  rw [Call.request?] at hask
  split at hask
  · next method hmethod =>
    split at hask
    · cases hask
    · next hnotify =>
      rw [hmethod]
      show serve launch files server call (.request method) = _
      cases method with
      | begin =>
        obtain ⟨workspace, -, hrequest⟩ := Option.map_eq_some_iff.mp hask
        exact absurd hrequest.symm (hbegun workspace)
      | codeLens | executeCommand | shutdown =>
        simp only [serve, hnotify, hask, Bool.false_eq_true, if_false]
  · cases hask

theorem dispatch_codeLens {uri : Url} (hask : call.request? = some (.codeLens uri)) :
    dispatch launch (withServer files server) call (Method.ofName call.method) =
      ((server.codeLens launch files uri).1,
        withServer (server.codeLens launch files uri).2.2
          (server.codeLens launch files uri).2.1) :=
  dispatch_request hask fun _ => Request.noConfusion

theorem dispatch_executeCommand {name : String}
    (hask : call.request? = some (.executeCommand name)) :
    dispatch launch (withServer files server) call (Method.ofName call.method) =
      ((server.executeCommand launch files name).1,
        withServer (server.executeCommand launch files name).2.2
          (server.executeCommand launch files name).2.1) :=
  dispatch_request hask fun _ => Request.noConfusion

theorem step_codeLens {uri : Url} (hask : call.request? = some (.codeLens uri)) :
    ((Session.mk files (.serving server)).step launch (.call call)).1 =
      .reply (server.codeLens launch files uri).1 := by
  rw [step_call, dispatch_codeLens hask]

theorem serves_request {method : RequestMethod}
    (hmethod : Method.ofName call.method = .request method) :
    Serves launch files server call (serve launch files server call (.request method)) := by
  have hreport : call.report? = none := by
    rw [Call.report?, hmethod]
  have hrequest : call.request? = if call.notify then none else method.decode? call.params := by
    rw [Call.request?, hmethod]
  cases hnotify : call.notify with
  | true =>
    cases method with
    | begin => exact .idle hreport (refuse_messages _ _) (refuse_fetch _ _)
    | codeLens | executeCommand =>
      simp only [serve, hnotify, if_true, reduceCtorEq, if_false]
      exact .idle hreport rfl rfl
    | shutdown =>
      simp only [serve, hnotify, if_true]
      exact .ended hreport rfl rfl (.inl rfl)
  | false =>
    rw [hnotify, if_neg Bool.false_ne_true] at hrequest
    cases method with
    | begin => exact .idle hreport (refuse_messages _ _) (refuse_fetch _ _)
    | codeLens =>
      cases hdecode : call.params.bind Params.codeLens? with
      | none =>
        simp only [serve, hnotify, RequestMethod.decode?, hdecode, Option.map_none,
          Bool.false_eq_true, if_false, reduceCtorEq]
        exact .idle hreport (refuse_messages _ _) (refuse_fetch _ _)
      | some uri =>
        simp only [serve, hnotify, RequestMethod.decode?, hdecode, Option.map_some,
          Bool.false_eq_true, if_false]
        exact .lenses (hrequest.trans (by simp [RequestMethod.decode?, hdecode])) hreport
    | executeCommand =>
      cases hdecode : call.params.bind Params.command? with
      | none =>
        simp only [serve, hnotify, RequestMethod.decode?, hdecode, Option.map_none,
          Bool.false_eq_true, if_false, reduceCtorEq]
        exact .idle hreport (refuse_messages _ _) (refuse_fetch _ _)
      | some name =>
        simp only [serve, hnotify, RequestMethod.decode?, hdecode, Option.map_some,
          Bool.false_eq_true, if_false]
        exact .command (hrequest.trans (by simp [RequestMethod.decode?, hdecode])) hreport
    | shutdown =>
      cases hparams : call.params with
      | none =>
        simp only [serve, hnotify, hparams, RequestMethod.decode?, Bool.false_eq_true, if_false]
        exact .ended hreport rfl rfl (.inl rfl)
      | some params =>
        simp only [serve, hnotify, hparams, RequestMethod.decode?, Bool.false_eq_true, if_false,
          if_true]
        exact .ended hreport (refuse_messages _ _) (refuse_fetch _ _) (.inl rfl)

theorem serves_notification {method : NotificationMethod}
    (hmethod : Method.ofName call.method = .notification method) :
    Serves launch files server call (serve launch files server call (.notification method)) := by
  have hreport : call.report? = if call.notify then match method.decode? call.params with
      | some (.document event) => some event
      | _ => none
    else none := by
    rw [Call.report?, hmethod]
  rw [serve]
  cases hnotify : call.notify with
  | false =>
    rw [hnotify, if_neg Bool.false_ne_true] at hreport
    rw [if_neg Bool.false_ne_true]
    exact .idle hreport (refuse_messages _ _) (refuse_fetch _ _)
  | true =>
    rw [hnotify, if_pos rfl] at hreport
    rw [if_pos rfl]
    cases hdecode : method.decode? call.params with
    | none =>
      rw [hdecode] at hreport
      exact .idle hreport rfl rfl
    | some notification =>
      rw [hdecode] at hreport
      cases notification with
      | initialized => exact .announce hreport
      | document event => exact .document hreport

theorem serves_dispatch (launch : Launcher) (files : FileTree) (server : Server) (call : Call) :
    Serves launch files server call
      (dispatch launch (withServer files server) call (Method.ofName call.method)) := by
  cases hmethod : Method.ofName call.method with
  | request method => exact serves_request hmethod
  | notification method => exact serves_notification hmethod
  | exit =>
    refine .ended ?_ rfl rfl (.inr rfl)
    rw [Call.report?, hmethod]
  | unofferedRequest params | unheardNotification =>
    refine .idle ?_ (refuse_messages _ _) (refuse_fetch _ _)
    rw [Call.report?, hmethod]
  | unknown =>
    rw [dispatch]
    split
    · refine .idle ?_ rfl rfl
      rw [Call.report?, hmethod]
    · refine .idle ?_ (refuse_messages _ _) (refuse_fetch _ _)
      rw [Call.report?, hmethod]

theorem dispatch_report {event : DocumentEvent} (hreport : call.report? = some event) :
    dispatch launch (withServer files server) call (Method.ofName call.method) =
      ({}, withServer files { server with documents := server.documents.apply event }) := by
  have hserves := serves_dispatch launch files server call
  generalize dispatch launch (withServer files server) call (Method.ofName call.method) = done
    at hserves
  cases hserves with
  | document hother =>
    obtain rfl : event = _ := Option.some.inj (hreport.symm.trans hother)
    rfl
  | lenses _ hnone | command _ hnone | announce hnone | idle hnone | ended hnone =>
    cases hreport.symm.trans hnone

theorem step_report {event : DocumentEvent} (hreport : call.report? = some event) :
    (Session.mk files (.serving server)).step launch (.call call) =
      (.reply {}, withServer files { server with documents := server.documents.apply event }) := by
  rw [step_call, dispatch_report hreport]

end Serving

/-! ## Steps of any session -/

variable {launch : Launcher} {s : Session} {step : SessionStep}

/-- What a session is asked in a step, while it serves. -/
def asked (s : Session) (step : SessionStep) : Option Request :=
  match s.lifecycle with
  | .serving _ => step.request?
  | _ => none

theorem exists_of_asked {request : Request} (h : s.asked step = some request) :
    ∃ files server call, s = withServer files server ∧ step = .call call ∧
      call.request? = some request := by
  obtain ⟨files, lifecycle⟩ := s
  cases lifecycle with
  | serving server =>
    cases step with
    | call call => exact ⟨files, server, call, rfl, rfl, h⟩
    | write | remove | read => cases h
  | fresh | stopped | exited => cases h

/-- What a step does to a session: the answer, and the session afterwards. -/
inductive Took (launch : Launcher) (s : Session) (step : SessionStep) :
    SessionAnswer × Session → Prop
  | served {files : FileTree} {server : Server} {call : Call} {done : Reply × Session}
      (hsession : s = withServer files server) (hstep : step = .call call)
      (hserves : Serves launch files server call done) : Took launch s step (.reply done.1, done.2)
  | began {workspace : Workspace} (hfresh : s.lifecycle = .fresh)
      (hrequest : step.request? = some (.begin workspace)) :
      Took launch s step
        (.reply (.ofAnswer .capabilities), withServer s.files (Server.start s.files workspace))
  /-- Nothing is sent and nothing fetched; the session goes on as it was, or is over. -/
  | passed {answer : SessionAnswer} {after : Session} (hmessages : answer.messages = [])
      (hfetch : answer.fetch? = none)
      (hafter : after.lifecycle = s.lifecycle ∨
        after.lifecycle = .stopped ∨ after.lifecycle = .exited) :
      Took launch s step (answer, after)

theorem took_unknown (launch : Launcher) (s : Session) (call : Call) :
    Took launch s (.call call)
      (.reply (dispatch launch s call .unknown).1, (dispatch launch s call .unknown).2) := by
  rw [dispatch]
  split
  · exact .passed rfl rfl (.inl rfl)
  · exact .passed (refuse_messages _ _) (refuse_fetch _ _) (.inl rfl)

theorem took_begin (launch : Launcher) (files : FileTree) {call : Call}
    (hmethod : Method.ofName call.method = .request .begin) :
    Took launch ⟨files, .fresh⟩ (.call call)
      (.reply (begin files call).1, (begin files call).2) := by
  rw [begin]
  split
  · exact .passed rfl rfl (.inl rfl)
  · next hnotify =>
    split
    · next workspace hdecode =>
      have hrequest : call.request? = some (.begin workspace) := by
        rw [Call.request?, hmethod]
        simp only [hnotify, RequestMethod.decode?, hdecode, Bool.false_eq_true, if_false,
          Option.map_some]
      exact .began rfl hrequest
    · exact .passed (refuse_messages _ _) (refuse_fetch _ _) (.inl rfl)

theorem took_call (launch : Launcher) (s : Session) (call : Call) :
    Took launch s (.call call) (s.step launch (.call call)) := by
  obtain ⟨files, lifecycle⟩ := s
  cases lifecycle with
  | exited => exact .passed rfl rfl (.inl rfl)
  | serving server => exact .served rfl rfl (serves_dispatch launch files server call)
  | fresh =>
    show Took launch _ _ (.reply (dispatch launch ⟨files, .fresh⟩ call _).1, _)
    cases hmethod : Method.ofName call.method with
    | exit => exact .passed rfl rfl (.inr (.inr rfl))
    | unknown => exact took_unknown launch _ call
    | notification | unofferedRequest | unheardNotification =>
      exact .passed (refuse_messages _ _) (refuse_fetch _ _) (.inl rfl)
    | request method =>
      cases method with
      | begin => exact took_begin launch files hmethod
      | codeLens | executeCommand | shutdown =>
        exact .passed (refuse_messages _ _) (refuse_fetch _ _) (.inl rfl)
  | stopped =>
    show Took launch _ _ (.reply (dispatch launch ⟨files, .stopped⟩ call _).1, _)
    cases Method.ofName call.method with
    | exit => exact .passed rfl rfl (.inr (.inr rfl))
    | unknown => exact took_unknown launch _ call
    | request | notification | unofferedRequest | unheardNotification =>
      exact .passed (refuse_messages _ _) (refuse_fetch _ _) (.inl rfl)

theorem took_step (launch : Launcher) (s : Session) (step : SessionStep) :
    Took launch s step (s.step launch step) := by
  cases step with
  | call call => exact took_call launch s call
  | write path entry =>
    obtain ⟨files, lifecycle⟩ := s
    cases lifecycle <;> exact .passed rfl rfl (.inl rfl)
  | read path =>
    obtain ⟨files, lifecycle⟩ := s
    cases lifecycle <;> exact .passed rfl rfl (.inl rfl)
  | remove path =>
    obtain ⟨files, lifecycle⟩ := s
    cases lifecycle with
    | exited => exact .passed rfl rfl (.inl rfl)
    | fresh | stopped | serving =>
      simp only [Session.step]
      split <;> exact .passed rfl rfl (.inl rfl)

/-! ## Runs -/

theorem run_cons (launch : Launcher) (s : Session) (step : SessionStep)
    (rest : List SessionStep) :
    s.run launch (step :: rest) =
      ((s.step launch step).1 :: ((s.step launch step).2.run launch rest).1,
        ((s.step launch step).2.run launch rest).2) := rfl

theorem run_append (launch : Launcher) (s : Session) (before rest : List SessionStep) :
    s.run launch (before ++ rest) =
      ((s.run launch before).1 ++ ((s.run launch before).2.run launch rest).1,
        ((s.run launch before).2.run launch rest).2) := by
  induction before generalizing s with
  | nil => rfl
  | cons step before ih => simp only [List.cons_append, run_cons, ih]

theorem run_concat (launch : Launcher) (s : Session) (before : List SessionStep)
    (step : SessionStep) :
    s.run launch (before ++ [step]) =
      ((s.run launch before).1 ++ [((s.run launch before).2.step launch step).1],
        ((s.run launch before).2.step launch step).2) :=
  run_append launch s before [step]

end Session

end RouteLens
