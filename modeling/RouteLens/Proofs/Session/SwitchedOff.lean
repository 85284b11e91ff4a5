import RouteLens.Proofs.Session.Progress

/-!
# Sessions whose lenses are switched off

The settings of a workspace can switch its lenses off. A session that begins with such settings
answers every request for lenses with none, and in no step does it fetch anything, unless it is told
to fetch the routes anew (`switchedOff_exact`): then it runs the program all the same
(`not_forall_ran`).
-/

namespace RouteLens

/-! ## Programs that are run -/

/-- The command that is run for an answer, if there is one. -/
def SessionAnswer.ran? (answer : SessionAnswer) : Option Command :=
  answer.fetch?.bind (·.ran)

section Launchers

variable {launch : Launcher} {files : FileTree}

/-- What starts programs is of no account where none is run. -/
theorem Artisan.fetch_congr {config : Config} {dir : Path}
    (h : (fetch launch config dir files).1.ran = none) (other : Launcher) :
    fetch other config dir files = fetch launch config dir files := by
  rw [fetch] at h
  split at h
  · cases h
  · next hscript => rw [fetch, fetch, if_neg hscript, if_neg hscript]

namespace Server

variable {server : Server}

theorem refresh_congr (h : (server.refresh launch files).2.2.bind (·.ran) = none)
    (other : Launcher) : server.refresh other files = server.refresh launch files := by
  rw [refresh] at h
  rw [refresh, refresh]
  cases hstart : server.cache.start? with
  | none => rfl
  | some started =>
    rw [hstart] at h
    simp only [Artisan.fetch_congr h other]

theorem load_congr (h : (server.load launch files).2.2.bind (·.ran) = none)
    (other : Launcher) : server.load other files = server.load launch files := by
  rw [load] at h
  rw [load, load]
  split
  · next hwants =>
    rw [if_pos hwants] at h
    exact refresh_congr h other
  · rfl

theorem codeLens_congr {uri : Url}
    (h : (server.codeLens launch files uri).1.fetch.bind (·.ran) = none) (other : Launcher) :
    server.codeLens other files uri = server.codeLens launch files uri := by
  rw [codeLens_eq] at h
  rw [codeLens_eq, codeLens_eq]
  split
  · next hwanted =>
    rw [if_pos hwanted] at h
    rw [load_congr h other]
  · rfl

theorem executeCommand_congr {name : String}
    (h : (server.executeCommand launch files name).1.fetch.bind (·.ran) = none)
    (other : Launcher) :
    server.executeCommand other files name = server.executeCommand launch files name := by
  by_cases hname : name = refreshCommand
  · subst hname
    rw [executeCommand_refresh] at h
    simp only [executeCommand, refresh_congr h other]
  · rw [executeCommand_other hname, executeCommand_other hname]

end Server

namespace Session

variable {s : Session} {step : SessionStep}

theorem serveRequest_congr {server : Server} {request : Request}
    (h : (serveRequest launch files server request).1.fetch.bind (·.ran) = none)
    (other : Launcher) :
    serveRequest other files server request = serveRequest launch files server request := by
  cases request with
  | codeLens uri => simp only [serveRequest, Server.codeLens_congr h other]
  | executeCommand name => simp only [serveRequest, Server.executeCommand_congr h other]
  | begin | shutdown => rfl

theorem serve_congr {server : Server} {call : Call} {method : Method}
    (h : (serve launch files server call method).1.fetch.bind (·.ran) = none)
    (other : Launcher) :
    serve other files server call method = serve launch files server call method := by
  cases method with
  | request method =>
    cases method with
    | begin => rfl
    | codeLens | executeCommand | shutdown =>
      simp only [serve] at h ⊢
      split
      · rfl
      · next hanswer =>
        rw [if_neg hanswer] at h
        split
        · next request hdecode =>
          rw [hdecode] at h
          exact serveRequest_congr h other
        · rfl
  | notification | unofferedRequest | unheardNotification | unknown | exit => rfl

theorem dispatch_congr {call : Call} {method : Method}
    (h : (s.dispatch launch call method).1.fetch.bind (·.ran) = none) (other : Launcher) :
    s.dispatch other call method = s.dispatch launch call method := by
  obtain ⟨files, lifecycle⟩ := s
  cases lifecycle with
  | serving server =>
    cases method with
    | exit | unknown => rfl
    | request | notification | unofferedRequest | unheardNotification => exact serve_congr h other
  | fresh | stopped | exited => rfl

/-- What starts programs is of no account to a step in which none is run. -/
theorem step_congr (h : (s.step launch step).1.ran? = none) (other : Launcher) :
    s.step other step = s.step launch step := by
  obtain ⟨files, lifecycle⟩ := s
  cases step with
  | write | read | remove => cases lifecycle <;> rfl
  | call call =>
    cases lifecycle with
    | serving server => simp only [Session.step, dispatch_congr h other]
    | fresh | stopped | exited => rfl

end Session
end Launchers

/-! ## Settings -/

namespace Session

variable {launch : Launcher} {s : Session} {step : SessionStep} {config : Config}

/-- The settings of a session, if it serves. -/
def config? (s : Session) : Option Config :=
  match s.lifecycle with
  | .serving server => some server.config
  | _ => none

/-- The settings of the workspace with which a session begins in a step, if it does. -/
def beginsWith? (s : Session) (step : SessionStep) : Option Config :=
  match s.lifecycle, step.request? with
  | .fresh, some (.begin workspace) => some (Server.start s.files workspace).config
  | _, _ => none

/-- Lenses are switched off in the settings with which a session begins in some steps, if it
does. -/
def SwitchedOff (launch : Launcher) : Session → List SessionStep → Prop
  | _, [] => True
  | s, step :: rest => (∀ config, s.beginsWith? step = some config → config.enabled = false) ∧
    SwitchedOff launch (s.step launch step).2 rest

theorem config?_of_isOver (h : s.lifecycle = .stopped ∨ s.lifecycle = .exited) :
    s.config? = none := by
  rw [config?]
  obtain h | h := h <;> simp only [h]

/-- The settings of a session are those that it had, or those with which it begins. -/
theorem config?_step (h : (s.step launch step).2.config? = some config) :
    s.config? = some config ∨ s.beginsWith? step = some config := by
  have htook := took_step launch s step
  generalize s.step launch step = taken at htook h
  cases htook with
  | began hfresh hrequest =>
    right
    rw [beginsWith?, hfresh, hrequest]
    exact h
  | passed _ _ hafter =>
    obtain hsame | hover := hafter
    · left
      rw [config?, ← hsame]
      exact h
    · rw [config?_of_isOver hover] at h
      cases h
  | served hsession _ hserves =>
    left
    subst hsession
    cases hserves with
    | lenses =>
      rw [config?, withServer_lifecycle, Server.codeLens_frame] at h
      exact h
    | command =>
      rw [config?, withServer_lifecycle, Server.executeCommand_frame] at h
      exact h
    | announce | document | idle => exact h
    | ended _ _ _ hafter =>
      rw [config?_of_isOver hafter] at h
      cases h

/-- A session that begins with lenses switched off has them switched off as long as it serves. -/
theorem enabled_run {steps : List SessionStep} (hoff : SwitchedOff launch s steps)
    (hs : ∀ config, s.config? = some config → config.enabled = false)
    (h : (s.run launch steps).2.config? = some config) : config.enabled = false := by
  -- The settings are looked at once, when the session begins; no later step touches them.
  induction steps generalizing s with
  | nil => exact hs config h
  | cons step rest ih =>
    obtain ⟨hstep, hrest⟩ := hoff
    refine ih hrest (fun config hconfig => ?_) h
    obtain hbefore | hbegins := config?_step hconfig
    · exact hs config hbefore
    · exact hstep config hbegins

end Session

/-! ## Answers -/

theorem Server.codeLens_of_disabled {server : Server} (hoff : server.config.enabled = false)
    (launch : Launcher) (files : FileTree) (uri : Url) :
    server.codeLens launch files uri = (.ofAnswer (.lenses none), server, files) := by
  rw [codeLens_eq, hoff, Bool.and_false, if_neg Bool.false_ne_true]

namespace Session

variable {launch : Launcher} {s : Session} {step : SessionStep}

/-- With lenses switched off a step fetches nothing, unless it is a command to. -/
theorem fetch?_of_disabled (launch : Launcher)
    (hoff : ∀ config, s.config? = some config → config.enabled = false)
    (hasked : s.asked step ≠ some (.executeCommand refreshCommand)) :
    (s.step launch step).1.fetch? = none := by
  have htook := took_step launch s step
  generalize s.step launch step = taken at htook
  cases htook with
  | began => rfl
  | passed _ hfetch => exact hfetch
  | @served files server call done hsession hstep hserves =>
    subst hsession hstep
    change call.request? ≠ some (.executeCommand refreshCommand) at hasked
    show done.1.fetch = none
    cases hserves with
    | lenses => rw [Server.codeLens_of_disabled (hoff _ rfl), Reply.ofAnswer_fetch]
    | @command name hrequest =>
      have hother : name ≠ refreshCommand := by
        rintro rfl
        exact hasked hrequest
      rw [Server.executeCommand_other hother]
    | announce | document => rfl
    | idle _ _ hfetch => exact hfetch
    | ended _ _ hfetch => exact hfetch

end Session

/-- A session that begins with lenses switched off, whatever else its settings say, answers every
request for lenses with none. In a step that is no command to fetch the routes anew it fetches
nothing, and so the step is the same whatever starts programs. -/
theorem switchedOff_exact (launch : Launcher) (files : FileTree) (steps : List SessionStep)
    (hoff : Session.SwitchedOff launch { files } steps) (step : SessionStep) :
    (∀ uri, (Session.run launch { files } steps).2.asked step = some (.codeLens uri) →
      ((Session.run launch { files } steps).2.step launch step).1 =
        .reply (.ofAnswer (.lenses none))) ∧
    ((Session.run launch { files } steps).2.asked step ≠
        some (.executeCommand "laravel-routes.refresh") →
      ((Session.run launch { files } steps).2.step launch step).1.fetch? = none ∧
      ∀ other, (Session.run launch { files } steps).2.step other step =
        (Session.run launch { files } steps).2.step launch step) := by
  have hdisabled : ∀ config, (Session.run launch { files } steps).2.config? = some config →
      config.enabled = false := by
    intro config hconfig
    refine Session.enabled_run hoff (fun config hnone => ?_) hconfig
    cases hnone
  generalize (Session.run launch { files } steps).2 = s at hdisabled ⊢
  refine ⟨fun uri hasked => ?_, fun hasked => ?_⟩
  · obtain ⟨now, server, call, rfl, rfl, hrequest⟩ := Session.exists_of_asked hasked
    rw [Session.withServer, Session.step_codeLens hrequest,
      Server.codeLens_of_disabled (hdisabled _ rfl)]
  · have hnone := Session.fetch?_of_disabled launch hdisabled hasked
    refine ⟨hnone, Session.step_congr ?_⟩
    rw [SessionAnswer.ran?, hnone, Option.bind_none]

namespace OneDocument

/-- The settings of the workspace when they switch its lenses off. -/
def quiet : Config := { enabled := false }

/-- The workspace with such settings. -/
def quietFiles : FileTree :=
  ⟨[([Utf8.encodeString Artisan.standardScript], .file []),
    ([Utf8.encodeString Config.fileName], .file (Utf8.encodeString "\x7b\"enabled\":false\x7d"))]⟩

theorem load_quiet : Config.load quietFiles [Path.slash] = quiet := by
  have htext : Config.decode? "\x7b\"enabled\":false\x7d" = some quiet := by
    decide +kernel
  exact load_of_settings rfl htext

theorem beginsWith?_quiet :
    Session.beginsWith? { files := quietFiles } (.call beginning) = some quiet := by
  have hrequest : (SessionStep.call beginning).request? = some (.begin workspace) := rfl
  rw [Session.beginsWith?, hrequest]
  show some (Server.start quietFiles workspace).config = _
  rw [start_workspace load_quiet]

theorem run_quiet :
    (Session.run launch { files := quietFiles } [.call beginning]).2 =
      Session.withServer quietFiles { server {} with config := quiet } :=
  step_beginning_of_load load_quiet

theorem switchedOff_quiet :
    Session.SwitchedOff launch { files := quietFiles } [.call beginning] := by
  refine ⟨fun config hbegins => ?_, trivial⟩
  obtain rfl := Option.some.inj (beginsWith?_quiet.symm.trans hbegins)
  rfl

theorem hasScript_quiet : Artisan.hasScript quietFiles [Path.slash] quiet.artisan = true :=
  FileTree.pathExists_of_resolve (resolve_file Artisan.standardScript rfl (by decide) rfl)

theorem ran?_refreshing :
    ((Session.withServer quietFiles { server {} with config := quiet }).step launch
      (.call refreshing)).1.ran? = some (Artisan.command quiet [Path.slash]) := by
  rw [Session.withServer, Session.step_refresh request?_refreshing, Server.executeCommand_refresh,
    SessionAnswer.ran?, SessionAnswer.fetch?, Server.refresh_fetch launch quietFiles rfl]
  show (Artisan.fetch launch quiet [Path.slash] quietFiles).1.ran = _
  rw [Artisan.fetch, if_pos hasScript_quiet]

theorem switchedOff_exact_asked :
    ((Session.run launch { files := quietFiles } [.call beginning]).2.step launch
        (.call asking)).1 = .reply (.ofAnswer (.lenses none)) ∧
      ∀ other, (Session.run launch { files := quietFiles } [.call beginning]).2.step other
          (.call asking) =
        (Session.run launch { files := quietFiles } [.call beginning]).2.step launch
          (.call asking) := by
  have hasked : (Session.run launch { files := quietFiles } [.call beginning]).2.asked
      (.call asking) = some (.codeLens page) := by
    rw [run_quiet]
    exact request?_asking
  obtain ⟨hlenses, hquiet⟩ :=
    switchedOff_exact launch quietFiles [.call beginning] switchedOff_quiet (.call asking)
  refine ⟨hlenses page hasked, (hquiet ?_).2⟩
  rw [hasked]
  exact fun hsame => Request.noConfusion (Option.some.inj hsame)

/-- The command to fetch the routes anew runs the program although lenses are switched off. -/
theorem not_forall_ran :
    ¬ ∀ (launch : Launcher) (files : FileTree) (steps : List SessionStep),
      Session.SwitchedOff launch { files } steps → ∀ step,
      (∀ uri, (Session.run launch { files } steps).2.asked step = some (.codeLens uri) →
        ((Session.run launch { files } steps).2.step launch step).1 =
          .reply (.ofAnswer (.lenses none))) ∧
      ((Session.run launch { files } steps).2.step launch step).1.ran? = none := by
  intro hall
  obtain ⟨-, hnone⟩ :=
    hall launch quietFiles [.call beginning] switchedOff_quiet (.call refreshing)
  rw [run_quiet, ran?_refreshing] at hnone
  cases hnone

end OneDocument

end RouteLens
