import RouteLens.Proofs.Route.Listing
import RouteLens.Proofs.Session.Documents
import RouteLens.Proofs.Session.Fetches

/-!
# Progress over a session

What a session tells its client when the routes are to be fetched anew: the same six messages in the
same order, whatever becomes of the fetch, with one number in all places that show it
(`refresh_exact`). No other step sends a message about progress, so that over a session progress
begins and ends by turns.
-/

namespace RouteLens

/-! ## Messages about progress -/

/-- A message about progress. -/
def ClientMessage.isProgress : ClientMessage → Bool
  | .createProgress _ => true
  | .beginProgress _ _ => true
  | .endProgress _ _ => true
  | _ => false

/-- A message that progress begins or ends. -/
def ClientMessage.isMark : ClientMessage → Bool
  | .beginProgress _ _ => true
  | .endProgress _ _ => true
  | _ => false

/-- Progress begins and ends by turns, and ends under the token under which it began. -/
inductive Alternating : List ClientMessage → Prop
  | nil : Alternating []
  | cons {token title text : String} {rest : List ClientMessage} :
      Alternating rest →
      Alternating (.beginProgress token title :: .endProgress token text :: rest)

theorem ClientMessage.isMark_eq_false {m : ClientMessage} (h : m.isProgress = false) :
    m.isMark = false := by
  cases m <;> first | rfl | cases h

/-! ## The number of actions -/

/-- How many actions the listing that was fetched last names; none if there is no listing. -/
noncomputable def Artisan.actionCount (fetches : List Artisan.Fetch) : Nat :=
  match Artisan.latestListing? fetches with
  | some listing => (Listing.named listing).ncard
  | none => 0

theorem RouteTable.size_ofFetches (fetches : List Artisan.Fetch) :
    (ofFetches fetches).size = Artisan.actionCount fetches := by
  rw [ofFetches, Artisan.actionCount]
  cases Artisan.latestListing? fetches with
  | none => rfl
  | some listing => exact Listing.size_table listing

/-! ## Commands -/

namespace Server

variable {launch : Launcher} {server : Server} {files : FileTree} {fetches : List Artisan.Fetch}

theorem executeCommand_refresh (launch : Launcher) (server : Server) (files : FileTree) :
    (server.executeCommand launch files refreshCommand).1 =
      { messages := refreshMessages (server.refresh launch files).1.cache.table.size
        answer := some (.ok (.refreshed (server.refresh launch files).1.cache.table.size))
        fetch := (server.refresh launch files).2.2 } := rfl

theorem executeCommand_other {name : String} (h : name ≠ refreshCommand) :
    server.executeCommand launch files name =
      ({ answer := some (.ok .nothing)
         messages := [.log .warning ("Unknown command: " ++ name)] }, server, files) := by
  rw [executeCommand, if_neg h]
  rfl

theorem codeLens_messages (launch : Launcher) (server : Server) (files : FileTree) (uri : Url) :
    (server.codeLens launch files uri).1.messages = [] := by
  rw [codeLens_eq]
  split <;> rfl

theorem isProgress_announcement {m : ClientMessage} (h : m ∈ server.announcement files) :
    m.isProgress = false := by
  simp only [announcement, List.mem_append, List.mem_cons, List.not_mem_nil, or_false] at h
  obtain (rfl | hworkspace) | hdisabled := h
  · rfl
  · subst hworkspace
    split
    · split <;> rfl
    · rfl
  · split at hdisabled
    · cases hdisabled
    · obtain rfl := List.mem_singleton.mp hdisabled
      rfl

end Server

namespace Session

variable {launch : Launcher} {s : Session} {step : SessionStep}

/-- What a session sends to its client over some steps, in order. -/
def sent (launch : Launcher) (s : Session) (steps : List SessionStep) : List ClientMessage :=
  (s.run launch steps).1.flatMap SessionAnswer.messages

theorem sent_cons (launch : Launcher) (s : Session) (step : SessionStep)
    (rest : List SessionStep) :
    s.sent launch (step :: rest) =
      (s.step launch step).1.messages ++ (s.step launch step).2.sent launch rest := by
  rw [sent, run_cons, List.flatMap_cons, sent]

/-- A step that is no command to fetch the routes anew sends nothing about progress. -/
theorem isProgress_of_mem_messages
    (hasked : s.asked step ≠ some (.executeCommand refreshCommand)) {m : ClientMessage}
    (hmem : m ∈ (s.step launch step).1.messages) : m.isProgress = false := by
  have htook := took_step launch s step
  generalize s.step launch step = taken at htook hmem
  cases htook with
  | began => cases hmem
  | passed hmessages => simp [hmessages] at hmem
  | @served files server call done hsession hstep hserves =>
    subst hsession hstep
    change call.request? ≠ some (.executeCommand refreshCommand) at hasked
    change m ∈ done.1.messages at hmem
    cases hserves with
    | lenses => simp [Server.codeLens_messages] at hmem
    | @command name hrequest =>
      have hother : name ≠ refreshCommand := by
        rintro rfl
        exact hasked hrequest
      rw [Server.executeCommand_other hother] at hmem
      obtain rfl := List.mem_singleton.mp hmem
      rfl
    | announce => exact Server.isProgress_announcement hmem
    | document => cases hmem
    | idle _ hmessages => simp [hmessages] at hmem
    | ended _ hmessages => simp [hmessages] at hmem

theorem step_refresh {files : FileTree} {server : Server} {call : Call}
    (hask : call.request? = some (.executeCommand refreshCommand)) :
    ((Session.mk files (.serving server)).step launch (.call call)).1 =
      .reply (server.executeCommand launch files refreshCommand).1 := by
  rw [step_call, dispatch_executeCommand hask]

/-- Over any steps progress begins and ends by turns. -/
theorem alternating_sent (launch : Launcher) (s : Session) (steps : List SessionStep) :
    Alternating ((s.sent launch steps).filter ClientMessage.isMark) := by
  induction steps generalizing s with
  | nil => exact .nil
  | cons step rest ih =>
    rw [sent_cons, List.filter_append]
    by_cases hasked : s.asked step = some (.executeCommand refreshCommand)
    · obtain ⟨files, server, call, rfl, rfl, hrequest⟩ := exists_of_asked hasked
      rw [withServer, step_refresh hrequest]
      exact .cons (ih _)
    · have hnone : (s.step launch step).1.messages.filter ClientMessage.isMark = [] := by
        rw [List.filter_eq_nil_iff]
        intro m hmem
        simp [ClientMessage.isMark_eq_false (isProgress_of_mem_messages hasked hmem)]
      rw [hnone]
      exact ih _

end Session

/-- A session that is told to fetch the routes anew sends six messages in a fixed order, whatever
becomes of the fetch and whether or not there is a directory to fetch in: progress is created, begun
and ended under one token, then the client is asked to ask for lenses anew, and the first and the
last message are for its log. The number that is shown at the end of the progress and in the log,
and that is answered, is that of the actions which the listing fetched last names. What a client
answers to the requests among the messages is never looked at. No other step sends a message about
progress, so that over all steps progress begins and ends by turns. -/
theorem refresh_exact (launch : Launcher) (files : FileTree) :
    (∀ before step, (Session.run launch { files } before).2.asked step =
        some (.executeCommand "laravel-routes.refresh") →
      ∃ actions fetch,
        ((Session.run launch { files } before).2.step launch step).1 =
          .reply
            { messages :=
                [.log .info "Refreshing Laravel routes...",
                  .createProgress "laravel-routes/refresh",
                  .beginProgress "laravel-routes/refresh" "Loading Laravel routes",
                  .endProgress "laravel-routes/refresh"
                    ("Routes loaded for " ++ toString actions ++ " actions"),
                  .refreshLenses,
                  .log .info ("Laravel routes refreshed (" ++ toString actions ++ " actions)")]
              answer := some (.ok (.refreshed actions))
              fetch } ∧
        actions = Artisan.actionCount (Session.fetched launch { files } (before ++ [step]))) ∧
    (∀ before step, (Session.run launch { files } before).2.asked step ≠
        some (.executeCommand "laravel-routes.refresh") →
      ∀ m ∈ ((Session.run launch { files } before).2.step launch step).1.messages,
        m.isProgress = false) ∧
    ∀ steps, Alternating ((Session.sent launch { files } steps).filter ClientMessage.isMark) := by
  refine ⟨fun before step hasked => ?_,
    fun before step hasked m hmem => Session.isProgress_of_mem_messages hasked hmem,
    fun steps => Session.alternating_sent launch { files } steps⟩
  have hsettled := Session.settled_run launch files before
  rw [Session.fetched_concat]
  generalize Session.fetched launch { files } before = fetches at hsettled ⊢
  obtain ⟨now, server, call, hsession, rfl, hrequest⟩ := Session.exists_of_asked hasked
  rw [hsession] at hsettled ⊢
  rw [Session.withServer, Session.step_refresh hrequest, Server.executeCommand_refresh]
  refine ⟨_, _, rfl, ?_⟩
  rw [(hsettled.refresh launch now).table, RouteTable.size_ofFetches]
  rfl

namespace OneDocument

/-- The command to fetch the routes anew. -/
def refreshing : Call :=
  { method := "workspace/executeCommand"
    params := some (.object [("command", .string "laravel-routes.refresh")]) }

theorem request?_refreshing : refreshing.request? = some (.executeCommand refreshCommand) :=
  rfl

theorem run_beginning :
    (Session.run launch { files } [.call beginning]).2 = Session.withServer files (server {}) :=
  step_beginning

theorem fetched_refreshing :
    Session.fetched launch { files } [.call beginning, .call refreshing] =
      [⟨.ok listing, some (Artisan.command {} [Path.slash])⟩] := by
  have hfetch : ((server {}).refresh launch files).2.2 =
      some ⟨.ok listing, some (Artisan.command {} [Path.slash])⟩ := by
    rw [Server.refresh_fetch launch files rfl]
    show some (Artisan.fetch launch {} [Path.slash] files).1 = _
    rw [fetch_files]
  rw [Session.fetched_cons, fetch?_beginning, step_beginning, Session.fetched_cons,
    Session.withServer, Session.step_refresh request?_refreshing, Server.executeCommand_refresh]
  simp only [SessionAnswer.fetch?, hfetch]
  rfl

theorem actionCount_refreshing :
    Artisan.actionCount (Session.fetched launch { files } [.call beginning, .call refreshing]) =
      1 := by
  have hsize : (Listing.table listing).size = 1 := by
    rw [table_listing]
    rfl
  rw [fetched_refreshing, ← hsize]
  exact (Listing.size_table listing).symm

theorem refresh_exact_listed :
    ∃ fetch, ((Session.run launch { files } [.call beginning]).2.step launch
        (.call refreshing)).1 =
      .reply
        { messages :=
            [.log .info "Refreshing Laravel routes...",
              .createProgress "laravel-routes/refresh",
              .beginProgress "laravel-routes/refresh" "Loading Laravel routes",
              .endProgress "laravel-routes/refresh" "Routes loaded for 1 actions",
              .refreshLenses,
              .log .info "Laravel routes refreshed (1 actions)"]
          answer := some (.ok (.refreshed 1))
          fetch } := by
  have hasked : (Session.run launch { files } [.call beginning]).2.asked (.call refreshing) =
      some (.executeCommand refreshCommand) := by
    rw [run_beginning]
    exact request?_refreshing
  obtain ⟨hrefresh, -⟩ := refresh_exact launch files
  obtain ⟨actions, fetch, hstep, hactions⟩ := hrefresh [.call beginning] (.call refreshing) hasked
  obtain rfl : actions = 1 := hactions.trans actionCount_refreshing
  exact ⟨fetch, hstep⟩

end OneDocument

end RouteLens
