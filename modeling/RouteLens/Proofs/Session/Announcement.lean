import RouteLens.Proofs.Session.Documents

/-!
# What a session announces of its workspace

Once it has begun, a session says whether its directory is a project. It looks for the standard
script, whereas a fetch looks for the script that the settings name. So what is announced is what a
fetch would find exactly if both scripts are there or neither is (`announcement_exact`), which is
not so in every workspace (`not_forall_announcement`).
-/

namespace RouteLens

/-- What a call notifies a session of, if its method and parameters are those of a notification. -/
def Call.notification? (call : Call) : Option Notification :=
  match Method.ofName call.method with
  | .notification method => if call.notify then method.decode? call.params else none
  | _ => none

/-! ## Messages -/

namespace ClientMessage

/-- The message that a directory is a project. -/
def project (dir : Path) : ClientMessage :=
  .log .info ("Laravel project: " ++ Path.display dir)

/-- The message that a directory is no project. -/
def noProject (dir : Path) : ClientMessage :=
  .log .info ("No artisan in " ++ Path.display dir ++ ", route lenses disabled")

/-- The texts that a session announces differ in their first nine characters. -/
theorem log_ne {severity other : Severity} {a b : String}
    (h : a.toList.take 9 ≠ b.toList.take 9) : log severity a ≠ log other b := by
  intro heq
  obtain ⟨-, htext⟩ := log.inj heq
  exact h (congrArg (fun text => text.toList.take 9) htext)

theorem project_ne_noProject (dir other : Path) : project dir ≠ noProject other :=
  log_ne (by simp [String.toList_append])

end ClientMessage

namespace Server

variable {server : Server} {dir : Path} {files : FileTree}

theorem mem_announcement_iff (hdir : server.cache.dir = some dir) {m : ClientMessage}
    (hm : m = .project dir ∨ m = .noProject dir) :
    m ∈ server.announcement files ↔
      m = if Artisan.isProject files dir then .project dir else .noProject dir := by
  have hgreeting : m ≠ .log .info "Laravel Routes Language Server initialized" := by
    rcases hm with rfl | rfl
    · exact ClientMessage.log_ne (by simp [String.toList_append])
    · exact ClientMessage.log_ne (by simp [String.toList_append])
  have hdisabled : m ≠ .log .info "Route lenses disabled by configuration" := by
    rcases hm with rfl | rfl
    · exact ClientMessage.log_ne (by simp [String.toList_append])
    · exact ClientMessage.log_ne (by simp [String.toList_append])
  rw [announcement, hdir]
  cases server.config.enabled <;>
    simp [hgreeting, hdisabled, ClientMessage.project, ClientMessage.noProject]

theorem project_mem_announcement (hdir : server.cache.dir = some dir) :
    .project dir ∈ server.announcement files ↔ Artisan.isProject files dir = true := by
  have hdistinct := ClientMessage.project_ne_noProject dir dir
  rw [mem_announcement_iff hdir (.inl rfl)]
  cases Artisan.isProject files dir <;> simp [hdistinct]

theorem noProject_mem_announcement (hdir : server.cache.dir = some dir) :
    .noProject dir ∈ server.announcement files ↔ Artisan.isProject files dir = false := by
  have hdistinct := (ClientMessage.project_ne_noProject dir dir).symm
  rw [mem_announcement_iff hdir (.inr rfl)]
  cases Artisan.isProject files dir <;> simp [hdistinct]

end Server

/-! ## Fetches -/

namespace Artisan

variable (launch : Launcher) (config : Config) (dir : Path) (files : FileTree)

theorem fetch_ran_iff :
    (fetch launch config dir files).1.ran = some (command config dir) ↔
      hasScript files dir config.artisan = true := by
  rw [fetch]
  split
  · next h => simp [h]
  · next h => simp [h]

theorem fetch_eq_empty_iff :
    fetch launch config dir files = (⟨.ok emptyListing, none⟩, files) ↔
      hasScript files dir config.artisan = false := by
  rw [fetch]
  split
  · next h => simp [h]
  · next h => simp [h]

end Artisan

/-! ## Sessions -/

theorem Session.step_initialized {launch : Launcher} {files : FileTree} {server : Server}
    {call : Call} (hcall : call.notification? = some .initialized) :
    ((Session.mk files (.serving server)).step launch (.call call)).1 =
      .reply { messages := server.announcement files } := by
  rw [Call.notification?] at hcall
  split at hcall
  · next method hmethod =>
    split at hcall
    · next hnotify =>
      rw [step_call, hmethod]
      show SessionAnswer.reply (serve launch files server call (.notification method)).1 = _
      simp only [serve, hnotify, hcall, if_true, serveNotification]
    · cases hcall
  · cases hcall

/-- What a session with a directory announces once it has begun, and what a fetch in it would do at
that time. It announces a project exactly if the standard script is there, and none exactly if it is
not. A fetch runs the script that the settings name exactly if that script is there, and otherwise
brings an empty listing and runs nothing. So the two agree exactly if both scripts are there or
neither is; in particular if the settings name the standard script. -/
theorem announcement_exact (launch : Launcher) (files : FileTree) (steps : List SessionStep)
    {server : Server} {call : Call} {dir : Path}
    (hserving : (Session.run launch { files } steps).2.lifecycle = .serving server)
    (hdir : server.cache.dir = some dir) (hcall : call.notification? = some .initialized) :
    ∃ messages now, now = (Session.run launch { files } steps).2.files ∧
      ((Session.run launch { files } steps).2.step launch (.call call)).1 = .reply { messages } ∧
      (.project dir ∈ messages ↔ now.pathExists (Path.joinString dir "artisan") = true) ∧
      (.noProject dir ∈ messages ↔ now.pathExists (Path.joinString dir "artisan") = false) ∧
      ((Artisan.fetch launch server.config dir now).1.ran =
          some (Artisan.command server.config dir) ↔
        now.pathExists (Path.joinString dir server.config.artisan) = true) ∧
      (Artisan.fetch launch server.config dir now = (⟨.ok "[]", none⟩, now) ↔
        now.pathExists (Path.joinString dir server.config.artisan) = false) ∧
      (((.project dir ∈ messages ↔ (Artisan.fetch launch server.config dir now).1.ran =
            some (Artisan.command server.config dir)) ∧
          (.noProject dir ∈ messages ↔
            Artisan.fetch launch server.config dir now = (⟨.ok "[]", none⟩, now))) ↔
        now.pathExists (Path.joinString dir "artisan") =
          now.pathExists (Path.joinString dir server.config.artisan)) := by
  generalize (Session.run launch { files } steps).2 = s at hserving ⊢
  obtain ⟨now, lifecycle⟩ := s
  obtain rfl := hserving
  have hproject : .project dir ∈ server.announcement now ↔
      now.pathExists (Path.joinString dir "artisan") = true :=
    Server.project_mem_announcement hdir
  have hnoProject : .noProject dir ∈ server.announcement now ↔
      now.pathExists (Path.joinString dir "artisan") = false :=
    Server.noProject_mem_announcement hdir
  have hran : (Artisan.fetch launch server.config dir now).1.ran =
        some (Artisan.command server.config dir) ↔
      now.pathExists (Path.joinString dir server.config.artisan) = true :=
    Artisan.fetch_ran_iff launch server.config dir now
  have hempty : Artisan.fetch launch server.config dir now = (⟨.ok "[]", none⟩, now) ↔
      now.pathExists (Path.joinString dir server.config.artisan) = false :=
    Artisan.fetch_eq_empty_iff launch server.config dir now
  refine ⟨server.announcement now, now, rfl, Session.step_initialized hcall, hproject, hnoProject,
    hran, hempty, ?_⟩
  rw [hproject, hnoProject, hran, hempty]
  cases now.pathExists (Path.joinString dir "artisan") <;>
    cases now.pathExists (Path.joinString dir server.config.artisan) <;> simp

namespace OneDocument

def initialized : Call :=
  { method := "initialized", params := some (.object []), notify := true }

theorem notification?_initialized : initialized.notification? = some .initialized :=
  rfl

theorem announcement_exact_standard :
    ∃ messages, ((Session.run launch { files } [.call beginning]).2.step launch
        (.call initialized)).1 = .reply { messages } ∧
      .project [Path.slash] ∈ messages ∧
      (Artisan.fetch launch {} [Path.slash] files).1.ran =
        some (Artisan.command {} [Path.slash]) := by
  have hrun : (Session.run launch { files } [.call beginning]).2 =
      Session.withServer files (server {}) := step_beginning
  obtain ⟨messages, now, hnow, hstep, hproject, -, hran, -, -⟩ := announcement_exact launch files
    [.call beginning] (congrArg Session.lifecycle hrun) rfl notification?_initialized
  rw [hrun, Session.withServer_files] at hnow
  subst hnow
  exact ⟨messages, hstep, hproject.mpr hasScript_files, hran.mpr hasScript_files⟩

/-- The settings of the workspace when its script lies elsewhere. -/
def nested : Config := { artisan := "src/artisan" }

/-- The workspace with such settings and that script. -/
def nestedFiles : FileTree :=
  ⟨[([Utf8.encodeString "src"], .directory),
    ([Utf8.encodeString "src", Utf8.encodeString "artisan"], .file []),
    ([Utf8.encodeString Config.fileName],
      .file (Utf8.encodeString "\x7b\"artisan\":\"src/artisan\"\x7d"))]⟩

theorem run_nested :
    (Session.run launch { files := nestedFiles } [.call beginning]).2 =
      Session.withServer nestedFiles { server {} with config := nested } := by
  have htext : Config.decode? "\x7b\"artisan\":\"src/artisan\"\x7d" = some nested := by
    decide +kernel
  exact step_beginning_of_load (load_of_settings rfl htext)

theorem isProject_nestedFiles : Artisan.isProject nestedFiles [Path.slash] = false :=
  FileTree.not_pathExists_of_resolve
    (resolve_missing Artisan.standardScript rfl (by decide) rfl)

theorem hasScript_nestedFiles :
    Artisan.hasScript nestedFiles [Path.slash] nested.artisan = true := by
  have hleads : nestedFiles.LeadsTo [] [[], Utf8.encodeString "src", Utf8.encodeString "artisan"]
      [Utf8.encodeString "src", Utf8.encodeString "artisan"] :=
    .stay rfl (.down rfl (by decide) rfl nofun (.down rfl (by decide) rfl nofun .arrived))
  exact FileTree.pathExists_of_resolve (hleads.resolve rfl)

/-- A workspace whose settings name another script than the standard one, which is not there, is
announced as no project, although a fetch in it runs that script. -/
theorem not_forall_announcement :
    ¬ ∀ (launch : Launcher) (files : FileTree) (steps : List SessionStep) (server : Server)
      (call : Call) (dir : Path),
      (Session.run launch { files } steps).2.lifecycle = .serving server →
      server.cache.dir = some dir → call.notification? = some .initialized →
      ∃ messages now, now = (Session.run launch { files } steps).2.files ∧
        ((Session.run launch { files } steps).2.step launch (.call call)).1 = .reply { messages } ∧
        (.project dir ∈ messages ↔ (Artisan.fetch launch server.config dir now).1.ran =
          some (Artisan.command server.config dir)) ∧
        (.noProject dir ∈ messages ↔
          Artisan.fetch launch server.config dir now = (⟨.ok "[]", none⟩, now)) := by
  intro hall
  obtain ⟨messages, now, hnow, hstep, -, hnone⟩ := hall launch nestedFiles [.call beginning] _
    initialized [Path.slash] (congrArg Session.lifecycle run_nested) rfl notification?_initialized
  rw [run_nested, Session.withServer_files] at hnow
  subst hnow
  rw [run_nested, Session.withServer, Session.step_initialized notification?_initialized] at hstep
  obtain rfl := (Reply.mk.inj (SessionAnswer.reply.inj hstep)).1
  have hdir : ({ server {} with config := nested } : Server).cache.dir = some [Path.slash] := rfl
  have hannounced := (Server.noProject_mem_announcement hdir).mpr isProject_nestedFiles
  have hempty := (Artisan.fetch_eq_empty_iff launch nested [Path.slash] nestedFiles).mp
    (hnone.mp hannounced)
  rw [hasScript_nestedFiles] at hempty
  cases hempty

end OneDocument

end RouteLens
