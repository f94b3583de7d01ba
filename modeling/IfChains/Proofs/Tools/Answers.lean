/-
**When a tool gives no answer.**

A tool answers with a text, also about a file that is missing and about a program with a malformed
chain. It gives no answer if the file or the settings are no text, if the settings hold no module of
the macro, if the program holds the character of code zero or has no source text once its chains are
expanded, or if the program that it runs asks to exit or is not one that can be run. What stops the
walk along the chains of a program is always answered about.

* `Serves`, `Silent`: what an answer takes, and the cases without one;
* `outcome_answer`: the answer once the chains of the file are expanded;
* `serve_error_iff`: a tool gives no answer exactly in these cases.
-/

import IfChains.Proofs.Steps
import IfChains.Proofs.Transform.Results
import IfChains.Tools

namespace IfChains

namespace Tools

open Steps

/-- A file is read, and the settings name the module of the macro. -/
structure Serves (reader : Settings.Reader) (store : FileStore) (server : Server)
    (path source module : String) : Prop where
  read : store.readText path = .ok source
  named : ∃ snapshot, (server.cache.get reader store none).1 = .ok snapshot ∧
    snapshot.value.macroModule = .ok module

/-- The cases in which a tool gives no answer, each with what stops it. -/
inductive Silent (reader : Settings.Reader) (tool : Tool) (path : String) (store : FileStore)
    (server : Server) : Failure → Prop
  /-- The path holds the character of code zero. -/
  | path {fault : FileFault} (unread : store.readText path = .error (.file fault))
    (null : fault.reason = .nullCharacter) : Silent reader tool path store server (.file fault)
  /-- The file is no text. -/
  | bytes {fault : Utf8.Fault} (unread : store.readText path = .error (.bytes fault)) :
    Silent reader tool path store server (.bytes fault)
  | settings {source : String} {fault : SettingsFault} (read : store.readText path = .ok source)
    (failed : (server.cache.get reader store none).1 = .error fault) :
    Silent reader tool path store server (.ofSettings fault)
  | module {source : String} {snapshot : Snapshot} {fault : LookupFault}
    (read : store.readText path = .ok source)
    (loaded : (server.cache.get reader store none).1 = .ok snapshot)
    (absent : snapshot.value.macroModule = .error fault) :
    Silent reader tool path store server (.lookup fault)
  | text {source module : String} (serves : Serves reader store server path source module)
    (null : source.contains '\x00' = true) :
    Silent reader tool path store server (.expansion .nullCharacter)
  | print {source module : String} {reason : PrintFault}
    (serves : Serves reader store server path source module)
    (failed : (Transform.transform module .file path source).result = .error (.print reason)) :
    Silent reader tool path store server (.expansion (.print reason))
  /-- The program asks to exit. -/
  | exit {source module text : String} {exception : Program.Exception} {code : Program.Value}
    (serves : Serves reader store server path source module)
    (same : (Transform.transform module .file path source).result = .ok text) (runs : tool = .run)
    (raised : ((Program.run path text).run {}).1 = .raised exception)
    (exits : exception.exitCode? = some code) :
    Silent reader tool path store server (.program exception)
  /-- The program is not one that can be run. -/
  | beyond {source module text : String} (serves : Serves reader store server path source module)
    (same : (Transform.transform module .file path source).result = .ok text) (runs : tool = .run)
    (ended : ((Program.run path text).run {}).1 = .beyond) :
    Silent reader tool path store server .beyond

section Steps

variable {reader : Settings.Reader} {tool : Tool} {path source module text : String}
  {store : FileStore} {server : Server}

/-- The server after the settings have been asked for. -/
def Server.loaded (server : Server) (reader : Settings.Reader) (store : FileStore) : Server :=
  { server with cache := (server.cache.get reader store none).2 }

/-- What asking for the settings comes to. -/
theorem outcome_settings :
    outcome (settings reader store) server =
      ((match (server.cache.get reader store none).1 with
        | .ok snapshot => .ok snapshot.value
        | .error fault => .error (.ofSettings fault)), server.loaded reader store) := by
  unfold settings
  rw [outcome_get_bind]
  rcases same : server.cache.get reader store none with ⟨result, cache⟩
  rw [Server.loaded, same]
  cases result <;> rfl

/-- The source of a file that is read. -/
theorem outcome_sourceOf (read : store.readText path = .ok source) :
    outcome (sourceOf store path) server = (.ok (.ok source), server) := by
  rw [sourceOf, read]
  rfl

/-- A file that is read, and its text. -/
theorem outcome_expandFile (read : store.readText path = .ok source) :
    outcome (expandFile reader store path) server =
      outcome (expandText reader store path source) server := by
  unfold expandFile
  exact outcome_bind_ok (outcome_sourceOf read)

/-- Settings without the module of the macro stop a tool. -/
theorem outcome_expandText_unnamed {snapshot : Snapshot} {fault : LookupFault}
    (loaded : (server.cache.get reader store none).1 = .ok snapshot)
    (absent : snapshot.value.macroModule = .error fault) :
    outcome (expandText reader store path source) server =
      (.error (.lookup fault), server.loaded reader store) := by
  have known := @outcome_settings reader store server
  rw [loaded] at known
  unfold expandText
  rw [outcome_bind_ok known]
  have failed : Transform.underSettings snapshot.value .file path source = .error fault := by
    rw [Transform.underSettings, absent]
    rfl
  simp only [failed]
  rfl

/-- What a text and an expansion of it come to. -/
theorem outcome_expandText (serves : Serves reader store server path source module) :
    outcome (expandText reader store path source) server =
      ((match (Transform.transform module .file path source).result with
        | .ok text => .ok (.ok text)
        | .error fault =>
          match fault.report? with
          | some report => .ok (.error ("Error: " ++ report.text))
          | none => .error (.expansion fault)), server.loaded reader store) := by
  obtain ⟨snapshot, loaded, named⟩ := serves.named
  have known := @outcome_settings reader store server
  rw [loaded] at known
  unfold expandText
  rw [outcome_bind_ok known]
  have expanded : Transform.underSettings snapshot.value .file path source =
      .ok (Transform.transform module .file path source) := by
    rw [Transform.underSettings, named]
    rfl
  simp only [expanded]
  cases (Transform.transform module .file path source).result with
  | ok text => rfl
  | error fault =>
    dsimp only
    cases fault.report? <;> rfl

/-- A tool that has the source of its file goes on with the text that its chains are expanded to. -/
theorem outcome_answer (serves : Serves reader store server path source module) :
    outcome (answer reader tool store path) server =
      match (Transform.transform module .file path source).result with
      | .ok text =>
        outcome (match tool with
          | .check => pure ("OK: " ++ path)
          | .build => pure text
          | .run => runText path text) (server.loaded reader store)
      | .error fault =>
        ((match fault.report? with
          | some report => .ok ("Error: " ++ report.text)
          | none => .error (.expansion fault)), server.loaded reader store) := by
  have expands := @outcome_expandFile reader path source store server serves.read
  have known := outcome_expandText serves
  cases result : (Transform.transform module .file path source).result with
  | ok text =>
    rw [result] at known
    exact outcome_bind_ok (expands.trans known)
  | error fault =>
    rw [result] at known
    dsimp only at known ⊢
    cases reported : fault.report? with
    | some report =>
      rw [reported] at known
      exact outcome_bind_ok (expands.trans known)
    | none =>
      rw [reported] at known
      exact outcome_bind_error (expands.trans known)

/-- A program runs with streams of its own. -/
theorem outcome_capture {program : StateM Program.Streams Program.Ending} :
    outcome (capture program) server = (.ok (program.run {}), server) := rfl

/-- What a run program makes a tool answer. -/
theorem outcome_runText :
    (outcome (runText path text) server).1 =
      match (Program.run path text).run {} with
      | (.finished, written) => .ok (outputText written)
      | (.beyond, _) => .error .beyond
      | (.raised exception, written) =>
        match exception.exitCode? with
        | some _ => .error (.program exception)
        | none => .ok (CodePoints.toText written.out ++ "Error during execution: " ++
            exception.kind.name ++ ": " ++ exception.message) := by
  unfold runText
  rw [outcome_bind_ok outcome_capture]
  rcases (Program.run path text).run {} with ⟨ending, written⟩
  cases ending with
  | finished => rfl
  | beyond => rfl
  | raised exception =>
    dsimp only
    cases exception.exitCode? <;> rfl

end Steps

section Failures

variable {reader : Settings.Reader} {tool : Tool} {path source module text : String}
  {store : FileStore} {server : Server} {failure : Failure}

/-- A tool that stops on the way to the text of its file gives no answer. -/
theorem serve_of_error {after : Server}
    (stopped : outcome (expandFile reader store path) server = (.error failure, after)) :
    (serve reader tool path store server).1 = .error failure :=
  congrArg Prod.fst
    (outcome_bind_error stopped : outcome (answer reader tool store path) server = _)

/-- A tool that runs a program answers what the run makes it answer. -/
theorem serve_run (serves : Serves reader store server path source module)
    (same : (Transform.transform module .file path source).result = .ok text) :
    (serve reader .run path store server).1 =
      match (Program.run path text).run {} with
      | (.finished, written) => .ok (outputText written)
      | (.beyond, _) => .error .beyond
      | (.raised exception, written) =>
        match exception.exitCode? with
        | some _ => .error (.program exception)
        | none => .ok (CodePoints.toText written.out ++ "Error during execution: " ++
            exception.kind.name ++ ": " ++ exception.message) := by
  have answers := @outcome_answer reader .run path source module store server serves
  rw [same] at answers
  dsimp only at answers
  show (outcome (answer reader .run store path) server).1 = _
  rw [answers, outcome_runText]

/-- In each of the cases a tool gives no answer. -/
theorem serve_of_silent (silent : Silent reader tool path store server failure) :
    (serve reader tool path store server).1 = .error failure := by
  cases silent with
  | @path fault unread null =>
    have stops : outcome (sourceOf store path) server = (.error (.file fault), server) := by
      rw [sourceOf, unread]
      simp only [null]
      rfl
    exact serve_of_error (outcome_bind_error stops)
  | @bytes fault unread =>
    have stops : outcome (sourceOf store path) server = (.error (.bytes fault), server) := by
      rw [sourceOf, unread]
      rfl
    exact serve_of_error (outcome_bind_error stops)
  | settings read failed =>
    have known := @outcome_settings reader store server
    rw [failed] at known
    exact serve_of_error ((outcome_expandFile read).trans (outcome_bind_error known))
  | module read loaded absent =>
    exact serve_of_error ((outcome_expandFile read).trans
      (outcome_expandText_unnamed loaded absent))
  | @text source module serves null =>
    have failed : (Transform.transform module .file path source).result =
        .error .nullCharacter := by
      rw [Transform.transform, Transform.parse, null]
      rfl
    have answers := @outcome_answer reader tool path source module store server serves
    rw [failed] at answers
    exact congrArg Prod.fst answers
  | @print source module reason serves failed =>
    have answers := @outcome_answer reader tool path source module store server serves
    rw [failed] at answers
    exact congrArg Prod.fst answers
  | exit serves same runs raised exits =>
    subst runs
    rw [serve_run serves same]
    generalize (Program.run path _).run {} = ran at raised ⊢
    obtain ⟨ending, written⟩ := ran
    obtain rfl := raised
    simp only [exits]
  | beyond serves same runs ended =>
    subst runs
    rw [serve_run serves same]
    generalize (Program.run path _).run {} = ran at ended ⊢
    obtain ⟨ending, written⟩ := ran
    obtain rfl := ended
    rfl

/-- A tool without a source for its file answers, or it is one of the cases. -/
theorem exists_answer_of_unread {fault : ReadFault} (unread : store.readText path = .error fault) :
    (∃ answer, (serve reader tool path store server).1 = .ok answer) ∨
      ∃ failure, Silent reader tool path store server failure := by
  have answered : ∀ text, outcome (sourceOf store path) server = (.ok (.error text), server) →
      ∃ answer, (serve reader tool path store server).1 = .ok answer := by
    intro text same
    have expands : outcome (expandFile reader store path) server = (.ok (.error text), server) :=
      outcome_bind_ok same
    exact ⟨text, congrArg Prod.fst (outcome_bind_ok expands :
      outcome (answer reader tool store path) server = _)⟩
  cases fault with
  | bytes fault => exact Or.inr ⟨_, .bytes unread⟩
  | file fault =>
    cases reason : fault.reason with
    | nullCharacter => exact Or.inr ⟨_, .path unread reason⟩
    | missing =>
      refine Or.inl (answered ("Error: file not found: " ++ path) ?_)
      rw [sourceOf, unread]
      simp only [reason]
      rfl
    | isDirectory | notDirectory | tooLong =>
      refine Or.inl (answered ("Error reading file: " ++ fault.message) ?_)
      rw [sourceOf, unread]
      simp only [reason]
      rfl

/-- A tool that has the source of its file and the module of the macro answers, or it is one of the
cases. -/
theorem exists_answer_of_serves (serves : Serves reader store server path source module) :
    (∃ answer, (serve reader tool path store server).1 = .ok answer) ∨
      ∃ failure, Silent reader tool path store server failure := by
  have answers := @outcome_answer reader tool path source module store server serves
  cases same : (Transform.transform module .file path source).result with
  | error fault =>
    rw [same] at answers
    rcases Transform.transform_fault same with
      ⟨report, reported⟩ | ⟨rfl, null⟩ | ⟨reason, rfl⟩
    · simp only [reported] at answers
      exact Or.inl ⟨_, congrArg Prod.fst answers⟩
    · exact Or.inr ⟨_, .text serves null⟩
    · exact Or.inr ⟨_, .print serves same⟩
  | ok text =>
    rw [same] at answers
    cases tool with
    | check => exact Or.inl ⟨_, congrArg Prod.fst answers⟩
    | build => exact Or.inl ⟨_, congrArg Prod.fst answers⟩
    | run =>
      rw [serve_run serves same]
      rcases ran : (Program.run path text).run {} with ⟨ending, written⟩
      cases ending with
      | finished => exact Or.inl ⟨_, rfl⟩
      | beyond => exact Or.inr ⟨_, .beyond serves same rfl (congrArg Prod.fst ran)⟩
      | raised exception =>
        cases exits : exception.exitCode? with
        | none =>
          dsimp only
          rw [exits]
          exact Or.inl ⟨_, rfl⟩
        | some code => exact Or.inr ⟨_, .exit serves same rfl (congrArg Prod.fst ran) exits⟩

/-- A tool answers, or it is one of the cases without an answer. -/
theorem exists_answer_or_silent (reader : Settings.Reader) (tool : Tool) (path : String)
    (store : FileStore) (server : Server) :
    (∃ answer, (serve reader tool path store server).1 = .ok answer) ∨
      ∃ failure, Silent reader tool path store server failure := by
  cases read : store.readText path with
  | error fault => exact exists_answer_of_unread read
  | ok source =>
    cases loaded : (server.cache.get reader store none).1 with
    | error fault => exact Or.inr ⟨_, .settings read loaded⟩
    | ok snapshot =>
      cases named : snapshot.value.macroModule with
      | error fault => exact Or.inr ⟨_, .module read loaded named⟩
      | ok module => exact exists_answer_of_serves ⟨read, snapshot, loaded, named⟩

/-- **When a tool gives no answer**: exactly in these cases. -/
theorem serve_error_iff : (serve reader tool path store server).1 = .error failure ↔
    Silent reader tool path store server failure := by
  refine ⟨fun stopped => ?_, serve_of_silent⟩
  rcases exists_answer_or_silent reader tool path store server with
    ⟨answer, same⟩ | ⟨failure', silent⟩
  · cases same.symm.trans stopped
  · cases (serve_of_silent silent).symm.trans stopped
    exact silent

end Failures

end Tools

end IfChains
