import SchemaGate.Command.Run
import SchemaGate.Proofs.Runs
/-!
Reports of commands. A command that needs a configuration meets the server only if the configuration
can be used. What is printed while nobody listens is what the command told to print, piece by piece.
-/

set_option autoImplicit false

namespace SchemaGate

variable {σ : Type}

def Note.printed? : Note → Option String
  | .printed text => some text
  | _ => none

def Observation.printed? : Observation → Option String
  | .printed text => some text
  | _ => none

theorem Exchange.against_print (server : Server σ) (t : σ) (text : String) :
    against server (print text) t = ⟨.ok (), [.printed text], [], 0, t⟩ := rfl

namespace Command

/-- A configuration that can be used, in the environment that the environment file leaves: it is
there, it can be read, and its URL passes the check. -/
structure Usable (env : Config.Environment) (files : Files) (path : String)
    (settings : Config.Settings) : Prop where
  found : files.leadsSomewhere path = true
  loaded : Config.Settings.load (Config.EnvFile.load env files) files path = .ok settings
  checked : settings.connection.check = .ok ()

/-- Why a configuration cannot be used. -/
inductive Unusable (env : Config.Environment) (files : Files) (path : String) : Fault → Prop where
  | missing (absent : files.leadsSomewhere path = false) :
      Unusable env files path (.noConfiguration path)
  | unread {fault : Config.Fault} (found : files.leadsSomewhere path = true)
      (failed : Config.Settings.load (Config.EnvFile.load env files) files path = .error fault) :
      Unusable env files path (.failure (.config fault))
  | refused {settings : Config.Settings} {fault : Config.Fault}
      (found : files.leadsSomewhere path = true)
      (loaded : Config.Settings.load (Config.EnvFile.load env files) files path = .ok settings)
      (failed : settings.connection.check = .error fault) :
      Unusable env files path (.failure (.config fault))

section Prepare

variable {env : Config.Environment} {files : Files} {path : String} {settings : Config.Settings}

theorem prepare_of_usable (usable : Usable env files path settings) :
    prepare env files path = .ok (inEffect (Config.EnvFile.load env files) settings) := by
  unfold prepare
  simp only [usable.found, usable.loaded, usable.checked, Bool.not_true, Bool.false_eq_true,
    if_false]

theorem prepare_of_unusable {fault : Fault} (unusable : Unusable env files path fault) :
    prepare env files path = .error fault := by
  unfold prepare
  cases unusable with
  | missing absent => simp only [absent, Bool.not_false, if_true]
  | unread found failed => simp only [found, failed, Bool.not_true, Bool.false_eq_true, if_false]
  | refused found loaded failed =>
    simp only [found, loaded, failed, Bool.not_true, Bool.false_eq_true, if_false]

theorem usable_or_unusable (env : Config.Environment) (files : Files) (path : String) :
    (∃ settings, Usable env files path settings) ∨ ∃ fault, Unusable env files path fault := by
  cases found : files.leadsSomewhere path with
  | false => exact .inr ⟨_, .missing found⟩
  | true =>
    cases loaded : Config.Settings.load (Config.EnvFile.load env files) files path with
    | error fault => exact .inr ⟨_, .unread found loaded⟩
    | ok settings =>
      cases checked : settings.connection.check with
      | error fault => exact .inr ⟨_, .refused found loaded checked⟩
      | ok _ => exact .inl ⟨settings, found, loaded, checked⟩

end Prepare

namespace Report

@[simp] theorem asked_ofRun (logging : Option Config.Logging) (verbose : Bool)
    (r : Run (Except Failure Unit) σ) : (ofRun logging verbose r).asked = r.asked := rfl

@[simp] theorem state_ofRun (logging : Option Config.Logging) (verbose : Bool)
    (r : Run (Except Failure Unit) σ) : (ofRun logging verbose r).state = r.state := rfl

def prints (r : Report σ) : List String := r.seen.filterMap Observation.printed?

theorem prints_ofRun (logging : Option Config.Logging) (verbose : Bool)
    (r : Run (Except Failure Unit) σ) :
    (ofRun logging verbose r).prints = r.notes.filterMap Note.printed? := by
  have delivered (emitter : Log.Emitter) (c : Log.Channel) (text : String) :
      (emitter.emit c text).filterMap Observation.printed? = [] := by
    rw [List.filterMap_eq_nil_iff]
    intro o member
    obtain ⟨sink, -, made⟩ := List.mem_flatMap.mp member
    rcases List.mem_cons.mp made with rfl | report
    · rfl
    · split at report
      · obtain rfl := List.mem_singleton.mp report
        rfl
      · exact nomatch report
  change (r.notes.flatMap (Log.observe (audience verbose))).filterMap _ = _
  induction r.notes with
  | nil => rfl
  | cons n notes ih =>
    rw [List.flatMap_cons, List.filterMap_append, ih, List.filterMap_cons]
    cases n with
    | event e => rfl
    | message c text => exact congrArg (· ++ _) (delivered _ c text)
    | printed text => rfl

theorem output_ofRun (logging : Option Config.Logging) (r : Run (Except Failure Unit) σ) :
    (ofRun logging false r).output = String.join (ofRun logging false r).prints := by
  rw [prints_ofRun]
  change String.join ((r.notes.flatMap (Log.observe none)).map shown) = _
  induction r.notes with
  | nil => rfl
  | cons n notes ih =>
    rw [List.flatMap_cons, List.map_append, String.join_append, ih, List.filterMap_cons]
    cases n with
    | event e => rfl
    | message c text => cases c <;> rfl
    | printed text => simp [Log.observe, Log.Emitter.observe, shown, Note.printed?]

end Report

end Command

end SchemaGate
