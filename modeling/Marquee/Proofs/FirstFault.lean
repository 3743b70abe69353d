import Marquee.Proofs.DumpAgreement
import Marquee.Proofs.FirstMisfit
import Marquee.Proofs.PartialDelivery
import Marquee.Proofs.SettingGrammar

/-! What a run checks, in what order, and what comes of the first fault. Nothing is opened before
the last check, so a fault means that nobody has heard of the frame. -/

namespace Marquee.Proofs.FirstFault
open Checks DumpAgreement FirstMisfit PartialDelivery
open SettingGrammar (encode_eq_error_iff)

/-- Why there is no settings file to go by. One that nobody asked for may be missing. -/
inductive Unloadable (asked : Option String) (found : Except IoFault Bytes) : ConfigFault → Prop
  | unread {fault : IoFault} (failed : found = .error fault)
      (needed : asked ≠ none ∨ fault ≠ .notFound) :
      Unloadable asked found (.unreadable (asked.getD Session.defaultPath) fault)
  | garbled {bytes : Bytes} (read : found = .ok bytes)
      (invalid : String.fromUTF8? (ByteArray.mk bytes.toArray) = none) :
      Unloadable asked found (.unreadable (asked.getD Session.defaultPath) .notText)
  | malformed {bytes : Bytes} {document : String} {fault : ConfigFault} (read : found = .ok bytes)
      (valid : String.fromUTF8? (ByteArray.mk bytes.toArray) = some document)
      (unparsed : Config.parse document = .error fault) :
      Unloadable asked found fault

/-- What is wrong with the settings, once what the command line says has taken the place of what the
file says. -/
inductive Unresolvable (config : Config) (overrides : Overrides) : ConfigFault → Prop
  | address {fault : Fault}
      (wrong : Address.parse (overrides.address.getD config.sign.address) = .error fault) :
      Unresolvable config overrides (.address fault)
  | signType {address : Address} {fault : Fault}
      (addressed : Address.parse (overrides.address.getD config.sign.address) = .ok address)
      (wrong : SignType.parse (overrides.signType.getD config.sign.signType) = .error fault) :
      Unresolvable config overrides (.signType fault)
  | noSerialPath {address : Address} {signType : SignType}
      (addressed : Address.parse (overrides.address.getD config.sign.address) = .ok address)
      (typed : SignType.parse (overrides.signType.getD config.sign.signType) = .ok signType)
      (serial : config.link.kind = .serial) (missing : config.link.path = none) :
      Unresolvable config overrides .noSerialPath

/-- What is wrong with the arguments of an action. Those that it does not use are not looked at. -/
inductive Unbuildable (label : String) (data : List String) : Action → BuildFault → Prop
  | raw (missing : data = []) : Unbuildable label data .raw (.raw (.arity 0))
  | label {content : Content} {fault : Fault} (labelled : content = .text ∨ content = .string)
      (wrong : Label.parse label = .error fault) :
      Unbuildable label data (.encode content) (.label label fault)
  | arity {setting : Setting} (uneven : data.length ≠ 1) :
      Unbuildable label data (.encode (.setting setting)) (.setting setting (.arity data.length))
  | shape {setting : Setting} {argument : String} (only : data = [argument])
      (refused : setting.accepts (utf8 argument) = false) :
      Unbuildable label data (.encode (.setting setting)) (.setting setting setting.fault)
  | descriptor {front back : List String} {descriptor : String} {fault : Fault}
      (split : data = front ++ descriptor :: back)
      (fine : ∀ earlier ∈ front, ∃ file, Memory.FileSpec.parse earlier = .ok file)
      (misfit : Memory.FileSpec.parse descriptor = .error fault) :
      Unbuildable label data (.encode .memory) (.memory ⟨front.length, fault⟩)

/-- The first fault of a run. Each rule says that the stages before it went well, and nothing of the
stages after it. -/
inductive Refused (invocation : Invocation) (found : Except IoFault Bytes) : Failure → Prop
  | loading {fault : ConfigFault} (unloadable : Unloadable invocation.config found fault) :
      Refused invocation found (.loading fault)
  | settings {config : Config} {fault : ConfigFault}
      (loaded : (Session.load invocation.config found).2 = .ok config)
      (unresolvable : Unresolvable config invocation.overrides fault) :
      Refused invocation found (.settings fault)
  | building {config : Config} {settings : Settings} {fault : BuildFault}
      (loaded : (Session.load invocation.config found).2 = .ok config)
      (resolved : config.resolve invocation.overrides = .ok settings)
      (unbuildable : Unbuildable invocation.label invocation.data invocation.action fault) :
      Refused invocation found (.building fault)

/-- Every stage went well. -/
inductive Cleared (invocation : Invocation) (found : Except IoFault Bytes) (settings : Settings)
    (command : Command) : Prop
  | intro {config : Config} (loaded : (Session.load invocation.config found).2 = .ok config)
      (resolved : config.resolve invocation.overrides = .ok settings)
      (built : invocation.command settings.charset = .ok command) :
      Cleared invocation found settings command

theorem load_eq_error_iff {asked : Option String} {found : Except IoFault Bytes}
    {fault : ConfigFault} :
    (Session.load asked found).2 = .error fault ↔ Unloadable asked found fault := by
  constructor
  · intro failed
    unfold Session.load at failed
    split at failed
    next bytes =>
      split at failed
      next document valid => exact .malformed rfl valid failed
      next invalid =>
        cases failed
        exact .garbled rfl invalid
    next => cases failed
    next fault' other =>
      cases failed
      refine .unread rfl ?_
      by_contra! both
      obtain ⟨rfl, rfl⟩ := both
      exact other rfl rfl
  · rintro (⟨rfl, needed⟩ | ⟨rfl, invalid⟩ | ⟨rfl, valid, unparsed⟩)
    · unfold Session.load
      split
      next bytes same => cases same
      next same =>
        cases same
        simp at needed
      next same _ =>
        cases same
        rfl
    · simp only [Session.load, invalid]
    · simp only [Session.load, valid, unparsed]

theorem target_eq_error_iff {link : Config.LinkSection} {fault : ConfigFault} :
    Config.target link = .error fault ↔
      link.kind = .serial ∧ link.path = none ∧ fault = .noSerialPath := by
  cases kind : link.kind with
  | serial =>
    cases path : link.path with
    | none => simp [Config.target, kind, path, eq_comm]
    | some path' => simp [Config.target, kind, path]
  | usb | stdout => simp [Config.target, kind]

theorem resolve_eq_error_iff {config : Config} {overrides : Overrides} {fault : ConfigFault} :
    config.resolve overrides = .error fault ↔ Unresolvable config overrides fault := by
  simp only [Config.resolve, bind_eq_error_iff, mapError_eq_error_iff, mapError_eq_ok_iff,
    target_eq_error_iff]
  constructor
  · rintro (⟨cause, wrong, rfl⟩ | ⟨address, addressed, ⟨cause, wrong, rfl⟩ |
      ⟨signType, typed, ⟨serial, missing, rfl⟩ | ⟨target, found, passed⟩⟩⟩)
    · exact .address wrong
    · exact .signType addressed wrong
    · exact .noSerialPath addressed typed serial missing
    · cases passed
  · rintro (wrong | ⟨addressed, wrong⟩ | ⟨addressed, typed, serial, missing⟩)
    · exact .inl ⟨_, wrong, rfl⟩
    · exact .inr ⟨_, addressed, .inl ⟨_, wrong, rfl⟩⟩
    · exact .inr ⟨_, addressed, .inr ⟨_, typed, .inl ⟨serial, missing, rfl⟩⟩⟩

theorem ofFragments_eq_error_iff {data : List String} {fault : Fault} :
    Command.ofFragments data = .error fault ↔ data = [] ∧ fault = .arity 0 := by
  cases data with
  | nil => simp [Command.ofFragments, eq_comm]
  | cons fragment rest => simp [Command.ofFragments]

theorem command_eq_error_iff {action : Action} {label : String} {data : List String}
    {charset : Message.Charset} {fault : BuildFault} :
    action.command label data charset = .error fault ↔ Unbuildable label data action fault := by
  constructor
  · intro failed
    cases action with
    | clear | resumeSequence | softReset => cases failed
    | raw =>
      obtain ⟨cause, unread, rfl⟩ := mapError_eq_error_iff.mp failed
      obtain ⟨missing, rfl⟩ := ofFragments_eq_error_iff.mp unread
      exact .raw missing
    | encode content =>
      cases content with
      | text =>
        obtain unlabelled | ⟨file, -, built⟩ := bind_eq_error_iff.mp failed
        · obtain ⟨cause, wrong, rfl⟩ := mapError_eq_error_iff.mp unlabelled
          exact .label (.inl rfl) wrong
        · cases built
      | string =>
        obtain unlabelled | ⟨file, -, built⟩ := bind_eq_error_iff.mp failed
        · obtain ⟨cause, wrong, rfl⟩ := mapError_eq_error_iff.mp unlabelled
          exact .label (.inr rfl) wrong
        · cases built
      | setting setting =>
        obtain ⟨cause, unread, rfl⟩ := mapError_eq_error_iff.mp failed
        obtain ⟨uneven, rfl⟩ | ⟨argument, only, refused, rfl⟩ := encode_eq_error_iff.mp unread
        · exact .arity uneven
        · exact .shape only refused
      | memory =>
        obtain ⟨misfit, unread, rfl⟩ := mapError_eq_error_iff.mp failed
        obtain ⟨front, descriptor, back, fault, split, fine, misread, rfl⟩ :=
          configure_eq_error_iff.mp unread
        exact .descriptor split fine misread
  · intro unbuildable
    cases unbuildable with
    | raw missing => exact mapError_error (ofFragments_eq_error_iff.mpr ⟨missing, rfl⟩)
    | @label content cause labelled wrong =>
      have unlabelled : (Label.parse label).mapError (BuildFault.label label) =
          .error (.label label cause) := mapError_error wrong
      rcases labelled with rfl | rfl
      · exact bind_eq_error_iff.mpr (.inl unlabelled)
      · exact bind_eq_error_iff.mpr (.inl unlabelled)
    | arity uneven => exact mapError_error (encode_eq_error_iff.mpr (.inl ⟨uneven, rfl⟩))
    | shape only refused =>
      exact mapError_error (encode_eq_error_iff.mpr (.inr ⟨_, only, refused, rfl⟩))
    | descriptor split fine misread =>
      exact mapError_error (configure_eq_error_iff.mpr ⟨_, _, _, _, split, fine, misread, rfl⟩)

section Plan
variable {invocation : Invocation} {found : Except IoFault Bytes}

theorem refused_or_cleared (invocation : Invocation) (found : Except IoFault Bytes) :
    (∃ failure, Refused invocation found failure) ∨
      ∃ settings command, Cleared invocation found settings command := by
  match loaded : (Session.load invocation.config found).2 with
  | .error fault => exact .inl ⟨_, .loading (load_eq_error_iff.mp loaded)⟩
  | .ok config =>
    match resolved : config.resolve invocation.overrides with
    | .error fault => exact .inl ⟨_, .settings loaded (resolve_eq_error_iff.mp resolved)⟩
    | .ok settings =>
      match built : invocation.command settings.charset with
      | .error fault => exact .inl ⟨_, .building loaded resolved (command_eq_error_iff.mp built)⟩
      | .ok command => exact .inr ⟨settings, command, .intro loaded resolved built⟩

theorem prepare_unresolvable {config : Config} {fault : ConfigFault}
    (unresolvable : Unresolvable config invocation.overrides fault) :
    Session.prepare invocation config = .error (.settings fault) := by
  rw [Session.prepare, bind_eq_error_iff]
  exact .inl (mapError_error (resolve_eq_error_iff.mpr unresolvable))

theorem prepare_unbuildable {config : Config} {settings : Settings} {fault : BuildFault}
    (resolved : config.resolve invocation.overrides = .ok settings)
    (unbuildable : Unbuildable invocation.label invocation.data invocation.action fault) :
    Session.prepare invocation config = .error (.building fault) := by
  rw [Session.prepare, bind_eq_error_iff]
  refine .inr ⟨settings, mapError_eq_ok_iff.mpr resolved, ?_⟩
  rw [bind_eq_error_iff]
  exact .inl (mapError_error (command_eq_error_iff.mpr unbuildable))

theorem plan_refused {failure : Failure} (refused : Refused invocation found failure) :
    Session.plan invocation found = ((Session.load invocation.config found).1, .error failure) := by
  rw [Session.plan, Prod.mk.injEq, bind_eq_error_iff]
  refine ⟨rfl, ?_⟩
  cases refused with
  | loading unloadable => exact .inl (mapError_error (load_eq_error_iff.mpr unloadable))
  | settings loaded unresolvable =>
    refine .inr ⟨_, mapError_eq_ok_iff.mpr loaded, ?_⟩
    exact bind_eq_error_iff.mpr (.inl (prepare_unresolvable unresolvable))
  | building loaded resolved unbuildable =>
    refine .inr ⟨_, mapError_eq_ok_iff.mpr loaded, ?_⟩
    exact bind_eq_error_iff.mpr (.inl (prepare_unbuildable resolved unbuildable))

end Plan

/-- How it ends for a frame that passed every check, and what the shell is told. Only the first way
is a success. -/
inductive Delivery {σ : Type} (host : Host σ) (taken : σ → Bytes) (settings : Settings)
    (frame : Bytes) : Session.Outcome σ → Nat → Prop
  | whole {state last : σ} {logs : List Entry} (opened : host.connect settings.target = .ok state)
      (took : taken last = taken state ++ frame) :
      Delivery host taken settings frame
        { logs, sent := some (settings.target, ⟨settings.pacing.schedule frame, .ok (), last⟩) } 0
  | broken {state last : σ} {logs : List Entry} {steps : List Step} {bytes : Bytes}
      {fault : LinkFault} (opened : host.connect settings.target = .ok state)
      (early : steps <+: settings.pacing.schedule frame) (front : bytes <+: frame)
      (took : taken last = taken state ++ bytes) :
      Delivery host taken settings frame
        { failure := some (.delivery fault), logs
          sent := some (settings.target, ⟨steps, .error fault, last⟩) } 1
  | unopened {logs : List Entry} {fault : LinkFault}
      (closed : host.connect settings.target = .error fault) :
      Delivery host taken settings frame { failure := some (.delivery fault), logs } 1

section Run
variable {σ : Type} {host : Host σ} {taken : σ → Bytes}

theorem Delivery.logged {settings : Settings} {frame : Bytes} {outcome : Session.Outcome σ}
    {code : Nat} (delivery : Delivery host taken settings frame outcome code) (logs : List Entry) :
    Delivery host taken settings frame { outcome with logs := logs ++ outcome.logs } code := by
  cases delivery with
  | whole opened took => exact .whole opened took
  | broken opened early front took => exact .broken opened early front took
  | unopened closed => exact .unopened closed

theorem deliver_orderly (orderly : Orderly host.link taken) (job : Job) :
    Delivery host taken job.settings job.frame (Session.deliver host job)
      (Session.deliver host job).exit := by
  cases opened : host.connect job.settings.target with
  | error fault =>
    simp only [Session.deliver, opened]
    exact .unopened opened
  | ok state =>
    have front := orderly.send state job.settings.pacing job.frame
    obtain ⟨early, complete⟩ :=
      done_of_perform host.link (job.settings.pacing.schedule job.frame) state
    rw [← Link.send] at early complete
    rcases sent : host.link.send job.settings.pacing job.frame state with ⟨steps, result, last⟩
    cases result with
    | ok =>
      rw [sent] at front complete
      obtain rfl : steps = job.settings.pacing.schedule job.frame := complete rfl
      obtain ⟨logs, delivered⟩ := deliver_ok opened sent
      rw [delivered]
      exact .whole opened front.took
    | error fault =>
      rw [sent] at front early
      obtain ⟨bytes, start, took, -⟩ := front
      simp only [Session.deliver, opened, sent]
      exact .broken opened early start took

variable {invocation : Invocation}

theorem run_refused (host : Host σ) {failure : Failure}
    (refused : Refused invocation (host.read (Session.path invocation)) failure) :
    Session.run host invocation =
      { failure := some failure
        logs := (Session.load invocation.config (host.read (Session.path invocation))).1 } := by
  rw [Session.run, plan_refused refused]

theorem run_cleared (host : Host σ) {settings : Settings} {command : Command}
    (cleared : Cleared invocation (host.read (Session.path invocation)) settings command)
    (sending : invocation.dump = false) (orderly : Orderly host.link taken) :
    Delivery host taken settings (Frame.ofCommand settings.address settings.signType command).wire
      (Session.run host invocation) (Session.run host invocation).exit := by
  obtain ⟨loaded, resolved, built⟩ := cleared
  rw [Session.run, plan_ok host invocation loaded resolved built, sending]
  exact (deliver_orderly orderly ⟨settings, invocation.action, command⟩).logged _

end Run

section Program
variable {directory : Directory}

/-- A target that got nothing is left as it was. -/
theorem receive_nil (directory : Directory) (target : Target) :
    directory.receive target [] = ([], directory) := by
  have kept (name : String) : directory.overwrite name [] = directory := by
    have same : directory.files.map (fun file => if file.1 = name then (name, file.2) else file) =
        directory.files.map id := by
      refine List.map_congr_left fun file _ => ?_
      split
      next named => rw [← named]; rfl
      next => rfl
    simp only [Directory.overwrite, List.nil_append, List.length_nil, List.drop_zero, same,
      List.map_id]
  unfold Directory.receive
  split
  · rfl
  · rfl
  · split
    · rfl
    · rw [kept]
    · rfl

theorem taken_of_connect {directory : Directory} {target : Target} {opened : Sink.Opened}
    (connected : directory.connect target = .ok opened) : opened.held.taken = [] := by
  unfold Directory.connect at connected
  split at connected
  · cases connected
  · split at connected <;> cases connected <;> rfl
  · cases connected
    rfl

variable {words : List String} {invocation : Invocation} (environment : Option String)
  (parsed : Invocation.parse words = .ok invocation)
include parsed

theorem runIn_refused {failure : Failure}
    (refused : Refused invocation (directory.read (Session.path invocation)) failure) :
    let (ending, after) := Program.runIn directory words environment
    ending.exit = 1 ∧ ending.output = [] ∧
      ending.report = some (Report.render failure.chain) ∧ after = directory := by
  have outcome := run_refused directory.host refused
  simp only [Program.runIn, parsed, outcome]
  exact ⟨rfl, rfl, rfl, trivial⟩

theorem runIn_cleared {settings : Settings} {command : Command}
    (cleared : Cleared invocation (directory.read (Session.path invocation)) settings command)
    (sending : invocation.dump = false) :
    let frame := (Frame.ofCommand settings.address settings.signType command).wire
    let (ending, after) := Program.runIn directory words environment
    ∃ bytes, (ending.output, after) = directory.receive settings.target bytes ∧
      (ending.exit = 0 ∧ bytes = frame ∨ ending.exit = 1 ∧ bytes <+: frame) := by
  intro frame
  have delivery := run_cleared directory.host cleared sending counting_sink.link
  simp only [Program.runIn, parsed]
  -- How the run ended is all that counts from here on.
  generalize Session.run directory.host invocation = outcome at delivery ⊢
  generalize outcome.exit = code at delivery ⊢
  cases delivery with
  | whole opened took =>
    rw [taken_of_connect opened, List.nil_append] at took
    exact ⟨frame, congrArg (directory.receive settings.target) took, .inl ⟨rfl, rfl⟩⟩
  | @broken _ _ _ _ bytes _ opened _ front took =>
    rw [taken_of_connect opened, List.nil_append] at took
    exact ⟨bytes, congrArg (directory.receive settings.target) took, .inr ⟨rfl, front⟩⟩
  | unopened closed =>
    exact ⟨[], (receive_nil directory settings.target).symm, .inr ⟨rfl, List.nil_prefix⟩⟩

end Program

end Marquee.Proofs.FirstFault
