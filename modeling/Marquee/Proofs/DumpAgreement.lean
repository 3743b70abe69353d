import Mathlib
import Marquee.Program
import Marquee.Proofs.Checks
import Marquee.Proofs.Delivery

/-! A frame is shown or it is sent. What is shown can be read back, and it is the frame that the
target of the same run would have. -/

namespace Marquee.Proofs.DumpAgreement
open Checks Delivery

/-- A byte as two digits, and nothing else. -/
def byte? : List Char → Option UInt8
  | [high, low] => do return (16 * (← Toml.hexValue? high) + (← Toml.hexValue? low)).toUInt8
  | _ => none

/-- Reads what stands between the spaces. -/
def readDump (text : String) : Option Bytes := (text.toList.splitOn ' ').mapM byte?

theorem hexValue?_digit : ∀ value < 16, Toml.hexValue? (Hex.digit value) = some value := by decide

theorem byte?_pair (byte : UInt8) : byte? (Hex.pair byte) = some byte := by
  have bound := byte.toNat_lt
  have high := hexValue?_digit (byte.toNat / 16) (by omega)
  have low := hexValue?_digit (byte.toNat % 16) (by omega)
  simp only [Hex.pair, byte?, high, low, Option.pure_def, Option.bind_eq_bind, Option.bind_some,
    Nat.div_add_mod, UInt8.ofNat_toNat, Nat.toUInt8_eq]

theorem space_notMem_pair (byte : UInt8) : ' ' ∉ Hex.pair byte := by
  have solid : ∀ value < 16, ' ' ≠ Hex.digit value := by decide
  have bound := byte.toNat_lt
  simp only [Hex.pair, List.mem_cons, List.not_mem_nil, or_false, not_or]
  exact ⟨solid _ (by omega), solid _ (by omega)⟩

theorem readDump_dump {bytes : Bytes} (filled : bytes ≠ []) :
    readDump (Hex.dump bytes) = some bytes := by
  have solid : ∀ word ∈ bytes.map Hex.pair, ' ' ∉ word := by
    rw [List.forall_mem_map]
    exact fun byte _ => space_notMem_pair byte
  have pairs : bytes.map Hex.pair ≠ [] := mt List.map_eq_nil_iff.mp filled
  have reading : byte? ∘ Hex.pair = fun byte => pure byte := funext byte?_pair
  rw [readDump, Hex.dump, String.toList_ofList, List.splitOn_intercalate ' ' solid pairs,
    List.mapM_map, reading, List.mapM_pure, List.map_id']
  rfl

theorem deliver_ok {σ : Type} {host : Host σ} {job : Job} {state last : σ} {steps : List Step}
    (opened : host.connect job.settings.target = .ok state)
    (sent : host.link.send job.settings.pacing job.frame state = ⟨steps, .ok (), last⟩) :
    ∃ logs, Session.deliver host job =
      { logs, sent := some (job.settings.target, ⟨steps, .ok (), last⟩) } := by
  simp only [Session.deliver, opened, sent]
  exact ⟨_, rfl⟩

section Run
variable {σ : Type} (host : Host σ) (invocation : Invocation) {config : Config}
  {settings : Settings} {command : Command}
  (loaded : (Session.load invocation.config (host.read (Session.path invocation))).2 = .ok config)
  (resolved : config.resolve invocation.overrides = .ok settings)
  (built : invocation.command settings.charset = .ok command)
include loaded resolved built

/-- Past every check there is one thing left to do. -/
theorem plan_ok :
    let job : Job := ⟨settings, invocation.action, command⟩
    Session.plan invocation (host.read (Session.path invocation)) =
      ((Session.load invocation.config (host.read (Session.path invocation))).1,
        .ok (if invocation.dump then .print (Hex.dump job.frame ++ "\n") else .deliver job)) := by
  have prepared :
      Session.prepare invocation config = .ok ⟨settings, invocation.action, command⟩ := by
    rw [Session.prepare, bind_eq_ok_iff]
    refine ⟨settings, mapError_eq_ok_iff.mpr resolved, ?_⟩
    rw [bind_eq_ok_iff]
    exact ⟨command, mapError_eq_ok_iff.mpr built, rfl⟩
  rw [Session.plan, Prod.mk.injEq, bind_eq_ok_iff]
  refine ⟨rfl, config, mapError_eq_ok_iff.mpr loaded, ?_⟩
  rw [bind_eq_ok_iff]
  exact ⟨_, prepared, rfl⟩

/-- What is shown does not depend on whether the target is there. -/
theorem run_dump (showing : invocation.dump = true) :
    Session.run host invocation =
      { printed := Hex.dump (Frame.ofCommand settings.address settings.signType command).wire ++ "\n"
        logs := (Session.load invocation.config (host.read (Session.path invocation))).1 } := by
  rw [Session.run, plan_ok host invocation loaded resolved built, if_pos showing]
  rfl

theorem run_delivery {ready : σ → Prop} {taken : σ → Bytes} {state : σ}
    (sending : invocation.dump = false) (faithful : Faithful host.link ready taken)
    (opened : host.connect settings.target = .ok state) (held : ready state) :
    let frame := (Frame.ofCommand settings.address settings.signType command).wire
    ∃ logs last, Session.run host invocation =
        { logs, sent := some (settings.target, ⟨settings.pacing.schedule frame, .ok (), last⟩) } ∧
      taken last = taken state ++ frame := by
  intro frame
  obtain ⟨last, sent, -, whole⟩ := faithful.send held settings.pacing frame
  obtain ⟨logs, delivered⟩ : ∃ logs, Session.deliver host ⟨settings, invocation.action, command⟩ =
      { logs, sent := some (settings.target, ⟨settings.pacing.schedule frame, .ok (), last⟩) } :=
    deliver_ok opened sent
  refine ⟨(Session.load invocation.config (host.read (Session.path invocation))).1 ++ logs, last,
    ?_, whole⟩
  rw [Session.run, plan_ok host invocation loaded resolved built, sending]
  simp only [Bool.false_eq_true, if_false, delivered]

/-- Once the settings hold and there is a command, the same run can show its frame and touch no
link, or send it to a target that refuses nothing, whatever the pace. Both are the same bytes. -/
theorem dump_agrees :
    let frame := (Frame.ofCommand settings.address settings.signType command).wire
    Session.run host { invocation with dump := true } =
        { printed := Hex.dump frame ++ "\n"
          logs := (Session.load invocation.config (host.read (Session.path invocation))).1 } ∧
      (∀ (writer : Writer σ) (ready : σ → Prop) (taken : σ → Bytes) (state : σ),
        host.link = writer.link → Accepting writer ready taken →
        host.connect settings.target = .ok state → ready state →
        ∃ logs last, Session.run host { invocation with dump := false } =
            { logs, sent := some (settings.target, ⟨settings.pacing.schedule frame, .ok (), last⟩) } ∧
          taken last = taken state ++ frame) ∧
      readDump (Hex.dump frame) = some frame := by
  intro frame
  refine ⟨run_dump host _ loaded resolved built rfl, ?_, ?_⟩
  · intro writer ready taken state linked accepting opened held
    have faithful : Faithful host.link ready taken := linked ▸ accepting.link
    exact run_delivery host { invocation with dump := false } loaded resolved built rfl faithful
      opened held
  · exact readDump_dump (List.cons_ne_nil _ _)

end Run

/-- The target takes a byte at a time, and every second call to it is interrupted. -/
theorem dump_agrees_reluctant :
    let sink : Sink := { mostAtOnce := some 1, interruptEvery := 2 }
    let host : Host Sink.Opened := {
      read := fun _ => .ok (utf8 "link.kind=\x22stdout\x22")
      connect := fun _ => .ok { sink }
      link := Sink.Opened.writer.link }
    let invocation : Invocation := { data := ["[red]", "20°"], overrides := { delay := some 250 } }
    let config : Config := { link := { kind := .stdout } }
    let settings : Settings := ⟨.broadcast, .allSigns, .utf8, .stdout, { delay := 250 }⟩
    let command := Message.compileMessage Message.Charset.utf8.table ⟨'A'.toUInt8, by decide⟩
      invocation.data
    let frame := (Frame.ofCommand settings.address settings.signType command).wire
    (Session.load invocation.config (host.read (Session.path invocation))).2 = .ok config ∧
      config.resolve invocation.overrides = .ok settings ∧
      invocation.command settings.charset = .ok command ∧
      (Session.run host { invocation with dump := true }).printed = Hex.dump frame ++ "\n" ∧
      ∃ logs last, Session.run host { invocation with dump := false } =
          { logs, sent := some (.stdout, ⟨settings.pacing.schedule frame, .ok (), last⟩) } ∧
        last.held.taken = frame ∧ readDump (Hex.dump frame) = some frame := by
  intro sink host invocation config settings command frame
  have entries : Toml.parse "link.kind=\x22stdout\x22" =
      some [("link", .table .dotted [("kind", .text "stdout")])] := by cbv
  have parsed : Config.parse "link.kind=\x22stdout\x22" = .ok config := by
    rw [Config.parse, entries]
    rfl
  have text : String.fromUTF8? (ByteArray.mk (utf8 "link.kind=\x22stdout\x22").toArray) =
      some "link.kind=\x22stdout\x22" := by cbv
  have loaded :
      (Session.load invocation.config (host.read (Session.path invocation))).2 = .ok config := by
    simp only [Session.load, host, text, parsed]
  have resolved : config.resolve invocation.overrides = .ok settings := by cbv
  have built : invocation.command settings.charset = .ok command := by
    have label : Label.parse "A" = .ok ⟨'A'.toUInt8, by decide⟩ := rfl
    simp only [Invocation.command, Invocation.action, Action.command, invocation, label]
    rfl
  obtain ⟨shown, sent, read⟩ := dump_agrees host invocation loaded resolved built
  obtain ⟨logs, last, delivered, whole⟩ := sent Sink.Opened.writer (·.sink.capacity = none)
    (·.held.taken) { sink } rfl accepting_sink rfl rfl
  refine ⟨loaded, resolved, built, ?_, logs, last, delivered, whole, read⟩
  rw [shown]

section Program
variable {directory : Directory} {words : List String} {invocation : Invocation} {config : Config}
  {settings : Settings} {command : Command} (environment : Option String)
  (parsed : Invocation.parse words = .ok invocation)
  (loaded : (Session.load invocation.config (directory.read (Session.path invocation))).2 = .ok config)
  (resolved : config.resolve invocation.overrides = .ok settings)
  (built : invocation.command settings.charset = .ok command)
include parsed loaded resolved built

theorem runIn_dump (showing : invocation.dump = true) :
    let frame := (Frame.ofCommand settings.address settings.signType command).wire
    let (ending, after) := Program.runIn directory words environment
    ending.exit = 0 ∧ ending.output = utf8 (Hex.dump frame ++ "\n") ∧ after = directory := by
  have shown := run_dump directory.host invocation loaded resolved built showing
  simp only [Program.runIn, parsed, shown]
  exact ⟨rfl, List.append_nil _, trivial⟩

/-- A target in the directory ends up with the frame, as if it had come in one piece. -/
theorem runIn_delivery (sending : invocation.dump = false)
    (opened : directory.connect settings.target = .ok {}) :
    let frame := (Frame.ofCommand settings.address settings.signType command).wire
    let (ending, after) := Program.runIn directory words environment
    ending.exit = 0 ∧ (ending.output, after) = directory.receive settings.target frame := by
  intro frame
  obtain ⟨logs, last, sent, whole⟩ :=
    run_delivery directory.host invocation loaded resolved built sending accepting_sink.link
      opened rfl
  simp only [Program.runIn, parsed, sent, whole]
  exact ⟨rfl, rfl⟩

end Program

end Marquee.Proofs.DumpAgreement
