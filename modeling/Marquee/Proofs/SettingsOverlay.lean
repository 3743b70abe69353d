import Marquee.Proofs.FirstFault

/-! Settings that are overruled. What the command line says lies over what the file says, and only
what is seen from above counts. A value underneath does no harm if it is wrong and no good if it is
right. -/

namespace Marquee.Proofs.SettingsOverlay
open Checks FirstFault

/-- A settings file with everything replaced that is overruled. -/
def overlay (config : Config) (overrides : Overrides) : Config where
  sign := { config.sign with
    address := overrides.address.getD config.sign.address
    signType := overrides.signType.getD config.sign.signType }
  link := { config.link with delay := overrides.delay.getD config.link.delay }

/-- Two settings files that look the same from above. -/
structure AlikeAbove (overrides : Overrides) (one other : Config) : Prop where
  address : overrides.address = none → one.sign.address = other.sign.address
  signType : overrides.signType = none → one.sign.signType = other.sign.signType
  charset : one.sign.charset = other.sign.charset
  kind : one.link.kind = other.link.kind
  vendor : one.link.vendor = other.link.vendor
  product : one.link.product = other.link.product
  path : one.link.path = other.link.path
  delay : overrides.delay = none → one.link.delay = other.link.delay

/-- Where a link goes. Only a serial one has to be told. -/
inductive Reaches (link : Config.LinkSection) : Target → Prop
  | usb (plugged : link.kind = .usb) : Reaches link (.usb link.vendor link.product)
  | serial {path : String} (wired : link.kind = .serial) (told : link.path = some path) :
      Reaches link (.serial path)
  | stdout (piped : link.kind = .stdout) : Reaches link .stdout

/-- What comes of a settings file with nothing wrong in it. -/
structure Settled (config : Config) (settings : Settings) : Prop where
  address : Address.parse config.sign.address = .ok settings.address
  signType : SignType.parse config.sign.signType = .ok settings.signType
  charset : settings.charset = config.sign.charset
  target : Reaches config.link settings.target
  pacing : settings.pacing = ⟨config.link.delay, 1⟩

section Link
variable {link : Config.LinkSection}

theorem target_eq_ok_iff {target : Target} :
    Config.target link = .ok target ↔ Reaches link target := by
  constructor
  · intro found
    unfold Config.target at found
    split at found
    next plugged => cases found; exact .usb plugged
    next wired told => cases found; exact .serial wired told
    next => cases found
    next piped => cases found; exact .stdout piped
  · intro reaches
    cases reaches with
    | usb plugged => simp only [Config.target, plugged]
    | serial wired told => simp only [Config.target, wired, told]
    | stdout piped => simp only [Config.target, piped]

theorem exists_reaches_iff :
    (∃ target, Reaches link target) ↔ ¬ (link.kind = .serial ∧ link.path = none) := by
  constructor
  · intro ⟨target, reaches⟩ ⟨serial, missing⟩
    cases reaches with
    | usb plugged => cases plugged.symm.trans serial
    | serial _ told => cases told.symm.trans missing
    | stdout piped => cases piped.symm.trans serial
  · intro told
    cases kind : link.kind with
    | usb => exact ⟨_, .usb kind⟩
    | stdout => exact ⟨_, .stdout kind⟩
    | serial =>
      obtain ⟨path, named⟩ := Option.ne_none_iff_exists'.mp fun missing => told ⟨kind, missing⟩
      exact ⟨_, .serial kind named⟩

/-- With one byte in a write, every byte is written by itself. -/
theorem chunks_one (bytes : Bytes) : chunks 1 bytes = bytes.map fun byte => [byte] := by
  induction bytes with
  | nil => rw [chunks, if_pos rfl, List.map_nil]
  | cons byte rest ih =>
    rw [chunks, if_neg (List.cons_ne_nil byte rest), List.map_cons, ← ih]
    rfl

end Link

section Overlay
variable {config other : Config} {overrides : Overrides} {settings : Settings}

theorem resolve_eq_overlay (config : Config) (overrides : Overrides) :
    config.resolve overrides = (overlay config overrides).resolve {} := rfl

/-- Nothing above hides the link. -/
theorem reaches_overlay_iff {target : Target} :
    Reaches (overlay config overrides).link target ↔ Reaches config.link target := by
  rw [← target_eq_ok_iff, ← target_eq_ok_iff]
  rfl

theorem overlay_congr (alike : AlikeAbove overrides config other) :
    overlay config overrides = overlay other overrides := by
  have seen {α : Type} {above : Option α} {one other : α} (same : above = none → one = other) :
      above.getD one = above.getD other := by
    cases above with
    | none => exact same rfl
    | some value => rfl
  obtain ⟨address, signType, charset, kind, vendor, product, path, delay⟩ := alike
  simp only [overlay, seen address, seen signType, charset, kind, vendor, product, path, seen delay]

theorem resolve_eq_ok_iff :
    config.resolve overrides = .ok settings ↔ Settled (overlay config overrides) settings := by
  rw [resolve_eq_overlay]
  generalize overlay config overrides = effective
  simp only [Config.resolve, bind_eq_ok_iff, mapError_eq_ok_iff, target_eq_ok_iff]
  constructor
  · intro resolved
    obtain ⟨address, addressed, signType, typed, target, reaches, same⟩ := resolved
    cases same
    exact ⟨addressed, typed, rfl, reaches, rfl⟩
  · intro settled
    obtain ⟨addressed, typed, charset, reaches, pacing⟩ := settled
    refine ⟨settings.address, addressed, settings.signType, typed, settings.target, reaches, ?_⟩
    apply congrArg Except.ok
    obtain ⟨address, signType, _, target, _⟩ := settings
    cases charset
    cases pacing
    rfl

theorem exists_settled_iff :
    (∃ settings, Settled config settings) ↔
      (∃ address, Address.parse config.sign.address = .ok address) ∧
      (∃ signType, SignType.parse config.sign.signType = .ok signType) ∧
      ¬ (config.link.kind = .serial ∧ config.link.path = none) := by
  rw [← exists_reaches_iff]
  constructor
  · intro ⟨settings, settled⟩
    exact ⟨⟨_, settled.address⟩, ⟨_, settled.signType⟩, ⟨_, settled.target⟩⟩
  · intro ⟨⟨address, addressed⟩, ⟨signType, typed⟩, ⟨target, reaches⟩⟩
    exact ⟨⟨address, signType, config.sign.charset, target, ⟨config.link.delay, 1⟩⟩,
      ⟨addressed, typed, rfl, reaches, rfl⟩⟩

/-- What is wrong on the command line stays wrong, whatever the file says. -/
theorem resolve_wrong_address {text : String} {fault : Fault} (above : overrides.address = some text)
    (wrong : Address.parse text = .error fault) :
    config.resolve overrides = .error (.address fault) := by
  rw [resolve_eq_error_iff]
  apply Unresolvable.address
  rw [above]
  exact wrong

theorem resolve_wrong_signType {text : String} {fault : Fault} (above : overrides.signType = some text)
    (wrong : SignType.parse text = .error fault) : config.resolve overrides ≠ .ok settings := by
  intro resolved
  have typed := (resolve_eq_ok_iff.mp resolved).signType
  simp only [overlay, above, Option.getD_some, wrong] at typed
  cases typed

end Overlay

/-- Settings are what the overlay comes to with nothing said on the command line. There are settings
just if its address and its sign type can be read and a serial link has a path, and else the first
of the three that fails is reported. Two files that look the same from above come to the same, so
nothing wrong underneath is ever noticed, and nothing right underneath helps against what is wrong
above. The charset and the link are those of the file, and every byte is written by itself. -/
theorem resolve_overlay (config : Config) (overrides : Overrides) :
    let effective := overlay config overrides
    config.resolve overrides = effective.resolve {} ∧
    ((∃ settings, config.resolve overrides = .ok settings) ↔
      (∃ address, Address.parse effective.sign.address = .ok address) ∧
      (∃ signType, SignType.parse effective.sign.signType = .ok signType) ∧
      ¬ (config.link.kind = .serial ∧ config.link.path = none)) ∧
    (∀ fault, config.resolve overrides = .error fault ↔ Unresolvable effective {} fault) ∧
    (∀ other, AlikeAbove overrides config other → other.resolve overrides = config.resolve overrides) ∧
    (∀ text fault, overrides.address = some text → Address.parse text = .error fault →
      config.resolve overrides = .error (.address fault)) ∧
    (∀ text fault settings, overrides.signType = some text → SignType.parse text = .error fault →
      config.resolve overrides ≠ .ok settings) ∧
    ∀ settings, config.resolve overrides = .ok settings →
      Settled effective settings ∧ settings.charset = config.sign.charset ∧
      Reaches config.link settings.target ∧
      ∀ frame, chunks settings.pacing.chunk frame = frame.map fun byte => [byte] := by
  intro effective
  refine ⟨rfl, ?_, ?_, ?_, fun _ _ => resolve_wrong_address,
    fun _ _ _ => resolve_wrong_signType, ?_⟩
  · simp only [resolve_eq_ok_iff]
    exact exists_settled_iff
  · intro fault
    rw [resolve_eq_overlay]
    exact resolve_eq_error_iff
  · intro other alike
    rw [resolve_eq_overlay, resolve_eq_overlay config, overlay_congr alike]
  · intro settings resolved
    have settled := resolve_eq_ok_iff.mp resolved
    refine ⟨settled, settled.charset, reaches_overlay_iff.mp settled.target, ?_⟩
    intro frame
    rw [settled.pacing]
    exact chunks_one frame

/-- With both of its names wrong, the file is as good as any other under a command line that names
the sign. It does not help to have them right if the command line has not. -/
theorem resolve_overlay_masked :
    let wrong : Config :=
      { sign := { address := "G0", signType := "jumbotron", charset := .extended }
        link := { kind := .serial, path := some "/dev/ttyUSB0", delay := 7 } }
    let right : Config := { wrong with sign := { charset := .extended } }
    let named : Overrides := { address := some "0?", signType := some "^" }
    let misnamed : Overrides := { signType := some "jumbotron" }
    let settings : Settings :=
      ⟨⟨'0'.toUInt8, '?'.toUInt8⟩, .betaBrite, .extended, .serial "/dev/ttyUSB0", ⟨7, 1⟩⟩
    right.resolve named = .ok settings ∧ wrong.resolve named = .ok settings ∧
      wrong.resolve {} = .error (.address .address) ∧ right.resolve misnamed ≠ .ok settings ∧
      chunks settings.pacing.chunk [1, 2] = [[1], [2]] := by
  intro wrong right named misnamed settings
  have alike : AlikeAbove named right wrong := ⟨nofun, nofun, rfl, rfl, rfl, rfl, rfl, fun _ => rfl⟩
  have resolved : right.resolve named = .ok settings := by cbv
  obtain ⟨-, -, -, masked, -, -, settled⟩ := resolve_overlay right named
  obtain ⟨-, -, -, -, -, unrescued, -⟩ := resolve_overlay right misnamed
  obtain ⟨-, -, faults, -⟩ := resolve_overlay wrong {}
  refine ⟨resolved, (masked wrong alike).trans resolved, (faults _).mpr (.address (by cbv)), ?_,
    (settled settings resolved).2.2.2 [1, 2]⟩
  exact unrescued "jumbotron" .unknownSignType settings rfl (by cbv)

end Marquee.Proofs.SettingsOverlay
