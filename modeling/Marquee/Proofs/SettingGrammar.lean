import Marquee.Setting
import Marquee.Proofs.CharacterBytes
import Marquee.Proofs.Checks
import Marquee.Proofs.PayloadUniqueness
import Mathlib.Data.List.Forall2

/-! What is said of a setting. Its name is looked at first, how many arguments there are next, and
the shape of the only one last. Shapes are of characters, whatever their bytes, and a sign is told
the argument without the marks between its digits. They are at fixed places, so nothing is lost. -/

namespace Marquee.Proofs.SettingGrammar
open CharacterBytes Checks

def Between (low high char : Char) : Prop := low ≤ char ∧ char ≤ high

def Plain (char : Char) : Prop :=
  Between '0' '9' char ∨ Between 'A' 'Z' char ∨ Between 'a' 'z' char

/-- An argument of the right shape, and what is left of it without its separators. -/
inductive Shaped : Setting → List Char → List Char → Prop
  | time {hour hour' minute minute' : Char} (early : Between '0' '2' hour)
      (digit : Between '0' '9' hour') (short : Between '0' '5' minute)
      (digit' : Between '0' '9' minute') :
      Shaped .time [hour, hour', ':', minute, minute'] [hour, hour', minute, minute']
  | date {month month' day day' year year' : Char} (early : Between '0' '1' month)
      (digit : Between '0' '9' month') (short : Between '0' '3' day) (digit' : Between '0' '9' day')
      (decade : Between '0' '9' year) (last : Between '0' '9' year') :
      Shaped .date [month, month', '/', day, day', '/', year, year']
        [month, month', day, day', year, year']
  | dayOfWeek {day : Char} (known : Between '1' '7' day) : Shaped .dayOfWeek [day] [day]
  | sequence {labels : List Char} (enough : 3 ≤ labels.length) (few : labels.length ≤ 130)
      (plain : ∀ label ∈ labels, Plain label) : Shaped .sequence labels labels

inductive Named : String → Setting → Prop
  | time : Named "settime" .time
  | date : Named "setdate" .date
  | dayOfWeek : Named "setday" .dayOfWeek
  | sequence : Named "setsequence" .sequence

/-- What the payload of a setting starts with. -/
def opening : Setting → String
  | .time => "E "
  | .date => "E;"
  | .dayOfWeek => "E&"
  | .sequence => "E."

/-- What is said of a setting, or its payload. -/
inductive Answered (name : String) (arguments : List String) : Except Fault Bytes → Prop
  | unknown (nameless : ∀ setting, ¬ Named name setting) :
      Answered name arguments (.error .unknownSetting)
  | arity {setting : Setting} (named : Named name setting) (uneven : arguments.length ≠ 1) :
      Answered name arguments (.error (.arity arguments.length))
  | misshapen {setting : Setting} {argument : String} (named : Named name setting)
      (only : arguments = [argument]) (shapeless : ∀ rest, ¬ Shaped setting argument.toList rest) :
      Answered name arguments (.error setting.fault)
  | accepted {setting : Setting} {argument rest : String} (named : Named name setting)
      (only : arguments = [argument]) (shaped : Shaped setting argument.toList rest.toList) :
      Answered name arguments (.ok (utf8 (opening setting ++ rest)))

section Places
open Setting

def bounds : Place → List Char
  | .range low high => [low, high]
  | .mark char => [char]

/-- The bounds of a place are characters of one byte. -/
def Narrow (place : Place) : Prop := ∀ bound ∈ bounds place, bound.toNat < 128

instance (place : Place) : Decidable (Narrow place) :=
  decidable_of_iff ((bounds place).all (·.toNat < 128)) (by simp [Narrow])

/-- A character at its place. -/
def Admits : Place → Char → Prop
  | .range low high, char => Between low high char
  | .mark mark, char => char = mark

variable {place : Place} (narrow : Narrow place) {char : Char}
include narrow

theorem holds_iff (ascii : char.toNat < 128) : place.holds char.toUInt8 ↔ Admits place char := by
  cases place with
  | range low high =>
    have small := narrow low List.mem_cons_self
    have large := narrow high (List.mem_cons_of_mem _ List.mem_cons_self)
    simp only [Place.holds, Bool.and_eq_true, decide_eq_true_eq, UInt8.le_iff_toNat_le,
      toNat_toUInt8 ascii, toNat_toUInt8 small, toNat_toUInt8 large]
    rfl
  | mark mark =>
    have small := narrow mark List.mem_cons_self
    rw [Place.holds, beq_iff_eq, ← UInt8.toNat_inj, toNat_toUInt8 ascii, toNat_toUInt8 small,
      Char.toNat_inj]
    rfl

theorem not_admits (beyond : 128 ≤ char.toNat) : ¬ Admits place char := by
  cases place with
  | range low high =>
    rintro ⟨-, within⟩
    have large := narrow high (List.mem_cons_of_mem _ List.mem_cons_self)
    exact absurd (Nat.le_trans beyond (UInt32.le_iff_toNat_le.mp within)) (Nat.not_le.mpr large)
  | mark mark =>
    rintro rfl
    exact absurd beyond (Nat.not_le.mpr (narrow _ List.mem_cons_self))

theorem not_holds {byte : UInt8} (beyond : 128 ≤ byte) : place.holds byte = false := by
  have large {bound : Char} (member : bound ∈ bounds place) : ¬ byte ≤ bound.toUInt8 := by
    intro within
    have small := UInt8.le_iff_toNat_le.mp (UInt8.le_trans beyond within)
    rw [toNat_toUInt8 (narrow bound member)] at small
    exact absurd (narrow bound member) (Nat.not_lt.mpr small)
  cases place with
  | range low high =>
    have outside := large (List.mem_cons_of_mem _ List.mem_cons_self)
    rw [Place.holds, decide_eq_false outside, Bool.and_false]
  | mark mark =>
    apply beq_false_of_ne
    rintro rfl
    exact large List.mem_cons_self (UInt8.le_refl _)

omit narrow in
theorem fits_utf8_iff {places : List Place} (narrow : ∀ place ∈ places, Narrow place)
    (chars : List Char) :
    fits places (chars.flatMap String.utf8EncodeChar) ↔ List.Forall₂ Admits places chars := by
  induction chars generalizing places with
  | nil => cases places <;> simp [fits]
  | cons char chars ih =>
    obtain ⟨byte, bytes, encoded⟩ :=
      List.exists_cons_of_ne_nil (String.utf8EncodeChar_ne_nil (c := char))
    rw [List.flatMap_cons]
    cases places with
    | nil => simp [fits, encoded]
    | cons place places =>
      obtain ⟨first, rest⟩ := List.forall_mem_cons.mp narrow
      rw [List.forall₂_cons]
      by_cases ascii : char.toNat < 128
      · rw [utf8EncodeChar_ascii ascii, List.singleton_append, fits, Bool.and_eq_true,
          holds_iff first ascii, ih rest]
      · -- No place takes any of its bytes, and the first one is enough to see it.
        have beyond := Nat.le_of_not_lt ascii
        have large : 128 ≤ byte := by
          apply le_of_mem_utf8EncodeChar beyond
          rw [encoded]
          exact List.mem_cons_self
        rw [encoded, List.cons_append, fits, not_holds first large]
        exact ⟨nofun, fun both => absurd both.1 (not_admits first beyond)⟩

end Places

section Letters
variable {char : Char}

theorem narrow_digit : Narrow (.range '0' '9') := by decide
theorem narrow_upper : Narrow (.range 'A' 'Z') := by decide
theorem narrow_lower : Narrow (.range 'a' 'z') := by decide

theorem not_plain (beyond : 128 ≤ char.toNat) : ¬ Plain char := by
  rintro (digit | upper | lower)
  · exact not_admits narrow_digit beyond digit
  · exact not_admits narrow_upper beyond upper
  · exact not_admits narrow_lower beyond lower

theorem isAlphanumeric_iff (ascii : char.toNat < 128) :
    Setting.isAlphanumeric char.toUInt8 ↔ Plain char := by
  have ranges := or_congr (or_congr (holds_iff narrow_digit ascii) (holds_iff narrow_upper ascii))
    (holds_iff narrow_lower ascii)
  rw [Setting.isAlphanumeric, Bool.or_eq_true, Bool.or_eq_true]
  exact ranges.trans or_assoc

theorem not_isAlphanumeric {byte : UInt8} (beyond : 128 ≤ byte) :
    Setting.isAlphanumeric byte = false := by
  change (Setting.Place.holds (.range '0' '9') byte || Setting.Place.holds (.range 'A' 'Z') byte ||
    Setting.Place.holds (.range 'a' 'z') byte) = false
  rw [not_holds narrow_digit beyond, not_holds narrow_upper beyond, not_holds narrow_lower beyond]
  rfl

theorem all_isAlphanumeric_iff (chars : List Char) :
    (chars.flatMap String.utf8EncodeChar).all Setting.isAlphanumeric ↔ ∀ char ∈ chars, Plain char := by
  induction chars with
  | nil => simp
  | cons char chars ih =>
    rw [List.flatMap_cons, List.all_append, Bool.and_eq_true, ih, List.forall_mem_cons]
    apply and_congr_left'
    by_cases ascii : char.toNat < 128
    · rw [utf8EncodeChar_ascii ascii, List.all_cons, List.all_nil, Bool.and_true,
        isAlphanumeric_iff ascii]
    · have beyond := Nat.le_of_not_lt ascii
      refine iff_of_false ?_ (not_plain beyond)
      intro plain
      obtain ⟨byte, member⟩ := List.exists_mem_of_ne_nil _ (String.utf8EncodeChar_ne_nil (c := char))
      have told := List.all_eq_true.mp plain byte member
      rw [not_isAlphanumeric (le_of_mem_utf8EncodeChar beyond byte member)] at told
      cases told

/-- Plain characters are bytes, so there are as many of the one as of the other. -/
theorem length_of_plain {chars : List Char} (plain : ∀ char ∈ chars, Plain char) :
    (chars.flatMap String.utf8EncodeChar).length = chars.length := by
  induction chars with
  | nil => rfl
  | cons char chars ih =>
    obtain ⟨first, rest⟩ := List.forall_mem_cons.mp plain
    have ascii : char.toNat < 128 := Nat.lt_of_not_le fun beyond => not_plain beyond first
    rw [List.flatMap_cons, utf8EncodeChar_ascii ascii, List.singleton_append, List.length_cons,
      ih rest, List.length_cons]

end Letters

section Separators

theorem ne_of_between {low high char mark : Char} (between : Between low high char)
    (outside : mark < low ∨ high < mark) : char ≠ mark := by
  rintro rfl
  rcases outside with before | behind
  · exact absurd between.1 (Char.not_le.mpr before)
  · exact absurd between.2 (Char.not_le.mpr behind)

theorem filter_utf8 {mark : Char} (small : mark.toNat < 128) (chars : List Char) :
    (chars.flatMap String.utf8EncodeChar).filter (some · != some mark.toUInt8) =
      (chars.filter (· != mark)).flatMap String.utf8EncodeChar := by
  induction chars with
  | nil => rfl
  | cons char chars ih =>
    rw [List.flatMap_cons, List.filter_append, ih, List.filter_cons]
    by_cases same : char = mark
    · rw [same, utf8EncodeChar_ascii small, bne_self_eq_false]
      simp
    · have absent : mark.toUInt8 ∉ String.utf8EncodeChar char :=
        mt (mem_glyph_iff small .utf8 char).mp same
      have kept : (String.utf8EncodeChar char).filter (some · != some mark.toUInt8) =
          String.utf8EncodeChar char := by
        rw [List.filter_eq_self]
        intro byte member
        have other : byte ≠ mark.toUInt8 := by
          rintro rfl
          exact absent member
        simpa using other
      rw [kept, if_pos (bne_iff_ne.mpr same), List.flatMap_cons]

end Separators

theorem forall₂_timeShape_iff {chars : List Char} :
    List.Forall₂ Admits Setting.timeShape chars ↔ ∃ rest, Shaped .time chars rest := by
  constructor
  · rintro (_ | ⟨early, _ | ⟨digit, _ | ⟨mark, _ | ⟨short, _ | ⟨digit', _ | _⟩⟩⟩⟩⟩)
    cases mark
    exact ⟨_, .time early digit short digit'⟩
  · rintro ⟨rest, shaped⟩
    cases shaped with
    | time early digit short digit' =>
      exact .cons early (.cons digit (.cons rfl (.cons short (.cons digit' .nil))))

theorem forall₂_dateShape_iff {chars : List Char} :
    List.Forall₂ Admits Setting.dateShape chars ↔ ∃ rest, Shaped .date chars rest := by
  constructor
  · rintro (_ | ⟨early, _ | ⟨digit, _ | ⟨mark, _ | ⟨short, _ | ⟨digit', _ | ⟨mark', _ | ⟨decade,
      _ | ⟨last, _ | _⟩⟩⟩⟩⟩⟩⟩⟩)
    cases mark
    cases mark'
    exact ⟨_, .date early digit short digit' decade last⟩
  · rintro ⟨rest, shaped⟩
    cases shaped with
    | date early digit short digit' decade last =>
      exact .cons early (.cons digit (.cons rfl (.cons short (.cons digit' (.cons rfl
        (.cons decade (.cons last .nil)))))))

theorem forall₂_dayShape_iff {chars : List Char} :
    List.Forall₂ Admits Setting.dayShape chars ↔ ∃ rest, Shaped .dayOfWeek chars rest := by
  constructor
  · rintro (_ | ⟨known, _ | _⟩)
    exact ⟨_, .dayOfWeek known⟩
  · rintro ⟨rest, shaped⟩
    cases shaped with
    | dayOfWeek known => exact .cons known .nil

theorem sequence_iff {chars : List Char} :
    Setting.sequence.accepts (chars.flatMap String.utf8EncodeChar) ↔
      ∃ rest, Shaped .sequence chars rest := by
  simp only [Setting.accepts, Bool.and_eq_true, decide_eq_true_eq, all_isAlphanumeric_iff]
  constructor
  · rintro ⟨⟨enough, few⟩, plain⟩
    rw [length_of_plain plain] at enough few
    exact ⟨_, .sequence enough few plain⟩
  · rintro ⟨rest, shaped⟩
    cases shaped with
    | sequence enough few plain =>
      rw [length_of_plain plain]
      exact ⟨⟨enough, few⟩, plain⟩

theorem accepts_iff {setting : Setting} {argument : String} :
    setting.accepts (utf8 argument) ↔ ∃ rest, Shaped setting argument.toList rest := by
  rw [utf8]
  cases setting with
  | time => rw [Setting.accepts, fits_utf8_iff (by decide), forall₂_timeShape_iff]
  | date => rw [Setting.accepts, fits_utf8_iff (by decide), forall₂_dateShape_iff]
  | dayOfWeek => rw [Setting.accepts, fits_utf8_iff (by decide), forall₂_dayShape_iff]
  | sequence => exact sequence_iff

/-- The marks are no digits, so only those between the digits are taken away. -/
theorem filter_of_shaped {setting : Setting} {chars rest : List Char}
    (shaped : Shaped setting chars rest) :
    (chars.flatMap String.utf8EncodeChar).filter (some · != setting.separator?) =
      rest.flatMap String.utf8EncodeChar := by
  have unmarked (bytes : Bytes) : bytes.filter (some · != none) = bytes := by simp
  cases shaped with
  | time early digit short digit' =>
    have other {high char : Char} (between : Between '0' high char) (below : high < ':') :
        char ≠ ':' := ne_of_between between (.inr below)
    refine (filter_utf8 (by decide) _).trans (congrArg _ ?_)
    simp [other early (by decide), other digit (by decide), other short (by decide),
      other digit' (by decide)]
  | date early digit short digit' decade last =>
    have other {high char : Char} (between : Between '0' high char) : char ≠ '/' :=
      ne_of_between between (.inl (by decide))
    refine (filter_utf8 (by decide) _).trans (congrArg _ ?_)
    simp [other early, other digit, other short, other digit', other decade, other last]
  | dayOfWeek => exact unmarked _
  | sequence => exact unmarked _

theorem Shaped.argument_inj {setting : Setting} {first second rest : List Char}
    (one : Shaped setting first rest) (other : Shaped setting second rest) : first = second := by
  cases one <;> cases other <;> rfl

theorem ofName?_eq_some_iff {name : String} {setting : Setting} :
    Setting.ofName? name = some setting ↔ Named name setting := by
  constructor
  · intro found
    obtain rfl : setting.name = name := by
      simpa using List.find?_some found
    cases setting <;> constructor
  · rintro (_ | _ | _ | _) <;> decide

theorem Named.name_inj {name other : String} {setting : Setting} (named : Named name setting)
    (also_named : Named other setting) : name = other := by
  cases named <;> cases also_named <;> rfl

theorem encode_eq_error_iff {setting : Setting} {arguments : List String} {fault : Fault} :
    setting.encode arguments = .error fault ↔
      (arguments.length ≠ 1 ∧ .arity arguments.length = fault) ∨
        ∃ argument, arguments = [argument] ∧ setting.accepts (utf8 argument) = false ∧
          setting.fault = fault := by
  match arguments with
  | [] => simp [Setting.encode]
  | [argument] =>
    cases accepted : setting.accepts (utf8 argument) <;> simp [Setting.encode, accepted]
  | first :: second :: rest => simp [Setting.encode]

theorem payload_setting (setting : Setting) (data : Bytes) :
    (Command.writeSpecial setting.function data).payload = utf8 (opening setting) ++ data := by
  have told : utf8 (opening setting) = ['E'.toUInt8, setting.function.byte] := by
    cases setting <;> decide
  rw [told]
  rfl

theorem payload_of_shaped {setting : Setting} {argument rest : String}
    (shaped : Shaped setting argument.toList rest.toList) :
    (setting.encode [argument]).map Command.payload = .ok (utf8 (opening setting ++ rest)) := by
  rw [Setting.encode, if_pos (accepts_iff.mpr ⟨_, shaped⟩), utf8, filter_of_shaped shaped, utf8_append,
    ← payload_setting]
  rfl

theorem encoded_of_answered {name : String} {arguments : List String} {answer : Except Fault Bytes}
    (answered : Answered name arguments answer) :
    (Setting.encodeNamed name arguments).map Command.payload = answer := by
  cases answered with
  | unknown nameless =>
    have none : Setting.ofName? name = none := by
      rw [Option.eq_none_iff_forall_ne_some]
      exact fun setting found => nameless setting (ofName?_eq_some_iff.mp found)
    simp only [Setting.encodeNamed, none]
    rfl
  | @arity setting named uneven =>
    have refused : setting.encode arguments = .error (.arity arguments.length) :=
      encode_eq_error_iff.mpr (.inl ⟨uneven, rfl⟩)
    simp only [Setting.encodeNamed, ofName?_eq_some_iff.mpr named, refused]
    rfl
  | @misshapen setting argument named only shapeless =>
    have unfit : setting.accepts (utf8 argument) = false := by
      rw [← Bool.not_eq_true, accepts_iff, not_exists]
      exact shapeless
    have refused := encode_eq_error_iff.mpr (.inr ⟨argument, only, unfit, rfl⟩)
    simp only [Setting.encodeNamed, ofName?_eq_some_iff.mpr named, refused]
    rfl
  | accepted named only shaped =>
    rw [only]
    simp only [Setting.encodeNamed, ofName?_eq_some_iff.mpr named, payload_of_shaped shaped]

theorem answered_total (name : String) (arguments : List String) :
    ∃ answer, Answered name arguments answer := by
  by_cases known : ∃ setting, Named name setting
  · obtain ⟨setting, named⟩ := known
    by_cases single : arguments.length = 1
    · obtain ⟨argument, only⟩ := List.length_eq_one_iff.mp single
      by_cases shaped : ∃ rest, Shaped setting argument.toList rest
      · obtain ⟨rest, shaped⟩ := shaped
        have bare : Shaped setting argument.toList (String.ofList rest).toList := by
          rwa [String.toList_ofList]
        exact ⟨_, .accepted named only bare⟩
      · exact ⟨_, .misshapen named only fun rest fits => shaped ⟨rest, fits⟩⟩
    · exact ⟨_, .arity named single⟩
  · exact ⟨_, .unknown fun setting named => known ⟨setting, named⟩⟩

/-- There is a rule for every name and all arguments, so the one that encoding follows is the only
one. -/
theorem encodeNamed_eq_iff {name : String} {arguments : List String} {answer : Except Fault Bytes} :
    (Setting.encodeNamed name arguments).map Command.payload = answer ↔
      Answered name arguments answer := by
  refine ⟨?_, encoded_of_answered⟩
  rintro rfl
  obtain ⟨answer, answered⟩ := answered_total name arguments
  rw [encoded_of_answered answered]
  exact answered

theorem told_inj {setting other : Setting} {rest rest' : String}
    (same : utf8 (opening setting ++ rest) = utf8 (opening other ++ rest')) :
    setting = other ∧ rest = rest' := by
  rw [utf8_append, utf8_append, ← payload_setting, ← payload_setting] at same
  simp only [Command.payload, List.cons.injEq, true_and] at same
  obtain ⟨functions, data⟩ := same
  refine ⟨?_, utf8_inj.mp data⟩
  have function := PayloadUniqueness.function_byte_inj functions
  revert function
  cases setting <;> cases other <;> decide

/-- What is said of a setting goes by its name, then by the number of its arguments, then by the
shape of the only one. What is told to a sign is the argument without its separators, and no other
setting and no other argument are told like that. -/
theorem setting_grammar :
    (∀ name arguments answer,
      (Setting.encodeNamed name arguments).map Command.payload = answer ↔
        Answered name arguments answer) ∧
    ∀ name arguments command other others command',
      Setting.encodeNamed name arguments = .ok command →
      Setting.encodeNamed other others = .ok command' →
      (command.payload = command'.payload ↔ name = other ∧ arguments = others) := by
  refine ⟨fun _ _ _ => encodeNamed_eq_iff, ?_⟩
  intro name arguments command other others command' encoded encoded'
  constructor
  · intro same
    have answered := encodeNamed_eq_iff.mp (map_eq_ok_iff.mpr ⟨command, encoded, rfl⟩)
    have answered' := encodeNamed_eq_iff.mp (map_eq_ok_iff.mpr ⟨command', encoded', same.symm⟩)
    generalize command.payload = payload at answered answered'
    cases answered with
    | @accepted setting argument rest named only shaped =>
      generalize told : utf8 (opening setting ++ rest) = payload at answered'
      cases answered' with
      | accepted named' only' shaped' =>
        obtain ⟨rfl, rfl⟩ := told_inj told
        refine ⟨named.name_inj named', ?_⟩
        rw [only, only', String.toList_inj.mp (shaped.argument_inj shaped')]
  · rintro ⟨rfl, rfl⟩
    rw [Except.ok.inj (encoded.symm.trans encoded')]

/-- The thirtieth of February is of the right shape, and a digit of two bytes is none. A time and a
sequence of the same digits are told apart. -/
theorem setting_grammar_digits :
    let time := Command.writeSpecial .setTime (utf8 "2959")
    let sequence := Command.writeSpecial .setSequence (utf8 "2959")
    Answered "setdate" ["02/30/24"] (.ok (utf8 "E;023024")) ∧
      Answered "settime" ["1٤:30"] (.error .time) ∧
      Setting.encodeNamed "settime" ["29:59"] = .ok time ∧
      Setting.encodeNamed "setsequence" ["2959"] = .ok sequence ∧
      (time.payload = sequence.payload ↔ "settime" = "setsequence" ∧ ["29:59"] = ["2959"]) := by
  intro time sequence
  obtain ⟨answers, told⟩ := setting_grammar
  have first : Setting.encodeNamed "settime" ["29:59"] = .ok time := by decide +kernel
  have second : Setting.encodeNamed "setsequence" ["2959"] = .ok sequence := by decide +kernel
  refine ⟨(answers _ _ _).mp ?_, (answers _ _ _).mp ?_, first, second,
    told _ _ _ _ _ _ first second⟩
  · decide +kernel
  · decide +kernel

end Marquee.Proofs.SettingGrammar
