import Marquee.Memory
import Marquee.Proofs.Checks
import Mathlib.Data.List.Forall2
import Mathlib.Order.Bounds.Defs

/-! Descriptors in a row. The sign is told of all the files or of none, and of the descriptors that
cannot be read the first one is reported, by its place and by what is wrong with it alone. Whatever
comes behind it is not looked at. -/

namespace Marquee.Proofs.FirstMisfit
open Memory Checks

variable {descriptors front : List String} {descriptor : String} {fault : Fault}

/-- Each descriptor on its own, in the same order. -/
def ReadEach (descriptors : List String) (layout : Layout) : Prop :=
  List.Forall₂ (fun descriptor file => FileSpec.parse descriptor = .ok file) descriptors layout

/-- The places of the descriptors that cannot be read on their own. -/
def misfits (descriptors : List String) : Set Nat :=
  {place | ∃ descriptor fault, descriptors[place]? = some descriptor ∧
    FileSpec.parse descriptor = .error fault}

theorem exists_readEach_iff :
    (∃ layout, ReadEach descriptors layout) ↔
      ∀ descriptor ∈ descriptors, ∃ file, FileSpec.parse descriptor = .ok file := by
  induction descriptors with
  | nil => exact ⟨fun _ => nofun, fun _ => ⟨[], .nil⟩⟩
  | cons descriptor descriptors ih =>
    rw [List.forall_mem_cons, ← ih]
    constructor
    · rintro ⟨_, _ | ⟨read, rest⟩⟩
      exact ⟨⟨_, read⟩, _, rest⟩
    · rintro ⟨⟨file, read⟩, layout, rest⟩
      exact ⟨file :: layout, .cons read rest⟩

theorem parseFrom_eq_ok_iff {index : Nat} {layout : Layout} :
    Layout.parseFrom index descriptors = .ok layout ↔ ReadEach descriptors layout := by
  unfold ReadEach
  induction descriptors generalizing index layout with
  | nil =>
    rw [Layout.parseFrom, List.forall₂_nil_left_iff]
    exact ⟨fun same => (Except.ok.inj same).symm, fun same => congrArg _ same.symm⟩
  | cons descriptor descriptors ih =>
    rw [List.forall₂_cons_left_iff]
    cases read : FileSpec.parse descriptor with
    | error fault => simp [Layout.parseFrom, read]
    | ok file =>
      simp only [Layout.parseFrom, read, map_eq_ok_iff, ih, Except.ok.injEq]
      constructor
      · rintro ⟨files, rest, rfl⟩
        exact ⟨file, files, rfl, rest, rfl⟩
      · rintro ⟨_, files, rfl, rest, rfl⟩
        exact ⟨files, rest, rfl⟩

theorem configure_eq_ok_iff {command : Command} :
    configure descriptors = .ok command ↔
      ∃ layout, ReadEach descriptors layout ∧ layout.command = command := by
  simp only [configure, map_eq_ok_iff, Layout.parse, parseFrom_eq_ok_iff]

/-- Descriptors are read in turn, and the first that cannot be read is told by its place. -/
theorem parseFrom_misread (fine : ∀ earlier ∈ front, ∃ file, FileSpec.parse earlier = .ok file)
    (misread : FileSpec.parse descriptor = .error fault) (back : List String) (index : Nat) :
    Layout.parseFrom index (front ++ descriptor :: back) = .error ⟨index + front.length, fault⟩ := by
  induction front generalizing index with
  | nil => simp only [List.nil_append, Layout.parseFrom, misread, List.length_nil, Nat.add_zero]
  | cons first front ih =>
    obtain ⟨⟨file, read⟩, rest⟩ := List.forall_mem_cons.mp fine
    simp only [List.cons_append, Layout.parseFrom, read, map_eq_error_iff]
    rw [ih rest, List.length_cons, Nat.add_right_comm, Nat.add_assoc]

theorem split_of_parseFrom {index : Nat} {misfit : Misfit}
    (failed : Layout.parseFrom index descriptors = .error misfit) :
    ∃ front descriptor back fault, descriptors = front ++ descriptor :: back ∧
      (∀ earlier ∈ front, ∃ file, FileSpec.parse earlier = .ok file) ∧
      FileSpec.parse descriptor = .error fault ∧ misfit = ⟨index + front.length, fault⟩ := by
  induction descriptors generalizing index with
  | nil => cases failed
  | cons descriptor rest ih =>
    match read : FileSpec.parse descriptor with
    | .error fault =>
      simp only [Layout.parseFrom, read, Except.error.injEq] at failed
      exact ⟨[], descriptor, rest, fault, rfl, nofun, read, failed.symm⟩
    | .ok file =>
      simp only [Layout.parseFrom, read, map_eq_error_iff] at failed
      obtain ⟨front, later, back, fault, rfl, fine, misread, rfl⟩ := ih failed
      refine ⟨descriptor :: front, later, back, fault, rfl, ?_, misread, ?_⟩
      · exact List.forall_mem_cons.mpr ⟨⟨file, read⟩, fine⟩
      · rw [List.length_cons, Nat.add_right_comm, Nat.add_assoc]

theorem configure_eq_error_iff {misfit : Misfit} :
    configure descriptors = .error misfit ↔
      ∃ front descriptor back fault, descriptors = front ++ descriptor :: back ∧
        (∀ earlier ∈ front, ∃ file, FileSpec.parse earlier = .ok file) ∧
        FileSpec.parse descriptor = .error fault ∧ misfit = ⟨front.length, fault⟩ := by
  rw [configure, map_eq_error_iff, Layout.parse]
  constructor
  · intro failed
    have split := split_of_parseFrom failed
    simpa only [Nat.zero_add] using split
  · rintro ⟨front, descriptor, back, fault, rfl, fine, misread, rfl⟩
    rw [parseFrom_misread fine misread, Nat.zero_add]

/-- A descriptor stands behind others that can all be read exactly if no earlier place is a misfit.
-/
theorem readable_take_iff {index : Nat} (inside : index ≤ descriptors.length) :
    (∀ earlier ∈ descriptors.take index, ∃ file, FileSpec.parse earlier = .ok file) ↔
      index ∈ lowerBounds (misfits descriptors) := by
  constructor
  · rintro fine place ⟨descriptor, fault, located, misread⟩
    refine Nat.le_of_not_lt fun before => ?_
    obtain ⟨file, read⟩ := fine descriptor
      (List.mem_of_getElem? ((List.getElem?_take_of_lt before).trans located))
    cases misread.symm.trans read
  · intro least descriptor member
    obtain ⟨place, located⟩ := List.mem_iff_getElem?.mp member
    have before : place < index := by
      have bound := (List.getElem?_eq_some_iff.mp located).1
      rw [List.length_take] at bound
      omega
    rw [List.getElem?_take_of_lt before] at located
    cases read : FileSpec.parse descriptor with
    | ok file => exact ⟨file, rfl⟩
    | error fault => exact absurd (least ⟨descriptor, fault, located, read⟩) (Nat.not_le.mpr before)

theorem configure_misfit_iff {index : Nat} :
    configure descriptors = .error ⟨index, fault⟩ ↔
      IsLeast (misfits descriptors) index ∧
        ∃ descriptor, descriptors[index]? = some descriptor ∧
          FileSpec.parse descriptor = .error fault := by
  rw [configure_eq_error_iff]
  constructor
  · rintro ⟨front, descriptor, back, _, rfl, fine, misread, same⟩
    cases same
    have located : (front ++ descriptor :: back)[front.length]? = some descriptor := by simp
    refine ⟨⟨⟨descriptor, fault, located, misread⟩, ?_⟩, descriptor, located, misread⟩
    rw [← readable_take_iff (by simp), List.take_left]
    exact fine
  · rintro ⟨⟨-, least⟩, descriptor, located, misread⟩
    obtain ⟨inside, rfl⟩ := List.getElem?_eq_some_iff.mp located
    have split : descriptors =
        descriptors.take index ++ descriptors[index] :: descriptors.drop (index + 1) := by
      rw [← List.drop_eq_getElem_cons inside, List.take_append_drop]
    refine ⟨_, _, _, fault, split, ?_, misread, ?_⟩
    · exact (readable_take_iff (Nat.le_of_lt inside)).mpr least
    · rw [List.length_take_of_le (Nat.le_of_lt inside)]

/-- A sign is told of all files or of none. The least place at which there is no file decides what
is reported, whatever stands behind it, and it is the same place and the same fault for those who
want the layout and no command. -/
theorem first_misfit_decides (descriptors : List String) :
    ((∃ command, configure descriptors = .ok command) ↔
      ∀ descriptor ∈ descriptors, ∃ file, FileSpec.parse descriptor = .ok file) ∧
    (∀ layout, ReadEach descriptors layout → ∃ command, configure descriptors = .ok command ∧
      command.payload = utf8 "E$" ++ layout.flatMap FileSpec.entry) ∧
    (∀ index fault, configure descriptors = .error ⟨index, fault⟩ ↔
      IsLeast (misfits descriptors) index ∧
        ∃ descriptor, descriptors[index]? = some descriptor ∧
          FileSpec.parse descriptor = .error fault) ∧
    (∀ index fault, configure descriptors = .error ⟨index, fault⟩ →
      ∀ others, configure (descriptors.take (index + 1) ++ others) = .error ⟨index, fault⟩) ∧
    (∀ layout, Layout.parse descriptors = .ok layout ↔ ReadEach descriptors layout) ∧
    (∀ command, configure descriptors = .ok command ↔
      ∃ layout, Layout.parse descriptors = .ok layout ∧ layout.command = command) ∧
    ∀ misfit, Layout.parse descriptors = .error misfit ↔ configure descriptors = .error misfit := by
  refine ⟨?_, ?_, fun _ _ => configure_misfit_iff, ?_, fun _ => parseFrom_eq_ok_iff,
    fun _ => map_eq_ok_iff, fun _ => map_eq_error_iff.symm⟩
  · rw [← exists_readEach_iff]
    constructor
    · rintro ⟨command, configured⟩
      obtain ⟨layout, each, -⟩ := configure_eq_ok_iff.mp configured
      exact ⟨layout, each⟩
    · rintro ⟨layout, each⟩
      exact ⟨layout.command, configure_eq_ok_iff.mpr ⟨layout, each, rfl⟩⟩
  · intro layout each
    exact ⟨layout.command, configure_eq_ok_iff.mpr ⟨layout, each, rfl⟩, rfl⟩
  · intro index fault failed others
    obtain ⟨front, descriptor, back, _, rfl, fine, misread, same⟩ := configure_eq_error_iff.mp failed
    cases same
    rw [List.take_length_add_append, List.append_assoc, configure_eq_error_iff]
    exact ⟨front, descriptor, others, fault, rfl, fine, misread, rfl⟩

/-- The second descriptor is of a string that is too long. The third one is no descriptor at all, or
one of a file that cannot be configured. -/
theorem first_misfit_decides_three :
    let good := ["t[A,10]", "s[1,20]"]
    let bad := ["s[A,10]", "s[B,500]", "x"]
    (∃ command, configure good = .ok command ∧
        command.payload = utf8 "E$AAU000A00FF1BL00140000") ∧
      configure bad = .error ⟨1, .stringSize⟩ ∧
      configure ["s[A,10]", "s[B,500]", "t[0,1]"] = .error ⟨1, .stringSize⟩ ∧
      Layout.parse bad = .error ⟨1, .stringSize⟩ := by
  intro good bad
  let layout : Layout :=
    [⟨.text, ⟨'A'.toUInt8, by decide⟩, 10⟩, ⟨.string, ⟨'1'.toUInt8, by decide⟩, 20⟩]
  have each : ReadEach good layout := .cons (by decide +kernel) (.cons (by decide +kernel) .nil)
  have failed : configure bad = .error ⟨1, .stringSize⟩ := by decide +kernel
  obtain ⟨-, whole, -⟩ := first_misfit_decides good
  obtain ⟨-, -, -, blind, -, -, alike⟩ := first_misfit_decides bad
  obtain ⟨command, configured, payload⟩ := whole layout each
  refine ⟨⟨command, configured, ?_⟩, failed, blind 1 _ failed ["t[0,1]"], (alike _).mpr failed⟩
  rw [payload]
  decide +kernel

end Marquee.Proofs.FirstMisfit
