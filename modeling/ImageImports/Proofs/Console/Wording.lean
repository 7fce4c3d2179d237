import ImageImports.Command.Run
import ImageImports.Proofs.Console.Markup
import ImageImports.Proofs.Wording

/-!
# Wording in markup

Most of what is shown beside the texts of an image is wording of the program's own.  It
holds neither brackets nor backslashes, so it means nothing in markup and guards nothing
(`Quiet`).

## Main results

* `Quiet.liveTags_append` — wording leaves what follows it alone.
-/

namespace ImageImports.Console

open Markup
open Wording (Plain)

/-- A character that means nothing in markup. -/
def isQuiet (c : Char) : Bool := decide (c ≠ '[' ∧ c ≠ ']' ∧ c ≠ '\\')

/-- A text of characters that mean nothing in markup. -/
def Quiet (s : String) : Prop := s.toList.all isQuiet = true

instance (s : String) : Decidable (Quiet s) := inferInstanceAs (Decidable (_ = true))

/-! ## Markup -/

theorem Quiet.forall {s : String} (h : Quiet s) :
    ∀ c ∈ s.toList, c ≠ '[' ∧ c ≠ ']' ∧ c ≠ '\\' :=
  fun c hc => of_decide_eq_true (List.all_eq_true.1 h c hc)

/-- Wording leaves the next bracket what it is. -/
theorem Quiet.opensNext {s : String} (h : Quiet s) {rest : List Char}
    (hrest : OpensNext rest) :
    OpensNext (s.toList ++ rest) :=
  opensNext_append (fun c hc => (h.forall c hc).2.1) hrest

theorem Quiet.opensNext_toList {s : String} (h : Quiet s) : OpensNext s.toList := by
  have hs := h.opensNext opensNext_nil
  rwa [List.append_nil] at hs

/-- Wording leaves what follows it alone. -/
theorem Quiet.liveTags_append {s : String} (h : Quiet s) (hne : s ≠ "") (slashes : Nat)
    (rest : List Char) : liveTags slashes (s.toList ++ rest) = liveTags 0 rest := by
  have hcs : s.toList ≠ [] := fun hnil => hne (String.toList_eq_nil_iff.1 hnil)
  exact Markup.liveTags_append (fun c hc => ⟨(h.forall c hc).2.2, (h.forall c hc).1⟩)
    hcs slashes rest

theorem Quiet.liveTags {s : String} (h : Quiet s) (slashes : Nat) :
    liveTags slashes s.toList = [] := by
  by_cases hne : s = ""
  · rw [hne]
    exact liveTags_nil slashes
  · have hs := h.liveTags_append hne slashes []
    rwa [List.append_nil, liveTags_nil] at hs

/-- Wording can be shown. -/
theorem Quiet.shows {s : String} (h : Quiet s) : Shows s := by
  refine Followable.shows ?_
  rw [h.liveTags]
  exact followable_nil

/-! ## Words -/

@[simp] theorem quiet_append_iff {s t : String} : Quiet (s ++ t) ↔ Quiet s ∧ Quiet t :=
  Wording.wholly_append_iff

@[simp] theorem quiet_toString_string {s : String} :
    Quiet (toString s) ↔ Quiet s := Iff.rfl

theorem quiet_pushn {c : Char} (h : isQuiet c = true) (n : Nat) :
    Quiet ("".pushn c n) := Wording.wholly_pushn h n

/-- What is plain means nothing in markup. -/
theorem quiet_of_plain {s : String} (h : Plain s) : Quiet s := by
  refine Wording.Wholly.mono (fun c hc => ?_) h
  obtain ⟨hopen, hclose, hslash, -⟩ := of_decide_eq_true hc
  exact decide_eq_true ⟨hopen, hclose, hslash⟩

@[simp] theorem quiet_natRepr (n : Nat) : Quiet n.repr := quiet_of_plain (Wording.plain_natRepr n)

@[simp] theorem quiet_intRepr (n : Int) : Quiet n.repr := quiet_of_plain (Wording.plain_intRepr n)

@[simp] theorem quiet_hexNumber (n : Int) : Quiet (Bytes.hexNumber n) :=
  quiet_of_plain (Wording.plain_hexNumber n)

@[simp] theorem quiet_grouped (n : Int) : Quiet (Decimal.grouped n) :=
  quiet_of_plain (Wording.plain_grouped n)

@[simp] theorem quiet_fixed (b : Decimal.Binary) (places : Nat) : Quiet (b.fixed places) :=
  quiet_of_plain (Wording.plain_fixed b places)

/-- Seconds are told in digits, or in a word where they are no number. -/
@[simp] theorem quiet_secondsText (x : Float) : Quiet (Command.secondsText x) := by
  rw [Command.secondsText]
  split
  · exact quiet_fixed _ 2
  · exact quiet_of_plain (Wording.plain_shortest x)

@[simp] theorem quiet_secondText (s : Calendar.Second) : Quiet s.text :=
  quiet_of_plain (Wording.plain_secondText s)

@[simp] theorem quiet_hex (bytes : ByteArray) : Quiet (Bytes.hex bytes) :=
  quiet_of_plain (Wording.plain_hex bytes)

/-! ## Names and words of an image -/

@[simp] theorem quiet_machineName (machine : Nat) :
    Quiet (Header.machineName machine) := quiet_of_plain (Wording.plain_machineName machine)

@[simp] theorem quiet_subsystemName (subsystem : Nat) :
    Quiet (Header.subsystemName subsystem) :=
  quiet_of_plain (Wording.plain_subsystemName subsystem)

@[simp] theorem quiet_kindWord (kind : Import.FailureKind) : Quiet kind.word :=
  quiet_of_plain (Wording.plain_kindWord kind)

theorem quiet_flags (s : Section) : Quiet s.flags := quiet_of_plain (Wording.plain_flags s)

theorem quiet_formatWord (bits : Int) : Quiet (Analysis.formatWord bits) := by
  rw [Analysis.formatWord]
  split
  · decide
  · split
    · decide
    · decide

theorem quiet_importOutcome (t : Import.Table) : Quiet (Analysis.importOutcome t) := by
  rw [Analysis.importOutcome]
  split
  · decide
  · simp +decide

/-- The summary of an analysis is wording if the name of its machine is. -/
theorem quiet_summary {a : Analysis} (h : Quiet a.info.arch) (count : Nat) :
    Quiet (a.summary count) := by
  rw [Analysis.summary]
  split
  · refine Wording.wholly_intercalate (by decide) ?_
    show ∀ s ∈ _, Quiet s
    simp +decide [h, quiet_formatWord, quiet_importOutcome]
  · simp +decide

end ImageImports.Console
