import ImageImports.Decimal.Fixed
import ImageImports.Image
import ImageImports.Image.Header
import ImageImports.Text.Quoted

/-!
# The wording of the program

Beside the texts of an image, what is told is wording of the program's own: fixed words,
numbers, dates and digests.  Their characters are plain: none of them is a bracket or a
backslash, which mean something in markup, and none is a line feed.

## Main results

* `plain_shortest` — the text of a number is wording, whatever the number is.
* `mem_of_mem_quoted` — quotes put no bracket, no colon and no line feed into a text.
-/

namespace ImageImports.Wording

/-! ## Texts of one class of characters -/

/-- A text of characters that satisfy `p`. -/
def Wholly (p : Char → Bool) (s : String) : Prop := s.toList.all p = true

instance (p : Char → Bool) (s : String) : Decidable (Wholly p s) :=
  inferInstanceAs (Decidable (_ = true))

section

variable {p q : Char → Bool}

theorem Wholly.forall {s : String} (h : Wholly p s) : ∀ c ∈ s.toList, p c = true :=
  List.all_eq_true.1 h

theorem Wholly.mono {s : String} (hpq : ∀ c, p c = true → q c = true) (h : Wholly p s) :
    Wholly q s :=
  List.all_eq_true.2 fun c hc => hpq c (h.forall c hc)

theorem wholly_append_iff {s t : String} : Wholly p (s ++ t) ↔ Wholly p s ∧ Wholly p t := by
  rw [Wholly, String.toList_append, List.all_append, Bool.and_eq_true, Wholly, Wholly]

theorem wholly_ofList {cs : List Char} (h : ∀ c ∈ cs, p c = true) :
    Wholly p (String.ofList cs) := by
  rw [Wholly, String.toList_ofList]
  exact List.all_eq_true.2 h

theorem wholly_pushn {c : Char} (h : p c = true) (n : Nat) : Wholly p ("".pushn c n) := by
  rw [String.pushn_eq_repeat_push]
  induction n with
  | zero => rfl
  | succ n ih =>
    rw [Nat.repeat, Wholly, String.toList_push, List.all_append, Bool.and_eq_true]
    exact ⟨ih, by rw [List.all_cons, h, List.all_nil, Bool.and_true]⟩

theorem wholly_intercalate {separator : String} (hseparator : Wholly p separator)
    {texts : List String} (h : ∀ s ∈ texts, Wholly p s) :
    Wholly p (separator.intercalate texts) := by
  induction texts with
  | nil => rfl
  | cons s rest ih =>
    have hrest := ih fun t ht => h t (List.mem_cons_of_mem s ht)
    have hs := h s List.mem_cons_self
    cases rest with
    | nil => rwa [String.intercalate_singleton]
    | cons t more =>
      rw [String.intercalate_cons_cons, wholly_append_iff, wholly_append_iff]
      exact ⟨⟨hs, hseparator⟩, hrest⟩

/-- A name from a table, or what stands for it. -/
theorem wholly_lookup_getD {names : List (Nat × String)} (h : ∀ entry ∈ names, Wholly p entry.2)
    (n : Nat) {other : String} (hother : Wholly p other) :
    Wholly p ((names.lookup n).getD other) := by
  cases hfound : names.lookup n with
  | none => exact hother
  | some name =>
    obtain ⟨before, behind, heq, -⟩ := List.lookup_eq_some_iff.1 hfound
    refine h (n, name) ?_
    rw [heq]
    exact List.mem_append_right before List.mem_cons_self

end

/-! ## Plain texts -/

/-- A character that means nothing in markup and ends no line. -/
def isPlain (c : Char) : Bool := decide (c ≠ '[' ∧ c ≠ ']' ∧ c ≠ '\\' ∧ c ≠ '\n')

/-- A text of plain characters. -/
def Plain (s : String) : Prop := Wholly isPlain s

instance (s : String) : Decidable (Plain s) := inferInstanceAs (Decidable (Wholly _ _))

@[simp] theorem plain_append_iff {s t : String} : Plain (s ++ t) ↔ Plain s ∧ Plain t :=
  wholly_append_iff

@[simp] theorem plain_toString_string {s : String} : Plain (toString s) ↔ Plain s := Iff.rfl

/-! ## Numbers -/

theorem isPlain_digitChar (n : Nat) : isPlain n.digitChar = true :=
  decide_eq_true ⟨Nat.digitChar_ne '[' (by decide), Nat.digitChar_ne ']' (by decide),
    Nat.digitChar_ne '\\' (by decide), Nat.digitChar_ne '\n' (by decide)⟩

theorem forall_mem_toDigitsCore {p : Char → Prop} (h : ∀ n : Nat, p n.digitChar)
    {base fuel n : Nat} {cs : List Char} (hcs : ∀ d ∈ cs, p d) :
    ∀ d ∈ Nat.toDigitsCore base fuel n cs, p d := by
  induction fuel generalizing n cs with
  | zero => exact hcs
  | succ fuel ih =>
    rw [Nat.toDigitsCore]
    have hnext : ∀ d ∈ (n % base).digitChar :: cs, p d :=
      List.forall_mem_cons.2 ⟨h _, hcs⟩
    split
    · exact hnext
    · exact ih hnext

theorem forall_mem_toDigits {p : Char → Prop} (h : ∀ n : Nat, p n.digitChar) {base n : Nat} :
    ∀ c ∈ Nat.toDigits base n, p c :=
  forall_mem_toDigitsCore h fun d hd => by cases hd

theorem isPlain_of_mem_toDigits {base n : Nat} {c : Char} (h : c ∈ Nat.toDigits base n) :
    isPlain c = true :=
  forall_mem_toDigits (p := fun c => isPlain c = true) isPlain_digitChar c h

@[simp] theorem plain_natRepr (n : Nat) : Plain n.repr := by
  rw [Nat.repr]
  exact wholly_ofList fun c hc => isPlain_of_mem_toDigits hc

@[simp] theorem plain_intRepr (n : Int) : Plain n.repr := by
  cases n with
  | ofNat n => exact plain_natRepr n
  | negSucc n => exact plain_append_iff.2 ⟨by decide, plain_natRepr _⟩

@[simp] theorem plain_hexNumber (n : Int) : Plain (Bytes.hexNumber n) := by
  refine plain_append_iff.2 ⟨?_, wholly_ofList fun c hc => isPlain_of_mem_toDigits hc⟩
  split
  · decide
  · decide

/-- Grouping digits from the back adds commas alone. -/
theorem mem_groupThousands_go {c : Char} {count : Nat} {left out : List Char}
    (h : c ∈ Decimal.groupThousands.go count left out) : c = ',' ∨ c ∈ left ∨ c ∈ out := by
  induction left generalizing count out with
  | nil => exact .inr (.inr h)
  | cons d rest ih =>
    rw [Decimal.groupThousands.go] at h
    split at h
    · rcases ih h with hc | hc | hc
      · exact .inl hc
      · exact .inr (.inl (List.mem_cons_of_mem d hc))
      · rcases List.mem_cons.1 hc with hc | hc
        · exact .inl hc
        · rcases List.mem_cons.1 hc with rfl | hc
          · exact .inr (.inl List.mem_cons_self)
          · exact .inr (.inr hc)
    · rcases ih h with hc | hc | hc
      · exact .inl hc
      · exact .inr (.inl (List.mem_cons_of_mem d hc))
      · rcases List.mem_cons.1 hc with rfl | hc
        · exact .inr (.inl List.mem_cons_self)
        · exact .inr (.inr hc)

/-- Grouping digits keeps them and adds commas. -/
theorem mem_groupThousands {digits : List Char} {c : Char}
    (h : c ∈ Decimal.groupThousands digits) :
    c = ',' ∨ c ∈ digits := by
  rcases mem_groupThousands_go ((List.dropWhile_sublist _).mem h) with hc | hc | hc
  · exact .inl hc
  · exact .inr (List.mem_reverse.1 hc)
  · cases hc

@[simp] theorem plain_grouped (n : Int) : Plain (Decimal.grouped n) := by
  refine plain_append_iff.2 ⟨?_, wholly_ofList fun c hc => ?_⟩
  · split
    · decide
    · decide
  · rcases mem_groupThousands hc with rfl | hc
    · decide
    · exact isPlain_of_mem_toDigits hc

@[simp] theorem plain_fixed (b : Decimal.Binary) (places : Nat) :
    Plain (b.fixed places) := by
  have hpadded (n : Nat) : ∀ c ∈ List.replicate n '0' ++
      Decimal.digitChars (Decimal.roundDiv (b.num * Decimal.tenTo places) b.den),
        isPlain c = true := by
    intro c hc
    rcases List.mem_append.1 hc with hc | hc
    · rw [List.eq_of_mem_replicate hc]
      decide
    · exact isPlain_of_mem_toDigits hc
  refine plain_append_iff.2 ⟨?_, plain_append_iff.2 ⟨?_, ?_⟩⟩
  · split
    · decide
    · decide
  · exact wholly_ofList fun c hc => hpadded _ c (List.mem_of_mem_take hc)
  · split
    · decide
    · exact plain_append_iff.2
        ⟨by decide, wholly_ofList fun c hc => hpadded _ c (List.mem_of_mem_drop hc)⟩

/-! ### The shortest text of a number -/

theorem isPlain_of_mem_shortestDigits {b : Decimal.Binary} {c : Char}
    (h : c ∈ (Decimal.shortestDigits b).1) : isPlain c = true := by
  rw [Decimal.shortestDigits] at h
  have hdigits := (List.dropWhile_sublist _).mem (List.mem_reverse.1 h)
  exact isPlain_of_mem_toDigits (List.mem_reverse.1 hdigits)

theorem plain_exponentText (e : Int) : Plain (Decimal.exponentText e) := by
  have hdigits : Plain (String.ofList (Decimal.digitChars e.natAbs)) :=
    wholly_ofList fun c hc => isPlain_of_mem_toDigits hc
  refine plain_append_iff.2 ⟨?_, ?_⟩
  · split
    · decide
    · decide
  · split
    · exact plain_append_iff.2 ⟨by decide, hdigits⟩
    · exact hdigits

/-- Digits around a point are plain. -/
theorem plain_layOut {digits : List Char} (h : ∀ c ∈ digits, isPlain c = true) (point : Int) :
    Plain (Decimal.layOut digits point) := by
  have hzeros (n : Nat) : ∀ c ∈ List.replicate n '0', isPlain c = true := by
    intro c hc
    rw [List.eq_of_mem_replicate hc]
    decide
  have hboth {cs ds : List Char} (hcs : ∀ c ∈ cs, isPlain c = true)
      (hds : ∀ c ∈ ds, isPlain c = true) : Plain (String.ofList (cs ++ ds)) :=
    wholly_ofList (List.forall_mem_append.2 ⟨hcs, hds⟩)
  have hpoint {cs : List Char} (hcs : ∀ c ∈ cs, isPlain c = true) :
      ∀ c ∈ '.' :: cs, isPlain c = true := List.forall_mem_cons.2 ⟨by decide, hcs⟩
  unfold Decimal.layOut
  simp only
  split
  · split
    · exact plain_append_iff.2 ⟨by decide, hboth (hzeros _) h⟩
    · split
      · exact plain_append_iff.2 ⟨hboth h (hzeros _), by decide⟩
      · exact hboth (fun c hc => h c (List.mem_of_mem_take hc))
          (hpoint fun c hc => h c (List.mem_of_mem_drop hc))
  · refine plain_append_iff.2 ⟨plain_append_iff.2 ⟨wholly_ofList ?_, by decide⟩,
      plain_exponentText _⟩
    unfold Decimal.significand
    split
    · exact h
    · rw [List.forall_mem_cons] at h ⊢
      exact ⟨h.1, hpoint h.2⟩
    · exact List.forall_mem_singleton.2 rfl

@[simp] theorem plain_shortest (x : Float) : Plain (Decimal.shortest x) := by
  rw [Decimal.shortest]
  split
  · next b hfinite =>
    rw [Decimal.Binary.text]
    refine plain_append_iff.2 ⟨?_, ?_⟩
    · split
      · decide
      · decide
    · split
      · decide
      · exact plain_layOut (fun c hc => isPlain_of_mem_shortestDigits hc) _
  · split
    · decide
    · decide
  · decide

/-! ### Dates and digests -/

@[simp] theorem plain_padded (width n : Nat) : Plain (Calendar.padded width n) :=
  plain_append_iff.2 ⟨wholly_pushn (by decide) _, plain_natRepr n⟩

@[simp] theorem plain_secondText (s : Calendar.Second) : Plain s.text := by
  simp +decide [Calendar.Second.text, Calendar.clockText]

@[simp] theorem plain_hex (bytes : ByteArray) : Plain (Bytes.hex bytes) := by
  have hdigit : ∀ n < 16, isPlain (Bytes.hexDigit n) = true := by decide
  refine wholly_ofList fun c hc => ?_
  obtain ⟨b, -, hc⟩ := List.mem_flatMap.1 hc
  have hb : b.toNat < 256 := b.toNat_lt
  rcases List.mem_cons.1 hc with rfl | hc
  · exact hdigit _ (by omega)
  · rw [List.mem_singleton.1 hc]
    exact hdigit _ (by omega)

/-! ## Names and words of an image -/

@[simp] theorem plain_machineName (machine : Nat) :
    Plain (Header.machineName machine) := by
  refine wholly_lookup_getD (by decide) machine ?_
  show Plain _
  simp +decide

@[simp] theorem plain_subsystemName (subsystem : Nat) :
    Plain (Header.subsystemName subsystem) := by
  refine wholly_lookup_getD (by decide) subsystem ?_
  show Plain _
  simp +decide

@[simp] theorem plain_kindWord (kind : Import.FailureKind) : Plain kind.word := by
  cases kind <;> decide

theorem plain_flags (s : Section) : Plain s.flags := by
  rw [Section.flags, Section.flagText]
  simp only
  split
  · decide
  · refine wholly_intercalate (by decide) fun t ht => ?_
    obtain ⟨p, hp, rfl⟩ := List.mem_map.1 ht
    have hnames : ∀ p ∈ Section.flagNames, Plain p.2 := by decide
    exact hnames p (List.mem_filter.1 hp).1

/-! ## Quotes -/

/-- The characters that mean something to the console or to a line. -/
def marks : List Char := ['[', ':', '\n']

theorem quoteFor_not_mem_marks (cs : List Char) : Text.quoteFor cs ∉ marks := by
  rw [Text.quoteFor]
  split
  · decide
  · decide

section Marks

variable {d : Char} (hd : d ∈ marks)
include hd

theorem ne_of_mem_marks {c : Char} (hc : c ∉ marks) : d ≠ c := fun heq => hc (heq ▸ hd)

theorem not_mem_hexDigits (width n : Nat) : d ∉ Text.hexDigits width n := by
  have hdigit (n : Nat) : n.digitChar ∉ marks := by
    simp only [marks, List.mem_cons, List.not_mem_nil, or_false, not_or]
    exact ⟨Nat.digitChar_ne '[' (by decide), Nat.digitChar_ne ':' (by decide),
      Nat.digitChar_ne '\n' (by decide)⟩
  rw [Text.hexDigits]
  intro hmem
  rcases List.mem_append.1 hmem with hmem | hmem
  · exact ne_of_mem_marks hd (by decide) (List.eq_of_mem_replicate hmem)
  · exact forall_mem_toDigits (p := fun c => c ∉ marks) hdigit d hmem hd

/-- No escape has such a character: neither its letter nor its digits. -/
theorem not_mem_escape {e : Char} (he : e ∉ marks) (width n : Nat) :
    d ∉ ['\\', e] ∧ d ∉ '\\' :: e :: Text.hexDigits width n := by
  have hslash : d ≠ '\\' := ne_of_mem_marks hd (by decide)
  have hletter : d ≠ e := ne_of_mem_marks hd he
  simp [hslash, hletter, not_mem_hexDigits hd width n]

/-- A character inside quotes brings such a character in only if it is one itself, and no line
feed. -/
theorem of_mem_quotedChar {quote c : Char} (hquote : quote ∉ marks)
    (h : d ∈ Text.quotedChar quote c) : d = c ∧ c ≠ '\n' := by
  have hpair {e : Char} (he : e ∉ marks) : d ∉ ['\\', e] := (not_mem_escape hd he 0 0).1
  have hcode {e : Char} (he : e ∉ marks) (width n : Nat) :
      d ∉ '\\' :: e :: Text.hexDigits width n := (not_mem_escape hd he width n).2
  rw [Text.quotedChar] at h
  split at h
  · next hguarded =>
    have hplain : c ∉ marks := by
      rcases hguarded with rfl | rfl
      · exact hquote
      · decide
    exact absurd h (hpair hplain)
  · split at h
    · exact absurd h (hpair (by decide))
    · next hfeed =>
      split at h
      · exact absurd h (hpair (by decide))
      · split at h
        · exact absurd h (hpair (by decide))
        · split at h
          · exact ⟨List.mem_singleton.1 h, hfeed⟩
          · split at h
            · exact absurd h (hcode (by decide) _ _)
            · split at h
              · exact ⟨List.mem_singleton.1 h, hfeed⟩
              · split at h
                · exact absurd h (hcode (by decide) _ _)
                · exact absurd h (hcode (by decide) _ _)

/-- Quotes put no bracket, no colon and no line feed into a text, and they hide its line
feeds. -/
theorem mem_of_mem_quoted {s : String} (h : d ∈ (Text.quoted s).toList) :
    d ∈ s.toList ∧ d ≠ '\n' := by
  have hquote : d ≠ Text.quoteFor s.toList := ne_of_mem_marks hd (quoteFor_not_mem_marks _)
  rw [Text.quoted] at h
  simp only [String.toList_ofList] at h
  rcases List.mem_append.1 h with hmem | hmem
  · rcases List.mem_cons.1 hmem with heq | hmem
    · exact absurd heq hquote
    · obtain ⟨c, hc, hmem⟩ := List.mem_flatMap.1 hmem
      obtain ⟨rfl, hfeed⟩ := of_mem_quotedChar hd (quoteFor_not_mem_marks _) hmem
      exact ⟨hc, hfeed⟩
  · exact absurd (List.mem_singleton.1 hmem) hquote

end Marks

end ImageImports.Wording
