import ImageImports.Proofs.Json.Number
import ImageImports.Proofs.Wording
import Mathlib.Data.List.DropRight

/-!
# What is written is read back

How a value may be written is a grammar: its tokens one behind the other, and blanks where the
layout puts them.  The reader takes every text of the grammar for the value it spells, and both
layouts are texts of the grammar.  A quote, a backslash or a control character in a name ends no
text and breaks no line, and a number of any size is read back from its own digits.  A value is
read from the front of a text and what stands behind it is left, so a written text is one value
and nothing else.

## Main results

* `value?_of_spells` — a spelled value is read from the front of a text.
* `parse?_pretty`, `parse?_compact` — a value is read back from either layout.
-/

namespace ImageImports.Json

/-! ## Blanks -/

/-- A character that may stand between tokens. -/
def isBlank (c : Char) : Bool := c = ' ' || c = '\n' || c = '\r' || c = '\t'

/-- Characters that may stand between tokens. -/
def Blank (blanks : List Char) : Prop := ∀ c ∈ blanks, isBlank c = true

theorem blank_nil : Blank [] := List.forall_mem_nil _

theorem blank_space : Blank [' '] := List.forall_mem_singleton.2 rfl

theorem skipBlanks_append {blanks : List Char} (h : Blank blanks) (s : List Char) :
    skipBlanks (blanks ++ s) = skipBlanks s :=
  List.dropWhile_append_of_pos h

theorem skipBlanks_cons {c : Char} (h : isBlank c = false) (s : List Char) :
    skipBlanks (c :: s) = c :: s :=
  List.dropWhile_cons_of_neg (ne_true_of_eq_false h)

@[simp] theorem skipBlanks_skipBlanks (s : List Char) : skipBlanks (skipBlanks s) = skipBlanks s :=
  List.dropWhile_idempotent _ s

/-- A line break and its indent are blanks. -/
theorem blank_newline (width depth : Nat) : Blank (newline width depth).toList := by
  have hblanks : Wording.Wholly isBlank (newline width depth) :=
    Wording.wholly_append_iff.2 ⟨rfl, Wording.wholly_pushn rfl _⟩
  exact hblanks.forall

/-- A value is read behind blanks as without them. -/
theorem value?_skipBlanks (fuel : Nat) (s : List Char) :
    value? fuel (skipBlanks s) = value? fuel s := by
  cases fuel with
  | zero => rfl
  | succ fuel => rw [value?, value?, skipBlanks_skipBlanks]

theorem items?_skipBlanks (fuel : Nat) (s : List Char) :
    items? fuel (skipBlanks s) = items? fuel s := by
  cases fuel with
  | zero => rfl
  | succ fuel => rw [items?, items?, value?_skipBlanks]

theorem fields?_skipBlanks (fuel : Nat) (s : List Char) :
    fields? fuel (skipBlanks s) = fields? fuel s := by
  cases fuel with
  | zero => rfl
  | succ fuel => rw [fields?, fields?, skipBlanks_skipBlanks]

/-! ## Texts -/

theorem hexValue?_hexDigit : ∀ n < 16, Bytes.hexValue? (Bytes.hexDigit n) = some n := by decide

/-- A control character is the value of the digits that it is written with. -/
theorem hex4?_control {n : Nat} (h : n < 32) (rest : List Char) :
    hex4? ('0' :: '0' :: Bytes.hexDigit (n / 16) :: Bytes.hexDigit (n % 16) :: rest) =
      some (n, rest) := by
  have hhigh := hexValue?_hexDigit (n / 16) (by omega)
  have hlow := hexValue?_hexDigit (n % 16) (by omega)
  have hzero : Bytes.hexValue? '0' = some 0 := rfl
  simp only [hex4?, hzero, hhigh, hlow, Option.some.injEq, Prod.mk.injEq, and_true]
  omega

theorem escape?_control {c : Char} (h : c.toNat < 32) (rest : List Char) :
    escape? ('u' :: '0' :: '0' :: Bytes.hexDigit (c.toNat / 16) ::
      Bytes.hexDigit (c.toNat % 16) :: rest) = some (c, rest) := by
  rw [escape?, hex4?_control h]
  have hhigh : ¬ (0xD800 ≤ c.toNat ∧ c.toNat < 0xDC00) := by omega
  have hlow : ¬ (0xDC00 ≤ c.toNat ∧ c.toNat < 0xE000) := by omega
  simp only [Option.bind_eq_bind, Option.bind_some, if_neg hhigh, if_neg hlow, Char.ofNat_toNat]

/-- One character is read back from how it stands inside quotes. -/
theorem textBody?_escapeChar (fuel : Nat) (acc : List Char) (c : Char) (rest : List Char) :
    textBody? (fuel + 1) acc (escapeChar c ++ rest) = textBody? fuel (c :: acc) rest := by
  unfold escapeChar
  split
  · next h => rw [h]; rfl
  split
  · next h => rw [h]; rfl
  split
  · next h => rw [h]; rfl
  split
  · next h => rw [h]; rfl
  split
  · next h => rw [h]; rfl
  split
  · next h => rw [h]; rfl
  split
  · next h => rw [h]; rfl
  split
  · next hcontrol =>
    simp only [List.cons_append, List.nil_append]
    rw [textBody?, escape?_control hcontrol]
  · next hquote hbackslash _ _ _ _ _ hcontrol =>
    show textBody? (fuel + 1) acc (c :: rest) = _
    rw [textBody?, if_neg hcontrol]
    · exact hquote
    · exact hbackslash

/-- A text is read back from between its quotes. -/
theorem textBody?_escaped (cs rest : List Char) (acc : List Char) {fuel : Nat}
    (h : cs.length < fuel) :
    textBody? fuel acc (cs.flatMap escapeChar ++ '"' :: rest) =
      some (String.ofList (acc.reverse ++ cs), rest) := by
  induction cs generalizing acc fuel with
  | nil =>
    obtain ⟨fuel, rfl⟩ : ∃ f, fuel = f + 1 := Nat.exists_eq_add_one.2 h
    rw [List.flatMap_nil, List.nil_append, textBody?, List.append_nil]
  | cons c cs ih =>
    obtain ⟨fuel, rfl⟩ : ∃ f, fuel = f + 1 := Nat.exists_eq_add_one.2 (by omega)
    rw [List.flatMap_cons, List.append_assoc, textBody?_escapeChar,
      ih (c :: acc) (Nat.lt_of_succ_lt_succ h), List.reverse_cons, List.append_assoc,
      List.singleton_append]

/-- No character takes less room inside quotes than on its own. -/
theorem length_le_flatMap_escapeChar (cs : List Char) :
    cs.length ≤ (cs.flatMap escapeChar).length := by
  have hone (c : Char) : 1 ≤ (escapeChar c).length := by
    unfold escapeChar
    repeat' split
    all_goals simp
  induction cs with
  | nil => exact Nat.le_refl 0
  | cons c cs ih =>
    rw [List.flatMap_cons, List.length_append, List.length_cons]
    have := hone c
    omega

theorem toList_quoted (s : String) :
    (quoted s).toList = '"' :: (s.toList.flatMap escapeChar ++ ['"']) := by
  simp [quoted]

/-- What follows an opening quote is the text, with as much fuel as readers of texts take. -/
theorem textBody?_quoted (s : String) (rest : List Char) :
    let behind := s.toList.flatMap escapeChar ++ '"' :: rest
    textBody? (behind.length + 1) [] behind = some (s, rest) := by
  intro behind
  have hlength := length_le_flatMap_escapeChar s.toList
  have hbehind : s.toList.length < behind.length + 1 := by
    rw [List.length_append]
    omega
  rw [textBody?_escaped s.toList rest [] hbehind, List.reverse_nil, List.nil_append,
    String.ofList_toList]

/-! ## Numbers as values -/

/-- What a number can begin with. -/
def startsNumber (c : Char) : Bool := c = '-' || c.isDigit || c = 'N' || c = 'I'

/-- A number begins with a sign, a digit or one of the letters of the words. -/
theorem exists_cons_of_number? {s rest : List Char} {v : Json} (h : number? s = some (v, rest)) :
    ∃ c behind, s = c :: behind ∧ startsNumber c = true := by
  unfold number? at h
  split at h
  · next word x hword =>
    have hprefix : word.toList.isPrefixOf s = true := by simpa using List.find?_some hword
    obtain ⟨behind, rfl⟩ := List.isPrefixOf_iff_prefix.1 hprefix
    have hmem := List.mem_of_find?_eq_some hword
    simp only [wordNumbers, List.mem_cons, Prod.mk.injEq, List.not_mem_nil, or_false] at hmem
    rcases hmem with ⟨rfl, -⟩ | ⟨rfl, -⟩ | ⟨rfl, -⟩
    all_goals exact ⟨_, _, rfl, rfl⟩
  · split at h
    · exact ⟨_, _, rfl, rfl⟩
    · obtain ⟨d, behind, rfl, hd⟩ := exists_digit_of_magnitude? h
      refine ⟨d, behind, rfl, ?_⟩
      rw [startsNumber, hd, Bool.or_true, Bool.true_or, Bool.true_or]

/-- What is read as a number is so read as a value. -/
theorem value?_of_number? {s rest : List Char} {v : Json} (h : number? s = some (v, rest))
    (fuel : Nat) : value? (fuel + 1) s = some (v, rest) := by
  obtain ⟨c, behind, rfl, hc⟩ := exists_cons_of_number? h
  have hother {d : Char} (hd : startsNumber d = false) : c ≠ d := by
    rintro rfl
    exact Bool.false_ne_true (hd.symm.trans hc)
  have hblank : isBlank c = false := by
    simp only [isBlank, decide_eq_false (hother (d := ' ') rfl),
      decide_eq_false (hother (d := '\n') rfl), decide_eq_false (hother (d := '\r') rfl),
      decide_eq_false (hother (d := '\t') rfl), Bool.or_false]
  rw [value?, skipBlanks_cons hblank]
  split
  · next heq => exact absurd (List.cons.inj heq).1 (hother rfl)
  · next heq => exact absurd (List.cons.inj heq).1 (hother rfl)
  · next heq => exact absurd (List.cons.inj heq).1 (hother rfl)
  · next heq => exact absurd (List.cons.inj heq).1 (hother rfl)
  · next heq => exact absurd (List.cons.inj heq).1 (hother rfl)
  · next heq => exact absurd (List.cons.inj heq).1 (hother rfl)
  · exact h

theorem endsNumber_cons {c : Char} (h : c.isDigit = false ∧ c ≠ '.' ∧ c ≠ 'e' ∧ c ≠ 'E')
    (rest : List Char) : EndsNumber (c :: rest) := by
  rintro d ⟨⟩
  exact h

/-- Blanks end a number as what stands behind them does. -/
theorem EndsNumber.blank_append {blanks rest : List Char} (hblanks : Blank blanks)
    (hrest : EndsNumber rest) : EndsNumber (blanks ++ rest) := by
  cases blanks with
  | nil => exact hrest
  | cons c blanks =>
    have hblank := hblanks c List.mem_cons_self
    simp only [isBlank, Bool.or_eq_true, decide_eq_true_eq] at hblank
    rcases hblank with ((rfl | rfl) | rfl) | rfl
    all_goals exact endsNumber_cons (by decide) _

/-! ## How a value is spelled -/

mutual

/-- The texts that spell a value, without blanks around it. -/
inductive Spells : Json → List Char → Prop
  | null : Spells null "null".toList
  | bool (b : Bool) : Spells (bool b) (if b then "true" else "false").toList
  | int (n : Int) : Spells (int n) (toString n).toList
  | real (x : Float) : Spells (real x) (realText x).toList
  | text (s : String) : Spells (text s) (quoted s).toList
  | nil : Spells (list []) ['[', ']']
  | list {items : List Json} {blanks s blanks' : List Char} (hblanks : Blank blanks)
      (hitems : SpellsItems items s) (hblanks' : Blank blanks') :
      Spells (list items) ('[' :: (blanks ++ (s ++ (blanks' ++ [']']))))
  | empty : Spells (object []) ['\x7b', '\x7d']
  | object {fields : List (String × Json)} {blanks s blanks' : List Char} (hblanks : Blank blanks)
      (hfields : SpellsFields fields s) (hblanks' : Blank blanks') :
      Spells (object fields) ('\x7b' :: (blanks ++ (s ++ (blanks' ++ ['\x7d']))))

/-- The texts that spell one item or more, with a comma and blanks behind all but the last. -/
inductive SpellsItems : List Json → List Char → Prop
  | last {item : Json} {s : List Char} (hitem : Spells item s) : SpellsItems [item] s
  | more {item : Json} {items : List Json} {s blanks rest : List Char} (hitem : Spells item s)
      (hblanks : Blank blanks) (hitems : SpellsItems items rest) :
      SpellsItems (item :: items) (s ++ ',' :: (blanks ++ rest))

/-- The texts that spell one field or more. -/
inductive SpellsFields : List (String × Json) → List Char → Prop
  | last {field : String × Json} {s : List Char} (hfield : SpellsField field s) :
      SpellsFields [field] s
  | more {field : String × Json} {fields : List (String × Json)} {s blanks rest : List Char}
      (hfield : SpellsField field s) (hblanks : Blank blanks)
      (hfields : SpellsFields fields rest) :
      SpellsFields (field :: fields) (s ++ ',' :: (blanks ++ rest))

/-- The texts that spell a field: its name, a colon, blanks and its value. -/
inductive SpellsField : String × Json → List Char → Prop
  | mk (name : String) {value : Json} {blanks s : List Char} (hblanks : Blank blanks)
      (hvalue : Spells value s) :
      SpellsField (name, value) ((quoted name).toList ++ ':' :: (blanks ++ s))

end

/-! ## Spelled values are read -/

/-- Where items are read, no list is closed. -/
theorem skipBlanks_ne_of_items? {fuel : Nat} {s : List Char} {r : List Json × List Char}
    (h : items? fuel s = some r) (behind : List Char) : skipBlanks s ≠ ']' :: behind := by
  intro heq
  match fuel with
  | 0 => cases h
  | 1 => cases h
  | fuel + 2 =>
    rw [items?, value?, heq] at h
    cases h

/-- Where fields are read, no object is closed. -/
theorem skipBlanks_ne_of_fields? {fuel : Nat} {s : List Char}
    {r : List (String × Json) × List Char} (h : fields? fuel s = some r) (behind : List Char) :
    skipBlanks s ≠ '\x7d' :: behind := by
  intro heq
  cases fuel with
  | zero => cases h
  | succ fuel =>
    rw [fields?, heq] at h
    cases h

/-- The name and the value of a field are read, and what stands behind is left. -/
def ReadsField (fuel : Nat) (field : String × Json) (s rest : List Char) : Prop :=
  ∃ behind behind', s = '"' :: behind
    ∧ textBody? (behind.length + 1) [] behind = some (field.1, ':' :: behind')
    ∧ value? fuel behind' = some (field.2, rest)

section

variable {fuel : Nat} {field : String × Json} {s behind rest : List Char}
  (hfield : ReadsField fuel field s behind)

include hfield

/-- The last field is read with the closing brace. -/
theorem ReadsField.last (hclose : skipBlanks behind = '\x7d' :: rest) :
    fields? (fuel + 1) s = some ([field], rest) := by
  obtain ⟨_, _, rfl, hname, hvalue⟩ := hfield
  rw [fields?, skipBlanks_cons rfl]
  simp only [hname, skipBlanks_cons (show isBlank ':' = false from rfl), hvalue, hclose]

/-- A field in front of others is read with the fields behind the comma. -/
theorem ReadsField.more {next : List Char} {fields : List (String × Json)}
    (hcomma : skipBlanks behind = ',' :: next) (hfields : fields? fuel next = some (fields, rest)) :
    fields? (fuel + 1) s = some (field :: fields, rest) := by
  obtain ⟨_, _, rfl, hname, hvalue⟩ := hfield
  rw [fields?, skipBlanks_cons rfl]
  simp only [hname, skipBlanks_cons (show isBlank ':' = false from rfl), hvalue, hcomma, hfields,
    Option.map_some]

end

/-- Items are read behind the opening bracket. -/
theorem value?_list {fuel : Nat} {s rest : List Char} {items : List Json}
    (h : items? fuel s = some (items, rest)) :
    value? (fuel + 1) ('[' :: s) = some (.list items, rest) := by
  rw [value?, skipBlanks_cons rfl]
  simp only
  split
  · next heq => exact absurd heq (skipBlanks_ne_of_items? h _)
  · rw [items?_skipBlanks, h, Option.map_some]

/-- Fields are read behind the opening brace. -/
theorem value?_object {fuel : Nat} {s rest : List Char} {fields : List (String × Json)}
    (h : fields? fuel s = some (fields, rest)) :
    value? (fuel + 1) ('\x7b' :: s) = some (.object fields, rest) := by
  rw [value?, skipBlanks_cons rfl]
  simp only
  split
  · next heq => exact absurd heq (skipBlanks_ne_of_fields? h _)
  · rw [fields?_skipBlanks, h, Option.map_some]

mutual

/-- **A spelled value is read from the front of a text**, whatever stands behind it, unless that
carries a number on. -/
theorem value?_of_spells {v : Json} {s : List Char} (h : Spells v s) {fuel : Nat}
    (hfuel : s.length < fuel) {rest : List Char} (hrest : EndsNumber rest) :
    value? fuel (s ++ rest) = some (v, rest) := by
  obtain ⟨fuel, rfl⟩ : ∃ f, fuel = f + 1 := Nat.exists_eq_add_one.2 (by omega)
  cases h with
  | null => rfl
  | bool b => cases b <;> rfl
  | int n => exact value?_of_number? (number?_int n hrest) fuel
  | real x => exact value?_of_number? (number?_realText x hrest) fuel
  | text t =>
    have hbody := textBody?_quoted t rest
    rw [toList_quoted, value?, List.cons_append, skipBlanks_cons rfl, List.append_assoc,
      List.singleton_append]
    simp only [hbody, Option.map_some]
  | nil => rfl
  | list hblanks hitems hblanks' =>
    simp only [List.length_cons, List.length_append] at hfuel
    simp only [List.cons_append, List.append_assoc, List.nil_append]
    refine value?_list ?_
    rw [← items?_skipBlanks, skipBlanks_append hblanks, items?_skipBlanks]
    exact items?_of_spells hitems (by omega) hblanks'
  | empty => rfl
  | object hblanks hfields hblanks' =>
    simp only [List.length_cons, List.length_append] at hfuel
    simp only [List.cons_append, List.append_assoc, List.nil_append]
    refine value?_object ?_
    rw [← fields?_skipBlanks, skipBlanks_append hblanks, fields?_skipBlanks]
    exact fields?_of_spells hfields (by omega) hblanks'

/-- Spelled items are read up to the closing bracket. -/
theorem items?_of_spells {items : List Json} {s : List Char} (h : SpellsItems items s)
    {fuel : Nat} (hfuel : s.length + 1 < fuel) {blanks rest : List Char} (hblanks : Blank blanks) :
    items? fuel (s ++ (blanks ++ ']' :: rest)) = some (items, rest) := by
  obtain ⟨fuel, rfl⟩ : ∃ f, fuel = f + 1 := Nat.exists_eq_add_one.2 (by omega)
  cases h with
  | last hitem =>
    rw [items?, value?_of_spells hitem (by omega)
      (.blank_append hblanks (endsNumber_cons (by decide) rest))]
    simp only [skipBlanks_append hblanks, skipBlanks_cons (show isBlank ']' = false from rfl)]
  | more hitem hcomma hitems =>
    simp only [List.length_append, List.length_cons] at hfuel
    simp only [List.append_assoc, List.cons_append]
    rw [items?, value?_of_spells hitem (by omega) (endsNumber_cons (by decide) _)]
    simp only [skipBlanks_cons (show isBlank ',' = false from rfl)]
    rw [← items?_skipBlanks, skipBlanks_append hcomma, items?_skipBlanks,
      items?_of_spells hitems (by omega) hblanks, Option.map_some]

/-- Spelled fields are read up to the closing brace. -/
theorem fields?_of_spells {fields : List (String × Json)} {s : List Char}
    (h : SpellsFields fields s) {fuel : Nat} (hfuel : s.length + 1 < fuel)
    {blanks rest : List Char} (hblanks : Blank blanks) :
    fields? fuel (s ++ (blanks ++ '\x7d' :: rest)) = some (fields, rest) := by
  obtain ⟨fuel, rfl⟩ : ∃ f, fuel = f + 1 := Nat.exists_eq_add_one.2 (by omega)
  cases h with
  | last hfield =>
    refine (readsField_of_spells hfield (by omega)
      (.blank_append hblanks (endsNumber_cons (by decide) rest))).last ?_
    rw [skipBlanks_append hblanks, skipBlanks_cons rfl]
  | more hfield hcomma hfields =>
    simp only [List.length_append, List.length_cons] at hfuel
    simp only [List.append_assoc, List.cons_append]
    refine (readsField_of_spells hfield (by omega) (endsNumber_cons (by decide) _)).more
      (skipBlanks_cons rfl _) ?_
    rw [← fields?_skipBlanks, skipBlanks_append hcomma, fields?_skipBlanks,
      fields?_of_spells hfields (by omega) hblanks]

/-- A spelled field is read. -/
theorem readsField_of_spells {field : String × Json} {s : List Char} (h : SpellsField field s)
    {fuel : Nat} (hfuel : s.length < fuel) {rest : List Char} (hrest : EndsNumber rest) :
    ReadsField fuel field (s ++ rest) rest := by
  cases h with
  | mk name hblanks hvalue =>
    rw [toList_quoted] at hfuel ⊢
    simp only [List.length_append, List.length_cons] at hfuel
    simp only [List.append_assoc, List.cons_append, List.nil_append]
    refine ⟨_, _, rfl, textBody?_quoted name _, ?_⟩
    rw [← value?_skipBlanks, skipBlanks_append hblanks, value?_skipBlanks]
    exact value?_of_spells hvalue (by omega) hrest

end

/-- A text that spells a value, with blanks behind it, is read as that value. -/
theorem parse?_of_spells {v : Json} {s blanks : String} (h : Spells v s.toList)
    (hblanks : Wording.Wholly isBlank blanks) : parse? (s ++ blanks) = some v := by
  have hnothing : skipBlanks blanks.toList = [] := List.dropWhile_eq_nil_iff.2 hblanks.forall
  have hends : EndsNumber (blanks.toList ++ []) :=
    .blank_append hblanks.forall fun c hc => by cases hc
  rw [List.append_nil] at hends
  rw [parse?, String.toList_append,
    value?_of_spells h (by rw [List.length_append]; omega) hends]
  simp only [hnothing, List.isEmpty_nil, if_true]

/-! ## Both layouts spell the value -/

/-- Items that are joined by a comma and blanks are spelled one behind the other. -/
theorem spellsItems_intercalate {comma : String} {blanks : List Char}
    (hcomma : comma.toList = ',' :: blanks) (hblanks : Blank blanks) {items : List Json}
    {texts : List String} (h : List.Forall₂ (fun v t => Spells v t.toList) items texts)
    (hne : items ≠ []) : SpellsItems items (comma.intercalate texts).toList := by
  induction h with
  | nil => exact absurd rfl hne
  | cons hitem hrest ih =>
    cases hrest with
    | nil =>
      rw [String.intercalate_singleton]
      exact .last hitem
    | cons hnext hrest =>
      rw [String.intercalate_cons_cons, String.toList_append, String.toList_append, hcomma,
        List.append_assoc, List.cons_append]
      exact .more hitem hblanks (ih (List.cons_ne_nil _ _))

theorem spellsFields_intercalate {comma : String} {blanks : List Char}
    (hcomma : comma.toList = ',' :: blanks) (hblanks : Blank blanks)
    {fields : List (String × Json)} {texts : List String}
    (h : List.Forall₂ (fun f t => SpellsField f t.toList) fields texts) (hne : fields ≠ []) :
    SpellsFields fields (comma.intercalate texts).toList := by
  induction h with
  | nil => exact absurd rfl hne
  | cons hfield hrest ih =>
    cases hrest with
    | nil =>
      rw [String.intercalate_singleton]
      exact .last hfield
    | cons hnext hrest =>
      rw [String.intercalate_cons_cons, String.toList_append, String.toList_append, hcomma,
        List.append_assoc, List.cons_append]
      exact .more hfield hblanks (ih (List.cons_ne_nil _ _))

theorem spellsField_append (name : String) {value : Json} {s : String}
    (h : Spells value s.toList) : SpellsField (name, value) (quoted name ++ ": " ++ s).toList := by
  rw [String.toList_append, String.toList_append, List.append_assoc]
  exact .mk name blank_space h

theorem toList_comma_space : ", ".toList = [',', ' '] := rfl

theorem toList_comma_newline (width depth : Nat) :
    ("," ++ newline width depth).toList = ',' :: (newline width depth).toList :=
  String.toList_append

section

variable {width : Nat}

mutual

/-- A value with indents is spelled as it should be. -/
theorem spells_indented (depth : Nat) (v : Json) : Spells v (v.indented width depth).toList := by
  cases v with
  | null => rw [indented]; exact .null
  | bool b => rw [indented]; exact .bool b
  | int n => rw [indented]; exact .int n
  | real x => rw [indented]; exact .real x
  | text s => rw [indented]; exact .text s
  | list items =>
    cases items with
    | nil => rw [indented]; exact .nil
    | cons item items =>
      have hitems := spellsItems_intercalate (toList_comma_newline width (depth + 1))
        (blank_newline width (depth + 1)) (forall₂_indentedItems (depth + 1) (item :: items))
        (List.cons_ne_nil _ _)
      simp only [indented, String.toList_append, List.append_assoc]
      exact .list (blank_newline width (depth + 1)) hitems (blank_newline width depth)
  | object fields =>
    cases fields with
    | nil => rw [indented]; exact .empty
    | cons field fields =>
      have hfields := spellsFields_intercalate (toList_comma_newline width (depth + 1))
        (blank_newline width (depth + 1)) (forall₂_indentedFields (depth + 1) (field :: fields))
        (List.cons_ne_nil _ _)
      simp only [indented, String.toList_append, List.append_assoc]
      exact .object (blank_newline width (depth + 1)) hfields (blank_newline width depth)

theorem forall₂_indentedItems (depth : Nat) (items : List Json) :
    List.Forall₂ (fun v t => Spells v t.toList) items (indentedItems width depth items) := by
  cases items with
  | nil => rw [indentedItems]; exact .nil
  | cons item items =>
    rw [indentedItems]
    exact .cons (spells_indented depth item) (forall₂_indentedItems depth items)

theorem forall₂_indentedFields (depth : Nat) (fields : List (String × Json)) :
    List.Forall₂ (fun f t => SpellsField f t.toList) fields
      (indentedFields width depth fields) := by
  cases fields with
  | nil => rw [indentedFields]; exact .nil
  | cons field fields =>
    rw [indentedFields]
    exact .cons (spellsField_append field.1 (spells_indented depth field.2))
      (forall₂_indentedFields depth fields)

end

end

mutual

/-- A value on one line is spelled as it should be. -/
theorem spells_compact (v : Json) : Spells v v.compact.toList := by
  cases v with
  | null => rw [compact]; exact .null
  | bool b => rw [compact]; exact .bool b
  | int n => rw [compact]; exact .int n
  | real x => rw [compact]; exact .real x
  | text s => rw [compact]; exact .text s
  | list items =>
    cases items with
    | nil => rw [compact, compactItems]; exact .nil
    | cons item items =>
      have hitems := spellsItems_intercalate toList_comma_space blank_space
        (forall₂_compactItems (item :: items)) (List.cons_ne_nil _ _)
      simp only [compact, String.toList_append, List.append_assoc]
      exact .list blank_nil hitems blank_nil
  | object fields =>
    cases fields with
    | nil => rw [compact, compactFields]; exact .empty
    | cons field fields =>
      have hfields := spellsFields_intercalate toList_comma_space blank_space
        (forall₂_compactFields (field :: fields)) (List.cons_ne_nil _ _)
      simp only [compact, String.toList_append, List.append_assoc]
      exact .object blank_nil hfields blank_nil

theorem forall₂_compactItems (items : List Json) :
    List.Forall₂ (fun v t => Spells v t.toList) items (compactItems items) := by
  cases items with
  | nil => rw [compactItems]; exact .nil
  | cons item items =>
    rw [compactItems]
    exact .cons (spells_compact item) (forall₂_compactItems items)

theorem forall₂_compactFields (fields : List (String × Json)) :
    List.Forall₂ (fun f t => SpellsField f t.toList) fields (compactFields fields) := by
  cases fields with
  | nil => rw [compactFields]; exact .nil
  | cons field fields =>
    rw [compactFields]
    exact .cons (spellsField_append field.1 (spells_compact field.2)) (forall₂_compactFields fields)

end

/-! ## Whole texts -/

/-- **A report is read back**, with blanks behind it. -/
theorem parse?_pretty (v : Json) {blanks : String} (hblanks : Wording.Wholly isBlank blanks) :
    parse? (v.pretty ++ blanks) = some v :=
  parse?_of_spells (spells_indented 0 v) hblanks

/-- **A value on one line is read back.** -/
theorem parse?_compact (v : Json) : parse? v.compact = some v := by
  rw [← String.append_empty (s := v.compact)]
  exact parse?_of_spells (spells_compact v) rfl

end ImageImports.Json
