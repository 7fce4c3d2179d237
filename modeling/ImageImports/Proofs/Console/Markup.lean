import ImageImports.Console.Markup
import ImageImports.Proofs.Success
import Mathlib.Data.List.TakeWhile

/-!
# Which texts can be shown

Only tags can keep a text from being shown, and of these only the live ones: those that no
backslash guards.  So a text can be shown exactly when its live tags can be followed one
after the other (`shows_iff`).

What is escaped has no live tags.  Behind it the text goes on with some backslashes that
guard what comes next, which is all that an escaped text leaves to what follows it
(`liveTags_escape`); but a bracket that it leaves open must not be closed behind it.

## Main results

* `shows_iff` — what can be shown.
* `liveTags_escape` — an escaped text has no live tags.
-/

namespace ImageImports.Console.Markup

/-- A text can be shown. -/
def Shows (s : String) : Prop := Succeeds (plain s)

/-! ## Live tags -/

/-- The tags that no backslash guards, in their order. -/
def live : List Piece → List (List Char)
  | [] => []
  | .text _ :: rest => live rest
  | .tag slashes inner :: rest =>
    if slashes % 2 = 1 then live rest else inner :: live rest

/-- The live tags of a text in front of which `slashes` backslashes stand. -/
def liveTags (slashes : Nat) (cs : List Char) : List (List Char) :=
  live (pieces slashes cs)

/-- Tags can be followed one after the other, whatever is open. -/
def Followable (tags : List (List Char)) : Prop :=
  ∀ opened, Succeeds (tags.foldlM turn opened)

theorem live_merged (ps : List Piece) : live (merged ps) = live ps := by
  induction ps with
  | nil => rfl
  | cons p rest ih =>
    cases p with
    | tag slashes inner => rw [merged, live, live, ih]
    | text cs =>
      rw [merged, live, ← ih]
      split
      · next heq => rw [heq, live, live]
      · rfl

/-- Pieces can be shown when their live tags can be followed. -/
theorem succeeds_shown_iff (ps : List Piece) (opened : List Opening) :
    Succeeds (shown opened ps) ↔ Succeeds ((live ps).foldlM turn opened) := by
  induction ps generalizing opened with
  | nil => exact iff_of_true (succeeds_ok []) (succeeds_pure opened)
  | cons p rest ih =>
    cases p with
    | text cs => rw [shown, live, succeeds_map_iff, ih]
    | tag slashes inner =>
      rw [shown, live]
      by_cases hodd : slashes % 2 = 1
      · rw [if_pos hodd, if_pos hodd]
        exact succeeds_map_iff.trans (ih opened)
      · rw [if_neg hodd, if_neg hodd, List.foldlM_cons]
        cases turn opened inner with
        | error fault =>
          exact iff_of_false (not_succeeds_error fault) (not_succeeds_error fault)
        | ok next => exact succeeds_map_iff.trans (ih next)

/-- **What can be shown**: a text whose live tags can be followed when nothing is open. -/
theorem shows_iff (s : String) :
    Shows s ↔ Succeeds ((liveTags 0 s.toList).foldlM turn []) := by
  rw [Shows, plain, succeeds_map_iff, succeeds_shown_iff, live_merged, liveTags]

theorem Followable.shows {s : String} (h : Followable (liveTags 0 s.toList)) : Shows s :=
  (shows_iff s).2 (h [])

theorem followable_nil : Followable [] := fun opened => succeeds_pure opened

theorem Followable.append {first second : List (List Char)} (h₁ : Followable first)
    (h₂ : Followable second) : Followable (first ++ second) := by
  intro opened
  obtain ⟨between, hbetween⟩ := h₁ opened
  obtain ⟨left, hleft⟩ := h₂ between
  refine ⟨left, ?_⟩
  rw [List.foldlM_append, hbetween]
  exact hleft

/-! ## Reading character by character -/

@[simp] theorem liveTags_nil (slashes : Nat) : liveTags slashes [] = [] := by
  rw [liveTags, pieces]
  split
  · rfl
  · rfl

theorem liveTags_slash (slashes : Nat) (rest : List Char) :
    liveTags slashes ('\\' :: rest) = liveTags (slashes + 1) rest := by
  rw [liveTags, pieces, if_pos rfl, liveTags]

theorem liveTags_replicate (slashes n : Nat) (rest : List Char) :
    liveTags slashes (List.replicate n '\\' ++ rest) = liveTags (slashes + n) rest := by
  induction n generalizing slashes with
  | zero => rfl
  | succ n ih =>
    rw [List.replicate_succ, List.cons_append, liveTags_slash, ih, Nat.add_right_comm,
      Nat.add_assoc]

theorem liveTags_text (slashes : Nat) {c : Char} (hslash : c ≠ '\\') (hopen : c ≠ '[')
    (rest : List Char) : liveTags slashes (c :: rest) = liveTags 0 rest := by
  rw [liveTags, pieces, if_neg hslash, if_neg hopen, live, liveTags]

/-- A text that neither opens a bracket nor guards one leaves what follows it alone. -/
theorem liveTags_append {cs : List Char} (hcs : ∀ c ∈ cs, c ≠ '\\' ∧ c ≠ '[')
    (hne : cs ≠ []) (slashes : Nat) (rest : List Char) :
    liveTags slashes (cs ++ rest) = liveTags 0 rest := by
  induction cs generalizing slashes with
  | nil => exact absurd rfl hne
  | cons c more ih =>
    obtain ⟨hslash, hopen⟩ := hcs c List.mem_cons_self
    rw [List.cons_append, liveTags_text slashes hslash hopen]
    cases more with
    | nil => rfl
    | cons d others =>
      exact ih (fun e he => hcs e (List.mem_cons_of_mem c he))
        (List.cons_ne_nil d others) 0

/-- A text without an opening bracket holds no tag. -/
theorem liveTags_eq_nil {cs : List Char} (h : '[' ∉ cs) (slashes : Nat) :
    liveTags slashes cs = [] := by
  induction cs generalizing slashes with
  | nil => exact liveTags_nil slashes
  | cons c rest ih =>
    have hrest := ih fun hmem => h (List.mem_cons_of_mem c hmem)
    by_cases hslash : c = '\\'
    · rw [hslash, liveTags_slash, hrest]
    · have hopen : c ≠ '[' := fun heq => h (heq ▸ List.mem_cons_self)
      rw [liveTags_text slashes hslash hopen, hrest]

theorem shows_of_not_mem {s : String} (h : '[' ∉ s.toList) : Shows s := by
  rw [shows_iff, liveTags_eq_nil h]
  exact succeeds_pure []

theorem liveTags_open (slashes : Nat) {rest : List Char} (h : ofTag? rest = none) :
    liveTags slashes ('[' :: rest) = liveTags 0 rest := by
  rw [liveTags, pieces, if_neg (by decide), if_pos rfl]
  split
  · next heq =>
    rw [h] at heq
    cases heq
  · rw [live, liveTags]

theorem liveTags_tag (slashes : Nat) {rest inner after : List Char}
    (h : ofTag? rest = some (inner, after)) :
    liveTags slashes ('[' :: rest) =
      if slashes % 2 = 1 then liveTags 0 after else inner :: liveTags 0 after := by
  rw [liveTags, pieces, if_neg (by decide), if_pos rfl]
  split
  · next heq =>
    rw [h] at heq
    injection heq with heq
    injection heq with hinner hafter
    subst hinner hafter
    rw [live, liveTags]
  · next heq =>
    rw [h] at heq
    cases heq

/-! ## Brackets -/

/-- A character that is no bracket. -/
def isUnbracketed (c : Char) : Bool := decide (c ≠ '[' ∧ c ≠ ']')

/-- The next bracket of a text does not close: it opens, or there is none. -/
def OpensNext (cs : List Char) : Prop := (cs.dropWhile isUnbracketed).head? ≠ some ']'

theorem opensNext_nil : OpensNext [] := by
  intro h
  cases h

theorem opensNext_open (rest : List Char) : OpensNext ('[' :: rest) := by
  intro h
  cases h

theorem not_opensNext_close (rest : List Char) : ¬ OpensNext (']' :: rest) :=
  fun h => h rfl

theorem opensNext_cons_iff {c : Char} (hopen : c ≠ '[') (hclose : c ≠ ']')
    {rest : List Char} :
    OpensNext (c :: rest) ↔ OpensNext rest := by
  have hc : isUnbracketed c = true := decide_eq_true ⟨hopen, hclose⟩
  rw [OpensNext, List.dropWhile_cons, if_pos hc, OpensNext]

/-- Only a closing bracket can keep the next bracket from opening. -/
theorem opensNext_append {cs rest : List Char} (hcs : ∀ c ∈ cs, c ≠ ']')
    (h : OpensNext rest) :
    OpensNext (cs ++ rest) := by
  induction cs with
  | nil => exact h
  | cons c more ih =>
    have hmore := ih fun d hd => hcs d (List.mem_cons_of_mem c hd)
    by_cases hopen : c = '['
    · subst hopen
      exact opensNext_open _
    · exact (opensNext_cons_iff hopen (hcs c List.mem_cons_self)).2 hmore

theorem opensNext_replicate {n : Nat} {rest : List Char} (h : OpensNext rest) :
    OpensNext (List.replicate n '\\' ++ rest) := by
  refine opensNext_append ?_ h
  intro c hc
  rw [List.eq_of_mem_replicate hc]
  decide

/-- The inside of a tag ends at the next bracket, if that closes. -/
theorem ofTag?_cons {c : Char} (hstarts : startsTag c = true) (rest : List Char) :
    ofTag? (c :: rest) = match rest.dropWhile isUnbracketed with
      | ']' :: after => some (c :: rest.takeWhile isUnbracketed, after)
      | _ => none := by
  rw [ofTag?, if_pos hstarts]
  rfl

/-- There is no tag where the next bracket does not close. -/
theorem ofTag?_of_opensNext {cs : List Char} (h : OpensNext cs) : ofTag? cs = none := by
  cases cs with
  | nil => rfl
  | cons c rest =>
    by_cases hstarts : startsTag c = true
    · have hopen : c ≠ '[' := by
        rintro rfl
        cases hstarts
      have hclose : c ≠ ']' := by
        rintro rfl
        cases hstarts
      have hrest := (opensNext_cons_iff hopen hclose).1 h
      rw [ofTag?_cons hstarts]
      split
      · next heq => exact absurd (by rw [heq]; rfl) hrest
      · rfl
    · rw [ofTag?, if_neg hstarts]

/-- Where a character that begins tags begins none, the next bracket does not close. -/
theorem opensNext_of_ofTag? {c : Char} {rest : List Char} (hstarts : startsTag c = true)
    (h : ofTag? (c :: rest) = none) : OpensNext rest := by
  intro hhead
  rw [ofTag?_cons hstarts] at h
  split at h
  · cases h
  · next hne =>
    obtain ⟨after, hafter⟩ := List.head?_eq_some_iff.1 hhead
    exact hne after hafter

/-- A tag is found whatever follows it. -/
theorem ofTag?_append {cs inner after : List Char} (h : ofTag? cs = some (inner, after))
    (rest : List Char) : ofTag? (inner ++ ']' :: rest) = some (inner, rest) := by
  cases cs with
  | nil => cases h
  | cons c more =>
    by_cases hstarts : startsTag c = true
    · rw [ofTag?_cons hstarts] at h
      split at h
      · injection h with h
        injection h with hinner
        subst hinner
        have hall : ∀ x ∈ more.takeWhile isUnbracketed, isUnbracketed x = true :=
          fun x hx => List.mem_takeWhile_imp hx
        have hclose : isUnbracketed ']' = false := by decide
        rw [List.cons_append, ofTag?_cons hstarts, List.dropWhile_append_of_pos hall,
          List.takeWhile_append_of_pos hall,
            List.dropWhile_cons_of_neg (by rw [hclose]; decide),
          List.takeWhile_cons_of_neg (by rw [hclose]; decide), List.append_nil]
        rfl
      · cases h
    · rw [ofTag?, if_neg hstarts] at h
      cases h

/-! ## Escaped texts -/

/-- The characters of a text, in front of which `slashes` backslashes stand, with its tags
guarded. -/
def guarded (slashes : Nat) (cs : List Char) : List Char :=
  (pieces slashes cs).flatMap Piece.escaped

theorem guarded_nil (slashes : Nat) :
    guarded slashes [] = List.replicate slashes '\\' := by
  rw [guarded, pieces]
  split
  · next hzero =>
    rw [hzero]
    rfl
  · rw [List.flatMap_cons, Piece.escaped, List.flatMap_nil, List.append_nil]

theorem guarded_slash (slashes : Nat) (rest : List Char) :
    guarded slashes ('\\' :: rest) = guarded (slashes + 1) rest := by
  rw [guarded, pieces, if_pos rfl, guarded]

theorem guarded_text (slashes : Nat) {c : Char} (hslash : c ≠ '\\') (hopen : c ≠ '[')
    (rest : List Char) :
    guarded slashes (c :: rest) = List.replicate slashes '\\' ++ c :: guarded 0 rest := by
  rw [guarded, pieces, if_neg hslash, if_neg hopen, List.flatMap_cons,
    Piece.escaped, guarded, List.append_assoc, List.singleton_append]

theorem guarded_open (slashes : Nat) {rest : List Char} (h : ofTag? rest = none) :
    guarded slashes ('[' :: rest) =
      List.replicate slashes '\\' ++ '[' :: guarded 0 rest := by
  rw [guarded, pieces, if_neg (by decide), if_pos rfl]
  split
  · next heq =>
    rw [h] at heq
    cases heq
  · rw [List.flatMap_cons, Piece.escaped, guarded, List.append_assoc,
      List.singleton_append]

theorem guarded_tag (slashes : Nat) {rest inner after : List Char}
    (h : ofTag? rest = some (inner, after)) :
    guarded slashes ('[' :: rest) =
      List.replicate (2 * slashes + 1) '\\'
        ++ '[' :: (inner ++ ']' :: guarded 0 after) := by
  rw [guarded, pieces, if_neg (by decide), if_pos rfl]
  split
  · next heq =>
    rw [h] at heq
    injection heq with heq
    injection heq with hinner hafter
    subst hinner hafter
    simp only [List.flatMap_cons, Piece.escaped, guarded, List.append_assoc,
      List.cons_append, List.nil_append]
  · next heq =>
    rw [h] at heq
    cases heq

/-- Guarding leaves the next bracket what it is. -/
theorem opensNext_guarded {slashes : Nat} {cs rest : List Char} (hcs : OpensNext cs)
    (hrest : OpensNext rest) : OpensNext (guarded slashes cs ++ rest) := by
  induction cs generalizing slashes with
  | nil =>
    rw [guarded_nil]
    exact opensNext_replicate hrest
  | cons c more ih =>
    by_cases hslash : c = '\\'
    · subst hslash
      rw [guarded_slash]
      exact ih ((opensNext_cons_iff (by decide) (by decide)).1 hcs)
    · by_cases hopen : c = '['
      · subst hopen
        cases htag : ofTag? more with
        | none =>
          rw [guarded_open _ htag, List.append_assoc]
          exact opensNext_replicate (opensNext_open _)
        | some found =>
          obtain ⟨inner, after⟩ := found
          rw [guarded_tag _ htag, List.append_assoc]
          exact opensNext_replicate (opensNext_open _)
      · have hclose : c ≠ ']' := by
          rintro rfl
          exact not_opensNext_close more hcs
        rw [guarded_text _ hslash hopen, List.append_assoc]
        exact opensNext_replicate
          ((opensNext_cons_iff hopen hclose).2
            (ih ((opensNext_cons_iff hopen hclose).1 hcs)))

/-- A backslash in front stays in front. -/
theorem head?_guarded_succ (slashes : Nat) (cs : List Char) :
    (guarded (slashes + 1) cs).head? = some '\\' := by
  induction cs generalizing slashes with
  | nil =>
    rw [guarded_nil]
    rfl
  | cons c more ih =>
    by_cases hslash : c = '\\'
    · subst hslash
      rw [guarded_slash]
      exact ih (slashes + 1)
    · by_cases hopen : c = '['
      · subst hopen
        cases htag : ofTag? more with
        | none =>
          rw [guarded_open _ htag]
          rfl
        | some found =>
          rw [guarded_tag _ htag]
          rfl
      · rw [guarded_text _ hslash hopen]
        rfl

/-- Nothing begins a tag that begins with no character of tags. -/
theorem ofTag?_of_head? {cs : List Char} (h : cs.head?.any startsTag = false) :
    ofTag? cs = none := by
  cases cs with
  | nil => rfl
  | cons c rest =>
    have hc : startsTag c = false := h
    rw [ofTag?, if_neg (by rw [hc]; decide)]

/-- Guarding makes no tag where there was none. -/
theorem ofTag?_guarded {cs rest : List Char} (h : ofTag? cs = none)
    (hrest : OpensNext rest) :
    ofTag? (guarded 0 cs ++ rest) = none := by
  cases cs with
  | nil =>
    rw [guarded_nil]
    exact ofTag?_of_opensNext hrest
  | cons c more =>
    by_cases hslash : c = '\\'
    · subst hslash
      have hhead := head?_guarded_succ 0 more
      rw [guarded_slash]
      refine ofTag?_of_head? ?_
      rw [List.head?_append, hhead]
      rfl
    · by_cases hopen : c = '['
      · subst hopen
        refine ofTag?_of_head? ?_
        cases htag : ofTag? more with
        | none =>
          rw [guarded_open _ htag]
          rfl
        | some found =>
          rw [guarded_tag _ htag]
          rfl
      · rw [guarded_text _ hslash hopen, List.replicate_zero, List.nil_append,
          List.cons_append]
        by_cases hstarts : startsTag c = true
        · have hmore := opensNext_of_ofTag? hstarts h
          have hclose : c ≠ ']' := by
            rintro rfl
            cases hstarts
          exact ofTag?_of_opensNext
            ((opensNext_cons_iff hopen hclose).2 (opensNext_guarded hmore hrest))
        · exact ofTag?_of_head? (by simpa using hstarts)

/-- A guarded text has no live tags: what is live behind it is so with some backslashes in
front. -/
theorem liveTags_guarded (slashes : Nat) (cs : List Char) {rest : List Char}
    (h : OpensNext rest) :
    ∃ left, liveTags 0 (guarded slashes cs ++ rest) = liveTags left rest := by
  -- The backslashes in front of a tag come out odd in number, so that the tag is not live.
  fun_induction pieces slashes cs with
  | case1 =>
    rw [guarded_nil, liveTags_replicate]
    exact ⟨0, rfl⟩
  | case2 slashes =>
    rw [guarded_nil, liveTags_replicate]
    exact ⟨0 + slashes, rfl⟩
  | case3 slashes more ih =>
    rw [guarded_slash]
    exact ih
  | case4 slashes more inner after htag hshort hslash ih =>
    obtain ⟨left, hleft⟩ := ih
    have hfound := ofTag?_append htag (guarded 0 after ++ rest)
    have hodd : (0 + (2 * slashes + 1)) % 2 = 1 := by omega
    rw [guarded_tag slashes htag, List.append_assoc, liveTags_replicate]
    simp only [List.cons_append, List.append_assoc]
    rw [liveTags_tag _ hfound, if_pos hodd]
    exact ⟨left, hleft⟩
  | case5 slashes more htag hslash ih =>
    obtain ⟨left, hleft⟩ := ih
    rw [guarded_open slashes htag, List.append_assoc, liveTags_replicate,
      List.cons_append, liveTags_open _ (ofTag?_guarded htag h)]
    exact ⟨left, hleft⟩
  | case6 slashes c more hslash hopen ih =>
    obtain ⟨left, hleft⟩ := ih
    rw [guarded_text slashes hslash hopen, List.append_assoc, liveTags_replicate,
      List.cons_append, liveTags_text _ hslash hopen]
    exact ⟨left, hleft⟩

/-- An escaped text is the guarded one, with a backslash more where it would end in a
single one. -/
theorem toList_escape (s : String) :
    (escape s).toList = guarded 0 s.toList
      ∨ (escape s).toList = guarded 0 s.toList ++ ['\\'] := by
  rw [escape, guarded]
  simp only [String.toList_ofList]
  split
  · exact .inr rfl
  · split
    · exact .inl rfl
    · exact .inr rfl
  · exact .inl rfl

/-- **What is escaped has no live tags.**  Some backslashes are left in front of what
follows it. -/
theorem liveTags_escape (s : String) {rest : List Char} (h : OpensNext rest) :
    ∃ left, liveTags 0 ((escape s).toList ++ rest) = liveTags left rest := by
  rcases toList_escape s with heq | heq
  · rw [heq]
    exact liveTags_guarded 0 s.toList h
  · have hslash : OpensNext ('\\' :: rest) :=
      (opensNext_cons_iff (by decide) (by decide)).2 h
    obtain ⟨left, hleft⟩ := liveTags_guarded 0 s.toList hslash
    rw [heq, List.append_assoc, List.singleton_append, hleft, liveTags_slash]
    exact ⟨left + 1, rfl⟩

/-- An escaped text leaves the next bracket what it is. -/
theorem opensNext_escape {s : String} {rest : List Char} (hs : OpensNext s.toList)
    (h : OpensNext rest) : OpensNext ((escape s).toList ++ rest) := by
  rcases toList_escape s with heq | heq
  · rw [heq]
    exact opensNext_guarded hs h
  · rw [heq, List.append_assoc]
    exact opensNext_guarded hs ((opensNext_cons_iff (by decide) (by decide)).2 h)

end ImageImports.Console.Markup
