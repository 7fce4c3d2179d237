import ImageImports.Proofs.Console.Wording

/-!
# Markup that is put together

What is shown is put together from wording, from escaped texts and from styled texts,
which stand between the two tags of a style.  An escaped text may leave backslashes or an
open bracket behind; a styled text leaves nothing behind, because its second tag ends it.
So a text can be shown when an escaped text stands at its end, or in front of wording that
a bracket follows only to open.

## Main results

* `Composed.shows` — what is put together in this way can be shown.
-/

namespace ImageImports.Console

open Markup

/-! ## Ways to put texts together -/

/-- A text without live tags. -/
def Inert (s : String) : Prop :=
  ∀ rest, OpensNext rest → ∃ left, liveTags 0 (s.toList ++ rest) = liveTags left rest

/-- A text whose tags can be followed and which leaves what follows it alone. -/
def Sealed (s : String) : Prop :=
  ∀ rest, ∃ tags, Followable tags
    ∧ liveTags 0 (s.toList ++ rest) = tags ++ liveTags 0 rest

/-- A text whose tags can be followed, where the next bracket behind it does not close. -/
def Composed (s : String) : Prop :=
  ∀ rest, OpensNext rest → ∃ tags left, Followable tags
    ∧ liveTags 0 (s.toList ++ rest) = tags ++ liveTags left rest

/-- A text that closes no bracket left open in front of it. -/
def Opens (s : String) : Prop := ∀ rest, OpensNext rest → OpensNext (s.toList ++ rest)

theorem Composed.shows {s : String} (h : Composed s) : Shows s := by
  obtain ⟨tags, left, htags, hlive⟩ := h [] opensNext_nil
  rw [List.append_nil, liveTags_nil, List.append_nil] at hlive
  refine Followable.shows ?_
  rw [hlive]
  exact htags

theorem inert_escape (s : String) : Inert (escape s) := fun _ h => liveTags_escape s h

theorem Inert.composed {s : String} (h : Inert s) : Composed s := by
  intro rest hrest
  obtain ⟨left, hleft⟩ := h rest hrest
  exact ⟨[], left, followable_nil, hleft⟩

theorem Quiet.inert {s : String} (h : Quiet s) : Inert s := by
  intro rest _
  by_cases hne : s = ""
  · rw [hne]
    exact ⟨0, rfl⟩
  · exact ⟨0, h.liveTags_append hne 0 rest⟩

theorem Quiet.sealed {s : String} (h : Quiet s) : Sealed s := by
  intro rest
  refine ⟨[], followable_nil, ?_⟩
  by_cases hne : s = ""
  · rw [hne]
    rfl
  · exact h.liveTags_append hne 0 rest

theorem Sealed.composed {s : String} (h : Sealed s) : Composed s := by
  intro rest _
  obtain ⟨tags, htags, hlive⟩ := h rest
  exact ⟨tags, 0, htags, hlive⟩

theorem Quiet.opens {s : String} (h : Quiet s) : Opens s :=
  fun _ hrest => h.opensNext hrest

theorem opens_of_head? {s : String} (h : s.toList.head? = some '[') : Opens s := by
  intro rest _
  obtain ⟨more, hmore⟩ := List.head?_eq_some_iff.1 h
  rw [hmore]
  exact opensNext_open _

theorem Sealed.append {s t : String} (hs : Sealed s) (ht : Sealed t) :
    Sealed (s ++ t) := by
  intro rest
  obtain ⟨first, hfirst, hlive⟩ := hs (t.toList ++ rest)
  obtain ⟨second, hsecond, hlive'⟩ := ht rest
  refine ⟨first ++ second, hfirst.append hsecond, ?_⟩
  rw [String.toList_append, List.append_assoc, hlive, hlive', List.append_assoc]

/-- Anything may stand behind a text that is sealed. -/
theorem Sealed.append_composed {s t : String} (hs : Sealed s) (ht : Composed t) :
    Composed (s ++ t) := by
  intro rest hrest
  obtain ⟨first, hfirst, hlive⟩ := hs (t.toList ++ rest)
  obtain ⟨second, left, hsecond, hlive'⟩ := ht rest hrest
  refine ⟨first ++ second, left, hfirst.append hsecond, ?_⟩
  rw [String.toList_append, List.append_assoc, hlive, hlive', List.append_assoc]

/-- Behind a text that is not sealed comes wording first, and no bracket that closes. -/
theorem Composed.append {s between t : String} (hs : Composed s)
    (hbetween : Quiet between) (hne : between ≠ "") (ht : Composed t) (hopens : Opens t) :
    Composed (s ++ between ++ t) := by
  intro rest hrest
  have hbehind := hbetween.opensNext (hopens rest hrest)
  obtain ⟨first, left, hfirst, hlive⟩ := hs _ hbehind
  obtain ⟨second, left', hsecond, hlive'⟩ := ht rest hrest
  refine ⟨first ++ second, left', hfirst.append hsecond, ?_⟩
  rw [String.toList_append, String.toList_append, List.append_assoc,
    List.append_assoc, hlive, hbetween.liveTags_append hne, hlive', List.append_assoc]

/-- Wording may stand behind any text. -/
theorem Composed.append_quiet {s t : String} (hs : Composed s) (ht : Quiet t) :
    Composed (s ++ t) := by
  intro rest hrest
  obtain ⟨tags, left, htags, hlive⟩ := hs _ (ht.opensNext hrest)
  rw [String.toList_append, List.append_assoc, hlive]
  by_cases hne : t = ""
  · rw [hne]
    exact ⟨tags, left, htags, rfl⟩
  · rw [ht.liveTags_append hne]
    exact ⟨tags, 0, htags, rfl⟩

/-! ## Styled texts -/

/-- What the tags around a styled text ask of the name of its style. -/
structure IsStyle (name : String) : Prop where
  whole : tagName name.toList = name.toList
  opens : ofTag? (name.toList ++ [']']) = some (name.toList, [])
  closes : ofTag? ('/' :: name.toList ++ [']']) = some ('/' :: name.toList, [])
  first : name.toList.head? ≠ some '/'
  trimmed : Text.trimList (fun c => Unicode.isBlank c.toNat) name.toList = name.toList
  canonical : Style.canonical name = .ok name

theorem isStyle_bold : IsStyle "bold" := by
  constructor <;> decide +kernel

theorem isStyle_dim : IsStyle "dim" := by
  constructor <;> decide +kernel

theorem isStyle_yellow : IsStyle "yellow" := by
  constructor <;> decide +kernel

theorem isStyle_heading : IsStyle "bold bright_cyan" := by
  constructor <;> decide +kernel

/-- A text between the tags of a style. -/
def styled (name text : String) : String :=
  "[" ++ name ++ "]" ++ text ++ ("[/" ++ name ++ "]")

theorem IsStyle.turn_open {name : String} (h : IsStyle name) (opened : List Opening) :
    turn opened name.toList = .ok (⟨name, []⟩ :: opened) := by
  unfold turn
  rw [h.whole]
  split
  · next heq =>
    refine absurd ?_ h.first
    rw [heq]
    rfl
  · rw [String.ofList_toList, h.canonical]
    have hdrop : name.toList.drop (name.toList.length + 1) = [] :=
      List.drop_eq_nil_of_le (Nat.le_succ _)
    rw [hdrop]
    rfl

theorem IsStyle.turn_close {name : String} (h : IsStyle name) (opened : List Opening) :
    Succeeds (turn (⟨name, []⟩ :: opened) ('/' :: name.toList)) := by
  have hwhole : tagName ('/' :: name.toList) = '/' :: name.toList := by
    rw [tagName, List.takeWhile_cons_of_pos (by decide)]
    exact congrArg _ h.whole
  unfold turn
  rw [hwhole]
  simp only [h.trimmed, String.ofList_toList, h.canonical]
  have hclose : Opening.close ⟨name, []⟩ = .ok () := by
    simp [Opening.close]
  rw [hclose]
  split
  · exact succeeds_ok opened
  · refine succeeds_bind_iff.2 ⟨name, rfl, ?_⟩
    have hfound : (⟨name, []⟩ :: opened).find? (fun o => decide (o.name = name)) =
        some ⟨name, []⟩ :=
      List.find?_cons_of_pos (decide_eq_true rfl)
    rw [hfound]
    simp only [hclose]
    exact succeeds_ok _

/-- A style can be opened. -/
theorem IsStyle.followable_open {name : String} (h : IsStyle name) :
    Followable [name.toList] := by
  intro opened
  rw [List.foldlM_cons, h.turn_open]
  exact succeeds_pure _

/-- A style can be opened and closed. -/
theorem IsStyle.followable {name : String} (h : IsStyle name) :
    Followable [name.toList, '/' :: name.toList] := by
  intro opened
  rw [List.foldlM_cons, h.turn_open]
  refine succeeds_bind_iff.2 ⟨_, rfl, ?_⟩
  rw [List.foldlM_cons]
  exact (h.turn_close opened).bind fun _ _ => succeeds_pure _

/-- A styled text leaves nothing behind, even where a backslash at its end guards the
second tag. -/
theorem sealed_styled {name text : String} (h : IsStyle name) (ht : Inert text) :
    Sealed (styled name text) := by
  intro rest
  have hopen := ofTag?_append h.opens
    (text.toList ++ '[' :: ('/' :: name.toList ++ ']' :: rest))
  have hclose := ofTag?_append h.closes rest
  obtain ⟨left, hleft⟩ := ht _ (opensNext_open ('/' :: name.toList ++ ']' :: rest))
  have hlist : (styled name text).toList ++ rest =
      '[' :: (name.toList ++ ']' ::
        (text.toList ++ '[' :: ('/' :: name.toList ++ ']' :: rest))) := by
    simp [styled]
  rw [hlist, liveTags_tag 0 hopen, if_neg (by decide), hleft, liveTags_tag left hclose]
  split
  · exact ⟨[name.toList], h.followable_open, rfl⟩
  · exact ⟨[name.toList, '/' :: name.toList], h.followable, rfl⟩

theorem opens_styled (name text : String) : Opens (styled name text) := by
  refine opens_of_head? ?_
  simp [styled]

end ImageImports.Console
