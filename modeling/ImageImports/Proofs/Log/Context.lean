import ImageImports.Log.Journal
import ImageImports.Proofs.Json.Reading
import ImageImports.Proofs.Success

/-!
# The context of records

A journal keeps the operation of a view in one place, and a block that opens saves what was
there and puts it back when it closes.  Here the context of a view is told without saving
anything, from the steps that were taken: its image is the one it was made for, and its
operation is that of the innermost block still open on it or, when none is, the one that the
view it was made from was in at that time.

That the journal agrees with this account is an invariant of every step (`Agrees.step`), in
which the saved operations of a view's blocks are those of the blocks below them.

A record is made of what is added to it and of the context, which is put over the additions.
So whatever is added, the record carries the context of its view (`carries_of_note`), and a
reader of the line finds it there.

## Main results

* `carries_recordFields` — the context of a record is that of its view, whatever is added.
* `Agrees.run` — the journal agrees with the account of its views after any steps.
* `run_carries` — every line that is written carries the context of the view it was written
  through.
-/

namespace ImageImports

/-! ## Fields by name -/

namespace Json

variable {fields : List (String × Json)} {name : String}

/-- The last field of a name counts. -/
theorem lookup?_append (fields more : List (String × Json)) (name : String) :
    lookup? (fields ++ more) name = (lookup? more name).or (lookup? fields name) := by
  simp only [lookup?, List.reverse_append, List.find?_append, Option.map_or]

theorem lookup?_cons (field : String × Json) (fields : List (String × Json)) (name : String) :
    lookup? (field :: fields) name =
      (lookup? fields name).or (if field.1 = name then some field.2 else none) := by
  rw [← List.singleton_append, lookup?_append]
  congr 1
  by_cases h : field.1 = name
  · simp [lookup?, h]
  · simp [lookup?, h]

/-- A name that no field has is not found. -/
theorem lookup?_eq_none {names : List String} (hnames : (fields.map (·.1)).Sublist names)
    (h : name ∉ names) : lookup? fields name = none := by
  simp only [lookup?, Option.map_eq_none_iff, List.find?_eq_none, List.mem_reverse]
  intro field hfield heq
  have hname : field.1 = name := by simpa using heq
  exact h (hname ▸ hnames.subset (List.mem_map_of_mem hfield))

end Json

namespace Log

/-! ## Records -/

section

variable (attributes : List (String × Json))

theorem name_of_contextField? {name : String} {field : String × Json}
    (h : contextField? attributes name = some field) : field.1 = name := by
  simp only [contextField?] at h
  split at h
  · cases h
  · cases h
  · cases h
    rfl

/-- The fields of a context have the names that were asked for, in their order. -/
theorem names_contextFields (names : List String) :
    ((names.filterMap (contextField? attributes)).map (·.1)).Sublist names := by
  induction names with
  | nil => exact List.Sublist.refl _
  | cons name rest ih =>
    rw [List.filterMap_cons]
    split
    · exact ih.cons name
    · next field hfield =>
      rw [List.map_cons, name_of_contextField? attributes hfield]
      exact ih.cons_cons name

/-- The field of a name among those of a context. -/
theorem lookup?_contextFields (names : List String) (name : String) :
    Json.lookup? (names.filterMap (contextField? attributes)) name =
      if name ∈ names then (contextField? attributes name).map (·.2) else none := by
  induction names with
  | nil => rfl
  | cons first rest ih =>
    rw [List.filterMap_cons]
    split
    · next hfirst =>
      rw [ih]
      by_cases heq : name = first
      · subst heq
        simp [hfirst]
      · simp [heq]
    · next field hfield =>
      have hname := name_of_contextField? attributes hfield
      rw [Json.lookup?_cons, ih, hname]
      by_cases heq : name = first
      · subst heq
        by_cases hmem : name ∈ rest
        · simp [hfield, hmem]
        · simp [hfield, hmem]
      · simp [heq, Ne.symm heq]

/-- A field for a text that may be missing. -/
theorem contextField?_ofText? {name : String} {text? : Option String}
    (h : Json.lookup? attributes name = some (Json.ofText? text?)) :
    (contextField? attributes name).map (·.2) = text?.map .text := by
  rw [contextField?, h]
  cases text? with
  | none => rfl
  | some text => rfl

/-- A field that may be missing has its name when it is there. -/
theorem names_toList {field? : Option (String × Json)} {name : String}
    (h : ∀ field, field? = some field → field.1 = name) :
    (field?.toList.map (·.1)).Sublist [name] := by
  cases field? with
  | none => exact List.nil_sublist _
  | some field =>
    obtain rfl : field.1 = name := h field rfl
    exact List.Sublist.refl _

theorem names_keptField? : ((keptField? attributes).toList.map (·.1)).Sublist ["extra"] :=
  names_toList fun field h => by
    obtain ⟨value, -, rfl⟩ := Option.map_eq_some_iff.1 h
    rfl

theorem names_failureField? (c : Call) :
    (c.failureField?.toList.map (·.1)).Sublist ["exc_info"] :=
  names_toList fun field h => by
    rw [Call.failureField?] at h
    split at h
    · obtain ⟨message, -, rfl⟩ := Option.map_eq_some_iff.1 h
      rfl
    · cases h

variable (component : String) (c : Call) (message : String)

/-- No field of a record is written twice. -/
theorem nodup_recordFields :
    ((recordFields component attributes c message).map (·.1)).Nodup := by
  have hsublist : ((recordFields component attributes c message).map (·.1)).Sublist
      (["timestamp", "level", "logger", "message"] ++ contextNames ++ ["extra"]
        ++ ["exc_info"]) := by
    simp only [recordFields, List.map_append]
    exact (((List.Sublist.refl _).append (names_contextFields attributes contextNames)).append
      (names_keptField? attributes)).append (names_failureField? c)
  exact hsublist.nodup (by decide)

/-- The context of a record is written from its attributes and from nothing else. -/
theorem lookup?_recordFields {name : String} (h : name ∈ contextNames) :
    Json.lookup? (recordFields component attributes c message) name =
      (contextField? attributes name).map (·.2) := by
  have hapart : ∀ name ∈ contextNames,
      name ∉ ["timestamp", "level", "logger", "message"] ∧ name ∉ ["extra"]
        ∧ name ∉ ["exc_info"] := by decide
  obtain ⟨hhead, hextra, hfailure⟩ := hapart name h
  simp only [recordFields, Json.lookup?_append, lookup?_contextFields, if_pos h]
  rw [Json.lookup?_eq_none (names_failureField? c) hfailure,
    Json.lookup?_eq_none (names_keptField? attributes) hextra,
    Json.lookup?_eq_none (List.Sublist.refl _) hhead]
  simp

end

/-! ## What a view puts over the additions -/

/-- The context that a line carries: it is the text of one record, and read back as that
record, in which each field is written once, and which has these three values. -/
def Carries (line : String) (component : String) (image? operation? : Option String) : Prop :=
  ∃ fields : List (String × Json), line = (Json.object fields).compact
    ∧ Json.parse? line = some (.object fields)
    ∧ (fields.map (·.1)).Nodup
    ∧ Json.lookup? fields "component" = some (.text component)
    ∧ Json.lookup? fields "image" = image?.map .text
    ∧ Json.lookup? fields "operation" = operation?.map .text

/-- The attributes of a view count, whatever was added under their names. -/
theorem lookup?_attributes (v : View) (kept added : List (String × Json)) :
    Json.lookup? (added ++ v.attributes kept) "component" = some (.text v.component)
      ∧ Json.lookup? (added ++ v.attributes kept) "operation" =
        some (Json.ofText? v.operation?)
      ∧ Json.lookup? (added ++ v.attributes kept) "image" = some (Json.ofText? v.image?) := by
  simp only [Json.lookup?_append]
  exact ⟨rfl, rfl, rfl⟩

/-- The record of a view carries its context, whatever was added to it. -/
theorem carries_recordFields (component : String) (v : View) (c : Call)
    (added kept : List (String × Json)) (message : String) :
    Carries (Json.object
        (recordFields component (added ++ v.attributes kept) c message)).compact
      v.component v.image? v.operation? := by
  obtain ⟨hcomponent, hoperation, himage⟩ := lookup?_attributes v kept added
  rw [show Json.text v.component = Json.ofText? (some v.component) from rfl] at hcomponent
  have hwritten {name : String} {text? : Option String} (hname : name ∈ contextNames)
      (h : Json.lookup? (added ++ v.attributes kept) name = some (Json.ofText? text?)) :
      Json.lookup? (recordFields component (added ++ v.attributes kept) c message) name =
        text?.map .text :=
    (lookup?_recordFields _ component c message hname).trans (contextField?_ofText? _ h)
  rw [Carries]
  exact ⟨_, rfl, Json.parse?_compact _, nodup_recordFields _ component c message,
    hwritten (by decide) hcomponent, hwritten (by decide) himage,
    hwritten (by decide) hoperation⟩

/-- A line that a call writes carries the context of the view it was written through. -/
theorem carries_of_note {j : Journal} {view : Nat} {c : Call} {lines : List String}
    (hstructured : j.structured = true) (h : j.note view c = .ok lines) {line : String}
    (hline : line ∈ lines) :
    Carries line (j.viewAt view).component (j.viewAt view).image?
      (j.viewAt view).operation? := by
  simp only [Journal.note, bind, Except.bind, pure, Except.pure, throw, throwThe,
    MonadExceptOf.throw] at h
  split at h
  · cases h
  · split at h
    · cases h
    · next added hadded =>
      split at h
      · cases h
        cases hline
      · split at h
        · cases h
        · split at h
          · cases h
          · split at h
            · cases h
              obtain rfl := List.mem_singleton.1 hline
              exact carries_recordFields j.component (j.viewAt view) c added c.keptData _
            · cases h
              cases hline

/-- A call with nothing but a message writes one line when its level passes and its values fit
its template. -/
theorem note_of_plain {j : Journal} {c : Call} {message : String}
    (hstructured : j.structured = true) (hdata : c.data = [])
    (hlevel : j.threshold ≤ c.level.rank) (hmessage : c.message? = some message)
    (view : Nat) : ∃ line, j.note view c = .ok [line] := by
  have hpasses : ¬ c.level.rank < j.threshold := Nat.not_lt.2 hlevel
  have hadded : additions ((Json.lookup? [] additionsName).getD .null) = .ok [] := rfl
  refine ⟨(Json.object (recordFields j.component ((j.viewAt view).attributes c.keptData) c
    message)).compact, ?_⟩
  rw [Journal.note, hdata, hadded]
  simp only [hpasses, if_false, hmessage, hstructured, if_true, List.any_nil]
  rfl

/-- A line around or inside a piece of work is one of a call through the same view. -/
theorem carries_of_timed {j : Journal} {view : Nat} {label : String}
    {inner? : Option String} {lines : List String} (hstructured : j.structured = true)
    (h : j.timed view label inner? = .ok lines) {line : String} (hline : line ∈ lines) :
    Carries line (j.viewAt view).component (j.viewAt view).image?
      (j.viewAt view).operation? := by
  obtain ⟨before, hbefore, h⟩ := bind_eq_ok_iff.1 h
  cases inner? with
  | none =>
    obtain ⟨inside, hinside, h⟩ := bind_eq_ok_iff.1 h
    obtain ⟨after, hafter, h⟩ := bind_eq_ok_iff.1 h
    cases hinside
    cases h
    rw [List.append_nil] at hline
    rcases List.mem_append.1 hline with hline | hline
    · exact carries_of_note hstructured hbefore hline
    · exact carries_of_note hstructured hafter hline
  | some message =>
    obtain ⟨inside, hinside, h⟩ := bind_eq_ok_iff.1 h
    obtain ⟨after, hafter, h⟩ := bind_eq_ok_iff.1 h
    cases h
    rcases List.mem_append.1 hline with hline | hline
    · rcases List.mem_append.1 hline with hline | hline
      · exact carries_of_note hstructured hbefore hline
      · exact carries_of_note hstructured hinside hline
    · exact carries_of_note hstructured hafter hline

/-! ## The account of the views -/

/-- What the steps so far make of one view. -/
structure Standing where
  image? : Option String := none
  /-- The operation that the view it was made from was in when it was made. -/
  inherited? : Option String := none
  /-- The operations that are open on it, the innermost first. -/
  opened : List String := []
  deriving DecidableEq

namespace Standing

/-- The innermost operation that is open on a view, or else the one it began in. -/
def operation? (s : Standing) : Option String := s.opened.head?.or s.inherited?

/-- The view as the journal keeps it. -/
def view (component : String) (s : Standing) : View where
  component := component
  operation? := s.operation?
  image? := s.image?

/-- What the open operations of a view have saved, the innermost first: each the one that is
below it. -/
def saved (inherited? : Option String) : List String → List (Option String)
  | [] => []
  | _ :: below => below.head?.or inherited? :: saved inherited? below

end Standing

/-- The account of the views with the open operations of one of them changed. -/
def turn (standings : List Standing) (view : Nat) (change : List String → List String) :
    List Standing :=
  standings.modify view fun s => { s with opened := change s.opened }

section

variable {standings : List Standing} {view other : Nat} {s : Standing}
  (change : List String → List String)

theorem length_turn : (turn standings view change).length = standings.length :=
  List.length_modify _ _ _

theorem getElem?_turn_self (hs : standings[view]? = some s) :
    (turn standings view change)[view]? = some { s with opened := change s.opened } := by
  rw [turn, List.getElem?_modify_eq, hs]
  rfl

theorem getElem?_turn_ne (h : view ≠ other) :
    (turn standings view change)[other]? = standings[other]? :=
  List.getElem?_modify_ne _ _ h

theorem turn_eq_self (hs : standings[view]? = some s) (h : change s.opened = s.opened) :
    turn standings view change = standings := by
  apply List.ext_getElem?
  intro other
  by_cases heq : view = other
  · subst heq
    rw [getElem?_turn_self change hs, hs, h]
  · exact getElem?_turn_ne change heq

end

/-- The account of the views, by number, after one more step. -/
def account (standings : List Standing) : Step → List Standing
  | .view parent image => standings ++
    [{ image? := some image, inherited? := standings[parent]?.bind (·.operation?) }]
  | .enter view name => turn standings view (name :: ·)
  | .exit view => turn standings view List.tail
  | .note .. | .timed .. => standings

/-- The account of the views after steps, from one view that stands for no image. -/
def standings (steps : List Step) : List Standing := steps.foldl account [{}]

/-- The step names no view but the first `count`. -/
def Step.Within (count : Nat) : Step → Prop
  | .view parent _ => parent < count
  | .enter index _ => index < count
  | .exit index => index < count
  | .note index _ => index < count
  | .timed index _ _ => index < count

instance (count : Nat) : DecidablePred (Step.Within count)
  | .view parent _ => Nat.decLt parent count
  | .enter index _ => Nat.decLt index count
  | .exit index => Nat.decLt index count
  | .note index _ => Nat.decLt index count
  | .timed index _ _ => Nat.decLt index count

/-- The number of views after a step. -/
def Step.viewsAfter (count : Nat) : Step → Nat
  | .view .. => count + 1
  | .enter .. | .exit .. | .note .. | .timed .. => count

theorem length_account (standings : List Standing) (s : Step) :
    (account standings s).length = s.viewsAfter standings.length := by
  cases s with
  | view parent image => exact List.length_append
  | enter view name => exact length_turn _
  | exit view => exact length_turn _
  | note view call => rfl
  | timed view label inner? => rfl

/-- Every step names views that are there by then, the first `count` from the beginning. -/
def StepsWithin (count : Nat) : List Step → Prop
  | [] => True
  | s :: rest => s.Within count ∧ StepsWithin (s.viewsAfter count) rest

instance StepsWithin.decidable : (count : Nat) → (steps : List Step) →
    Decidable (StepsWithin count steps)
  | _, [] => .isTrue trivial
  | count, s :: rest =>
    have := StepsWithin.decidable (s.viewsAfter count) rest
    inferInstanceAs (Decidable (s.Within count ∧ StepsWithin (s.viewsAfter count) rest))

/-- The view that a step writes lines through. -/
def Step.source? : Step → Option Nat
  | .note index _ => some index
  | .timed index _ _ => some index
  | .view .. => none
  | .enter .. => none
  | .exit .. => none

/-- The view whose open operations a step changes. -/
def Step.turned? : Step → Option Nat
  | .enter index _ => some index
  | .exit index => some index
  | .view .. => none
  | .note .. => none
  | .timed .. => none

/-! ## The journal agrees with the account -/

section

variable {α : Type} {p q : α → Bool}

/-- Erasing the first of some items takes the front off them. -/
theorem filter_eraseP (as : List α) : (as.eraseP p).filter p = (as.filter p).tail := by
  induction as with
  | nil => rfl
  | cons a rest ih =>
    cases hp : p a with
    | true => rw [List.eraseP_cons_of_pos hp, List.filter_cons_of_pos hp, List.tail_cons]
    | false => rw [List.eraseP_cons_of_neg (by simp [hp]), List.filter_cons_of_neg (by simp [hp]),
        List.filter_cons_of_neg (by simp [hp]), ih]

/-- Erasing one of some items leaves the others. -/
theorem filter_eraseP_of_disjoint (hpq : ∀ a, p a = true → q a = false) (as : List α) :
    (as.eraseP p).filter q = as.filter q := by
  induction as with
  | nil => rfl
  | cons a rest ih =>
    cases hp : p a with
    | true => rw [List.eraseP_cons_of_pos hp, List.filter_cons_of_neg (by simp [hpq a hp])]
    | false => rw [List.eraseP_cons_of_neg (by simp [hp]), List.filter_cons, List.filter_cons, ih]

end

/-- The journal agrees with an account of its views. -/
structure Agrees (component : String) (j : Journal) (standings : List Standing) : Prop where
  structured : j.structured = true
  views : j.views = standings.map (Standing.view component)
  /-- The blocks of a view have saved the operations below them. -/
  blocks : ∀ (view : Nat) s, standings[view]? = some s →
    (j.blocks.filter (·.view = view)).map (·.before?) = Standing.saved s.inherited? s.opened
  /-- Every block is open on a view that is there. -/
  owned : ∀ block ∈ j.blocks, block.view < standings.length

namespace Agrees

variable {component : String} {j : Journal} {standings : List Standing}

/-- The view of a number is the one in the account. -/
theorem viewAt (h : Agrees component j standings) {view : Nat} {s : Standing}
    (hs : standings[view]? = some s) : j.viewAt view = s.view component := by
  rw [Journal.viewAt, h.views, List.getElem?_map, hs]
  rfl

theorem start (component : String) (threshold : Nat) :
    Agrees component (.start component threshold true) [{}] where
  structured := rfl
  views := rfl
  blocks view s hs := by
    cases view with
    | zero =>
      cases hs
      rfl
    | succ view => cases hs
  owned block hblock := by cases hblock

/-! ### One step -/

/-- A new view begins without blocks, in the operation of the view it is made from. -/
theorem addView (h : Agrees component j standings) {parent : Nat} (image : String)
    (hparent : parent < standings.length) :
    Agrees component (j.addView parent image) (account standings (.view parent image)) := by
  have hview := h.viewAt (List.getElem?_eq_getElem hparent)
  constructor
  · exact h.structured
  · simp only [Journal.addView, account, h.views, hview, List.map_append, List.map_singleton,
      List.getElem?_eq_getElem hparent]
    rfl
  · intro view s hs
    rw [account] at hs
    rcases Nat.lt_or_ge view standings.length with hlt | hge
    · rw [List.getElem?_append_left hlt] at hs
      exact h.blocks view s hs
    · -- The view is the new one, and no block is open on it.
      rw [List.getElem?_append_right hge] at hs
      obtain ⟨-, rfl⟩ := List.getElem?_eq_some_iff.1 hs
      have hnone : j.blocks.filter (·.view = view) = [] := by
        refine List.filter_eq_nil_iff.2 fun block hblock => ?_
        have := h.owned block hblock
        simp only [decide_eq_true_eq]
        omega
      rw [Journal.addView, hnone]
      simp only [List.getElem_singleton]
      rfl
  · intro block hblock
    have := h.owned block hblock
    simp only [account, List.length_append, List.length_singleton]
    omega

/-- The open operations of a view change together with its blocks, and no other view does. -/
theorem turn (h : Agrees component j standings) {view : Nat} {s : Standing}
    (hs : standings[view]? = some s) (change : List String → List String)
    (blocks : List OpenBlock)
    (hsaved : (blocks.filter (·.view = view)).map (·.before?) =
      Standing.saved s.inherited? (change s.opened))
    (hothers : ∀ other, other ≠ view →
      blocks.filter (·.view = other) = j.blocks.filter (·.view = other))
    (howned : ∀ block ∈ blocks, block.view = view ∨ block ∈ j.blocks) :
    Agrees component
      { j.setOperation view { s with opened := change s.opened }.operation? with blocks }
      (turn standings view change) := by
  constructor
  · exact h.structured
  · apply List.ext_getElem?
    intro other
    rw [List.getElem?_map, Journal.setOperation, h.views]
    by_cases heq : view = other
    · subst heq
      rw [List.getElem?_modify_eq, List.getElem?_map, hs, getElem?_turn_self change hs]
      rfl
    · rw [List.getElem?_modify_ne _ _ heq, List.getElem?_map, getElem?_turn_ne change heq]
  · intro other t ht
    by_cases heq : view = other
    · subst heq
      rw [getElem?_turn_self change hs] at ht
      cases ht
      exact hsaved
    · rw [getElem?_turn_ne change heq] at ht
      show (blocks.filter (·.view = other)).map (·.before?) = _
      rw [hothers other (Ne.symm heq)]
      exact h.blocks other t ht
  · intro block hblock
    rw [length_turn]
    rcases howned block hblock with heq | hold
    · rw [heq]
      exact (List.getElem?_eq_some_iff.1 hs).1
    · exact h.owned block hold

theorem enter (h : Agrees component j standings) {view : Nat} (name : String)
    (hview : view < standings.length) :
    Agrees component (j.enter view name) (account standings (.enter view name)) := by
  obtain ⟨s, hs⟩ : ∃ s, standings[view]? = some s := ⟨_, List.getElem?_eq_getElem hview⟩
  refine h.turn hs (name :: ·) (⟨view, (j.viewAt view).operation?⟩ :: j.blocks) ?_ ?_ ?_
  · rw [List.filter_cons_of_pos (by simp), List.map_cons, h.blocks view s hs, h.viewAt hs]
    rfl
  · intro other hne
    exact List.filter_cons_of_neg (by simpa using Ne.symm hne)
  · intro block hblock
    rcases List.mem_cons.1 hblock with rfl | hold
    · exact .inl rfl
    · exact .inr hold

/-- Closing the innermost operation of a view puts the one below it back. -/
theorem exit (h : Agrees component j standings) {view : Nat}
    (hview : view < standings.length) :
    Agrees component (j.exit view) (account standings (.exit view)) := by
  obtain ⟨s, hs⟩ : ∃ s, standings[view]? = some s := ⟨_, List.getElem?_eq_getElem hview⟩
  have hblocks := h.blocks view s hs
  have hfound : j.blocks.find? (·.view = view) =
      (j.blocks.filter (·.view = view)).head? := List.head?_filter.symm
  cases hopened : s.opened with
  | nil =>
    -- Nothing is open on the view, so nothing is closed.
    rw [hopened, Standing.saved, List.map_eq_nil_iff] at hblocks
    rw [hblocks, List.head?_nil] at hfound
    rw [Journal.exit, hfound, account, turn_eq_self List.tail hs (by rw [hopened]; rfl)]
    exact h
  | cons name below =>
    rw [hopened, Standing.saved] at hblocks
    obtain ⟨block, blocks, hfilter, hbefore, hbelow⟩ := List.map_eq_cons_iff.1 hblocks
    rw [hfilter, List.head?_cons] at hfound
    have hoperation : block.before? =
        { s with opened := s.opened.tail : Standing }.operation? := by
      rw [hbefore, hopened]
      rfl
    rw [Journal.exit, hfound, account]
    simp only [hoperation]
    refine h.turn hs List.tail (j.blocks.eraseP (·.view = view)) ?_ ?_ ?_
    · rw [filter_eraseP, hfilter, List.tail_cons, hbelow, hopened]
      rfl
    · intro other hne
      refine filter_eraseP_of_disjoint (fun b hb => ?_) j.blocks
      simp only [decide_eq_true_eq, decide_eq_false_iff_not] at hb ⊢
      omega
    · intro b hb
      exact .inr (List.mem_of_mem_eraseP hb)

/-! ### Steps in a row -/

/-- Every step keeps the agreement. -/
theorem step (h : Agrees component j standings) {s : Step} (hs : s.Within standings.length) :
    Agrees component (j.step s).1 (account standings s) := by
  cases s with
  | view parent image => exact h.addView image hs
  | enter view name => exact h.enter name hs
  | exit view => exact h.exit hs
  | note view call => exact h
  | timed view label inner? => exact h

theorem run (h : Agrees component j standings) {steps : List Step}
    (hwithin : StepsWithin standings.length steps) :
    Agrees component (j.run steps).1 (steps.foldl account standings) := by
  induction steps generalizing j standings with
  | nil => exact h
  | cons s rest ih =>
    obtain ⟨hs, hrest⟩ := hwithin
    exact ih (h.step hs) (length_account standings s ▸ hrest)

end Agrees

/-! ## Lines -/

/-- The answer to a step is the one that the journal gives after the steps before it. -/
theorem Journal.run_answer (j : Journal) {steps : List Step} {i : Nat} {s : Step}
    (hs : steps[i]? = some s) :
    (j.run steps).2[i]? = some ((j.run (steps.take i)).1.step s).2 := by
  induction steps generalizing j i with
  | nil => cases hs
  | cons first rest ih =>
    cases i with
    | zero =>
      cases hs
      rfl
    | succ i => exact ih (j.step first).1 hs

/-- No step changes the threshold. -/
theorem Journal.threshold_step (j : Journal) (s : Step) :
    (j.step s).1.threshold = j.threshold := by
  cases s with
  | view parent image => rfl
  | enter view name => rfl
  | exit view =>
    simp only [Journal.step, Journal.exit]
    split
    · rfl
    · rfl
  | note view call => rfl
  | timed view label inner? => rfl

theorem Journal.threshold_run (j : Journal) (steps : List Step) :
    (j.run steps).1.threshold = j.threshold := by
  induction steps generalizing j with
  | nil => rfl
  | cons s rest ih => exact (ih (j.step s).1).trans (j.threshold_step s)

/-- A line that a step writes carries the account of the view it was written through. -/
theorem Agrees.carries {component : String} {j : Journal} {standings : List Standing}
    (h : Agrees component j standings) {s : Step} (hs : s.Within standings.length)
    {lines : List String} (hlines : (j.step s).2 = .ok lines) {line : String}
    (hline : line ∈ lines) :
    ∃ view standing, s.source? = some view ∧ standings[view]? = some standing
      ∧ Carries line component standing.image? standing.operation? := by
  cases s with
  | view parent image =>
    cases hlines
    cases hline
  | enter view name =>
    cases hlines
    cases hline
  | exit view =>
    cases hlines
    cases hline
  | note view call =>
    have hstanding := List.getElem?_eq_getElem hs
    have hcarries := carries_of_note h.structured hlines hline
    rw [h.viewAt hstanding] at hcarries
    exact ⟨view, _, rfl, hstanding, hcarries⟩
  | timed view label inner? =>
    have hstanding := List.getElem?_eq_getElem hs
    have hcarries := carries_of_timed h.structured hlines hline
    rw [h.viewAt hstanding] at hcarries
    exact ⟨view, _, rfl, hstanding, hcarries⟩

/-- A step that opens or closes nothing on a view leaves what the view's records carry as it
is, whatever it does elsewhere. -/
theorem account_of_not_turned {standings : List Standing} {s : Step} {view : Nat}
    {standing : Standing} (hview : standings[view]? = some standing)
    (hs : s.turned? ≠ some view) : (account standings s)[view]? = some standing := by
  cases s with
  | view parent image =>
    exact (List.getElem?_append_left (List.getElem?_eq_some_iff.1 hview).1).trans hview
  | enter other name =>
    exact (getElem?_turn_ne _ fun heq => hs (congrArg some heq)).trans hview
  | exit other => exact (getElem?_turn_ne _ fun heq => hs (congrArg some heq)).trans hview
  | note other call => exact hview
  | timed other label inner? => exact hview

/-- The front of some steps names views that are there, and so does the step behind it. -/
theorem StepsWithin.take (standings : List Standing) {steps : List Step}
    (h : StepsWithin standings.length steps) {i : Nat} {s : Step} (hs : steps[i]? = some s) :
    StepsWithin standings.length (steps.take i)
      ∧ s.Within ((steps.take i).foldl account standings).length := by
  induction steps generalizing standings i with
  | nil => cases hs
  | cons first rest ih =>
    obtain ⟨hfirst, hrest⟩ := h
    cases i with
    | zero =>
      cases hs
      exact ⟨trivial, hfirst⟩
    | succ i =>
      have hnext := ih (account standings first) (length_account standings first ▸ hrest) hs
      exact ⟨⟨hfirst, length_account standings first ▸ hnext.1⟩, hnext.2⟩

/-- **The context of records**: whatever is done with a journal, and whatever else is given
with a call, every line that it writes carries the component of the journal, the image of the
view it was written through and the operation of the innermost block still open on that view
or, when none is, the one in which the view began.  No step that opens or closes a block on
another view changes that, and no call does, whether it writes, writes nothing or is
refused.  A call with nothing but a message that is grave enough does write a line. -/
theorem run_carries (component : String) (threshold : Nat) {steps : List Step}
    (hwithin : StepsWithin 1 steps) :
    let answers := ((Journal.start component threshold true).run steps).2
    ∀ (i : Nat) s, steps[i]? = some s →
      (∀ lines, answers[i]? = some (.ok lines) → ∀ line ∈ lines,
        ∃ view standing, s.source? = some view
          ∧ (standings (steps.take i))[view]? = some standing
          ∧ Carries line component standing.image? standing.operation?)
      ∧ (∀ view standing, (standings (steps.take i))[view]? = some standing →
        s.turned? ≠ some view → (standings (steps.take (i + 1)))[view]? = some standing)
      ∧ ∀ view c message, s = .note view c → c.data = [] →
        effectiveThreshold threshold ≤ c.level.rank → c.message? = some message →
          ∃ line, answers[i]? = some (.ok [line]) := by
  intro answers i s hs
  obtain ⟨htake, hstep⟩ := StepsWithin.take [{}] hwithin hs
  have hagrees := (Agrees.start component threshold).run htake
  have hanswer : answers[i]? = _ := Journal.run_answer _ hs
  refine ⟨?_, ?_, ?_⟩
  · intro lines hlines line hline
    exact hagrees.carries hstep (Option.some.inj (hanswer.symm.trans hlines)) hline
  · intro view standing hview hturned
    have hnext : standings (steps.take (i + 1)) = account (standings (steps.take i)) s := by
      rw [standings, standings, List.take_add_one, hs, Option.toList_some, List.foldl_append,
        List.foldl_cons, List.foldl_nil]
    rw [hnext]
    exact account_of_not_turned hview hturned
  · rintro view c message rfl hdata hlevel hmessage
    have hthreshold := Journal.threshold_run (.start component threshold true) (steps.take i)
    obtain ⟨line, hline⟩ := note_of_plain hagrees.structured hdata
      (Nat.le_trans (Nat.le_of_eq hthreshold) hlevel) hmessage view
    exact ⟨line, hanswer.trans (congrArg some hline)⟩

/-- Two views whose blocks interleave.  The first call gives values of its own for the
context, the value of the second one does not fit its template, and the third one is
refused. -/
def sampleSteps : List Step :=
  [.enter 0 "batch", .view 0 "a.exe", .exit 0, .enter 1 "imports", .view 1 "b.exe",
    .enter 2 "sections",
    .note 1 { level := .error, template := "m", data := [("image", .text "x"),
      ("extra", .object [("component", .text "x"), ("image", .text "x"),
        ("operation", .null)])] },
    .note 1 { level := .error, template := "%d", values := [.text "x"] },
    .note 2 { level := .error, template := "m", data := [("msg", .null)] },
    .exit 1, .note 1 { level := .error, template := "m" },
    .exit 2, .note 2 { level := .error, template := "m" },
    .note 0 { level := .error, template := "m" }]

/-- The lines of the sample: the views are in the operations of their innermost blocks, and
behind those in the ones that they began in. -/
theorem run_carries_sample :
    let answers := ((Journal.start "c" 20 true).run sampleSteps).2
    let line (context : String) :=
      "\x7b\"timestamp\": \"T\", \"level\": \"ERROR\", \"logger\": \"pescope.c\", "
        ++ "\"message\": \"m\", \"component\": \"c\"" ++ context ++ "\x7d"
    StepsWithin 1 sampleSteps
      ∧ answers.map Except.toOption =
        [some [], some [], some [], some [], some [], some [],
          some [line (", \"operation\": \"imports\", \"image\": \"a.exe\", "
            ++ "\"extra\": \x7b\"image\": \"x\"\x7d")],
          some [], none,
          some [], some [line ", \"operation\": \"batch\", \"image\": \"a.exe\""],
          some [], some [line ", \"operation\": \"imports\", \"image\": \"b.exe\""],
          some [line ""]]
      ∧ ∀ (i : Nat) s, sampleSteps[i]? = some s →
        ∀ lines, answers[i]? = some (.ok lines) → ∀ line ∈ lines,
          ∃ view standing, s.source? = some view
            ∧ (standings (sampleSteps.take i))[view]? = some standing
            ∧ Carries line "c" standing.image? standing.operation? :=
  ⟨by decide, by decide +kernel, fun i s hs => (run_carries "c" 20 (by decide) i s hs).1⟩

end Log

end ImageImports
