import ConfigTimeline.Request.Validation

/-!
Which requests pass validation, and what is reported of one that does not. A request that breaks
several rules is refused for the first in the order of the rules: for the project reference, then the
description, then the number of values, and then value by value. What is reported of a value tells
that all values before it are sound and have keys of their own, so the rules for a list of items are
stated once, for values and for environments alike.
-/

namespace ConfigTimeline

/-- A text that is not blank and has at most the given number of characters. -/
structure Fits (s : String) (max : Nat) : Prop where
  notBlank : ¬Text.Blank s
  length_le : s.length ≤ max

inductive TextFault (field : RequestField) (s : String) (max : Nat) : ValidationError → Prop
  | blank (h : Text.Blank s) : TextFault field s max (.blank field)
  | tooLong (hnot : ¬Text.Blank s) (h : max < s.length) :
      TextFault field s max (.tooLong field max)

theorem checkLength_ok_iff {field : RequestField} {s : String} {max : Nat} :
    checkLength field s max = .ok () ↔ s.length ≤ max := by
  unfold checkLength
  split
  · rename_i hlong
    exact iff_of_false (fun h => by cases h) (Nat.not_le.mpr hlong)
  · rename_i hshort
    exact iff_of_true rfl (Nat.not_lt.mp hshort)

theorem checkLength_error_iff {field : RequestField} {s : String} {max : Nat} {e : ValidationError} :
    checkLength field s max = .error e ↔ max < s.length ∧ e = .tooLong field max := by
  unfold checkLength
  split
  · rename_i hlong
    simp [hlong, eq_comm]
  · rename_i hshort
    simp [hshort]

theorem checkText_ok_iff {field : RequestField} {s : String} {max : Nat} :
    checkText field s max = .ok () ↔ Fits s max := by
  unfold checkText
  split
  · rename_i hblank
    exact iff_of_false nofun fun hfits => hfits.notBlank (Text.isBlank_iff.mp hblank)
  · rename_i hnot
    rw [checkLength_ok_iff]
    exact ⟨fun h => ⟨mt Text.isBlank_iff.mpr hnot, h⟩, fun h => h.length_le⟩

theorem checkText_error_iff {field : RequestField} {s : String} {max : Nat} {e : ValidationError} :
    checkText field s max = .error e ↔ TextFault field s max e := by
  unfold checkText
  constructor
  · intro h
    split at h
    · rename_i hblank
      cases h
      exact .blank (Text.isBlank_iff.mp hblank)
    · rename_i hnot
      obtain ⟨hlong, rfl⟩ := checkLength_error_iff.mp h
      exact .tooLong (mt Text.isBlank_iff.mpr hnot) hlong
  · rintro (hblank | ⟨hnot, hlong⟩)
    · rw [if_pos (Text.isBlank_iff.mpr hblank)]
    · rw [if_neg (mt Text.isBlank_iff.mp hnot)]
      exact checkLength_error_iff.mpr ⟨hlong, rfl⟩

section Items

variable {α : Type}

/-- Checks items from an index on, given the keys before it. -/
def checkEach (check : Nat → α → Except ValidationError Unit) (key : α → String)
    (repeated : String → ValidationError) (index : Nat) (seen : List String) :
    List α → Except ValidationError Unit
  | [] => .ok ()
  | a :: rest => do
      check index a
      if key a ∈ seen then .error (repeated (key a))
      else checkEach check key repeated (index + 1) (key a :: seen) rest

structure AllPass (Sound : α → Prop) (key : α → String) (items : List α) : Prop where
  sound : ∀ a ∈ items, Sound a
  distinct : (items.map key).Nodup

/-- What is wrong with the first item that does not pass, of items that come after others which do: all
items before it are sound and have different keys, and either it is not sound, or its key is one of
theirs. -/
inductive FirstItemFault (Sound : α → Prop) (Fault : Nat → α → ValidationError → Prop)
    (key : α → String) (repeated : String → ValidationError) (done items : List α) :
    ValidationError → Prop
  | item {before after : List α} {a : α} {e : ValidationError} (hitems : items = before ++ a :: after)
      (hbefore : AllPass Sound key (done ++ before)) (h : Fault (done ++ before).length a e) :
      FirstItemFault Sound Fault key repeated done items e
  | again {before after : List α} {a : α} (hitems : items = before ++ a :: after)
      (hbefore : AllPass Sound key (done ++ before)) (hsound : Sound a)
      (h : key a ∈ (done ++ before).map key) :
      FirstItemFault Sound Fault key repeated done items (repeated (key a))

variable {check : Nat → α → Except ValidationError Unit} {key : α → String}
  {repeated : String → ValidationError} {Sound : α → Prop}
  {Fault : Nat → α → ValidationError → Prop}

theorem allPass_concat {items : List α} {a : α} :
    AllPass Sound key (items ++ [a]) ↔
      AllPass Sound key items ∧ Sound a ∧ key a ∉ items.map key := by
  constructor
  · intro h
    have hnodup := h.distinct
    rw [List.map_append, List.nodup_append] at hnodup
    refine ⟨⟨fun b hb => h.sound b (List.mem_append_left _ hb), hnodup.1⟩,
      h.sound a (List.mem_append_right _ List.mem_cons_self), ?_⟩
    intro hseen
    exact hnodup.2.2 _ hseen _ List.mem_cons_self rfl
  · rintro ⟨hitems, hsound, hnew⟩
    constructor
    · intro b hb
      rcases List.mem_append.mp hb with hb | hb
      · exact hitems.sound b hb
      · rw [List.mem_singleton.mp hb]
        exact hsound
    · rw [List.map_append, List.nodup_append]
      refine ⟨hitems.distinct, by simp, ?_⟩
      rintro _ hk _ hlast rfl
      rw [List.mem_singleton.mp hlast] at hk
      exact hnew hk

theorem AllPass.of_append {before after : List α} (h : AllPass Sound key (before ++ after)) :
    AllPass Sound key before := by
  have hnodup := h.distinct
  rw [List.map_append, List.nodup_append] at hnodup
  exact ⟨fun a ha => h.sound a (List.mem_append_left _ ha), hnodup.1⟩

theorem not_firstItemFault_nil {done : List α} {e : ValidationError} :
    ¬FirstItemFault Sound Fault key repeated done [] e := by
  rintro (⟨hitems, -, -⟩ | ⟨hitems, -, -, -⟩) <;> simp at hitems

/-- The first fault is that of the first item, if it has one; else its key is repeated; else the fault
is one of the items after it. -/
theorem firstItemFault_cons {done rest : List α} {a : α} {e : ValidationError}
    (hdone : AllPass Sound key done) :
    FirstItemFault Sound Fault key repeated done (a :: rest) e ↔
      Fault done.length a e ∨ Sound a ∧ (key a ∈ done.map key ∧ e = repeated (key a) ∨
        key a ∉ done.map key ∧ FirstItemFault Sound Fault key repeated (done ++ [a]) rest e) := by
  constructor
  · -- The items before the one at fault are none, or they begin with the first.
    rintro (⟨hitems, hbefore, h⟩ | ⟨hitems, hbefore, hsound, h⟩)
    · rename_i before after b
      cases before with
      | nil =>
          obtain ⟨rfl, rfl⟩ := List.cons.inj hitems
          rw [List.append_nil] at h
          exact Or.inl h
      | cons first before =>
          obtain ⟨rfl, rfl⟩ := List.cons.inj hitems
          rw [List.append_cons] at hbefore h
          obtain ⟨-, hsound, hnew⟩ := allPass_concat.mp hbefore.of_append
          exact Or.inr ⟨hsound, Or.inr ⟨hnew, .item rfl hbefore h⟩⟩
    · rename_i before after b
      cases before with
      | nil =>
          obtain ⟨rfl, rfl⟩ := List.cons.inj hitems
          rw [List.append_nil] at h
          exact Or.inr ⟨hsound, Or.inl ⟨h, rfl⟩⟩
      | cons first before =>
          obtain ⟨rfl, rfl⟩ := List.cons.inj hitems
          rw [List.append_cons] at hbefore h
          obtain ⟨-, hfirst, hnew⟩ := allPass_concat.mp hbefore.of_append
          exact Or.inr ⟨hfirst, Or.inr ⟨hnew, .again rfl hbefore hsound h⟩⟩
  · have hfirst : a :: rest = [] ++ a :: rest := rfl
    have hnone : AllPass Sound key (done ++ []) := by rwa [List.append_nil]
    rintro (h | ⟨hsound, ⟨h, rfl⟩ | ⟨-, hrest⟩⟩)
    · refine .item hfirst hnone ?_
      rwa [List.append_nil]
    · refine .again hfirst hnone hsound ?_
      rwa [List.append_nil]
    · rcases hrest with ⟨rfl, hbefore, h⟩ | ⟨rfl, hbefore, hother, h⟩
      · rw [← List.append_cons] at hbefore h
        exact .item List.cons_append.symm hbefore h
      · rw [← List.append_cons] at hbefore h
        exact .again List.cons_append.symm hbefore hother h

theorem checkEach_cons_ok {index : Nat} {a : α} (h : check index a = .ok ()) (seen : List String)
    (rest : List α) :
    checkEach check key repeated index seen (a :: rest) =
      if key a ∈ seen then .error (repeated (key a))
      else checkEach check key repeated (index + 1) (key a :: seen) rest := by
  rw [checkEach, h]
  rfl

theorem checkEach_cons_error {index : Nat} {a : α} {e : ValidationError}
    (h : check index a = .error e) (seen : List String) (rest : List α) :
    checkEach check key repeated index seen (a :: rest) = .error e := by
  rw [checkEach, h]
  rfl

/-- Items pass the check if all are sound and their keys differ, and else are refused for the first
fault. -/
theorem checkEach_iff (hok : ∀ index a, check index a = .ok () ↔ Sound a)
    (herror : ∀ index a e, check index a = .error e ↔ Fault index a e) {done items : List α}
    {seen : List String} (hdone : AllPass Sound key done)
    (hseen : ∀ k, k ∈ seen ↔ k ∈ done.map key) :
    let outcome := checkEach check key repeated done.length seen items
    (outcome = .ok () ↔ AllPass Sound key (done ++ items)) ∧
      ∀ e, outcome = .error e ↔ FirstItemFault Sound Fault key repeated done items e := by
  intro outcome
  -- The items that have passed grow by each that does.
  induction items generalizing done seen with
  | nil =>
      rw [List.append_nil]
      exact ⟨iff_of_true rfl hdone,
        fun e => iff_of_false nofun not_firstItemFault_nil⟩
  | cons a rest ih =>
      rw [List.append_cons]
      simp only [firstItemFault_cons hdone]
      cases hcheck : check done.length a with
      | error e =>
          have hunsound : ¬Sound a := fun hsound => by
            rw [(hok done.length a).mpr hsound] at hcheck
            cases hcheck
          have houtcome : outcome = .error e := checkEach_cons_error hcheck seen rest
          rw [houtcome]
          refine ⟨iff_of_false nofun ?_, fun e' => ?_⟩
          · exact fun hall => hunsound (allPass_concat.mp hall.of_append).2.1
          · rw [← herror, hcheck, or_iff_left fun h => hunsound h.1]
      | ok _ =>
          have hsound := (hok _ _).mp hcheck
          have hfine : ∀ e, ¬Fault done.length a e := fun e hfault => by
            rw [(herror _ _ _).mpr hfault] at hcheck
            cases hcheck
          have houtcome : outcome = _ := checkEach_cons_ok hcheck seen rest
          rw [houtcome]
          simp only [hfine, hsound, true_and, false_or]
          by_cases hnew : key a ∈ seen
          · have hused := (hseen _).mp hnew
            rw [if_pos hnew]
            refine ⟨iff_of_false (fun h => by cases h) ?_, fun e => ?_⟩
            · exact fun hall => (allPass_concat.mp hall.of_append).2.2 hused
            · simp [hused, eq_comm]
          · have hunused : key a ∉ done.map key := fun h => hnew ((hseen _).mpr h)
            have hpassed := allPass_concat.mpr ⟨hdone, hsound, hunused⟩
            have hkeys : ∀ k, k ∈ key a :: seen ↔ k ∈ (done ++ [a]).map key := by
              simp [hseen, or_comm]
            have hlater := ih hpassed hkeys
            rw [List.length_append] at hlater
            rw [if_neg hnew]
            refine ⟨hlater.1, fun e => (hlater.2 e).trans ?_⟩
            exact ⟨fun h => Or.inr ⟨hunused, h⟩, fun h => (h.resolve_left fun hused =>
              hunused hused.1).2⟩

end Items

section Checks

variable {β : Type} {first : Except ValidationError Unit} {next : Unit → Except ValidationError β}

theorem check_then_ok_iff {b : β} :
    first >>= next = .ok b ↔ first = .ok () ∧ next () = .ok b := by
  cases first with
  | error e => exact iff_of_false nofun fun h => nomatch h.1
  | ok _ => exact ⟨fun h => ⟨rfl, h⟩, fun h => h.2⟩

theorem check_then_error_iff {e : ValidationError} :
    first >>= next = .error e ↔ first = .error e ∨ first = .ok () ∧ next () = .error e := by
  cases first with
  | error other =>
      have hsame : (Except.error other >>= next) = .error other := rfl
      rw [hsame, Except.error.injEq, Except.error.injEq, or_iff_left fun h => nomatch h.1]
  | ok _ => exact ⟨fun h => Or.inr ⟨rfl, h⟩, fun h => (h.resolve_left nofun).2⟩

/-- A check that a number is within bounds, before the rest. -/
theorem bounded_then_iff {n min max : Nat} {refusal : ValidationError}
    {rest : Except ValidationError Unit} :
    let outcome := if n < min ∨ max < n then .error refusal else rest
    (outcome = .ok () ↔ (min ≤ n ∧ n ≤ max) ∧ rest = .ok ()) ∧
      ∀ e, outcome = .error e ↔
        ¬(min ≤ n ∧ n ≤ max) ∧ e = refusal ∨ (min ≤ n ∧ n ≤ max) ∧ rest = .error e := by
  have hbounds : (n < min ∨ max < n) ↔ ¬(min ≤ n ∧ n ≤ max) := by omega
  simp only [hbounds, ite_not]
  by_cases h : min ≤ n ∧ n ≤ max
  · simp [h]
  · simp [h, eq_comm]

end Checks

namespace NewValue

structure Sound (v : NewValue) : Prop where
  key : Fits v.key 255
  value : Fits v.value 512

/-- What is wrong with a value: with its key, or else with its text. -/
inductive Fault (index : Nat) (v : NewValue) : ValidationError → Prop
  | key {e : ValidationError} (h : TextFault (.key index) v.key 255 e) : Fault index v e
  | value {e : ValidationError} (hkey : Fits v.key 255)
      (h : TextFault (.value index) v.value 512 e) : Fault index v e

def check (index : Nat) (v : NewValue) : Except ValidationError Unit := do
  checkText (.key index) v.key limits.key
  checkText (.value index) v.value limits.value

theorem check_ok_iff (index : Nat) (v : NewValue) : v.check index = .ok () ↔ v.Sound := by
  unfold check
  rw [check_then_ok_iff, checkText_ok_iff, checkText_ok_iff]
  exact ⟨fun ⟨hkey, hvalue⟩ => ⟨hkey, hvalue⟩, fun h => ⟨h.key, h.value⟩⟩

theorem check_error_iff (index : Nat) (v : NewValue) (e : ValidationError) :
    v.check index = .error e ↔ v.Fault index e := by
  unfold check
  rw [check_then_error_iff, checkText_ok_iff, checkText_error_iff, checkText_error_iff]
  constructor
  · rintro (hkey | ⟨hkey, hvalue⟩)
    · exact .key hkey
    · exact .value hkey hvalue
  · rintro (hkey | ⟨hkey, hvalue⟩)
    · exact Or.inl hkey
    · exact Or.inr ⟨hkey, hvalue⟩

end NewValue

namespace Draft

structure Valid (d : Draft) : Prop where
  description : ∀ s, d.description = some s → s.length ≤ 255
  count : 1 ≤ d.values.length ∧ d.values.length ≤ 250
  values : ∀ v ∈ d.values, v.Sound
  distinct : d.keys.Nodup

/-- The first rule that a draft breaks. -/
inductive FirstFault (d : Draft) : ValidationError → Prop
  | description {s : String} (hgiven : d.description = some s) (h : 255 < s.length) :
      FirstFault d (.tooLong .description 255)
  | count (hdescription : ∀ s, d.description = some s → s.length ≤ 255)
      (h : ¬(1 ≤ d.values.length ∧ d.values.length ≤ 250)) :
      FirstFault d (.valueCount 1 250 d.values.length)
  | values {e : ValidationError} (hdescription : ∀ s, d.description = some s → s.length ≤ 255)
      (hcount : 1 ≤ d.values.length ∧ d.values.length ≤ 250)
      (h : FirstItemFault NewValue.Sound NewValue.Fault (·.key) .duplicateKey [] d.values e) :
      FirstFault d e

theorem checkValues_eq (index : Nat) (seen : List String) (values : List NewValue) :
    checkValues index seen values =
      checkEach (fun index v => v.check index) (·.key) .duplicateKey index seen values := by
  induction values generalizing index seen with
  | nil => rfl
  | cons v rest ih =>
      simp only [checkValues, checkEach, NewValue.check, bind_assoc, ih]

theorem checkValues_iff (values : List NewValue) :
    let outcome := checkValues 0 [] values
    (outcome = .ok () ↔ AllPass NewValue.Sound (·.key) values) ∧
      ∀ e, outcome = .error e ↔
        FirstItemFault NewValue.Sound NewValue.Fault (·.key) .duplicateKey [] values e := by
  rw [checkValues_eq]
  exact checkEach_iff NewValue.check_ok_iff NewValue.check_error_iff
    ⟨List.forall_mem_nil _, List.nodup_nil⟩ fun _ => Iff.rfl

def checkDescription (d : Draft) : Except ValidationError Unit :=
  match d.description with
  | some s => checkLength .description s limits.description
  | none => .ok ()

theorem validate_eq (d : Draft) :
    d.validate = d.checkDescription >>= fun _ =>
      if d.values.length < 1 ∨ 250 < d.values.length then
        .error (.valueCount 1 250 d.values.length)
      else checkValues 0 [] d.values := by
  unfold validate checkDescription
  cases d.description <;> rfl

theorem checkDescription_ok_iff (d : Draft) :
    d.checkDescription = .ok () ↔ ∀ s, d.description = some s → s.length ≤ 255 := by
  unfold checkDescription
  cases d.description with
  | none => exact iff_of_true rfl nofun
  | some s => simp [checkLength_ok_iff, limits]

theorem checkDescription_error_iff (d : Draft) (e : ValidationError) :
    d.checkDescription = .error e ↔
      ∃ s, d.description = some s ∧ 255 < s.length ∧ e = .tooLong .description 255 := by
  unfold checkDescription
  cases d.description with
  | none => simp
  | some s => simp [checkLength_error_iff, limits]

/-- A draft is valid if it breaks no rule, and else is refused for the first that it breaks. -/
theorem validate_iff (d : Draft) :
    (d.validate = .ok () ↔ d.Valid) ∧ ∀ e, d.validate = .error e ↔ d.FirstFault e := by
  obtain ⟨hok, herror⟩ := checkValues_iff d.values
  simp only [validate_eq, check_then_ok_iff, check_then_error_iff, checkDescription_ok_iff,
    checkDescription_error_iff, bounded_then_iff.1, bounded_then_iff.2, hok, herror]
  refine ⟨?_, fun e => ?_⟩
  · constructor
    · rintro ⟨hdescription, hcount, hall⟩
      exact ⟨hdescription, hcount, hall.sound, hall.distinct⟩
    · intro h
      exact ⟨h.description, h.count, h.values, h.distinct⟩
  · constructor
    · rintro (⟨s, hgiven, hlong, rfl⟩ | ⟨hdescription, ⟨h, rfl⟩ | ⟨hcount, h⟩⟩)
      · exact .description hgiven hlong
      · exact .count hdescription h
      · exact .values hdescription hcount h
    · rintro (⟨hgiven, hlong⟩ | ⟨hdescription, h⟩ | ⟨hdescription, hcount, h⟩)
      · exact Or.inl ⟨_, hgiven, hlong, rfl⟩
      · exact Or.inr ⟨hdescription, Or.inl ⟨h, rfl⟩⟩
      · exact Or.inr ⟨hdescription, Or.inr ⟨hcount, h⟩⟩

end Draft

namespace CreateRequest

/-- A request names its project as a reference says, by an id or by a name that is not blank, and in no
other way. -/
inductive Names (r : CreateRequest) : ProjectRef → Prop
  | id {id : ProjectId} (hid : r.project = some id) (hname : r.projectName = none) :
      Names r (.id id)
  | name {name : String} (hid : r.project = none) (hname : r.projectName = some name)
      (hnot : ¬Text.Blank name) : Names r (.name name)

structure Valid (r : CreateRequest) : Prop where
  oneProject : r.project.isSome ≠ r.projectName.isSome
  named : ∀ name, r.projectName = some name → ¬Text.Blank name
  draft : r.draft.Valid

inductive FirstFault (r : CreateRequest) : ValidationError → Prop
  | missing (hid : r.project = none) (hname : r.projectName = none) :
      FirstFault r .missingProject
  | ambiguous (hid : r.project.isSome) (hname : r.projectName.isSome) :
      FirstFault r .ambiguousProject
  | blankName {name : String} (hid : r.project = none) (hname : r.projectName = some name)
      (h : Text.Blank name) : FirstFault r (.blank .projectName)
  | draft {ref : ProjectRef} {e : ValidationError} (href : r.Names ref)
      (h : r.draft.FirstFault e) : FirstFault r e

theorem projectRef_ok_iff (r : CreateRequest) (ref : ProjectRef) :
    r.projectRef = .ok ref ↔ r.Names ref := by
  unfold projectRef
  constructor
  · intro h
    split at h
    · cases h
    · cases h
    · rename_i hid hname
      cases h
      exact .id hid hname
    · rename_i name hid hname
      split at h
      · cases h
      · rename_i hnot
        cases h
        exact .name hid hname (mt Text.isBlank_iff.mpr hnot)
  · rintro (⟨hid, hname⟩ | ⟨hid, hname, hnot⟩)
    · simp only [hid, hname]
    · simp [hid, hname, Text.isBlank_iff, hnot]

theorem projectRef_error_iff (r : CreateRequest) (e : ValidationError) :
    r.projectRef = .error e ↔
      r.project = none ∧ r.projectName = none ∧ e = .missingProject ∨
      r.project.isSome ∧ r.projectName.isSome ∧ e = .ambiguousProject ∨
      r.project = none ∧
        ∃ name, r.projectName = some name ∧ Text.Blank name ∧ e = .blank .projectName := by
  unfold projectRef
  constructor
  · intro h
    split at h
    · rename_i hid hname
      cases h
      exact Or.inr (Or.inl ⟨by rw [hid]; rfl, by rw [hname]; rfl, rfl⟩)
    · rename_i hid hname
      cases h
      exact Or.inl ⟨hid, hname, rfl⟩
    · cases h
    · rename_i name hid hname
      split at h
      · rename_i hblank
        cases h
        exact Or.inr (Or.inr ⟨hid, name, hname, Text.isBlank_iff.mp hblank, rfl⟩)
      · cases h
  · rintro (⟨hid, hname, rfl⟩ | ⟨hid, hname, rfl⟩ | ⟨hid, name, hname, hblank, rfl⟩)
    · rw [hid, hname]
    · obtain ⟨id, hid⟩ := Option.isSome_iff_exists.mp hid
      obtain ⟨name, hname⟩ := Option.isSome_iff_exists.mp hname
      rw [hid, hname]
    · simp only [hid, hname, Text.isBlank_iff.mpr hblank, if_true]

theorem exists_names_iff (r : CreateRequest) :
    (∃ ref, r.Names ref) ↔ r.project.isSome ≠ r.projectName.isSome ∧
      ∀ name, r.projectName = some name → ¬Text.Blank name := by
  constructor
  · rintro ⟨_, ⟨hid, hname⟩ | ⟨hid, hname, hnot⟩⟩
    · simp [hid, hname]
    · simp [hid, hname, hnot]
  · rintro ⟨hone, hnamed⟩
    cases hid : r.project with
    | some id =>
        cases hname : r.projectName with
        | some name => simp [hid, hname] at hone
        | none => exact ⟨_, .id hid hname⟩
    | none =>
        cases hname : r.projectName with
        | some name => exact ⟨_, .name hid hname (hnamed name hname)⟩
        | none => simp [hid, hname] at hone

theorem validate_ok_iff (r : CreateRequest) (ref : ProjectRef) :
    r.validate = .ok ref ↔ r.Names ref ∧ r.draft.Valid := by
  rw [← projectRef_ok_iff, ← r.draft.validate_iff.1]
  unfold validate
  cases r.projectRef with
  | error e => exact iff_of_false nofun fun h => nomatch h.1
  | ok given =>
      change (r.draft.validate >>= fun _ => .ok given) = .ok ref ↔ _
      rw [check_then_ok_iff]
      exact and_comm

theorem validate_error_iff (r : CreateRequest) (e : ValidationError) :
    r.validate = .error e ↔ r.FirstFault e := by
  have hsplit : r.validate = .error e ↔
      r.projectRef = .error e ∨ (∃ ref, r.Names ref) ∧ r.draft.FirstFault e := by
    simp only [← projectRef_ok_iff, ← r.draft.validate_iff.2]
    unfold validate
    cases r.projectRef with
    | error other =>
        have hsame : (Except.error other >>= fun ref => r.draft.validate >>= fun _ => .ok ref) =
            (.error other : Except ValidationError ProjectRef) := rfl
        rw [hsame]
        simp
    | ok given =>
        change (r.draft.validate >>= fun _ => .ok given) = .error e ↔ _
        rw [check_then_error_iff]
        simp
  rw [hsplit, projectRef_error_iff]
  constructor
  · rintro ((⟨hid, hname, rfl⟩ | ⟨hid, hname, rfl⟩ | ⟨hid, name, hname, hblank, rfl⟩) |
      ⟨⟨ref, href⟩, h⟩)
    · exact .missing hid hname
    · exact .ambiguous hid hname
    · exact .blankName hid hname hblank
    · exact .draft href h
  · rintro (⟨hid, hname⟩ | ⟨hid, hname⟩ | ⟨hid, hname, hblank⟩ | ⟨href, h⟩)
    · exact Or.inl (Or.inl ⟨hid, hname, rfl⟩)
    · exact Or.inl (Or.inr (Or.inl ⟨hid, hname, rfl⟩))
    · exact Or.inl (Or.inr (Or.inr ⟨hid, _, hname, hblank, rfl⟩))
    · exact Or.inr ⟨⟨_, href⟩, h⟩

end CreateRequest

namespace PinRequest

structure Valid (r : PinRequest) : Prop where
  count : 1 ≤ r.targets.length ∧ r.targets.length ≤ 100
  envs : ∀ t ∈ r.targets, Fits t.env 50
  distinct : r.names.Nodup

inductive FirstFault (r : PinRequest) : ValidationError → Prop
  | count (h : ¬(1 ≤ r.targets.length ∧ r.targets.length ≤ 100)) :
      FirstFault r (.envCount 1 100 r.targets.length)
  | envs {e : ValidationError} (hcount : 1 ≤ r.targets.length ∧ r.targets.length ≤ 100)
      (h : FirstItemFault (fun t => Fits t.env 50)
        (fun index t => TextFault (.envName index) t.env 50) (·.env) .duplicateEnv [] r.targets e) :
      FirstFault r e

theorem checkTargets_eq (index : Nat) (seen : List String) (targets : List PinTarget) :
    checkTargets index seen targets =
      checkEach (fun index t => checkText (.envName index) t.env limits.envName) (·.env)
        .duplicateEnv index seen targets := by
  induction targets generalizing index seen with
  | nil => rfl
  | cons t rest ih => simp only [checkTargets, checkEach, ih]

theorem checkTargets_iff (targets : List PinTarget) :
    let outcome := checkTargets 0 [] targets
    (outcome = .ok () ↔ AllPass (fun t => Fits t.env 50) (·.env) targets) ∧
      ∀ e, outcome = .error e ↔ FirstItemFault (fun t => Fits t.env 50)
        (fun index t => TextFault (.envName index) t.env 50) (·.env) .duplicateEnv [] targets e := by
  rw [checkTargets_eq]
  have hok : ∀ index (t : PinTarget),
      checkText (.envName index) t.env limits.envName = .ok () ↔ Fits t.env 50 :=
    fun _ _ => checkText_ok_iff
  have herror : ∀ index (t : PinTarget) e,
      checkText (.envName index) t.env limits.envName = .error e ↔
        TextFault (.envName index) t.env 50 e :=
    fun _ _ _ => checkText_error_iff
  exact checkEach_iff hok herror ⟨List.forall_mem_nil _, List.nodup_nil⟩ fun _ => Iff.rfl

/-- A request is valid if it breaks no rule, and else is refused for the first that it breaks. -/
theorem validate_iff (r : PinRequest) :
    (r.validate = .ok () ↔ r.Valid) ∧ ∀ e, r.validate = .error e ↔ r.FirstFault e := by
  obtain ⟨hok, herror⟩ := checkTargets_iff r.targets
  have hvalidate : r.validate =
      if r.targets.length < 1 ∨ 100 < r.targets.length then
        .error (.envCount 1 100 r.targets.length)
      else checkTargets 0 [] r.targets := rfl
  simp only [hvalidate, bounded_then_iff.1, bounded_then_iff.2, hok, herror]
  refine ⟨?_, fun e => ?_⟩
  · constructor
    · rintro ⟨hcount, hall⟩
      exact ⟨hcount, hall.sound, hall.distinct⟩
    · intro h
      exact ⟨h.count, h.envs, h.distinct⟩
  · constructor
    · rintro (⟨h, rfl⟩ | ⟨hcount, h⟩)
      · exact .count h
      · exact .envs hcount h
    · rintro (h | ⟨hcount, h⟩)
      · exact Or.inl ⟨h, rfl⟩
      · exact Or.inr ⟨hcount, h⟩

end PinRequest

/-- Requests that break no rule are accepted, and only these; one of a create tells how it names its
project. Any other request is refused for the first rule that it breaks. -/
theorem requests_validated :
    (∀ r : CreateRequest,
      ((∃ ref, r.validate = .ok ref) ↔ r.Valid) ∧
      (∀ ref, r.validate = .ok ref ↔ r.Valid ∧ r.Names ref) ∧
      ∀ e, r.validate = .error e ↔ r.FirstFault e) ∧
    ∀ r : PinRequest,
      (r.validate = .ok () ↔ r.Valid) ∧ ∀ e, r.validate = .error e ↔ r.FirstFault e := by
  refine ⟨fun r => ?_, PinRequest.validate_iff⟩
  have hvalid : r.Valid ↔ (∃ ref, r.Names ref) ∧ r.draft.Valid := by
    rw [r.exists_names_iff]
    exact ⟨fun h => ⟨⟨h.oneProject, h.named⟩, h.draft⟩, fun h => ⟨h.1.1, h.1.2, h.2⟩⟩
  refine ⟨?_, fun ref => ?_, r.validate_error_iff⟩
  · simp only [r.validate_ok_iff, hvalid, exists_and_right]
  · rw [r.validate_ok_iff, hvalid]
    exact ⟨fun ⟨href, hdraft⟩ => ⟨⟨⟨ref, href⟩, hdraft⟩, href⟩, fun ⟨⟨_, hdraft⟩, href⟩ =>
      ⟨href, hdraft⟩⟩

end ConfigTimeline
