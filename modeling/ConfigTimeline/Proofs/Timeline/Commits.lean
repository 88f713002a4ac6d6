import Mathlib.Data.List.Induction
import ConfigTimeline.Proofs.Id.Order
import ConfigTimeline.Request.Basic

/-!
What a project is configured to after the blueprints committed to it, told from their drafts alone:
under each key, what the last draft that has the key sets it to. Nothing here looks at stored rows.
-/

namespace ConfigTimeline

structure Commit where
  blueprint : BlueprintId
  draft : Draft
deriving DecidableEq

def Draft.value? (d : Draft) (key : String) : Option NewValue := d.values.find? (·.key == key)

def configured (drafts : List Draft) : String → Option NewValue :=
  drafts.foldl (fun current draft key => (draft.value? key).or (current key)) fun _ => none

/-- The commits that set a key, and what they set it to. -/
def settings (key : String) (commits : List Commit) : List (BlueprintId × NewValue) :=
  commits.filterMap fun c => (c.draft.value? key).map fun v => (c.blueprint, v)

theorem configured_concat (drafts : List Draft) (draft : Draft) (key : String) :
    configured (drafts ++ [draft]) key = (draft.value? key).or (configured drafts key) := by
  rw [configured, List.foldl_append]
  rfl

theorem settings_append (key : String) (left right : List Commit) :
    settings key (left ++ right) = settings key left ++ settings key right :=
  List.filterMap_append

/-- The last commit that sets a key decides what it is set to. -/
theorem getLast?_settings (key : String) (commits : List Commit) :
    (settings key commits).getLast?.map Prod.snd = configured (commits.map Commit.draft) key := by
  induction commits using List.reverseRecOn with
  | nil => rfl
  | append_singleton commits c ih =>
      rw [settings_append, List.map_append, List.map_singleton, configured_concat, ← ih]
      cases hvalue : c.draft.value? key with
      | none => simp [settings, hvalue]
      | some v => simp [settings, hvalue]

theorem Draft.value?_eq_none {d : Draft} {key : String} : d.value? key = none ↔ key ∉ d.keys := by
  simp [Draft.value?, Draft.keys]

theorem settings_eq_nil {key : String} {commits : List Commit} :
    settings key commits = [] ↔ ∀ c ∈ commits, key ∉ c.draft.keys := by
  simp [settings, Draft.value?_eq_none]

theorem fst_mem_of_mem_settings {key : String} {commits : List Commit}
    {setting : BlueprintId × NewValue} (h : setting ∈ settings key commits) :
    ∃ c ∈ commits, c.blueprint = setting.1 := by
  obtain ⟨c, hc, hvalue⟩ := List.mem_filterMap.mp h
  obtain ⟨v, _, rfl⟩ := Option.map_eq_some_iff.mp hvalue
  exact ⟨c, hc, rfl⟩

/-- Since commits stand in the order of their ids, those up to an id are those committed up to it. -/
theorem filter_settings {before after : List Commit} {c : Commit}
    (h : (before ++ c :: after).Pairwise fun a b => a.blueprint < b.blueprint) (key : String) :
    (settings key (before ++ c :: after)).filter (fun s => decide (s.1 ≤ c.blueprint)) =
      settings key (before ++ [c]) := by
  rw [List.pairwise_append, List.pairwise_cons] at h
  obtain ⟨_, ⟨hafter, _⟩, hbefore⟩ := h
  have hsplit : before ++ c :: after = (before ++ [c]) ++ after := by simp
  rw [hsplit, settings_append, List.filter_append]
  have hkept : (settings key (before ++ [c])).filter (fun s => decide (s.1 ≤ c.blueprint)) =
      settings key (before ++ [c]) := by
    rw [List.filter_eq_self]
    intro s hs
    obtain ⟨other, hother, hid⟩ := fst_mem_of_mem_settings hs
    rw [← hid]
    rcases List.mem_append.mp hother with hold | hlast
    · exact decide_eq_true (le_of_lt (hbefore other hold c List.mem_cons_self))
    · rw [List.mem_singleton.mp hlast]
      exact decide_eq_true le_rfl
  have hdropped : (settings key after).filter (fun s => decide (s.1 ≤ c.blueprint)) = [] := by
    rw [List.filter_eq_nil_iff]
    intro s hs hle
    obtain ⟨other, hother, hid⟩ := fst_mem_of_mem_settings hs
    rw [← hid] at hle
    exact not_le_of_gt (hafter other hother) (of_decide_eq_true hle)
  rw [hkept, hdropped, List.append_nil]

end ConfigTimeline
