import Mathlib.Algebra.Order.Floor.Div
import ConfigTimeline.Proofs.Service.Answers
import ConfigTimeline.Proofs.Timeline.Reads

/-!
The pages of a history. The records of a project are listed newest first before any of them is skipped,
so that the pages of one size, put together, are the list.
-/

namespace ConfigTimeline

section Parts

variable {α : Type}

/-- Parts of one size, put together. -/
theorem flatMap_take_drop (items : List α) (size count : Nat) :
    ((List.range count).flatMap fun i => (items.drop (i * size)).take size) =
      items.take (count * size) := by
  induction count with
  | zero => simp
  | succ count ih =>
      rw [List.range_succ, List.flatMap_append, ih, List.flatMap_singleton, Nat.succ_mul,
        List.take_add]

theorem lt_ceilDiv_iff {i size total : Nat} (hsize : 0 < size) :
    i < total ⌈/⌉ size ↔ i * size < total := by
  rw [← not_le, ceilDiv_le_iff_le_mul hsize, not_le, Nat.mul_comm]

theorem le_ceilDiv_mul {size : Nat} (hsize : 0 < size) (total : Nat) :
    total ≤ total ⌈/⌉ size * size := by
  rw [Nat.mul_comm]
  exact (ceilDiv_le_iff_le_mul hsize).mp le_rfl

end Parts

/-- The page of a list of records after so many pages of one size. -/
def Memory.Tables.pageAfter (t : Tables) (workspace : String) (listed : List Blueprint)
    (size i : Nat) : HistoryPage :=
  ⟨i + 1, size, listed.length,
    ((listed.drop (i * size)).take size).map fun b => ⟨b, t.envsOf workspace b.id, []⟩⟩

namespace Memory.Tables

variable (t : Tables) (workspace : String) (listed : List Blueprint) {size : Nat}

theorem map_blueprint_pageAfter (size i : Nat) :
    (t.pageAfter workspace listed size i).content.map (·.blueprint) =
      (listed.drop (i * size)).take size := by
  simp [pageAfter, Function.comp_def]

/-- A page that is followed by another is full. -/
theorem length_pageAfter (hsize : 0 < size) {i : Nat} (h : i + 1 < listed.length ⌈/⌉ size) :
    (t.pageAfter workspace listed size i).content.length = size := by
  have hnext := (lt_ceilDiv_iff hsize).mp h
  rw [Nat.succ_mul] at hnext
  rw [pageAfter, List.length_map, List.length_take, List.length_drop]
  omega

/-- The pages of a list, put together, are the list. -/
theorem flatMap_pageAfter (hsize : 0 < size) :
    (((List.range (listed.length ⌈/⌉ size)).map (t.pageAfter workspace listed size)).flatMap
      fun p => p.content.map (·.blueprint)) = listed := by
  rw [List.flatMap_map]
  simp only [map_blueprint_pageAfter]
  rw [flatMap_take_drop, List.take_of_length_le (le_ceilDiv_mul hsize listed.length)]

end Memory.Tables

/-- The pages that the records of a project take up are answered. -/
theorem Recorded.result_pageAfter {log : List LogEntry} {t : Memory.Tables} (h : Recorded log t)
    {kind : StoreKind} {s : Service kind.backend} (hstore : kind.tableModel.Holds s.store t)
    (hlegible : t.Legible kind.tableModel.Sure) (policy : MaskPolicy) (who : Identity)
    (supply : Supply) (project : ProjectId) {size i : Nat} (hsize : 1 ≤ size)
    (hword : i < 1 <<< 32) (hpage : i * size < (t.newestFirst who.workspace project .blueprint).length)
    (hcounted : kind = .database → i * size ≤ Database.Tables.maxOffset) :
    (s.handle policy who supply (.history project (i + 1) size)).result =
      .ok (.page (t.pageAfter who.workspace (t.newestFirst who.workspace project .blueprint) size
        i)) := by
  obtain ⟨b, hb⟩ := List.exists_mem_of_length_pos (Nat.zero_lt_of_lt hpage)
  obtain ⟨hrecord, hproject, -⟩ := Memory.mem_newestFirst.mp hb
  have hconfig := h.configs who.workspace project
    (List.ne_nil_of_mem (Memory.mem_blueprintsOf.mpr ⟨hrecord, hproject⟩))
  have hoffset : (⟨i + 1, size⟩ : PageRequest).offset = i * size := PageRequest.offset_eq hword
  have hsure : kind.tableModel.Sure t (.history project size (i * size)) := by
    cases kind with
    | memory => trivial
    | database => exact StoreKind.sure_of_skips hlegible (hcounted rfl)
  rw [← hoffset] at hsure
  rw [kind.tableModel.result_history hstore hlegible policy who supply hconfig
    (PageRequest.of_succ hsize) hsure, hoffset]
  rfl

/-- After any calls, on either kind of store, the blueprints of a project that are no masks are divided
into pages of one size. Put together the pages are these blueprints, the ids in descending order; each
tells how many there are, and all but the last are full. Every page is answered when it is asked for by
its number, which is a 32-bit word, as long as it does not begin after more records than a database can
skip. The clock that a database is used under shows years of four digits. -/
theorem Service.pages_partition_history (kind : StoreKind) (directory : Directory)
    (calls : List ServiceCall)
    (hclock : kind = .database → ∀ call ∈ calls, call.supply.now.FourDigitYear)
    (policy : MaskPolicy) (who : Identity) (supply : Supply) (project : ProjectId) (size : Nat)
    (hsize : 1 ≤ size) :
    let ran := (Service.new kind directory).run calls
    let records := (added who.workspace project ran.1).filter (·.kind == .blueprint)
    let read (page : Nat) := (ran.2.handle policy who supply (.history project page size)).result
    (∃ t, kind.tableModel.Holds ran.2.store t ∧
      (t.blueprintsOf who.workspace project).filter (·.kind == .blueprint) = records) ∧
    ∃ pages : List HistoryPage, pages.length = records.length ⌈/⌉ size ∧
      (∀ i (hi : i < pages.length), i + 1 < 1 <<< 32 →
        (kind = .database → i * size ≤ Database.Tables.maxOffset) →
          read (i + 1) = .ok (.page pages[i])) ∧
      (∀ p ∈ pages, p.total = records.length) ∧
      (∀ p ∈ pages.dropLast, p.content.length = size) ∧
      (pages.flatMap fun p => p.content.map (·.blueprint)) = records.reverse ∧
      records.reverse.Pairwise fun a b => b.id < a.id := by
  intro ran records read
  obtain ⟨t, hstore, hrecorded⟩ := kind.run_recorded directory calls
  have hlegible := hrecorded.legible hclock
  have hstored : (t.blueprintsOf who.workspace project).filter (·.kind == .blueprint) = records := by
    rw [hrecorded.stored]
  have hincreasing := (hrecorded.timelines who.workspace project).ids_increasing
  have hlisted := Memory.newestFirst_eq_reverse hincreasing
  rw [hstored] at hincreasing hlisted
  have hlength : records.reverse.length = records.length := List.length_reverse
  refine ⟨⟨t, hstore, hstored⟩, (List.range (records.length ⌈/⌉ size)).map
    (t.pageAfter who.workspace records.reverse size), ?_, ?_, ?_, ?_, ?_,
    List.pairwise_reverse.mpr hincreasing⟩
  · rw [List.length_map, List.length_range]
  · intro i hi hword hcounted
    rw [List.length_map, List.length_range] at hi
    have hskips : i * size < records.length := (lt_ceilDiv_iff hsize).mp hi
    rw [List.getElem_map, List.getElem_range, ← hlisted]
    refine hrecorded.result_pageAfter hstore hlegible policy who supply project hsize
      (Nat.lt_of_succ_lt hword) ?_ hcounted
    rw [hlisted, hlength]
    exact hskips
  · intro p hp
    obtain ⟨i, -, rfl⟩ := List.mem_map.mp hp
    exact hlength
  · intro p hp
    obtain ⟨i, hi, rfl⟩ := List.mem_iff_getElem.mp hp
    rw [List.length_dropLast, List.length_map, List.length_range] at hi
    rw [List.getElem_dropLast, List.getElem_map, List.getElem_range]
    refine Memory.Tables.length_pageAfter t who.workspace records.reverse hsize ?_
    rw [hlength]
    omega
  · rw [← hlength]
    exact Memory.Tables.flatMap_pageAfter t who.workspace records.reverse hsize

/-- Three blueprints on pages of two, with a mask and a blueprint of another project in between. -/
theorem Service.pages_partition_history_odd :
    let who : Identity := ⟨"w", "u"⟩
    let project : ProjectId := .ofNat 7
    let supply (first : Nat) (candidate : ProjectId) : Supply :=
      ⟨.ofUnix 1700000000 0, fun n => .ofNat (first + n), candidate⟩
    let create (first id : Nat) (kind : BlueprintKind) (name : String) (candidate : ProjectId) :
        ServiceCall :=
      ⟨.reject, who, supply first candidate,
        .create ⟨none, some name, none, ⟨some ⟨.ofNat id⟩, kind, none, [⟨"k", "v", .string, none⟩]⟩⟩⟩
    let calls := [create 10 1 .blueprint "p" project, create 20 2 .mask "p" project,
      create 30 3 .blueprint "q" (.ofNat 8), create 40 4 .blueprint "p" project,
      create 50 5 .blueprint "p" project]
    let ran := (Service.new .database (.memory .empty)).run calls
    let records := (added "w" project ran.1).filter (·.kind == .blueprint)
    let read (page : Nat) :=
      (ran.2.handle .reject who (supply 60 project) (.history project page 2)).result
    (∀ call ∈ calls, call.supply.now.FourDigitYear) ∧
      records.map (·.id) = [⟨.ofNat 1⟩, ⟨.ofNat 4⟩, ⟨.ofNat 5⟩] ∧
      ∃ pages : List HistoryPage, pages.length = 2 ∧
        (∀ i (hi : i < pages.length), read (i + 1) = .ok (.page pages[i])) ∧
        (∀ p ∈ pages, p.total = 3) ∧ (∀ p ∈ pages.dropLast, p.content.length = 2) ∧
        (pages.flatMap fun p => p.content.map (·.blueprint)).map (·.id) =
          [⟨.ofNat 5⟩, ⟨.ofNat 4⟩, ⟨.ofNat 1⟩] := by
  intro who project supply create calls ran records read
  have hclock : ∀ call ∈ calls, call.supply.now.FourDigitYear := by decide +kernel
  have hids : records.map (·.id) = [⟨.ofNat 1⟩, ⟨.ofNat 4⟩, ⟨.ofNat 5⟩] := by decide +kernel
  have hlength : records.length = 3 := by simpa using congrArg List.length hids
  obtain ⟨-, pages, hnumber, hread, htotal, hfull, hall, -⟩ := Service.pages_partition_history
    .database (.memory .empty) calls (fun _ => hclock) .reject who (supply 60 project) project 2
    (by decide)
  have htwo : pages.length = 2 := by
    rw [hnumber]
    change records.length ⌈/⌉ 2 = 2
    rw [hlength]
    rfl
  refine ⟨hclock, hids, pages, htwo, ?_, ?_, hfull, ?_⟩
  · intro i hi
    refine hread i hi ?_ fun _ => ?_
    · omega
    · have hoffset : 2 ≤ Database.Tables.maxOffset := by decide
      omega
  · intro p hp
    exact (htotal p hp).trans hlength
  · rw [hall]
    change records.reverse.map (·.id) = _
    rw [List.map_reverse, hids]
    rfl

end ConfigTimeline
