import ConfigTimeline.Proofs.Service.Twins
import ConfigTimeline.Proofs.Timeline.Environments
import ConfigTimeline.Proofs.Timeline.Paging

/-!
Pages that begin after more records than there are. Page numbers and sizes are 32-bit words, so that a
page may begin after almost 2^64 records. A store in memory gives an empty page then; a database does so
only as long as it can count the records that it is to skip.
-/

namespace ConfigTimeline

/-- A call that the store refuses ends the action. -/
theorem Backend.run_ask_of_error {b : Backend} {α : Type} {workspace : String} {c : Call}
    {work : b.Work} {e : StoreError} (h : (b.perform workspace c work).1 = .error e)
    (f : c.Answer → Action α) (ids : Nat → Ulid) (n : Nat) :
    (b.run ids (Action.ask workspace c >>= f) work n).result = .error (.ofStore e) := by
  have hask : (b.run ids (Action.ask workspace c) work n).result = .error (.ofStore e) := by
    unfold Action.ask Program.ask Backend.run
    dsimp only
    rw [h]
    rfl
  rw [b.run_bind, hask]

theorem Database.perform_history_of_lt {limit offset : Nat} (h : Tables.maxOffset < offset)
    (workspace : String) (project : ProjectId) (work : Work) :
    (perform workspace (.history project limit offset) work).1 = .error (.backend (.offset offset)) :=
  if_pos h

/-- A database refuses a page that begins after more records than it can skip. -/
theorem StoreKind.history_refused {s : Service StoreKind.database.backend} {t : Memory.Tables}
    (hstore : StoreKind.database.tableModel.Holds s.store t)
    (hlegible : t.Legible StoreKind.database.tableModel.Sure) (policy : MaskPolicy)
    (who : Identity) (supply : Supply) {project : ProjectId}
    (hconfig : (t.configOf who.workspace project).isSome = true) {page size : Nat}
    {request : PageRequest} (hrequest : PageRequest.of page size = .ok request)
    (hfar : Database.Tables.maxOffset < request.offset) :
    (s.handle policy who supply (.history project page size)).result =
      .error (.store (.backend (.offset request.offset))) := by
  obtain ⟨config, hconfig⟩ := Option.isSome_iff_exists.mp hconfig
  have hfound : (Action.found (.config project) (some config) : Action Config) = pure config := rfl
  have hrefused : (StoreKind.database.backend.perform who.workspace
      (.history project request.size request.offset)
      (StoreKind.database.backend.start .read s.store)).1 =
      .error (.backend (.offset request.offset)) :=
    Database.perform_history_of_lt hfar who.workspace project _
  change (s.history who.workspace supply project page size).result = _
  unfold Service.history
  rw [hrequest]
  change (StoreKind.database.backend.inUnit .read supply.ids
    (.page <$> Resolution.history who.workspace project request : Action Reply) s.store).result = _
  rw [Backend.result_inUnit, Backend.result_map]
  unfold Resolution.history Action.config
  rw [bind_assoc, StoreKind.run_ask hstore hlegible.answers (.configOf project)
    ⟨rfl, rfl, rfl, fun _ _ h => h⟩ (congrArg Except.ok hconfig), hfound, pure_bind,
    Backend.run_ask_of_error hrefused]
  rfl

/-- After the same calls on a store in memory and on a database, the store in memory gives every page of
a project that has a config: an empty one if it begins after all of the blueprints. The database gives
the same page if it can count the records before it, and refuses the page otherwise. The clock that the
database is used under shows years of four digits. -/
theorem Service.history_on_both (directory : Directory) (calls : List ServiceCall)
    (policy : MaskPolicy) (who : Identity) (supply : Supply) (project : ProjectId) (page size : Nat)
    (hpage : 1 ≤ page) (hword : page < 1 <<< 32) (hsize : 1 ≤ size)
    (hconfig : (Memory.Tables.configOf ((Service.new .memory directory).run calls).2.store
      who.workspace project).isSome = true) :
    let inMemory := ((Service.new .memory directory).run calls).2
    let onDatabase := ((Service.new .database directory).run calls).2
    let tables : Memory.Tables := inMemory.store
    let op := Operation.history project page size
    let offset := (page - 1) * size
    let count := ((tables.blueprintsOf who.workspace project).filter (·.kind == .blueprint)).length
    ∃ p : HistoryPage, (inMemory.handle policy who supply op).result = .ok (.page p) ∧
      p.page = page ∧ p.size = size ∧ p.total = count ∧ (count ≤ offset → p.content = []) ∧
      ((∀ call ∈ calls, call.supply.now.FourDigitYear) →
        (offset ≤ Database.Tables.maxOffset →
          (onDatabase.handle policy who supply op).result = .ok (.page p)) ∧
        (Database.Tables.maxOffset < offset →
          (onDatabase.handle policy who supply op).result =
            .error (.store (.backend (.offset offset))))) := by
  intro inMemory onDatabase tables op offset count
  obtain ⟨i, rfl⟩ : ∃ i, page = i + 1 := ⟨page - 1, by omega⟩
  obtain ⟨t, ⟨hstore, hconstrained⟩, hrecorded⟩ := StoreKind.memory.run_recorded directory calls
  obtain rfl : tables = t := hstore
  have hlegible := hrecorded.legible fun hkind => by cases hkind
  have hrequest : PageRequest.of (i + 1) size = .ok ⟨i + 1, size⟩ := PageRequest.of_succ hsize
  have hoffset : (⟨i + 1, size⟩ : PageRequest).offset = offset :=
    PageRequest.offset_eq (Nat.lt_of_succ_lt hword)
  have hmemory := Memory.tableModel.result_history ⟨rfl, hconstrained⟩ hlegible policy who supply
    hconfig hrequest trivial
  rw [hoffset] at hmemory
  have hcount : (tables.newestFirst who.workspace project .blueprint).length = count := by
    rw [Memory.newestFirst_eq_reverse (hrecorded.timelines who.workspace project).ids_increasing,
      List.length_reverse]
  refine ⟨_, hmemory, rfl, rfl, hcount, ?_, ?_⟩
  · intro hfar
    rw [← hcount] at hfar
    change tables.history who.workspace project size offset = []
    rw [Memory.Tables.history, List.drop_of_length_le hfar, List.take_nil, List.map_nil]
  · intro hclock
    obtain ⟨hholds, hdated, -⟩ := (Service.Twins.new directory).run hclock
    have hlegible' : tables.Legible StoreKind.database.tableModel.Sure :=
      { answers := fun c hskips => ⟨hdated, hskips ▸ Nat.zero_le _⟩
        keys := hlegible.keys }
    constructor
    · intro hcounted
      rw [← hoffset] at hcounted ⊢
      exact StoreKind.database.tableModel.result_history hholds hlegible' policy who supply hconfig
        hrequest ⟨hdated, hcounted⟩
    · intro hfar
      rw [← hoffset] at hfar ⊢
      exact StoreKind.history_refused hholds hlegible' policy who supply hconfig hrequest hfar

/-- The last page of the greatest size begins after almost 2^64 records. The store in memory gives it
and the database does not. Under a clock that shows a year of five digits a database cannot read back
what it has stored, so that it does not even give the first page. -/
theorem Service.history_on_both_far :
    let who : Identity := ⟨"w", "u"⟩
    let project : ProjectId := .ofNat 7
    let supply (now : Instant) : Supply := ⟨now, fun n => .ofNat (10 + n), project⟩
    let draft : Draft := ⟨none, .blueprint, none, [⟨"k", "v", .string, none⟩]⟩
    let read (kind : StoreKind) (now : Instant) (page size : Nat) :=
      let calls := [⟨.reject, who, supply now, .create ⟨none, some "p", none, draft⟩⟩]
      (((Service.new kind (.memory .empty)).run calls).2.handle .reject who (supply now)
        (.history project page size)).result
    let last := 1 <<< 32 - 1
    let late : Instant := .ofUnix 253402300800 0
    read .memory (.ofUnix 1700000000 0) last last = .ok (.page ⟨last, last, 1, []⟩) ∧
      read .database (.ofUnix 1700000000 0) last last =
        .error (.store (.backend (.offset ((last - 1) * last)))) ∧
      (∃ b, read .memory late 1 1 = .ok (.page ⟨1, 1, 1, [b]⟩)) ∧
      read .database late 1 1 = .error (.store (.corrupt (.column 3 (.time .invalid)))) := by
  intro who project supply draft read last late
  refine ⟨by decide +kernel, by decide +kernel, ?_, by decide +kernel⟩
  refine ⟨⟨⟨⟨.ofNat 11⟩, project, .blueprint, none, .made "u" late⟩, [], []⟩, ?_⟩
  decide +kernel

/-- A page that begins after the only blueprint, and one that the database refuses. -/
theorem Service.history_on_both_second :
    let who : Identity := ⟨"w", "u"⟩
    let project : ProjectId := .ofNat 7
    let supply : Supply := ⟨.ofUnix 1700000000 0, fun n => .ofNat (10 + n), project⟩
    let draft : Draft := ⟨none, .blueprint, none, [⟨"k", "v", .string, none⟩]⟩
    let calls : List ServiceCall := [⟨.reject, who, supply, .create ⟨none, some "p", none, draft⟩⟩]
    let read (kind : StoreKind) (page size : Nat) :=
      (((Service.new kind (.memory .empty)).run calls).2.handle .reject who supply
        (.history project page size)).result
    let last := 1 <<< 32 - 1
    (∀ call ∈ calls, call.supply.now.FourDigitYear) ∧
      (∃ p : HistoryPage, p.total = 1 ∧ p.content = [] ∧ read .memory 2 1 = .ok (.page p) ∧
        read .database 2 1 = .ok (.page p)) ∧
      ∃ p : HistoryPage, p.content = [] ∧ read .memory last last = .ok (.page p) ∧
        read .database last last = .error (.store (.backend (.offset ((last - 1) * last)))) := by
  intro who project supply draft calls read last
  have hclock : ∀ call ∈ calls, call.supply.now.FourDigitYear := by decide
  have hconfig : (Memory.Tables.configOf
      ((Service.new .memory (.memory .empty)).run calls).2.store "w" project).isSome = true := by
    decide +kernel
  have hcount : ((Memory.Tables.blueprintsOf
      ((Service.new .memory (.memory .empty)).run calls).2.store "w" project).filter
        (·.kind == .blueprint)).length = 1 := by
    decide +kernel
  have hboth := fun page size hpage hword hsize => Service.history_on_both (.memory .empty) calls
    .reject who supply project page size hpage hword hsize hconfig
  obtain ⟨p, hmemory, -, -, htotal, hempty, hdatabase⟩ :=
    hboth 2 1 (by decide) (by decide) (by decide)
  obtain ⟨q, hmemory', -, -, -, hempty', hdatabase'⟩ :=
    hboth last last (by decide) (by decide) (by decide)
  rw [hcount] at hempty hempty'
  refine ⟨hclock, ⟨p, htotal.trans hcount, hempty (by decide), hmemory,
    (hdatabase hclock).1 (by decide)⟩, q, hempty' (by decide), hmemory',
    (hdatabase' hclock).2 (by decide)⟩

end ConfigTimeline
