import ConfigTimeline.Proofs.Request.Pages
import ConfigTimeline.Proofs.Service.Reading
import ConfigTimeline.Proofs.Timeline.Ordering

/-!
Reads do not fail inside. After any calls, whatever is read is either shown, or the answer says what it
is that is not there or which argument is refused. That a key is effective twice, that a row cannot be
read back and that the store itself fails are all out of reach.
-/

namespace ConfigTimeline

/-- An operation that reads. A page of a history is not to begin after more records than a database
can skip. -/
def Operation.Reads : Operation → Prop
  | .create _ | .bind _ => False
  | .history _ page size => (page - 1) * size ≤ Database.Tables.maxOffset
  | .latest _ _ | .get _ _ | .env _ _ _ | .delta _ => True

/-- If there is no answer, something that was asked for is not there. -/
def OnlyMissing {α : Type} (outcome : Except ServiceError α) : Prop :=
  ∀ e, outcome = .error e → e.kind = .notFound

section OnlyMissing

variable {α β : Type}

theorem onlyMissing_ok (a : α) : OnlyMissing (.ok a) := fun _ h => by cases h

theorem onlyMissing_notFound (what : NotFound) :
    OnlyMissing (.error (.notFound what) : Except ServiceError α) := by
  intro e h
  cases h
  rfl

namespace Memory.Tables

variable {t : Tables} {workspace : String}

theorem Shows.onlyMissing {found : Except NotFound Blueprint}
    {outcome : Except ServiceError BlueprintView} (h : t.Shows workspace found outcome) :
    OnlyMissing outcome := by
  cases found with
  | error what =>
      obtain rfl : outcome = .error (.notFound what) := h
      exact onlyMissing_notFound what
  | ok b =>
      obtain ⟨v, rfl, -⟩ := h
      exact onlyMissing_ok v

theorem Overlays.onlyMissing {mask : BlueprintId} {v : BlueprintView}
    {outcome : Except ServiceError BlueprintView} (h : t.Overlays workspace mask v outcome) :
    OnlyMissing outcome := by
  unfold Overlays at h
  split at h
  · rw [h]
    exact onlyMissing_notFound _
  · obtain ⟨rows, -, rfl⟩ := h
    exact onlyMissing_ok _

end Memory.Tables

variable {sure : Memory.Tables → Call → Prop} {ids : Nat → Ulid} {m : Memory.Work} {n : Nat}

/-- Programs that come after an answer do not fail inside where neither they nor the answer do. -/
theorem ensures_onlyMissing_bind {p : Action α} {f : α → Action β}
    (h : p.Ensures sure ids (fun outcome m' _ => m' = m ∧ OnlyMissing outcome) m n)
    (hf : ∀ a n', (f a).Ensures sure ids (fun outcome m' _ => m' = m ∧ OnlyMissing outcome) m n') :
    (p >>= f).Ensures sure ids (fun outcome m' _ => m' = m ∧ OnlyMissing outcome) m n := by
  apply Program.ensures_bind
  refine h.mono ?_
  rintro (e | a) m' n' - ⟨rfl, houtcome⟩
  · refine ⟨rfl, ?_⟩
    intro e' h'
    cases h'
    exact houtcome e rfl
  · exact hf a n'

theorem BlueprintRead.onlyMissing_action (h : m.tables.Legible sure) (read : BlueprintRead)
    (workspace : String) :
    (read.action workspace).Ensures sure ids
      (fun outcome m' _ => m' = m ∧ OnlyMissing outcome) m n :=
  (read.ensures_action h).mono fun _ _ _ _ hshows => ⟨hshows.1, hshows.2.onlyMissing⟩

namespace Resolution

theorem onlyMissing_masked (h : m.tables.Legible sure) (workspace : String)
    (mask : Option BlueprintId) (v : BlueprintView) :
    (masked workspace mask v).Ensures sure ids
      (fun outcome m' _ => m' = m ∧ OnlyMissing outcome) m n := by
  cases mask with
  | none => exact ⟨rfl, onlyMissing_ok v⟩
  | some mask =>
      exact (ensures_masked h mask v).mono fun _ _ _ _ hoverlays =>
        ⟨hoverlays.1, hoverlays.2.onlyMissing⟩

theorem onlyMissing_delta (h : m.tables.Legible sure) (workspace : String) (id : BlueprintId) :
    (delta workspace id).Ensures sure ids
      (fun outcome m' _ => m' = m ∧ OnlyMissing outcome) m n := by
  refine (ensures_delta h id).mono ?_
  rintro outcome m' n' - ⟨rfl, hdelta⟩
  refine ⟨rfl, ?_⟩
  split at hdelta
  · rw [hdelta]
    exact onlyMissing_notFound _
  · obtain ⟨rows, -, rfl⟩ := hdelta
    exact onlyMissing_ok _

theorem onlyMissing_history (h : m.tables.Legible sure) (workspace : String)
    (project : ProjectId) (page : PageRequest)
    (hcounted : sure m.tables (.history project page.size page.offset)) :
    (history workspace project page).Ensures sure ids
      (fun outcome m' _ => m' = m ∧ OnlyMissing outcome) m n := by
  refine (ensures_history h project page hcounted).mono ?_
  rintro outcome m' n' - ⟨rfl, hhistory⟩
  refine ⟨rfl, ?_⟩
  split at hhistory
  · rw [hhistory]
    exact onlyMissing_notFound _
  · rw [hhistory]
    exact onlyMissing_ok _

end Resolution

end OnlyMissing

/-- An action that does not fail inside does not as a unit of work. -/
theorem TableModel.runAction_onlyMissing {b : Backend} (model : TableModel b) {s : Service b}
    {t : Memory.Tables} (hstore : model.Holds s.store t) {α : Type} {ids : Nat → Ulid}
    {action : Action α} {reply : α → Reply}
    (h : action.Ensures model.Sure ids
      (fun outcome m' _ => m' = Memory.backend.start .read t ∧ OnlyMissing outcome)
      (Memory.backend.start .read t) 0) :
    OnlyMissing (s.runAction .read ids (reply <$> action)).result := by
  have hreply := ensures_onlyMissing_bind (f := fun a => (.done (reply a) : Action Reply)) h
    fun a _ => ⟨rfl, onlyMissing_ok (reply a)⟩
  obtain ⟨_, _, -, ⟨-, honly⟩, -⟩ := model.inUnit hstore hreply
  exact honly

/-- What calls made reads back, on either kind of store. The clock that a database is used under shows
years of four digits, for which its rows have room. -/
theorem Recorded.legible {kind : StoreKind} {directory : Directory} {calls : List ServiceCall}
    {t : Memory.Tables} (h : Recorded ((Service.new kind directory).run calls).1 t)
    (hclock : kind = .database → ∀ call ∈ calls, call.supply.now.FourDigitYear) :
    t.Legible kind.tableModel.Sure where
  answers _ hskips :=
    StoreKind.sure_of_dated (fun hkind => h.dated_of_clock (hclock hkind)) hskips
  keys workspace project b := (h.timelines workspace project).nodup_effectiveAt b

section LookUp

variable {log : List LogEntry} {t : Memory.Tables} {workspace : String} {project : ProjectId}
  {b : Blueprint}

/-- A blueprint that is no mask is found by its id in its project. -/
theorem Memory.lookUp_of_mem (hconstrained : Memory.Constrained t)
    (hconfig : t.configOf workspace project ≠ none) (hb : b ∈ t.blueprintsOf workspace project)
    (hkind : b.kind = .blueprint) : t.lookUp workspace project (some b.id) = .ok b := by
  obtain ⟨hstored, hproject⟩ := Memory.mem_blueprintsOf.mp hb
  have hfound : t.blueprintById workspace b.id = some b :=
    (Memory.blueprintById_eq_some hconstrained).mpr ⟨hstored, rfl⟩
  apply Memory.Tables.lookUp_eq_ok.mpr
  exact ⟨hconfig, by simp [Memory.Tables.target, hfound, hproject, hkind]⟩

/-- It is found by its id alone as well. -/
theorem Memory.lookUpId_of_mem (hconstrained : Memory.Constrained t)
    (hconfig : t.configOf workspace project ≠ none) (hb : b ∈ t.blueprintsOf workspace project)
    (hkind : b.kind = .blueprint) : t.lookUpId workspace b.id = .ok b := by
  obtain ⟨hstored, rfl⟩ := Memory.mem_blueprintsOf.mp hb
  have hfound : t.blueprintById workspace b.id = some b :=
    (Memory.blueprintById_eq_some hconstrained).mpr ⟨hstored, rfl⟩
  rw [Memory.Tables.lookUpId, hfound]
  exact lookUp_of_mem hconstrained hconfig hb hkind

/-- A project with records has a config. -/
theorem Recorded.configOf_ne_none (h : Recorded log t) (hb : b ∈ t.blueprintsOf workspace project) :
    t.configOf workspace project ≠ none :=
  Option.isSome_iff_ne_none.mp (h.configs workspace project (List.ne_nil_of_mem hb))

end LookUp

/-- A database answers a call that skips no more records than it can count. -/
theorem StoreKind.sure_of_skips {kind : StoreKind} {t : Memory.Tables}
    (h : t.Legible kind.tableModel.Sure) {c : Call} (hskips : c.skips ≤ Database.Tables.maxOffset) :
    kind.tableModel.Sure t c := by
  cases kind with
  | memory => trivial
  | database => exact ⟨(h.answers (.envsOf ⟨.ofNat 0⟩) rfl).1, hskips⟩

/-- After any calls, on either kind of store, a read with any arguments ends with an answer, with
something that is not there or with an argument that is refused, and never with a failure inside. The
clock that a database is used under shows years of four digits. -/
theorem Service.reads_never_fail_inside (kind : StoreKind) (directory : Directory)
    (calls : List ServiceCall)
    (hclock : kind = .database → ∀ call ∈ calls, call.supply.now.FourDigitYear)
    (policy : MaskPolicy) (who : Identity) (supply : Supply) (op : Operation)
    (hreads : op.Reads) :
    let s := ((Service.new kind directory).run calls).2
    ∀ e, (s.handle policy who supply op).result = .error e →
      e.kind = .notFound ∨ e.kind = .invalidArgument := by
  intro s e herror
  obtain ⟨t, hstore, hrecorded⟩ := kind.run_recorded directory calls
  have hlegible := hrecorded.legible hclock
  have hview : ∀ {action : Action BlueprintView} (mask : Option BlueprintId),
      action.Ensures kind.tableModel.Sure supply.ids
        (fun outcome m' _ => m' = Memory.backend.start .read t ∧ OnlyMissing outcome)
        (Memory.backend.start .read t) 0 →
      OnlyMissing (s.view who.workspace supply action mask).result := by
    intro action mask haction
    refine kind.tableModel.runAction_onlyMissing hstore (ensures_onlyMissing_bind haction ?_)
    intro v n
    exact Resolution.onlyMissing_masked hlegible who.workspace mask v
  have hread : ∀ (read : BlueprintRead) mask,
      OnlyMissing (s.handle policy who supply (read.operation mask)).result := by
    intro read mask
    rw [BlueprintRead.handle_operation]
    exact hview mask (read.onlyMissing_action hlegible who.workspace)
  cases op with
  | create r => exact hreads.elim
  | bind r => exact hreads.elim
  | latest project mask => exact Or.inl (hread (.latest project) mask e herror)
  | get blueprint mask => exact Or.inl (hread (.get blueprint) mask e herror)
  | env project name mask => exact Or.inl (hread (.env project name) mask e herror)
  | delta blueprint =>
      exact Or.inl (hview none (Resolution.onlyMissing_delta hlegible who.workspace blueprint) e
        herror)
  | history project page size =>
      change (s.history who.workspace supply project page size).result = .error e at herror
      unfold Service.history at herror
      cases hpage : PageRequest.of page size with
      | error reason =>
          rw [hpage] at herror
          cases herror
          exact Or.inr rfl
      | ok request =>
          rw [hpage] at herror
          have hcounted : (Call.history project request.size request.offset).skips ≤
              Database.Tables.maxOffset := (PageRequest.offset_le hpage).trans hreads
          refine Or.inl (kind.tableModel.runAction_onlyMissing hstore ?_ e herror)
          exact Resolution.onlyMissing_history hlegible who.workspace project request
            (StoreKind.sure_of_skips hlegible hcounted)

/-- A page that begins after far more records than there are, and one that begins after more than a
database can skip. -/
theorem Service.reads_never_fail_inside_far :
    let who : Identity := ⟨"w", "u"⟩
    let project : ProjectId := .ofNat 7
    let supply : Supply := ⟨.ofUnix 1700000000 0, fun n => .ofNat (10 + n), project⟩
    let draft : Draft := ⟨none, .blueprint, none, [⟨"k", "v", .string, none⟩]⟩
    let calls : List ServiceCall := [⟨.reject, who, supply, .create ⟨none, some "p", none, draft⟩⟩]
    let s := ((Service.new .database (.memory .empty)).run calls).2
    let read (page size : Nat) := (s.handle .reject who supply (.history project page size)).result
    (∀ call ∈ calls, call.supply.now.FourDigitYear) ∧
      (Operation.history project (1 <<< 31) (1 <<< 31)).Reads ∧
      (∀ e, read (1 <<< 31) (1 <<< 31) = .error e →
        e.kind = .notFound ∨ e.kind = .invalidArgument) ∧
      ∃ e, read (1 <<< 32 - 1) (1 <<< 32 - 1) = .error e ∧ e.kind = .internal := by
  intro who project supply draft calls s read
  have hclock : ∀ call ∈ calls, call.supply.now.FourDigitYear := by decide
  have hreads : (Operation.history project (1 <<< 31) (1 <<< 31)).Reads := by
    unfold Operation.Reads
    decide
  refine ⟨hclock, hreads, ?_, ?_⟩
  · exact Service.reads_never_fail_inside .database (.memory .empty) calls (fun _ => hclock) .reject
      who supply _ hreads
  · refine ⟨.store (.backend (.offset ((1 <<< 32 - 2) * (1 <<< 32 - 1)))), ?_, rfl⟩
    decide +kernel

end ConfigTimeline
