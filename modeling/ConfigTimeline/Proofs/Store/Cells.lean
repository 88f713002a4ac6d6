import ConfigTimeline.Proofs.Id.Text
import ConfigTimeline.Proofs.Time.FullText
import ConfigTimeline.Store.Database.Tables

/-!
Rows of text cells read back as the records that they were written for. Only the points in time of an
audit may stand in the way, when their years have not four digits: such a row is reported as corrupt,
and never read as another record.
-/

namespace ConfigTimeline

/-- The points in time of an audit are ones that rows have room for. -/
def Audit.Dated (a : Audit) : Prop := a.createdAt.FourDigitYear ∧ a.updatedAt.FourDigitYear

instance (a : Audit) : Decidable a.Dated :=
  inferInstanceAs (Decidable (a.createdAt.FourDigitYear ∧ a.updatedAt.FourDigitYear))

namespace Database

/-- A reading gives a record. It may report a corrupt row instead, but not if it is to be `sure`. -/
def ReadsAs {α : Type} (sure : Prop) (outcome : Except StoreError α) (a : α) : Prop :=
  outcome = .ok a ∨ ¬sure ∧ ∃ damage, outcome = .error (.corrupt damage)

namespace ReadsAs

variable {α β : Type} {sure : Prop}

theorem ok (a : α) : ReadsAs sure (.ok a) a := Or.inl rfl

theorem of_sure {outcome : Except StoreError α} {a : α} (h : ReadsAs sure outcome a)
    (hsure : sure) : outcome = .ok a :=
  h.resolve_right fun hcorrupt => hcorrupt.1 hsure

/-- A reading need not be more sure than it has to be. -/
theorem mono {weaker : Prop} {outcome : Except StoreError α} {a : α}
    (h : ReadsAs sure outcome a) (himp : weaker → sure) : ReadsAs weaker outcome a := by
  rcases h with hok | ⟨hnot, hcorrupt⟩
  · exact Or.inl hok
  · exact Or.inr ⟨fun hweaker => hnot (himp hweaker), hcorrupt⟩

theorem bind {outcome : Except StoreError α} {a : α} {f : α → Except StoreError β} {b : β}
    (h : ReadsAs sure outcome a) (hf : ReadsAs sure (f a) b) : ReadsAs sure (outcome >>= f) b := by
  rcases h with rfl | ⟨hnot, damage, rfl⟩
  · exact hf
  · exact Or.inr ⟨hnot, damage, rfl⟩

theorem map {outcome : Except StoreError α} {a : α} (h : ReadsAs sure outcome a) (f : α → β) :
    ReadsAs sure (outcome.map f) (f a) := by
  rcases h with rfl | ⟨hnot, damage, rfl⟩
  · exact ok _
  · exact Or.inr ⟨hnot, damage, rfl⟩

end ReadsAs

theorem readId_text {kind : IdKind} (index : Nat) (id : Id kind) :
    readId kind index id.text = .ok id := by
  rw [readId, Id.parse_text]

theorem readIdIfAny_text {kind : IdKind} (index : Nat) (id : Option (Id kind)) :
    readIdIfAny kind index (id.map Id.text) = .ok id := by
  cases id with
  | none => rfl
  | some id =>
      rw [Option.map_some, readIdIfAny, readId_text]
      rfl

theorem readProject_text (index : Nat) (p : ProjectId) : readProject index p.text = .ok p := by
  rw [readProject, ProjectId.parse_text]

theorem readBlueprintKind_text (index : Nat) (kind : BlueprintKind) :
    readBlueprintKind index kind.text = .ok kind := by
  rw [readBlueprintKind, BlueprintKind.parse, BlueprintKind.ofText?_text]

theorem readValueKind_text (index : Nat) (kind : ValueKind) :
    readValueKind index kind.text = .ok kind := by
  rw [readValueKind, ValueKind.parse, ValueKind.ofText?_text]

theorem readInstant_fullText (index : Nat) (t : Instant) :
    ReadsAs t.FourDigitYear (readInstant index t.fullText) t := by
  unfold readInstant
  by_cases hyear : t.FourDigitYear
  · rw [Instant.parseStrict_fullText hyear]
    exact ReadsAs.ok t
  · obtain ⟨flaw, hflaw⟩ := Instant.parseStrict_fullText_of_signed hyear
    rw [hflaw]
    exact Or.inr ⟨hyear, _, rfl⟩

theorem AuditCells.read_of (index : Nat) (a : Audit) :
    ReadsAs a.Dated ((AuditCells.of a).read index) a := by
  unfold AuditCells.read
  have hcreated := (readInstant_fullText (index + 1) a.createdAt).mono fun h : a.Dated => h.1
  have hupdated := (readInstant_fullText (index + 3) a.updatedAt).mono fun h : a.Dated => h.2
  exact hcreated.bind (hupdated.bind (ReadsAs.ok a))

theorem ConfigCells.read_of (workspace : String) (c : Config) :
    ReadsAs c.audit.Dated (ConfigCells.of workspace c).read c := by
  refine ReadsAs.bind (Or.inl (readId_text 0 c.id)) ?_
  refine ReadsAs.bind (Or.inl (readProject_text 1 c.project)) ?_
  exact (AuditCells.read_of 2 c.audit).bind (ReadsAs.ok c)

theorem BlueprintCells.read_of (workspace : String) (config : ConfigId) (b : Blueprint) :
    ReadsAs b.audit.Dated (BlueprintCells.of workspace config b).read b := by
  refine ReadsAs.bind (Or.inl (readId_text 0 b.id)) ?_
  refine ReadsAs.bind (Or.inl (readProject_text 1 b.project)) ?_
  refine ReadsAs.bind (Or.inl (readBlueprintKind_text 2 b.kind)) ?_
  exact (AuditCells.read_of 4 b.audit).bind (ReadsAs.ok b)

theorem BlueprintCells.readKind_of (workspace : String) (config : ConfigId) (b : Blueprint) :
    (BlueprintCells.of workspace config b).readKind = .ok (b.id, b.kind) := by
  simp only [BlueprintCells.readKind, BlueprintCells.of, readId_text, readBlueprintKind_text]
  rfl

theorem ValueCells.read_of (workspace : String) (config : ConfigId) (v : ValueRow) :
    (ValueCells.of workspace config v).read = .ok v := by
  simp only [ValueCells.read, ValueCells.of, readId_text, readProject_text, readValueKind_text,
    readIdIfAny_text]
  rfl

theorem PinCells.read_of (workspace : String) (p : Pin) :
    ReadsAs p.audit.Dated (PinCells.of workspace p).read p := by
  refine ReadsAs.bind (Or.inl (readId_text 0 p.id)) ?_
  refine ReadsAs.bind (Or.inl (readProject_text 1 p.project)) ?_
  refine ReadsAs.bind (Or.inl (readId_text 2 p.config)) ?_
  refine ReadsAs.bind (Or.inl (readId_text 4 p.blueprint)) ?_
  exact (AuditCells.read_of 5 p.audit).bind (ReadsAs.ok p)

end Database

end ConfigTimeline
