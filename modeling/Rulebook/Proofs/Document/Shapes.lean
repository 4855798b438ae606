import Rulebook.Proofs.Document.Rules

/-!
# Which shapes are read

A rule is an object, and so is a value distribution. Both may also be written as the list of
their first fields in a fixed order, which is read as any object with the same fields. Whatever
else stands among the rules of a document or as a distribution keeps it from compiling.
-/

namespace Rulebook

namespace Shape

variable {α : Type}

/-- A value writes fields of a record: it is the object with these fields, or the list of the
values of some first ones, in the order of the names. -/
inductive Writes (names : List String) (fields : List (String × Json)) : Json → Prop where
  /-- An object names its fields. -/
  | named : Writes names fields (.object fields)
  /-- A list has no more items than there are names. -/
  | listed {items : List Json} (hlength : items.length ≤ names.length)
      (hfields : fields = names.zip items) : Writes names fields (.array items)

/-- A record is read from the fields that a value writes. -/
theorem record_eq_ok_iff {form : Form} {names : List String} {start final : α}
    {readField : α → String → Json → Except ShapeError α} {value : Json} :
    record form names start readField value = .ok final ↔
      ∃ fields, Writes names fields value ∧
        fields.foldlM (fun record field => readField record field.1 field.2) start =
          .ok final := by
  constructor
  · intro h
    cases value with
    | object fields => exact ⟨fields, .named, h⟩
    | array items =>
      obtain ⟨record, hrecord, h⟩ := Except.bind_eq_ok_iff.mp h
      split_ifs at h with hlength
      cases h
      exact ⟨_, .listed (Nat.le_of_not_lt hlength) rfl, hrecord⟩
    | null | bool _ | number _ | string _ => cases h
  · rintro ⟨fields, hwrites, hfields⟩
    cases hwrites with
    | named => exact hfields
    | listed hlength hsame =>
      rw [record, ← hsame, hfields, Except.ok_bind, if_neg (Nat.not_lt.mpr hlength)]

/-- A list is read as its items under the names. -/
theorem record_list_eq_ok_iff {form : Form} {names : List String} {start final : α}
    {readField : α → String → Json → Except ShapeError α} {items : List Json}
    (hlength : items.length ≤ names.length) :
    record form names start readField (.array items) = .ok final ↔
      record form names start readField (.object (names.zip items)) = .ok final := by
  rw [record_eq_ok_iff]
  constructor
  · rintro ⟨_, ⟨⟩ | ⟨-, rfl⟩, hfields⟩
    exact hfields
  · exact fun hfields => ⟨_, .listed hlength rfl, hfields⟩

/-- Fields of different names are apart, whatever their values. -/
theorem pairwise_zip {names : List String} (h : names.Pairwise (· ≠ ·)) (items : List Json) :
    (names.zip items).Pairwise fun one other => one.1 ≠ other.1 := by
  induction names generalizing items with
  | nil => exact .nil
  | cons name rest ih =>
    obtain ⟨hname, hrest⟩ := List.pairwise_cons.mp h
    cases items with
    | nil => exact .nil
    | cons item items =>
      refine List.pairwise_cons.mpr ⟨fun other hmem => ?_, ih hrest items⟩
      exact hname other.1 (List.of_mem_zip hmem).1

/-- Where null means missing, everything else is read. -/
theorem null_or_read_of_optional {read : Json → Except ShapeError α} {value : Json}
    {found : Option α} (h : optional read value = .ok found) :
    value = .null ∨ ∃ inner, read value = .ok inner := by
  cases value with
  | null => exact Or.inl rfl
  | bool _ | number _ | string _ | array _ | object _ =>
    obtain ⟨inner, hinner, -⟩ := Except.map_eq_ok_iff.mp h
    exact Or.inr ⟨inner, hinner⟩

end Shape

namespace WrittenDistribution

/-- The fields in the order in which a list gives them. -/
def fieldNames : List String := ["type", "args"]

/-- A value has the shape of a distribution: it writes fields, among them the name of the
kind. -/
def Shaped (written : Json) : Prop :=
  ∃ fields kind, Shape.Writes fieldNames fields written ∧ ("type", .string kind) ∈ fields

/-- The kind behind some fields is the one before them or stands in one of them. -/
theorem kind_of_readFields {fields : List (String × Json)} {start final : Draft}
    (h : fields.foldlM (fun draft field => readField draft field.1 field.2) start = .ok final)
    {kind : String} (hkind : final.kind = some kind) :
    start.kind = some kind ∨ ("type", .string kind) ∈ fields := by
  induction fields generalizing start with
  | nil =>
    cases h
    exact Or.inl hkind
  | cons field rest ih =>
    obtain ⟨name, value⟩ := field
    obtain ⟨next, hnext, hrest⟩ := Except.bind_eq_ok_iff.mp h
    rcases ih hrest with hnextKind | hmem
    · unfold readField at hnext
      dsimp only at hnext
      split at hnext
      · obtain ⟨found, hfound, hnext⟩ := Except.bind_eq_ok_iff.mp hnext
        cases hnext
        cases hnextKind
        unfold Shape.text at hfound
        split at hfound
        · cases hfound
          exact Or.inr List.mem_cons_self
        · cases hfound
      · cases hnext
        exact Or.inl hnextKind
      · cases hnext
        exact Or.inl hnextKind
    · exact Or.inr (List.mem_cons_of_mem _ hmem)

/-- A distribution is what its fields make if they name its kind. -/
theorem read_eq_ok_iff {written : Json} {distribution : WrittenDistribution} :
    read written = .ok distribution ↔
      Shape.record .distribution fieldNames ⟨none, .null⟩ readField written =
        .ok ⟨some distribution.kind, distribution.arguments⟩ := by
  constructor
  · intro h
    obtain ⟨⟨kind, arguments⟩, hdraft, h⟩ := Except.bind_eq_ok_iff.mp h
    cases kind with
    | some kind =>
      cases h
      exact hdraft
    | none => cases written <;> cases h
  · intro h
    rw [read, ← fieldNames, h]
    rfl

theorem shaped_of_read {written : Json} {distribution : WrittenDistribution}
    (h : read written = .ok distribution) : Shaped written := by
  obtain ⟨fields, hwrites, hfields⟩ := Shape.record_eq_ok_iff.mp (read_eq_ok_iff.mp h)
  rcases kind_of_readFields hfields rfl with hstart | hmem
  · cases hstart
  · exact ⟨fields, distribution.kind, hwrites, hmem⟩

/-- Different fields of a distribution may be read in either order. -/
theorem toOption_readField_comm {one other : String × Json} (h : one.1 ≠ other.1)
    (draft : Draft) :
    (readField draft one.1 one.2 >>= fun next => readField next other.1 other.2).toOption =
      (readField draft other.1 other.2 >>= fun next => readField next one.1 one.2).toOption := by
  obtain ⟨name, value⟩ := one
  obtain ⟨second, written⟩ := other
  dsimp only at h ⊢
  unfold readField
  split <;> split <;> simp only [← Except.pure_eq_ok, bind_assoc, pure_bind]
  all_goals exact absurd rfl h

/-- A list is read as any object with the fields that it writes. -/
theorem read_eq_ok_iff_of_list {items : List Json} (hlength : items.length ≤ fieldNames.length)
    {fields : List (String × Json)} (hfields : fields.Perm (fieldNames.zip items))
    (distribution : WrittenDistribution) :
    read (.array items) = .ok distribution ↔ read (.object fields) = .ok distribution := by
  have hapart : (fieldNames.zip items).Pairwise fun one other => one.1 ≠ other.1 :=
    Shape.pairwise_zip (by decide) items
  have hsame := Except.toOption_foldlM_of_perm hfields.symm hapart (fun _ _ => Ne.symm)
    (fun _ _ h draft => toOption_readField_comm h draft) ⟨none, .null⟩
  rw [read_eq_ok_iff, read_eq_ok_iff, Shape.record_list_eq_ok_iff hlength,
    ← Except.toOption_eq_some_iff, ← Except.toOption_eq_some_iff]
  exact Eq.congr_left hsame

end WrittenDistribution

namespace WrittenRule

/-- A value has the shape of a rule: it writes fields, and a distribution among them is null or
has the shape of one. -/
def Shaped (written : Json) : Prop :=
  ∃ fields, Shape.Writes fieldNames fields written ∧
    ∀ shares, ("ValueDistribution", shares) ∈ fields →
      shares = .null ∨ WrittenDistribution.Shaped shares

/-- What is read as a rule has the shape of one. -/
theorem shaped_of_read {written : Json} {rule : WrittenRule} (h : read written = .ok rule) :
    Shaped written := by
  obtain ⟨fields, hwrites, hfields⟩ := Shape.record_eq_ok_iff.mp h
  refine ⟨fields, hwrites, fun shares hmem => ?_⟩
  obtain ⟨state, next, hstep⟩ := Except.exists_step_of_foldlM hfields hmem
  obtain ⟨distribution, hdistribution, -⟩ := Except.bind_eq_ok_iff.mp hstep
  rcases Shape.null_or_read_of_optional hdistribution with hnull | ⟨found, hfound⟩
  · exact Or.inl hnull
  · exact Or.inr (WrittenDistribution.shaped_of_read hfound)

/-- Different fields of a rule may be read in either order. -/
theorem toOption_readField_comm {one other : String × Json} (h : one.1 ≠ other.1)
    (rule : WrittenRule) :
    (readField rule one.1 one.2 >>= fun next => readField next other.1 other.2).toOption =
      (readField rule other.1 other.2 >>= fun next => readField next one.1 one.2).toOption := by
  obtain ⟨name, value⟩ := one
  obtain ⟨second, written⟩ := other
  dsimp only at h ⊢
  unfold readField
  -- Each field is read without the others and put into a place of its own.
  split <;> split <;> simp only [← Except.pure_eq_ok, bind_assoc, pure_bind]
  all_goals first
    | exact absurd rfl h
    | exact Except.toOption_bind_comm _ _ _

/-- A list is read as any object with the fields that it writes. -/
theorem read_eq_ok_iff_of_list {items : List Json} (hlength : items.length ≤ fieldNames.length)
    {fields : List (String × Json)} (hfields : fields.Perm (fieldNames.zip items))
    (rule : WrittenRule) :
    read (.array items) = .ok rule ↔ read (.object fields) = .ok rule := by
  have hapart : (fieldNames.zip items).Pairwise fun one other => one.1 ≠ other.1 :=
    Shape.pairwise_zip (by decide) items
  have hsame := Except.toOption_foldlM_of_perm hfields.symm hapart (fun _ _ => Ne.symm)
    (fun _ _ h rule => toOption_readField_comm h rule) blank
  have hlist : read (.array items) = .ok rule ↔ read (.object (fieldNames.zip items)) = .ok rule :=
    Shape.record_list_eq_ok_iff hlength
  rw [hlist, ← Except.toOption_eq_some_iff, ← Except.toOption_eq_some_iff]
  exact Eq.congr_left hsame

end WrittenRule

/-- Every item of every list of rules has the shape of a rule. -/
def WrittenDocument.Shaped (written : WrittenDocument) : Prop :=
  ∀ rules, written.rules = some rules →
    ∀ leaf ∈ RuleTree.leaves written.partitions.length rules, ∀ items, leaf.written = .array items →
      ∀ item ∈ items, WrittenRule.Shaped item

namespace Document

/-- What compiles has rules of the right shape. -/
theorem CompiledFrom.shaped {registry : Registry} {written : WrittenDocument}
    {document : Document} (h : CompiledFrom registry written document) : written.Shaped := by
  intro rules hrules leaf hleaf items hitems item hitem
  obtain ⟨found, hfound, htree⟩ := h.rules
  rw [hrules] at hfound
  cases hfound
  obtain ⟨list, hlist⟩ := RuleTree.exists_rules_of_mem_leaves htree hleaf
  rw [hitems] at hlist
  obtain ⟨_, -, source, hread, -⟩ := (Rule.compileAll_eq_ok_iff.mp hlist).exists_right hitem
  exact WrittenRule.shaped_of_read hread

/-- A text does not compile if an item of a list of rules has not the shape of a rule: it is
neither an object nor a list of at most as many items as a rule has fields, or its distribution
is not null and neither an object that names its kind nor a list that begins with it and has one
more item at most. The lists, of rules and of distributions, are read as any object with the
fields that they write. -/
theorem refuses_wrong_shapes (registry : Registry) (text : String) :
    ((∀ written : WrittenDocument, written.WrittenBy text → ¬ written.Shaped) →
      ∃ error, compile registry text = .error error) ∧
    (∀ items, items.length ≤ WrittenRule.fieldNames.length →
      ∀ fields, fields.Perm (WrittenRule.fieldNames.zip items) → ∀ rule,
        (WrittenRule.read (.array items) = .ok rule ↔
          WrittenRule.read (.object fields) = .ok rule)) ∧
    ∀ items, items.length ≤ WrittenDistribution.fieldNames.length →
      ∀ fields, fields.Perm (WrittenDistribution.fieldNames.zip items) → ∀ distribution,
        (WrittenDistribution.read (.array items) = .ok distribution ↔
          WrittenDistribution.read (.object fields) = .ok distribution) := by
  refine ⟨fun hwrong => ?_, fun items hlength fields hfields rule => ?_,
    fun items hlength fields hfields distribution => ?_⟩
  · cases hcompile : compile registry text with
    | error error => exact ⟨error, rfl⟩
    | ok document =>
      obtain ⟨written, hwritten, hfrom⟩ := exists_written_of_compile hcompile
      exact absurd hfrom.shaped (hwrong written hwritten)
  · exact WrittenRule.read_eq_ok_iff_of_list hlength hfields rule
  · exact WrittenDistribution.read_eq_ok_iff_of_list hlength hfields distribution

/-- A text among the rules. -/
theorem refuses_wrong_shapes_text :
    ∃ text, text = r#"[{"Value":1},"x"]"# ∧
      (∀ written : WrittenDocument, written.WrittenBy text → ¬ written.Shaped) ∧
      ∃ error, compile .empty text = .error error := by
  have hread : Json.read? r#"[{"Value":1},"x"]"# =
      some (.array [.object [("Value", .number (.natural 1))], .string "x"]) := by rfl
  have hwritten : WrittenDocument.WrittenBy
      ⟨[], some (.array [.object [("Value", .number (.natural 1))], .string "x"]), none, none⟩
      r#"[{"Value":1},"x"]"# := ⟨_, hread, rfl⟩
  have hwrong : ∀ written : WrittenDocument, written.WrittenBy r#"[{"Value":1},"x"]"# →
      ¬ written.Shaped := by
    intro written hother hshaped
    rw [hother.unique hwritten] at hshaped
    obtain ⟨fields, hwrites, -⟩ := hshaped _ rfl _ (List.mem_singleton_self _) _ rfl (.string "x")
      (List.mem_cons_of_mem _ List.mem_cons_self)
    cases hwrites
  exact ⟨_, rfl, hwrong, (refuses_wrong_shapes .empty _).1 hwrong⟩

/-- A rule written as a list, and one with such a distribution: what is no object is read all
the same. -/
theorem exists_compile_of_lists :
    (∃ document, compile .empty r#"[["a",{},"SingleVariant",1]]"# = .ok document ∧
      ∃ written : WrittenDocument, written.WrittenBy r#"[["a",{},"SingleVariant",1]]"# ∧
        ∃ item rules leaf items, written.rules = some rules ∧
          leaf ∈ RuleTree.leaves written.partitions.length rules ∧ leaf.written = .array items ∧
          item ∈ items ∧ ∀ fields, item ≠ .object fields) ∧
    ∃ document, compile .empty
        r#"[{"OwnerType":"u","Salt":"s","Type":"MultiVariant","ValueDistribution":["uniform",[1]]}]"# =
        .ok document ∧
      ∃ written : WrittenDocument, written.WrittenBy
          r#"[{"OwnerType":"u","Salt":"s","Type":"MultiVariant","ValueDistribution":["uniform",[1]]}]"# ∧
        ∃ shares rules leaf items fields, written.rules = some rules ∧
          leaf ∈ RuleTree.leaves written.partitions.length rules ∧ leaf.written = .array items ∧
          .object fields ∈ items ∧ ("ValueDistribution", shares) ∈ fields ∧
          shares ≠ .null ∧ ∀ fields, shares ≠ .object fields := by
  have hread : Json.read? r#"[["a",{},"SingleVariant",1]]"# =
      some (.array [.array [.string "a", .object [], .string "SingleVariant",
        .number (.natural 1)]]) := by rfl
  have hreadShares : Json.read?
      r#"[{"OwnerType":"u","Salt":"s","Type":"MultiVariant","ValueDistribution":["uniform",[1]]}]"# =
      some (.array [.object [("OwnerType", .string "u"), ("Salt", .string "s"),
        ("Type", .string "MultiVariant"),
        ("ValueDistribution", .array [.string "uniform", .array [.number (.natural 1)]])]]) := by rfl
  refine ⟨⟨_, (compile_of_read? .empty hread).trans rfl, _, ⟨_, hread, rfl⟩, _, _, _, _, rfl,
    List.mem_singleton_self _, rfl, List.mem_singleton_self _, ?_⟩,
    ⟨_, (compile_of_read? .empty hreadShares).trans rfl, _, ⟨_, hreadShares, rfl⟩, _, _, _, _, _,
    rfl, List.mem_singleton_self _, rfl, List.mem_singleton_self _,
    List.mem_cons_of_mem _ (List.mem_cons_of_mem _ (List.mem_cons_of_mem _ List.mem_cons_self)),
    ?_, ?_⟩⟩
  · exact fun fields => Json.noConfusion
  · exact Json.noConfusion
  · exact fun fields => Json.noConfusion

end Document

end Rulebook
