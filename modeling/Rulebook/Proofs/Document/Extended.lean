import Rulebook.Comparer.Version
import Rulebook.Proofs.Condition.Compiled
import Rulebook.Proofs.Document.Rules

/-!
# Documents under more comparers

A registry may be extended by comparers under new names. Compiling reaches a new name only
where the smaller registry fails for want of it, and up to there both compilations take the
same steps. So a document that misses no comparer compiles to the same, or fails in the same
way, however many comparers are added.
-/

namespace Rulebook

/-- One registry extends another: it has every comparer of the other under the same name. -/
def Registry.Extends (larger registry : Registry) : Prop :=
  ∀ name comparer, registry.get? name = some comparer → larger.get? name = some comparer

/-- A comparer under a new name extends a registry. -/
theorem Registry.extends_register {registry : Registry} {comparer : Comparer}
    (hnew : registry.get? comparer.name = none) :
    (registry.register comparer).Extends registry := by
  intro name found hfound
  have hname : name ≠ comparer.name := by
    rintro rfl
    rw [hnew] at hfound
    cases hfound
  rw [get?_register_of_ne hname]
  exact hfound

/-- One way of compiling conserves another: both end in the same way, unless the other one
misses a comparer. -/
def Conserves {α : Type} (larger smaller : Except CompileError α) : Prop :=
  larger = smaller ∨ ∃ name, smaller = .error (.unknownComparer name)

namespace Conserves

variable {α β : Type}

theorem refl (outcome : Except CompileError α) : Conserves outcome outcome := Or.inl rfl

/-- Without a missing comparer both end in the same way. -/
theorem eq {larger smaller : Except CompileError α} (h : Conserves larger smaller)
    (hknown : ∀ name, smaller ≠ .error (.unknownComparer name)) : larger = smaller := by
  rcases h with hsame | ⟨name, hname⟩
  · exact hsame
  · exact absurd hname (hknown name)

/-- Steps that are conserved make a chain that is: the first comparer that is missed ends
the smaller chain. -/
theorem bind {larger smaller : Except CompileError α} (h : Conserves larger smaller)
    {next nextSmaller : α → Except CompileError β}
    (hnext : ∀ value, Conserves (next value) (nextSmaller value)) :
    Conserves (larger >>= next) (smaller >>= nextSmaller) := by
  rcases h with rfl | ⟨name, rfl⟩
  · cases larger with
    | error error => exact refl _
    | ok value => exact hnext value
  · exact Or.inr ⟨name, rfl⟩

theorem map {larger smaller : Except CompileError α} (h : Conserves larger smaller)
    (change : α → β) : Conserves (larger.map change) (smaller.map change) := by
  rcases h with rfl | ⟨name, rfl⟩
  · exact refl _
  · exact Or.inr ⟨name, rfl⟩

/-- Steps over a list are conserved if each of them is. -/
theorem mapM {step stepSmaller : α → Except CompileError β}
    (h : ∀ item, Conserves (step item) (stepSmaller item)) (items : List α) :
    Conserves (items.mapM step) (items.mapM stepSmaller) := by
  induction items with
  | nil => exact refl _
  | cons item rest ih =>
    rw [List.mapM_cons, List.mapM_cons]
    exact (h item).bind fun result => ih.bind fun others => refl _

end Conserves

variable {larger registry : Registry}

namespace Condition

/-- The comparer that an object names is conserved: here a comparer can be missed, and
nowhere else. -/
theorem conserves_comparerWithin (h : larger.Extends registry) (property : String)
    (around : Option Comparer) (operators : Dict Json) :
    Conserves (comparerWithin larger property around operators)
      (comparerWithin registry property around operators) := by
  unfold comparerWithin
  split
  · exact .refl _
  · next name _ =>
    cases hfound : registry.get? name with
    | none => exact Or.inr ⟨name, rfl⟩
    | some comparer =>
      rw [h name comparer hfound]
      exact .refl _
  · exact .refl _

-- The comparers that are found are the same, so the literals below them are checked by the
-- same comparers, and only names are looked up in the two registries.
mutual

/-- A condition is conserved. -/
theorem conserves_compile (h : larger.Extends registry) (property : String)
    (comparer : Option Comparer) (argument : Json) :
    Conserves (compile larger property comparer argument)
      (compile registry property comparer argument) := by
  cases argument with
  | object operators =>
    rw [compile, compile]
    refine (conserves_comparerWithin h property comparer operators).bind fun within => ?_
    exact (conserves_compileOperators h property _ within operators).bind fun parts => .refl _
  | array literals =>
    rw [compile, compile]
    exact .refl _
  | null | bool _ | number _ | string _ =>
    simp only [compile]
    exact .refl _
termination_by (sizeOf argument, 1)

/-- So are the conditions of a list. -/
theorem conserves_compileAll (h : larger.Extends registry) (property : String)
    (comparer : Option Comparer) (arguments : List Json) :
    Conserves (compileAll larger property comparer arguments)
      (compileAll registry property comparer arguments) := by
  match arguments with
  | [] =>
    rw [compileAll, compileAll]
    exact .refl _
  | argument :: rest =>
    rw [compileAll, compileAll]
    refine (conserves_compile h property comparer argument).bind fun part => ?_
    exact (conserves_compileAll h property comparer rest).bind fun parts => .refl _
termination_by (sizeOf arguments, 0)

/-- So are the parts of `$or` and `$and`. -/
theorem conserves_compileParts (h : larger.Extends registry) (property : String)
    (comparer : Option Comparer) (key : String) (argument : Json) :
    Conserves (compileParts larger property comparer key argument)
      (compileParts registry property comparer key argument) := by
  cases argument with
  | array arguments => exact conserves_compileAll h property comparer arguments
  | object operators => exact conserves_compileOperators h property _ comparer operators
  | null | bool _ | number _ | string _ => exact .refl _
termination_by (sizeOf argument, 2)

/-- So is an operator with its argument. -/
theorem conserves_compileOperator (h : larger.Extends registry) (property : String)
    (comparer : Option Comparer) (key : String) (argument : Json) :
    Conserves (compileOperator larger property comparer key argument)
      (compileOperator registry property comparer key argument) := by
  cases hoperator : Operator.ofKey? key with
  | none =>
    unfold compileOperator
    rw [hoperator]
    exact .refl _
  | some operator =>
    have hkey := Operator.eq_key_of_ofKey? hoperator
    subst hkey
    cases operator with
    | literal operator =>
      rw [Operator.key, compileOperator_literal, compileOperator_literal]
      exact .refl _
    | not =>
      rw [Operator.key, compileOperator_not, compileOperator_not]
      exact (conserves_compile h property comparer argument).map _
    | any =>
      rw [Operator.key, compileOperator_any, compileOperator_any]
      exact (conserves_compileParts h property comparer _ argument).map _
    | all =>
      rw [Operator.key, compileOperator_all, compileOperator_all]
      exact (conserves_compileParts h property comparer _ argument).map _
termination_by (sizeOf argument, 3)

/-- So are the operators of an object. -/
theorem conserves_compileOperators (h : larger.Extends registry) (property : String)
    (keep : String → Bool) (comparer : Option Comparer) (operators : List (String × Json)) :
    Conserves (compileOperators larger property keep comparer operators)
      (compileOperators registry property keep comparer operators) := by
  match operators with
  | [] =>
    rw [compileOperators, compileOperators]
    exact .refl _
  | (key, argument) :: rest =>
    rw [compileOperators, compileOperators]
    split_ifs
    · refine (conserves_compileOperator h property comparer key argument).bind fun part => ?_
      exact (conserves_compileOperators h property keep comparer rest).bind fun parts => .refl _
    · exact conserves_compileOperators h property keep comparer rest
termination_by (sizeOf operators, 0)

end

end Condition

namespace Matcher

mutual

/-- An entry of a matcher is conserved. -/
theorem conserves_compileEntry (h : larger.Extends registry) (key : String) (argument : Json) :
    Conserves (compileEntry larger key argument) (compileEntry registry key argument) := by
  unfold compileEntry
  split_ifs
  · cases argument with
    | array items => exact (conserves_compileItems h key items).bind fun parts => .refl _
    | null | bool _ | number _ | string _ | object _ => exact .refl _
  · cases argument with
    | array items => exact (conserves_compileItems h key items).bind fun parts => .refl _
    | null | bool _ | number _ | string _ | object _ => exact .refl _
  · cases argument with
    | object entries => exact (conserves_compileEntries h entries).bind fun parts => .refl _
    | null | bool _ | number _ | string _ | array _ => exact .refl _
  · exact .refl _
  · exact (Condition.conserves_compile h key none argument).bind fun condition => .refl _
termination_by (sizeOf argument, 1)

/-- So are the matchers of a list. -/
theorem conserves_compileItems (h : larger.Extends registry) (key : String) (items : List Json) :
    Conserves (compileItems larger key items) (compileItems registry key items) := by
  match items with
  | [] =>
    rw [compileItems, compileItems]
    exact .refl _
  | .object entries :: rest =>
    rw [compileItems, compileItems]
    refine (conserves_compileEntries h entries).bind fun parts => ?_
    exact (conserves_compileItems h key rest).bind fun others => .refl _
  | .null :: _ | .bool _ :: _ | .number _ :: _ | .string _ :: _ | .array _ :: _ =>
    simp only [compileItems]
    exact .refl _
termination_by (sizeOf items, 0)

/-- So are the entries of an object. -/
theorem conserves_compileEntries (h : larger.Extends registry) (entries : List (String × Json)) :
    Conserves (compileEntries larger entries) (compileEntries registry entries) := by
  match entries with
  | [] =>
    rw [compileEntries, compileEntries]
    exact .refl _
  | (key, argument) :: rest =>
    rw [compileEntries, compileEntries]
    refine (conserves_compileEntry h key argument).bind fun part => ?_
    exact (conserves_compileEntries h rest).bind fun others => .refl _
termination_by (sizeOf entries, 0)

end

end Matcher

/-- A rule is conserved: its matcher is, and its outcome has nothing to do with comparers. -/
theorem Rule.conserves_compile (h : larger.Extends registry) (declared : Option ValueType)
    (written : WrittenRule) :
    Conserves (compile larger declared written) (compile registry declared written) := by
  refine Conserves.bind ?_ fun matcher => .refl _
  exact (Matcher.conserves_compileEntries h written.matcher).bind fun parts => .refl _

theorem Rule.conserves_compileAll (h : larger.Extends registry) (declared : Option ValueType)
    (written : Json) :
    Conserves (compileAll larger declared written) (compileAll registry declared written) :=
  (Conserves.refl _).bind fun rules => .mapM (conserves_compile h declared) rules

namespace RuleTree

/-- The children of a partition are conserved if what is below each of them is. -/
theorem conserves_compileChildren
    {compileChild compileSmaller : Json → Except CompileError RuleTree}
    (hchild : ∀ written, Conserves (compileChild written) (compileSmaller written))
    (exact : Dict RuleTree) (fallback : Option RuleTree) (children : List (String × Json)) :
    Conserves (compileChildren compileChild exact fallback children)
      (compileChildren compileSmaller exact fallback children) := by
  induction children generalizing exact fallback with
  | nil => exact .refl _
  | cons child rest ih => exact (hchild child.2).bind fun below => ih _ _

/-- A tree of rules is conserved at every depth. -/
theorem conserves_compile (h : larger.Extends registry) (declared : Option ValueType)
    (depth : Nat) (written : Json) :
    Conserves (compile larger declared depth written) (compile registry declared depth written) := by
  induction depth generalizing written with
  | zero => exact (Rule.conserves_compileAll h declared written).map _
  | succ depth ih =>
    cases written with
    | object children => exact conserves_compileChildren ih [] none children
    | null | bool _ | number _ | string _ | array _ => exact .refl _

end RuleTree

namespace Document

/-- A written document is conserved: its default value is checked before its rules in both
compilations. -/
theorem conserves_compileWritten (h : larger.Extends registry) (written : WrittenDocument) :
    Conserves (compileWritten larger written) (compileWritten registry written) := by
  unfold compileWritten
  split
  · exact .refl _
  · next rules _ =>
    refine (Conserves.refl _).bind fun _ => ?_
    exact (RuleTree.conserves_compile h written.valueType _ rules).bind fun tree => .refl _

/-- The document of a text is conserved. -/
theorem conserves_compile_text (h : larger.Extends registry) (text : String) :
    Conserves (compile larger text) (compile registry text) := by
  unfold compile
  split
  · exact .refl _
  · exact (Conserves.refl _).bind fun written => conserves_compileWritten h written

/-- More comparers change nothing. Unless a document misses a comparer, it compiles under a
larger registry exactly as before, with the same error if it fails; and what is compiled
gives the same to every context with every digest function. -/
theorem compile_of_extends (h : larger.Extends registry) {text : String}
    (hknown : ∀ name, compile registry text ≠ .error (.unknownComparer name)) :
    compile larger text = compile registry text ∧
      ∀ document other, compile registry text = .ok document → compile larger text = .ok other →
        ∀ lookup hasher, other.evaluate lookup hasher = document.evaluate lookup hasher := by
  have hsame := (conserves_compile_text h text).eq hknown
  refine ⟨hsame, fun document other hdocument hother lookup hasher => ?_⟩
  rw [hsame, hdocument] at hother
  cases hother
  rfl

/-- An order of texts by their length is added, and the document orders versions. -/
theorem compile_of_extends_length :
    ∃ (larger : Registry) (text : String),
      larger = Registry.builtin.register
        ⟨"length", fun left right => .ok (Ord.compare left.length right.length)⟩ ∧
      text = r#"[{"Matcher":{"v":{"$compare":"version","$gt":"1.2"}},"Value":1}]"# ∧
      larger.Extends .builtin ∧ (∃ document, compile .builtin text = .ok document) ∧
      compile larger text = compile .builtin text ∧
      ∀ document other, compile .builtin text = .ok document → compile larger text = .ok other →
        ∀ lookup hasher, other.evaluate lookup hasher = document.evaluate lookup hasher := by
  have hextends : (Registry.builtin.register
      ⟨"length", fun left right => .ok (Ord.compare left.length right.length)⟩).Extends .builtin :=
    Registry.extends_register rfl
  have hread : Json.read? r#"[{"Matcher":{"v":{"$compare":"version","$gt":"1.2"}},"Value":1}]"# =
      some (.array [.object [("Matcher", .object [("v", .object
        [("$compare", .string "version"), ("$gt", .string "1.2")])]),
        ("Value", .number (.natural 1))]]) := by rfl
  have hcompile := (compile_of_read? .builtin hread).trans rfl
  refine ⟨_, _, rfl, rfl, hextends, ⟨_, hcompile⟩, compile_of_extends hextends fun name hname => ?_⟩
  rw [hcompile] at hname
  cases hname

end Document

end Rulebook
