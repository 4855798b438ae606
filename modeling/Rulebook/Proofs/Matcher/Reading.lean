import Rulebook.Comparer.Version
import Rulebook.Proofs.Condition.Literals
import Rulebook.Proofs.Json.KeyOrder
import Rulebook.Proofs.Matcher.Compiled

/-!
# What a matcher says

A matcher is read here as it is written, without compiling it: from the keys of its
objects, in their order, and with the objects around a comparison to tell which
comparer it uses. The compiled matcher says the same of every context.
-/

namespace Rulebook

/-- The objects of operators around a condition, the nearest one first. -/
abbrev Enclosure := List (Dict Json)

namespace Enclosure

/-- The comparer named by the nearest object that names one. -/
def comparerName? (around : Enclosure) : Option String :=
  match around.findSome? (Dict.find? comparerKey) with
  | some (.string name) => some name
  | _ => none

/-- The comparer in force. -/
def comparer? (registry : Registry) (around : Enclosure) : Option Comparer :=
  around.comparerName?.bind registry.get?

end Enclosure

namespace Reading

/-- An operator with a literal or literals says something of a value. Its text
tests ask no comparer. -/
def literal (comparer : Option Comparer) (value : Json) (key : String) (argument : Json) :
    Verdict :=
  match key with
  | "$eq" => Condition.compareHolds .eq argument comparer value
  | "$ne" => Condition.compareHolds .ne argument comparer value
  | "$gt" => Condition.compareHolds .gt argument comparer value
  | "$ge" => Condition.compareHolds .ge argument comparer value
  | "$lt" => Condition.compareHolds .lt argument comparer value
  | "$le" => Condition.compareHolds .le argument comparer value
  | "$in" => match argument with
    | .array literals =>
      Verdict.any (literals.map fun literal => Condition.compareHolds .eq literal comparer value)
    | _ => .ok false
  | "$contains" => .ok (argument.text?.any fun text =>
      Condition.containsHolds (Text.lowerCase text) value)
  | "$startswith" => .ok (argument.text?.any fun text =>
      Condition.testText (fun folded => (Text.lowerCase text).toList.isPrefixOf folded) value)
  | "$endswith" => .ok (argument.text?.any fun text =>
      Condition.testText (fun folded => (Text.lowerCase text).toList.isSuffixOf folded) value)
  | _ => .ok false

mutual

/-- A condition says something of a value: a scalar that the value equals it, an
array that it equals one of the items, and an object what all its operators say. -/
def condition (registry : Registry) (around : Enclosure) (value : Json) : Json → Verdict
  | .array literals => literal (around.comparer? registry) value "$in" (.array literals)
  | .object entries => Verdict.all (operators registry (entries :: around) value entries)
  | scalar => literal (around.comparer? registry) value "$eq" scalar
termination_by argument => (sizeOf argument, 1)

/-- What the conditions of a list say of a value. -/
def conditions (registry : Registry) (around : Enclosure) (value : Json) :
    List Json → List Verdict
  | [] => []
  | argument :: rest =>
    condition registry around value argument :: conditions registry around value rest
termination_by arguments => (sizeOf arguments, 0)

/-- An operator says something of a value. -/
def operator (registry : Registry) (around : Enclosure) (value : Json) (key : String)
    (argument : Json) : Verdict :=
  match key with
  | "$not" => Verdict.not (condition registry around value argument)
  | "$or" => Verdict.any (parts registry around value argument)
  | "$and" => Verdict.all (parts registry around value argument)
  | _ => literal (around.comparer? registry) value key argument
termination_by (sizeOf argument, 3)

/-- What the conditions of a list or the operators of an object say of a value. -/
def parts (registry : Registry) (around : Enclosure) (value : Json) : Json → List Verdict
  | .array arguments => conditions registry around value arguments
  | .object entries => operators registry (entries :: around) value entries
  | _ => []
termination_by argument => (sizeOf argument, 2)

/-- What the operators of an object say of a value. The name of a comparer is no
operator. -/
def operators (registry : Registry) (around : Enclosure) (value : Json) :
    List (String × Json) → List Verdict
  | [] => []
  | (key, argument) :: rest =>
    if key = comparerKey then operators registry around value rest
    else operator registry around value key argument :: operators registry around value rest
termination_by entries => (sizeOf entries, 0)

end

mutual

/-- What the entries of a matcher say of a context. -/
def entries (registry : Registry) (lookup : Lookup) : List (String × Json) → List Verdict
  | [] => []
  | (key, argument) :: rest =>
    entry registry lookup key argument :: entries registry lookup rest

/-- An entry says something of a context: that of a combination what its matchers
say, and that of a property what the condition says of its value, or else of null. -/
def entry (registry : Registry) (lookup : Lookup) (key : String) (argument : Json) : Verdict :=
  match key, argument with
  | "$or", .array items => Verdict.any (matchers registry lookup items)
  | "$and", .array items => Verdict.all (matchers registry lookup items)
  | "$not", .object fields => Verdict.not (Verdict.all (entries registry lookup fields))
  | property, argument => condition registry [] ((lookup property).getD .null) argument

/-- What the matchers of a list say of a context. -/
def matchers (registry : Registry) (lookup : Lookup) : List Json → List Verdict
  | [] => []
  | .object fields :: rest =>
    Verdict.all (entries registry lookup fields) :: matchers registry lookup rest
  | _ :: rest => matchers registry lookup rest

end

/-- A matcher says something of a context: what all its entries say. -/
def matcher (registry : Registry) (lookup : Lookup) (written : Dict Json) : Verdict :=
  Verdict.all (entries registry lookup written)

variable (registry : Registry) (around : Enclosure) (value argument : Json)

theorem literal_relation (comparer : Option Comparer) (relation : Relation) :
    literal comparer value relation.key argument =
      Condition.compareHolds relation argument comparer value := by
  cases relation <;> rfl

/-- Operators with a literal say what comparers, the kinds of literals and texts have them say. -/
theorem readsLiterals : ReadsLiterals literal where
  ordered h relation := by
    rw [literal_relation, Condition.compareHolds, Condition.coercedHolds_eq,
      Coercion.order?_eq_some_iff.mpr h, Option.elim_some]
  unordered h relation := by
    have hnone := Option.eq_none_iff_forall_ne_some.mpr fun order horder =>
      h order (Coercion.order?_eq_some_iff.mp horder)
    rw [literal_relation, Condition.compareHolds, Condition.coercedHolds_eq, hnone,
      Option.elim_none]
  compared comparer _ _ _ _ hleft hright relation := by
    rw [literal_relation]
    simp only [Condition.compareHolds, hleft, hright]
  textless comparer value argument h relation := by
    rw [literal_relation]
    unfold Condition.compareHolds
    rcases h with h | h
    · simp only [h]
    · simp only [h]
      cases value.text? <;> rfl
  among comparer value literals := rfl
  startsWith comparer value argument text h := by
    have hread : literal comparer value "$startswith" argument =
        .ok (Condition.testText (Text.lowerCase text).toList.isPrefixOf value) := by
      simp only [literal, h, Option.any_some]
    refine ⟨_, hread, ?_⟩
    simp only [Condition.testText_iff, List.isPrefixOf_iff_prefix]
  endsWith comparer value argument text h := by
    have hread : literal comparer value "$endswith" argument =
        .ok (Condition.testText (Text.lowerCase text).toList.isSuffixOf value) := by
      simp only [literal, h, Option.any_some]
    refine ⟨_, hread, ?_⟩
    simp only [Condition.testText_iff, List.isSuffixOf_iff_suffix]
  contains comparer value argument text h := by
    have hread : literal comparer value "$contains" argument =
        .ok (Condition.containsHolds (Text.lowerCase text) value) := by
      simp only [literal, h, Option.any_some]
    exact ⟨_, hread, Condition.containsHolds_iff⟩

/-- An operator with a literal or literals says what its comparison or test says. -/
theorem operator_literal (named : LiteralOperator) :
    operator registry around value named.key argument =
      literal (around.comparer? registry) value named.key argument := by
  unfold operator
  cases named with
  | compares relation => cases relation <;> rfl
  | among | contains | startsWith | endsWith => rfl

/-- An object without a comparer's name leaves the comparer in force. -/
theorem comparer?_cons_of_none {operators : Dict Json}
    (h : Dict.find? comparerKey operators = none) :
    Enclosure.comparer? registry (operators :: around) = around.comparer? registry := by
  simp only [Enclosure.comparer?, Enclosure.comparerName?, List.findSome?_cons, h]

/-- The comparer within an object is the one that it names, or else the one around
it. -/
theorem comparer?_cons_of_comparerWithin {property : String} {operators : Dict Json}
    {comparer : Option Comparer}
    (h : Condition.comparerWithin registry property (around.comparer? registry) operators =
      .ok comparer) :
    Enclosure.comparer? registry (operators :: around) = comparer := by
  unfold Condition.comparerWithin at h
  split at h
  · next hnone =>
    cases h
    exact comparer?_cons_of_none registry around hnone
  · next name hname =>
    split at h
    · next found hfound =>
      cases h
      simp only [Enclosure.comparer?, Enclosure.comparerName?, List.findSome?_cons, hname,
        Option.bind_some, hfound]
    · cases h
  · cases h

/-- An entry without a dollar sign says what the condition says of the property. -/
theorem entry_property {key : String} (h : isOperatorKey key = false) (lookup : Lookup) :
    entry registry lookup key argument =
      condition registry [] ((lookup key).getD .null) argument := by
  unfold entry
  split
  · exact absurd h (by decide)
  · exact absurd h (by decide)
  · exact absurd h (by decide)
  · rfl

end Reading

namespace Condition

theorem holds_of_conjunction {property : String} {parts : List Condition} {condition : Condition}
    (h : conjunction property parts = .ok condition) (value : Json) :
    condition.holds value = Verdict.all (parts.map (holds value)) := by
  rcases conjunction_eq_ok h with rfl | rfl
  · simp only [List.map_cons, List.map_nil, Verdict.all, Verdict.and_true]
  · rw [holds, allHold_eq]

/-- A compiled operator with a literal or literals holds for the values that it is
written for. -/
theorem holds_of_compileLiteral (property : String) {comparer : Option Comparer}
    (operator : LiteralOperator) {argument : Json} {condition : Condition}
    (h : compileLiteral property operator.key comparer argument operator = .ok condition)
    (value : Json) :
    condition.holds value = Reading.literal comparer value operator.key argument := by
  cases operator with
  | compares relation =>
    obtain ⟨-, rfl⟩ := compileComparison_eq_ok h
    rw [holds]
    cases relation <;> rfl
  | among =>
    obtain ⟨literals, rfl, -, rfl⟩ := compileMembership_eq_ok h
    rw [holds, amongHolds_eq]
    rfl
  | contains =>
    obtain ⟨text, htext, rfl⟩ := compileText_eq_ok h
    simp only [holds, LiteralOperator.key, Reading.literal, htext, Option.any_some]
  | startsWith =>
    obtain ⟨text, htext, rfl⟩ := compileText_eq_ok h
    simp only [holds, LiteralOperator.key, Reading.literal, htext, Option.any_some]
  | endsWith =>
    obtain ⟨text, htext, rfl⟩ := compileText_eq_ok h
    simp only [holds, LiteralOperator.key, Reading.literal, htext, Option.any_some]

variable {registry : Registry} {property : String}

-- The five forms of a condition are compiled by one recursion, so the five lemmas are
-- proved by one. All along, the comparer that the compiler carries is the one that the
-- objects around name.
mutual

/-- A compiled condition holds for the values that it is written for. -/
theorem holds_of_compile {around : Enclosure} {argument : Json} {condition : Condition}
    (h : compile registry property (around.comparer? registry) argument = .ok condition)
    (value : Json) :
    condition.holds value = Reading.condition registry around value argument := by
  cases argument with
  | array literals =>
    rw [compile] at h
    rw [Reading.condition]
    refine holds_of_compileLiteral property .among ?_ value
    exact h
  | object operators =>
    obtain ⟨comparer, parts, hcomparer, hparts, h⟩ := compile_object_eq_ok h
    rw [← Reading.comparer?_cons_of_comparerWithin registry around hcomparer] at hparts
    have hkeep : ∀ key, key ≠ comparerKey → (key != comparerKey) = true :=
      fun key hkey => bne_iff_ne.mpr hkey
    rw [Reading.condition, holds_of_conjunction h, map_holds_of_compileOperators hkeep hparts]
  | null | bool _ | number _ | string _ =>
    simp only [compile] at h
    simp only [Reading.condition]
    exact holds_of_compileLiteral property (.compares .eq) h value
termination_by (sizeOf argument, 1)

/-- The compiled conditions of a list hold for the values that they are written for. -/
theorem map_holds_of_compileAll {around : Enclosure} {arguments : List Json}
    {parts : List Condition}
    (h : compileAll registry property (around.comparer? registry) arguments = .ok parts)
    (value : Json) :
    parts.map (holds value) = Reading.conditions registry around value arguments := by
  cases arguments with
  | nil =>
    rw [compileAll] at h
    cases h
    rw [Reading.conditions, List.map_nil]
  | cons argument rest =>
    rw [compileAll] at h
    obtain ⟨part, hpart, h⟩ := Except.bind_eq_ok_iff.mp h
    obtain ⟨others, hothers, h⟩ := Except.bind_eq_ok_iff.mp h
    cases h
    rw [Reading.conditions, List.map_cons, holds_of_compile hpart,
      map_holds_of_compileAll hothers]
termination_by (sizeOf arguments, 0)

/-- The compiled parts of `$or` and `$and` hold for the values that they are written
for. -/
theorem map_holds_of_compileParts {around : Enclosure} {key : String} {argument : Json}
    {parts : List Condition}
    (h : compileParts registry property (around.comparer? registry) key argument = .ok parts)
    (value : Json) :
    parts.map (holds value) = Reading.parts registry around value argument := by
  cases argument with
  | array arguments =>
    rw [compileParts] at h
    rw [Reading.parts, map_holds_of_compileAll h]
  | object operators =>
    rw [compileParts] at h
    -- An operator cannot be a comparer's name here, so the comparer stays the same.
    have hnone := find?_comparerKey_of_compileOperators h
    rw [← Reading.comparer?_cons_of_none registry around hnone] at h
    rw [Reading.parts, map_holds_of_compileOperators (fun _ _ => rfl) h]
  | null | bool _ | number _ | string _ => cases h
termination_by (sizeOf argument, 2)

/-- A compiled operator holds for the values that it is written for. -/
theorem holds_of_compileOperator {around : Enclosure} {key : String} {argument : Json}
    {condition : Condition}
    (h : compileOperator registry property (around.comparer? registry) key argument =
      .ok condition) (value : Json) :
    condition.holds value = Reading.operator registry around value key argument := by
  cases compiledOperator_of_compileOperator h with
  | literal operator hliteral =>
    rw [holds_of_compileLiteral property operator hliteral, Reading.operator_literal]
  | not hpart => rw [holds, holds_of_compile hpart, Reading.operator, Verdict.not]
  | any hparts => rw [holds, anyHold_eq, map_holds_of_compileParts hparts, Reading.operator]
  | all hparts => rw [holds, allHold_eq, map_holds_of_compileParts hparts, Reading.operator]
termination_by (sizeOf argument, 3)

/-- The compiled operators of an object hold for the values that they are written
for. -/
theorem map_holds_of_compileOperators {around : Enclosure} {keep : String → Bool}
    (hkeep : ∀ key, key ≠ comparerKey → keep key = true) {operators : List (String × Json)}
    {parts : List Condition}
    (h : compileOperators registry property keep (around.comparer? registry) operators =
      .ok parts) (value : Json) :
    parts.map (holds value) = Reading.operators registry around value operators := by
  match operators, h with
  | [], h =>
    rw [compileOperators] at h
    cases h
    rw [Reading.operators, List.map_nil]
  | (key, argument) :: rest, h =>
    rw [compileOperators] at h
    rw [Reading.operators]
    by_cases hkey : key = comparerKey
    · rw [if_pos hkey]
      split_ifs at h
      · obtain ⟨part, hpart, -⟩ := Except.bind_eq_ok_iff.mp h
        rw [hkey] at hpart
        exact absurd hpart compileOperator_comparerKey_ne_ok
      · exact map_holds_of_compileOperators hkeep h value
    · rw [if_neg hkey]
      rw [if_pos (hkeep key hkey)] at h
      obtain ⟨part, hpart, h⟩ := Except.bind_eq_ok_iff.mp h
      obtain ⟨others, hothers, h⟩ := Except.bind_eq_ok_iff.mp h
      cases h
      rw [List.map_cons, holds_of_compileOperator hpart,
        map_holds_of_compileOperators hkeep hothers]
termination_by (sizeOf operators, 0)

end

end Condition

namespace Matcher

variable {registry : Registry} (lookup : Lookup)

mutual

/-- A compiled entry matches the contexts that it is written for. -/
theorem eval_of_compileEntry {key : String} {argument : Json} {matcher : Matcher}
    (h : compileEntry registry key argument = .ok matcher) :
    matcher.eval lookup = Reading.entry registry lookup key argument := by
  cases compiledEntry_of_compileEntry h with
  | any hkey hparts =>
    subst hkey
    rw [Reading.entry, eval_any, map_eval_of_compileItems hparts]
  | all hkey hparts =>
    subst hkey
    rw [Reading.entry, eval_all, map_eval_of_compileItems hparts]
  | not hkey hparts =>
    subst hkey
    rw [Reading.entry, eval_not, eval_conjunction, map_eval_of_compileEntries hparts]
  | property hkey hcondition =>
    have hnone : Enclosure.comparer? registry [] = none := rfl
    rw [← hnone] at hcondition
    have hholds := Condition.holds_of_compile hcondition
    rw [eval_property, Reading.entry_property registry _ hkey, hholds]
termination_by (sizeOf argument, 1)

/-- The compiled matchers of a list match the contexts that they are written for. -/
theorem map_eval_of_compileItems {key : String} {items : List Json} {parts : List Matcher}
    (h : compileItems registry key items = .ok parts) :
    parts.map (eval lookup) = Reading.matchers registry lookup items := by
  match items, h with
  | [], h =>
    rw [compileItems] at h
    cases h
    rw [Reading.matchers, List.map_nil]
  | .object fields :: rest, h =>
    rw [compileItems] at h
    obtain ⟨part, hpart, h⟩ := Except.bind_eq_ok_iff.mp h
    obtain ⟨others, hothers, h⟩ := Except.bind_eq_ok_iff.mp h
    cases h
    rw [Reading.matchers, List.map_cons, eval_conjunction, map_eval_of_compileEntries hpart,
      map_eval_of_compileItems hothers]
  | .null :: _, h | .bool _ :: _, h | .number _ :: _, h | .string _ :: _, h | .array _ :: _, h =>
    simp only [compileItems] at h
    cases h
termination_by (sizeOf items, 0)

/-- The compiled entries of a matcher match the contexts that they are written for. -/
theorem map_eval_of_compileEntries {fields : List (String × Json)} {parts : List Matcher}
    (h : compileEntries registry fields = .ok parts) :
    parts.map (eval lookup) = Reading.entries registry lookup fields := by
  match fields, h with
  | [], h =>
    rw [compileEntries] at h
    cases h
    rw [Reading.entries, List.map_nil]
  | (key, argument) :: rest, h =>
    rw [compileEntries] at h
    obtain ⟨part, hpart, h⟩ := Except.bind_eq_ok_iff.mp h
    obtain ⟨others, hothers, h⟩ := Except.bind_eq_ok_iff.mp h
    cases h
    rw [Reading.entries, List.map_cons, eval_of_compileEntry hpart,
      map_eval_of_compileEntries hothers]
termination_by (sizeOf fields, 0)

end

theorem eval_of_compile {written : Dict Json} {matcher : Matcher}
    (h : compile registry written = .ok matcher) :
    matcher.eval lookup = Reading.matcher registry lookup written := by
  obtain ⟨parts, hparts, h⟩ := Except.bind_eq_ok_iff.mp h
  cases h
  rw [eval_conjunction, map_eval_of_compileEntries lookup hparts, Reading.matcher]

/-- The compiler keeps what a matcher says: the compiled matcher gives every context
the verdict of the written one, whose objects are in key order if a text writes it. What the
written one says of single values is what comparers, the kinds of literals and texts have it say. -/
theorem eval_eq_reading {written : Dict Json} {matcher : Matcher}
    (hcompile : compile registry written = .ok matcher) :
    (∀ lookup, matcher.eval lookup = Reading.matcher registry lookup written) ∧
      (∀ text, Json.read? text = some (.object written) → (Json.object written).InKeyOrder) ∧
      ReadsLiterals Reading.literal := by
  refine ⟨fun lookup => ?_, fun text hread => ?_, Reading.readsLiterals⟩
  · exact eval_of_compile lookup hcompile
  · exact Json.inKeyOrder_of_read? hread

/-- A comparer that a negation and a list of conditions pass on: 7.0 is no less than 1.2, but it
is 7. -/
theorem eval_eq_reading_version :
    ∃ written matcher, written = [("os", .object [("$compare", .string "version"),
        ("$not", .object [("$or", .array [.object [("$lt", .string "1.2")], .string "7"])])])] ∧
      compile .builtin written = .ok matcher ∧
      (∀ lookup, matcher.eval lookup = Reading.matcher .builtin lookup written) ∧
      (∀ text, Json.read? text = some (.object written) → (Json.object written).InKeyOrder) ∧
      ReadsLiterals Reading.literal ∧
      (matcher.eval fun _ => some (.string "1.10")) = .ok true ∧
      (matcher.eval fun _ => some (.string "1.1")) = .ok false ∧
      (matcher.eval fun _ => some (.string "7.0")) = .ok false ∧
      (matcher.eval fun _ => none) = .ok true := by
  have hcompile : compile .builtin [("os", .object [("$compare", .string "version"),
      ("$not", .object [("$or", .array [.object [("$lt", .string "1.2")], .string "7"])])])] =
      .ok (.property "os" (.not (.any [.compares .lt (.string "1.2") (some Version.comparer),
        .compares .eq (.string "7") (some Version.comparer)]))) := by rfl
  obtain ⟨hverdicts, hordered, hliterals⟩ := eval_eq_reading hcompile
  exact ⟨_, _, rfl, hcompile, hverdicts, hordered, hliterals, by rfl, by rfl, by rfl, by rfl⟩

end Matcher

end Rulebook
