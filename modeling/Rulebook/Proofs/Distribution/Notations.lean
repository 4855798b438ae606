import Rulebook.Proofs.Distribution.Declared
import Rulebook.Proofs.Document.Output

/-!
# Two notations of weights

Weights are given to keys, or beside values in a list. Where every key stands for a value, the
list of these values in the order of the keys is read to the same shares, so rules that are
written one way or the other assign every owner alike. A value of another type than text can be
the key of its own weight: its text, if that is read back as the value.
-/

namespace Rulebook

/-- An entry of a list of weights. -/
def weightEntry (value weight : Json) : Json := .object [("value", value), ("weight", weight)]

/-- An entry of a list gives the weight of a key to the value that the key stands for. -/
def Lists (declared : Option ValueType) (field : String × Json) (entry : Json) : Prop :=
  ∃ value, KeyStandsFor declared field.1 value ∧ entry = weightEntry value field.2

namespace Distribution

variable {declared : Option ValueType}

/-- A key is read as a value exactly if it stands for it. -/
theorem keyValue_eq_ok_iff {key : String} {value : Json} :
    keyValue declared key = .ok value ↔ KeyStandsFor declared key value := by
  constructor
  · exact keyValue_eq_ok
  · intro h
    cases declared with
    | none =>
      obtain rfl : value = .string key := h
      rfl
    | some expected => exact keyValue_of_keyStandsFor h

theorem checkDeclared_of_keyStandsFor {key : String} {value : Json}
    (h : KeyStandsFor declared key value) : CompileError.checkDeclared declared value = .ok () := by
  cases declared with
  | none => rfl
  | some expected => exact CompileError.checkType_eq_ok_iff.mpr h.admits

/-- An entry of a list gives its weight to its value. -/
theorem weightedEntries_cons (value weight : Json) (rest : List Json) :
    weightedEntries (weightEntry value weight :: rest) =
      readWeight weight >>= fun read => weightedEntries rest >>= fun others =>
        .ok (⟨value, read⟩ :: others) := by
  rfl

/-- The weights of keys are read like the list of the values that the keys stand for, and fail
in the same way. -/
theorem weightedKeys_eq_weightedEntries {weights : List (String × Json)} {entries : List Json}
    (h : List.Forall₂ (Lists declared) weights entries) :
    weightedKeys declared weights = weightedEntries entries := by
  induction h with
  | nil => rfl
  | @cons field entry rest others hfield _ ih =>
    obtain ⟨key, weight⟩ := field
    obtain ⟨value, hvalue, rfl⟩ := hfield
    rw [weightedKeys, keyValue_eq_ok_iff.mpr hvalue, Except.ok_bind, weightedEntries_cons, ih]
    rfl

/-- Both notations compile to the same distribution, or fail in the same way. -/
theorem compile_keys_eq_compile_entries {weights : List (String × Json)} {entries : List Json}
    (h : List.Forall₂ (Lists declared) weights entries) :
    compile declared ⟨"weighted", .object weights⟩ =
      compile declared ⟨"weighted", .array entries⟩ := by
  have hshares : shares declared ⟨"weighted", .object weights⟩ =
      shares declared ⟨"weighted", .array entries⟩ := weightedKeys_eq_weightedEntries h
  rw [compile, compile, hshares]

/-- The values of keys are of the declared type. -/
theorem checkShares_of_compile_keys {weights : List (String × Json)} {distribution : Distribution}
    (h : compile declared ⟨"weighted", .object weights⟩ = .ok distribution) :
    Rule.checkShares declared distribution.buckets = .ok () := by
  have hbuckets : weightedKeys declared weights = .ok distribution.buckets := shares_of_compile h
  refine Rule.checkShares_eq_ok_iff.mpr fun bucket hmem => ?_
  obtain ⟨field, -, hvalue, -⟩ := (weightedKeys_eq_ok hbuckets).exists_left hmem
  exact checkDeclared_of_keyStandsFor (keyValue_eq_ok hvalue)

/-- Weights of keys that stand for values have a list. -/
theorem exists_lists {weights : List (String × Json)}
    (h : ∀ field ∈ weights, ∃ value, KeyStandsFor declared field.1 value) :
    ∃ entries, List.Forall₂ (Lists declared) weights entries := by
  induction weights with
  | nil => exact ⟨[], .nil⟩
  | cons field rest ih =>
    obtain ⟨⟨value, hvalue⟩, hrest⟩ := List.forall_mem_cons.mp h
    obtain ⟨entries, hentries⟩ := ih hrest
    exact ⟨weightEntry value field.2 :: entries, .cons ⟨value, hvalue, rfl⟩ hentries⟩

/-- The text of a value of another type than text stands for the value as a key, if it is read
back as the value. -/
theorem keyStandsFor_render {expected : ValueType} {value : Json} (hexpected : expected ≠ .string)
    (hadmits : expected.admits value = true) (hread : Json.read? value.render = some value) :
    KeyStandsFor (some expected) value.render value := by
  cases expected with
  | string => exact absurd rfl hexpected
  | number | boolean | object | array => exact ⟨hread, hadmits⟩

end Distribution

/-- The rule with several variants and a distribution, whatever its own were. -/
def WrittenRule.withDistribution (rule : WrittenRule) (distribution : WrittenDistribution) :
    WrittenRule :=
  { rule with variants := .multiple, distribution := some distribution }

/-- A rule compiles alike with distributions that do. -/
theorem Rule.compile_withDistribution {declared : Option ValueType}
    {one other : WrittenDistribution}
    (h : Distribution.compile declared one = Distribution.compile declared other)
    (registry : Registry) (written : WrittenRule) :
    compile registry declared (written.withDistribution one) =
      compile registry declared (written.withDistribution other) := by
  have hshared : compileShared declared (written.withDistribution one) =
      compileShared declared (written.withDistribution other) := by
    simp only [compileShared, WrittenRule.withDistribution, h]
  simp only [compile, hshared]
  rfl

namespace WrittenDistribution

/-- Weights given to keys and the same weights in a list assign owners alike. -/
structure AssignsLike (declared : Option ValueType) (keyed listed : WrittenDistribution) :
    Prop where
  /-- The keys compile exactly if the list does with values of the declared type. -/
  compiles : (∃ distribution, Distribution.compile declared keyed = .ok distribution) ↔
    ∃ distribution, Distribution.compile declared listed = .ok distribution ∧
      Rule.checkShares declared distribution.buckets = .ok ()
  /-- Every bucket number picks the same value. -/
  picks : ∀ one other, Distribution.compile declared keyed = .ok one →
    Distribution.compile declared listed = .ok other → ∀ number, one.pick number = other.pick number
  /-- Every rule compiles with both or with neither, and gives the same to every context. -/
  rules : ∀ registry (written : WrittenRule) rule,
    Rule.compile registry declared (written.withDistribution keyed) = .ok rule ↔
      Rule.compile registry declared (written.withDistribution listed) = .ok rule

/-- Distributions that compile to the same assign alike, if the values are of the declared
type. -/
theorem assignsLike_of_eq {declared : Option ValueType} {keyed listed : WrittenDistribution}
    (h : Distribution.compile declared keyed = Distribution.compile declared listed)
    (hcheck : ∀ distribution, Distribution.compile declared keyed = .ok distribution →
      Rule.checkShares declared distribution.buckets = .ok ()) :
    AssignsLike declared keyed listed := by
  refine ⟨?_, fun one other hone hother number => ?_, fun registry written rule => ?_⟩
  · rw [← h]
    constructor
    · rintro ⟨distribution, hcompile⟩
      exact ⟨distribution, hcompile, hcheck distribution hcompile⟩
    · rintro ⟨distribution, hcompile, -⟩
      exact ⟨distribution, hcompile⟩
  · rw [h, hother] at hone
    cases hone
    rfl
  · rw [Rule.compile_withDistribution h]

/-- Weights of keys that stand for values assign owners like the list of these values. -/
theorem assignsLike_of_lists {declared : Option ValueType} {weights : List (String × Json)}
    {entries : List Json} (h : List.Forall₂ (Lists declared) weights entries) :
    AssignsLike declared ⟨"weighted", .object weights⟩ ⟨"weighted", .array entries⟩ :=
  assignsLike_of_eq (Distribution.compile_keys_eq_compile_entries h)
    fun _ hcompile => Distribution.checkShares_of_compile_keys hcompile

/-- The two notations of weights assign owners alike. An object of weights whose keys stand for
values of the declared type, or for texts, can be written as the list of these values with their
weights, in the order of the fields, which is that of their keys. A value of another type than
text whose text is read back as the value is what its text stands for as a key; so a list of such
values can be written as an object, if their texts come in the order of keys. -/
theorem notations_agree (declared : Option ValueType) :
    (∀ weights : Dict Json, (∀ field ∈ weights, ∃ value, KeyStandsFor declared field.1 value) →
      (∃ entries, List.Forall₂ (Lists declared) weights entries) ∧
      ∀ entries, List.Forall₂ (Lists declared) weights entries →
        AssignsLike declared ⟨"weighted", .object weights⟩ ⟨"weighted", .array entries⟩) ∧
    (∀ expected value, declared = some expected → expected ≠ .string →
      expected.admits value = true → Json.read? value.render = some value →
        CompileError.readKey expected value.render = .ok value) ∧
    (∀ expected (listed : List (Json × Json)), declared = some expected → expected ≠ .string →
      (∀ pair ∈ listed, expected.admits pair.1 = true ∧
        Json.read? pair.1.render = some pair.1) →
      AssignsLike declared
        ⟨"weighted", .object (listed.map fun pair => (pair.1.render, pair.2))⟩
        ⟨"weighted", .array (listed.map fun pair => weightEntry pair.1 pair.2)⟩) := by
  refine ⟨fun weights hkeys => ⟨Distribution.exists_lists hkeys, fun entries hentries => ?_⟩,
    ?_, ?_⟩
  · exact assignsLike_of_lists hentries
  · rintro expected value - hexpected hadmits hread
    have hkey := Distribution.keyStandsFor_render hexpected hadmits hread
    exact Distribution.keyValue_eq_ok_iff.mpr hkey
  · rintro expected listed rfl hexpected hreads
    refine assignsLike_of_lists ?_
    rw [List.forall₂_map_left_iff, List.forall₂_map_right_iff, List.forall₂_same]
    intro pair hmem
    obtain ⟨hadmits, hread⟩ := hreads pair hmem
    exact ⟨pair.1, Distribution.keyStandsFor_render hexpected hadmits hread, rfl⟩

/-- Weights of the numbers 10 and 9, the first of which comes first as a key. Both notations give
10 to the first of four buckets and 9 to the others. -/
theorem notations_agree_numbers :
    ∃ keyed listed distribution,
      keyed = ⟨"weighted", .object [("10", .number (.natural 1)), ("9", .number (.natural 3))]⟩ ∧
      listed = ⟨"weighted", .array [weightEntry (.number (.natural 10)) (.number (.natural 1)),
        weightEntry (.number (.natural 9)) (.number (.natural 3))]⟩ ∧
      AssignsLike (some .number) keyed listed ∧
      CompileError.readKey .number (Json.number (.natural 10)).render =
        .ok (.number (.natural 10)) ∧
      Distribution.compile (some .number) keyed = .ok distribution ∧
      Distribution.compile (some .number) listed = .ok distribution ∧
      distribution = ⟨[⟨.number (.natural 10), 1⟩, ⟨.number (.natural 9), 3⟩], 4⟩ ∧
      distribution.pick 8 = some (.number (.natural 10)) ∧
      distribution.pick 9 = some (.number (.natural 9)) ∧
      distribution.pick 11 = some (.number (.natural 9)) := by
  have hten : Json.read? "10" = some (.number (.natural 10)) := by rfl
  have hnine : Json.read? "9" = some (.number (.natural 9)) := by rfl
  have hrendered : Json.read? (Json.number (.natural 10)).render =
      some (.number (.natural 10)) := by rfl
  obtain ⟨hobjects, hvalues, -⟩ := notations_agree (some .number)
  refine ⟨_, _, _, rfl, rfl, (hobjects _ ?_).2 _ ?_,
    hvalues .number _ rfl (by decide) rfl hrendered, ?_, by rfl, rfl, by rfl, by rfl, by rfl⟩
  · exact List.forall_mem_cons.mpr ⟨⟨_, hten, rfl⟩,
      List.forall_mem_singleton.mpr ⟨_, hnine, rfl⟩⟩
  · exact .cons ⟨_, ⟨hten, rfl⟩, rfl⟩ (.cons ⟨_, ⟨hnine, rfl⟩, rfl⟩ .nil)
  · rfl

end WrittenDistribution

end Rulebook
