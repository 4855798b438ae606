import Rulebook.Proofs.Distribution.Shares

/-!
# Shares of a declared type

A declared type changes of a distribution only the values of the keys that have weights.
Beyond that it is a filter: all values that share in the distribution must be of the type,
those without weight too, and every such key must stand for one.
-/

namespace Rulebook

/-- A written distribution conforms to a type: the values that it lists are of the type, its
keys stand for values of the type, and a probability is one of truth values. -/
inductive WrittenDistribution.Conforms (expected : ValueType) : WrittenDistribution → Prop where
  /-- The listed values with equal shares are of the type. -/
  | equal {values : List Json} (hvalues : ∀ value ∈ values, expected.admits value = true) :
      Conforms expected ⟨"uniform", .array values⟩
  /-- Every key with a weight stands for a value of the type. -/
  | keyed {weights : List (String × Json)}
      (hkeys : ∀ field ∈ weights, ∃ value, KeyStandsFor (some expected) field.1 value) :
      Conforms expected ⟨"weighted", .object weights⟩
  /-- The values listed beside weights are of the type. -/
  | listed {entries : List Json}
      (hvalues : ∀ fields, .object fields ∈ entries → ∀ value,
        Dict.find? "value" fields = some value → expected.admits value = true) :
      Conforms expected ⟨"weighted", .array entries⟩
  /-- A probability shares out truth values. -/
  | probability {written : Json} (hexpected : expected = .boolean) :
      Conforms expected ⟨"bernoulli", written⟩

/-- What a distribution shares out as one value without a declared type and as another with
it: a value as itself, and a key that has a weight as the value that it stands for. -/
inductive WrittenDistribution.Coerces (expected : ValueType) (written : WrittenDistribution) :
    Json → Json → Prop where
  /-- A value stays itself. -/
  | same (value : Json) : Coerces expected written value value
  /-- A text is the key of a weight. -/
  | keyed {weights : List (String × Json)} {key : String} {weight value : Json}
      (hwritten : written = ⟨"weighted", .object weights⟩) (hmem : (key, weight) ∈ weights)
      (hvalue : KeyStandsFor (some expected) key value) :
      Coerces expected written (.string key) value

/-- The value that a key stands for is of the type. -/
theorem KeyStandsFor.admits {expected : ValueType} {key : String} {value : Json}
    (h : KeyStandsFor (some expected) key value) : expected.admits value = true := by
  cases expected with
  | string =>
    obtain rfl : value = .string key := h
    rfl
  | number | boolean | object | array => exact h.2

namespace Distribution

variable {expected : ValueType} {written : WrittenDistribution}

/-- The value that a key stands for is read from it. -/
theorem keyValue_of_keyStandsFor {key : String} {value : Json}
    (h : KeyStandsFor (some expected) key value) : keyValue (some expected) key = .ok value := by
  unfold keyValue CompileError.readKey
  cases expected with
  | string =>
    obtain rfl : value = .string key := h
    rfl
  | number | boolean | object | array =>
    obtain ⟨hread, hadmits⟩ := h
    simp only [reduceCtorEq, if_false, hread, CompileError.checkType_eq_ok_iff.mpr hadmits]
    rfl

/-- Weighted keys whose values can be read without a declared type can be so with it, if
they stand for values of the type. -/
theorem exists_weightedKeys_of_keyStandsFor {weights : List (String × Json)}
    {buckets : List Bucket} (h : weightedKeys none weights = .ok buckets)
    (hkeys : ∀ field ∈ weights, ∃ value, KeyStandsFor (some expected) field.1 value) :
    ∃ typed, weightedKeys (some expected) weights = .ok typed ∧
      ∀ bucket ∈ typed, expected.admits bucket.value = true := by
  induction weights generalizing buckets with
  | nil => exact ⟨[], rfl, by simp⟩
  | cons field rest ih =>
    obtain ⟨key, written⟩ := field
    obtain ⟨⟨value, hvalue⟩, hrest⟩ := List.forall_mem_cons.mp hkeys
    obtain ⟨_, -, h⟩ := Except.bind_eq_ok_iff.mp h
    obtain ⟨weight, hweight, h⟩ := Except.bind_eq_ok_iff.mp h
    obtain ⟨others, hothers, -⟩ := Except.bind_eq_ok_iff.mp h
    obtain ⟨typed, htyped, hadmits⟩ := ih hothers hrest
    refine ⟨⟨value, weight⟩ :: typed, ?_, List.forall_mem_cons.mpr ⟨hvalue.admits, hadmits⟩⟩
    rw [weightedKeys, keyValue_of_keyStandsFor hvalue, Except.ok_bind, hweight, Except.ok_bind,
      htyped, Except.ok_bind]
    rfl

/-- Weighted keys whose values can be read with a declared type can be so without it, and
then are texts with the same weights. -/
theorem exists_weightedKeys_none {weights : List (String × Json)} {typed : List Bucket}
    (h : weightedKeys (some expected) weights = .ok typed) :
    ∃ buckets, weightedKeys none weights = .ok buckets ∧
      List.Forall₂ (fun bucket other => bucket.weight = other.weight ∧ ∃ field ∈ weights,
        bucket.value = .string field.1 ∧ KeyStandsFor (some expected) field.1 other.value)
        buckets typed := by
  induction weights generalizing typed with
  | nil =>
    cases h
    exact ⟨[], rfl, .nil⟩
  | cons field rest ih =>
    obtain ⟨key, written⟩ := field
    obtain ⟨value, hvalue, h⟩ := Except.bind_eq_ok_iff.mp h
    obtain ⟨weight, hweight, h⟩ := Except.bind_eq_ok_iff.mp h
    obtain ⟨others, hothers, h⟩ := Except.bind_eq_ok_iff.mp h
    cases h
    obtain ⟨buckets, hbuckets, hmatch⟩ := ih hothers
    refine ⟨⟨.string key, weight⟩ :: buckets, ?_, .cons ⟨rfl, _, List.mem_cons_self, rfl, ?_⟩ ?_⟩
    · rw [weightedKeys, keyValue, Except.ok_bind, hweight, Except.ok_bind, hbuckets,
        Except.ok_bind]
      rfl
    · exact keyValue_eq_ok hvalue
    · refine hmatch.imp fun bucket other ⟨hsame, found, hmem, hfound⟩ => ?_
      exact ⟨hsame, found, List.mem_cons_of_mem _ hmem, hfound⟩

/-- A probability makes a share of true and one of false. -/
theorem bernoulli_eq_ok {argument : Json} {buckets : List Bucket}
    (h : bernoulli argument = .ok buckets) :
    ∃ weight rest, buckets = [⟨.bool true, weight⟩, ⟨.bool false, rest⟩] := by
  unfold bernoulli at h
  split at h
  · cases h
    exact ⟨_, _, rfl⟩
  · cases h

/-- Two buckets have the same weight, and the values of a key or the same value. -/
def SameShare (expected : ValueType) (written : WrittenDistribution) (bucket typed : Bucket) :
    Prop :=
  bucket.weight = typed.weight ∧ written.Coerces expected bucket.value typed.value

/-- Buckets have the same shares as themselves. -/
theorem forall₂_sameShare_self (buckets : List Bucket) :
    List.Forall₂ (SameShare expected written) buckets buckets :=
  List.forall₂_same.mpr fun bucket _ => ⟨rfl, .same bucket.value⟩

/-- Shares of a declared type are those of a distribution that conforms to it, and without
the type the distribution has the same shares. -/
theorem conforms_of_shares {typed : List Bucket} (h : shares (some expected) written = .ok typed)
    (hadmits : ∀ bucket ∈ typed, expected.admits bucket.value = true) :
    written.Conforms expected ∧ ∃ buckets, shares none written = .ok buckets ∧
      List.Forall₂ (SameShare expected written) buckets typed := by
  obtain ⟨kind, arguments⟩ := written
  unfold shares at h
  split at h
  · next hkind =>
    cases hkind
    refine ⟨?_, typed, h, forall₂_sameShare_self typed⟩
    cases arguments with
    | array values =>
      cases h
      exact .equal fun value hmem => hadmits ⟨value, 1⟩ (List.mem_map.mpr ⟨value, hmem, rfl⟩)
    | null | bool _ | number _ | string _ | object _ => cases h
  · next hkind =>
    cases hkind
    cases arguments with
    | object weights =>
      obtain ⟨buckets, hbuckets, hmatch⟩ := exists_weightedKeys_none h
      refine ⟨.keyed fun field hmem => ?_, buckets, hbuckets, ?_⟩
      · obtain ⟨bucket, -, hvalue, -⟩ := (weightedKeys_eq_ok h).exists_right hmem
        exact ⟨bucket.value, keyValue_eq_ok hvalue⟩
      · refine hmatch.imp fun bucket other ⟨hsame, field, hmem, hvalue, hkey⟩ => ⟨hsame, ?_⟩
        rw [hvalue]
        exact .keyed rfl hmem hkey
    | array entries =>
      refine ⟨.listed fun fields hmem value hvalue => ?_, typed, h, forall₂_sameShare_self typed⟩
      obtain ⟨bucket, hbucket, found, hfound, hfoundValue, -⟩ :=
        (weightedEntries_eq_ok h).exists_right hmem
      cases hfound
      rw [hvalue] at hfoundValue
      cases hfoundValue
      exact hadmits bucket hbucket
    | null | bool _ | number _ | string _ => cases h
  · next hkind =>
    cases hkind
    refine ⟨.probability ?_, typed, h, forall₂_sameShare_self typed⟩
    obtain ⟨weight, rest, rfl⟩ := bernoulli_eq_ok h
    have htrue := hadmits ⟨.bool true, weight⟩ List.mem_cons_self
    cases expected with
    | boolean => rfl
    | string | number | object | array => cases htrue
  · cases h

/-- A distribution that conforms to a type has shares of the type, if it has any without
it. -/
theorem exists_shares_of_conforms {buckets : List Bucket} (h : shares none written = .ok buckets)
    (hconforms : written.Conforms expected) :
    ∃ typed, shares (some expected) written = .ok typed ∧
      ∀ bucket ∈ typed, expected.admits bucket.value = true := by
  cases hconforms with
  | equal hvalues =>
    cases h
    refine ⟨_, rfl, fun bucket hmem => ?_⟩
    obtain ⟨value, hvalue, rfl⟩ := List.mem_map.mp hmem
    exact hvalues value hvalue
  | keyed hkeys => exact exists_weightedKeys_of_keyStandsFor h hkeys
  | listed hvalues =>
    refine ⟨buckets, h, fun bucket hmem => ?_⟩
    obtain ⟨entry, hentry, fields, rfl, hvalue, -⟩ :=
      (weightedEntries_eq_ok h).exists_left hmem
    exact hvalues fields hentry bucket.value hvalue
  | probability hexpected =>
    refine ⟨buckets, h, ?_⟩
    obtain ⟨weight, rest, rfl⟩ := bernoulli_eq_ok h
    subst hexpected
    exact List.forall_mem_cons.mpr ⟨rfl, List.forall_mem_singleton.mpr rfl⟩

theorem totalWeight_of_sameShare {buckets typed : List Bucket}
    (h : List.Forall₂ (SameShare expected written) buckets typed) :
    totalWeight buckets = totalWeight typed := by
  induction h with
  | nil => rfl
  | cons hfirst _ ih => rw [totalWeight_cons, totalWeight_cons, hfirst.1, ih]

/-- A search ends at the same share or goes on with the same number. -/
theorem search_of_sameShare {buckets typed : List Bucket}
    (h : List.Forall₂ (SameShare expected written) buckets typed) (number : UInt64) :
    (∃ left, search buckets number = .ok left ∧ search typed number = .ok left) ∨
      ∃ value other, search buckets number = .error value ∧ search typed number = .error other ∧
        written.Coerces expected value other := by
  unfold search
  induction h generalizing number with
  | nil => exact Or.inl ⟨number, rfl, rfl⟩
  | cons hfirst _ ih =>
    obtain ⟨hweight, hvalue⟩ := hfirst
    rw [List.foldlM_cons, List.foldlM_cons, enter, enter, hweight]
    split_ifs
    · exact Or.inr ⟨_, _, rfl, rfl, hvalue⟩
    · exact ih _

/-- Distributions with the same shares and the same total pick alike. -/
theorem rel_pick {distribution typed : Distribution}
    (h : List.Forall₂ (SameShare expected written) distribution.buckets typed.buckets)
    (htotal : distribution.total = typed.total) (number : UInt64) :
    Option.Rel (written.Coerces expected) (distribution.pick number) (typed.pick number) := by
  rw [pick, pick, htotal]
  rcases search_of_sameShare h (number % typed.total) with
    ⟨left, hone, hother⟩ | ⟨value, other, hone, hother, hvalue⟩
  · rw [hone, hother]
    exact .none
  · rw [hone, hother]
    exact .some hvalue

/-- A compiled distribution of a declared type is that of a written one that conforms to the
type. Without the type the written one compiles too, and every number picks the same. -/
theorem conforms_of_compile {typed : Distribution}
    (h : compile (some expected) written = .ok typed)
    (hadmits : ∀ bucket ∈ typed.buckets, expected.admits bucket.value = true) :
    written.Conforms expected ∧ ∃ distribution, compile none written = .ok distribution ∧
      ∀ number, Option.Rel (written.Coerces expected) (distribution.pick number)
        (typed.pick number) := by
  obtain ⟨hshares, hsum, hne⟩ := compile_eq_ok_iff.mp h
  obtain ⟨hconforms, buckets, hbuckets, hsame⟩ := conforms_of_shares hshares hadmits
  rw [← totalWeight_of_sameShare hsame] at hsum
  exact ⟨hconforms, ⟨buckets, typed.total⟩, compile_eq_ok_iff.mpr ⟨hbuckets, hsum, hne⟩,
    @rel_pick _ _ ⟨buckets, typed.total⟩ typed hsame rfl⟩

/-- A distribution that compiles does so with a type that it conforms to, and then all its
values are of the type. -/
theorem exists_compile_of_conforms {distribution : Distribution}
    (h : compile none written = .ok distribution) (hconforms : written.Conforms expected) :
    ∃ typed, compile (some expected) written = .ok typed ∧
      ∀ bucket ∈ typed.buckets, expected.admits bucket.value = true := by
  obtain ⟨hshares, hsum, hne⟩ := compile_eq_ok_iff.mp h
  obtain ⟨typed, htyped, hadmits⟩ := exists_shares_of_conforms hshares hconforms
  obtain ⟨-, buckets, hbuckets, hsame⟩ := conforms_of_shares htyped hadmits
  rw [hshares] at hbuckets
  cases hbuckets
  rw [totalWeight_of_sameShare hsame] at hsum
  exact ⟨⟨typed, distribution.total⟩, compile_eq_ok_iff.mpr ⟨htyped, hsum, hne⟩, hadmits⟩

end Distribution

end Rulebook
