import Rulebook.Proofs.Distribution.Thousandths
import Rulebook.Proofs.Success

/-!
# Written shares

A written distribution describes buckets: values with their shares, in an order. Compiling it
keeps all of them, with the sum of their weights as the total. A search for the share of a
number goes on while the weights passed do not exceed the number, so only a value with a
positive share is ever picked.
-/

namespace Rulebook

/-- A key stands for a value of the declared type: the text itself, or the value
that it writes if another type than text is declared. -/
def KeyStandsFor (declared : Option ValueType) (key : String) (value : Json) : Prop :=
  match declared with
  | none | some .string => value = .string key
  | some expected => Json.read? key = some value ∧ expected.admits value = true

/-- A value has a share in a written distribution. -/
inductive WrittenDistribution.Share (declared : Option ValueType) :
    WrittenDistribution → Json → Nat → Prop where
  /-- The listed values have equal shares. -/
  | equal {values : List Json} {value : Json} (hmem : value ∈ values) :
      Share declared ⟨"uniform", .array values⟩ value 1
  /-- A weight is given to a key. -/
  | keyed {weights : List (String × Json)} {key : String} {weight : UInt64} {value : Json}
      (hmem : (key, .number (.natural weight)) ∈ weights)
      (hvalue : KeyStandsFor declared key value) :
      Share declared ⟨"weighted", .object weights⟩ value weight.toNat
  /-- A weight is given beside a value. -/
  | listed {entries : List Json} {fields : Dict Json} {value : Json} {weight : UInt64}
      (hmem : .object fields ∈ entries) (hvalue : Dict.find? "value" fields = some value)
      (hweight : Dict.find? "weight" fields = some (.number (.natural weight))) :
      Share declared ⟨"weighted", .array entries⟩ value weight.toNat
  /-- True has as many thousandths as the probability. -/
  | success {written : Json} {probability : Binary64}
      (hwritten : Distribution.probability? written = some probability) :
      Share declared ⟨"bernoulli", written⟩ (.bool true) (Distribution.thousandths probability)
  /-- False has the rest of a thousand. -/
  | failure {written : Json} {probability : Binary64}
      (hwritten : Distribution.probability? written = some probability) :
      Share declared ⟨"bernoulli", written⟩ (.bool false)
        (1000 - Distribution.thousandths probability)

/-- A written distribution describes buckets, in the order in which it writes them. -/
inductive WrittenDistribution.Describes (declared : Option ValueType) :
    WrittenDistribution → List Bucket → Prop where
  /-- Every listed value has the share one. -/
  | equal (values : List Json) :
      Describes declared ⟨"uniform", .array values⟩ (values.map fun value => ⟨value, 1⟩)
  /-- Every key gives its weight to the value that it stands for. -/
  | keyed {weights : List (String × Json)} {buckets : List Bucket}
      (hfields : List.Forall₂ (fun field bucket => KeyStandsFor declared field.1 bucket.value ∧
        field.2 = .number (.natural bucket.weight)) weights buckets) :
      Describes declared ⟨"weighted", .object weights⟩ buckets
  /-- Every entry gives its weight to its value. -/
  | listed {entries : List Json} {buckets : List Bucket}
      (hentries : List.Forall₂ (fun entry bucket => ∃ fields, entry = .object fields ∧
        Dict.find? "value" fields = some bucket.value ∧
        Dict.find? "weight" fields = some (.number (.natural bucket.weight))) entries buckets) :
      Describes declared ⟨"weighted", .array entries⟩ buckets
  /-- True has the thousandths of a probability, and false the rest of a thousand. -/
  | probability {number : Number} {share rest : UInt64}
      (hlower : 0 ≤ number.toBinary64.signedUnits)
      (hupper : number.toBinary64.signedUnits ≤ Binary64.one)
      (hshare : share.toNat = Distribution.thousandths number.toBinary64)
      (hthousandths : Distribution.IsThousandths number.toBinary64 share.toNat)
      (hrest : share.toNat + rest.toNat = 1000) :
      Describes declared ⟨"bernoulli", .number number⟩ [⟨.bool true, share⟩, ⟨.bool false, rest⟩]

theorem CompileError.checkType_eq_ok_iff {expected : ValueType} {value : Json} :
    checkType expected value = .ok () ↔ expected.admits value = true := by
  unfold checkType
  split_ifs with h <;> simp [h]

namespace Distribution

/-- A field with a number is there. -/
theorem find?_of_getD_null {fields : Dict Json} {name : String} {number : Number}
    (h : (Dict.find? name fields).getD .null = .number number) :
    Dict.find? name fields = some (.number number) := by
  cases hfound : Dict.find? name fields with
  | none =>
    rw [hfound] at h
    cases h
  | some found =>
    rw [hfound] at h
    exact congrArg some h

/-- A weight is a written non-negative integer. -/
theorem readWeight_eq_ok {written : Json} {weight : UInt64}
    (h : readWeight written = .ok weight) : written = .number (.natural weight) := by
  unfold readWeight at h
  split at h
  · cases h
    rfl
  · cases h

/-- A key is read as the value that it stands for. -/
theorem keyValue_eq_ok {declared : Option ValueType} {key : String} {value : Json}
    (h : keyValue declared key = .ok value) : KeyStandsFor declared key value := by
  unfold keyValue at h
  cases declared with
  | none =>
    cases h
    exact rfl
  | some expected =>
    unfold CompileError.readKey at h
    cases expected with
    | string =>
      cases h
      exact rfl
    | number | boolean | object | array =>
      simp only [reduceCtorEq, if_false] at h
      split at h
      · cases h
      · next found hfound =>
        obtain ⟨_, hcheck, hvalue⟩ := Except.bind_eq_ok_iff.mp h
        cases hvalue
        exact ⟨hfound, CompileError.checkType_eq_ok_iff.mp hcheck⟩

/-- Weighted keys compile when each key and each weight can be read, and make their
buckets in key order. -/
theorem weightedKeys_eq_ok {declared : Option ValueType} {weights : List (String × Json)}
    {buckets : List Bucket} (h : weightedKeys declared weights = .ok buckets) :
    List.Forall₂ (fun field bucket => keyValue declared field.1 = .ok bucket.value ∧
      readWeight field.2 = .ok bucket.weight) weights buckets := by
  induction weights generalizing buckets with
  | nil =>
    cases h
    exact .nil
  | cons field rest ih =>
    obtain ⟨value, hvalue, h⟩ := Except.bind_eq_ok_iff.mp h
    obtain ⟨weight, hweight, h⟩ := Except.bind_eq_ok_iff.mp h
    obtain ⟨others, hothers, h⟩ := Except.bind_eq_ok_iff.mp h
    cases h
    exact .cons ⟨hvalue, hweight⟩ (ih hothers)

/-- Listed weights compile when each entry has a value and a weight, and make their
buckets in order. -/
theorem weightedEntries_eq_ok {entries : List Json} {buckets : List Bucket}
    (h : weightedEntries entries = .ok buckets) :
    List.Forall₂ (fun entry bucket => ∃ fields, entry = .object fields ∧
      Dict.find? "value" fields = some bucket.value ∧
      readWeight ((Dict.find? "weight" fields).getD .null) = .ok bucket.weight)
      entries buckets := by
  induction entries generalizing buckets with
  | nil =>
    cases h
    exact .nil
  | cons entry rest ih =>
    cases entry with
    | object fields =>
      obtain ⟨weight, hweight, h⟩ := Except.bind_eq_ok_iff.mp h
      split at h
      · cases h
      · next value hvalue =>
        obtain ⟨others, hothers, h⟩ := Except.bind_eq_ok_iff.mp h
        cases h
        exact .cons ⟨fields, rfl, hvalue, hweight⟩ (ih hothers)
    | null | bool _ | number _ | string _ | array _ => cases h

/-- A probability that is accepted is a number from zero to one. -/
theorem probability?_eq_some_iff {written : Json} {p : Binary64} :
    probability? written = some p ↔ ∃ number : Number, written = .number number ∧
      number.toBinary64 = p ∧ 0 ≤ p.signedUnits ∧ p.signedUnits ≤ Binary64.one := by
  unfold probability?
  constructor
  · intro h
    split at h
    · next number =>
      dsimp only at h
      split_ifs at h with hrange
      cases h
      exact ⟨number, rfl, rfl, hrange⟩
    · cases h
  · rintro ⟨number, rfl, rfl, hrange⟩
    exact if_pos hrange

/-- The thousandths of an accepted probability are a weight, and so is the rest of a
thousand. -/
theorem toNat_thousandths {written : Json} {p : Binary64} (h : probability? written = some p) :
    (UInt64.ofNat (thousandths p)).toNat = thousandths p ∧
      (1000 - UInt64.ofNat (thousandths p)).toNat = 1000 - thousandths p := by
  have hle := thousandths_le (units_of_probability? h).2
  have hshare : (UInt64.ofNat (thousandths p)).toNat = thousandths p :=
    UInt64.toNat_ofNat_of_lt' (Nat.lt_of_le_of_lt hle (by decide))
  refine ⟨hshare, ?_⟩
  rw [UInt64.toNat_sub_of_le _ _ (UInt64.le_iff_toNat_le.mpr (by rw [hshare]; exact hle)), hshare]
  rfl

/-- The buckets of a distribution are those that it describes. -/
theorem describes_of_shares {declared : Option ValueType} {written : WrittenDistribution}
    {buckets : List Bucket} (h : shares declared written = .ok buckets) :
    written.Describes declared buckets := by
  obtain ⟨kind, arguments⟩ := written
  unfold shares at h
  split at h
  · next hkind =>
    cases hkind
    cases arguments with
    | array values =>
      cases h
      exact .equal values
    | null | bool _ | number _ | string _ | object _ => cases h
  · next hkind =>
    cases hkind
    cases arguments with
    | object weights =>
      exact .keyed ((weightedKeys_eq_ok h).imp fun field bucket ⟨hvalue, hweight⟩ =>
        ⟨keyValue_eq_ok hvalue, readWeight_eq_ok hweight⟩)
    | array entries =>
      exact .listed ((weightedEntries_eq_ok h).imp
        fun entry bucket ⟨fields, hentry, hvalue, hweight⟩ =>
          ⟨fields, hentry, hvalue, find?_of_getD_null (readWeight_eq_ok hweight)⟩)
    | null | bool _ | number _ | string _ => cases h
  · next hkind =>
    cases hkind
    unfold bernoulli at h
    split at h
    · next probability hprobability =>
      cases h
      obtain ⟨hshare, hrest⟩ := toNat_thousandths hprobability
      have hle := thousandths_le (units_of_probability? hprobability).2
      obtain ⟨number, rfl, rfl, hlower, hupper⟩ := probability?_eq_some_iff.mp hprobability
      refine .probability hlower hupper hshare ?_ ?_
      · rw [hshare]
        exact isThousandths _
      · rw [hshare, hrest]
        omega
    · cases h
  · cases h

end Distribution

/-- Every bucket that a distribution describes is one of its shares. -/
theorem WrittenDistribution.Describes.share {declared : Option ValueType}
    {written : WrittenDistribution} {buckets : List Bucket} (h : written.Describes declared buckets)
    {bucket : Bucket} (hmem : bucket ∈ buckets) :
    written.Share declared bucket.value bucket.weight.toNat := by
  cases h with
  | equal values =>
    obtain ⟨value, hvalue, rfl⟩ := List.mem_map.mp hmem
    exact .equal hvalue
  | keyed hfields =>
    obtain ⟨⟨key, weight⟩, hfield, hvalue, rfl⟩ := hfields.exists_left hmem
    exact .keyed hfield hvalue
  | listed hentries =>
    obtain ⟨entry, hentry, fields, rfl, hvalue, hweight⟩ := hentries.exists_left hmem
    exact .listed hentry hvalue hweight
  | probability hlower hupper hshare _ hrest =>
    have hprobability := Distribution.probability?_eq_some_iff.mpr ⟨_, rfl, rfl, hlower, hupper⟩
    rcases List.mem_cons.mp hmem with rfl | hmem
    · rw [hshare]
      exact .success hprobability
    · rw [List.mem_singleton.mp hmem, Nat.eq_sub_of_add_eq' hrest, hshare]
      exact .failure hprobability

namespace Distribution

/-- All weights together, however many bits they have. Neither compiling nor picking calls this
specification. -/
def totalWeight (buckets : List Bucket) : Nat :=
  (buckets.map fun bucket => bucket.weight.toNat).sum

theorem totalWeight_cons (bucket : Bucket) (rest : List Bucket) :
    totalWeight (bucket :: rest) = bucket.weight.toNat + totalWeight rest := by
  rw [totalWeight, totalWeight, List.map_cons, List.sum_cons]

/-- One step of the total adds the weight itself. -/
theorem addWeight?_eq_some_iff {total next : UInt64} {bucket : Bucket} :
    addWeight? total bucket = some next ↔ next.toNat = total.toNat + bucket.weight.toNat := by
  have hnext := next.toNat_lt_size
  unfold addWeight?
  split_ifs with hfits
  · have hsum : (total + bucket.weight).toNat = total.toNat + bucket.weight.toNat := by
      rw [UInt64.toNat_add]
      exact Nat.mod_eq_of_lt hfits
    rw [Option.some_inj, ← UInt64.toNat_inj, hsum]
    exact eq_comm
  · constructor
    · intro h
      cases h
    · intro h
      omega

/-- Adding up goes on exactly if all weights together fit into 64 bits, and gives their sum. -/
theorem foldlM_addWeight?_eq_some_iff {buckets : List Bucket} {start total : UInt64} :
    buckets.foldlM addWeight? start = some total ↔
      total.toNat = start.toNat + totalWeight buckets := by
  induction buckets generalizing start with
  | nil =>
    rw [List.foldlM_nil, totalWeight, List.map_nil, List.sum_nil, Nat.add_zero, UInt64.toNat_inj]
    exact Option.some_inj.trans eq_comm
  | cons bucket rest ih =>
    rw [List.foldlM_cons, totalWeight_cons, ← Nat.add_assoc]
    constructor
    · intro h
      obtain ⟨next, hnext, hrest⟩ := Option.bind_eq_some_iff.mp h
      rw [ih.mp hrest, addWeight?_eq_some_iff.mp hnext]
    · intro h
      have hsize := total.toNat_lt_size
      have hnext : (UInt64.ofNat (start.toNat + bucket.weight.toNat)).toNat =
          start.toNat + bucket.weight.toNat := UInt64.toNat_ofNat_of_lt' (by omega)
      refine Option.bind_eq_some_iff.mpr ⟨_, addWeight?_eq_some_iff.mpr hnext, ih.mpr ?_⟩
      rw [hnext, h]

/-- The total is the sum of all weights, and there is one exactly if 64 bits hold the sum. -/
theorem total?_eq_some_iff {buckets : List Bucket} {total : UInt64} :
    total? buckets = some total ↔ total.toNat = totalWeight buckets := by
  rw [total?, foldlM_addWeight?_eq_some_iff]
  exact iff_of_eq (congrArg _ (Nat.zero_add _))

/-- One step of the search goes on exactly if the number is not below the weight, and takes
the weight away. -/
theorem enter_eq_ok_iff {number left : UInt64} {bucket : Bucket} :
    enter number bucket = .ok left ↔ left.toNat + bucket.weight.toNat = number.toNat := by
  unfold enter
  split_ifs with hbelow
  · have hlt := UInt64.lt_iff_toNat_lt.mp hbelow
    exact iff_of_false nofun (by omega)
  · have hle := UInt64.not_lt.mp hbelow
    have hsub := UInt64.toNat_sub_of_le _ _ hle
    have hweight := UInt64.le_iff_toNat_le.mp hle
    rw [Except.ok.injEq, ← UInt64.toNat_inj, hsub]
    omega

/-- It ends with the value of a share in which the number lies. -/
theorem enter_eq_error_iff {number : UInt64} {bucket : Bucket} {value : Json} :
    enter number bucket = .error value ↔
      number.toNat < bucket.weight.toNat ∧ bucket.value = value := by
  rw [← UInt64.lt_iff_toNat_lt]
  unfold enter
  split_ifs with hbelow <;> simp [hbelow]

/-- The search goes on behind all shares exactly if the number is not below all weights
together, and has then taken them away. No subtraction has gone below zero. -/
theorem search_eq_ok_iff {buckets : List Bucket} {number left : UInt64} :
    search buckets number = .ok left ↔ left.toNat + totalWeight buckets = number.toNat := by
  unfold search
  induction buckets generalizing number with
  | nil =>
    rw [List.foldlM_nil, totalWeight, List.map_nil, List.sum_nil, Nat.add_zero, UInt64.toNat_inj,
      Except.pure_eq_ok_iff]
    exact eq_comm
  | cons bucket rest ih =>
    rw [List.foldlM_cons, totalWeight_cons, Except.bind_eq_ok_iff]
    constructor
    · rintro ⟨next, hnext, hrest⟩
      have hstep := enter_eq_ok_iff.mp hnext
      have hrun := ih.mp hrest
      omega
    · intro h
      have hsize := number.toNat_lt_size
      have hnext : (UInt64.ofNat (left.toNat + totalWeight rest)).toNat =
          left.toNat + totalWeight rest := UInt64.toNat_ofNat_of_lt' (by omega)
      exact ⟨_, enter_eq_ok_iff.mpr (by omega), ih.mpr hnext.symm⟩

/-- The search ends at a share in which the number lies, behind the shares before it. -/
theorem exists_share_of_search {buckets : List Bucket} {number : UInt64} {value : Json}
    (h : search buckets number = .error value) :
    ∃ front bucket back, buckets = front ++ bucket :: back ∧ bucket.value = value ∧
      totalWeight front ≤ number.toNat ∧
        number.toNat < totalWeight front + bucket.weight.toNat := by
  unfold search at h
  induction buckets generalizing number with
  | nil => cases h
  | cons bucket rest ih =>
    rw [List.foldlM_cons] at h
    rcases Except.bind_eq_error_iff.mp h with hhere | ⟨left, hleft, hrest⟩
    · obtain ⟨hlt, hvalue⟩ := enter_eq_error_iff.mp hhere
      exact ⟨[], bucket, rest, rfl, hvalue, Nat.zero_le _, by rw [totalWeight]; simpa using hlt⟩
    · have hstep := enter_eq_ok_iff.mp hleft
      obtain ⟨front, found, back, rfl, hvalue, hle, hlt⟩ := ih hrest
      refine ⟨bucket :: front, found, back, rfl, hvalue, ?_, ?_⟩
      · rw [totalWeight_cons]
        omega
      · rw [totalWeight_cons]
        omega

/-- A number picks the value with which its search ends. -/
theorem pick_eq_some_iff {distribution : Distribution} {number : UInt64} {value : Json} :
    distribution.pick number = some value ↔
      search distribution.buckets (number % distribution.total) = .error value := by
  unfold pick
  cases search distribution.buckets (number % distribution.total) <;> simp

/-- The search for a number below all weights together ends at a share. -/
theorem exists_search_eq_error {buckets : List Bucket} {number : UInt64}
    (h : number.toNat < totalWeight buckets) : ∃ value, search buckets number = .error value := by
  cases hsearch : search buckets number with
  | error value => exact ⟨value, rfl⟩
  | ok left =>
    have hleft := search_eq_ok_iff.mp hsearch
    omega

/-- A distribution compiles if its shares can be read and their sum is positive and fits into
64 bits; the sum is its total. -/
theorem compile_eq_ok_iff {declared : Option ValueType} {written : WrittenDistribution}
    {distribution : Distribution} :
    compile declared written = .ok distribution ↔
      shares declared written = .ok distribution.buckets ∧
        distribution.total.toNat = totalWeight distribution.buckets ∧ distribution.total ≠ 0 := by
  have hshares : ∀ buckets, ofShares buckets = .ok distribution ↔ buckets = distribution.buckets ∧
      distribution.total.toNat = totalWeight buckets ∧ distribution.total ≠ 0 := by
    intro buckets
    unfold ofShares
    cases htotal : total? buckets with
    | none =>
      refine iff_of_false nofun ?_
      rintro ⟨-, hsum, -⟩
      rw [total?_eq_some_iff.mpr hsum] at htotal
      cases htotal
    | some total =>
      have hsum := total?_eq_some_iff.mp htotal
      rw [← hsum, UInt64.toNat_inj]
      obtain ⟨kept, sum⟩ := distribution
      dsimp only
      split_ifs with hzero
      · refine iff_of_false nofun ?_
        rintro ⟨-, rfl, hne⟩
        exact hne hzero
      · simp only [Except.ok.injEq, mk.injEq]
        constructor
        · rintro ⟨rfl, rfl⟩
          exact ⟨rfl, rfl, hzero⟩
        · rintro ⟨rfl, rfl, -⟩
          exact ⟨rfl, rfl⟩
  rw [compile, Except.bind_eq_ok_iff]
  constructor
  · rintro ⟨buckets, hread, hof⟩
    obtain ⟨rfl, hsum, hne⟩ := (hshares buckets).mp hof
    exact ⟨hread, hsum, hne⟩
  · rintro ⟨hread, hsum, hne⟩
    exact ⟨_, hread, (hshares _).mpr ⟨rfl, hsum, hne⟩⟩

theorem shares_of_compile {declared : Option ValueType} {written : WrittenDistribution}
    {distribution : Distribution} (h : compile declared written = .ok distribution) :
    shares declared written = .ok distribution.buckets :=
  (compile_eq_ok_iff.mp h).1

/-- A remainder of the total is below all weights together. -/
theorem mod_total_lt {distribution : Distribution}
    (hsum : distribution.total.toNat = totalWeight distribution.buckets)
    (hne : distribution.total ≠ 0) (number : UInt64) :
    (number % distribution.total).toNat < totalWeight distribution.buckets := by
  have hpositive : 0 < distribution.total.toNat :=
    Nat.pos_of_ne_zero fun hzero => hne (UInt64.toNat_inj.mp hzero)
  rw [UInt64.toNat_mod, ← hsum]
  exact Nat.mod_lt _ hpositive

end Distribution

end Rulebook
