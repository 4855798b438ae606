import Mathlib.Data.Nat.Periodic
import Rulebook.Proofs.Distribution.Shares

/-!
# Exact shares

The shares of a distribution are laid out one after the other, so each of them begins where
the weights before it end. A search passes the shares before the one in which the number lies,
and ends there. So a number picks exactly this share, and as many numbers in a row as all weights
together pick every share exactly as often as its weight says.
-/

namespace Rulebook.Distribution

/-- Where a share begins: the weights of the shares before it together. -/
def weightBefore (buckets : List Bucket) (i : Nat) : Nat := totalWeight (buckets.take i)

/-- A number lies in the share at an index. -/
def LiesIn (buckets : List Bucket) (n i : Nat) : Prop :=
  weightBefore buckets i ≤ n ∧ n < weightBefore buckets (i + 1)

/-- A search ends at an index: it goes on through the shares before it, but not through the one
at the index too. -/
def EndsAt (buckets : List Bucket) (number : UInt64) (i : Nat) : Prop :=
  (search (buckets.take i) number).isOk = true ∧
    (search (buckets.take (i + 1)) number).isOk = false

instance (buckets : List Bucket) (number : UInt64) (i : Nat) :
    Decidable (EndsAt buckets number i) :=
  inferInstanceAs (Decidable (_ ∧ _))

/-- A share is as long as its weight. -/
theorem weightBefore_succ {buckets : List Bucket} {i : Nat} {bucket : Bucket}
    (h : buckets[i]? = some bucket) :
    weightBefore buckets (i + 1) = weightBefore buckets i + bucket.weight.toNat := by
  rw [weightBefore, weightBefore, totalWeight, totalWeight, List.take_add_one, h,
    Option.toList_some, List.map_append, List.sum_append, List.map_singleton, List.sum_singleton]

theorem weightBefore_mono (buckets : List Bucket) {i j : Nat} (h : i ≤ j) :
    weightBefore buckets i ≤ weightBefore buckets j := by
  have htake : (buckets.take i).Sublist (buckets.take j) := List.take_sublist_take_left h
  exact (htake.map fun bucket => bucket.weight.toNat).sum_le_sum fun _ _ => Nat.zero_le _

theorem weightBefore_le (buckets : List Bucket) (i : Nat) :
    weightBefore buckets i ≤ totalWeight buckets := by
  have htake : (buckets.take i).Sublist buckets := List.take_sublist i buckets
  exact (htake.map fun bucket => bucket.weight.toNat).sum_le_sum fun _ _ => Nat.zero_le _

/-- A number lies in no two shares. -/
theorem LiesIn.unique {buckets : List Bucket} {n i j : Nat} (hi : LiesIn buckets n i)
    (hj : LiesIn buckets n j) : i = j := by
  obtain ⟨hiFirst, hiLast⟩ := hi
  obtain ⟨hjFirst, hjLast⟩ := hj
  rcases Nat.lt_trichotomy i j with hlt | heq | hgt
  · have hmono : weightBefore buckets (i + 1) ≤ weightBefore buckets j :=
      weightBefore_mono buckets hlt
    omega
  · exact heq
  · have hmono : weightBefore buckets (j + 1) ≤ weightBefore buckets i :=
      weightBefore_mono buckets hgt
    omega

/-- A search goes on through shares exactly if they end before the number. -/
theorem isOk_search_iff {buckets : List Bucket} {number : UInt64} :
    (search buckets number).isOk = true ↔ totalWeight buckets ≤ number.toNat := by
  constructor
  · intro h
    cases hsearch : search buckets number with
    | ok left =>
      have hleft := search_eq_ok_iff.mp hsearch
      omega
    | error value =>
      rw [hsearch] at h
      cases h
  · intro h
    have hsize := number.toNat_lt_size
    have hleft : (UInt64.ofNat (number.toNat - totalWeight buckets)).toNat =
        number.toNat - totalWeight buckets := UInt64.toNat_ofNat_of_lt' (by omega)
    have hsearch : search buckets number = .ok (.ofNat (number.toNat - totalWeight buckets)) :=
      search_eq_ok_iff.mpr (by omega)
    rw [hsearch]
    rfl

/-- A search ends at the share in which the number lies. -/
theorem endsAt_iff {buckets : List Bucket} {number : UInt64} {i : Nat} :
    EndsAt buckets number i ↔ LiesIn buckets number.toNat i := by
  rw [EndsAt, LiesIn, isOk_search_iff, ← Bool.not_eq_true, isOk_search_iff, Nat.not_le]
  exact Iff.rfl

/-- The share at which a search ends has an index. -/
theorem exists_liesIn_of_search {buckets : List Bucket} {number : UInt64} {value : Json}
    (h : search buckets number = .error value) :
    ∃ i bucket, buckets[i]? = some bucket ∧ bucket.value = value ∧
      LiesIn buckets number.toNat i := by
  obtain ⟨front, bucket, back, rfl, hvalue, hle, hlt⟩ := exists_share_of_search h
  have hshare : (front ++ bucket :: back)[front.length]? = some bucket := by simp
  have hbefore : weightBefore (front ++ bucket :: back) front.length = totalWeight front := by
    rw [weightBefore, List.take_left]
  refine ⟨front.length, bucket, hshare, hvalue, ?_, ?_⟩
  · rw [hbefore]
    exact hle
  · rw [weightBefore_succ hshare, hbefore]
    exact hlt

/-- Of as many numbers in a row as all weights together, as many end at a share as its weight
says. -/
theorem card_endsAt {buckets : List Bucket} (hsize : totalWeight buckets < UInt64.size) {i : Nat}
    {bucket : Bucket} (h : buckets[i]? = some bucket) (start : Nat) :
    ((Finset.Ico start (start + totalWeight buckets)).filter fun n =>
      EndsAt buckets (.ofNat (n % totalWeight buckets)) i).card = bucket.weight.toNat := by
  have hperiodic : Function.Periodic
      (fun n => EndsAt buckets (.ofNat (n % totalWeight buckets)) i) (totalWeight buckets) := by
    intro n
    simp only [Nat.add_mod_right]
  have hshare : ((Finset.range (totalWeight buckets)).filter fun n =>
      EndsAt buckets (.ofNat (n % totalWeight buckets)) i) =
        Finset.Ico (weightBefore buckets i) (weightBefore buckets (i + 1)) := by
    ext n
    have hend := weightBefore_le buckets (i + 1)
    have hword : ∀ m, m < totalWeight buckets → (UInt64.ofNat m).toNat = m := fun m hm =>
      UInt64.toNat_ofNat_of_lt' (Nat.lt_trans hm hsize)
    rw [Finset.mem_filter, Finset.mem_range, Finset.mem_Ico, endsAt_iff]
    constructor
    · rintro ⟨hn, hlies⟩
      rwa [Nat.mod_eq_of_lt hn, hword n hn] at hlies
    · intro hlies
      have hn : n < totalWeight buckets := by omega
      rw [Nat.mod_eq_of_lt hn, hword n hn]
      exact ⟨hn, hlies⟩
  rw [Nat.filter_Ico_card_eq_of_periodic _ _ _ hperiodic, Nat.count_eq_card_filter_range, hshare,
    Nat.card_Ico, weightBefore_succ h, Nat.add_sub_cancel_left]

/-- A bucket number picks the share at an index: its remainder lies in that share and in no
other, its search ends there, and the value is that of the share. -/
structure PicksAt (distribution : Distribution) (number : UInt64) (i : Nat) (bucket : Bucket) :
    Prop where
  /-- The share is the one at the index. -/
  share : distribution.buckets[i]? = some bucket
  /-- The number picks the value of the share. -/
  pick : distribution.pick number = some bucket.value
  /-- The search ends at the share. -/
  ends : EndsAt distribution.buckets (number % distribution.total) i
  /-- The share is the only one in which the remainder lies. -/
  unique : ∀ j, LiesIn distribution.buckets (number.toNat % distribution.total.toNat) j ↔ j = i
  /-- Up to the share the search goes on, and holds what is left of the remainder behind the
  shares that it has passed, so no subtraction has gone below zero. -/
  held : ∀ j, j ≤ i → ∃ left, search (distribution.buckets.take j) (number % distribution.total) =
    .ok left ∧ left.toNat + weightBefore distribution.buckets j =
      number.toNat % distribution.total.toNat

/-- A distribution shares out bucket numbers exactly by its weights. -/
structure Exact (distribution : Distribution) : Prop where
  /-- The total is the sum of all weights. -/
  total : distribution.total.toNat =
    (distribution.buckets.map fun bucket => bucket.weight.toNat).sum
  /-- The total is positive. -/
  positive : 1 ≤ distribution.total.toNat
  /-- The total has 64 bits. -/
  bounded : distribution.total.toNat ≤ 2 ^ 64 - 1
  /-- Every bucket number picks the share in which it lies. -/
  picks : ∀ number : UInt64, ∃ i bucket, distribution.PicksAt number i bucket
  /-- Over a full period every share is picked as often as its weight says. -/
  period : ∀ i bucket, distribution.buckets[i]? = some bucket → ∀ start,
    ((Finset.Ico start (start + distribution.total.toNat)).filter fun n =>
      EndsAt distribution.buckets (.ofNat (n % distribution.total.toNat)) i).card =
        bucket.weight.toNat
  /-- A share without weight is never picked. -/
  never : ∀ i bucket, distribution.buckets[i]? = some bucket → bucket.weight = 0 →
    ∀ number, ¬ EndsAt distribution.buckets (number % distribution.total) i

/-- A bucket number picks the share in which it lies, if there is any weight at all. -/
theorem exists_picksAt {distribution : Distribution}
    (hsum : distribution.total.toNat = totalWeight distribution.buckets)
    (hne : distribution.total ≠ 0) (number : UInt64) :
    ∃ i bucket, distribution.PicksAt number i bucket := by
  have hmod : (number % distribution.total).toNat = number.toNat % distribution.total.toNat :=
    UInt64.toNat_mod _ _
  obtain ⟨value, hsearch⟩ := exists_search_eq_error (mod_total_lt hsum hne number)
  obtain ⟨i, bucket, hshare, rfl, hlies⟩ := exists_liesIn_of_search hsearch
  refine ⟨i, bucket, hshare, pick_eq_some_iff.mpr hsearch, endsAt_iff.mpr hlies, fun j => ?_,
    fun j hj => ?_⟩
  · rw [← hmod]
    constructor
    · intro hother
      exact hother.unique hlies
    · rintro rfl
      exact hlies
  · have hbefore := Nat.le_trans (weightBefore_mono distribution.buckets hj) hlies.1
    have hok := isOk_search_iff.mpr hbefore
    cases hleft : search (distribution.buckets.take j) (number % distribution.total) with
    | ok left => exact ⟨left, rfl, (search_eq_ok_iff.mp hleft).trans hmod⟩
    | error value =>
      rw [hleft] at hok
      cases hok

/-- Every distribution that compiles, whatever its kind and its weights, has the buckets that
it describes, and shares out bucket numbers exactly by their weights. -/
theorem exact_of_compile {declared : Option ValueType} {written : WrittenDistribution}
    {distribution : Distribution} (h : compile declared written = .ok distribution) :
    written.Describes declared distribution.buckets ∧ distribution.Exact := by
  obtain ⟨hshares, hsum, hne⟩ := compile_eq_ok_iff.mp h
  have hsize := distribution.total.toNat_lt_size
  have hpositive : 1 ≤ distribution.total.toNat :=
    Nat.pos_of_ne_zero fun hzero => hne (UInt64.toNat_inj.mp hzero)
  refine ⟨describes_of_shares hshares, hsum, hpositive, Nat.le_sub_one_of_lt hsize,
    exists_picksAt hsum hne, fun i bucket hshare start => ?_,
    fun i bucket hshare hweight number hends => ?_⟩
  · rw [hsum]
    exact card_endsAt (hsum ▸ hsize) hshare start
  · obtain ⟨hfirst, hlast⟩ := endsAt_iff.mp hends
    have hnone : bucket.weight.toNat = 0 := by
      rw [hweight]
      rfl
    rw [weightBefore_succ hshare, hnone] at hlast
    omega

/-- Two listed values with a weight, and one without between them: of five numbers in a row two
pick the first value and three the last. -/
theorem exact_of_compile_listed :
    ∃ distribution, compile none ⟨"weighted", .array [
        .object [("value", .number (.natural 10)), ("weight", .number (.natural 2))],
        .object [("value", .number (.natural 15)), ("weight", .number (.natural 0))],
        .object [("value", .number (.natural 20)), ("weight", .number (.natural 3))]]⟩ =
      .ok distribution ∧
      distribution = ⟨[⟨.number (.natural 10), 2⟩, ⟨.number (.natural 15), 0⟩,
        ⟨.number (.natural 20), 3⟩], 5⟩ ∧
      [5, 6, 7, 8, 9].map distribution.pick = [some (.number (.natural 10)),
        some (.number (.natural 10)), some (.number (.natural 20)), some (.number (.natural 20)),
        some (.number (.natural 20))] ∧
      WrittenDistribution.Describes none ⟨"weighted", .array [
        .object [("value", .number (.natural 10)), ("weight", .number (.natural 2))],
        .object [("value", .number (.natural 15)), ("weight", .number (.natural 0))],
        .object [("value", .number (.natural 20)), ("weight", .number (.natural 3))]]⟩
        distribution.buckets ∧ distribution.Exact := by
  have hcompile : compile none ⟨"weighted", .array [
      .object [("value", .number (.natural 10)), ("weight", .number (.natural 2))],
      .object [("value", .number (.natural 15)), ("weight", .number (.natural 0))],
      .object [("value", .number (.natural 20)), ("weight", .number (.natural 3))]]⟩ =
      .ok ⟨[⟨.number (.natural 10), 2⟩, ⟨.number (.natural 15), 0⟩, ⟨.number (.natural 20), 3⟩],
        5⟩ := by
    rfl
  exact ⟨_, hcompile, rfl, by rfl, exact_of_compile hcompile⟩

end Rulebook.Distribution
