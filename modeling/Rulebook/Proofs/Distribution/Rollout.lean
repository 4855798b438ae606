import Rulebook.Proofs.Document.Output

/-!
# Rollouts

A probability rolls true out to as many owners of a thousand as it has thousandths. The share
of true only grows with the probability, and it is laid out first. Raising the probability of a
rule never takes true away from an owner. The least probability gives true to none, the greatest
one gives false to none.
-/

namespace Rulebook

namespace Distribution

/-- The distribution that gives true to some thousandths and false to the others. -/
def rollout (share : Nat) : Distribution :=
  ⟨[⟨.bool true, .ofNat share⟩, ⟨.bool false, .ofNat (1000 - share)⟩], 1000⟩

theorem toNat_ofNat_of_le {n : Nat} (h : n ≤ 1000) : (UInt64.ofNat n).toNat = n :=
  UInt64.toNat_ofNat_of_lt' (Nat.lt_of_le_of_lt h (by decide))

/-- An accepted probability compiles to its thousandths of true and the rest of false. -/
theorem compile_of_probability? {p : Binary64} {written : Json} (h : probability? written = some p)
    (declared : Option ValueType) :
    compile declared ⟨"bernoulli", written⟩ = .ok (rollout (thousandths p)) := by
  have hle := thousandths_le (units_of_probability? h).2
  have hrest : 1000 - UInt64.ofNat (thousandths p) = .ofNat (1000 - thousandths p) := by
    rw [← UInt64.toNat_inj, (toNat_thousandths h).2, toNat_ofNat_of_le (Nat.sub_le _ _)]
  have htotal : (rollout (thousandths p)).total ≠ 0 := by
    change (1000 : UInt64) ≠ 0
    decide
  refine compile_eq_ok_iff.mpr ⟨?_, ?_, htotal⟩
  · simp only [shares, bernoulli, h, hrest]
    rfl
  · rw [rollout, totalWeight_cons, totalWeight_cons, toNat_ofNat_of_le hle,
      toNat_ofNat_of_le (Nat.sub_le _ _), totalWeight, List.map_nil, List.sum_nil, Nat.add_zero,
      Nat.add_sub_cancel' hle]
    rfl

/-- The check of the declared type looks at true and false, not at their shares. -/
theorem checkShares_rollout (declared : Option ValueType) (share other : Nat) :
    Rule.checkShares declared (rollout share).buckets =
      Rule.checkShares declared (rollout other).buckets := rfl

/-- A rollout gives true exactly to the numbers below its share of a thousand. -/
theorem pick_rollout {share : Nat} (h : share ≤ 1000) (number : UInt64) :
    (rollout share).pick number = some (.bool (decide (number.toNat % 1000 < share))) := by
  have hmod : (number % 1000).toNat = number.toNat % 1000 := UInt64.toNat_mod _ _
  have hlt : number.toNat % 1000 < 1000 := Nat.mod_lt _ (by omega)
  have hshare := toNat_ofNat_of_le h
  have hrest := toNat_ofNat_of_le (Nat.sub_le 1000 share)
  refine pick_eq_some_iff.mpr ?_
  rw [rollout, search, List.foldlM_cons]
  by_cases htrue : number.toNat % 1000 < share
  · have henter : enter (number % 1000) ⟨.bool true, .ofNat share⟩ = .error (.bool true) :=
      enter_eq_error_iff.mpr ⟨by rw [hmod, hshare]; exact htrue, rfl⟩
    rw [henter, decide_eq_true htrue]
    rfl
  · have hleft : (UInt64.ofNat (number.toNat % 1000 - share)).toNat =
        number.toNat % 1000 - share := toNat_ofNat_of_le (by omega)
    have hpass : enter (number % 1000) ⟨.bool true, .ofNat share⟩ =
        .ok (.ofNat (number.toNat % 1000 - share)) :=
      enter_eq_ok_iff.mpr (by rw [hmod, hshare, hleft]; omega)
    have henter : enter (.ofNat (number.toNat % 1000 - share))
        ⟨.bool false, .ofNat (1000 - share)⟩ = .error (.bool false) :=
      enter_eq_error_iff.mpr ⟨by rw [hleft, hrest]; omega, rfl⟩
    rw [hpass, Except.ok_bind, List.foldlM_cons, henter, decide_eq_false htrue]
    rfl

end Distribution

/-- The rule with a probability of true in place of its value or distribution. -/
def WrittenRule.withRollout (rule : WrittenRule) (probability : Json) : WrittenRule :=
  { rule with variants := .multiple, distribution := some ⟨"bernoulli", probability⟩ }

/-- A rollout gives true to the owners whose numbers are below its share of a thousand, and
false to the others. -/
theorem Outcome.given_rollout {share : Nat} (h : share ≤ 1000) (lookup : Lookup)
    (hasher : Hasher) (ownerType salt : String) :
    (shared ownerType salt (.rollout share)).given lookup hasher =
      ((lookup (Rule.ownerProperty ownerType)).bind Json.text?).map fun owner =>
        .bool (decide ((hasher (textBytes (Rule.hashInput owner salt))).bucket.toNat % 1000 <
          share)) := by
  rw [given]
  cases (lookup (Rule.ownerProperty ownerType)).bind Json.text? with
  | none => rfl
  | some owner => exact Distribution.pick_rollout h _

namespace Rule

open Rulebook.Distribution (probability? rollout thousandths)

variable {registry : Registry} {declared : Option ValueType} {written : WrittenRule}
  {lookup : Lookup} {hasher : Hasher}

/-- What a rule with a rollout compiles to, and with what it compiles for any other accepted
probability. -/
theorem compile_withRollout {low : Json} {p : Binary64} (hlow : probability? low = some p)
    {rule : Rule} (h : compile registry declared (written.withRollout low) = .ok rule) :
    ∃ ownerType salt, rule.outcome = .shared ownerType salt (rollout (thousandths p)) ∧
      ∀ high q, probability? high = some q →
        compile registry declared (written.withRollout high) =
          .ok ⟨rule.matcher, .shared ownerType salt (rollout (thousandths q))⟩ := by
  obtain ⟨hmatcher, houtcome⟩ := compile_eq_ok h
  rcases houtcome with ⟨hsingle, -⟩ | ⟨-, hshared⟩
  · cases hsingle
  · obtain ⟨ownerType, salt, source, distribution, howner, hsalt, hsource, hdistribution, hcheck,
      houtcome⟩ := compileShared_eq_ok_iff.mp hshared
    cases hsource
    rw [Distribution.compile_of_probability? hlow] at hdistribution
    cases hdistribution
    refine ⟨ownerType, salt, houtcome, fun high q hhigh => ?_⟩
    rw [Distribution.checkShares_rollout declared _ (thousandths q)] at hcheck
    have hraised : compileShared declared (written.withRollout high) =
        .ok (.shared ownerType salt (rollout (thousandths q))) :=
      compileShared_eq_ok_iff.mpr ⟨ownerType, salt, _, _, howner, hsalt, rfl,
        Distribution.compile_of_probability? hhigh declared, hcheck, rfl⟩
    exact compile_of_outcome hmatcher (.multiple rfl hraised)

/-- A rule gives a value if its matcher holds and its outcome gives the value. -/
theorem result_run_eq_some_iff {rule : Rule} {value : Json} :
    (rule.run lookup hasher).result = .ok (some value) ↔
      rule.matcher.eval lookup = .ok true ∧ rule.outcome.given lookup hasher = some value := by
  rw [result_run, Except.map_eq_ok_iff]
  constructor
  · rintro ⟨matched, hmatched, hgiven⟩
    cases matched with
    | false => cases hgiven
    | true => exact ⟨hmatched, hgiven⟩
  · rintro ⟨hmatched, hgiven⟩
    exact ⟨true, hmatched, hgiven⟩

/-- A rule with a rollout gives true or false if its matcher holds and its owner's number is
below the share of a thousand or not. -/
theorem result_run_rollout_iff {share : Nat} (h : share ≤ 1000) {rule : Rule}
    {ownerType salt : String} (houtcome : rule.outcome = .shared ownerType salt (rollout share))
    (truth : Bool) :
    (rule.run lookup hasher).result = .ok (some (.bool truth)) ↔
      rule.matcher.eval lookup = .ok true ∧
        ∃ owner, (lookup (ownerProperty ownerType)).bind Json.text? = some owner ∧
          decide ((hasher (textBytes (hashInput owner salt))).bucket.toNat % 1000 < share) =
            truth := by
  rw [result_run_eq_some_iff, houtcome, Outcome.given_rollout h, Option.map_eq_some_iff]
  simp only [Json.bool.injEq]

/-- Raising a rollout never takes an owner out. Of two accepted probabilities the larger one has
no fewer thousandths, and at most a thousand, so both compile to a share of true and the rest of
false. A rule that gives true with the smaller one compiles with the larger one and still gives
true; with probability zero it never gives true, and with probability one never false. -/
theorem rollout_monotone (declared : Option ValueType) {low high : Json} {p q : Binary64}
    (hlow : probability? low = some p) (hhigh : probability? high = some q)
    (hle : p.signedUnits ≤ q.signedUnits) :
    (Distribution.IsThousandths p (thousandths p) ∧ Distribution.IsThousandths q (thousandths q) ∧
      thousandths p ≤ thousandths q ∧ thousandths q ≤ 1000) ∧
    Distribution.compile declared ⟨"bernoulli", low⟩ =
      .ok ⟨[⟨.bool true, .ofNat (thousandths p)⟩, ⟨.bool false, .ofNat (1000 - thousandths p)⟩],
        1000⟩ ∧
    Distribution.compile declared ⟨"bernoulli", high⟩ =
      .ok ⟨[⟨.bool true, .ofNat (thousandths q)⟩, ⟨.bool false, .ofNat (1000 - thousandths q)⟩],
        1000⟩ ∧
    ∀ registry (written : WrittenRule) rule,
      compile registry declared (written.withRollout low) = .ok rule →
      ∃ raised, compile registry declared (written.withRollout high) = .ok raised ∧
        ∀ lookup hasher,
          ((rule.run lookup hasher).result = .ok (some (.bool true)) →
            (raised.run lookup hasher).result = .ok (some (.bool true))) ∧
          (p.signedUnits = 0 → (rule.run lookup hasher).result ≠ .ok (some (.bool true))) ∧
          (p.signedUnits = Binary64.one →
            (rule.run lookup hasher).result ≠ .ok (some (.bool false))) := by
  obtain ⟨hlowUnits, hlowRange⟩ := Distribution.units_of_probability? hlow
  obtain ⟨hhighUnits, hhighRange⟩ := Distribution.units_of_probability? hhigh
  have hgrows : thousandths p ≤ thousandths q := Distribution.thousandths_mono (by omega)
  have hbound := Distribution.thousandths_le hhighRange
  have hlowBound := Distribution.thousandths_le hlowRange
  refine ⟨⟨Distribution.isThousandths p, Distribution.isThousandths q, hgrows, hbound⟩,
    Distribution.compile_of_probability? hlow declared,
    Distribution.compile_of_probability? hhigh declared, ?_⟩
  intro registry written rule hrule
  obtain ⟨ownerType, salt, houtcome, hcompile⟩ := compile_withRollout hlow hrule
  refine ⟨_, hcompile high q hhigh, fun lookup hasher => ⟨?_, ?_, ?_⟩⟩
  · intro htrue
    obtain ⟨hmatched, owner, howner, hbelow⟩ :=
      (result_run_rollout_iff hlowBound houtcome _).mp htrue
    refine (result_run_rollout_iff hbound rfl _).mpr ⟨hmatched, owner, howner, ?_⟩
    exact decide_eq_true (Nat.lt_of_lt_of_le (of_decide_eq_true hbelow) hgrows)
  · intro hzero htrue
    have hnone : thousandths p = 0 := Distribution.thousandths_of_zero (by omega)
    obtain ⟨-, owner, -, hbelow⟩ := (result_run_rollout_iff hlowBound houtcome _).mp htrue
    rw [hnone] at hbelow
    exact Nat.not_lt_zero _ (of_decide_eq_true hbelow)
  · intro hone hfalse
    have hall : thousandths p = 1000 := Distribution.thousandths_of_one (by omega)
    obtain ⟨-, owner, -, hnot⟩ := (result_run_rollout_iff hlowBound houtcome _).mp hfalse
    rw [hall] at hnot
    exact of_decide_eq_false hnot (Nat.mod_lt _ (by omega))

/-- A rule for a quarter of the users that is raised to all of them. The user of bucket 0 keeps
true, and the user of bucket 500 gets it. -/
theorem rollout_monotone_quarter :
    ∃ rule raised : Rule, ∃ low high : Json, ∃ early late : Digest,
      low = .number (.float ⟨false, twoPower 1072⟩) ∧ high = .number (.natural 1) ∧
      thousandths ⟨false, twoPower 1072⟩ = 250 ∧ early.bucket = 0 ∧ late.bucket = 500 ∧
      compile .empty none (WrittenRule.withRollout
        { WrittenRule.blank with ownerType := some "user", salt := some "s" } low) = .ok rule ∧
      compile .empty none (WrittenRule.withRollout
        { WrittenRule.blank with ownerType := some "user", salt := some "s" } high) = .ok raised ∧
      (∀ lookup hasher, (rule.run lookup hasher).result = .ok (some (.bool true)) →
        (raised.run lookup hasher).result = .ok (some (.bool true))) ∧
      (rule.run (fun _ => some (.string "u")) fun _ => early).result = .ok (some (.bool true)) ∧
      (raised.run (fun _ => some (.string "u")) fun _ => early).result = .ok (some (.bool true)) ∧
      (rule.run (fun _ => some (.string "u")) fun _ => late).result = .ok (some (.bool false)) ∧
      (raised.run (fun _ => some (.string "u")) fun _ => late).result =
        .ok (some (.bool true)) := by
  have hlow : probability? (.number (.float ⟨false, twoPower 1072⟩)) =
      some ⟨false, twoPower 1072⟩ := by decide +kernel
  have hhigh : probability? (.number (.natural 1)) = some ⟨false, Binary64.one⟩ := by
    decide +kernel
  have hquarter : thousandths ⟨false, twoPower 1072⟩ = 250 := by decide +kernel
  have hall : thousandths ⟨false, Binary64.one⟩ = 1000 := by decide +kernel
  have hrule : ∀ {probability p}, probability? probability = some p →
      compile .empty none (WrittenRule.withRollout
        { WrittenRule.blank with ownerType := some "user", salt := some "s" } probability) =
        .ok ⟨.all [], .shared "user" "s" (rollout (thousandths p))⟩ := fun h =>
    compile_of_outcome rfl (.multiple rfl
      (compileShared_eq_ok_iff.mpr ⟨_, _, _, _, rfl, rfl, rfl,
        Distribution.compile_of_probability? h none,
        checkShares_eq_ok_iff.mpr fun _ _ => rfl, rfl⟩))
  have hrun : ∀ {p share} (digest : Digest) (truth : Bool), thousandths p = share → share ≤ 1000 →
      decide (digest.bucket.toNat % 1000 < share) = truth →
        ((⟨.all [], .shared "user" "s" (rollout (thousandths p))⟩ : Rule).run
          (fun _ => some (.string "u")) fun _ => digest).result = .ok (some (.bool truth)) := by
    rintro p share digest truth rfl hshare hbelow
    exact (result_run_rollout_iff hshare rfl truth).mpr ⟨rfl, "u", rfl, hbelow⟩
  obtain ⟨-, -, -, hraise⟩ := rollout_monotone none hlow hhigh (by decide +kernel)
  obtain ⟨raised, hraised, hkeeps⟩ := hraise .empty _ _ (hrule hlow)
  rw [hrule hhigh] at hraised
  cases hraised
  have hearly := hrun ⟨0, 0, 0, 0, 0⟩ true hquarter (by decide) (by decide)
  exact ⟨_, _, _, _, ⟨0, 0, 0, 0, 0⟩, ⟨0xF4010000, 0, 0, 0, 0⟩, rfl, rfl, hquarter, by decide,
    by decide, hrule hlow, hrule hhigh, fun lookup hasher => (hkeeps lookup hasher).1, hearly,
    (hkeeps _ _).1 hearly,
    hrun _ false hquarter (by decide) (by decide), hrun _ true hall (by decide) (by decide)⟩

end Rule

end Rulebook
