import Rulebook.CompileError

/-!
# Value distributions

A distribution shares out values by weights. It is written as equal shares of the
values of a list, as weights of keys or of listed values, or as a probability of
true in steps of a thousandth. A bucket number picks the value into whose share
it falls when the shares are laid out one after the other, over and over.
-/

namespace Rulebook

/-- A distribution as a document writes it. -/
structure WrittenDistribution where
  /-- The name of the kind of distribution. -/
  kind : String
  /-- The shares, as the kind wants them; null if they are missing. -/
  arguments : Json

namespace WrittenDistribution

/-- A distribution whose fields are still being read. -/
structure Draft where
  /-- The name of the kind, if it has been read. -/
  kind : Option String
  /-- The shares. -/
  arguments : Json

/-- A field of a distribution. -/
def readField (draft : Draft) (name : String) (value : Json) : Except ShapeError Draft :=
  match name with
  | "type" => do
    let kind ← Shape.text value
    return { draft with kind := some kind }
  | "args" => .ok { draft with arguments := value }
  | _ => .ok draft

/-- A distribution, given as an object or as the list of its fields. Its kind must
be there. -/
def read (written : Json) : Except ShapeError WrittenDistribution := do
  let draft ← Shape.record .distribution ["type", "args"] ⟨none, .null⟩ readField written
  match draft.kind, written with
  | some kind, _ => return ⟨kind, draft.arguments⟩
  | none, .array _ => .error (.tooShort 0 .distribution 2)
  | none, _ => .error (.missing "type")

end WrittenDistribution

/-- A value and its share. -/
structure Bucket where
  /-- The value. -/
  value : Json
  /-- How many bucket numbers out of the total fall to it. -/
  weight : UInt64
deriving Inhabited

/-- Values with their shares. -/
structure Distribution where
  /-- The shares in the order in which they are laid out. -/
  buckets : List Bucket
  /-- All weights together. -/
  total : UInt64

namespace Distribution

/-- A total with one more weight, if 64 bits hold it. -/
def addWeight? (total : UInt64) (bucket : Bucket) : Option UInt64 :=
  if total.toNat + bucket.weight.toNat < UInt64.size then some (total + bucket.weight) else none

/-- All weights together, added up from the first one, if 64 bits hold every sum. -/
def total? (buckets : List Bucket) : Option UInt64 := buckets.foldlM addWeight? 0

/-- One step of the search for the share into which a number falls. It ends with the value
of the share, or goes on with what is left of the number behind the share. -/
def enter (number : UInt64) (bucket : Bucket) : Except Json UInt64 :=
  if number < bucket.weight then .error bucket.value else .ok (number - bucket.weight)

/-- The search for the share into which a number falls, the shares being laid out from zero
on. It ends early with the value of the share. -/
def search (buckets : List Bucket) (number : UInt64) : Except Json UInt64 :=
  buckets.foldlM enter number

/-- The value that a bucket number picks. -/
def pick (distribution : Distribution) (number : UInt64) : Option Json :=
  match search distribution.buckets (number % distribution.total) with
  | .error value => some value
  | .ok _ => none

/-- A weight is a non-negative integer. -/
def readWeight : Json → Except CompileError UInt64
  | .number (.natural n) => .ok n
  | found => .error (.distribution (.notWeight found))

/-- Equal shares. -/
def uniform : Json → Except CompileError (List Bucket)
  | .array values => .ok (values.map fun value => ⟨value, 1⟩)
  | _ => .error (.distribution .notValues)

/-- The value that a key stands for: one of the declared type, or a text. -/
def keyValue (declared : Option ValueType) (key : String) : Except CompileError Json :=
  match declared with
  | some expected => CompileError.readKey expected key
  | none => .ok (.string key)

/-- Weights given to keys, in key order. -/
def weightedKeys (declared : Option ValueType) :
    List (String × Json) → Except CompileError (List Bucket)
  | [] => .ok []
  | (key, written) :: rest => do
    let value ← keyValue declared key
    let weight ← readWeight written
    let others ← weightedKeys declared rest
    return ⟨value, weight⟩ :: others

/-- Weights given beside values. -/
def weightedEntries : List Json → Except CompileError (List Bucket)
  | [] => .ok []
  | .object fields :: rest => do
    let weight ← readWeight ((Dict.find? "weight" fields).getD .null)
    match Dict.find? "value" fields with
    | none => .error (.distribution .noValue)
    | some value => do
      let others ← weightedEntries rest
      return ⟨value, weight⟩ :: others
  | _ :: _ => .error (.distribution .notEntry)

/-- Weights of keys or of listed values. -/
def weighted (declared : Option ValueType) : Json → Except CompileError (List Bucket)
  | .object weights => weightedKeys declared weights
  | .array entries => weightedEntries entries
  | _ => .error (.distribution .notWeights)

/-- How many thousandths a probability has: its product with a thousand, rounded
to a binary64 number and then to the nearest whole number. -/
def thousandths (probability : Binary64) : Nat :=
  (probability.mul (Binary64.ofNat false 1000)).roundHalfUp

/-- A probability is a number from zero to one. -/
def probability? : Json → Option Binary64
  | .number n =>
    let x := n.toBinary64
    if 0 ≤ x.signedUnits ∧ x.signedUnits ≤ Binary64.one then some x else none
  | _ => none

/-- True with a probability, and false with the rest of a thousand. -/
def bernoulli (written : Json) : Except CompileError (List Bucket) :=
  match probability? written with
  | some probability =>
    let share := UInt64.ofNat (thousandths probability)
    .ok [⟨.bool true, share⟩, ⟨.bool false, 1000 - share⟩]
  | none => .error (.distribution .notProbability)

/-- The shares that a written distribution describes. -/
def shares (declared : Option ValueType) (written : WrittenDistribution) :
    Except CompileError (List Bucket) :=
  match written.kind with
  | "uniform" => uniform written.arguments
  | "weighted" => weighted declared written.arguments
  | "bernoulli" => bernoulli written.arguments
  | kind => .error (.distribution (.unknown kind))

/-- The distribution of given shares, whose total must be positive and fit into 64 bits. -/
def ofShares (buckets : List Bucket) : Except CompileError Distribution :=
  match total? buckets with
  | none => .error (.distribution .overflow)
  | some total =>
    if total = 0 then .error (.distribution .noWeight) else .ok ⟨buckets, total⟩

/-- The distribution that a document writes. -/
def compile (declared : Option ValueType) (written : WrittenDistribution) :
    Except CompileError Distribution := do
  let buckets ← shares declared written
  ofShares buckets

end Distribution

end Rulebook
